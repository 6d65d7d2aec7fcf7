import RegisterMachine.Proofs.Machine.Execution

/-! What a tick changes, in any state. An instruction does not touch the instruction pointer, the ticks
or the program of itself, and it puts at most one value on the stack or takes at most one from it. -/

namespace RegisterMachine.Machine

def instruction? (machine : Machine) : Option Instruction :=
  machine.place?.bind Opcode.instruction

def advance (machine : Machine) (next : Int64) : Machine :=
  { machine with ip := next, ticks := machine.ticks + 1 }

/-- The machine behind so many ticks, which may have failed. -/
def onward (machine : Machine) : Nat → Machine
  | 0 => machine
  | count + 1 => (machine.onward count).tick.1

/-- Machines that differ at most in what instructions work on. -/
def Reworks (machine after : Machine) : Prop :=
  ∃ registers stack flags console, after = { machine with registers, stack, flags, console }

/-- The stack behind an instruction that has gone through. -/
inductive Leaves (machine : Machine) (instruction : Instruction) : Stack → Prop
  | pushed {value : Int32} (pushes : machine.pushed? instruction = some value)
      (room : machine.stack.isFull = false) : Leaves machine instruction (machine.stack.push value)
  | popped {value : Int32} {stack : Stack} (idle : machine.pushed? instruction = none)
      (found : machine.stack.pop? = some (value, stack)) : Leaves machine instruction stack
  | untouched (idle : machine.pushed? instruction = none) :
      Leaves machine instruction machine.stack

/-- What an instruction does to the stack, whether or not its registers and its label exist. -/
inductive Handles (machine : Machine) (instruction : Instruction) : Effect → Prop
  | ok {after : Machine} {next : Int64} (reworks : machine.Reworks after)
      (leaves : machine.Leaves instruction after.stack) :
      Handles machine instruction (after, .ok next)
  | error {after : Machine} {cause : FaultCause} (reworks : machine.Reworks after)
      (full : cause = .stackFull → machine.stack.isFull = true) :
      Handles machine instruction (after, .error cause)

section Operations

variable {machine : Machine} {instruction : Instruction}

theorem handles_ok (idle : machine.pushed? instruction = none) (registers : Array Int32)
    (flags : Flags) (console : Console) (next : Int64) :
    machine.Handles instruction ({ machine with registers, flags, console }, .ok next) :=
  .ok ⟨_, _, _, _, rfl⟩ (.untouched idle)

theorem handles_error (console : Console) {cause : FaultCause} (other : cause ≠ .stackFull) :
    machine.Handles instruction ({ machine with console }, .error cause) :=
  .error ⟨_, _, _, _, rfl⟩ fun full => absurd full other

theorem handles_push {value : Int32} (pushes : machine.pushed? instruction = some value) :
    machine.Handles instruction (machine.push value) := by
  unfold push
  split
  · rename_i full
    exact .error ⟨_, _, _, _, rfl⟩ fun _ => full
  · rename_i room
    exact .ok ⟨_, _, _, _, rfl⟩ (.pushed pushes (Bool.eq_false_iff.mpr room))

theorem handles_popThen {use : Machine → Int32 → Effect}
    (handles : ∀ value stack, machine.stack.pop? = some (value, stack) →
      machine.Handles instruction (use { machine with stack } value)) :
    machine.Handles instruction (machine.popThen use) := by
  unfold popThen
  split
  · rename_i value stack popped
    exact handles value stack popped
  · exact handles_error _ (by simp)

theorem handles_write (idle : machine.pushed? instruction = none) (text : Bytes)
    (newline : Bool) : machine.Handles instruction (machine.write text newline) := by
  unfold write
  split
  · exact handles_ok idle _ _ _ _
  · exact handles_error _ (by simp)

theorem handles_read (idle : machine.pushed? instruction = none) (register : Int) :
    machine.Handles instruction (machine.read register) := by
  unfold read
  split
  · exact handles_ok idle _ _ _ _
  · exact handles_error _ (by simp)

/-- A jump may come behind a change of the stack, as in a call. -/
theorem handles_jumpIf {after : Machine} (reworks : machine.Reworks after)
    (leaves : machine.Leaves instruction after.stack) (condition : Bool) (label : Bytes) :
    machine.Handles instruction (after.jumpIf condition label) := by
  unfold jumpIf
  split
  · split
    · exact .ok reworks leaves
    · exact .error reworks (by simp)
  · exact .ok reworks leaves

end Operations

theorem handles_perform (machine : Machine) (instruction : Instruction) :
    machine.Handles instruction (machine.perform instruction) := by
  obtain ⟨task, asks, effect⟩ := machine.exists_asks instruction
  rw [effect]
  cases asks with
  | absent | unfit | divided => exact handles_error _ (by simp)
  | moved isVerb => exact handles_ok (pushed?_of_verb isVerb (by simp)) _ _ _ _
  | compared isVerb => exact handles_ok (pushed?_of_verb isVerb (by simp)) _ _ _ _
  | recorded isVerb isOperation =>
      refine handles_ok (pushed?_of_verb isVerb ?_) _ _ _ _
      constructor
      · rintro rfl
        cases isOperation
      · rintro rfl
        cases isOperation
  | pushed _ pushes => exact handles_push pushes
  | popped =>
      simp only [carryOut]
      refine handles_popThen fun top stack popped => ?_
      exact .ok ⟨_, _, _, _, rfl⟩ (.popped rfl popped)
  | returned =>
      simp only [carryOut]
      refine handles_popThen fun value stack popped => ?_
      exact .ok ⟨_, _, _, _, rfl⟩ (.popped rfl popped)
  | read => exact handles_read rfl _
  | written isVerb =>
      rcases isVerb with isVerb | isVerb
      · exact handles_write (pushed?_of_verb isVerb (by simp)) _ _
      · exact handles_write (pushed?_of_verb isVerb (by simp)) _ _
  | jumped ordinary =>
      exact handles_jumpIf ⟨_, _, _, _, rfl⟩ (.untouched (pushed?_of_jump ordinary _)) _ _
  | called =>
      simp only [carryOut]
      split
      · rename_i full
        exact .error ⟨_, _, _, _, rfl⟩ fun _ => full
      · rename_i room
        refine handles_jumpIf ⟨_, _, _, _, rfl⟩ ?_ true _
        exact .pushed rfl (Bool.eq_false_iff.mpr room)
  | looped => exact handles_jumpIf ⟨_, _, _, _, rfl⟩ (.untouched rfl) _ _

theorem Leaves.limit_eq {machine : Machine} {instruction : Instruction} {stack : Stack}
    (leaves : machine.Leaves instruction stack) : stack.limit = machine.stack.limit := by
  cases leaves with
  | pushed => rfl
  | popped idle found => exact (keeps_of_pop? found).limit
  | untouched => rfl

section Ticking

variable {machine after : Machine}

theorem tick_of_ok {instruction : Instruction} {next : Int64}
    (found : machine.instruction? = some instruction)
    (performed : machine.perform instruction = (after, .ok next)) :
    machine.tick = (after.advance next, none) := by
  obtain ⟨⟨lineNumber, line, _⟩, place, rfl⟩ := Option.bind_eq_some_iff.mp found
  simp only [tick, place, execute, performed]
  rfl

theorem tick_of_error {instruction : Instruction} {cause : FaultCause}
    (found : machine.instruction? = some instruction)
    (performed : machine.perform instruction = (after, .error cause)) :
    machine.tick =
      (after,
        some (.fault { address := machine.ip, text := machine.format instruction, cause })) := by
  obtain ⟨⟨lineNumber, line, _⟩, place, rfl⟩ := Option.bind_eq_some_iff.mp found
  simp only [tick, place, execute, performed]

/-- Where there is no instruction, a tick changes nothing and is no fault. -/
theorem tick_of_instruction?_eq_none (missing : machine.instruction? = none) :
    ∃ halt, machine.tick = (machine, some halt) ∧ ∀ fault, halt ≠ .fault fault := by
  cases place : machine.place? with
  | none =>
      refine ⟨.noInstruction, ?_, by simp⟩
      simp only [tick, place]
  | some opcode =>
      obtain ⟨lineNumber, line, held⟩ := opcode
      rw [instruction?, place, Option.bind_some] at missing
      obtain rfl : held = none := missing
      refine ⟨.crash, ?_, by simp⟩
      simp only [tick, place]

/-- A tick succeeds exactly when there is an instruction that goes through. -/
theorem tick_eq_none_iff :
    machine.tick = (after, none) ↔
      ∃ instruction middle next, machine.instruction? = some instruction ∧
        machine.perform instruction = (middle, .ok next) ∧ after = middle.advance next := by
  constructor
  · intro step
    cases found : machine.instruction? with
    | none =>
        obtain ⟨halt, ticked, _⟩ := tick_of_instruction?_eq_none found
        cases step.symm.trans ticked
    | some instruction =>
        generalize performed : machine.perform instruction = effect
        obtain ⟨middle, outcome⟩ := effect
        cases outcome with
        | error cause => cases step.symm.trans (tick_of_error found performed)
        | ok next =>
            obtain ⟨rfl, _⟩ := Prod.mk.inj (step.symm.trans (tick_of_ok found performed))
            exact ⟨instruction, middle, next, rfl, performed, rfl⟩
  · rintro ⟨instruction, middle, next, found, performed, rfl⟩
    exact tick_of_ok found performed

theorem tick_eq_fault_iff {fault : Fault} :
    machine.tick = (after, some (.fault fault)) ↔
      ∃ instruction cause, machine.instruction? = some instruction ∧
        machine.perform instruction = (after, .error cause) ∧
        fault = { address := machine.ip, text := machine.format instruction, cause } := by
  constructor
  · intro failed
    cases found : machine.instruction? with
    | none =>
        obtain ⟨halt, ticked, noFault⟩ := tick_of_instruction?_eq_none found
        obtain ⟨_, same⟩ := Prod.mk.inj (failed.symm.trans ticked)
        exact absurd (Option.some.inj same).symm (noFault fault)
    | some instruction =>
        generalize performed : machine.perform instruction = effect
        obtain ⟨middle, outcome⟩ := effect
        cases outcome with
        | ok next => cases failed.symm.trans (tick_of_ok found performed)
        | error cause =>
            obtain ⟨rfl, same⟩ := Prod.mk.inj (failed.symm.trans (tick_of_error found performed))
            exact ⟨instruction, cause, rfl, performed, Halt.fault.inj (Option.some.inj same)⟩
  · rintro ⟨instruction, cause, found, performed, rfl⟩
    exact tick_of_error found performed

theorem reworks_of_tick (step : machine.tick = (after, none)) :
    after.ticks = machine.ticks + 1 ∧ after.verbose = machine.verbose := by
  obtain ⟨instruction, middle, next, found, performed, rfl⟩ := tick_eq_none_iff.mp step
  have handles := handles_perform machine instruction
  rw [performed] at handles
  cases handles with
  | ok reworks leaves =>
      obtain ⟨_, _, _, _, rfl⟩ := reworks
      exact ⟨rfl, rfl⟩

theorem leaves_of_tick (step : machine.tick = (after, none)) :
    ∃ instruction, machine.instruction? = some instruction ∧
      machine.Leaves instruction after.stack := by
  obtain ⟨instruction, middle, next, found, performed, rfl⟩ := tick_eq_none_iff.mp step
  have handles := handles_perform machine instruction
  rw [performed] at handles
  cases handles with
  | ok reworks leaves => exact ⟨instruction, found, leaves⟩

/-- An instruction at fault changes nothing but what instructions work on, and finds the stack full
only if it is. -/
theorem reworks_of_fault {fault : Fault} (failed : machine.tick = (after, some (.fault fault))) :
    machine.Reworks after ∧ (fault.cause = .stackFull → machine.stack.isFull = true) := by
  obtain ⟨instruction, cause, _, performed, rfl⟩ := tick_eq_fault_iff.mp failed
  have handles := handles_perform machine instruction
  rw [performed] at handles
  cases handles with
  | error reworks full => exact ⟨reworks, full⟩

theorem stack_of_pushed? {instruction : Instruction} {value : Int32}
    (found : machine.instruction? = some instruction)
    (pushes : machine.pushed? instruction = some value) (step : machine.tick = (after, none)) :
    after.stack = machine.stack.push value := by
  obtain ⟨again, same, leaves⟩ := leaves_of_tick step
  obtain rfl := Option.some.inj (found.symm.trans same)
  generalize after.stack = stack at leaves
  cases leaves with
  | pushed pushed room =>
      obtain rfl := Option.some.inj (pushes.symm.trans pushed)
      rfl
  | popped idle => cases pushes.symm.trans idle
  | untouched idle => cases pushes.symm.trans idle

theorem Ticks.cons {middle : Machine} {count : Nat} (step : machine.tick = (middle, none))
    (later : middle.Ticks count after) : machine.Ticks (count + 1) after := by
  induction later with
  | zero => exact .succ .zero step
  | succ earlier last induction => exact .succ induction last

theorem Ticks.ticks_eq {count : Nat} (ticks : machine.Ticks count after) :
    after.ticks = machine.ticks + count := by
  induction ticks with
  | zero => rfl
  | succ earlier step induction =>
      rw [(reworks_of_tick step).1, induction, Nat.add_assoc]

theorem Ticks.eq_onward {count : Nat} (ticks : machine.Ticks count after) :
    after = machine.onward count := by
  induction ticks with
  | zero => rfl
  | succ earlier step induction =>
      rw [onward, ← induction, step]

theorem ticks_onward {count : Nat}
    (succeeds : ∀ earlier < count, (machine.onward earlier).tick.2 = none) :
    machine.Ticks count (machine.onward count) := by
  induction count with
  | zero => exact .zero
  | succ count induction =>
      refine .succ (induction fun earlier before => succeeds earlier (Nat.lt_succ_of_lt before)) ?_
      exact Prod.ext rfl (succeeds count (Nat.lt_succ_self count))

theorem Ticks.limit_eq {count : Nat} (ticks : machine.Ticks count after) :
    after.stack.limit = machine.stack.limit := by
  induction ticks with
  | zero => rfl
  | succ earlier step induction =>
      obtain ⟨instruction, _, leaves⟩ := leaves_of_tick step
      exact leaves.limit_eq.trans induction

end Ticking

end RegisterMachine.Machine
