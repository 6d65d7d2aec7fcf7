import RegisterMachine.Proofs.Machine.Tasks

/-! What instructions can do. An instruction whose registers and label exist either succeeds and
keeps the frame of the machine, or is at fault and changes the console at most. -/

namespace RegisterMachine.Machine

/-- The machines that successful ticks lead to. -/
inductive Ticks (machine : Machine) : Nat → Machine → Prop
  | zero : Ticks machine 0 machine
  | succ {count : Nat} {middle after : Machine} (earlier : Ticks machine count middle)
      (step : middle.tick = (after, none)) : Ticks machine (count + 1) after

/-- What no instruction changes. -/
structure Keeps (machine after : Machine) : Prop where
  program : after.program = machine.program
  size : after.registers.size = machine.registers.size
  limit : after.stack.limit = machine.stack.limit

/-- The faults of an instruction whose registers and label exist. -/
inductive Expected (machine : Machine) (instruction : Instruction) : FaultCause → Prop
  | stackEmpty : Expected machine instruction .stackEmpty
  | stackFull (limited : 0 < machine.stack.limit) : Expected machine instruction .stackFull
  | divideByZero : Expected machine instruction .divideByZero
  | input (fault : InputFault) : Expected machine instruction (.input fault)
  | output : Expected machine instruction .output
  | instruction (unfit : ¬ instruction.Accepted) : Expected machine instruction .instruction

inductive IsSafe (machine : Machine) (instruction : Instruction) : Effect → Prop
  | ok {after : Machine} {next : Int64} (keeps : machine.Keeps after) :
      IsSafe machine instruction (after, .ok next)
  | error {console : Console} {cause : FaultCause} (expected : machine.Expected instruction cause) :
      IsSafe machine instruction ({ machine with console }, .error cause)

theorem Keeps.refl (machine : Machine) : machine.Keeps machine :=
  ⟨rfl, rfl, rfl⟩

theorem Keeps.trans {first second third : Machine} (before : first.Keeps second)
    (behind : second.Keeps third) : first.Keeps third :=
  ⟨behind.program.trans before.program, behind.size.trans before.size,
    behind.limit.trans before.limit⟩

theorem keeps_setRegister (machine : Machine) (register : Int) (value : Int32) :
    machine.Keeps (machine.setRegister register value) :=
  ⟨rfl, Array.size_setIfInBounds, rfl⟩

theorem keeps_store (machine : Machine) (register : Int) (result : Int32) :
    machine.Keeps (machine.store register result) :=
  ⟨rfl, Array.size_setIfInBounds, rfl⟩

theorem keeps_of_pop? {machine : Machine} {value : Int32} {stack : Stack}
    (popped : machine.stack.pop? = some (value, stack)) :
    machine.Keeps { machine with stack } := by
  unfold Stack.pop? at popped
  split at popped
  · cases popped
  · obtain ⟨rfl, rfl⟩ := Prod.mk.inj (Option.some.inj popped)
    exact ⟨rfl, rfl, rfl⟩

theorem limit_pos_of_isFull {stack : Stack} (full : stack.isFull = true) : 0 < stack.limit := by
  simp only [Stack.isFull, Bool.and_eq_true, decide_eq_true_eq] at full
  exact full.1

section Operations

variable {machine : Machine} {instruction : Instruction}

theorem isSafe_of_unfit (unfit : instruction.isAccepted = false) :
    machine.IsSafe instruction (machine.fail .instruction) :=
  .error (.instruction fun accepted => Bool.false_ne_true (unfit.symm.trans accepted))

theorem isSafe_push (value : Int32) : machine.IsSafe instruction (machine.push value) := by
  unfold push
  split
  · rename_i full
    exact .error (.stackFull (limit_pos_of_isFull full))
  · exact .ok ⟨rfl, rfl, rfl⟩

theorem isSafe_popThen {use : Machine → Int32 → Effect}
    (safe : ∀ after value, machine.Keeps after → machine.IsSafe instruction (use after value)) :
    machine.IsSafe instruction (machine.popThen use) := by
  unfold popThen
  split
  · rename_i value stack popped
    exact safe _ value (keeps_of_pop? popped)
  · exact .error .stackEmpty

theorem isSafe_write (text : Bytes) (newline : Bool) :
    machine.IsSafe instruction (machine.write text newline) := by
  unfold write
  split
  · exact .ok ⟨rfl, rfl, rfl⟩
  · exact .error .output

theorem isSafe_read (register : Int) : machine.IsSafe instruction (machine.read register) := by
  unfold read
  split
  · exact .ok ⟨rfl, Array.size_setIfInBounds, rfl⟩
  · exact .error (.input _)

/-- A jump to a label that exists does not fail. -/
theorem isSafe_jumpIf {after : Machine} (keeps : machine.Keeps after) {program : Program}
    (loaded : machine.program = some program) {label : Bytes}
    (known : program.labels.contains label = true) (condition : Bool) :
    machine.IsSafe instruction (after.jumpIf condition label) := by
  unfold jumpIf
  split
  · rw [keeps.program, loaded, Option.bind_some]
    split
    · exact .ok keeps
    · rename_i missing
      rw [Table.contains, show program.labels.get? label = none from missing] at known
      cases known
  · exact .ok keeps

end Operations

/-- Whether the registers and the label of an instruction exist. -/
structure Resolves (machine : Machine) (program : Program) (instruction : Instruction) : Prop where
  loaded : machine.program = some program
  registers : ∀ register ∈ instruction.registerList, (machine.register? register).isSome = true
  label : ∀ name, instruction.target? = some name → program.labels.contains name = true

/-- An instruction whose registers and label exist is safe. -/
theorem isSafe_perform {machine : Machine} {program : Program} {instruction : Instruction}
    (resolves : machine.Resolves program instruction) :
    machine.IsSafe instruction (machine.perform instruction) := by
  have loaded := resolves.loaded
  have label := resolves.label
  obtain ⟨task, asks, effect⟩ := machine.exists_asks instruction
  rw [effect]
  cases asks with
  | absent named missing =>
      have known := resolves.registers _ named
      rw [missing] at known
      cases known
  | unfit unfit => exact isSafe_of_unfit unfit
  | divided => exact .error .divideByZero
  | moved => exact .ok (keeps_setRegister machine _ _)
  | compared => exact .ok ⟨rfl, rfl, rfl⟩
  | recorded => exact .ok (keeps_store machine _ _)
  | pushed => exact isSafe_push _
  | popped =>
      simp only [carryOut]
      refine isSafe_popThen fun after top keeps => ?_
      exact .ok (keeps.trans (keeps_setRegister after _ top))
  | returned =>
      simp only [carryOut]
      exact isSafe_popThen fun after value keeps => .ok keeps
  | read => exact isSafe_read _
  | written => exact isSafe_write _ _
  | jumped => exact isSafe_jumpIf (Keeps.refl machine) loaded (label _ rfl) _
  | called =>
      -- A full stack is met before the jump, which then cannot fail.
      simp only [carryOut]
      split
      · rename_i full
        exact .error (.stackFull (limit_pos_of_isFull full))
      · refine isSafe_jumpIf ?_ loaded (label _ rfl) true
        exact ⟨rfl, rfl, rfl⟩
  | looped => exact isSafe_jumpIf (keeps_store machine _ _) loaded (label _ rfl) _

end RegisterMachine.Machine
