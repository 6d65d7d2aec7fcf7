import RegisterMachine.Proofs.Machine.Safety
import RegisterMachine.Proofs.Machine.StackDiscipline

/-! Limits of the stack. A run under a limit goes along with the run without one until the latter puts
a value on a stack as deep as the limit. There the run under the limit stops. -/

namespace RegisterMachine.Machine

def withLimit (machine : Machine) (limit : Int) : Machine :=
  { machine with stack := { machine.stack with limit } }

namespace Effect

def withLimit (effect : Effect) (limit : Int) : Effect :=
  (effect.1.withLimit limit, effect.2)

end Effect

section Operations

variable (machine : Machine) (limit : Int)

theorem withLimit_push (value : Int32)
    (same : (machine.withLimit limit).stack.isFull = machine.stack.isFull) :
    (machine.withLimit limit).push value = (machine.push value).withLimit limit := by
  unfold push
  rw [same]
  split
  · rfl
  · rfl

theorem withLimit_popThen {use : Machine → Int32 → Effect}
    (same : ∀ machine value,
      use (withLimit machine limit) value = (use machine value).withLimit limit) :
    (machine.withLimit limit).popThen use = (machine.popThen use).withLimit limit := by
  obtain ⟨verbose, program, ip, registers, ⟨values, bound⟩, flags, console, ticks⟩ := machine
  cases values with
  | nil => rfl
  | cons value rest =>
      exact same ⟨verbose, program, ip, registers, ⟨rest, bound⟩, flags, console, ticks⟩ value

theorem withLimit_write (text : Bytes) (newline : Bool) :
    (machine.withLimit limit).write text newline =
      (machine.write text newline).withLimit limit := by
  have known : (machine.withLimit limit).console = machine.console := rfl
  simp only [write, known]
  split
  · rfl
  · rfl

theorem withLimit_read (register : Int) :
    (machine.withLimit limit).read register = (machine.read register).withLimit limit := by
  have known : (machine.withLimit limit).console = machine.console := rfl
  simp only [read, known]
  split
  · rfl
  · rfl

theorem withLimit_jumpIf (condition : Bool) (label : Bytes) :
    (machine.withLimit limit).jumpIf condition label =
      (machine.jumpIf condition label).withLimit limit := by
  have known : (machine.withLimit limit).program = machine.program := rfl
  simp only [jumpIf, known]
  split
  · split
    · rfl
    · rfl
  · rfl

end Operations

/-- A limit matters to an instruction only where it decides whether there is room for a value. -/
theorem withLimit_perform (machine : Machine) (limit : Int) (instruction : Instruction)
    (same : ∀ value, machine.pushed? instruction = some value →
      (machine.withLimit limit).stack.isFull = machine.stack.isFull) :
    (machine.withLimit limit).perform instruction =
      (machine.perform instruction).withLimit limit := by
  have sameTask : (machine.withLimit limit).task instruction = machine.task instruction := rfl
  have asks := machine.asks_task instruction
  rw [perform_eq_carryOut, perform_eq_carryOut, sameTask]
  generalize machine.task instruction = task at asks
  cases asks with
  | absent | unfit | divided | moved | compared | recorded => rfl
  | pushed _ pushes => exact withLimit_push machine limit _ (same _ pushes)
  | popped =>
      simp only [carryOut]
      exact withLimit_popThen machine limit fun after top => rfl
  | returned =>
      simp only [carryOut]
      exact withLimit_popThen machine limit fun after value => rfl
  | read => exact withLimit_read machine limit _
  | written => exact withLimit_write machine limit _ _
  | jumped => exact withLimit_jumpIf machine limit _ _
  | called =>
      simp only [carryOut, same _ rfl]
      split
      · rfl
      · exact withLimit_jumpIf { machine with stack := machine.stack.push _ } limit true _
  | looped => exact withLimit_jumpIf (machine.store _ _) limit _ _

theorem withLimit_tick (machine : Machine) (limit : Int)
    (same : ∀ instruction value, machine.instruction? = some instruction →
      machine.pushed? instruction = some value →
        (machine.withLimit limit).stack.isFull = machine.stack.isFull) :
    (machine.withLimit limit).tick = (machine.tick.1.withLimit limit, machine.tick.2) := by
  have place : (machine.withLimit limit).place? = machine.place? := rfl
  simp only [tick, place]
  cases found : machine.place? with
  | none => rfl
  | some opcode =>
      obtain ⟨lineNumber, line, held⟩ := opcode
      cases held with
      | none => rfl
      | some instruction =>
          have performed := withLimit_perform machine limit instruction fun value =>
            same instruction value (by rw [instruction?, found, Option.bind_some])
          simp only [execute, performed, Effect.withLimit]
          generalize machine.perform instruction = effect
          obtain ⟨after, outcome⟩ := effect
          cases outcome with
          | ok next => rfl
          | error cause => rfl

theorem withLimit_reset {machine ready : Machine} (reset : machine.reset = (ready, none))
    (limit : Int) : (machine.withLimit limit).reset = (ready.withLimit limit, none) := by
  have program : (machine.withLimit limit).program = machine.program := rfl
  simp only [Machine.reset, program] at reset ⊢
  split at reset
  · cases reset
  · obtain ⟨rfl, _⟩ := Prod.mk.inj reset
    rfl

theorem perform_of_isFull {machine : Machine} {instruction : Instruction} {value : Int32}
    (pushes : machine.pushed? instruction = some value) (full : machine.stack.isFull = true) :
    machine.perform instruction = (machine, .error .stackFull) := by
  rw [perform_eq_carryOut]
  rcases task_of_pushed? pushes with isTask | ⟨label, _, isTask, _⟩
  · simp only [isTask, carryOut, push, full, ↓reduceIte, fail]
  · simp only [isTask, carryOut, full, ↓reduceIte, fail]

theorem perform_of_room {machine : Machine} {instruction : Instruction} {value : Int32}
    {program : Program} (resolves : machine.Resolves program instruction)
    (pushes : machine.pushed? instruction = some value) (room : machine.stack.isFull = false) :
    ∃ after next, machine.perform instruction = (after, .ok next) := by
  rw [perform_eq_carryOut]
  rcases task_of_pushed? pushes with isTask | ⟨label, rfl, isTask, _⟩
  · simp [isTask, carryOut, push, room, proceed]
  · obtain ⟨address, known⟩ := Table.contains_eq_true_iff.mp (resolves.label label rfl)
    have target : program.label? label = some address := known
    simp [isTask, carryOut, room, jumpIf, resolves.loaded, target]

/-- A machine that goes beyond a limit with its next tick, since it has none. -/
structure Overflows (machine : Machine) (limit : Int) : Prop where
  level : (machine.stack.depth : Int) = limit
  pushes : ∃ instruction value, machine.instruction? = some instruction ∧
    machine.pushed? instruction = some value
  succeeds : ∃ after, machine.tick = (after, none)

/-- Whether a run without a limit does not overflow one within so many ticks. -/
def HasRoomFor (start : Machine) (limit : Int) (count : Nat) : Prop :=
  ∀ earlier < count, ∀ middle, start.Ticks earlier middle → ¬ middle.Overflows limit

/-- A machine without a limit to its stack, which is not deeper than a limit it might have. -/
structure Fits (machine : Machine) (program : Program) (limit : Int) : Prop where
  ready : machine.IsReady program
  unlimited : machine.stack.limit ≤ 0
  shallow : (machine.stack.depth : Int) ≤ limit

theorem isFull_of_unlimited {stack : Stack} (unlimited : stack.limit ≤ 0) :
    stack.isFull = false := by
  simp [Stack.isFull, Int.not_lt.mpr unlimited]

theorem isFull_withLimit_iff {machine : Machine} {limit : Int} (positive : 0 < limit) :
    (machine.withLimit limit).stack.isFull = true ↔ limit ≤ machine.stack.depth := by
  simp only [Stack.isFull, withLimit, positive, decide_true, Bool.true_and]
  exact decide_eq_true_iff

section Steps

variable {machine : Machine} {program : Program} {limit : Int}

theorem Fits.overflows (fits : machine.Fits program limit) {instruction : Instruction}
    {value : Int32} (found : machine.instruction? = some instruction)
    (pushes : machine.pushed? instruction = some value)
    (full : limit ≤ machine.stack.depth) : machine.Overflows limit := by
  refine ⟨Int.le_antisymm fits.shallow full, ⟨instruction, value, found, pushes⟩, ?_⟩
  have resolves := (fits.ready.resolves_instruction found).1
  obtain ⟨after, next, performed⟩ :=
    perform_of_room resolves pushes (isFull_of_unlimited fits.unlimited)
  exact ⟨after.advance next, tick_of_ok found performed⟩

theorem Fits.withLimit_tick (fits : machine.Fits program limit) (positive : 0 < limit)
    (room : ¬ machine.Overflows limit) :
    (machine.withLimit limit).tick = (machine.tick.1.withLimit limit, machine.tick.2) := by
  apply Machine.withLimit_tick
  intro instruction value found pushes
  rw [isFull_of_unlimited fits.unlimited, Bool.eq_false_iff]
  intro full
  exact room (fits.overflows found pushes ((isFull_withLimit_iff positive).mp full))

theorem Overflows.withLimit_tick (overflows : machine.Overflows limit) (positive : 0 < limit) :
    ∃ fault, fault.cause = .stackFull ∧
      (machine.withLimit limit).tick = (machine.withLimit limit, some (.fault fault)) := by
  obtain ⟨level, ⟨instruction, value, found, pushes⟩, _⟩ := overflows
  have full := (isFull_withLimit_iff positive).mpr (Int.le_of_eq level.symm)
  have performed : (machine.withLimit limit).perform instruction = _ :=
    perform_of_isFull pushes full
  exact ⟨_, rfl, tick_of_error found performed⟩

theorem Fits.tick {after : Machine} (fits : machine.Fits program limit)
    (room : ¬ machine.Overflows limit) (step : machine.tick = (after, none)) :
    after.Fits program limit := by
  obtain ⟨instruction, found, leaves⟩ := leaves_of_tick step
  refine ⟨fits.ready.tick step, leaves.limit_eq ▸ fits.unlimited, ?_⟩
  have shallow := fits.shallow
  generalize after.stack = stack at leaves
  cases leaves with
  | pushed pushes _ =>
      -- With as many values as the limit allows, this push would be an overflow.
      have below : ¬ limit ≤ machine.stack.depth :=
        fun full => room (fits.overflows found pushes full)
      simp only [Stack.push, Stack.depth, List.length_cons] at below ⊢
      omega
  | popped idle popped =>
      rw [Stack.eq_push_of_pop? popped] at shallow
      simp only [Stack.push, Stack.depth, List.length_cons] at shallow ⊢
      omega
  | untouched idle => exact shallow

end Steps

section Runs

variable {start : Machine} {program : Program} {limit : Int} {count : Nat}

theorem Fits.ticks {state : Machine} (fits : start.Fits program limit) (positive : 0 < limit)
    (ticks : start.Ticks count state) (room : start.HasRoomFor limit count) :
    (start.withLimit limit).Ticks count (state.withLimit limit) ∧ state.Fits program limit := by
  induction ticks with
  | zero => exact ⟨.zero, fits⟩
  | succ earlier step induction =>
      rename_i count middle after
      obtain ⟨limited, fitsThere⟩ := induction fun place before =>
        room place (Nat.lt_succ_of_lt before)
      have roomThere := room count (Nat.lt_succ_self count) middle earlier
      refine ⟨.succ limited ?_, fitsThere.tick roomThere step⟩
      rw [fitsThere.withLimit_tick positive roomThere, step]

theorem Fits.ticks_of_withLimit {limited : Machine} (fits : start.Fits program limit)
    (positive : 0 < limit) (ticks : (start.withLimit limit).Ticks count limited) :
    ∃ state, start.Ticks count state ∧ limited = state.withLimit limit ∧
      state.Fits program limit := by
  induction ticks with
  | zero => exact ⟨start, .zero, rfl, fits⟩
  | succ earlier step induction =>
      obtain ⟨middle, reached, rfl, fitsThere⟩ := induction
      have room : ¬ middle.Overflows limit := by
        intro overflows
        obtain ⟨fault, _, stopped⟩ := overflows.withLimit_tick positive
        cases step.symm.trans stopped
      have same := step.symm.trans (fitsThere.withLimit_tick positive room)
      obtain ⟨rfl, succeeded⟩ := Prod.mk.inj same
      have free : middle.tick = (middle.tick.1, none) := Prod.ext rfl succeeded.symm
      exact ⟨middle.tick.1, .succ reached free, rfl, fitsThere.tick room free⟩

theorem Fits.runFor (fits : start.Fits program limit) (positive : 0 < limit)
    (never : ∀ count state, start.Ticks count state → ¬ state.Overflows limit) (budget : Nat) :
    (start.withLimit limit).runFor budget =
      ((start.runFor budget).1.withLimit limit, (start.runFor budget).2) := by
  have done : ∀ machine : Machine, (machine.withLimit limit).isDone = machine.isDone :=
    fun machine => rfl
  induction budget generalizing start with
  | zero => simp only [Machine.runFor, done]
  | succ budget induction =>
      have room := never 0 start .zero
      simp only [Machine.runFor, done, fits.withLimit_tick positive room]
      cases start.isDone with
      | true => rfl
      | false =>
          simp only [Bool.false_eq_true, ↓reduceIte]
          generalize ticked : start.tick = result
          obtain ⟨after, halt⟩ := result
          cases halt with
          | some halt => rfl
          | none =>
              apply induction (fits.tick room ticked)
              intro count state ticks
              exact never (count + 1) state (.cons ticked ticks)

end Runs

theorem fits_of_reset {machine ready : Machine} (reset : machine.reset = (ready, none))
    {limit : Int} (positive : 0 < limit) :
    (ready.withLimit 0).Fits (machine.program.getD Program.empty) limit := by
  have isReady := isReady_of_reset (withLimit_reset reset 0)
  refine ⟨isReady, Int.le_refl 0, ?_⟩
  rw [eq_of_reset reset]
  exact Int.le_of_lt positive

/-- A run under a limit is the run without one, up to the first tick that puts a value on a stack as
deep as the limit. That tick is at fault and changes nothing. Where there is no such tick the two runs
end alike, and without a limit the stack is never full. -/
theorem limit_truncates {machine ready : Machine} (reset : machine.reset = (ready, none)) :
    (∀ limit : Int, 0 < limit →
      (∀ count state, (ready.withLimit 0).Ticks count state →
        (ready.withLimit 0).HasRoomFor limit count →
          (ready.withLimit limit).Ticks count (state.withLimit limit) ∧
          (state.stack.depth : Int) ≤ limit ∧
          (state.Overflows limit → ∃ fault, fault.cause = .stackFull ∧
            (state.withLimit limit).tick = (state.withLimit limit, some (.fault fault))) ∧
          (¬ state.Overflows limit →
            (state.withLimit limit).tick = (state.tick.1.withLimit limit, state.tick.2))) ∧
      (∀ count limited, (ready.withLimit limit).Ticks count limited →
        (limited.stack.depth : Int) ≤ limit ∧
          ∃ state, (ready.withLimit 0).Ticks count state ∧ limited = state.withLimit limit) ∧
      ((∀ count, (ready.withLimit 0).HasRoomFor limit count) → ∀ budget,
        (ready.withLimit limit).runFor budget =
          (((ready.withLimit 0).runFor budget).1.withLimit limit,
            ((ready.withLimit 0).runFor budget).2))) ∧
    (∀ limit, (machine.withLimit limit).reset = (ready.withLimit limit, none)) ∧
    (ready.stack.limit ≤ 0 → ∀ count state after fault, ready.Ticks count state →
      state.tick = (after, some (.fault fault)) → fault.cause ≠ .stackFull) := by
  refine ⟨?_, withLimit_reset reset, ?_⟩
  · intro limit positive
    have fits := fits_of_reset reset positive
    refine ⟨?_, ?_, ?_⟩
    · intro count state ticks room
      obtain ⟨limited, fitsThere⟩ := fits.ticks positive ticks room
      exact ⟨limited, fitsThere.shallow, fun overflows => overflows.withLimit_tick positive,
        fitsThere.withLimit_tick positive⟩
    · intro count limited ticks
      obtain ⟨state, reached, rfl, fitsThere⟩ := fits.ticks_of_withLimit positive ticks
      exact ⟨fitsThere.shallow, state, reached, rfl⟩
    · intro never
      apply fits.runFor positive
      intro count state ticks
      exact never (count + 1) count (Nat.lt_succ_self count) state ticks
  · intro unlimited count state after fault ticks failed isFull
    have full := (reworks_of_fault failed).2 isFull
    rw [isFull_of_unlimited (ticks.limit_eq ▸ unlimited)] at full
    cases full

/-- The routine of a call has no room for a value of its own under a limit of two. -/
theorem limit_truncates_nestedCall :
    ∃ ready state : Machine, (Machine.new (some nestedCall)).reset = (ready, none) ∧
      (ready.withLimit 2).Ticks 2 state ∧ state.stack.depth = 2 ∧
      ∃ fault, fault.cause = .stackFull ∧ state.tick = (state, some (.fault fault)) := by
  generalize start : (Machine.new (some nestedCall)).reset.1 = ready
  have facts : (Machine.new (some nestedCall)).reset.2 = none ∧
      (∀ earlier < 2, ((ready.withLimit 0).onward earlier).tick.2 = none) ∧
      (∀ earlier < 2, (((ready.withLimit 0).onward earlier).stack.depth : Int) ≠ 2) ∧
      ((ready.withLimit 0).onward 2).stack.depth = 2 ∧
      ((ready.withLimit 0).onward 2).tick.2 = none ∧
      ((ready.withLimit 0).onward 2).instruction? = some (.register (.known .push) 0) ∧
      ((ready.withLimit 0).onward 2).register? 0 = some 0 := by
    subst start
    decide +kernel
  obtain ⟨valid, succeeds, below, level, pushed, found, held⟩ := facts
  have reset : (Machine.new (some nestedCall)).reset = (ready, none) := Prod.ext start valid
  have room : (ready.withLimit 0).HasRoomFor 2 2 := by
    intro earlier before middle reached overflows
    rw [reached.eq_onward] at overflows
    exact below earlier before overflows.level
  have overflows : ((ready.withLimit 0).onward 2).Overflows 2 :=
    ⟨by rw [level]; rfl, ⟨_, 0, found, held⟩, ⟨_, Prod.ext rfl pushed⟩⟩
  obtain ⟨limited, _, stops, _⟩ :=
    ((limit_truncates reset).1 2 (by decide)).1 2 _ (ticks_onward succeeds) room
  exact ⟨ready, _, reset, limited, level, stops overflows⟩

end RegisterMachine.Machine
