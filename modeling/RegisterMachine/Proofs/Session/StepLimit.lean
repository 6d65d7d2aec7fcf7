import RegisterMachine.Proofs.Machine.Run
import RegisterMachine.Session

/-! Runs of a session. A session goes along with the run of its machine, and breaks it off where the
limit of steps is reached. -/

namespace RegisterMachine.Session

def blame (session : Session) (reason : Reason) : RuntimeError where
  lineNumber := session.lineNumber?.getD 0
  reason := reason

/-- How a session ends that a reason has broken off, with its machine in a state. -/
def brokenOff (session : Session) (state : Machine) (reason : Reason) : Session × Outcome :=
  ({ session with machine := state }, .failed (blame { session with machine := state } reason))

/-- The step limit lets so many more instructions through. -/
def Allows (session : Session) (count : Nat) : Prop :=
  session.stepLimit ≤ 0 ∨ session.machine.ticks + count ≤ session.stepLimit

/-- A session whose machine has been made ready for its program. -/
structure IsReady (session : Session) (program : Program) : Prop where
  loaded : session.program = some program
  machine : session.machine.IsReady program
  verbose : session.machine.verbose = session.verbose

theorem isExhausted_eq_false_iff {session : Session} :
    session.isExhausted = false ↔ session.Allows 1 := by
  rw [isExhausted, Allows, Bool.and_eq_false_iff, decide_eq_false_iff_not, decide_eq_false_iff_not]
  omega

theorem isReady_of_reset {session ready : Session} {program : Program}
    (loaded : session.program = some program) (reset : session.reset = (ready, none)) :
    ready.IsReady program ∧ ready.machine.ticks = 0 ∧ ready.stepLimit = session.stepLimit := by
  have parts : ({ session with machine := session.loaded.reset.1 }, session.loaded.reset.2) =
      (ready, none) := reset
  obtain ⟨rfl, noDefect⟩ := Prod.mk.inj parts
  have machineReset : session.loaded.reset = (session.loaded.reset.1, none) :=
    Prod.ext rfl noDefect
  have isReady := Machine.isReady_of_reset machineReset
  have same : session.loaded.program.getD Program.empty = program := by
    rw [Session.loaded, loaded, Option.getD_some]
  rw [same] at isReady
  refine ⟨⟨loaded, isReady, ?_⟩, ?_, rfl⟩
  · rw [Machine.eq_of_reset machineReset]
    rfl
  · rw [Machine.eq_of_reset machineReset]

section Steps

variable {session : Session} {program : Program} {after : Machine}

theorem IsReady.tick_eq (ready : session.IsReady program) :
    session.tick =
      if session.machine.isDone then (session, .done)
      else if session.isExhausted then (session, .failed (session.blame .stepLimit))
      else
        match session.machine.tick with
        | (machine, none) => ({ session with machine }, .stepped)
        | (machine, some .noInstruction) =>
            ({ session with machine }, .failed (session.blame .noInstruction))
        | (machine, some (.fault fault)) =>
            ({ session with machine }, .failed (session.blame (.fault fault)))
        | (machine, some .crash) => ({ session with machine }, .crashed) := by
  have same : { session.machine with verbose := session.verbose } = session.machine := by
    rw [← ready.verbose]
  have line : session.lineNumber? = some (session.lineNumber?.getD 0) := by
    simp only [Session.lineNumber?, ready.loaded]
    split
    · rfl
    · rfl
  unfold Session.tick
  rw [line]
  simp only [same]
  rfl

theorem IsReady.tick_of_isDone (ready : session.IsReady program)
    (isDone : session.machine.isDone = true) : session.tick = (session, .done) := by
  rw [ready.tick_eq, if_pos isDone]

theorem IsReady.tick_of_exhausted (ready : session.IsReady program)
    (running : session.machine.isDone = false) (exhausted : ¬ session.Allows 1) :
    session.tick = (session, .failed (session.blame .stepLimit)) := by
  rw [← isExhausted_eq_false_iff, Bool.not_eq_false] at exhausted
  simp only [ready.tick_eq, running, exhausted, Bool.false_eq_true, ↓reduceIte]

theorem IsReady.tick_of_step (ready : session.IsReady program) (allows : session.Allows 1)
    (step : session.machine.tick = (after, none)) :
    session.tick = ({ session with machine := after }, .stepped) := by
  have remains := isExhausted_eq_false_iff.mpr allows
  simp only [ready.tick_eq, Machine.isDone_of_tick step, remains, step, Bool.false_eq_true,
    ↓reduceIte]

theorem IsReady.tick_of_fault {fault : Fault} (ready : session.IsReady program)
    (allows : session.Allows 1) (running : session.machine.isDone = false)
    (failed : session.machine.tick = (after, some (.fault fault))) :
    session.tick =
      ({ session with machine := after },
        .failed (blame { session with machine := after } (.fault fault))) := by
  have remains := isExhausted_eq_false_iff.mpr allows
  simp only [ready.tick_eq, running, remains, failed, Bool.false_eq_true, ↓reduceIte]
  -- The instruction pointer is still at the instruction at fault.
  obtain ⟨⟨_, _, _, _, rfl⟩, _⟩ := Machine.reworks_of_fault failed
  rfl

theorem IsReady.step (ready : session.IsReady program)
    (step : session.machine.tick = (after, none)) :
    IsReady { session with machine := after } program where
  loaded := ready.loaded
  machine := ready.machine.tick step
  verbose := (Machine.reworks_of_tick step).2.trans ready.verbose

end Steps

section Runs

variable {session : Session} {program : Program} {state : Machine} {count budget : Nat}

theorem Allows.of_le {fewer : Nat} (allows : session.Allows count) (le : fewer ≤ count) :
    session.Allows fewer := by
  simp only [Allows] at allows ⊢
  omega

theorem allows_add_iff {more : Nat} (ticks : session.machine.Ticks count state) :
    Allows { session with machine := state } more ↔ session.Allows (count + more) := by
  have counted := ticks.ticks_eq
  simp only [Allows, counted]
  omega

theorem IsReady.ticks (ready : session.IsReady program)
    (ticks : session.machine.Ticks count state) :
    IsReady { session with machine := state } program := by
  induction ticks with
  | zero => exact ready
  | succ earlier step induction => exact induction.step step

/-- A session follows its machine as far as the limit lets it. -/
theorem IsReady.runFor_of_ticks (ready : session.IsReady program)
    (ticks : session.machine.Ticks count state) (allows : session.Allows count) (budget : Nat) :
    session.runFor (count + budget) = { session with machine := state }.runFor budget := by
  induction ticks generalizing budget with
  | zero => rw [Nat.zero_add]
  | succ earlier step induction =>
      have allowsStep := (allows_add_iff earlier).mpr allows
      rw [Nat.add_assoc, Nat.add_comm 1 budget, induction (allows.of_le (Nat.le_succ _))]
      simp only [runFor, (ready.ticks earlier).tick_of_step allowsStep step]

theorem IsReady.runFor_of_done (ready : session.IsReady program) (allows : session.Allows count)
    (ends : session.machine.Runs count state .done) (enough : count < budget) :
    session.runFor budget = ({ session with machine := state }, .done) := by
  obtain ⟨ticks, isDone⟩ := Machine.runs_done_iff.mp ends
  obtain ⟨rest, rfl⟩ := Nat.exists_eq_add_of_lt enough
  rw [Nat.add_assoc, ready.runFor_of_ticks ticks allows]
  simp only [runFor, (ready.ticks ticks).tick_of_isDone isDone]

theorem IsReady.runFor_of_fault {fault : Fault} (ready : session.IsReady program)
    (allows : session.Allows (count + 1))
    (ends : session.machine.Runs count state (.halted (.fault fault))) (enough : count < budget) :
    session.runFor budget = session.brokenOff state (.fault fault) := by
  obtain ⟨last, ticks, running, failed⟩ := Machine.runs_fault_iff.mp ends
  obtain ⟨rest, rfl⟩ := Nat.exists_eq_add_of_lt enough
  have allowsStep := (allows_add_iff ticks).mpr allows
  rw [Nat.add_assoc, ready.runFor_of_ticks ticks (allows.of_le (Nat.le_succ count))]
  simp only [runFor, (ready.ticks ticks).tick_of_fault allowsStep running failed]
  rfl

theorem IsReady.runFor_of_exhausted (ready : session.IsReady program)
    (allows : session.Allows count) (exhausted : ¬ session.Allows (count + 1))
    (ticks : session.machine.Ticks count state) (running : state.isDone = false)
    (enough : count < budget) :
    session.runFor budget = session.brokenOff state .stepLimit := by
  obtain ⟨rest, rfl⟩ := Nat.exists_eq_add_of_lt enough
  rw [← allows_add_iff ticks] at exhausted
  rw [Nat.add_assoc, ready.runFor_of_ticks ticks allows]
  simp only [runFor, (ready.ticks ticks).tick_of_exhausted running exhausted]
  rfl

theorem IsReady.ends_within {limit : Nat} (ready : session.IsReady program)
    (allows : session.Allows limit) (exhausted : ¬ session.Allows (limit + 1))
    (enough : limit < budget) :
    (session.runFor budget).2 ≠ .unfinished ∧
      (session.runFor budget).1.machine.ticks ≤ session.machine.ticks + limit := by
  rcases ready.machine.runs_or_ticks limit with
    ⟨count, state, within, ends⟩ | ⟨count, state, fault, within, ends⟩ | ⟨state, ticks, running⟩
  · rw [ready.runFor_of_done (allows.of_le within) ends (by omega)]
    refine ⟨by simp, ?_⟩
    have counted := ends.2.1
    simp only
    omega
  · rw [ready.runFor_of_fault (allows.of_le within) ends (by omega)]
    refine ⟨by simp [brokenOff], ?_⟩
    have counted := ends.2.1
    simp only [brokenOff]
    omega
  · rw [ready.runFor_of_exhausted allows exhausted ticks running enough]
    exact ⟨by simp [brokenOff], Nat.le_of_eq ticks.ticks_eq⟩

end Runs

/-- A run under a step limit comes to an end within it. It ends as the run of the machine does if
that is done within the limit or at fault before it, and otherwise it is broken off at the limit.
Without a limit it ends as the run of the machine does. -/
theorem stepLimit_truncates {session ready : Session} {program : Program}
    (loaded : session.program = some program) (reset : session.reset = (ready, none)) :
    (∀ limit : Nat, 0 < limit → session.stepLimit = limit → ∀ budget, limit < budget →
      ((ready.runFor budget).2 ≠ .unfinished ∧
        (ready.runFor budget).1.machine.ticks ≤ limit) ∧
      (∀ count state, count ≤ limit → ready.machine.Runs count state .done →
        ready.runFor budget = ({ ready with machine := state }, .done)) ∧
      (∀ count state fault, count < limit →
        ready.machine.Runs count state (.halted (.fault fault)) →
          ready.runFor budget = ready.brokenOff state (.fault fault)) ∧
      ((∀ count state, count ≤ limit → ¬ ready.machine.Runs count state .done) →
        (∀ count state fault, count < limit →
          ¬ ready.machine.Runs count state (.halted (.fault fault))) →
          ∃ state, ready.machine.Ticks limit state ∧ state.ticks = limit ∧
            ready.runFor budget = ready.brokenOff state .stepLimit)) ∧
    (session.stepLimit ≤ 0 → ∀ count state budget, count < budget →
      (ready.machine.Runs count state .done →
        ready.runFor budget = ({ ready with machine := state }, .done)) ∧
      ∀ fault, ready.machine.Runs count state (.halted (.fault fault)) →
        ready.runFor budget = ready.brokenOff state (.fault fault)) := by
  obtain ⟨isReady, fresh, same⟩ := isReady_of_reset loaded reset
  constructor
  · intro limit positive isLimit budget enough
    have allows : ready.Allows limit := by
      simp only [Allows, fresh, same, isLimit]
      omega
    have exhausted : ¬ ready.Allows (limit + 1) := by
      simp only [Allows, fresh, same, isLimit]
      omega
    refine ⟨?_, ?_, ?_, ?_⟩
    · have ends := isReady.ends_within allows exhausted enough
      rwa [fresh, Nat.zero_add] at ends
    · intro count state within ends
      exact isReady.runFor_of_done (allows.of_le within) ends (by omega)
    · intro count state fault within ends
      exact isReady.runFor_of_fault (allows.of_le within) ends (by omega)
    · intro notDone noFault
      rcases isReady.machine.runs_or_ticks limit with
        ⟨count, state, within, ends⟩ | ⟨count, state, fault, within, ends⟩ | ⟨state, ticks, running⟩
      · exact absurd ends (notDone count state within)
      · exact absurd ends (noFault count state fault within)
      · have counted := ticks.ticks_eq
        rw [fresh, Nat.zero_add] at counted
        exact ⟨state, ticks, counted,
          isReady.runFor_of_exhausted allows exhausted ticks running enough⟩
  · intro unlimited count state budget enough
    have allows : ∀ count, ready.Allows count := fun count => .inl (same ▸ unlimited)
    exact ⟨fun ends => isReady.runFor_of_done (allows count) ends enough,
      fun fault ends => isReady.runFor_of_fault (allows (count + 1)) ends enough⟩

def endless : Program where
  opcodes := #[
    ⟨1, utf8 "again: inc a", some (.register (.known .inc) 0)⟩,
    ⟨2, utf8 "jmp again", some (.label (.known .jmp) (utf8 "again"))⟩]
  registers := [utf8 "a"]
  labels := Table.ofList [(utf8 "again", 0)]

theorem stepLimit_truncates_endless :
    ∃ ready : Session, ({ new with program := some endless, stepLimit := 3 } : Session).reset =
        (ready, none) ∧
      ∀ budget, 3 < budget → ∃ state : Machine, state.ticks = 3 ∧ state.register? 0 = some 2 ∧
        ready.runFor budget =
          ({ ready with machine := state }, .failed { lineNumber := 2, reason := .stepLimit }) := by
  generalize start : ({ new with program := some endless, stepLimit := 3 } : Session) = session
  generalize restart : session.reset.1 = ready
  have facts : session.reset.2 = none ∧
      (∀ earlier < 4, (ready.machine.onward earlier).tick.2 = none) ∧
      (∀ earlier < 4, (ready.machine.onward earlier).isDone = false) ∧
      (ready.machine.onward 3).register? 0 = some 2 ∧
      (blame { ready with machine := ready.machine.onward 3 } .stepLimit).lineNumber = 2 := by
    subst restart start
    decide +kernel
  obtain ⟨valid, succeeds, running, held, line⟩ := facts
  have reset : session.reset = (ready, none) := Prod.ext restart valid
  have limit : session.stepLimit = (3 : Nat) := by
    subst start
    rfl
  have loaded : session.program = some endless := by
    subst start
    rfl
  refine ⟨ready, reset, fun budget enough => ?_⟩
  obtain ⟨_, _, _, otherwise⟩ :=
    (stepLimit_truncates loaded reset).1 3 (by decide) limit budget enough
  have notDone : ∀ count state, count ≤ 3 → ¬ ready.machine.Runs count state .done := by
    intro count state within ends
    obtain ⟨ticks, isDone⟩ := Machine.runs_done_iff.mp ends
    rw [ticks.eq_onward, running count (Nat.lt_succ_of_le within)] at isDone
    cases isDone
  have noFault : ∀ count state fault, count < 3 →
      ¬ ready.machine.Runs count state (.halted (.fault fault)) := by
    intro count state fault within ends
    obtain ⟨last, ticks, _, failed⟩ := Machine.runs_fault_iff.mp ends
    have succeeded := succeeds count (Nat.lt_succ_of_lt within)
    rw [← ticks.eq_onward, failed] at succeeded
    cases succeeded
  obtain ⟨state, ticks, three, ends⟩ := otherwise notDone noFault
  obtain rfl := ticks.eq_onward
  refine ⟨_, three, held, ends.trans ?_⟩
  rw [brokenOff, blame, ← line]
  rfl

end RegisterMachine.Session
