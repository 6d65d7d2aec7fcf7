import RegisterMachine.Proofs.Machine.Safety

/-! Runs of a machine. A run with a budget follows the successful ticks, up to where control has left
the program, an instruction fails, or the budget is used up. -/

namespace RegisterMachine.Machine

/-- How a run without a bound comes to its end, behind `count` instructions. -/
def Runs (machine : Machine) (count : Nat) (after : Machine) (outcome : Outcome) : Prop :=
  outcome ≠ .unfinished ∧ after.ticks = machine.ticks + count ∧
    ∃ budget, machine.runFor budget = (after, outcome)

/-- How a run with a budget comes out at the state where it stops. -/
inductive Stops (state : Machine) : Machine → Outcome → Prop
  | done (isDone : state.isDone = true) : Stops state state .done
  | halted {after : Machine} {halt : Halt} (running : state.isDone = false)
      (failed : state.tick = (after, some halt)) : Stops state after (.halted halt)
  | unfinished : Stops state state .unfinished

section Steps

variable {machine after : Machine}

theorem place?_of_isDone (isDone : machine.isDone = true) : machine.place? = none := by
  cases loaded : machine.program with
  | none => rw [place?, loaded, Option.bind_none]
  | some program =>
      simp only [Machine.isDone, loaded, Bool.or_eq_true, decide_eq_true_eq] at isDone
      rw [place?, loaded, Option.bind_some, Program.opcode?]
      rcases isDone with negative | beyond
      · have below : machine.ip.toInt < 0 := Int64.lt_iff_toInt_lt.mp negative
        rw [if_neg (Int.not_le.mpr below)]
      · split
        · apply Array.getElem?_eq_none
          rw [Program.size] at beyond
          omega
        · rfl

theorem isDone_of_tick (step : machine.tick = (after, none)) : machine.isDone = false := by
  rw [Bool.eq_false_iff]
  intro isDone
  rw [Machine.tick, place?_of_isDone isDone] at step
  cases step

theorem IsReady.tick_cases {program : Program} (ready : machine.IsReady program)
    (running : machine.isDone = false) :
    (∃ after, machine.tick = (after, none)) ∨
      ∃ after fault, machine.tick = (after, some (.fault fault)) := by
  obtain ⟨opcode, found⟩ := place?_of_running ready running
  obtain ⟨_, _, ⟨_, _, _, ticked⟩ | ⟨_, _, ticked, _⟩⟩ := tick_of_place ready found
  · exact .inl ⟨_, ticked⟩
  · exact .inr ⟨_, _, ticked⟩

end Steps

section Budgets

variable {machine state after : Machine} {count : Nat}

theorem Ticks.runFor (ticks : machine.Ticks count state) (budget : Nat) :
    machine.runFor (count + budget) = state.runFor budget := by
  induction ticks generalizing budget with
  | zero => rw [Nat.zero_add]
  | succ earlier step induction =>
      rw [Nat.add_assoc, Nat.add_comm 1 budget, induction]
      simp only [Machine.runFor, isDone_of_tick step, Bool.false_eq_true, ↓reduceIte, step]

theorem runFor_of_isDone (isDone : machine.isDone = true) (budget : Nat) :
    machine.runFor budget = (machine, .done) := by
  cases budget with
  | zero => simp only [runFor, isDone, ↓reduceIte]
  | succ budget => simp only [runFor, isDone, ↓reduceIte]

theorem ticks_of_runFor {budget : Nat} {outcome : Outcome}
    (ended : machine.runFor budget = (after, outcome)) :
    ∃ count state, machine.Ticks count state ∧ state.Stops after outcome := by
  induction budget generalizing machine with
  | zero =>
      cases isDone : machine.isDone with
      | true =>
          obtain ⟨rfl, rfl⟩ := Prod.mk.inj ((runFor_of_isDone isDone 0).symm.trans ended)
          exact ⟨0, machine, .zero, .done isDone⟩
      | false =>
          simp only [runFor, isDone, Bool.false_eq_true, ↓reduceIte] at ended
          obtain ⟨rfl, rfl⟩ := Prod.mk.inj ended
          exact ⟨0, machine, .zero, .unfinished⟩
  | succ budget induction =>
      cases isDone : machine.isDone with
      | true =>
          obtain ⟨rfl, rfl⟩ := Prod.mk.inj ((runFor_of_isDone isDone _).symm.trans ended)
          exact ⟨0, machine, .zero, .done isDone⟩
      | false =>
          simp only [runFor, isDone, Bool.false_eq_true, ↓reduceIte] at ended
          split at ended
          · rename_i middle step
            obtain ⟨count, state, ticks, stops⟩ := induction ended
            exact ⟨count + 1, state, .cons step ticks, stops⟩
          · rename_i last halt failed
            obtain ⟨rfl, rfl⟩ := Prod.mk.inj ended
            exact ⟨0, machine, .zero, .halted isDone failed⟩

theorem runs_done_iff :
    machine.Runs count after .done ↔ machine.Ticks count after ∧ after.isDone = true := by
  constructor
  · rintro ⟨_, counted, budget, ended⟩
    obtain ⟨other, state, ticks, stops⟩ := ticks_of_runFor ended
    cases stops with
    | done isDone =>
        obtain rfl : count = other := Nat.add_left_cancel (counted.symm.trans ticks.ticks_eq)
        exact ⟨ticks, isDone⟩
  · rintro ⟨ticks, isDone⟩
    refine ⟨by simp, ticks.ticks_eq, count + 0, ?_⟩
    rw [ticks.runFor, runFor_of_isDone isDone]

theorem runs_fault_iff {fault : Fault} :
    machine.Runs count after (.halted (.fault fault)) ↔
      ∃ state, machine.Ticks count state ∧ state.isDone = false ∧
        state.tick = (after, some (.fault fault)) := by
  constructor
  · rintro ⟨_, counted, budget, ended⟩
    obtain ⟨other, state, ticks, stops⟩ := ticks_of_runFor ended
    cases stops with
    | halted running failed =>
        obtain ⟨⟨_, _, _, _, rfl⟩, _⟩ := reworks_of_fault failed
        obtain rfl : count = other := Nat.add_left_cancel (counted.symm.trans ticks.ticks_eq)
        exact ⟨state, ticks, running, failed⟩
  · rintro ⟨state, ticks, running, failed⟩
    obtain ⟨⟨_, _, _, _, rfl⟩, _⟩ := reworks_of_fault failed
    refine ⟨by simp, ticks.ticks_eq, count + 1, ?_⟩
    rw [ticks.runFor]
    simp only [runFor, running, Bool.false_eq_true, ↓reduceIte, failed]

/-- A run is done within a number of instructions, at fault in one of them, or not done behind them. -/
theorem IsReady.runs_or_ticks {program : Program} (ready : machine.IsReady program) (limit : Nat) :
    (∃ count state, count ≤ limit ∧ machine.Runs count state .done) ∨
      (∃ count state fault, count < limit ∧ machine.Runs count state (.halted (.fault fault))) ∨
      ∃ state, machine.Ticks limit state ∧ state.isDone = false := by
  induction limit with
  | zero =>
      cases isDone : machine.isDone with
      | true => exact .inl ⟨0, machine, Nat.le_refl 0, runs_done_iff.mpr ⟨.zero, isDone⟩⟩
      | false => exact .inr (.inr ⟨machine, .zero, isDone⟩)
  | succ limit induction =>
      rcases induction with
        ⟨count, state, within, ends⟩ | ⟨count, state, fault, within, ends⟩ | ⟨state, ticks, running⟩
      · exact .inl ⟨count, state, Nat.le_succ_of_le within, ends⟩
      · exact .inr (.inl ⟨count, state, fault, Nat.lt_succ_of_lt within, ends⟩)
      · rcases (ready.ticks ticks).tick_cases running with ⟨after, step⟩ | ⟨after, fault, failed⟩
        · cases isDone : after.isDone with
          | true =>
              have ends := runs_done_iff.mpr ⟨.succ ticks step, isDone⟩
              exact .inl ⟨limit + 1, after, Nat.le_refl _, ends⟩
          | false => exact .inr (.inr ⟨after, .succ ticks step, isDone⟩)
        · have ends := runs_fault_iff.mpr ⟨state, ticks, running, failed⟩
          exact .inr (.inl ⟨limit, after, fault, Nat.lt_succ_self limit, ends⟩)

end Budgets

end RegisterMachine.Machine
