import RegisterMachine.Expression.Lookups
import RegisterMachine.Proofs.Machine.InstructionTable

/-! How often a loop runs. A loop around a body that neither jumps nor touches the counter goes
round as often as the counter says, and at least once; from the least number it counts down all the
way from the greatest. -/

namespace RegisterMachine

namespace Program

/-- The places from an address to another, of which the last goes back to the first while the
counter is positive, and the others neither send control elsewhere nor give the counter a value. -/
structure HasLoop (program : Program) (first last : Int64) (counter : Int) (label : Bytes) :
    Prop where
  ordered : first ≤ last
  back : program.instruction? last.toInt =
    some (.registerLabel (.known .loop) counter label)
  bound : program.label? label = some first.toInt
  body : ∀ address instruction, first.toInt ≤ address → address < last.toInt →
    program.instruction? address = some instruction →
      instruction.isTransfer = false ∧ instruction.destination? ≠ some counter

end Program

namespace Machine

/-- How often a loop runs whose counter holds a number. -/
def passes (n : Int32) : Nat :=
  if 1 ≤ n.toInt then n.toInt.toNat else if n.toInt = -2147483648 then 2147483648 else 1

/-- What the counter of a loop holds in the end. -/
def remainder (n : Int32) : Int32 :=
  if 1 ≤ n.toInt ∨ n.toInt = -2147483648 then 0 else n - 1

theorem passes_eq (n : Int32) :
    passes n = if 0 < (n - 1).toInt then passes (n - 1) + 1 else 1 := by
  have lower : -2147483648 ≤ n.toInt := n.le_toInt
  have upper : n.toInt < 2147483648 := n.toInt_lt
  have counted := toInt_predecessor n
  unfold passes
  split at counted
  · simp [*]
  · grind

theorem remainder_eq (n : Int32) :
    remainder n = if 0 < (n - 1).toInt then remainder (n - 1) else n - 1 := by
  have lower : -2147483648 ≤ n.toInt := n.le_toInt
  have counted := toInt_predecessor n
  by_cases positive : 0 < (n - 1).toInt
  · -- A counter that stays positive ends at zero, now and in the next round.
    have now : 1 ≤ n.toInt ∨ n.toInt = -2147483648 := by grind
    rw [if_pos positive, remainder, remainder, if_pos now, if_pos (.inl positive)]
  · rw [if_neg positive, remainder]
    split
    · apply Int32.toInt_inj.mp
      rw [Int32.toInt_zero]
      grind
    · rfl

def span (first last : Int64) : Nat :=
  (last.toInt - first.toInt + 1).toNat

def IsWithin (machine : Machine) (first last : Int64) : Prop :=
  first ≤ machine.ip ∧ machine.ip ≤ last

/-- Whether no tick fails before control leaves the places from an address to another. -/
def IsSmooth (machine : Machine) (first last : Int64) : Prop :=
  ∀ count, (∀ earlier ≤ count, (machine.onward earlier).IsWithin first last) →
    (machine.onward count).tick.2 = none

/-- A machine at a place of a loop, counted from the first, with a number in the counter. -/
structure AtLoop (machine : Machine) (program : Program) (first : Int64) (counter : Int)
    (offset : Nat) (value : Int32) : Prop where
  loaded : machine.program = some program
  place : machine.ip.toInt = first.toInt + offset
  held : machine.register? counter = some value

/-- A run of a number of rounds through all places of a loop in their order, at the end of which
control is behind the loop and the flags tell of what is left in the counter. -/
structure GoesRound (machine : Machine) (first last : Int64) (counter : Int) (rounds : Nat)
    (rest : Int32) : Prop where
  place : ∀ count < rounds * span first last,
    (machine.onward count).ip.toInt = first.toInt + (count % span first last : Nat)
  smooth : ∀ count < rounds * span first last, (machine.onward count).tick.2 = none
  ip : (machine.onward (rounds * span first last)).ip = last + 1
  held : (machine.onward (rounds * span first last)).register? counter = some rest
  flags : (machine.onward (rounds * span first last)).flags = Flags.ofResult rest.toInt

section Loop

variable {program : Program} {first last : Int64} {counter : Int} {label : Bytes}
  {machine after : Machine} {offset : Nat} {value : Int32}

theorem IsSmooth.onward (smooth : machine.IsSmooth first last) {count : Nat}
    (within : ∀ earlier < count, (machine.onward earlier).IsWithin first last) :
    (machine.onward count).IsSmooth first last := by
  intro later stays
  rw [onward_add]
  apply smooth
  intro earlier before
  by_cases sooner : earlier < count
  · exact within earlier sooner
  · have there := stays (earlier - count) (by omega)
    rwa [onward_add, Nat.add_sub_cancel' (Nat.not_lt.mp sooner)] at there

theorem goesRound_zero {rest : Int32} (ip : machine.ip = last + 1)
    (held : machine.register? counter = some rest)
    (flags : machine.flags = Flags.ofResult rest.toInt) :
    machine.GoesRound first last counter 0 rest := by
  constructor
  · simp
  · simp
  · rw [Nat.zero_mul]
    exact ip
  · rw [Nat.zero_mul]
    exact held
  · rw [Nat.zero_mul]
    exact flags

/-- One round more in front of a number of rounds. -/
theorem GoesRound.cons {rounds : Nat} {rest : Int32}
    (place : ∀ count < span first last, (machine.onward count).ip.toInt = first.toInt + count)
    (smooth : ∀ count < span first last, (machine.onward count).tick.2 = none)
    (later : (machine.onward (span first last)).GoesRound first last counter rounds rest) :
    machine.GoesRound first last counter (rounds + 1) rest := by
  have all : (rounds + 1) * span first last = span first last + rounds * span first last := by
    rw [Nat.succ_mul, Nat.add_comm]
  have behind : (machine.onward (span first last)).onward (rounds * span first last) =
      machine.onward ((rounds + 1) * span first last) := by rw [onward_add, all]
  refine ⟨?_, ?_, behind ▸ later.ip, behind ▸ later.held, behind ▸ later.flags⟩
  · intro count before
    by_cases sooner : count < span first last
    · rw [place count sooner, Nat.mod_eq_of_lt sooner]
    · have there := later.place (count - span first last) (by omega)
      rwa [onward_add, Nat.add_sub_cancel' (Nat.not_lt.mp sooner),
        ← Nat.mod_eq_sub_mod (Nat.not_lt.mp sooner)] at there
  · intro count before
    by_cases sooner : count < span first last
    · exact smooth count sooner
    · have there := later.smooth (count - span first last) (by omega)
      rwa [onward_add, Nat.add_sub_cancel' (Nat.not_lt.mp sooner)] at there

variable (isLoop : program.HasLoop first last counter label)
  (accepted : ∀ instruction ∈ program.instructions, instruction.Accepted)

include isLoop

theorem span_eq : (span first last : Int) = last.toInt - first.toInt + 1 := by
  have ordered := Int64.le_iff_toInt_le.mp isLoop.ordered
  unfold span
  omega

theorem AtLoop.isWithin (standing : machine.AtLoop program first counter offset value)
    (inside : offset < span first last) : machine.IsWithin first last := by
  have size := span_eq isLoop
  have place := standing.place
  constructor
  · rw [Int64.le_iff_toInt_le]
    omega
  · rw [Int64.le_iff_toInt_le]
    omega

include accepted

/-- A tick in the body goes on to the next place, and the counter stays. -/
theorem AtLoop.step (standing : machine.AtLoop program first counter offset value)
    (inside : first.toInt + offset < last.toInt) (step : machine.tick = (after, none)) :
    after.AtLoop program first counter (offset + 1) value := by
  obtain ⟨instruction, found, obeys⟩ := obeys_of_tick standing.loaded accepted step
  rw [standing.place] at found
  obtain ⟨plain, apart⟩ := isLoop.body _ instruction (by omega) inside found
  have ip : after.ip = machine.following := obeys.ip.eq_following plain
  have below : machine.ip.toInt < 9223372036854775807 := by
    have upper : last.toInt < 9223372036854775808 := last.toInt_lt
    have place := standing.place
    omega
  refine ⟨obeys.program.trans standing.loaded, ?_, ?_⟩
  · rw [ip, toInt_following_of_lt below, standing.place]
    omega
  · rw [obeys.register?_of_ne apart, standing.held]

/-- The tick at the end counts down, and goes back if the counter stays positive. -/
theorem AtLoop.turn (standing : machine.AtLoop program first counter offset value)
    (final : first.toInt + offset = last.toInt) (step : machine.tick = (after, none)) :
    after.program = some program ∧ after.register? counter = some (value - 1) ∧
      after.flags = Flags.ofResult (value - 1).toInt ∧
      after.ip = if 0 < (value - 1).toInt then first else last + 1 := by
  obtain ⟨instruction, found, obeys⟩ := obeys_of_tick standing.loaded accepted step
  have here : machine.ip = last := Int64.toInt_inj.mp (standing.place.trans final)
  rw [here, isLoop.back] at found
  obtain rfl := Option.some.inj found
  have rest := result?_of_loop standing.held label
  refine ⟨obeys.program.trans standing.loaded, ?_, ?_, ?_⟩
  · have lower := nonneg_of_register? standing.held
    obtain ⟨counted, holds, isRest⟩ := obeys.register?_of_destination lower rfl
    rw [holds, Int32.toInt_inj.mp (Option.some.inj (isRest.symm.trans rest))]
  · exact obeys.flags.eq_ofResult rest
  · have bound : machine.Binds label first.toInt := by
      rw [binds_iff, address?, standing.loaded, Option.bind_some, isLoop.bound]
    by_cases positive : 0 < (value - 1).toInt
    · rw [if_pos positive, ← Int64.ofInt_toInt first]
      exact obeys.ip.eq_address ((leaps_loop_iff standing.held label).mpr positive) rfl bound
    · rw [if_neg positive, ← here]
      rcases obeys.ip.on_or_away (by simp [Instruction.verb]) with ⟨_, ip⟩ | ⟨leaps, _⟩
      · exact ip
      · exact absurd ((leaps_loop_iff standing.held label).mp leaps) positive

theorem AtLoop.body (standing : machine.AtLoop program first counter 0 value)
    (smooth : machine.IsSmooth first last) {count : Nat} (inside : count < span first last) :
    ∀ earlier ≤ count, (machine.onward earlier).AtLoop program first counter earlier value := by
  have size := span_eq isLoop
  induction count with
  | zero =>
      intro earlier before
      obtain rfl := Nat.le_zero.mp before
      exact standing
  | succ count induction =>
      have so := induction (Nat.lt_of_succ_lt inside)
      intro earlier before
      rcases Nat.le_succ_iff.mp before with sooner | rfl
      · exact so earlier sooner
      · have within : ∀ earlier ≤ count, (machine.onward earlier).IsWithin first last := by
          intro earlier sooner
          exact (so earlier sooner).isWithin isLoop (by omega)
        apply (so count (Nat.le_refl count)).step isLoop accepted (by omega)
        exact Prod.ext rfl (smooth count within)

theorem AtLoop.smooth_body (standing : machine.AtLoop program first counter 0 value)
    (smooth : machine.IsSmooth first last) {count : Nat} (inside : count < span first last) :
    (machine.onward count).tick.2 = none := by
  apply smooth
  intro earlier before
  have there := standing.body isLoop accepted smooth inside earlier before
  exact there.isWithin isLoop (by omega)

theorem AtLoop.round (standing : machine.AtLoop program first counter 0 value)
    (smooth : machine.IsSmooth first last) :
    (machine.onward (span first last)).program = some program ∧
      (machine.onward (span first last)).register? counter = some (value - 1) ∧
      (machine.onward (span first last)).flags = Flags.ofResult (value - 1).toInt ∧
      (machine.onward (span first last)).ip =
        if 0 < (value - 1).toInt then first else last + 1 := by
  have size := span_eq isLoop
  have ordered := Int64.le_iff_toInt_le.mp isLoop.ordered
  obtain ⟨count, isSpan⟩ : ∃ count, span first last = count + 1 := ⟨span first last - 1, by omega⟩
  have inside : count < span first last := by omega
  have there := standing.body isLoop accepted smooth inside count (Nat.le_refl count)
  rw [isSpan]
  apply there.turn isLoop accepted (by omega)
  exact Prod.ext rfl (standing.smooth_body isLoop accepted smooth inside)

theorem AtLoop.goesRound (standing : machine.AtLoop program first counter 0 value)
    (smooth : machine.IsSmooth first last) :
    machine.GoesRound first last counter (passes value) (remainder value) := by
  -- The induction is on the rounds, each of which leaves the next machine with a counter one less.
  generalize isCount : passes value = rounds
  induction rounds generalizing machine value with
  | zero =>
      rw [passes_eq] at isCount
      split at isCount
      · cases isCount
      · cases isCount
  | succ rounds induction =>
      obtain ⟨loaded, held, flags, ip⟩ := standing.round isLoop accepted smooth
      have body (count : Nat) (inside : count < span first last) :=
        standing.body isLoop accepted smooth inside count (Nat.le_refl count)
      apply GoesRound.cons
      · intro count inside
        exact (body count inside).place
      · intro count inside
        exact standing.smooth_body isLoop accepted smooth inside
      · rw [passes_eq] at isCount
        rw [remainder_eq]
        by_cases positive : 0 < (value - 1).toInt
        · rw [if_pos positive] at isCount ip ⊢
          refine induction ⟨loaded, by rw [ip]; simp, held⟩ ?_ (Nat.succ.inj isCount)
          apply smooth.onward
          intro earlier inside
          exact (body earlier inside).isWithin isLoop inside
        · rw [if_neg positive] at isCount ip ⊢
          obtain rfl : 0 = rounds := Nat.succ.inj isCount
          exact goesRound_zero ip held flags

end Loop

theorem not_isWithin_of_leaving {machine : Machine} {first last : Int64} (lower : 0 ≤ first.toInt)
    (ip : machine.ip = last + 1) : ¬ machine.IsWithin first last := by
  intro ⟨least, most⟩
  rw [Int64.le_iff_toInt_le] at least most
  have upper : last.toInt < 9223372036854775808 := last.toInt_lt
  have wraps : machine.ip.toInt = (last.toInt + 1).bmod 18446744073709551616 := by
    rw [ip, Int64.toInt_add]
    rfl
  rw [Int.bmod_def] at wraps
  split at wraps
  · omega
  · omega

/-- A loop of an assembled program around a body without jumps, in which nothing else touches the
counter. If no tick fails before control leaves it, then control goes through all its places in
their order, as often as `passes` says of the counter, and leaves to the address behind the loop.
The counter is zero then, unless the only round took it further below zero. -/
theorem loop_goes_round [Evaluator] {assembler : Assembler} {source : Bytes} {program : Program}
    {first last : Int64} {counter : Int} {label : Bytes} {machine : Machine} {n : Int32}
    (assembled : (assembler.parse source).2 = .ok program)
    (isLoop : program.HasLoop first last counter label) (loaded : machine.program = some program)
    (start : machine.ip = first) (held : machine.register? counter = some n)
    (smooth : machine.IsSmooth first last) :
    (∀ round < passes n, ∀ offset < span first last,
      (machine.onward (round * span first last + offset)).ip.toInt = first.toInt + offset) ∧
    ∃ after, machine.Ticks (passes n * span first last) after ∧
      after.ip = last + 1 ∧ ¬ after.IsWithin first last ∧
      (1 ≤ n.toInt ∨ n.toInt = -2147483648 →
        after.register? counter = some 0 ∧ after.flags = { zero := true, negative := false }) ∧
      (-2147483648 < n.toInt ∧ n.toInt ≤ 0 →
        after.register? counter = some (n - 1) ∧
          after.flags = { zero := false, negative := true }) := by
  have accepted (instruction) (member : instruction ∈ program.instructions) :
      instruction.Accepted := accepted_of_parse assembled member
  have standing : machine.AtLoop program first counter 0 n := ⟨loaded, by simp [start], held⟩
  have runs := standing.goesRound isLoop accepted smooth
  have lower := (label_bounds_of_parse assembled isLoop.bound).1
  refine ⟨?_, _, ticks_onward runs.smooth, runs.ip, not_isWithin_of_leaving lower runs.ip, ?_, ?_⟩
  · intro round before offset inside
    have bound : round * span first last + offset < passes n * span first last := by
      have more : (round + 1) * span first last ≤ passes n * span first last :=
        Nat.mul_le_mul_right _ before
      rw [Nat.succ_mul] at more
      omega
    rw [runs.place _ bound, Nat.mul_add_mod_self_right, Nat.mod_eq_of_lt inside]
  · intro positive
    have rest : remainder n = 0 := if_pos positive
    rw [runs.held, runs.flags, rest]
    exact ⟨rfl, rfl⟩
  · intro ⟨above, below⟩
    have rest : remainder n = n - 1 := if_neg (by omega)
    have counted : (n - 1).toInt = n.toInt - 1 := by rw [toInt_predecessor, if_neg (by omega)]
    have negative : n.toInt - 1 < 0 := by omega
    rw [runs.held, runs.flags, rest, counted]
    exact ⟨rfl, by simp [Flags.ofResult, negative, Int.ne_of_lt negative]⟩

/-- A machine that adds up the numbers from three down. -/
def summing (program : Program) : Machine :=
  { Machine.new (some program) with registers := #[0, 3] }

theorem loop_goes_round_three :
    ∃ program after,
      (Assembler.fresh.parse (utf8 "top: add b, a\npush b\nloop a, top")).2 = .ok program ∧
      program.HasLoop 0 2 1 (utf8 "top") ∧ (summing program).IsSmooth 0 2 ∧
      (summing program).Ticks 9 after ∧ after.ip = 3 ∧ after.register? 1 = some 0 := by
  obtain ⟨program, assembled, facts⟩ : ∃ program,
      (Assembler.fresh.parse (utf8 "top: add b, a\npush b\nloop a, top")).2 = .ok program ∧
        ([program.instruction? 0, program.instruction? 1, program.instruction? 2],
          program.label? (utf8 "top"), ((summing program).onward 9).ip,
          (List.range 9).all fun count => ((summing program).onward count).tick.2.isNone) =
        ([some (.registers (.known .add) 0 1), some (.register (.known .push) 0),
          some (.registerLabel (.known .loop) 1 (utf8 "top"))], some 0, 3, true) :=
    Assembler.exists_of_toOption (by decide +kernel)
  simp only [Prod.mk.injEq, List.cons.injEq, and_true, List.all_eq_true, List.mem_range,
    Option.isNone_iff_eq_none] at facts
  obtain ⟨⟨adds, pushes, back⟩, bound, leaves, succeeds⟩ := facts
  have isLoop : program.HasLoop 0 2 1 (utf8 "top") := by
    refine ⟨by decide, back, bound, ?_⟩
    intro address instruction lower upper found
    change 0 ≤ address at lower
    change address < 2 at upper
    obtain rfl | rfl : address = 0 ∨ address = 1 := by omega
    · obtain rfl := Option.some.inj (adds.symm.trans found)
      exact ⟨rfl, by decide⟩
    · obtain rfl := Option.some.inj (pushes.symm.trans found)
      exact ⟨rfl, by decide⟩
  have smooth : (summing program).IsSmooth 0 2 := by
    intro count within
    by_cases early : count < 9
    · exact succeeds count early
    · have there := (within 9 (by omega)).2
      rw [leaves] at there
      exact absurd there (by decide)
  obtain ⟨_, after, ticks, ip, _, held, _⟩ :=
    loop_goes_round assembled isLoop rfl rfl (show _ = some 3 from rfl) smooth
  exact ⟨program, after, assembled, isLoop, smooth, ticks, ip, (held (by decide)).1⟩

end Machine

end RegisterMachine
