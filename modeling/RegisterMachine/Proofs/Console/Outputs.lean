import RegisterMachine.Console

/-! Outputs with a budget. Whether or not an output has a buffer, a text is accepted exactly if all
that was written fits into the budget, and what arrives is all of it, or as much as the budget has room
for. -/

namespace RegisterMachine

def within (budget : Option Nat) (text : Bytes) : Bytes :=
  budget.elim text text.take

def Fits (budget : Option Nat) (text : Bytes) : Prop :=
  ∀ room, budget = some room → text.length ≤ room

theorem within_of_fits {budget : Option Nat} {text : Bytes} (fits : Fits budget text) :
    within budget text = text := by
  cases budget with
  | none => rfl
  | some room => exact List.take_of_length_le (fits room rfl)

theorem Fits.of_append {budget : Option Nat} {text more : Bytes}
    (fits : Fits budget (text ++ more)) : Fits budget text := by
  intro room limited
  have bound := fits room limited
  rw [List.length_append] at bound
  omega

/-- Where a budget has been used up, nothing further matters. -/
theorem within_append_of_not_fits {budget : Option Nat} {text : Bytes}
    (exceeds : ¬ Fits budget text) (more : Bytes) :
    within budget (text ++ more) = within budget text := by
  cases budget with
  | none => simp [Fits] at exceeds
  | some room =>
      simp only [Fits, Option.some.injEq, forall_eq', Nat.not_le] at exceeds
      exact List.take_append_of_le_length (Nat.le_of_lt exceeds)

namespace Drain

/-- A drain that texts, `said` in all, have been written to. -/
structure Holds (drain : Drain) (budget : Option Nat) (said : Bytes) : Prop where
  room : drain.room = budget.map fun room => room - said.length
  delivered : drain.delivered = within budget said

theorem Holds.write {drain : Drain} {budget : Option Nat} {said : Bytes}
    (holds : drain.Holds budget said) (text : Bytes) :
    (drain.write text).1.Holds budget (said ++ text) := by
  cases budget with
  | none =>
      have room : drain.room = none := holds.room
      refine ⟨?_, ?_⟩
      · simp [Drain.write, room]
      · rw [delivered_write_unlimited drain text room, holds.delivered]
        rfl
  | some limit =>
      have room : drain.room = some (limit - said.length) := holds.room
      refine ⟨?_, ?_⟩
      · simp only [Drain.write, room, Option.map_some, List.length_append]
        rw [Nat.sub_sub]
      · rw [delivered_write_limited drain text _ room, holds.delivered]
        exact List.take_append.symm

theorem Holds.accepted_iff {drain : Drain} {budget : Option Nat} {said : Bytes}
    (holds : drain.Holds budget said) (fits : Fits budget said) (text : Bytes) :
    (drain.write text).2 = true ↔ Fits budget (said ++ text) := by
  cases budget with
  | none =>
      have room : drain.room = none := holds.room
      simp [Drain.write, room, Fits]
  | some limit =>
      have room : drain.room = some (limit - said.length) := holds.room
      have bound := fits limit rfl
      simp only [Drain.write, room, Fits, Option.some.injEq, forall_eq', List.length_append,
        decide_eq_true_eq]
      omega

end Drain

namespace Sink

/-- An output, plain or behind a buffer, that has passed on all of `said`. -/
inductive Open (budget : Option Nat) (said : Bytes) : Sink → Prop
  | plain {drain : Drain} (holds : drain.Holds budget said) : Open budget said (.plain drain)
  | buffered {drain : Drain} (holds : drain.Holds budget said) :
      Open budget said (.buffered [] false drain)

/-- An output that takes nothing any more. -/
inductive Closed (arrived : Bytes) : Sink → Prop
  | plain {drain : Drain} (full : drain.room = some 0) (delivered : drain.delivered = arrived) :
      Closed arrived (.plain drain)
  | buffered {held : Bytes} {drain : Drain} (delivered : drain.delivered = arrived) :
      Closed arrived (.buffered held true drain)

/-- What becomes of an output to which a text is written that makes up `said` with the earlier ones. -/
inductive Answers (budget : Option Nat) (said : Bytes) : Sink × Bool → Prop
  | accepted {sink : Sink} (fits : Fits budget said) (still : sink.Open budget said) :
      Answers budget said (sink, true)
  | refused {sink : Sink} (exceeds : ¬ Fits budget said)
      (closed : sink.Closed (within budget said)) : Answers budget said (sink, false)

variable {budget : Option Nat} {said : Bytes} {drain : Drain}

theorem answers_plain (holds : drain.Holds budget said) (fits : Fits budget said) (text : Bytes) :
    Answers budget (said ++ text) ((Sink.plain drain).put text) := by
  have behind := holds.write text
  have accepted := holds.accepted_iff fits text
  simp only [put, write, flush]
  generalize drain.write text = result at *
  obtain ⟨after, isAccepted⟩ := result
  cases isAccepted with
  | true => exact .accepted (accepted.mp rfl) (.plain behind)
  | false =>
      have exceeds : ¬ Fits budget (said ++ text) := fun fits => by simpa using accepted.mpr fits
      refine .refused exceeds (.plain ?_ behind.delivered)
      cases budget with
      | none => simp [Fits] at exceeds
      | some room =>
          simp only [Fits, Option.some.injEq, forall_eq', Nat.not_le] at exceeds
          rw [behind.room, Option.map_some, Nat.sub_eq_zero_of_le (Nat.le_of_lt exceeds)]

/-- A text longer than the buffer goes on in parts. -/
theorem put_of_long {text : Bytes} (long : capacity < text.length) :
    (Sink.buffered [] false drain).put text =
      if (drain.write (text.take capacity)).2 then
        (Sink.buffered [] false (drain.write (text.take capacity)).1).put (text.drop capacity)
      else (.buffered [] true (drain.write (text.take capacity)).1, false) := by
  simp only [put, write, List.nil_append]
  rw [spill, if_pos long]
  generalize drain.write (text.take capacity) = result
  obtain ⟨after, accepted⟩ := result
  cases accepted with
  | true => rfl
  | false => rfl

theorem put_of_short {text : Bytes} (short : ¬ capacity < text.length) :
    (Sink.buffered [] false drain).put text =
      (.buffered [] (!(drain.write text).2) (drain.write text).1, (drain.write text).2) := by
  simp only [put, write, List.nil_append]
  rw [spill, if_neg short]
  simp only [flush]
  generalize drain.write text = result
  obtain ⟨after, accepted⟩ := result
  cases accepted with
  | true => rfl
  | false => rfl

theorem answers_buffered {budget : Option Nat} {said : Bytes} {drain : Drain}
    (holds : drain.Holds budget said) (fits : Fits budget said) (text : Bytes) :
    Answers budget (said ++ text) ((Sink.buffered [] false drain).put text) := by
  by_cases long : capacity < text.length
  · have behind := holds.write (text.take capacity)
    have accepted := holds.accepted_iff fits (text.take capacity)
    have whole : said ++ text.take capacity ++ text.drop capacity = said ++ text := by
      rw [List.append_assoc, List.take_append_drop]
    have shorter : (text.drop capacity).length < text.length := by
      rw [List.length_drop]
      have positive : 0 < capacity := by decide
      omega
    rw [put_of_long long]
    split
    · rename_i isAccepted
      have rest := answers_buffered behind (accepted.mp isAccepted) (text.drop capacity)
      rwa [whole] at rest
    · rename_i isRefused
      have exceeds : ¬ Fits budget (said ++ text.take capacity) := isRefused ∘ accepted.mpr
      refine .refused (fun fits => exceeds ?_) (.buffered ?_)
      · rw [← whole] at fits
        exact fits.of_append
      · rw [behind.delivered, ← whole, within_append_of_not_fits exceeds]
  · have behind := holds.write text
    have accepted := holds.accepted_iff fits text
    rw [put_of_short long]
    generalize drain.write text = result at *
    obtain ⟨after, isAccepted⟩ := result
    cases isAccepted with
    | true => exact .accepted (accepted.mp rfl) (.buffered behind)
    | false =>
        have exceeds : ¬ Fits budget (said ++ text) := fun fits => by simpa using accepted.mpr fits
        exact .refused exceeds (.buffered behind.delivered)
termination_by text.length
decreasing_by exact shorter

theorem Open.put {sink : Sink} (isOpen : sink.Open budget said) (fits : Fits budget said)
    (text : Bytes) : Answers budget (said ++ text) (sink.put text) := by
  cases isOpen with
  | plain holds => exact answers_plain holds fits text
  | buffered holds => exact answers_buffered holds fits text

theorem Open.delivered {sink : Sink} (isOpen : sink.Open budget said) :
    sink.drain.delivered = within budget said := by
  cases isOpen with
  | plain holds | buffered holds => exact holds.delivered

theorem Closed.delivered {sink : Sink} {arrived : Bytes} (closed : sink.Closed arrived) :
    sink.drain.delivered = arrived := by
  cases closed with
  | plain full delivered => exact delivered
  | buffered delivered => exact delivered

theorem Closed.put {sink : Sink} {arrived text : Bytes} (closed : sink.Closed arrived)
    (filled : text ≠ []) : ∃ after, sink.put text = (after, false) ∧ after.Closed arrived := by
  cases closed with
  | @plain drain full delivered =>
      have refused : (drain.write text).2 = false := by
        simpa [Drain.write, full] using filled
      refine ⟨.plain (drain.write text).1, ?_, .plain ?_ ?_⟩
      · simp only [Sink.put, write, refused]
      · simp [Drain.write, full]
      · rw [Drain.delivered_write_limited drain text 0 full, delivered, List.take_zero,
          List.append_nil]
  | buffered delivered => exact ⟨_, rfl, .buffered delivered⟩

end Sink

/-- A drain behind a text that has arrived as a whole. -/
structure Drain.Grows (drain : Drain) (text : Bytes) (after : Drain) : Prop where
  delivered : after.delivered = drain.delivered ++ text
  room : after.room = drain.room.map fun room => room - text.length

namespace Sink

/-- Whether an output passes on a text as a whole, together with what it holds. -/
def Takes (text : Bytes) : Sink → Prop
  | plain drain => Fits drain.room text
  | buffered held failed drain => failed = false ∧ Fits drain.room (held ++ text)
  | unflushable _ => False

inductive Took (text : Bytes) : Sink → Sink → Prop
  | plain {drain after : Drain} (grows : drain.Grows text after) :
      Took text (.plain drain) (.plain after)
  | buffered {held : Bytes} {drain after : Drain} (grows : drain.Grows (held ++ text) after) :
      Took text (.buffered held false drain) (.buffered [] false after)

section Taking

variable {drain : Drain} {text : Bytes}

/-- The budget of a drain is what has arrived and what there is still room for. -/
theorem holds_delivered (drain : Drain) :
    drain.Holds (drain.room.map fun room => room + drain.delivered.length) drain.delivered ∧
      Fits (drain.room.map fun room => room + drain.delivered.length) drain.delivered := by
  have fits : Fits (drain.room.map fun room => room + drain.delivered.length)
      drain.delivered := by
    intro limit limited
    obtain ⟨room, _, rfl⟩ := Option.map_eq_some_iff.mp limited
    exact Nat.le_add_left _ _
  refine ⟨⟨?_, (within_of_fits fits).symm⟩, fits⟩
  cases drain.room with
  | none => rfl
  | some room => simp

theorem fits_delivered_iff :
    Fits (drain.room.map fun room => room + drain.delivered.length) (drain.delivered ++ text) ↔
      Fits drain.room text := by
  cases drain.room with
  | none => simp [Fits]
  | some room =>
      simp only [Fits, Option.map_some, Option.some.injEq, forall_eq', List.length_append]
      omega

theorem grows_of_holds {after : Drain} (fits : Fits drain.room text)
    (holds : after.Holds (drain.room.map fun room => room + drain.delivered.length)
      (drain.delivered ++ text)) : drain.Grows text after := by
  refine ⟨?_, ?_⟩
  · rw [holds.delivered, within_of_fits (fits_delivered_iff.mpr fits)]
  · rw [holds.room, Option.map_map]
    congr 1
    funext room
    simp only [Function.comp_apply, List.length_append]
    omega

theorem exists_buffered_put (drain : Drain) (text : Bytes) :
    ∃ failed after, (Sink.buffered [] false drain).put text = (.buffered [] failed after, !failed) := by
  by_cases long : capacity < text.length
  · have shorter : (text.drop capacity).length < text.length := by
      rw [List.length_drop]
      have positive : 0 < capacity := by decide
      omega
    rw [put_of_long long]
    split
    · exact exists_buffered_put _ (text.drop capacity)
    · exact ⟨true, _, rfl⟩
  · rw [put_of_short long]
    exact ⟨!(drain.write text).2, _, by rw [Bool.not_not]⟩
termination_by text.length
decreasing_by exact shorter

theorem put_plain (drain : Drain) (text : Bytes) :
    (Sink.plain drain).put text = (.plain (drain.write text).1, (drain.write text).2) := by
  simp only [put, write, flush]
  generalize drain.write text = result
  obtain ⟨after, accepted⟩ := result
  cases accepted with
  | true => rfl
  | false => rfl

theorem put_held (held : Bytes) (drain : Drain) (text : Bytes) :
    (Sink.buffered held false drain).put text =
      (Sink.buffered [] false drain).put (held ++ text) := rfl

theorem put_plain_eq_true_iff (drain : Drain) (text : Bytes) :
    (((plain drain).put text).2 = true ↔ Fits drain.room text) ∧
      (((plain drain).put text).2 = true → Took text (.plain drain) ((plain drain).put text).1) := by
  obtain ⟨holds, fits⟩ := holds_delivered drain
  have behind := holds.write text
  have accepted := (holds.accepted_iff fits text).trans fits_delivered_iff
  rw [put_plain]
  exact ⟨accepted, fun isAccepted => .plain (grows_of_holds (accepted.mp isAccepted) behind)⟩

theorem put_held_eq_true_iff (held : Bytes) (drain : Drain) (text : Bytes) :
    (((buffered held false drain).put text).2 = true ↔ Fits drain.room (held ++ text)) ∧
      (((buffered held false drain).put text).2 = true →
        Took text (.buffered held false drain) ((buffered held false drain).put text).1) := by
  obtain ⟨holds, fits⟩ := holds_delivered drain
  have answers := answers_buffered holds fits (held ++ text)
  rw [put_held]
  obtain ⟨failed, after, isPut⟩ := exists_buffered_put drain (held ++ text)
  rw [isPut] at answers ⊢
  cases failed with
  | true =>
      cases answers with
      | refused exceeds => simpa using mt fits_delivered_iff.mpr exceeds
  | false =>
      cases answers with
      | accepted allFits still =>
          have takes := fits_delivered_iff.mp allFits
          cases still with
          | buffered holdsAll =>
              exact ⟨iff_of_true rfl takes, fun _ => .buffered (grows_of_holds takes holdsAll)⟩

/-- An output accepts exactly what it passes on. -/
theorem put_eq_true_iff (sink : Sink) (text : Bytes) :
    ((sink.put text).2 = true ↔ sink.Takes text) ∧
      ((sink.put text).2 = true → Took text sink (sink.put text).1) := by
  cases sink with
  | plain drain => exact put_plain_eq_true_iff drain text
  | buffered held failed drain =>
      cases failed with
      | true => simp [put, write, Takes]
      | false => simpa [Takes] using put_held_eq_true_iff held drain text
  | unflushable drain =>
      have refused : ((Sink.unflushable drain).put text).2 = false := by
        simp only [put, write]
        cases (drain.write text).2 with
        | true => rfl
        | false => rfl
      simp [refused, Takes]

end Taking

end Sink

namespace Console

/-- A console behind a text. Its inputs are as they were, and without an output the text is lost. -/
structure Prints (console : Console) (text : Bytes) (after : Console) : Prop where
  inputs : after.readers = console.readers ∧ after.input = console.input ∧
    after.attached = console.attached
  lost : console.output = none → after.output = none
  taken : ∀ sink, console.output = some sink →
    ∃ grown, after.output = some grown ∧ Sink.Took text sink grown

theorem write_spec (console : Console) (text : Bytes) (newline : Bool) :
    ((console.write text newline).2 = true ↔ ∀ sink, console.output = some sink →
        sink.Takes (if newline then text ++ [byte '\n'] else text)) ∧
      ((console.write text newline).2 = true →
        console.Prints (if newline then text ++ [byte '\n'] else text)
          (console.write text newline).1) := by
  unfold write
  cases isOutput : console.output with
  | none =>
      refine ⟨by simp, fun _ => ⟨⟨rfl, rfl, rfl⟩, fun _ => isOutput, ?_⟩⟩
      intro sink given
      cases isOutput.symm.trans given
  | some sink =>
      obtain ⟨accepted, took⟩ :=
        sink.put_eq_true_iff (if newline then text ++ [byte '\n'] else text)
      refine ⟨by simpa using accepted, fun isAccepted => ⟨⟨rfl, rfl, rfl⟩, ?_, ?_⟩⟩
      · intro missing
        cases isOutput.symm.trans missing
      · intro other given
        obtain rfl := Option.some.inj (isOutput.symm.trans given)
        exact ⟨_, rfl, took isAccepted⟩

end Console

end RegisterMachine
