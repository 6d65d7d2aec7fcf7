import Mathlib.Data.List.TakeWhile
import RegisterMachine.Source.Words

/-! What the marks of strings and expressions enclose. The end of either is found exactly behind a text
that may be enclosed and the byte that closes it. -/

namespace RegisterMachine.Source

/-- What a string can hold: bytes other than a quote and a backslash, and pairs of a backslash and any
byte. -/
inductive IsQuotable : Bytes → Prop
  | nil : IsQuotable []
  | single {b : UInt8} {rest : Bytes} (notQuote : b ≠ byte '"') (notEscape : b ≠ byte '\\')
      (later : IsQuotable rest) : IsQuotable (b :: rest)
  | pair (b : UInt8) {rest : Bytes} (later : IsQuotable rest) :
      IsQuotable (byte '\\' :: b :: rest)

/-- Texts that close so many parentheses more than they open, and at no place more than that. -/
structure Closes (depth : Nat) (text : Bytes) : Prop where
  within : ∀ front, front <+: text → front.count (byte ')') ≤ depth + front.count (byte '(')
  total : text.count (byte ')') = depth + text.count (byte '(')

/-- An end is found, counted on from `n`, behind what is enclosed and the byte that closes it. -/
def Finds (ending : Nat → Bytes → Option Nat) (closing : UInt8) (Encloses : Bytes → Prop) : Prop :=
  ∀ n m text, ending n text = some m ↔
    ∃ inner rest, Encloses inner ∧ text = inner ++ closing :: rest ∧ m = n + inner.length + 1

namespace Finds

variable {ending : Nat → Bytes → Option Nat} {closing : UInt8} {Encloses : Bytes → Prop}
variable (finds : Finds ending closing Encloses) {n m : Nat} {text : Bytes}

include finds

theorem found {inner : Bytes} (enclosed : Encloses inner) (n : Nat) (rest : Bytes) :
    ending n (inner ++ closing :: rest) = some (n + inner.length + 1) :=
  (finds n _ _).mpr ⟨inner, rest, enclosed, rfl, rfl⟩

theorem eq_none_iff :
    ending n text = none ↔ ∀ inner rest, Encloses inner → text ≠ inner ++ closing :: rest := by
  rw [Option.eq_none_iff_forall_ne_some]
  constructor
  · intro nowhere inner rest enclosed shape
    subst shape
    exact nowhere _ (finds.found enclosed n rest)
  · intro nowhere m closed
    obtain ⟨inner, rest, enclosed, shape, _⟩ := (finds n m text).mp closed
    exact nowhere inner rest enclosed shape

theorem le (closed : ending n text = some m) : m ≤ n + text.length := by
  obtain ⟨inner, rest, _, rfl, rfl⟩ := (finds n m text).mp closed
  simp only [List.length_append, List.length_cons]
  omega

theorem append (closed : ending n text = some m) (back : Bytes) :
    ending n (text ++ back) = some m := by
  obtain ⟨inner, rest, enclosed, rfl, rfl⟩ := (finds n m text).mp closed
  rw [List.append_assoc, List.cons_append]
  exact finds.found enclosed n (rest ++ back)

/-- What ends where a text does is closed in the text. -/
theorem of_append {back : Bytes} (closed : ending n (text ++ back) = some (n + text.length)) :
    ending n text = some (n + text.length) := by
  obtain ⟨inner, rest, enclosed, shape, size⟩ := (finds n _ _).mp closed
  rw [List.append_cons] at shape
  have length : text.length = (inner ++ [closing]).length := by
    rw [List.length_append, List.length_singleton]
    omega
  obtain ⟨rfl, rfl⟩ := List.append_inj shape length
  rw [size]
  exact finds.found enclosed n []

/-- Another byte at the end of a text closes nothing. -/
theorem concat {b : UInt8} (other : b ≠ closing) (unfinished : ending n text = none) :
    ending n (text ++ [b]) = none := by
  rw [finds.eq_none_iff] at unfinished ⊢
  intro inner rest enclosed shape
  rcases List.eq_nil_or_concat rest with rfl | ⟨front, last, rfl⟩
  · exact other (List.cons.inj (List.append_inj_right' shape rfl)).1
  · rw [List.concat_eq_append, ← List.cons_append, ← List.append_assoc] at shape
    exact unfinished inner front enclosed (List.append_inj_left' shape rfl)

end Finds

section Strings

theorem stringEnd?_of_isQuotable {inner : Bytes} (quotable : IsQuotable inner) (n : Nat)
    (rest : Bytes) : stringEnd? n (inner ++ byte '"' :: rest) = some (n + inner.length + 1) := by
  induction quotable generalizing n with
  | nil => cases rest <;> simp [stringEnd?]
  | single notQuote notEscape later induction =>
      rename_i b others
      have step : stringEnd? n (b :: (others ++ byte '"' :: rest)) =
          stringEnd? (n + 1) (others ++ byte '"' :: rest) := by
        cases others <;> simp [stringEnd?, notQuote, notEscape]
      rw [List.cons_append, step, induction, List.length_cons, Nat.add_right_comm n 1, Nat.add_assoc n]
  | pair b later induction =>
      have notQuote : byte '\\' ≠ byte '"' := by decide
      rw [List.cons_append, List.cons_append, stringEnd?, if_neg notQuote, if_pos rfl, induction,
        List.length_cons, List.length_cons, Nat.add_right_comm n 2]
      rfl

theorem isQuotable_of_stringEnd? {n m : Nat} {text : Bytes} (closed : stringEnd? n text = some m) :
    ∃ inner rest, IsQuotable inner ∧ text = inner ++ byte '"' :: rest ∧
      m = n + inner.length + 1 := by
  fun_induction stringEnd? n text with
  | case1 => cases closed
  | case2 n =>
      obtain rfl := Option.some.inj closed
      exact ⟨[], [], .nil, rfl, rfl⟩
  | case3 => cases closed
  | case4 n c rest =>
      obtain rfl := Option.some.inj closed
      exact ⟨[], c :: rest, .nil, rfl, rfl⟩
  | case5 n c rest notQuote induction =>
      obtain ⟨inner, behind, quotable, rfl, rfl⟩ := induction closed
      exact ⟨byte '\\' :: c :: inner, behind, .pair c quotable, rfl,
        by simp only [List.length_cons]; omega⟩
  | case6 n b c rest notQuote notEscape induction =>
      obtain ⟨inner, behind, quotable, shape, rfl⟩ := induction closed
      refine ⟨b :: inner, behind, .single notQuote notEscape quotable, ?_,
        by simp only [List.length_cons]; omega⟩
      rw [shape, List.cons_append]

theorem finds_stringEnd? : Finds stringEnd? (byte '"') IsQuotable := by
  intro n m text
  constructor
  · exact isQuotable_of_stringEnd?
  · rintro ⟨inner, rest, quotable, rfl, rfl⟩
    exact stringEnd?_of_isQuotable quotable n rest

theorem IsQuotable.append {inner back : Bytes} (quotable : IsQuotable inner)
    (later : IsQuotable back) : IsQuotable (inner ++ back) := by
  induction quotable with
  | nil => exact later
  | single notQuote notEscape _ induction => exact .single notQuote notEscape induction
  | pair b _ induction => exact .pair b induction

end Strings

section Expressions

variable {depth : Nat} {text : Bytes}

theorem closes_nil_iff : Closes depth [] ↔ depth = 0 := by
  constructor
  · intro closes
    have total := closes.total
    simp only [List.count_nil, Nat.add_zero] at total
    exact total.symm
  · rintro rfl
    refine ⟨fun front first => ?_, rfl⟩
    rw [List.prefix_nil.mp first]
    exact Nat.le_refl _

/-- A byte in front of a text changes how many parentheses there are to close. -/
theorem closes_cons_iff {b : UInt8} :
    Closes depth (b :: text) ↔
      (∀ front, front <+: text →
        (b :: front).count (byte ')') ≤ depth + (b :: front).count (byte '(')) ∧
      (b :: text).count (byte ')') = depth + (b :: text).count (byte '(') := by
  constructor
  · intro closes
    exact ⟨fun front first => closes.within _ (List.cons_prefix_cons.mpr ⟨rfl, first⟩), closes.total⟩
  · rintro ⟨within, total⟩
    refine ⟨fun front first => ?_, total⟩
    rcases List.prefix_cons_iff.mp first with rfl | ⟨others, rfl, later⟩
    · exact Nat.zero_le _
    · exact within others later

theorem closes_open_iff : Closes depth (byte '(' :: text) ↔ Closes (depth + 1) text := by
  have other : byte '(' ≠ byte ')' := by decide
  simp only [closes_cons_iff, List.count_cons_self, List.count_cons_of_ne other]
  constructor
  · rintro ⟨within, total⟩
    refine ⟨fun front first => ?_, by omega⟩
    have bound := within front first
    omega
  · rintro ⟨within, total⟩
    refine ⟨fun front first => ?_, by omega⟩
    have bound := within front first
    omega

theorem closes_close_iff :
    Closes depth (byte ')' :: text) ↔ ∃ less, depth = less + 1 ∧ Closes less text := by
  have other : byte ')' ≠ byte '(' := by decide
  simp only [closes_cons_iff, List.count_cons_self, List.count_cons_of_ne other]
  constructor
  · rintro ⟨within, total⟩
    have positive := within [] List.nil_prefix
    simp only [List.count_nil] at positive
    obtain ⟨less, rfl⟩ := Nat.exists_eq_succ_of_ne_zero (Nat.ne_of_gt positive)
    refine ⟨less, rfl, fun front first => ?_, by omega⟩
    have bound := within front first
    omega
  · rintro ⟨less, rfl, within, total⟩
    refine ⟨fun front first => ?_, by omega⟩
    have bound := within front first
    omega

theorem closes_other_iff {b : UInt8} (notOpen : b ≠ byte '(') (notClose : b ≠ byte ')') :
    Closes depth (b :: text) ↔ Closes depth text := by
  simp only [closes_cons_iff, List.count_cons_of_ne notOpen, List.count_cons_of_ne notClose]
  exact ⟨fun ⟨within, total⟩ => ⟨within, total⟩, fun ⟨within, total⟩ => ⟨within, total⟩⟩

theorem expressionEnd?_of_closes {inner : Bytes} (closes : Closes depth inner) (n : Nat)
    (rest : Bytes) :
    expressionEnd? depth n (inner ++ byte ')' :: rest) = some (n + inner.length + 1) := by
  have notOpen : byte ')' ≠ byte '(' := by decide
  induction inner generalizing depth n with
  | nil =>
      obtain rfl := closes_nil_iff.mp closes
      simp [expressionEnd?, notOpen]
  | cons b others induction =>
      have size : n + (b :: others).length + 1 = n + 1 + others.length + 1 := by
        simp only [List.length_cons]
        omega
      rw [List.cons_append, expressionEnd?, size]
      by_cases opens : b = byte '('
      · subst opens
        rw [if_pos rfl]
        exact induction (closes_open_iff.mp closes) (n + 1)
      rw [if_neg opens]
      by_cases shuts : b = byte ')'
      · subst shuts
        obtain ⟨less, rfl, later⟩ := closes_close_iff.mp closes
        rw [if_pos rfl, if_neg (Nat.succ_ne_zero less)]
        exact induction later (n + 1)
      · rw [if_neg shuts]
        exact induction ((closes_other_iff opens shuts).mp closes) (n + 1)

theorem closes_of_expressionEnd? {n m : Nat} (closed : expressionEnd? depth n text = some m) :
    ∃ inner rest, Closes depth inner ∧ text = inner ++ byte ')' :: rest ∧
      m = n + inner.length + 1 := by
  fun_induction expressionEnd? depth n text with
  | case1 => cases closed
  | case2 depth n rest induction =>
      obtain ⟨inner, behind, closes, rfl, rfl⟩ := induction closed
      exact ⟨byte '(' :: inner, behind, closes_open_iff.mpr closes, rfl,
        by simp only [List.length_cons]; omega⟩
  | case3 n rest notOpen =>
      obtain rfl := Option.some.inj closed
      exact ⟨[], rest, closes_nil_iff.mpr rfl, rfl, rfl⟩
  | case4 depth n rest notOpen deep induction =>
      obtain ⟨inner, behind, closes, rfl, rfl⟩ := induction closed
      exact ⟨byte ')' :: inner, behind, closes_close_iff.mpr ⟨depth - 1, by omega, closes⟩, rfl,
        by simp only [List.length_cons]; omega⟩
  | case5 depth n b rest notOpen notClose induction =>
      obtain ⟨inner, behind, closes, rfl, rfl⟩ := induction closed
      exact ⟨b :: inner, behind, (closes_other_iff notOpen notClose).mpr closes, rfl,
        by simp only [List.length_cons]; omega⟩

theorem finds_expressionEnd? (depth : Nat) : Finds (expressionEnd? depth) (byte ')') (Closes depth) := by
  intro n m text
  constructor
  · exact closes_of_expressionEnd?
  · rintro ⟨inner, rest, closes, rfl, rfl⟩
    exact expressionEnd?_of_closes closes n rest

end Expressions

end RegisterMachine.Source
