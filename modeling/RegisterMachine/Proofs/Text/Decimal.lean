import RegisterMachine.Text.Decimal

/-! Which byte strings are decimal numbers: reading accepts exactly the signed rows of digits in the
range of its size, and what is written for a number of that range is read as the number. -/

namespace RegisterMachine.Text.Decimal

/-- The number that digits make up behind those of `n`. -/
def continued (n : Nat) (digits : Bytes) : Nat :=
  digits.foldl (fun n b => 10 * n + (b - byte '0').toNat) n

@[simp] theorem continued_nil (n : Nat) : continued n [] = n := rfl

@[simp] theorem continued_cons (n : Nat) (b : UInt8) (rest : Bytes) :
    continued n (b :: rest) = continued (10 * n + (b - byte '0').toNat) rest := rfl

theorem le_continued (n : Nat) (digits : Bytes) : n ≤ continued n digits := by
  induction digits generalizing n with
  | nil => exact Nat.le_refl n
  | cons b rest induction =>
      have longer := induction (10 * n + (b - byte '0').toNat)
      rw [continued_cons]
      omega

/-- A byte string that consists of digits, at least one of them. -/
def IsRow (digits : Bytes) : Prop :=
  digits ≠ [] ∧ ∀ b ∈ digits, Bytes.isDigit b = true

/-- The decimals: a row of digits, perhaps with a sign before it, and its number. -/
inductive Numeral : Bytes → Int → Prop
  | unsigned {digits : Bytes} (row : IsRow digits) : Numeral digits (continued 0 digits)
  | positive {digits : Bytes} (row : IsRow digits) :
      Numeral (byte '+' :: digits) (continued 0 digits)
  | negative {digits : Bytes} (row : IsRow digits) :
      Numeral (byte '-' :: digits) (-(continued 0 digits : Nat))

theorem digitsValue_eq_ok_iff {bound n m : Nat} {digits : Bytes} (inside : n ≤ bound) :
    digitsValue bound n digits = .ok m ↔
      (∀ b ∈ digits, Bytes.isDigit b = true) ∧ continued n digits = m ∧ m ≤ bound := by
  induction digits generalizing n with
  | nil =>
      simp only [digitsValue, Except.ok.injEq, continued_nil, List.not_mem_nil, false_implies,
        implies_true, true_and]
      constructor
      · rintro rfl
        exact ⟨rfl, inside⟩
      · exact And.left
  | cons b rest induction =>
      have later := le_continued (10 * n + (b - byte '0').toNat) rest
      simp only [digitsValue, List.forall_mem_cons, continued_cons]
      by_cases digit : Bytes.isDigit b = true
      · simp only [digit, ↓reduceIte, true_and]
        by_cases fits : 10 * n + (b - byte '0').toNat ≤ bound
        · rw [if_pos fits]
          exact induction fits
        · rw [if_neg fits]
          constructor
          · intro h
            cases h
          · rintro ⟨_, rfl, small⟩
            omega
      · simp [digit]

theorem magnitude_eq_ok_iff {bound m : Nat} {digits : Bytes} :
    magnitude bound digits = .ok m ↔ IsRow digits ∧ continued 0 digits = m ∧ m ≤ bound := by
  cases digits with
  | nil => simp [magnitude, IsRow]
  | cons b rest =>
      simp only [magnitude, List.isEmpty_cons, Bool.false_eq_true, ↓reduceIte,
        digitsValue_eq_ok_iff (Nat.zero_le bound), IsRow, ne_eq, reduceCtorEq, not_false_eq_true,
        true_and]

theorem not_isRow_of_sign {b : UInt8} (sign : Bytes.isDigit b = false) (rest : Bytes) :
    ¬ IsRow (b :: rest) := by
  rintro ⟨_, digits⟩
  rw [digits b List.mem_cons_self] at sign
  contradiction

theorem numeral_minus_iff {rest : Bytes} {n : Int} :
    Numeral (byte '-' :: rest) n ↔ IsRow rest ∧ n = -(continued 0 rest : Nat) := by
  constructor
  · intro numeral
    generalize text : byte '-' :: rest = whole at numeral
    cases numeral with
    | unsigned row =>
        subst text
        exact absurd row (not_isRow_of_sign (by decide) rest)
    | positive row => exact absurd (List.cons.inj text).1 (by decide)
    | negative row =>
        obtain ⟨_, rfl⟩ := List.cons.inj text
        exact ⟨row, rfl⟩
  · rintro ⟨row, rfl⟩
    exact .negative row

theorem numeral_plus_iff {rest : Bytes} {n : Int} :
    Numeral (byte '+' :: rest) n ↔ IsRow rest ∧ n = (continued 0 rest : Nat) := by
  constructor
  · intro numeral
    generalize text : byte '+' :: rest = whole at numeral
    cases numeral with
    | unsigned row =>
        subst text
        exact absurd row (not_isRow_of_sign (by decide) rest)
    | positive row =>
        obtain ⟨_, rfl⟩ := List.cons.inj text
        exact ⟨row, rfl⟩
    | negative row => exact absurd (List.cons.inj text).1 (by decide)
  · rintro ⟨row, rfl⟩
    exact .positive row

theorem numeral_unsigned_iff {b : UInt8} {rest : Bytes} {n : Int} (notMinus : b ≠ byte '-')
    (notPlus : b ≠ byte '+') :
    Numeral (b :: rest) n ↔ IsRow (b :: rest) ∧ n = (continued 0 (b :: rest) : Nat) := by
  constructor
  · intro numeral
    generalize text : b :: rest = whole at numeral ⊢
    cases numeral with
    | unsigned row => exact ⟨row, rfl⟩
    | positive row => exact absurd (List.cons.inj text).1 notPlus
    | negative row => exact absurd (List.cons.inj text).1 notMinus
  · rintro ⟨row, rfl⟩
    exact .unsigned row

/-- A row of digits is refused only where its number is past the bound. -/
theorem magnitude_row {digits : Bytes} (row : IsRow digits) {bound : Nat}
    (fits : continued 0 digits ≤ bound) : magnitude bound digits = .ok (continued 0 digits) :=
  magnitude_eq_ok_iff.mpr ⟨row, rfl, fits⟩

theorem two_pow_eq {bits : Nat} (positive : 0 < bits) :
    Nat.pow 2 bits = 2 * Nat.pow 2 (bits - 1) := by
  obtain ⟨less, rfl⟩ := Nat.exists_eq_succ_of_ne_zero (Nat.ne_of_gt positive)
  exact Nat.pow_succ'

theorem read_minus_iff {bits : Nat} (positive : 0 < bits) {rest : Bytes} {n : Int} :
    read bits (byte '-' :: rest) = .ok n ↔
      (IsRow rest ∧ n = -(continued 0 rest : Nat)) ∧ -(Nat.pow 2 (bits - 1) : Nat) ≤ n := by
  have double := two_pow_eq positive
  have large : 0 < Nat.pow 2 (bits - 1) := Nat.two_pow_pos (bits - 1)
  simp only [read, ↓reduceIte, double]
  generalize Nat.pow 2 (bits - 1) = half at large
  constructor
  · intro accepted
    split at accepted
    · rename_i value found
      obtain ⟨row, rfl, _⟩ := magnitude_eq_ok_iff.mp found
      split at accepted
      · obtain rfl := Except.ok.inj accepted
        exact ⟨⟨row, rfl⟩, by omega⟩
      · cases accepted
    · cases accepted
  · rintro ⟨⟨row, rfl⟩, inside⟩
    rw [magnitude_row row (by omega)]
    simp only [if_pos (show continued 0 rest ≤ half by omega)]

theorem read_unsigned_iff {bits : Nat} (positive : 0 < bits) {b : UInt8} {rest digits : Bytes}
    (notMinus : b ≠ byte '-')
    (unsigned : (if b = byte '+' then rest else b :: rest) = digits) {n : Int} :
    read bits (b :: rest) = .ok n ↔
      (IsRow digits ∧ n = (continued 0 digits : Nat)) ∧ n < (Nat.pow 2 (bits - 1) : Nat) := by
  have double := two_pow_eq positive
  have large : 0 < Nat.pow 2 (bits - 1) := Nat.two_pow_pos (bits - 1)
  simp only [read, notMinus, ↓reduceIte, double, unsigned]
  generalize Nat.pow 2 (bits - 1) = half at large
  constructor
  · intro accepted
    split at accepted
    · rename_i value found
      obtain ⟨row, rfl, _⟩ := magnitude_eq_ok_iff.mp found
      split at accepted
      · obtain rfl := Except.ok.inj accepted
        exact ⟨⟨row, rfl⟩, by omega⟩
      · cases accepted
    · cases accepted
  · rintro ⟨⟨row, rfl⟩, inside⟩
    rw [magnitude_row row (by omega)]
    simp only [if_pos (show continued 0 digits < half by omega)]

/-- Reading accepts exactly the decimals in the range of its size. -/
theorem read_eq_ok_iff {bits : Nat} (positive : 0 < bits) {text : Bytes} {n : Int} :
    read bits text = .ok n ↔
      Numeral text n ∧ -(Nat.pow 2 (bits - 1) : Nat) ≤ n ∧ n < (Nat.pow 2 (bits - 1) : Nat) := by
  have large : 0 < Nat.pow 2 (bits - 1) := Nat.two_pow_pos (bits - 1)
  cases text with
  | nil =>
      simp only [read, reduceCtorEq, false_iff, not_and]
      intro numeral
      generalize text : ([] : Bytes) = whole at numeral
      cases numeral with
      | unsigned row => exact absurd text.symm row.1
      | positive row => cases text
      | negative row => cases text
  | cons b rest =>
      by_cases minus : b = byte '-'
      · subst minus
        rw [read_minus_iff positive, numeral_minus_iff]
        constructor
        · rintro ⟨⟨row, rfl⟩, inside⟩
          exact ⟨⟨row, rfl⟩, inside, by omega⟩
        · rintro ⟨numeral, inside, _⟩
          exact ⟨numeral, inside⟩
      by_cases plus : b = byte '+'
      · subst plus
        rw [read_unsigned_iff positive minus (if_pos rfl), numeral_plus_iff]
        constructor
        · rintro ⟨⟨row, rfl⟩, inside⟩
          exact ⟨⟨row, rfl⟩, by omega, inside⟩
        · rintro ⟨numeral, _, inside⟩
          exact ⟨numeral, inside⟩
      · rw [read_unsigned_iff positive minus (if_neg plus), numeral_unsigned_iff minus plus]
        constructor
        · rintro ⟨⟨row, rfl⟩, inside⟩
          exact ⟨⟨row, rfl⟩, by omega, inside⟩
        · rintro ⟨numeral, _, inside⟩
          exact ⟨numeral, inside⟩

theorem digitsValue_of_digits {digits : Bytes} (all : ∀ b ∈ digits, Bytes.isDigit b = true)
    {bound n : Nat} {refusal : Refusal} (refused : digitsValue bound n digits = .error refusal) :
    refusal = .outOfRange := by
  induction digits generalizing n with
  | nil => cases refused
  | cons b rest induction =>
      obtain ⟨digit, digits⟩ := List.forall_mem_cons.mp all
      simp only [digitsValue, digit, ↓reduceIte] at refused
      split at refused
      · exact induction digits refused
      · exact (Except.error.inj refused).symm

theorem magnitude_of_isRow {digits : Bytes} (row : IsRow digits) {bound : Nat} {refusal : Refusal}
    (refused : magnitude bound digits = .error refusal) : refusal = .outOfRange := by
  rw [magnitude, if_neg (by simpa using row.1)] at refused
  exact digitsValue_of_digits row.2 refused

/-- A decimal is refused only for its size. -/
theorem refusal_of_numeral {bits : Nat} {text : Bytes} {n : Int} {refusal : Refusal}
    (numeral : Numeral text n) (refused : read bits text = .error refusal) :
    refusal = .outOfRange := by
  have notMinus : byte '+' ≠ byte '-' := by decide
  cases numeral with
  | unsigned row =>
      cases text with
      | nil => exact absurd rfl row.1
      | cons b rest =>
          have digit := row.2 b List.mem_cons_self
          have minus : b ≠ byte '-' := fun same => absurd (same ▸ digit) (by decide)
          have plus : b ≠ byte '+' := fun same => absurd (same ▸ digit) (by decide)
          simp only [read, if_neg minus, if_neg plus] at refused
          grind [magnitude_of_isRow]
  | positive row =>
      simp only [read, if_neg notMinus, ↓reduceIte] at refused
      grind [magnitude_of_isRow]
  | negative row =>
      simp only [read, ↓reduceIte] at refused
      grind [magnitude_of_isRow]

theorem isDigit_byte {c : Char} (digit : c.isDigit = true) :
    Bytes.isDigit (byte c) = true ∧ (byte c - byte '0').toNat = c.toNat - '0'.toNat := by
  have all : ∀ n < 58, 48 ≤ n → Bytes.isDigit (byte (Char.ofNat n)) = true ∧
      (byte (Char.ofNat n) - byte '0').toNat = (Char.ofNat n).toNat - '0'.toNat := by decide
  have range : 48 ≤ c.toNat ∧ c.toNat ≤ 57 := by
    simpa [Char.isDigit, UInt32.le_iff_toNat_le] using digit
  have found := all c.toNat (by omega) range.1
  rwa [Char.ofNat_toNat] at found

theorem continued_map_byte (n : Nat) (digits : List Char)
    (all : ∀ c ∈ digits, c.isDigit = true) :
    continued n (digits.map byte) = Nat.ofDigitChars 10 digits n := by
  induction digits generalizing n with
  | nil => rw [List.map_nil, continued_nil, Nat.ofDigitChars_nil]
  | cons c rest induction =>
      rw [List.map_cons, continued_cons, Nat.ofDigitChars_cons,
        (isDigit_byte (all c List.mem_cons_self)).2]
      exact induction _ fun c member => all c (List.mem_cons_of_mem _ member)

theorem isRow_ofNat (n : Nat) : IsRow (ofNat n) := by
  constructor
  · simp [ofNat]
  · intro b member
    obtain ⟨c, found, rfl⟩ := List.mem_map.mp member
    exact (isDigit_byte (Nat.isDigit_of_mem_toDigits (by decide) (by decide) found)).1

theorem continued_ofNat (n : Nat) : continued 0 (ofNat n) = n := by
  rw [ofNat, continued_map_byte, Nat.ofDigitChars_ten_toDigits]
  exact fun c => Nat.isDigit_of_mem_toDigits (by decide) (by decide)

theorem numeral_ofInt (n : Int) : Numeral (ofInt n) n := by
  have row := isRow_ofNat n.natAbs
  have value := continued_ofNat n.natAbs
  unfold ofInt sign
  split
  · rw [List.cons_append, List.nil_append, numeral_minus_iff, value]
    exact ⟨row, by omega⟩
  · have unsigned := Numeral.unsigned row
    rw [value, Int.natAbs_of_nonneg (by omega)] at unsigned
    exact unsigned

/-- A decimal consists of digits, and perhaps a sign. -/
theorem Numeral.digit_or_sign {text : Bytes} {n : Int} (numeral : Numeral text n) {b : UInt8}
    (member : b ∈ text) : Bytes.isDigit b = true ∨ b = byte '+' ∨ b = byte '-' := by
  cases numeral with
  | unsigned row => exact .inl (row.2 b member)
  | positive row =>
      rcases List.mem_cons.mp member with rfl | member
      · exact .inr (.inl rfl)
      · exact .inl (row.2 b member)
  | negative row =>
      rcases List.mem_cons.mp member with rfl | member
      · exact .inr (.inr rfl)
      · exact .inl (row.2 b member)

theorem Numeral.ne_nil {text : Bytes} {n : Int} (numeral : Numeral text n) : text ≠ [] := by
  cases numeral with
  | unsigned row => exact row.1
  | positive row => simp
  | negative row => simp

theorem ofNat_eq_toString (n : Nat) : ofNat n = (toString n).toList.map byte := by
  simp [ofNat]

theorem ofInt_eq_toString (n : Int) : ofInt n = (toString n).toList.map byte := by
  cases n with
  | ofNat m => simp [ofInt, sign, ofNat, toString, Int.repr]
  | negSucc m => simp [ofInt, sign, ofNat, toString, Int.repr]

/-- What is written for a number in range is read as the number. -/
theorem read_ofInt {bits : Nat} (positive : 0 < bits) {n : Int}
    (lower : -(Nat.pow 2 (bits - 1) : Nat) ≤ n) (upper : n < (Nat.pow 2 (bits - 1) : Nat)) :
    read bits (ofInt n) = .ok n :=
  (read_eq_ok_iff positive).mpr ⟨numeral_ofInt n, lower, upper⟩

end RegisterMachine.Text.Decimal
