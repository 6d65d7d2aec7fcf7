import RegisterMachine.Text.Utf8

/-! Encoding and decoding of characters undo each other, and the pieces of a byte string make it up
again, whatever its bytes are. -/

namespace RegisterMachine.Text.Utf8

theorem toNat_toUInt8 {n : Nat} (small : n < 256) : n.toUInt8.toNat = n := by
  simp [Nat.mod_eq_of_lt small]

theorem toUInt8_toNat (b : UInt8) : b.toNat.toUInt8 = b := by
  simp

/-- The numbers that belong to a character. -/
theorem toNat_valid (c : Char) : c.toNat < 0xD800 ∨ 0xDFFF < c.toNat ∧ c.toNat < 0x110000 := by
  exact c.valid

theorem toNat_ofNat {n : Nat} (valid : n < 0xD800 ∨ 0xDFFF < n ∧ n < 0x110000) :
    (Char.ofNat n).toNat = n := by
  have isValid : n.isValidChar := valid
  rw [Char.ofNat, dif_pos isValid]
  rfl

theorem isContinuation_iff {b : UInt8} :
    isContinuation b = true ↔ 0x80 ≤ b.toNat ∧ b.toNat ≤ 0xBF := by
  simp [isContinuation, UInt8.le_iff_toNat_le]

theorem isSecond_iff {lead b : UInt8} :
    isSecond lead b = true ↔
      (0x80 ≤ b.toNat ∧ b.toNat ≤ 0xBF) ∧
        (lead.toNat = 0xE0 → 0xA0 ≤ b.toNat) ∧ (lead.toNat = 0xF0 → 0x90 ≤ b.toNat) ∧
        (lead.toNat = 0xED → b.toNat ≤ 0x9F) ∧ (lead.toNat = 0xF4 → b.toNat ≤ 0x8F) := by
  simp only [isSecond, Bool.and_eq_true, decide_eq_true_eq, UInt8.le_iff_toNat_le,
    ← UInt8.toNat_inj, apply_ite UInt8.toNat, UInt8.reduceToNat]
  grind

theorem character?_one {a : Nat} (bound : a < 0x80) (rest : Bytes) :
    character? (a.toUInt8 :: rest) = some (Char.ofNat a, rest) := by
  simp only [character?, UInt8.lt_iff_toNat_lt, toNat_toUInt8 (show a < 256 by omega),
    UInt8.reduceToNat, if_pos bound]

theorem character?_two {a b : Nat} (lead : 0xC2 ≤ a ∧ a < 0xE0) (last : 0x80 ≤ b ∧ b ≤ 0xBF)
    (rest : Bytes) :
    character? (a.toUInt8 :: b.toUInt8 :: rest) =
      some (Char.ofNat ((a - 0xC0) * 64 + (b - 0x80)), rest) := by
  simp only [character?, UInt8.lt_iff_toNat_lt, isContinuation_iff,
    toNat_toUInt8 (show a < 256 by omega), toNat_toUInt8 (show b < 256 by omega),
    UInt8.reduceToNat]
  rw [if_neg (by omega), if_neg (by omega), if_pos (by omega), if_pos last]

theorem character?_three {a b c : Nat} (lead : 0xE0 ≤ a ∧ a < 0xF0)
    (second : 0x80 ≤ b ∧ b ≤ 0xBF ∧ (a = 0xE0 → 0xA0 ≤ b) ∧ (a = 0xED → b ≤ 0x9F))
    (last : 0x80 ≤ c ∧ c ≤ 0xBF) (rest : Bytes) :
    character? (a.toUInt8 :: b.toUInt8 :: c.toUInt8 :: rest) =
      some (Char.ofNat ((a - 0xE0) * 4096 + (b - 0x80) * 64 + (c - 0x80)), rest) := by
  simp only [character?, UInt8.lt_iff_toNat_lt, isContinuation_iff, isSecond_iff,
    Bool.and_eq_true, toNat_toUInt8 (show a < 256 by omega), toNat_toUInt8 (show b < 256 by omega),
    toNat_toUInt8 (show c < 256 by omega), UInt8.reduceToNat]
  rw [if_neg (by omega), if_neg (by omega), if_neg (by omega), if_pos (by omega),
    if_pos (by omega)]

theorem character?_four {a b c d : Nat} (lead : 0xF0 ≤ a ∧ a < 0xF5)
    (second : 0x80 ≤ b ∧ b ≤ 0xBF ∧ (a = 0xF0 → 0x90 ≤ b) ∧ (a = 0xF4 → b ≤ 0x8F))
    (third : 0x80 ≤ c ∧ c ≤ 0xBF) (last : 0x80 ≤ d ∧ d ≤ 0xBF) (rest : Bytes) :
    character? (a.toUInt8 :: b.toUInt8 :: c.toUInt8 :: d.toUInt8 :: rest) =
      some (Char.ofNat
        ((a - 0xF0) * 262144 + (b - 0x80) * 4096 + (c - 0x80) * 64 + (d - 0x80)), rest) := by
  simp only [character?, UInt8.lt_iff_toNat_lt, isContinuation_iff, isSecond_iff,
    Bool.and_eq_true, toNat_toUInt8 (show a < 256 by omega), toNat_toUInt8 (show b < 256 by omega),
    toNat_toUInt8 (show c < 256 by omega), toNat_toUInt8 (show d < 256 by omega),
    UInt8.reduceToNat]
  rw [if_neg (by omega), if_neg (by omega), if_neg (by omega), if_neg (by omega),
    if_pos (by omega), if_pos (by omega)]

theorem character?_encode (c : Char) (rest : Bytes) :
    character? (encode c ++ rest) = some (c, rest) := by
  have valid := toNat_valid c
  have recover := Char.ofNat_toNat c
  unfold encode
  generalize c.toNat = n at valid recover
  subst recover
  simp only
  split
  · exact character?_one (by omega) rest
  split
  · rw [List.cons_append, List.cons_append, List.nil_append,
      character?_two (by omega) (by omega)]
    have number : (0xC0 + n / 64 - 0xC0) * 64 + (0x80 + n % 64 - 0x80) = n := by omega
    rw [number]
  split
  · rw [List.cons_append, List.cons_append, List.cons_append, List.nil_append,
      character?_three (by omega) (by omega) (by omega)]
    have number :
        (0xE0 + n / 4096 - 0xE0) * 4096 + (0x80 + n / 64 % 64 - 0x80) * 64 +
          (0x80 + n % 64 - 0x80) = n := by omega
    rw [number]
  · rw [List.cons_append, List.cons_append, List.cons_append, List.cons_append, List.nil_append,
      character?_four (by omega) (by omega) (by omega) (by omega)]
    have number :
        (0xF0 + n / 262144 - 0xF0) * 262144 + (0x80 + n / 4096 % 64 - 0x80) * 4096 +
          (0x80 + n / 64 % 64 - 0x80) * 64 + (0x80 + n % 64 - 0x80) = n := by omega
    rw [number]

theorem encode_one {a : UInt8} (bound : a.toNat < 0x80) : encode (Char.ofNat a.toNat) = [a] := by
  have number := toNat_ofNat (show a.toNat < 0xD800 ∨ _ by omega)
  simp only [encode, number]
  rw [if_pos bound, toUInt8_toNat]

theorem encode_two {a b : UInt8} (lead : 0xC2 ≤ a.toNat ∧ a.toNat < 0xE0)
    (last : 0x80 ≤ b.toNat ∧ b.toNat ≤ 0xBF) :
    encode (Char.ofNat ((a.toNat - 0xC0) * 64 + (b.toNat - 0x80))) = [a, b] := by
  have number := toNat_ofNat
    (show (a.toNat - 0xC0) * 64 + (b.toNat - 0x80) < 0xD800 ∨ _ by omega)
  simp only [encode, number]
  rw [if_neg (by omega), if_pos (by omega)]
  have first : 0xC0 + ((a.toNat - 0xC0) * 64 + (b.toNat - 0x80)) / 64 = a.toNat := by omega
  have second : 0x80 + ((a.toNat - 0xC0) * 64 + (b.toNat - 0x80)) % 64 = b.toNat := by omega
  rw [first, second, toUInt8_toNat, toUInt8_toNat]

theorem encode_three {a b c : UInt8} (lead : 0xE0 ≤ a.toNat ∧ a.toNat < 0xF0)
    (second : isSecond a b = true) (last : 0x80 ≤ c.toNat ∧ c.toNat ≤ 0xBF) :
    encode (Char.ofNat
      ((a.toNat - 0xE0) * 4096 + (b.toNat - 0x80) * 64 + (c.toNat - 0x80))) = [a, b, c] := by
  rw [isSecond_iff] at second
  have number := toNat_ofNat
    (show (a.toNat - 0xE0) * 4096 + (b.toNat - 0x80) * 64 + (c.toNat - 0x80) < 0xD800 ∨ _ by omega)
  simp only [encode, number]
  generalize total : (a.toNat - 0xE0) * 4096 + (b.toNat - 0x80) * 64 + (c.toNat - 0x80) = n
  rw [if_neg (by omega), if_neg (by omega), if_pos (by omega)]
  have first : 0xE0 + n / 4096 = a.toNat := by omega
  have middle : 0x80 + n / 64 % 64 = b.toNat := by omega
  have final : 0x80 + n % 64 = c.toNat := by omega
  rw [first, middle, final, toUInt8_toNat, toUInt8_toNat, toUInt8_toNat]

theorem encode_four {a b c d : UInt8} (lead : 0xF0 ≤ a.toNat ∧ a.toNat < 0xF5)
    (second : isSecond a b = true) (third : 0x80 ≤ c.toNat ∧ c.toNat ≤ 0xBF)
    (last : 0x80 ≤ d.toNat ∧ d.toNat ≤ 0xBF) :
    encode (Char.ofNat
      ((a.toNat - 0xF0) * 262144 + (b.toNat - 0x80) * 4096 + (c.toNat - 0x80) * 64 +
        (d.toNat - 0x80))) = [a, b, c, d] := by
  rw [isSecond_iff] at second
  generalize total :
    (a.toNat - 0xF0) * 262144 + (b.toNat - 0x80) * 4096 + (c.toNat - 0x80) * 64 +
      (d.toNat - 0x80) = n
  have number := toNat_ofNat (show n < 0xD800 ∨ _ by omega)
  simp only [encode, number]
  rw [if_neg (by omega), if_neg (by omega), if_neg (by omega)]
  have first : 0xF0 + n / 262144 = a.toNat := by omega
  have middle : 0x80 + n / 4096 % 64 = b.toNat := by omega
  have next : 0x80 + n / 64 % 64 = c.toNat := by omega
  have final : 0x80 + n % 64 = d.toNat := by omega
  rw [first, middle, next, final, toUInt8_toNat, toUInt8_toNat, toUInt8_toNat, toUInt8_toNat]

theorem encode_of_character? {text rest : Bytes} {c : Char}
    (h : character? text = some (c, rest)) : encode c ++ rest = text := by
  revert h
  fun_cases character? text with
  | case2 a tail ascii =>
      intro h
      obtain ⟨rfl, rfl⟩ := Prod.mk.inj (Option.some.inj h)
      rw [encode_one ascii]
      rfl
  | case4 a notAscii notLow lead b tail last =>
      intro h
      obtain ⟨rfl, rfl⟩ := Prod.mk.inj (Option.some.inj h)
      rw [isContinuation_iff] at last
      simp only [UInt8.lt_iff_toNat_lt, UInt8.reduceToNat] at notLow lead
      rw [encode_two (by omega) last]
      rfl
  | case7 a notAscii notLow notTwo lead b d tail following =>
      intro h
      obtain ⟨rfl, rfl⟩ := Prod.mk.inj (Option.some.inj h)
      rw [Bool.and_eq_true, isContinuation_iff] at following
      simp only [UInt8.lt_iff_toNat_lt, UInt8.reduceToNat] at notTwo lead
      rw [encode_three (by omega) following.1 following.2]
      rfl
  | case10 a notAscii notLow notTwo notThree lead b d e tail following =>
      intro h
      obtain ⟨rfl, rfl⟩ := Prod.mk.inj (Option.some.inj h)
      simp only [Bool.and_eq_true, isContinuation_iff] at following
      simp only [UInt8.lt_iff_toNat_lt, UInt8.reduceToNat] at notThree lead
      rw [encode_four (by omega) following.1.1 following.1.2 following.2]
      rfl
  | _ => rintro ⟨⟩

/-- Reading the first piece takes nothing but its bytes. -/
theorem bytes_of_next? {text rest : Bytes} {piece : Piece}
    (h : next? text = some (piece, rest)) : piece.bytes ++ rest = text := by
  cases text with
  | nil => simp [next?] at h
  | cons first others =>
      cases found : character? (first :: others) with
      | none =>
          simp only [next?, found, Option.some.injEq, Prod.mk.injEq] at h
          obtain ⟨rfl, rfl⟩ := h
          rfl
      | some result =>
          simp only [next?, found, Option.some.injEq, Prod.mk.injEq] at h
          obtain ⟨rfl, rfl⟩ := h
          exact encode_of_character? found

theorem piecesOnto_append (done before : List Piece) (text : Bytes) :
    piecesOnto (done ++ before) text = before.reverse ++ piecesOnto done text := by
  fun_induction piecesOnto done text with
  | case1 done text found =>
      rw [piecesOnto]
      split
      · exact List.reverse_append
      · simp_all
  | case2 done text piece rest found induction =>
      rw [piecesOnto]
      split
      · simp_all
      · rename_i foundAgain
        rw [found] at foundAgain
        obtain ⟨rfl, rfl⟩ := Prod.mk.inj (Option.some.inj foundAgain)
        exact induction

@[simp] theorem pieces_nil : pieces [] = [] := by
  rw [pieces, piecesOnto]
  rfl

theorem pieces_of_next? {text rest : Bytes} {piece : Piece}
    (h : next? text = some (piece, rest)) : pieces text = piece :: pieces rest := by
  have unfolded : pieces text = piecesOnto [piece] rest := by
    rw [pieces, piecesOnto]
    split
    · simp_all
    · rename_i found
      rw [h] at found
      obtain ⟨rfl, rfl⟩ := Prod.mk.inj (Option.some.inj found)
      rfl
  rw [unfolded]
  exact piecesOnto_append [] [piece] rest

theorem next?_eq_none {text : Bytes} (h : next? text = none) : text = [] := by
  cases text with
  | nil => rfl
  | cons first rest =>
      cases found : character? (first :: rest) <;> simp [next?, found] at h

theorem flatMap_bytes_pieces (text : Bytes) : (pieces text).flatMap Piece.bytes = text := by
  cases found : next? text with
  | none =>
      rw [next?_eq_none found]
      simp
  | some result =>
      obtain ⟨piece, rest⟩ := result
      have shorter := length_of_next? found
      rw [pieces_of_next? found, List.flatMap_cons, flatMap_bytes_pieces rest]
      exact bytes_of_next? found
termination_by text.length

@[simp] theorem decode_nil : decode [] = [] := by
  rw [decode, pieces_nil, List.map_nil]

theorem decode_of_next? {text rest : Bytes} {piece : Piece}
    (h : next? text = some (piece, rest)) : decode text = piece.char :: decode rest := by
  rw [decode, pieces_of_next? h, List.map_cons, decode]

theorem length_of_isPartial {text : Bytes} (unsettled : isPartial text = true) :
    text.length < 4 := by
  match text with
  | [] | [_] | [_, _] | [_, _, _] => simp
  | _ :: _ :: _ :: _ :: _ => cases unsettled

theorem character?_append {text rest : Bytes} {c : Char}
    (found : character? text = some (c, rest)) (more : Bytes) :
    character? (text ++ more) = some (c, rest ++ more) := by
  rw [← encode_of_character? found, List.append_assoc, character?_encode]

theorem character?_append_eq_none {text : Bytes} (settled : isPartial text = false)
    (missing : character? text = none) (more : Bytes) : character? (text ++ more) = none := by
  match text with
  | [] => cases settled
  | [a] | [a, b] | [a, b, c] =>
      simp only [isPartial, character?, List.cons_append, List.nil_append] at *
      grind
  | a :: b :: c :: d :: rest =>
      simp only [isPartial, character?, List.cons_append] at *
      grind

/-- Bytes that come later do not change a first piece that they cannot complete. -/
theorem next?_append {text rest : Bytes} {piece : Piece} (settled : isPartial text = false)
    (found : next? text = some (piece, rest)) (more : Bytes) :
    next? (text ++ more) = some (piece, rest ++ more) := by
  cases text with
  | nil => cases found
  | cons first others =>
      cases known : character? (first :: others) with
      | none =>
          have unknown := character?_append_eq_none settled known more
          simp only [next?, known, Option.some.injEq, Prod.mk.injEq] at found
          obtain ⟨rfl, rfl⟩ := found
          rw [List.cons_append] at unknown ⊢
          simp only [next?, unknown]
      | some result =>
          obtain ⟨c, behind⟩ := result
          have again := character?_append known more
          simp only [next?, known, Option.some.injEq, Prod.mk.injEq] at found
          obtain ⟨rfl, rfl⟩ := found
          rw [List.cons_append] at again ⊢
          simp only [next?, again]

theorem next?_encode (c : Char) (rest : Bytes) :
    next? (encode c ++ rest) = some (.character c, rest) := by
  have found := character?_encode c rest
  cases known : encode c ++ rest with
  | nil =>
      rw [known] at found
      cases found
  | cons first others =>
      rw [known] at found
      simp only [next?, found]

theorem next?_encodeAll_cons (c : Char) (text : List Char) (rest : Bytes) :
    next? (encodeAll (c :: text) ++ rest) = some (.character c, encodeAll text ++ rest) := by
  rw [encodeAll, List.flatMap_cons, List.append_assoc]
  exact next?_encode c _

/-- A first piece stays what it is when some of what follows it is cut off. -/
theorem next?_of_isPrefix {text rest part : Bytes} {piece : Piece}
    (found : next? text = some (piece, rest)) (cut : part <+: rest) :
    next? (piece.bytes ++ part) = some (piece, part) := by
  obtain ⟨more, rfl⟩ := cut
  cases text with
  | nil => cases found
  | cons first others =>
      cases known : character? (first :: others) with
      | none =>
          simp only [next?, known, Option.some.injEq, Prod.mk.injEq] at found
          obtain ⟨rfl, rfl⟩ := found
          have unknown : character? (first :: part) = none := by
            cases shorter : character? (first :: part) with
            | none => rfl
            | some result =>
                have longer := character?_append shorter more
                rw [List.cons_append, known] at longer
                cases longer
          simp only [Piece.bytes, List.cons_append, List.nil_append, next?, unknown]
      | some result =>
          simp only [next?, known, Option.some.injEq, Prod.mk.injEq] at found
          obtain ⟨rfl, _⟩ := found
          exact next?_encode result.1 part

/-- A character outside of ASCII is encoded without ASCII bytes. -/
theorem le_of_mem_encode {c : Char} (wide : 0x80 ≤ c.toNat) {b : UInt8} (member : b ∈ encode c) :
    0x80 ≤ b.toNat := by
  have valid := toNat_valid c
  unfold encode at member
  generalize c.toNat = n at valid wide member
  simp only [if_neg (show ¬ n < 0x80 by omega)] at member
  split at member
  · simp only [List.mem_cons, List.not_mem_nil, or_false] at member
    rcases member with rfl | rfl <;> rw [toNat_toUInt8] <;> omega
  split at member
  · simp only [List.mem_cons, List.not_mem_nil, or_false] at member
    rcases member with rfl | rfl | rfl <;> rw [toNat_toUInt8] <;> omega
  · simp only [List.mem_cons, List.not_mem_nil, or_false] at member
    rcases member with rfl | rfl | rfl | rfl <;> rw [toNat_toUInt8] <;> omega

end RegisterMachine.Text.Utf8
