import Mathlib.Algebra.Group.Nat.Defs
import RegisterMachine.Proofs.Text.Utf8
import RegisterMachine.Text.Quoted

/-! Quoting keeps every byte string: what is quoted is unquoted to the same bytes, valid or not. A
quoted text stays on one line, and only its last byte closes it. -/

namespace RegisterMachine.Text

open Utf8 (Piece)

theorem hexValue?_hexDigit : ∀ n < 16, hexValue? (hexDigit n) = some n := by
  decide

/-- Digits written in a row are read as the number they come from, on top of what was read before. -/
theorem digits?_hexDigits (width count n m : Nat) (rest : Bytes) :
    digits? hexValue? 16 (width + count) n (hexDigits width m ++ rest) =
      digits? hexValue? 16 count (n * 16 ^ width + m % 16 ^ width) rest := by
  induction width generalizing count m rest with
  | zero => simp [hexDigits, Nat.mod_one]
  | succ width induction =>
      have digit := hexValue?_hexDigit (m % 16) (Nat.mod_lt m (by decide))
      have value :
          (n * 16 ^ width + m / 16 % 16 ^ width) * 16 + m % 16 =
            n * 16 ^ (width + 1) + m % 16 ^ (width + 1) := by
        rw [Nat.pow_succ', Nat.mod_mul, Nat.add_mul, Nat.mul_assoc, Nat.mul_comm 16 (16 ^ width)]
        omega
      rw [hexDigits, List.append_assoc, Nat.add_assoc, Nat.add_comm 1 count, induction]
      simp only [List.cons_append, List.nil_append, digits?, digit]
      rw [value]

theorem digits?_hexDigits_zero {width m : Nat} (bound : m < 16 ^ width) (rest : Bytes) :
    digits? hexValue? 16 width 0 (hexDigits width m ++ rest) = some (m, rest) := by
  have read := digits?_hexDigits width 0 0 m rest
  rw [Nat.add_zero, Nat.zero_mul, Nat.zero_add, Nat.mod_eq_of_lt bound] at read
  rw [read, digits?]

theorem escape?_quoteByte (b : UInt8) (rest : Bytes) :
    escape? (byte 'x' :: (hexDigits 2 b.toNat ++ rest)) = some ([b], rest) := by
  have letter : letterEscapes.lookup (byte 'x') = none := by decide
  have plain : ¬ (byte 'x' = byte '\\' || byte 'x' = byte '"') := by decide
  have read := digits?_hexDigits_zero (show b.toNat < 16 ^ 2 from b.toNat_lt) rest
  simp only [escape?, letter, plain, read, Utf8.toUInt8_toNat]
  rfl

theorem encodeNumber?_toNat (c : Char) : encodeNumber? c.toNat = some (Utf8.encode c) := by
  have valid := Utf8.toNat_valid c
  simp only [encodeNumber?, Char.ofNat_toNat]
  rw [if_pos (by simp; omega)]

theorem escape?_short {c : Char} (bound : c.toNat < 0x10000) (rest : Bytes) :
    escape? (byte 'u' :: (hexDigits 4 c.toNat ++ rest)) = some (Utf8.encode c, rest) := by
  have letter : letterEscapes.lookup (byte 'u') = none := by decide
  have plain : ¬ (byte 'u' = byte '\\' || byte 'u' = byte '"') := by decide
  have notByte : ¬ byte 'u' = byte 'x' := by decide
  have read := digits?_hexDigits_zero (show c.toNat < 16 ^ 4 from bound) rest
  simp only [escape?, letter, plain, notByte, decide_true, Bool.true_or, ↓reduceIte, read,
    encodeNumber?_toNat]
  rfl

theorem escape?_long (c : Char) (rest : Bytes) :
    escape? (byte 'U' :: (hexDigits 8 c.toNat ++ rest)) = some (Utf8.encode c, rest) := by
  have valid := Utf8.toNat_valid c
  have letter : letterEscapes.lookup (byte 'U') = none := by decide
  have plain : ¬ (byte 'U' = byte '\\' || byte 'U' = byte '"') := by decide
  have notByte : ¬ byte 'U' = byte 'x' := by decide
  have notShort : ¬ byte 'U' = byte 'u' := by decide
  have read := digits?_hexDigits_zero (show c.toNat < 16 ^ 8 by omega) rest
  simp only [escape?, letter, plain, notByte, notShort, decide_true, Bool.or_true, ↓reduceIte,
    read, encodeNumber?_toNat]
  rfl

theorem lookup_of_letterFor? : ∀ b letter : UInt8,
    letterFor? b = some letter → letterEscapes.lookup letter = some b := by
  intro b letter found
  simp only [letterFor?, Option.map_eq_some_iff] at found
  obtain ⟨entry, found, rfl⟩ := found
  have member := List.mem_of_find?_eq_some found
  have same : entry.2 = b := by simpa using List.find?_some found
  subst same
  revert entry
  simp [letterEscapes]
  decide

theorem encode_ascii {c : Char} (ascii : c.toNat < 0x80) : Utf8.encode c = [byte c] := by
  simp only [Utf8.encode, if_pos ascii]
  rfl

theorem content?_backslash (rest : Bytes) : content? (byte '\\' :: rest) = escape? rest := by
  have notNewline : ¬ byte '\\' = byte '\n' := by decide
  simp only [content?, notNewline, ↓reduceIte]

theorem content?_escapeCharacter (c : Char) (rest : Bytes) :
    content? (escapeCharacter c ++ rest) = some (Utf8.encode c, rest) := by
  unfold escapeCharacter
  split
  · rename_i ascii
    rw [encode_ascii ascii]
    split
    · rename_i letter found
      rw [List.cons_append, content?_backslash]
      simp only [List.cons_append, escape?, lookup_of_letterFor? _ _ found]
      rfl
    · rw [quoteByte, List.cons_append, content?_backslash, List.cons_append, escape?_quoteByte]
  split
  · rename_i bound
    rw [List.cons_append, content?_backslash, List.cons_append, escape?_short bound]
  · rw [List.cons_append, content?_backslash, List.cons_append, escape?_long]

/-- Bytes that neither end a quoted text or its line nor start an escape. -/
def isInner (b : UInt8) : Bool :=
  b != byte '"' && b != byte '\\' && b != byte '\n'

theorem isInner_of_le {b : UInt8} (wide : 0x80 ≤ b.toNat) : isInner b = true := by
  have notQuote : b ≠ byte '"' := by rintro rfl; revert wide; decide
  have notBackslash : b ≠ byte '\\' := by rintro rfl; revert wide; decide
  have notNewline : b ≠ byte '\n' := by rintro rfl; revert wide; decide
  simp [isInner, notQuote, notBackslash, notNewline]

theorem isInner_byte : ∀ n < 0x80, 0x20 ≤ n → n ≠ '"'.toNat → n ≠ '\\'.toNat →
    isInner n.toUInt8 = true := by
  decide

theorem isInner_hexDigit : ∀ n < 16, isInner (hexDigit n) = true := by
  decide

theorem isInner_of_mem_hexDigits {width n : Nat} {b : UInt8} (member : b ∈ hexDigits width n) :
    isInner b = true := by
  induction width generalizing n with
  | zero => simp [hexDigits] at member
  | succ width induction =>
      rw [hexDigits, List.mem_append, List.mem_singleton] at member
      rcases member with earlier | rfl
      · exact induction earlier
      · exact isInner_hexDigit _ (Nat.mod_lt n (by decide))

/-- A printable character other than the quote and the backslash is written in inner bytes. -/
theorem isInner_of_mem_encode {c : Char} (notQuote : c ≠ '"') (notBackslash : c ≠ '\\')
    (printable : isPrintable c = true) {b : UInt8} (member : b ∈ Utf8.encode c) :
    isInner b = true := by
  by_cases ascii : c.toNat < 0x80
  · have blank : 0x20 ≤ c.toNat := by
      simp only [isPrintable, ascii, ↓reduceIte, Bool.and_eq_true, decide_eq_true_eq] at printable
      exact printable.1
    rw [encode_ascii ascii, List.mem_singleton] at member
    subst member
    apply isInner_byte c.toNat ascii blank
    · exact fun same => notQuote (Char.toNat_inj.mp same)
    · exact fun same => notBackslash (Char.toNat_inj.mp same)
  · exact isInner_of_le (Utf8.le_of_mem_encode (by omega) member)

/-- The bytes written for a piece: an escape whose mark no line ends at, or inner bytes alone. -/
inductive Written : Bytes → Prop
  | escaped {mark : UInt8} {rest : Bytes} (onLine : mark ≠ byte '\n')
      (inner : ∀ b ∈ rest, isInner b = true) : Written (byte '\\' :: mark :: rest)
  | plain {first : UInt8} {rest : Bytes}
      (inner : ∀ b ∈ first :: rest, isInner b = true) : Written (first :: rest)

theorem encode_ne_nil (c : Char) : Utf8.encode c ≠ [] := by
  unfold Utf8.encode
  simp only
  split
  · simp
  split
  · simp
  split <;> simp

theorem letterFor?_ne_newline {b letter : UInt8} (found : letterFor? b = some letter) :
    letter ≠ byte '\n' := by
  rintro rfl
  have absent : letterEscapes.lookup (byte '\n') = none := by decide
  rw [lookup_of_letterFor? _ _ found] at absent
  contradiction

theorem written_escapeCharacter (c : Char) : Written (escapeCharacter c) := by
  unfold escapeCharacter
  split
  · split
    · rename_i letter found
      exact .escaped (letterFor?_ne_newline found) (by simp)
    · exact .escaped (by decide) fun _ => isInner_of_mem_hexDigits
  split
  · exact .escaped (by decide) fun _ => isInner_of_mem_hexDigits
  · exact .escaped (by decide) fun _ => isInner_of_mem_hexDigits

theorem written_quotePiece (piece : Piece) : Written (quotePiece piece) := by
  cases piece with
  | stray b => exact .escaped (by decide) fun _ => isInner_of_mem_hexDigits
  | character c =>
      simp only [quotePiece, quoteCharacter]
      split
      · rename_i escaped
        simp only [Bool.or_eq_true, decide_eq_true_eq] at escaped
        refine .escaped ?_ (by simp)
        rcases escaped with rfl | rfl <;> decide
      split
      · rename_i ordinary printable
        simp only [Bool.or_eq_true, decide_eq_true_eq, not_or] at ordinary
        cases bytes : Utf8.encode c with
        | nil => exact absurd bytes (encode_ne_nil c)
        | cons first rest =>
            refine .plain fun b member => ?_
            rw [← bytes] at member
            exact isInner_of_mem_encode ordinary.1 ordinary.2 printable member
      · exact written_escapeCharacter c

/-- What is written for a piece is read back as its bytes. -/
theorem content?_quotePiece (piece : Piece) (rest : Bytes) :
    content? (quotePiece piece ++ rest) = some (piece.bytes, rest) := by
  cases piece with
  | stray b =>
      rw [quotePiece, quoteByte, List.cons_append, content?_backslash, List.cons_append,
        escape?_quoteByte]
      rfl
  | character c =>
      simp only [quotePiece, quoteCharacter]
      split
      · rename_i escaped
        simp only [Bool.or_eq_true, decide_eq_true_eq] at escaped
        rw [List.cons_append, content?_backslash]
        rcases escaped with rfl | rfl <;> rfl
      split
      · rename_i ordinary printable
        simp only [Bool.or_eq_true, decide_eq_true_eq, not_or] at ordinary
        have decoded := Utf8.character?_encode c rest
        cases bytes : Utf8.encode c with
        | nil => exact absurd bytes (encode_ne_nil c)
        | cons first others =>
            have inner := isInner_of_mem_encode ordinary.1 ordinary.2 printable
              (show first ∈ Utf8.encode c by simp [bytes])
            simp only [isInner, Bool.and_eq_true, bne_iff_ne, ne_eq] at inner
            rw [bytes] at decoded
            simp only [List.cons_append] at decoded
            simp only [List.cons_append, content?, inner, ↓reduceIte, decoded]
            rfl
      · exact content?_escapeCharacter c rest

theorem Written.head_ne_quote {bytes : Bytes} (written : Written bytes) :
    ∃ first rest, bytes = first :: rest ∧ first ≠ byte '"' := by
  cases written with
  | escaped onLine inner => exact ⟨_, _, rfl, by decide⟩
  | plain inner =>
      refine ⟨_, _, rfl, ?_⟩
      have := inner _ List.mem_cons_self
      simp_all [isInner]

theorem Written.newline_not_mem {bytes : Bytes} (written : Written bytes) :
    byte '\n' ∉ bytes := by
  have newline : isInner (byte '\n') = false := by decide
  cases written with
  | escaped onLine inner =>
      intro member
      rcases List.mem_cons.mp member with same | member
      · exact absurd same (by decide)
      rcases List.mem_cons.mp member with same | member
      · exact onLine same.symm
      · simp [inner _ member] at newline
  | plain inner =>
      intro member
      simp [inner _ member] at newline

theorem unquoteOnto_quotePiece (done : List Bytes) (piece : Piece) (rest : Bytes) :
    unquoteOnto done (quotePiece piece ++ rest) = unquoteOnto (piece.bytes :: done) rest := by
  obtain ⟨first, others, bytes, notQuote⟩ := (written_quotePiece piece).head_ne_quote
  have content := content?_quotePiece piece rest
  rw [bytes, List.cons_append] at content ⊢
  rw [unquoteOnto, if_neg notQuote]
  split
  · rename_i found
    rw [content] at found
    obtain ⟨rfl, rfl⟩ := Prod.mk.inj (Option.some.inj found)
    rfl
  · simp_all

theorem unquoteOnto_quoted (done : List Bytes) (pieces : List Piece) :
    unquoteOnto done (pieces.flatMap quotePiece ++ [byte '"']) =
      some (done.reverse.flatten ++ pieces.flatMap Piece.bytes) := by
  induction pieces generalizing done with
  | nil =>
      rw [List.flatMap_nil, List.nil_append, unquoteOnto]
      simp
  | cons piece rest induction =>
      rw [List.flatMap_cons, List.append_assoc, unquoteOnto_quotePiece, induction]
      simp

theorem unquote?_quote (text : Bytes) : unquote? (quote text) = some text := by
  rw [quote, unquote?, if_pos rfl, unquoteOnto_quoted, Utf8.flatMap_bytes_pieces]
  rfl

theorem newline_not_mem_quote (text : Bytes) : byte '\n' ∉ quote text := by
  intro member
  simp only [quote, List.mem_cons, List.mem_append, List.mem_flatMap, List.not_mem_nil,
    or_false] at member
  rcases member with same | ⟨piece, _, member⟩ | same
  · exact absurd same (by decide)
  · exact (written_quotePiece piece).newline_not_mem member
  · exact absurd same (by decide)

end RegisterMachine.Text
