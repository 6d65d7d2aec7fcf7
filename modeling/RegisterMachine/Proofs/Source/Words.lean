import RegisterMachine.Proofs.Source.Enclosed
import RegisterMachine.Proofs.Text.Quoted

/-! How a line falls into words. A word that is written with a gap behind it is read back, whether it
is plain or a quoted text, and a word that starts an expression is closed by a parenthesis. -/

namespace RegisterMachine.Source

theorem isGap_ne {b other : UInt8} (gap : isGap b = true) (noGap : isGap other = false) :
    b ≠ other := by
  intro same
  rw [same, noGap] at gap
  cases gap

@[simp] theorem words_nil : words [] = .ok [] := by
  rw [words]

theorem words_gap {b : UInt8} (gap : isGap b = true) (rest : Bytes) :
    words (b :: rest) = words rest := by
  rw [words, if_neg (isGap_ne gap (by decide)), if_pos gap]

theorem words_comment (text : Bytes) : words (byte ';' :: text) = .ok [] := by
  rw [words, if_pos rfl]

/-- A line that starts with a word is that word and the words of the rest. -/
theorem words_eq_bind {b : UInt8} (comment : b ≠ byte ';') (gap : isGap b = false) (rest : Bytes) :
    words (b :: rest) =
      wordLength (b :: rest) >>= fun n =>
        (words ((b :: rest).drop n)).map ((b :: rest).take n :: ·) := by
  rw [words, if_neg comment, gap]
  simp only [Bool.false_eq_true, ↓reduceIte]
  split
  · rename_i unfinished found
    rw [found]
    rfl
  · rename_i n found
    rw [found]
    cases following : words ((b :: rest).drop n) with
    | error unfinished => simp only [Bind.bind, Except.bind, following, Except.map]
    | ok others => simp only [Bind.bind, Except.bind, following, Except.map]

/-- A word is taken off a line at its length. -/
theorem words_cons {b : UInt8} {tail rest : Bytes} {others : List Bytes}
    (comment : b ≠ byte ';') (gap : isGap b = false)
    (length : wordLength (b :: tail ++ rest) = .ok (b :: tail).length)
    (following : words rest = .ok others) :
    words (b :: tail ++ rest) = .ok ((b :: tail) :: others) := by
  rw [List.cons_append, words_eq_bind comment gap, ← List.cons_append, length]
  simp only [Bind.bind, Except.bind, List.drop_left, List.take_left, following, Except.map]

theorem wordLength_quote (rest : Bytes) :
    wordLength (byte '"' :: rest) = (stringEnd? 1 rest).elim (.error .string) .ok := by
  cases closed : stringEnd? 1 rest with
  | none => simp [wordLength, closed]
  | some n => simp [wordLength, closed]

theorem wordLength_expression (inner : Bytes) :
    wordLength (byte '$' :: byte '(' :: inner) =
      (expressionEnd? 0 2 inner).elim (.error .expression) .ok := by
  have notQuote : byte '$' ≠ byte '"' := by decide
  cases closed : expressionEnd? 0 2 inner with
  | none => simp [wordLength, notQuote, startsExpression, closed]
  | some n => simp [wordLength, notQuote, startsExpression, closed]

theorem wordLength_plain {b : UInt8} {rest : Bytes} (notQuote : b ≠ byte '"')
    (unmarked : startsExpression (b :: rest) = false) :
    wordLength (b :: rest) = .ok ((b :: rest).takeWhile isPlain).length := by
  simp [wordLength, notQuote, unmarked]

/-- Words of plain bytes that do not start an expression. -/
structure IsPlainWord (word : Bytes) : Prop where
  nonempty : word ≠ []
  plain : ∀ b ∈ word, isPlain b = true
  unmarked : startsExpression word = false

/-- What can stand behind a plain word. -/
def EndsWord : Bytes → Prop
  | [] => True
  | b :: _ => isPlain b = false

theorem isGap_of_isPlain {b : UInt8} (plain : isPlain b = true) :
    isGap b = false ∧ b ≠ byte ';' ∧ b ≠ byte '"' := by
  simpa [isPlain, and_assoc] using plain

theorem startsExpression_append {b : UInt8} {rest back : Bytes} (ended : EndsWord back)
    (unmarked : startsExpression (b :: rest) = false) :
    startsExpression (b :: rest ++ back) = false := by
  match rest, back with
  | _ :: _, _ => exact unmarked
  | [], [] => exact unmarked
  | [], c :: others =>
      have notOpen : c ≠ byte '(' := by
        rintro rfl
        exact absurd (show isPlain (byte '(') = false from ended) (by decide)
      simp [startsExpression, notOpen]

theorem takeWhile_isPlain_append {back : Bytes} (ended : EndsWord back) (line : Bytes) :
    (line ++ back).takeWhile isPlain = line.takeWhile isPlain := by
  induction line with
  | nil =>
      cases back with
      | nil => rfl
      | cons c others => exact List.takeWhile_cons_of_neg (by simpa [EndsWord] using ended)
  | cons b rest induction => simp only [List.cons_append, List.takeWhile_cons, induction]

theorem wordLength_of_isPlainWord {word rest : Bytes} (isWord : IsPlainWord word)
    (ended : EndsWord rest) : wordLength (word ++ rest) = .ok word.length := by
  obtain ⟨b, tail, rfl⟩ := List.exists_cons_of_ne_nil isWord.nonempty
  obtain ⟨_, _, notQuote⟩ := isGap_of_isPlain (isWord.plain b List.mem_cons_self)
  have unmarked := startsExpression_append ended isWord.unmarked
  rw [List.cons_append] at unmarked ⊢
  rw [wordLength_plain notQuote unmarked, ← List.cons_append, takeWhile_isPlain_append ended,
    List.takeWhile_eq_self_iff.mpr isWord.plain]

theorem words_plain {word rest : Bytes} {others : List Bytes} (isWord : IsPlainWord word)
    (ended : EndsWord rest) (following : words rest = .ok others) :
    words (word ++ rest) = .ok (word :: others) := by
  have length := wordLength_of_isPlainWord isWord ended
  obtain ⟨b, tail, rfl⟩ := List.exists_cons_of_ne_nil isWord.nonempty
  obtain ⟨gap, comment, _⟩ := isGap_of_isPlain (isWord.plain b List.mem_cons_self)
  exact words_cons comment gap length following

theorem isQuotable_of_isInner {bytes : Bytes} (inner : ∀ b ∈ bytes, Text.isInner b = true) :
    IsQuotable bytes := by
  induction bytes with
  | nil => exact .nil
  | cons b tail induction =>
      obtain ⟨first, others⟩ := List.forall_mem_cons.mp inner
      simp only [Text.isInner, Bool.and_eq_true, bne_iff_ne] at first
      exact .single first.1.1 first.1.2 (induction others)

/-- The closing quote of a string is not among the bytes written for a piece. -/
theorem isQuotable_of_written {bytes : Bytes} (written : Text.Written bytes) : IsQuotable bytes := by
  cases written with
  | plain inner => exact isQuotable_of_isInner inner
  | escaped onLine inner => exact .pair _ (isQuotable_of_isInner inner)

theorem isQuotable_pieces (pieces : List Text.Utf8.Piece) :
    IsQuotable (pieces.flatMap Text.quotePiece) := by
  induction pieces with
  | nil => exact .nil
  | cons piece others induction =>
      rw [List.flatMap_cons]
      exact (isQuotable_of_written (Text.written_quotePiece piece)).append induction

theorem words_quote (text : Bytes) {rest : Bytes} {others : List Bytes}
    (following : words rest = .ok others) :
    words (Text.quote text ++ rest) = .ok (Text.quote text :: others) := by
  refine words_cons (by decide) (by decide) ?_ following
  rw [List.cons_append, List.append_assoc, List.singleton_append, wordLength_quote,
    stringEnd?_of_isQuotable (isQuotable_pieces _)]
  simp only [Option.elim_some, List.length_cons, List.length_append, List.length_nil]
  congr 1
  omega

theorem startsExpression_of_take {line : Bytes} {n : Nat}
    (marked : startsExpression (line.take n) = true) : startsExpression line = true := by
  match line, n, marked with
  | [], n, marked => simp [startsExpression] at marked
  | [_], 0, marked => simp [startsExpression] at marked
  | [_], n + 1, marked => simp [startsExpression] at marked
  | _ :: _ :: _, 0, marked => simp [startsExpression] at marked
  | _ :: _ :: _, 1, marked => simp [startsExpression] at marked
  | _ :: _ :: _, n + 2, marked => exact marked

theorem startsExpression_iff {word : Bytes} :
    startsExpression word = true ↔ ∃ rest, word = byte '$' :: byte '(' :: rest := by
  match word with
  | [] => simp [startsExpression]
  | [_] => simp [startsExpression]
  | a :: b :: rest => simp [startsExpression]

theorem getLast?_take_wordLength {line : Bytes} {n : Nat} (found : wordLength line = .ok n)
    (marked : startsExpression (line.take n) = true) :
    (line.take n).getLast? = some (byte ')') := by
  obtain ⟨rest, rfl⟩ := startsExpression_iff.mp (startsExpression_of_take marked)
  rw [wordLength_expression] at found
  cases closed : expressionEnd? 0 2 rest with
  | none => simp [closed] at found
  | some m =>
      obtain rfl : m = n := by simpa [closed] using found
      obtain ⟨inner, tail, _, rfl, rfl⟩ := closes_of_expressionEnd? closed
      have whole : byte '$' :: byte '(' :: (inner ++ byte ')' :: tail) =
          (byte '$' :: byte '(' :: inner ++ [byte ')']) ++ tail := by simp
      have length : 2 + inner.length + 1 =
          (byte '$' :: byte '(' :: inner ++ [byte ')']).length := by
        simp only [List.length_append, List.length_cons, List.length_nil]
        omega
      rw [whole, length, List.take_left, List.getLast?_concat]

/-- An expression among the words of a line ends with its closing parenthesis. -/
theorem getLast?_of_mem_words {line : Bytes} {found : List Bytes} (split : words line = .ok found)
    {word : Bytes} (member : word ∈ found) (marked : startsExpression word = true) :
    word.getLast? = some (byte ')') := by
  revert split
  fun_induction words line generalizing found with
  | case1 =>
      rintro ⟨⟩
      cases member
  | case2 =>
      rintro ⟨⟩
      cases member
  | case3 b rest comment gap induction => exact induction member
  | case4 => rintro ⟨⟩
  | case5 b rest comment gap n length others following induction =>
      intro split
      obtain rfl := Except.ok.inj split
      rcases List.mem_cons.mp member with rfl | later
      · exact getLast?_take_wordLength length marked
      · exact induction later following
  | case6 => rintro ⟨⟩

end RegisterMachine.Source
