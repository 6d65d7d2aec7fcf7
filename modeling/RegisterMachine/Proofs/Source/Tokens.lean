import RegisterMachine.Proofs.Source.Layout

/-! The tokens of a line. A line is split into words exactly as its tokens and the gaps between them
spell it, and it cannot be split exactly if a string or an expression is started that nothing in the
line finishes. -/

namespace RegisterMachine.Source

def IsString (word : Bytes) : Prop :=
  ∃ inner, IsQuotable inner ∧ word = byte '"' :: (inner ++ [byte '"'])

/-- Expressions have balanced parentheses inside of theirs, which closes with the last byte only. -/
def IsExpression (word : Bytes) : Prop :=
  ∃ inner, Closes 0 inner ∧ word = byte '$' :: byte '(' :: (inner ++ [byte ')'])

inductive IsToken (word : Bytes) : Prop
  | string (isString : IsString word)
  | expression (isExpression : IsExpression word)
  | plain (isPlainWord : IsPlainWord word)

/-- Lines that start with words, between and around which lie gaps, and go on with `rest`. A plain
word reaches up to what ends it. -/
inductive Spells : List Bytes → Bytes → Bytes → Prop
  | done {rest : Bytes} : Spells [] rest rest
  | gap {found : List Bytes} {b : UInt8} {line rest : Bytes} (isGap : isGap b = true)
      (later : Spells found line rest) : Spells found (b :: line) rest
  | word {found : List Bytes} {word line rest : Bytes} (token : IsToken word)
      (ended : IsPlainWord word → EndsWord line) (later : Spells found line rest) :
      Spells (word :: found) (word ++ line) rest

/-- The end of a line, or a comment up to it. -/
def IsOver (rest : Bytes) : Prop :=
  rest = [] ∨ ∃ text, rest = byte ';' :: text

/-- The start of a string that is finished nowhere. -/
def LacksQuote (rest : Bytes) : Prop :=
  ∃ inner, rest = byte '"' :: inner ∧ ∀ word, IsString word → ¬ word <+: rest

/-- The start of an expression that is finished nowhere. -/
def LacksParenthesis (rest : Bytes) : Prop :=
  ∃ inner, rest = byte '$' :: byte '(' :: inner ∧ ∀ word, IsExpression word → ¬ word <+: rest

theorem stringEnd?_eq_none_iff {n : Nat} {text : Bytes} :
    stringEnd? n text = none ↔ ∀ word, IsString word → ¬ word <+: byte '"' :: text := by
  rw [finds_stringEnd?.eq_none_iff]
  constructor
  · rintro unfinished _ ⟨inner, quotable, rfl⟩ ⟨rest, shape⟩
    exact unfinished inner rest quotable (by simpa using shape.symm)
  · intro lacks inner rest quotable shape
    exact lacks _ ⟨inner, quotable, rfl⟩ ⟨rest, by simp [shape]⟩

theorem expressionEnd?_eq_none_iff {n : Nat} {text : Bytes} :
    expressionEnd? 0 n text = none ↔
      ∀ word, IsExpression word → ¬ word <+: byte '$' :: byte '(' :: text := by
  rw [(finds_expressionEnd? 0).eq_none_iff]
  constructor
  · rintro unfinished _ ⟨inner, balanced, rfl⟩ ⟨rest, shape⟩
    exact unfinished inner rest balanced (by simpa using shape.symm)
  · intro lacks inner rest balanced shape
    exact lacks _ ⟨inner, balanced, rfl⟩ ⟨rest, by simp [shape]⟩

section Words

theorem not_isPlainWord_of_isString {word : Bytes} (isString : IsString word) :
    ¬ IsPlainWord word := by
  obtain ⟨inner, _, rfl⟩ := isString
  intro isWord
  have plain := isWord.plain _ List.mem_cons_self
  revert plain
  decide

theorem not_isPlainWord_of_isExpression {word : Bytes} (isExpression : IsExpression word) :
    ¬ IsPlainWord word := by
  obtain ⟨inner, _, rfl⟩ := isExpression
  intro isWord
  cases isWord.unmarked

theorem IsToken.ne_nil {word : Bytes} (token : IsToken word) : word ≠ [] := by
  cases token with
  | string isString =>
      obtain ⟨inner, _, rfl⟩ := isString
      simp
  | expression isExpression =>
      obtain ⟨inner, _, rfl⟩ := isExpression
      simp
  | plain isWord => exact isWord.nonempty

/-- A token is the word that a line starts with. -/
theorem wordLength_of_isToken {word back : Bytes} (token : IsToken word)
    (ended : IsPlainWord word → EndsWord back) : wordLength (word ++ back) = .ok word.length := by
  cases token with
  | string isString =>
      obtain ⟨inner, quotable, rfl⟩ := isString
      have shape : byte '"' :: (inner ++ [byte '"']) ++ back =
          byte '"' :: (inner ++ byte '"' :: back) := by simp
      rw [shape, wordLength_quote, stringEnd?_of_isQuotable quotable, Option.elim_some]
      simp only [List.length_cons, List.length_append, List.length_nil]
      congr 1
      omega
  | expression isExpression =>
      obtain ⟨inner, balanced, rfl⟩ := isExpression
      have shape : byte '$' :: byte '(' :: (inner ++ [byte ')']) ++ back =
          byte '$' :: byte '(' :: (inner ++ byte ')' :: back) := by simp
      rw [shape, wordLength_expression, expressionEnd?_of_closes balanced, Option.elim_some]
      simp only [List.length_cons, List.length_append, List.length_nil]
      congr 1
      omega
  | plain isWord => exact wordLength_of_isPlainWord isWord (ended isWord)

/-- The word that a line starts with is a token, and a plain one reaches up to what ends it. -/
theorem exists_token_of_wordLength {b : UInt8} {rest : Bytes} {n : Nat} (comment : b ≠ byte ';')
    (gap : isGap b = false) (found : wordLength (b :: rest) = .ok n) :
    ∃ word back, b :: rest = word ++ back ∧ IsToken word ∧ (IsPlainWord word → EndsWord back) := by
  cases start_of_ne_nil (List.cons_ne_nil b rest) with
  | quote =>
      rw [wordLength_quote] at found
      cases closed : stringEnd? 1 rest with
      | none => simp [closed] at found
      | some m =>
          obtain ⟨inner, back, quotable, rfl, _⟩ := isQuotable_of_stringEnd? closed
          have isString : IsString (byte '"' :: (inner ++ [byte '"'])) := ⟨inner, quotable, rfl⟩
          exact ⟨_, back, by simp, .string isString,
            fun isWord => absurd isWord (not_isPlainWord_of_isString isString)⟩
  | expression text =>
      rw [wordLength_expression] at found
      cases closed : expressionEnd? 0 2 text with
      | none => simp [closed] at found
      | some m =>
          obtain ⟨inner, back, balanced, rfl, _⟩ := closes_of_expressionEnd? closed
          have isExpression : IsExpression (byte '$' :: byte '(' :: (inner ++ [byte ')'])) :=
            ⟨inner, balanced, rfl⟩
          exact ⟨_, back, by simp, .expression isExpression,
            fun isWord => absurd isWord (not_isPlainWord_of_isExpression isExpression)⟩
  | plain notQuote unmarked =>
      have plain : isPlain b = true := by simp [isPlain, gap, comment, notQuote]
      refine ⟨(b :: rest).takeWhile isPlain, (b :: rest).dropWhile isPlain,
        List.takeWhile_append_dropWhile.symm, .plain ⟨?_, ?_, ?_⟩, fun _ => ?_⟩
      · simp [plain]
      · exact fun c member => List.mem_takeWhile_imp member
      · rw [Bool.eq_false_iff]
        intro marked
        have whole : startsExpression (b :: rest) = true := by
          apply startsExpression_of_take
          rwa [List.takeWhile_eq_take_findIdx_not] at marked
        rw [unmarked] at whole
        cases whole
      · cases left : (b :: rest).dropWhile isPlain with
        | nil => trivial
        | cons c others =>
            have stops := List.head_dropWhile_not isPlain (left ▸ List.cons_ne_nil c others)
            simp only [left, List.head_cons] at stops
            exact stops

end Words

section Lines

variable {found : List Bytes} {line rest : Bytes}

theorem words_of_isToken {word : Bytes} (token : IsToken word)
    (ended : IsPlainWord word → EndsWord line) :
    words (word ++ line) = (words line).map (word :: ·) :=
  words_cut (List.forall_mem_nil _) token.ne_nil (wordLength_of_isToken token ended)

/-- Behind the words that a line starts with, it is split as what it goes on with. -/
theorem Spells.words_eq (spells : Spells found line rest) :
    words line = (words rest).map (found ++ ·) := by
  induction spells with
  | done =>
      rename_i line
      cases words line with
      | error unfinished => rfl
      | ok others => rfl
  | gap isGap later induction => rw [words_gap isGap, induction]
  | word token ended later induction =>
      rename_i word line rest
      rw [words_of_isToken token ended, induction]
      cases words rest with
      | error unfinished => rfl
      | ok others => rfl

theorem Spells.words_of_isOver (spells : Spells found line rest) (ended : IsOver rest) :
    words line = .ok found := by
  have none : words rest = .ok [] := by
    rcases ended with rfl | ⟨text, rfl⟩
    · exact words_nil
    · exact words_comment text
  rw [spells.words_eq, none, Except.map, List.append_nil]

theorem Spells.words_of_lacksQuote (spells : Spells found line rest) (lacks : LacksQuote rest) :
    words line = .error .string := by
  obtain ⟨inner, rfl, nowhere⟩ := lacks
  rw [spells.words_eq, words_eq_bind (by decide) (by decide), wordLength_quote,
    stringEnd?_eq_none_iff.mpr nowhere]
  rfl

theorem Spells.words_of_lacksParenthesis (spells : Spells found line rest)
    (lacks : LacksParenthesis rest) : words line = .error .expression := by
  obtain ⟨inner, rfl, nowhere⟩ := lacks
  rw [spells.words_eq, words_eq_bind (by decide) (by decide), wordLength_expression,
    expressionEnd?_eq_none_iff.mpr nowhere]
  rfl

/-- Words are lacking at the start of a line only if a string or an expression is not finished. -/
theorem lacks_of_wordLength {unfinished : Unfinished} (lacks : wordLength line = .error unfinished) :
    LacksQuote line ∨ LacksParenthesis line := by
  have started : line ≠ [] := by
    rintro rfl
    cases lacks
  cases start_of_ne_nil started with
  | quote inner =>
      rw [wordLength_quote] at lacks
      cases closed : stringEnd? 1 inner with
      | some m => simp [closed] at lacks
      | none => exact .inl ⟨inner, rfl, stringEnd?_eq_none_iff.mp closed⟩
  | expression inner =>
      rw [wordLength_expression] at lacks
      cases closed : expressionEnd? 0 2 inner with
      | some m => simp [closed] at lacks
      | none => exact .inr ⟨inner, rfl, expressionEnd?_eq_none_iff.mp closed⟩
  | plain notQuote unmarked =>
      rw [wordLength_plain notQuote unmarked] at lacks
      cases lacks

/-- Every line is spelled by words up to its end or up to a token that is not finished. -/
theorem exists_spells (line : Bytes) :
    ∃ found rest, Spells found line rest ∧
      (IsOver rest ∨ LacksQuote rest ∨ LacksParenthesis rest) := by
  induction length : line.length using Nat.strong_induction_on generalizing line with
  | h size induction =>
      subst length
      cases line with
      | nil => exact ⟨[], [], .done, .inl (.inl rfl)⟩
      | cons b others =>
          by_cases comment : b = byte ';'
          · subst comment
            exact ⟨[], _, .done, .inl (.inr ⟨others, rfl⟩)⟩
          by_cases gap : isGap b = true
          · obtain ⟨found, rest, spells, ends⟩ := induction others.length (by simp) others rfl
            exact ⟨found, rest, .gap gap spells, ends⟩
          cases lacks : wordLength (b :: others) with
          | error unfinished => exact ⟨[], _, .done, .inr (lacks_of_wordLength lacks)⟩
          | ok n =>
              obtain ⟨word, back, shape, token, ended⟩ :=
                exists_token_of_wordLength comment (by simpa using gap) lacks
              have shorter : back.length < (b :: others).length := by
                have filled := List.length_pos_iff.mpr token.ne_nil
                rw [shape, List.length_append]
                omega
              obtain ⟨found, rest, spells, ends⟩ := induction _ shorter back rfl
              rw [shape]
              exact ⟨word :: found, rest, .word token ended spells, ends⟩

theorem Spells.gaps {gaps : Bytes} (all : ∀ b ∈ gaps, isGap b = true)
    (spells : Spells found line rest) : Spells found (gaps ++ line) rest := by
  induction gaps with
  | nil => exact spells
  | cons b others induction =>
      obtain ⟨here, later⟩ := List.forall_mem_cons.mp all
      exact .gap here (induction later)

theorem endsWord_gaps_append {gaps : Bytes} (all : ∀ b ∈ gaps, isGap b = true)
    (ended : EndsWord rest) : EndsWord (gaps ++ rest) := by
  cases gaps with
  | nil => exact ended
  | cons b others => exact endsWord_gap (all b List.mem_cons_self) _

theorem endsWord_of_isOver (ended : IsOver rest) : EndsWord rest := by
  rcases ended with rfl | ⟨text, rfl⟩
  · trivial
  · change isPlain (byte ';') = false
    decide

/-- Tokens with gaps before each, which only the first of them can do without. -/
structure IsLaidOut (entries : List (Bytes × Bytes)) : Prop where
  gaps : ∀ entry ∈ entries, ∀ b ∈ entry.1, isGap b = true
  tokens : ∀ entry ∈ entries, IsToken entry.2
  apart : ∀ entry ∈ entries.tail, entry.1 ≠ []

theorem IsLaidOut.tail {entry : Bytes × Bytes} {entries : List (Bytes × Bytes)}
    (laidOut : IsLaidOut (entry :: entries)) : IsLaidOut entries where
  gaps other member := laidOut.gaps other (List.mem_cons_of_mem entry member)
  tokens other member := laidOut.tokens other (List.mem_cons_of_mem entry member)
  apart other member := laidOut.apart other (List.mem_of_mem_tail member)

/-- Behind a token that is laid out before others comes a gap, or the end. -/
theorem IsLaidOut.endsWord {entry : Bytes × Bytes} {entries : List (Bytes × Bytes)}
    (laidOut : IsLaidOut (entry :: entries)) (ended : EndsWord rest) :
    EndsWord (entries.flatMap (fun entry => entry.1 ++ entry.2) ++ rest) := by
  cases entries with
  | nil => exact ended
  | cons next others =>
      obtain ⟨b, more, shape⟩ :=
        List.exists_cons_of_ne_nil (laidOut.apart next List.mem_cons_self)
      rw [List.flatMap_cons, shape, List.cons_append, List.cons_append, List.cons_append]
      apply endsWord_gap
      apply laidOut.gaps next (List.mem_cons_of_mem entry List.mem_cons_self)
      rw [shape]
      exact List.mem_cons_self

theorem IsLaidOut.spells {entries : List (Bytes × Bytes)} {gaps last : Bytes}
    (laidOut : IsLaidOut entries) (all : ∀ b ∈ gaps, isGap b = true) (isOver : IsOver last) :
    Spells (entries.map Prod.snd)
      (entries.flatMap (fun entry => entry.1 ++ entry.2) ++ (gaps ++ last)) last := by
  have ended := endsWord_gaps_append all (endsWord_of_isOver isOver)
  induction entries with
  | nil =>
      rw [List.flatMap_nil, List.nil_append]
      exact Spells.done.gaps all
  | cons entry others induction =>
      rw [List.flatMap_cons, List.append_assoc, List.append_assoc]
      apply Spells.gaps (laidOut.gaps entry List.mem_cons_self)
      apply Spells.word (laidOut.tokens entry List.mem_cons_self)
      · intro _
        exact laidOut.endsWord ended
      · exact induction laidOut.tail

/-- A line has the words that spell it up to its end or its comment, and no words exactly if it is
spelled up to a string or an expression that nothing finishes. So tokens are read back from every line
in which gaps keep them apart. -/
theorem words_iff_spells (line : Bytes) :
    (∀ found, words line = .ok found ↔ ∃ rest, Spells found line rest ∧ IsOver rest) ∧
    (words line = .error .string ↔ ∃ found rest, Spells found line rest ∧ LacksQuote rest) ∧
    (words line = .error .expression ↔
      ∃ found rest, Spells found line rest ∧ LacksParenthesis rest) ∧
    ∀ entries gaps last, IsLaidOut entries → (∀ b ∈ gaps, isGap b = true) → IsOver last →
      words (entries.flatMap (fun entry => entry.1 ++ entry.2) ++ (gaps ++ last)) =
        .ok (entries.map Prod.snd) := by
  -- There is a spelling, and how it ends settles what the line comes to.
  obtain ⟨found, rest, spells, ends⟩ := exists_spells line
  refine ⟨fun others => ⟨fun split => ?_, ?_⟩, ⟨fun failed => ?_, ?_⟩, ⟨fun failed => ?_, ?_⟩, ?_⟩
  · rcases ends with isOver | lacks | lacks
    · obtain rfl := Except.ok.inj ((spells.words_of_isOver isOver).symm.trans split)
      exact ⟨rest, spells, isOver⟩
    · cases (spells.words_of_lacksQuote lacks).symm.trans split
    · cases (spells.words_of_lacksParenthesis lacks).symm.trans split
  · rintro ⟨_, spelled, isOver⟩
    exact spelled.words_of_isOver isOver
  · rcases ends with isOver | lacks | lacks
    · cases (spells.words_of_isOver isOver).symm.trans failed
    · exact ⟨found, rest, spells, lacks⟩
    · cases (spells.words_of_lacksParenthesis lacks).symm.trans failed
  · rintro ⟨_, _, spelled, lacks⟩
    exact spelled.words_of_lacksQuote lacks
  · rcases ends with isOver | lacks | lacks
    · cases (spells.words_of_isOver isOver).symm.trans failed
    · cases (spells.words_of_lacksQuote lacks).symm.trans failed
    · exact ⟨found, rest, spells, lacks⟩
  · rintro ⟨_, _, spelled, lacks⟩
    exact spelled.words_of_lacksParenthesis lacks
  · intro entries gaps last laidOut all isOver
    exact (laidOut.spells all isOver).words_of_isOver isOver

/-- A label, a string that holds a quote and a semicolon, an expression in parentheses of its own and a
plain word that could start one. -/
def samples : List (Bytes × Bytes) :=
  [([], utf8 "go:"), (utf8 " ", utf8 "\"\\\";\""), (utf8 ",\t", utf8 "$((1))"), (utf8 " ", utf8 "$")]

theorem isLaidOut_samples : IsLaidOut samples where
  gaps entry member := by
    have all : samples.all (fun entry => entry.1.all isGap) = true := by decide
    exact List.all_eq_true.mp (List.all_eq_true.mp all entry member)
  tokens entry member := by
    simp only [samples, List.mem_cons, List.not_mem_nil, or_false] at member
    rcases member with rfl | rfl | rfl | rfl
    · exact .plain ⟨by decide, List.all_eq_true.mp (by decide), rfl⟩
    · exact .string ⟨utf8 "\\\";", .pair _ (.single (by decide) (by decide) .nil), rfl⟩
    · refine .expression ⟨[byte '(', byte '1', byte ')'], closes_open_iff.mpr ?_, rfl⟩
      rw [closes_other_iff (by decide) (by decide)]
      exact closes_close_iff.mpr ⟨0, rfl, closes_nil_iff.mpr rfl⟩
    · exact .plain ⟨by decide, List.all_eq_true.mp (by decide), rfl⟩
  apart entry member := by
    have all : samples.tail.all (fun entry => !entry.1.isEmpty) = true := by decide
    simpa using List.all_eq_true.mp all entry member

theorem words_iff_spells_samples :
    words (utf8 "go: \"\\\";\",\t$((1)) $;x") = .ok (samples.map Prod.snd) ∧
      (∃ found rest, Spells found (utf8 "go:,\"\\\"") rest ∧ LacksQuote rest) ∧
      ∃ found rest, Spells found (utf8 "\"\"$((1)") rest ∧ LacksParenthesis rest := by
  obtain ⟨_, lacksQuote, _, laid⟩ := words_iff_spells (utf8 "go:,\"\\\"")
  obtain ⟨_, _, lacksParenthesis, _⟩ := words_iff_spells (utf8 "\"\"$((1)")
  refine ⟨?_, lacksQuote.mp (by decide +kernel), lacksParenthesis.mp (by decide +kernel)⟩
  exact laid samples [] (utf8 ";x") isLaidOut_samples (List.forall_mem_nil _) (.inr ⟨utf8 "x", rfl⟩)

end Lines

end RegisterMachine.Source
