import RegisterMachine.Proofs.Source.Lines
import RegisterMachine.Proofs.Source.Words

/-! The layout of a source: gaps, comments, blank lines and the ends of lines. None of it is left once
the lines are split into words. -/

namespace RegisterMachine.Source

/-- How a word can start. -/
inductive Start : Bytes → Prop
  | quote (rest : Bytes) : Start (byte '"' :: rest)
  | expression (inner : Bytes) : Start (byte '$' :: byte '(' :: inner)
  | plain {b : UInt8} {rest : Bytes} (notQuote : b ≠ byte '"')
      (unmarked : startsExpression (b :: rest) = false) : Start (b :: rest)

theorem start_of_ne_nil {line : Bytes} (started : line ≠ []) : Start line := by
  obtain ⟨b, rest, rfl⟩ := List.exists_cons_of_ne_nil started
  by_cases quote : b = byte '"'
  · subst quote
    exact .quote rest
  cases marked : startsExpression (b :: rest) with
  | false => exact .plain quote marked
  | true =>
      obtain ⟨inner, shape⟩ := startsExpression_iff.mp marked
      rw [shape]
      exact .expression inner

theorem wordLength_le {line : Bytes} {n : Nat} (found : wordLength line = .ok n) :
    n ≤ line.length := by
  cases line with
  | nil => exact (Except.ok.inj found).ge
  | cons b rest =>
      cases start_of_ne_nil (List.cons_ne_nil b rest) with
      | quote =>
          rw [wordLength_quote] at found
          cases closed : stringEnd? 1 rest with
          | none => simp [closed] at found
          | some m =>
              obtain rfl : m = n := by simpa [closed] using found
              have bound := finds_stringEnd?.le closed
              rwa [Nat.add_comm] at bound
      | expression inner =>
          rw [wordLength_expression] at found
          cases closed : expressionEnd? 0 2 inner with
          | none => simp [closed] at found
          | some m =>
              obtain rfl : m = n := by simpa [closed] using found
              have bound := (finds_expressionEnd? 0).le closed
              rwa [Nat.add_comm] at bound
      | plain notQuote unmarked =>
          rw [wordLength_plain notQuote unmarked] at found
          obtain rfl := Except.ok.inj found
          exact (List.takeWhile_sublist isPlain).length_le

theorem endsWord_gap {b : UInt8} (gap : isGap b = true) (rest : Bytes) : EndsWord (b :: rest) := by
  simp [EndsWord, isPlain, gap]

/-- What cannot belong to a word leaves the length of the word before it. -/
theorem wordLength_append {line back : Bytes} {n : Nat} (found : wordLength line = .ok n)
    (started : line ≠ []) (ended : EndsWord back) : wordLength (line ++ back) = .ok n := by
  cases start_of_ne_nil started with
  | quote rest =>
      rw [List.cons_append, wordLength_quote]
      rw [wordLength_quote] at found
      cases closed : stringEnd? 1 rest with
      | none => simp [closed] at found
      | some m => simpa [closed, finds_stringEnd?.append closed] using found
  | expression inner =>
      rw [List.cons_append, List.cons_append, wordLength_expression]
      rw [wordLength_expression] at found
      cases closed : expressionEnd? 0 2 inner with
      | none => simp [closed] at found
      | some m => simpa [closed, (finds_expressionEnd? 0).append closed] using found
  | plain notQuote unmarked =>
      have stillUnmarked := startsExpression_append ended unmarked
      rw [List.cons_append] at stillUnmarked ⊢
      rw [wordLength_plain notQuote stillUnmarked, ← List.cons_append,
        takeWhile_isPlain_append ended, ← wordLength_plain notQuote unmarked, found]

/-- A word that is not finished in a line is not finished by a gap at its end. -/
theorem wordLength_gap {line : Bytes} {b : UInt8} (gap : isGap b = true) (started : line ≠ []) :
    wordLength (line ++ [b]) = wordLength line := by
  cases found : wordLength line with
  | ok n => exact wordLength_append found started (endsWord_gap gap [])
  | error unfinished =>
      cases start_of_ne_nil started with
      | quote rest =>
          rw [List.cons_append, wordLength_quote]
          rw [wordLength_quote] at found
          cases closed : stringEnd? 1 rest with
          | some m => simp [closed] at found
          | none =>
              simpa [closed, finds_stringEnd?.concat (isGap_ne gap (by decide)) closed] using found
      | expression inner =>
          rw [List.cons_append, List.cons_append, wordLength_expression]
          rw [wordLength_expression] at found
          cases closed : expressionEnd? 0 2 inner with
          | some m => simp [closed] at found
          | none =>
              have stillOpen := (finds_expressionEnd? 0).concat (isGap_ne gap (by decide)) closed
              simpa [closed, stillOpen] using found
      | plain notQuote unmarked =>
          rw [wordLength_plain notQuote unmarked] at found
          cases found

/-- Where a line is split so far, what follows can be exchanged for what has the same words. -/
theorem words_congr {front left right : Bytes} {found : List Bytes} (read : words front = .ok found)
    (leftEnds : EndsWord left) (rightEnds : EndsWord right) (same : words left = words right) :
    words (front ++ left) = words (front ++ right) := by
  revert read
  fun_induction words front generalizing found with
  | case1 => exact fun _ => same
  | case2 rest => exact fun _ => (words_comment _).trans (words_comment _).symm
  | case3 b rest comment gap induction =>
      intro read
      rw [List.cons_append, List.cons_append, words_gap gap, words_gap gap]
      exact induction read
  | case4 => rintro ⟨⟩
  | case5 b rest comment gap n length others following induction =>
      intro _
      have ordinary : isGap b = false := by simpa using gap
      have within := wordLength_le length
      have leftLength := wordLength_append length (List.cons_ne_nil b rest) leftEnds
      have rightLength := wordLength_append length (List.cons_ne_nil b rest) rightEnds
      rw [List.cons_append] at leftLength rightLength
      rw [List.cons_append, List.cons_append, words_eq_bind comment ordinary,
        words_eq_bind comment ordinary, leftLength, rightLength, ← List.cons_append,
        ← List.cons_append]
      simp only [Bind.bind, Except.bind, List.drop_append_of_le_length within,
        List.take_append_of_le_length within, induction following]
  | case6 => rintro ⟨⟩

/-- A gap at the end of a line means nothing, even where a word is not finished. -/
theorem words_concat_gap {b : UInt8} (gap : isGap b = true) (line : Bytes) :
    words (line ++ [b]) = words line := by
  induction length : line.length using Nat.strong_induction_on generalizing line with
  | h size induction =>
      subst length
      cases line with
      | nil => rw [List.nil_append, words_gap gap]
      | cons c rest =>
          by_cases comment : c = byte ';'
          · subst comment
            exact (words_comment _).trans (words_comment _).symm
          by_cases inGap : isGap c = true
          · rw [List.cons_append, words_gap inGap, words_gap inGap]
            exact induction rest.length (by simp) rest rfl
          have ordinary : isGap c = false := by simpa using inGap
          rw [List.cons_append, words_eq_bind comment ordinary, words_eq_bind comment ordinary,
            ← List.cons_append, wordLength_gap gap (List.cons_ne_nil c rest)]
          cases found : wordLength (c :: rest) with
          | error unfinished => rfl
          | ok n =>
              have within := wordLength_le found
              have positive := wordLength_pos ordinary comment found
              have shorter : ((c :: rest).drop n).length < (c :: rest).length := by
                rw [List.length_drop, List.length_cons]
                omega
              simp only [Bind.bind, Except.bind, List.drop_append_of_le_length within,
                List.take_append_of_le_length within, induction _ shorter _ rfl]

theorem words_append_gaps {gaps : Bytes} (all : ∀ b ∈ gaps, isGap b = true) (line : Bytes) :
    words (line ++ gaps) = words line := by
  induction gaps generalizing line with
  | nil => rw [List.append_nil]
  | cons b rest induction =>
      rw [List.append_cons, induction (fun c member => all c (List.mem_cons_of_mem b member)),
        words_concat_gap (all b List.mem_cons_self)]

theorem words_gaps_append {gaps : Bytes} (all : ∀ b ∈ gaps, isGap b = true) (line : Bytes) :
    words (gaps ++ line) = words line := by
  induction gaps with
  | nil => rfl
  | cons b rest induction =>
      rw [List.cons_append, words_gap (all b List.mem_cons_self)]
      exact induction fun c member => all c (List.mem_cons_of_mem b member)

theorem words_dropReturn (line : Bytes) : words (dropReturn line) = words line := by
  unfold dropReturn
  split
  · rename_i ends
    obtain ⟨front, rfl⟩ := List.getLast?_eq_some_iff.mp ends
    rw [List.dropLast_concat, words_concat_gap (by decide)]
  · rfl

/-- The first word of a line is a word by itself. -/
theorem wordLength_of_append {word back : Bytes} (started : word ≠ [])
    (length : wordLength (word ++ back) = .ok word.length) : wordLength word = .ok word.length := by
  cases start_of_ne_nil started with
  | quote rest =>
      rw [List.cons_append, wordLength_quote] at length
      cases closed : stringEnd? 1 (rest ++ back) with
      | none => simp [closed] at length
      | some m =>
          obtain rfl : m = 1 + rest.length := by simpa [closed, Nat.add_comm] using length
          rw [wordLength_quote, finds_stringEnd?.of_append closed, List.length_cons, Nat.add_comm]
          rfl
  | expression inner =>
      rw [List.cons_append, List.cons_append, wordLength_expression] at length
      cases closed : expressionEnd? 0 2 (inner ++ back) with
      | none => simp [closed] at length
      | some m =>
          have size : m = inner.length + 1 + 1 := by simpa [closed] using length
          obtain rfl : m = 2 + inner.length := by omega
          rw [wordLength_expression, (finds_expressionEnd? 0).of_append closed, List.length_cons,
            List.length_cons, Nat.add_comm]
          rfl
  | plain notQuote unmarked =>
      rename_i b rest
      rw [wordLength_plain notQuote unmarked]
      rw [List.cons_append] at length
      cases marked : startsExpression (b :: (rest ++ back)) with
      | false =>
          rw [wordLength_plain notQuote marked, ← List.cons_append, List.takeWhile_append] at length
          split at length
          · rename_i whole
            rw [whole]
          · exact length
      | true =>
          -- The parenthesis would have to lie behind the word, and then the word is too short.
          cases rest with
          | cons c others => exact absurd marked (by simpa [startsExpression] using unmarked)
          | nil =>
              obtain ⟨inner, shape⟩ := startsExpression_iff.mp marked
              rw [shape, wordLength_expression] at length
              cases closed : expressionEnd? 0 2 inner with
              | none => simp [closed] at length
              | some m =>
                  obtain rfl : m = 1 := by simpa [closed] using length
                  have behind := le_of_expressionEnd? closed
                  omega

/-- A line can be cut behind its first word. -/
theorem words_cut {gaps word back : Bytes} (all : ∀ b ∈ gaps, isGap b = true) (started : word ≠ [])
    (length : wordLength (word ++ back) = .ok word.length) :
    words (gaps ++ (word ++ back)) = (words back).map (word :: ·) := by
  rw [words_gaps_append all]
  obtain ⟨b, rest, rfl⟩ := List.exists_cons_of_ne_nil started
  have ordinary : isGap b = false ∧ b ≠ byte ';' := by
    have alone := wordLength_of_append started length
    cases start_of_ne_nil started with
    | quote => decide
    | expression inner => decide
    | plain notQuote unmarked =>
        rw [wordLength_plain notQuote unmarked, List.takeWhile_cons] at alone
        split at alone
        · rename_i plain
          exact ⟨(isGap_of_isPlain plain).1, (isGap_of_isPlain plain).2.1⟩
        · simp at alone
  rw [List.cons_append, words_eq_bind ordinary.2 ordinary.1, ← List.cons_append, length]
  simp only [Bind.bind, Except.bind, List.drop_left, List.take_left]

theorem words_first {gaps word back : Bytes} (all : ∀ b ∈ gaps, isGap b = true) (started : word ≠ [])
    (length : wordLength (word ++ back) = .ok word.length) : words (gaps ++ word) = .ok [word] := by
  have alone : wordLength (word ++ []) = .ok word.length := by
    rw [List.append_nil]
    exact wordLength_of_append started length
  have cut := words_cut all started alone
  rwa [List.append_nil, words_nil] at cut

/-- Whether a line has words, or would have if it were finished. -/
def isSpoken (line : Bytes) : Bool :=
  (words line).toOption != some []

theorem isSpoken_eq_false_iff {line : Bytes} : isSpoken line = false ↔ words line = .ok [] := by
  unfold isSpoken
  cases words line with
  | error unfinished => simp [Except.toOption]
  | ok found => simp [Except.toOption]

def spoken (lines : List Bytes) : List (Except Unfinished (List Bytes)) :=
  (lines.filter isSpoken).map words

/-- A source without its layout. -/
def tokens (source : Bytes) : List (Except Unfinished (List Bytes)) :=
  spoken ((rawLines source).map dropReturn)

theorem spoken_append (first second : List Bytes) :
    spoken (first ++ second) = spoken first ++ spoken second := by
  rw [spoken, List.filter_append, List.map_append, spoken, spoken]

theorem spoken_cons (line : Bytes) (rest : List Bytes) :
    spoken (line :: rest) = (if isSpoken line then [words line] else []) ++ spoken rest := by
  unfold spoken
  rw [List.filter_cons]
  split
  · rfl
  · rfl

theorem spoken_cons_congr {line other : Bytes} (same : words line = words other)
    (rest : List Bytes) : spoken (line :: rest) = spoken (other :: rest) := by
  rw [spoken_cons, spoken_cons, isSpoken, isSpoken, same]

theorem spoken_cons_blank {line : Bytes} (blank : words line = .ok []) (rest : List Bytes) :
    spoken (line :: rest) = spoken rest := by
  rw [spoken_cons, isSpoken_eq_false_iff.mpr blank]
  rfl

theorem tokens_eq (source : Bytes) : tokens source = spoken (rawLines source) := by
  unfold tokens
  induction rawLines source with
  | nil => rfl
  | cons line rest induction =>
      rw [List.map_cons, spoken_cons_congr (words_dropReturn line), spoken_cons, spoken_cons,
        induction]

theorem tokens_of_isReadable {source : Bytes} (readable : isReadable source = true) :
    tokens source = spoken (lines source) := by
  rw [lines, List.takeWhile_eq_self_iff.mpr (List.all_eq_true.mp readable), tokens]

/-- Lines that differ in their layout alone. -/
inductive SameWords : Bytes → Bytes → Prop
  | gaps {front left right back : Bytes} {found : List Bytes} (read : words front = .ok found)
      (leftStarts : left ≠ []) (rightStarts : right ≠ [])
      (leftGaps : ∀ b ∈ left, isGap b = true) (rightGaps : ∀ b ∈ right, isGap b = true) :
      SameWords (front ++ (left ++ back)) (front ++ (right ++ back))
  | indent {line gaps : Bytes} (areGaps : ∀ b ∈ gaps, isGap b = true) : SameWords line (gaps ++ line)
  | margin {line gaps : Bytes} (areGaps : ∀ b ∈ gaps, isGap b = true) : SameWords line (line ++ gaps)
  | comment {line : Bytes} {found : List Bytes} (read : words line = .ok found) (text : Bytes) :
      SameWords line (line ++ byte ';' :: text)

theorem SameWords.words_eq {line other : Bytes} (same : SameWords line other) :
    words line = words other := by
  cases same with
  | gaps read leftStarts rightStarts leftGaps rightGaps =>
      rename_i front left right back found
      have behind : words (left ++ back) = words (right ++ back) :=
        (words_gaps_append leftGaps back).trans (words_gaps_append rightGaps back).symm
      obtain ⟨b, leftRest, rfl⟩ := List.exists_cons_of_ne_nil leftStarts
      obtain ⟨c, rightRest, rfl⟩ := List.exists_cons_of_ne_nil rightStarts
      exact words_congr read (endsWord_gap (leftGaps b List.mem_cons_self) _)
        (endsWord_gap (rightGaps c List.mem_cons_self) _) behind
  | indent areGaps => exact (words_gaps_append areGaps line).symm
  | margin areGaps => exact (words_append_gaps areGaps line).symm
  | comment read text =>
      have nothing : EndsWord [] := trivial
      have ended : EndsWord (byte ';' :: text) := (by decide : isPlain (byte ';') = false)
      have exchanged := words_congr read nothing ended (words_nil.trans (words_comment text).symm)
      rwa [List.append_nil] at exchanged

/-- Sources that differ in their layout alone: in the layout of lines, in lines without words and in
the end of the last line. A carriage return before a newline is layout of the line it ends. -/
inductive Relaid : Bytes → Bytes → Prop
  | line {before left right after : Bytes}
      (ended : before = [] ∨ before.getLast? = some (byte '\n'))
      (leftLine : byte '\n' ∉ left) (rightLine : byte '\n' ∉ right) (same : SameWords left right) :
      Relaid (before ++ (left ++ byte '\n' :: after)) (before ++ (right ++ byte '\n' :: after))
  | blank {before line after : Bytes} (ended : before = [] ∨ before.getLast? = some (byte '\n'))
      (oneLine : byte '\n' ∉ line) (blank : words line = .ok []) :
      Relaid (before ++ after) (before ++ (line ++ byte '\n' :: after))
  | lastNewline (source : Bytes) : Relaid source (source ++ [byte '\n'])
  | symm {left right : Bytes} (relaid : Relaid left right) : Relaid right left
  | trans {left middle right : Bytes} (first : Relaid left middle) (second : Relaid middle right) :
      Relaid left right

theorem rawLines_concat_newline (source : Bytes) :
    rawLines (source ++ [byte '\n']) = rawLines source ∨
      rawLines (source ++ [byte '\n']) = rawLines source ++ [[]] := by
  have onto : ∀ (done : List Bytes) (current : Bytes),
      rawLinesOnto done current (source ++ [byte '\n']) = rawLinesOnto done current source ∨
        rawLinesOnto done current (source ++ [byte '\n']) =
          rawLinesOnto done current source ++ [[]] := by
    induction source with
    | nil =>
        intro done current
        cases current with
        | nil => right; simp [rawLinesOnto]
        | cons b rest => left; simp [rawLinesOnto]
    | cons b rest induction =>
        intro done current
        simp only [List.cons_append, rawLinesOnto]
        split
        · exact induction _ _
        · exact induction _ _
  exact onto [] []

theorem Relaid.tokens_eq {left right : Bytes} (relaid : Relaid left right) :
    tokens left = tokens right := by
  induction relaid with
  | line ended leftLine rightLine same =>
      rw [Source.tokens_eq, Source.tokens_eq, rawLines_append ended, rawLines_append ended,
        rawLines_cons leftLine, rawLines_cons rightLine, spoken_append, spoken_append,
        spoken_cons_congr same.words_eq]
  | blank ended oneLine blank =>
      rw [Source.tokens_eq, Source.tokens_eq, rawLines_append ended, rawLines_append ended,
        rawLines_cons oneLine, spoken_append, spoken_append, spoken_cons_blank blank]
  | lastNewline source =>
      rw [Source.tokens_eq, Source.tokens_eq]
      rcases rawLines_concat_newline source with same | blank
      · rw [same]
      · rw [blank, spoken_append, spoken_cons_blank words_nil]
        exact (List.append_nil _).symm
  | symm relaid induction => exact induction.symm
  | trans first second firstInduction secondInduction =>
      exact firstInduction.trans secondInduction

end RegisterMachine.Source
