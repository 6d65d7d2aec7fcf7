import RegisterMachine.Proofs.Assembler.Transcript
import RegisterMachine.Proofs.Source.Words

/-! The grammar of sources, told from the words of each line and the equates in force at it. The
assembler takes exactly the sources of the grammar. -/

namespace RegisterMachine.Assembler

/-- The constants that expressions see: the equates whose texts are whole numbers of 64 bits. -/
def AreConstants (equates : Table Bytes) (constants : Table Int) : Prop :=
  ∀ name n, constants.get? name = some n ↔
    ∃ text, equates.get? name = some text ∧ Text.Decimal.Numeral text n ∧
      -9223372036854775808 ≤ n ∧ n < 9223372036854775808

/-- The words that stand for a number of 32 bits: a decimal, or an expression in parentheses that
comes to one among the constants. -/
inductive Literal [Evaluator] (equates : Table Bytes) : Bytes → Int32 → Prop
  | decimal {word : Bytes} {n : Int} (numeral : Text.Decimal.Numeral word n)
      (lower : -2147483648 ≤ n) (upper : n < 2147483648) : Literal equates word (Int32.ofInt n)
  | expression {text : Bytes} {constants : Table Int} {n : Int}
      (known : AreConstants equates constants)
      (evaluated : Evaluator.evaluated constants text = .integer n)
      (lower : -2147483648 ≤ n) (upper : n < 2147483648) :
      Literal equates (byte '$' :: byte '(' :: (text ++ [byte ')'])) (Int32.ofInt n)

/-- Whether a word that starts an expression also ends it. -/
def IsClosed (word : Bytes) : Prop :=
  Source.startsExpression word = true → word.getLast? = some (byte ')')

def HasClosedTexts (equates : Table Bytes) : Prop :=
  ∀ name text, equates.get? name = some text → IsClosed text

namespace Grammar

def definedBy (equates : Table Bytes) (line : Bytes) : Table Bytes :=
  match Source.words line with
  | .ok [word, name, text] =>
      if word = Draft.equateWord then equates.insert name text else equates
  | _ => equates

def equatesAt (predefined : Table Bytes) (lines : List Bytes) (count : Nat) : Table Bytes :=
  (lines.take count).foldl definedBy predefined

/-- The labels that a line declares where equates are in force. -/
def labelsOf (equates : Table Bytes) (line : Bytes) : List Bytes :=
  match Source.words line with
  | .ok words =>
      if words.head? = some Draft.equateWord then []
      else ((words.map (replaced equates)).takeWhile fun word =>
        word.getLast? == some (byte ':')).map List.dropLast
  | .error _ => []

/-- The labels that lines declare, in the order they declare them. -/
def labelsOfAll (equates : Table Bytes) : List Bytes → List Bytes
  | [] => []
  | line :: rest => labelsOf equates line ++ labelsOfAll (definedBy equates line) rest

end Grammar

open Grammar

/-- Each line is an equate with a new name, or labels with perhaps a command behind them. -/
structure HasClauses [Evaluator] (predefined : Table Bytes) (lines : List Bytes) : Prop where
  splits : ∀ line ∈ lines, ∃ words, Source.words line = .ok words
  equates : ∀ count line rest, lines[count]? = some line →
    Source.words line = .ok (Draft.equateWord :: rest) →
      ∃ name text, rest = [name, text] ∧ Bytes.isIdentifier name = true ∧
        predefined.get? name = none ∧
        ∀ earlier ∈ lines.take count, ∀ other,
          Source.words earlier ≠ .ok [Draft.equateWord, name, other]
  statements : ∀ count line words, lines[count]? = some line → Source.words line = .ok words →
    words.head? ≠ some Draft.equateWord →
      ∃ labels command,
        Clause.Reads (Literal (equatesAt predefined lines count)) (equatesAt predefined lines count)
          line (.statement labels command)

/-- The lines of a source that can be assembled under predefined equates. -/
structure Grammatical [Evaluator] (predefined : Table Bytes) (lines : List Bytes) : Prop
    extends HasClauses predefined lines where
  distinct : (labelsOfAll predefined lines).Nodup
  linked : ∀ count line labels command name, lines[count]? = some line →
    Clause.Reads (Literal (equatesAt predefined lines count)) (equatesAt predefined lines count)
        line (.statement labels (some command)) →
      command.target? = some name → name ∈ labelsOfAll predefined lines

theorem areConstants_start (equates : Table Bytes) :
    AreConstants equates (Draft.start equates).constants := by
  intro name n
  rw [Draft.get?_constants, Option.bind_eq_some_iff]
  apply exists_congr
  intro text
  apply and_congr_right
  intro _
  have isNumber : (Text.Decimal.read 64 text).toOption = some n ↔
      Text.Decimal.read 64 text = .ok n := by
    cases Text.Decimal.read 64 text with
    | error refusal => simp [Except.toOption]
    | ok m => simp [Except.toOption]
  rw [isNumber]
  exact Text.Decimal.read_eq_ok_iff (by decide)

theorem AreConstants.get?_eq {equates : Table Bytes} {constants other : Table Int}
    (known : AreConstants equates constants) (otherKnown : AreConstants equates other) :
    constants.get? = other.get? := by
  funext name
  apply Option.ext
  intro n
  rw [known, otherKnown]

theorem not_startsExpression_of_numeral {word : Bytes} {n : Int}
    (numeral : Text.Decimal.Numeral word n) : Source.startsExpression word = false := by
  rw [Bool.eq_false_iff]
  intro marked
  obtain ⟨rest, rfl⟩ := Source.startsExpression_iff.mp marked
  have first := numeral.digit_or_sign List.mem_cons_self
  revert first
  decide

/-- A closed word that starts an expression is the expression's text in its marks. -/
theorem eq_of_startsExpression {word : Bytes} (closed : IsClosed word)
    (marked : Source.startsExpression word = true) :
    ∃ text, word = byte '$' :: byte '(' :: (text ++ [byte ')']) ∧
      Draft.expressionText? word = some text := by
  have last := closed marked
  obtain ⟨rest, rfl⟩ := Source.startsExpression_iff.mp marked
  cases rest using List.reverseRecOn with
  | nil => exact absurd last (by decide)
  | append_singleton text b =>
      rw [← List.cons_append, ← List.cons_append, List.getLast?_concat] at last
      obtain rfl := Option.some.inj last
      exact ⟨text, rfl, by simp [Draft.expressionText?]⟩

theorem denotes_decimal_iff [Evaluator] {equates : Table Bytes} {word : Bytes} {value : Int32}
    (unmarked : Source.startsExpression word = false) :
    Denotes equates word value ↔ ∃ n, Text.Decimal.read 32 word = .ok n ∧ value = Int32.ofInt n := by
  simp only [Denotes, Draft.isLiteral, Draft.value, unmarked, Bool.false_or, Bool.false_eq_true,
    ↓reduceIte]
  cases Text.Decimal.read 32 word with
  | error refusal => simp [Except.isOk, Except.toBool]
  | ok n => simp [Except.isOk, Except.toBool, eq_comm]

theorem denotes_expression_iff [Evaluator] {equates : Table Bytes} {text word : Bytes}
    {value : Int32}
    (marked : Source.startsExpression word = true) (inner : Draft.expressionText? word = some text) :
    Denotes equates word value ↔
      ∃ n, Evaluator.evaluated (Draft.start equates).constants text = .integer n ∧
        (-2147483648 ≤ n ∧ n < 2147483648) ∧ value = Int32.ofInt n := by
  have size : Int.pow 2 31 = 2147483648 := rfl
  simp only [Denotes, Draft.isLiteral, Draft.value, marked, Bool.true_or, true_and, ↓reduceIte,
    inner, Draft.expression, size]
  cases Evaluator.evaluated (Draft.start equates).constants text with
  | integer n =>
      simp only [Expression.Outcome.integer.injEq, exists_eq_left']
      split
      · rename_i inside
        simp only [inside, Except.ok.injEq, true_and, and_self, eq_comm]
      · rename_i outside
        simp only [outside, reduceCtorEq, false_and]
  | _ => simp

/-- What the assembler takes for a number is a literal, once expressions are closed. -/
theorem denotes_iff_literal [Evaluator] {equates : Table Bytes} {word : Bytes} {value : Int32}
    (closed : IsClosed word) : Denotes equates word value ↔ Literal equates word value := by
  cases marked : Source.startsExpression word with
  | false =>
      rw [denotes_decimal_iff marked]
      constructor
      · rintro ⟨n, found, rfl⟩
        obtain ⟨numeral, lower, upper⟩ := (Text.Decimal.read_eq_ok_iff (by decide)).mp found
        exact .decimal numeral lower upper
      · intro literal
        cases literal with
        | decimal numeral lower upper =>
            exact ⟨_, (Text.Decimal.read_eq_ok_iff (by decide)).mpr ⟨numeral, lower, upper⟩, rfl⟩
        | expression known evaluated lower upper => simp [Source.startsExpression] at marked
  | true =>
      obtain ⟨text, rfl, inner⟩ := eq_of_startsExpression closed marked
      rw [denotes_expression_iff marked inner]
      constructor
      · rintro ⟨n, evaluated, ⟨lower, upper⟩, rfl⟩
        exact .expression (areConstants_start equates) evaluated lower upper
      · intro literal
        generalize whole : byte '$' :: byte '(' :: (text ++ [byte ')']) = word at literal marked
        cases literal with
        | decimal numeral lower upper =>
            rw [not_startsExpression_of_numeral numeral] at marked
            contradiction
        | expression known evaluated lower upper =>
            obtain rfl : text = _ := by simpa using whole
            have same := known.get?_eq (areConstants_start equates)
            rw [Evaluator.evaluated_congr same] at evaluated
            exact ⟨_, evaluated, ⟨lower, upper⟩, rfl⟩

theorem isClosed_of_mem_words {line : Bytes} {words : List Bytes}
    (split : Source.words line = .ok words) {word : Bytes} (member : word ∈ words) :
    IsClosed word :=
  Source.getLast?_of_mem_words split member

theorem isClosed_of_mem_replaced {equates : Table Bytes} (closed : HasClosedTexts equates)
    {line : Bytes} {words : List Bytes} (split : Source.words line = .ok words) {word : Bytes}
    (member : word ∈ words.map (replaced equates)) : IsClosed word := by
  obtain ⟨original, found, rfl⟩ := List.mem_map.mp member
  have here := isClosed_of_mem_words split found
  rw [replaced_eq]
  split
  · exact here
  · cases known : equates.get? original with
    | none => exact here
    | some text => exact closed original text known

theorem HasClosedTexts.define {literal : Bytes → Int32 → Prop} {equates : Table Bytes}
    {line : Bytes} {clause : Clause} (closed : HasClosedTexts equates)
    (reads : clause.Reads literal equates line) : HasClosedTexts (clause.define equates) := by
  cases reads with
  | statement => exact closed
  | equate split identifier =>
      rename_i name text
      intro other value found
      rw [Clause.define, Table.get?_insert] at found
      split at found
      · obtain rfl := Option.some.inj found
        exact isClosed_of_mem_words split (by simp)
      · exact closed other value found

/-- What numbers are written as can be told in other ways, where these agree on closed words. -/
theorem Clause.Reads.of_closed {literal other : Bytes → Int32 → Prop} {equates : Table Bytes}
    {line : Bytes} {clause : Clause} (reads : clause.Reads literal equates line)
    (closed : HasClosedTexts equates)
    (implied : ∀ word value, IsClosed word → literal word value → other word value) :
    clause.Reads other equates line :=
  reads.mono fun _ split word member value =>
    implied word value (isClosed_of_mem_replaced closed split member)

theorem Transcript.Reads.of_closed {literal other : Table Bytes → Bytes → Int32 → Prop}
    {equates : Table Bytes} {transcript : Transcript} (reads : transcript.Reads literal equates)
    (closed : HasClosedTexts equates)
    (implied : ∀ equates word value, IsClosed word →
      literal equates word value → other equates word value) :
    transcript.Reads other equates := by
  induction reads with
  | nil => exact .nil
  | cons reads fresh later induction =>
      exact .cons (reads.of_closed closed (implied _)) fresh (induction (closed.define reads))

theorem Transcript.reads_iff_literal [Evaluator] {equates : Table Bytes} {transcript : Transcript}
    (closed : HasClosedTexts equates) :
    transcript.Reads Denotes equates ↔ transcript.Reads Literal equates :=
  ⟨fun reads => reads.of_closed closed fun _ _ _ isClosed => (denotes_iff_literal isClosed).mp,
    fun reads => reads.of_closed closed fun _ _ _ isClosed => (denotes_iff_literal isClosed).mpr⟩

namespace Grammar

/-- The words of a statement are split at its last label in one way only. -/
theorem takeWhile_declaration {literal : Bytes → Int32 → Prop} {labels rest : List Bytes}
    {command : Option Command} (phrase : Clause.Phrase literal rest command) :
    ((labels.map declaration ++ rest).takeWhile fun word => word.getLast? == some (byte ':')) =
      labels.map declaration := by
  have all : ∀ word ∈ labels.map declaration, (word.getLast? == some (byte ':')) = true := by
    intro word member
    obtain ⟨label, _, rfl⟩ := List.mem_map.mp member
    exact Draft.isDeclaration_declaration label
  rw [List.takeWhile_append_of_pos all]
  cases rest with
  | nil => simp
  | cons word others =>
      have other : (word.getLast? == some (byte ':')) = false :=
        Draft.isDeclaration_of_phrase phrase rfl
      rw [List.takeWhile_cons, if_neg (Bool.eq_false_iff.mp other), List.append_nil]

theorem map_dropLast_declaration (labels : List Bytes) :
    (labels.map declaration).map List.dropLast = labels := by
  rw [List.map_map]
  exact (List.map_congr_left fun label _ => Draft.dropLast_declaration label).trans
    (List.map_id labels)

theorem labelsOf_of_reads {literal : Bytes → Int32 → Prop} {equates : Table Bytes} {line : Bytes}
    {clause : Clause} (reads : clause.Reads literal equates line) :
    labelsOf equates line = clause.labels := by
  cases reads with
  | equate split identifier => simp [labelsOf, split, Clause.labels]
  | statement split ordinary leading identifiers phrase =>
      simp only [labelsOf, split, ordinary, ↓reduceIte, leading, takeWhile_declaration phrase,
        map_dropLast_declaration, Clause.labels]

theorem definedBy_of_reads {literal : Bytes → Int32 → Prop} {equates : Table Bytes} {line : Bytes}
    {clause : Clause} (reads : clause.Reads literal equates line) :
    definedBy equates line = clause.define equates := by
  cases reads with
  | equate split identifier => simp only [definedBy, split, ↓reduceIte, Clause.define]
  | statement split ordinary leading identifiers phrase =>
      simp only [definedBy, split, Clause.define]
      split
      · rename_i word name text same
        obtain rfl := Except.ok.inj same
        exact if_neg fun again => ordinary (congrArg some again)
      · rfl

theorem labelsOfAll_of_reads {literal : Table Bytes → Bytes → Int32 → Prop}
    {equates : Table Bytes} {transcript : Transcript} (reads : transcript.Reads literal equates) :
    labelsOfAll equates transcript.lines = transcript.labels := by
  induction reads with
  | nil => rfl
  | cons reads fresh later induction =>
      simp only [Transcript.lines, List.map_cons, labelsOfAll] at induction ⊢
      rw [labelsOf_of_reads reads, definedBy_of_reads reads, induction, Transcript.labels_cons]

theorem get?_definedBy_eq_none_iff {equates : Table Bytes} {line name : Bytes} :
    (definedBy equates line).get? name = none ↔
      equates.get? name = none ∧
        ∀ text, Source.words line ≠ .ok [Draft.equateWord, name, text] := by
  unfold definedBy
  split
  · rename_i word other text split
    by_cases marked : word = Draft.equateWord
    · rw [if_pos marked, Table.get?_insert]
      by_cases same : name = other
      · simp [same, split, marked]
      · simp [same, split, Ne.symm same]
    · simp [marked, split]
  · rename_i unequal
    exact ⟨fun absent => ⟨absent, fun text => unequal _ name text⟩, fun both => both.1⟩

/-- A name that has no text behind some lines had none before them and got none in them. -/
theorem get?_foldl_definedBy_eq_none_iff {equates : Table Bytes} {lines : List Bytes}
    {name : Bytes} :
    (lines.foldl definedBy equates).get? name = none ↔
      equates.get? name = none ∧
        ∀ line ∈ lines, ∀ text, Source.words line ≠ .ok [Draft.equateWord, name, text] := by
  induction lines generalizing equates with
  | nil => simp
  | cons line rest induction =>
      rw [List.foldl_cons, induction, get?_definedBy_eq_none_iff, and_assoc,
        List.forall_mem_cons]

end Grammar

theorem HasClauses.clause [Evaluator] {predefined : Table Bytes} {line : Bytes} {rest : List Bytes}
    (hasClauses : HasClauses predefined (line :: rest)) :
    ∃ clause : Clause, clause.Reads (Literal predefined) predefined line ∧
      ∀ name text, clause = .equate name text → predefined.get? name = none := by
  obtain ⟨words, split⟩ := hasClauses.splits line List.mem_cons_self
  by_cases marked : words.head? = some Draft.equateWord
  · obtain ⟨operands, rfl⟩ := List.head?_eq_some_iff.mp marked
    obtain ⟨name, text, rfl, identifier, fresh, _⟩ := hasClauses.equates 0 line operands rfl split
    refine ⟨.equate name text, .equate split identifier, ?_⟩
    rintro _ _ ⟨⟩
    exact fresh
  · obtain ⟨labels, command, reads⟩ := hasClauses.statements 0 line words rfl split marked
    exact ⟨.statement labels command, reads, nofun⟩

theorem HasClauses.tail [Evaluator] {predefined : Table Bytes} {line : Bytes} {rest : List Bytes}
    (hasClauses : HasClauses predefined (line :: rest)) :
    HasClauses (definedBy predefined line) rest where
  splits other member := hasClauses.splits other (List.mem_cons_of_mem line member)
  equates count other operands found split := by
    obtain ⟨name, text, shape, identifier, fresh, unequal⟩ :=
      hasClauses.equates (count + 1) other operands found split
    rw [List.take_succ_cons, List.forall_mem_cons] at unequal
    exact ⟨name, text, shape, identifier,
      get?_definedBy_eq_none_iff.mpr ⟨fresh, unequal.1⟩, unequal.2⟩
  statements count other words found := hasClauses.statements (count + 1) other words found

theorem HasClauses.exists_transcript [Evaluator] {predefined : Table Bytes} {lines : List Bytes}
    (hasClauses : HasClauses predefined lines) :
    ∃ transcript : Transcript, transcript.lines = lines ∧ transcript.Reads Literal predefined := by
  induction lines generalizing predefined with
  | nil => exact ⟨[], rfl, .nil⟩
  | cons line rest induction =>
      obtain ⟨clause, reads, fresh⟩ := hasClauses.clause
      obtain ⟨transcript, rfl, later⟩ := induction hasClauses.tail
      rw [definedBy_of_reads reads] at later
      exact ⟨(line, clause) :: transcript, rfl, .cons reads fresh later⟩

/-- Every line of a transcript is read under the equates in force at it. -/
theorem Transcript.Reads.clauseAt {literal : Table Bytes → Bytes → Int32 → Prop}
    {equates : Table Bytes} {transcript : Transcript} (reads : transcript.Reads literal equates)
    {count : Nat} {line : Bytes} {clause : Clause} (found : transcript[count]? = some (line, clause)) :
    clause.Reads (literal (equatesAt equates transcript.lines count))
        (equatesAt equates transcript.lines count) line ∧
      ∀ name text, clause = .equate name text →
        (equatesAt equates transcript.lines count).get? name = none := by
  induction reads generalizing count with
  | nil => cases found
  | cons reads fresh later induction =>
      cases count with
      | zero =>
          obtain ⟨rfl, rfl⟩ := Prod.mk.inj (Option.some.inj found)
          exact ⟨reads, fresh⟩
      | succ count =>
          rw [← definedBy_of_reads reads] at induction
          exact induction found

end RegisterMachine.Assembler
