import RegisterMachine.Proofs.Assembler.Grammar

/-! Words that start an expression. Such a word loses its first two bytes and its last before it is
evaluated, and only a word of the source is sure to end in a parenthesis. On a line that can be added,
it stands for the number of the line's command. -/

namespace RegisterMachine

def Instruction.number? : Instruction → Option Int32
  | number _ value | registerNumber _ _ value => some value
  | _ => none

namespace Assembler

open Grammar

def Command.number? : Command → Option Int32
  | number _ value | registerNumber _ _ value => some value
  | _ => none

/-- An expression that comes to a number, with the byte that is cut off its end. -/
inductive Evaluates [Evaluator] (equates : Table Bytes) : Bytes → UInt8 → Int32 → Prop
  | intro {text : Bytes} {last : UInt8} {n : Int}
      (evaluated : Evaluator.evaluated (Draft.start equates).constants text = .integer n)
      (lower : -2147483648 ≤ n) (upper : n < 2147483648) :
      Evaluates equates (byte '$' :: byte '(' :: (text ++ [last])) last (Int32.ofInt n)

section Words

variable {equates : Table Bytes} {word : Bytes}

theorem expressionText?_marked (text : Bytes) (last : UInt8) :
    Draft.expressionText? (byte '$' :: byte '(' :: (text ++ [last])) = some text := by
  simp [Draft.expressionText?]

/-- A word that starts an expression is too short to be cut, or has a text and a last byte. -/
theorem cut_of_startsExpression (marked : Source.startsExpression word = true) :
    (word = [byte '$', byte '('] ∧ Draft.expressionText? word = none) ∨
      ∃ text last, word = byte '$' :: byte '(' :: (text ++ [last]) ∧
        Draft.expressionText? word = some text := by
  obtain ⟨rest, rfl⟩ := Source.startsExpression_iff.mp marked
  cases rest using List.reverseRecOn with
  | nil => exact .inl ⟨rfl, rfl⟩
  | append_singleton text last =>
      exact .inr ⟨text, last, rfl, expressionText?_marked text last⟩

/-- A word that starts an expression is taken for a number only if it can be cut. -/
theorem Denotes.evaluates [Evaluator] {value : Int32} (denotes : Denotes equates word value)
    (marked : Source.startsExpression word = true) : ∃ last, Evaluates equates word last value := by
  rcases cut_of_startsExpression marked with ⟨rfl, inner⟩ | ⟨text, last, rfl, inner⟩
  · cases denotes.2
  · obtain ⟨n, evaluated, ⟨lower, upper⟩, rfl⟩ := (denotes_expression_iff marked inner).mp denotes
    exact ⟨last, .intro evaluated lower upper⟩

theorem Evaluates.last_eq [Evaluator] {last : UInt8} {value : Int32}
    (evaluates : Evaluates equates word last value) (closed : IsClosed word) : last = byte ')' := by
  cases evaluates with
  | intro evaluated lower upper =>
      have ends := closed (by simp [Source.startsExpression])
      rw [← List.cons_append, ← List.cons_append, List.getLast?_concat] at ends
      exact Option.some.inj ends

/-- A text that is in force behind some lines was so before them, or one of them gives it. -/
theorem get?_foldl_definedBy {lines : List Bytes} {name text : Bytes}
    (found : (lines.foldl definedBy equates).get? name = some text) :
    equates.get? name = some text ∨
      ∃ line ∈ lines, Source.words line = .ok [Draft.equateWord, name, text] := by
  induction lines generalizing equates with
  | nil => exact .inl found
  | cons line rest induction =>
      rcases induction found with here | ⟨later, member, split⟩
      · unfold definedBy at here
        split at here
        · rename_i word other value split
          split at here
          · rename_i marked
            rw [Table.get?_insert] at here
            split at here
            · rename_i same
              obtain rfl := Option.some.inj here
              exact .inr ⟨line, List.mem_cons_self, by rw [split, marked, same]⟩
            · exact .inl here
          · exact .inl here
        · exact .inl here
      · exact .inr ⟨later, List.mem_cons_of_mem line member, split⟩

/-- A word of a line that is not closed is the text of a predefined equate. -/
theorem isClosed_or_predefined {predefined : Table Bytes} {lines : List Bytes} {count : Nat}
    {line : Bytes} {words : List Bytes} (split : Source.words line = .ok words)
    (member : word ∈ words.map (replaced (equatesAt predefined lines count))) :
    IsClosed word ∨ ∃ name, predefined.get? name = some word := by
  obtain ⟨original, here, rfl⟩ := List.mem_map.mp member
  have closed := isClosed_of_mem_words split here
  rw [replaced_eq]
  split
  · exact .inl closed
  · cases found : (equatesAt predefined lines count).get? original with
    | none => exact .inl closed
    | some text =>
        rcases get?_foldl_definedBy found with known | ⟨_, _, split⟩
        · exact .inr ⟨original, known⟩
        · exact .inl (isClosed_of_mem_words split (by simp))

end Words

section Numbers

theorem Command.number?_resolve (known : List Bytes) (command : Command) :
    (command.resolve known).number? = command.number? := by
  cases command <;> rfl

theorem not_startsExpression_of_isIdentifier {word : Bytes}
    (identifier : Bytes.isIdentifier word = true) (rest : Bytes) :
    Source.startsExpression (word ++ rest) = false := by
  cases word with
  | nil => cases identifier
  | cons first others =>
      simp only [Bytes.isIdentifier, Bool.and_eq_true] at identifier
      obtain ⟨_, _, _, dollar, _⟩ := Draft.not_isDigit_of_isIdentifierStart identifier.1
      rw [Bool.eq_false_iff]
      intro marked
      obtain ⟨behind, same⟩ := Source.startsExpression_iff.mp marked
      exact dollar (List.cons.inj same).1

theorem not_startsExpression_of_isQuoted {word : Bytes} (quoted : Draft.isQuoted word = true) :
    Source.startsExpression word = false := by
  rw [Bool.eq_false_iff]
  intro marked
  obtain ⟨rest, rfl⟩ := Source.startsExpression_iff.mp marked
  cases quoted

theorem not_startsExpression_name (keyword : Keyword) :
    Source.startsExpression keyword.name = false := by
  cases keyword <;> decide

variable [Evaluator] {equates : Table Bytes} {word : Bytes}

/-- Of the operands that a keyword takes, the one that starts an expression is a number. -/
theorem Command.Reads.number?_of_startsExpression {keyword : Keyword} {operands : List Bytes}
    {command : Command} (reads : Command.Reads (Denotes equates) keyword operands command)
    (member : word ∈ operands) (marked : Source.startsExpression word = true) :
    ∃ value, Denotes equates word value ∧ command.number? = some value := by
  have unmarked : Bytes.isIdentifier word = false := by
    rw [Bool.eq_false_iff]
    intro identifier
    have plain := not_startsExpression_of_isIdentifier identifier []
    rw [List.append_nil, marked] at plain
    cases plain
  cases reads with
  | bare category => cases member
  | register category identifier =>
      obtain rfl := List.mem_singleton.mp member
      rw [unmarked] at identifier
      cases identifier
  | number category stands =>
      obtain rfl := List.mem_singleton.mp member
      exact ⟨_, stands, rfl⟩
  | text category quoted stands =>
      obtain rfl := List.mem_singleton.mp member
      rw [not_startsExpression_of_isQuoted quoted] at marked
      cases marked
  | label category identifier =>
      obtain rfl := List.mem_singleton.mp member
      rw [unmarked] at identifier
      cases identifier
  | registers category identifier sourceIdentifier =>
      rcases List.mem_pair.mp member with rfl | rfl
      · rw [unmarked] at identifier
        cases identifier
      · rw [unmarked] at sourceIdentifier
        cases sourceIdentifier
  | registerNumber category identifier stands =>
      rcases List.mem_pair.mp member with rfl | rfl
      · rw [unmarked] at identifier
        cases identifier
      · exact ⟨_, stands, rfl⟩
  | registerLabel category identifier labelIdentifier =>
      rcases List.mem_pair.mp member with rfl | rfl
      · rw [unmarked] at identifier
        cases identifier
      · rw [unmarked] at labelIdentifier
        cases labelIdentifier

/-- A word of a line that starts an expression is the number of the line's command. -/
theorem Clause.Reads.number?_of_startsExpression {line : Bytes} {clause : Clause}
    {words : List Bytes} (reads : clause.Reads (Denotes equates) equates line)
    (split : Source.words line = .ok words) (ordinary : words.head? ≠ some Draft.equateWord)
    (member : word ∈ words.map (replaced equates))
    (marked : Source.startsExpression word = true) :
    ∃ command value, clause.command? = some command ∧ Denotes equates word value ∧
      command.number? = some value := by
  cases reads with
  | equate again identifier =>
      obtain rfl := Except.ok.inj (split.symm.trans again)
      exact absurd rfl ordinary
  | statement again _ leading identifiers phrase =>
      obtain rfl := Except.ok.inj (split.symm.trans again)
      rw [leading] at member
      rcases List.mem_append.mp member with isLabel | behind
      · obtain ⟨label, declared, rfl⟩ := List.mem_map.mp isLabel
        rw [declaration, not_startsExpression_of_isIdentifier (identifiers label declared)] at marked
        cases marked
      · cases phrase with
        | nothing => cases behind
        | command reads =>
            rcases List.mem_cons.mp behind with rfl | operand
            · rw [not_startsExpression_name] at marked
              cases marked
            · obtain ⟨value, denotes, isNumber⟩ := reads.number?_of_startsExpression operand marked
              exact ⟨_, value, rfl, denotes, isNumber⟩

end Numbers

end Assembler

end RegisterMachine
