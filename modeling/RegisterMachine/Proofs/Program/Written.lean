import RegisterMachine.Program.Layout
import RegisterMachine.Proofs.Assembler.WellFormed

/-! The lines that a program is written in. A command in the words it is written with is read as the
same command, without the help of any equate. -/

namespace RegisterMachine

namespace Source

def IsLineText (text : Bytes) : Prop :=
  byte '\n' ∉ text ∧ text.getLast? ≠ some (byte '\r')

theorem IsLineText.append {first second : Bytes} (isFirst : IsLineText first)
    (isSecond : IsLineText second) : IsLineText (first ++ second) := by
  refine ⟨?_, ?_⟩
  · rw [List.mem_append]
    exact fun member => member.elim isFirst.1 isSecond.1
  · have lastSecond := isSecond.2
    rw [List.getLast?_append]
    cases last : second.getLast? with
    | none => exact isFirst.2
    | some b =>
        rw [last] at lastSecond
        exact lastSecond

/-- The bytes of names, of decimals and of label declarations. -/
def isWordByte (b : UInt8) : Bool :=
  Bytes.isIdentifierPart b || b == byte ':' || b == byte '-' || b == byte '+'

theorem isPlain_of_isWordByte {b : UInt8} (isByte : isWordByte b = true) :
    isPlain b = true ∧ b ≠ byte '\n' ∧ b ≠ byte '$' := by
  have all : ∀ n < 256, isWordByte n.toUInt8 = true →
      isPlain n.toUInt8 = true ∧ n.toUInt8 ≠ byte '\n' ∧ n.toUInt8 ≠ byte '$' := by
    decide +kernel
  have found := all b.toNat b.toNat_lt
  simp only [Nat.toUInt8, UInt8.ofNat_toNat] at found
  exact found isByte

/-- Words that stand in a line as they are: plain ones and quoted texts. -/
inductive IsWord : Bytes → Prop
  | plain {word : Bytes} (nonempty : word ≠ []) (all : ∀ b ∈ word, isWordByte b = true) :
      IsWord word
  | quote (text : Bytes) : IsWord (Text.quote text)

theorem isPlainWord_of_all {word : Bytes} (nonempty : word ≠ [])
    (all : ∀ b ∈ word, isWordByte b = true) : IsPlainWord word where
  nonempty := nonempty
  plain b member := (isPlain_of_isWordByte (all b member)).1
  unmarked := by
    rw [Bool.eq_false_iff]
    intro marked
    obtain ⟨rest, rfl⟩ := startsExpression_iff.mp marked
    exact (isPlain_of_isWordByte (all _ List.mem_cons_self)).2.2 rfl

theorem words_word {word rest : Bytes} {others : List Bytes} (isWord : IsWord word)
    (ended : EndsWord rest) (following : words rest = .ok others) :
    words (word ++ rest) = .ok (word :: others) := by
  cases isWord with
  | plain nonempty all => exact words_plain (isPlainWord_of_all nonempty all) ended following
  | quote text => exact words_quote text following

theorem IsWord.isLineText {word : Bytes} (isWord : IsWord word) : IsLineText word := by
  cases isWord with
  | plain nonempty all =>
      refine ⟨?_, ?_⟩
      · intro member
        exact (isPlain_of_isWordByte (all _ member)).2.1 rfl
      · intro last
        exact absurd (all _ (List.mem_of_getLast? last)) (by decide)
  | quote text =>
      refine ⟨Text.newline_not_mem_quote text, ?_⟩
      rw [Text.quote, ← List.cons_append, List.getLast?_concat]
      decide

theorem isWordByte_of_isIdentifier {name : Bytes} (identifier : Bytes.isIdentifier name = true)
    {b : UInt8} (member : b ∈ name) : isWordByte b = true := by
  have part : Bytes.isIdentifierPart b = true := by
    cases name with
    | nil => cases member
    | cons first rest =>
        simp only [Bytes.isIdentifier, Bool.and_eq_true, List.all_eq_true] at identifier
        rcases List.mem_cons.mp member with rfl | later
        · simp [Bytes.isIdentifierPart, identifier.1]
        · exact identifier.2 b later
  simp [isWordByte, part]

theorem isWord_of_isIdentifier {name : Bytes} (identifier : Bytes.isIdentifier name = true) :
    IsWord name := by
  refine .plain ?_ fun b => isWordByte_of_isIdentifier identifier
  rintro rfl
  cases identifier

theorem isWord_declaration {name : Bytes} (identifier : Bytes.isIdentifier name = true) :
    IsWord (Assembler.declaration name) := by
  refine .plain (by simp [Assembler.declaration]) fun b member => ?_
  rcases List.mem_append.mp member with inName | isColon
  · exact isWordByte_of_isIdentifier identifier inName
  · rw [List.mem_singleton.mp isColon]
    decide

theorem isWord_of_numeral {word : Bytes} {n : Int} (numeral : Text.Decimal.Numeral word n) :
    IsWord word := by
  refine .plain numeral.ne_nil fun b member => ?_
  rcases numeral.digit_or_sign member with digit | plus | minus
  · simp [isWordByte, Bytes.isIdentifierPart, digit]
  · simp [isWordByte, plus]
  · simp [isWordByte, minus]

theorem isWord_name (keyword : Keyword) : IsWord keyword.name := by
  have nonempty : keyword.name.isEmpty = false := by cases keyword <;> rfl
  have all : keyword.name.all isWordByte = true := by cases keyword <;> rfl
  exact .plain (List.isEmpty_eq_false_iff.mp nonempty) (List.all_eq_true.mp all)

def operandText : List Bytes → Bytes
  | [] => []
  | first :: rest => byte ' ' :: (first ++ rest.flatMap fun word => utf8 ", " ++ word)

theorem endsWord_flatMap (rest : List Bytes) :
    EndsWord (rest.flatMap fun word => utf8 ", " ++ word) := by
  cases rest with
  | nil => trivial
  | cons word others => exact (by decide : isPlain (byte ',') = false)

theorem words_flatMap {rest : List Bytes} (areWords : ∀ word ∈ rest, IsWord word) :
    words (rest.flatMap fun word => utf8 ", " ++ word) = .ok rest := by
  induction rest with
  | nil => exact words_nil
  | cons word others induction =>
      have following := induction fun other member =>
        areWords other (List.mem_cons_of_mem word member)
      rw [List.flatMap_cons, List.append_assoc]
      refine (words_gap (by decide) _).trans ((words_gap (by decide) _).trans ?_)
      exact words_word (areWords word List.mem_cons_self) (endsWord_flatMap others) following

theorem words_operandText {operands : List Bytes} (areWords : ∀ word ∈ operands, IsWord word) :
    words (operandText operands) = .ok operands := by
  cases operands with
  | nil => exact words_nil
  | cons first rest =>
      rw [operandText, words_gap (by decide)]
      refine words_word (areWords first List.mem_cons_self) (endsWord_flatMap rest) ?_
      exact words_flatMap fun other member => areWords other (List.mem_cons_of_mem first member)

theorem endsWord_operandText (operands : List Bytes) : EndsWord (operandText operands) := by
  cases operands with
  | nil => trivial
  | cons first rest => exact (by decide : isPlain (byte ' ') = false)

theorem isLineText_flatMap {rest : List Bytes} (areWords : ∀ word ∈ rest, IsWord word) :
    IsLineText (rest.flatMap fun word => utf8 ", " ++ word) := by
  induction rest with
  | nil => exact ⟨by simp, by simp⟩
  | cons word others induction =>
      have comma : IsLineText (utf8 ", ") := ⟨by decide, by decide⟩
      have following := induction fun other member =>
        areWords other (List.mem_cons_of_mem word member)
      rw [List.flatMap_cons]
      exact (comma.append (areWords word List.mem_cons_self).isLineText).append following

theorem isLineText_operandText {operands : List Bytes}
    (areWords : ∀ word ∈ operands, IsWord word) : IsLineText (operandText operands) := by
  cases operands with
  | nil => exact ⟨by simp [operandText], by simp [operandText]⟩
  | cons first rest =>
      have blank : IsLineText [byte ' '] := ⟨by decide, by decide⟩
      have following := isLineText_flatMap fun other member =>
        areWords other (List.mem_cons_of_mem first member)
      exact blank.append ((areWords first List.mem_cons_self).isLineText.append following)

end Source

namespace Assembler

theorem denotes_ofInt [Evaluator] (equates : Table Bytes) (value : Int32) :
    Denotes equates (Text.Decimal.ofInt value.toInt) value := by
  have unmarked := not_startsExpression_of_numeral (Text.Decimal.numeral_ofInt value.toInt)
  have read : Text.Decimal.read 32 (Text.Decimal.ofInt value.toInt) = .ok value.toInt :=
    Text.Decimal.read_ofInt (by decide) value.le_toInt value.toInt_lt
  exact (denotes_decimal_iff unmarked).mpr ⟨value.toInt, read, (Int32.ofInt_toInt value).symm⟩

namespace Command

def operands : Command → List Bytes
  | bare _ => []
  | register _ name => [name]
  | number _ value => [Text.Decimal.ofInt value.toInt]
  | text _ content => [Text.quote content]
  | label _ name => [name]
  | registers _ target source => [target, source]
  | registerNumber _ target value => [target, Text.Decimal.ofInt value.toInt]
  | registerLabel _ counter name => [counter, name]

def line (command : Command) : Bytes :=
  byte '\t' :: (command.keyword.name ++ Source.operandText command.operands)

theorem format_resolve {program : Program} {command : Command}
    (known : ∀ name ∈ command.names, name ∈ program.registers) :
    program.format (command.resolve program.registers) =
      command.keyword.name ++ Source.operandText command.operands := by
  cases command with
  | register keyword name =>
      have named := program.registerName_idxOf (known name (by simp [names]))
      simp [Program.format, resolve, Instruction.format, named, Source.operandText, operands,
        Command.keyword, Verb.name]
  | registers keyword target source =>
      have named := program.registerName_idxOf (known target (by simp [names]))
      have sourceNamed := program.registerName_idxOf (known source (by simp [names]))
      simp [Program.format, resolve, Instruction.format, named, sourceNamed, Source.operandText,
        operands, Command.keyword, Verb.name]
  | registerNumber keyword target value =>
      have named := program.registerName_idxOf (known target (by simp [names]))
      simp [Program.format, resolve, Instruction.format, named, Source.operandText, operands,
        Command.keyword, Verb.name]
  | registerLabel keyword counter name =>
      have named := program.registerName_idxOf (known counter (by simp [names]))
      simp [Program.format, resolve, Instruction.format, named, Source.operandText, operands,
        Command.keyword, Verb.name]
  | _ =>
      simp [Program.format, resolve, Instruction.format, Source.operandText, operands,
        Command.keyword, Verb.name]

variable {literal : Bytes → Int32 → Prop} {keyword : Keyword} {words : List Bytes}
variable {command : Command}

/-- A command is read back from the operands it is written with. -/
theorem Reads.written [Evaluator] (reads : Reads literal keyword words command)
    (equates : Table Bytes) :
    command.keyword = keyword ∧ Reads (Denotes equates) keyword command.operands command := by
  cases reads with
  | bare category => exact ⟨rfl, .bare category⟩
  | register category identifier => exact ⟨rfl, .register category identifier⟩
  | number category stands => exact ⟨rfl, .number category (denotes_ofInt equates _)⟩
  | text category quoted stands => exact ⟨rfl, .text category rfl (Text.unquote?_quote _)⟩
  | label category identifier => exact ⟨rfl, .label category identifier⟩
  | registers category identifier source => exact ⟨rfl, .registers category identifier source⟩
  | registerNumber category identifier stands =>
      exact ⟨rfl, .registerNumber category identifier (denotes_ofInt equates _)⟩
  | registerLabel category identifier label =>
      exact ⟨rfl, .registerLabel category identifier label⟩

theorem Reads.isWord_of_mem_operands (reads : Reads literal keyword words command)
    {word : Bytes} (member : word ∈ command.operands) : Source.IsWord word := by
  cases reads with
  | bare category => cases member
  | register category identifier | label category identifier =>
      obtain rfl := List.mem_singleton.mp member
      exact Source.isWord_of_isIdentifier identifier
  | number category stands =>
      obtain rfl := List.mem_singleton.mp member
      exact Source.isWord_of_numeral (Text.Decimal.numeral_ofInt _)
  | text category quoted stands =>
      obtain rfl := List.mem_singleton.mp member
      exact .quote _
  | registers category identifier second | registerLabel category identifier second =>
      rcases List.mem_pair.mp member with rfl | rfl
      · exact Source.isWord_of_isIdentifier identifier
      · exact Source.isWord_of_isIdentifier second
  | registerNumber category identifier stands =>
      rcases List.mem_pair.mp member with rfl | rfl
      · exact Source.isWord_of_isIdentifier identifier
      · exact Source.isWord_of_numeral (Text.Decimal.numeral_ofInt _)

theorem Reads.words_line (reads : Reads literal keyword words command) :
    Source.words command.line = .ok (command.keyword.name :: command.operands) := by
  rw [line, Source.words_gap (by decide)]
  exact Source.words_word (Source.isWord_name command.keyword)
    (Source.endsWord_operandText command.operands)
    (Source.words_operandText fun word => reads.isWord_of_mem_operands)

theorem Reads.isLineText_line (reads : Reads literal keyword words command) :
    Source.IsLineText command.line := by
  have tab : Source.IsLineText [byte '\t'] := ⟨by decide, by decide⟩
  exact tab.append ((Source.isWord_name command.keyword).isLineText.append
    (Source.isLineText_operandText fun word => reads.isWord_of_mem_operands))

end Command

theorem replaced_empty (word : Bytes) : replaced Table.empty word = word := by
  rw [replaced_eq]
  split
  · rfl
  · rfl

theorem map_replaced_empty (words : List Bytes) :
    words.map (replaced Table.empty) = words :=
  (List.map_congr_left fun word _ => replaced_empty word).trans (List.map_id words)

theorem words_declaration {name : Bytes} (identifier : Bytes.isIdentifier name = true) :
    Source.words (declaration name) = .ok [declaration name] := by
  have split : Source.words (declaration name ++ []) = .ok [declaration name] :=
    Source.words_word (Source.isWord_declaration identifier) trivial Source.words_nil
  rwa [List.append_nil] at split

theorem name_ne_equateWord (keyword : Keyword) : keyword.name ≠ Draft.equateWord := by
  cases keyword <;> decide

namespace Clause

variable [Evaluator]

/-- A command in its line is read as itself where there are no equates. -/
theorem reads_line {literal : Bytes → Int32 → Prop} {keyword : Keyword} {words : List Bytes}
    {command : Command} (reads : Command.Reads literal keyword words command) :
    Clause.Reads (Denotes Table.empty) Table.empty command.line
      (.statement [] (some command)) := by
  obtain ⟨rfl, written⟩ := reads.written Table.empty
  refine .statement reads.words_line ?_ (map_replaced_empty _) (by simp) (.command written)
  simpa using name_ne_equateWord command.keyword

theorem reads_declaration {name : Bytes} (identifier : Bytes.isIdentifier name = true) :
    Clause.Reads (Denotes Table.empty) Table.empty (declaration name)
      (.statement [name] none) := by
  refine .statement (words_declaration identifier) ?_ (map_replaced_empty _)
    (by simpa using identifier) .nothing
  intro marked
  have colon := congrArg Draft.isDeclaration (Option.some.inj marked)
  rw [Draft.isDeclaration_declaration] at colon
  revert colon
  decide

end Clause

end Assembler

end RegisterMachine
