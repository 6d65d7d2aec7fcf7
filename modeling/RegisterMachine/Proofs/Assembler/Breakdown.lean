import RegisterMachine.Expression.Lookups
import RegisterMachine.Proofs.Assembler.Expressions
import RegisterMachine.Proofs.Assembler.WellFormed

/-! Where assembly breaks down. It stops without an error at the first line whose operand is an
expression that cannot be cut or evaluated, and the text of a predefined equate may be too short for
the cut, or lose a byte that belongs to it. -/

namespace RegisterMachine.Assembler

open Grammar

/-- An expression that cannot be evaluated: its word is too short to be cut, or its evaluation breaks
down. -/
inductive Breaks [Evaluator] (equates : Table Bytes) : Bytes → Expression.Breakdown → Prop
  | short : Breaks equates [byte '$', byte '('] .bounds
  | evaluation {text : Bytes} {last : UInt8} {breakdown : Expression.Breakdown}
      (broken : Evaluator.evaluated (Draft.start equates).constants text = .crashed breakdown) :
      Breaks equates (byte '$' :: byte '(' :: (text ++ [last])) breakdown

/-- The operand of a keyword that may be an expression. -/
inductive TakesValue : Keyword → List Bytes → Bytes → Prop
  | only {keyword : Keyword} {word : Bytes} (category : keyword.category = .registerOrNumber) :
      TakesValue keyword [word] word
  | second {keyword : Keyword} {target word : Bytes}
      (category : keyword.category = .registerAndValue)
      (identifier : Bytes.isIdentifier target = true) : TakesValue keyword [target, word] word

/-- A line with labels that breaks down on one of its words. -/
inductive LineBreaks [Evaluator] (equates : Table Bytes) (line : Bytes) (labels : List Bytes)
    (word : Bytes)
    (breakdown : Expression.Breakdown) : Prop
  | intro {words operands : List Bytes} {keyword : Keyword}
      (split : Source.words line = .ok words)
      (ordinary : words.head? ≠ some Draft.equateWord)
      (leading : words.map (replaced equates) =
        labels.map declaration ++ keyword.name :: operands)
      (identifiers : ∀ label ∈ labels, Bytes.isIdentifier label = true)
      (takes : TakesValue keyword operands word)
      (breaks : Breaks equates word breakdown)

/-- Lines that can be added up to one that breaks down on a word. -/
inductive LinesBreak [Evaluator] (predefined : Table Bytes) (lines : List Bytes) (word : Bytes)
    (breakdown : Expression.Breakdown) : Prop
  | intro {transcript : Transcript} {line : Bytes} {rest labels : List Bytes}
      (split : lines = transcript.lines ++ line :: rest)
      (reads : transcript.Reads Denotes predefined)
      (distinct : (transcript.labels ++ labels).Nodup)
      (breaks : LineBreaks (equatesAt predefined lines transcript.length) line labels word
        breakdown)

theorem Breaks.startsExpression [Evaluator] {equates : Table Bytes} {word : Bytes}
    {breakdown : Expression.Breakdown} (breaks : Breaks equates word breakdown) :
    Source.startsExpression word = true := by
  cases breaks with
  | short => rfl
  | evaluation broken => simp [Source.startsExpression]

namespace Draft

theorem bind_eq_crash_iff {α β : Type} {first : Except Stop α} {next : α → Except Stop β}
    {breakdown : Expression.Breakdown} :
    (first >>= next) = .error (.crash breakdown) ↔
      first = .error (.crash breakdown) ∨
        ∃ value, first = .ok value ∧ next value = .error (.crash breakdown) := by
  cases first <;> simp [Bind.bind, Except.bind]

variable {draft : Draft} {breakdown : Expression.Breakdown}

theorem expression_eq_crash_iff [Evaluator] {text : Bytes} :
    draft.expression text = .error (.crash breakdown) ↔
      Evaluator.evaluated draft.constants text = .crashed breakdown := by
  unfold expression
  cases Evaluator.evaluated draft.constants text with
  | integer n =>
      simp only [reduceCtorEq, iff_false]
      split <;> simp
  | other => simp
  | refused failure => simp
  | crashed on => simp

theorem value_eq_crash_iff [Evaluator] {word : Bytes} :
    draft.value word = .error (.crash breakdown) ↔ Breaks draft.equates word breakdown := by
  constructor
  · intro failed
    unfold value at failed
    split at failed
    · rename_i marked
      rcases cut_of_startsExpression marked with ⟨rfl, inner⟩ | ⟨text, last, rfl, inner⟩
      · rw [inner] at failed
        cases failed
        exact .short
      · rw [inner] at failed
        exact .evaluation (expression_eq_crash_iff.mp failed)
    · split at failed <;> cases failed
  · intro breaks
    cases breaks with
    | short => rfl
    | evaluation broken =>
        simp only [value, Source.startsExpression, beq_self_eq_true, Bool.and_self,
          ↓reduceIte, expressionText?_marked]
        exact expression_eq_crash_iff.mpr broken

theorem register_ne_crash {word : Bytes} :
    draft.register word ≠ .error (.crash breakdown) := by
  unfold register
  split <;> simp

theorem target_ne_crash {word : Bytes} : target word ≠ .error (.crash breakdown) := by
  unfold target
  split <;> simp

theorem register_then_ne_crash {word : Bytes} {build : Int → Instruction} :
    (do
      let (draft, register) ← draft.register word
      return (draft, build register) : Except Stop (Draft × Instruction)) ≠
        .error (.crash breakdown) := by
  rw [Ne, bind_eq_crash_iff]
  rintro (failed | ⟨⟨next, index⟩, _, built⟩)
  · exact register_ne_crash failed
  · cases built

theorem instruction_eq_crash_iff [Evaluator] {keyword : Keyword} {operands : List Bytes} :
    draft.instruction keyword operands = .error (.crash breakdown) ↔
      ∃ word, TakesValue keyword operands word ∧ Breaks draft.equates word breakdown := by
  constructor
  · intro failed
    unfold Draft.instruction at failed
    simp only at failed
    -- Only the categories with a value evaluate anything; a fault elsewhere has a cause.
    split at failed
    · cases failed
    · exact absurd failed register_then_ne_crash
    · rename_i word category
      split at failed
      · rcases bind_eq_crash_iff.mp failed with broken | ⟨value, _, built⟩
        · exact ⟨word, .only category, value_eq_crash_iff.mp broken⟩
        · cases built
      · exact absurd failed register_then_ne_crash
    · split at failed
      · split at failed <;> cases failed
      · exact absurd failed register_then_ne_crash
    · rcases bind_eq_crash_iff.mp failed with broken | ⟨label, _, built⟩
      · exact absurd broken target_ne_crash
      · cases built
    · rename_i first second category
      rcases bind_eq_crash_iff.mp failed with broken | ⟨⟨next, index⟩, found, rest⟩
      · exact absurd broken register_ne_crash
      · obtain ⟨identifier, rfl, rfl⟩ := register_eq_ok_iff.mp found
        simp only at rest
        split at rest
        · rcases bind_eq_crash_iff.mp rest with broken | ⟨value, _, built⟩
          · exact ⟨second, .second category identifier, value_eq_crash_iff.mp broken⟩
          · cases built
        · exact absurd rest register_then_ne_crash
    · rcases bind_eq_crash_iff.mp failed with broken | ⟨⟨next, index⟩, _, rest⟩
      · exact absurd broken register_ne_crash
      · rcases bind_eq_crash_iff.mp rest with broken | ⟨label, _, built⟩
        · exact absurd broken target_ne_crash
        · cases built
    · split at failed <;> cases failed
  · rintro ⟨word, takes, breaks⟩
    have literal : isLiteral word = true := by
      rw [isLiteral, breaks.startsExpression, Bool.true_or]
    cases takes with
    | only category =>
        simp only [Draft.instruction, category, literal, ↓reduceIte]
        exact bind_eq_crash_iff.mpr (.inl (value_eq_crash_iff.mpr breaks))
    | second category identifier =>
        simp only [Draft.instruction, category]
        refine bind_eq_crash_iff.mpr (.inr ⟨_, register_eq_ok_iff.mpr ⟨identifier, rfl, rfl⟩, ?_⟩)
        simp only [literal, ↓reduceIte]
        exact bind_eq_crash_iff.mpr (.inl (value_eq_crash_iff.mpr breaks))

theorem command_eq_crash_iff [Evaluator] {lineNumber : Int} {line name : Bytes}
    {operands : List Bytes} :
    draft.command lineNumber line name operands = .error (.crash breakdown) ↔
      ∃ keyword word, name = keyword.name ∧ TakesValue keyword operands word ∧
        Breaks draft.equates word breakdown := by
  constructor
  · intro failed
    unfold Draft.command at failed
    split at failed
    · cases failed
    · rename_i keyword found
      rcases bind_eq_crash_iff.mp failed with broken | ⟨_, _, built⟩
      · obtain ⟨word, takes, breaks⟩ := instruction_eq_crash_iff.mp broken
        exact ⟨keyword, word, (Keyword.name_of_ofName? found).symm, takes, breaks⟩
      · cases built
  · rintro ⟨keyword, word, rfl, takes, breaks⟩
    simp only [Draft.command, Keyword.ofName?_name]
    exact bind_eq_crash_iff.mpr (.inl (instruction_eq_crash_iff.mpr ⟨word, takes, breaks⟩))

theorem declare_ne_crash {words : List Bytes} :
    draft.declare words ≠ .error (.crash breakdown) := by
  induction words generalizing draft with
  | nil => simp [declare]
  | cons word rest induction =>
      simp only [declare]
      split
      · split
        · simp
        · split
          · simp
          · exact induction
      · simp

theorem statement_eq_crash_iff [Evaluator] {lineNumber : Int} {line : Bytes} {words : List Bytes} :
    draft.statement lineNumber line words = .error (.crash breakdown) ↔
      ∃ labels keyword operands word, words = labels.map declaration ++ keyword.name :: operands ∧
        (∀ label ∈ labels, Bytes.isIdentifier label = true) ∧ draft.HasRoom labels ∧
        TakesValue keyword operands word ∧ Breaks draft.equates word breakdown := by
  constructor
  · intro failed
    unfold Draft.statement at failed
    split at failed
    · rename_i stop found
      obtain rfl := Except.error.inj failed
      exact absurd found declare_ne_crash
    · cases failed
    · rename_i labelled name operands found
      obtain ⟨labels, split, identifiers, nodup, fresh, rfl⟩ := labels_of_declare found
      obtain ⟨keyword, word, rfl, takes, breaks⟩ := command_eq_crash_iff.mp failed
      exact ⟨labels, keyword, operands, word, split, identifiers, ⟨nodup, fresh⟩, takes, breaks⟩
  · rintro ⟨labels, keyword, operands, word, rfl, identifiers, ⟨nodup, fresh⟩, takes, breaks⟩
    have ordinary : ∀ first, (keyword.name :: operands).head? = some first →
        isDeclaration first = false := by
      rintro _ ⟨⟩
      exact isDeclaration_name keyword
    simp only [Draft.statement, declare_labels draft identifiers nodup fresh ordinary]
    exact command_eq_crash_iff.mpr ⟨keyword, word, rfl, takes, breaks⟩

theorem equate_ne_crash {words : List Bytes} :
    draft.equate words ≠ .error (.crash breakdown) := by
  unfold equate
  split
  · split
    · simp
    · split <;> simp
  · simp

theorem addLine_eq_crash_iff [Evaluator] {lineNumber : Int} {line : Bytes} :
    draft.addLine lineNumber line = .error (.crash breakdown) ↔
      ∃ labels word, LineBreaks draft.equates line labels word breakdown ∧
        draft.HasRoom labels := by
  constructor
  · intro failed
    unfold Draft.addLine at failed
    split at failed
    · cases failed
    · cases failed
    · cases failed
    · rename_i first rest split
      split at failed
      · exact absurd failed equate_ne_crash
      · rename_i different
        obtain ⟨labels, keyword, operands, word, leading, identifiers, room, takes, breaks⟩ :=
          statement_eq_crash_iff.mp failed
        rw [substitute_eq_replaced] at leading
        have ordinary : (first :: rest).head? ≠ some equateWord := by simpa using different
        exact ⟨labels, word, .intro split ordinary leading identifiers takes breaks, room⟩
  · rintro ⟨labels, word, ⟨split, ordinary, leading, identifiers, takes, breaks⟩, room⟩
    rename_i words operands keyword
    cases words with
    | nil => simp at leading
    | cons first rest =>
        have different : first ≠ equateWord := by simpa using ordinary
        simp only [Draft.addLine, split, different, ↓reduceIte, substitute_eq_replaced]
        exact statement_eq_crash_iff.mpr
          ⟨labels, keyword, operands, word, leading, identifiers, room, takes, breaks⟩

theorem equates_grown {literal : Table Bytes → Bytes → Int32 → Prop} {draft : Draft}
    {transcript : Transcript} (reads : transcript.Reads literal draft.equates) (count : Nat) :
    (draft.grown count transcript).equates = transcript.lines.foldl definedBy draft.equates := by
  induction transcript generalizing draft count with
  | nil => rfl
  | cons entry rest induction =>
      cases reads with
      | cons reads fresh later =>
          rw [grown, induction (by rwa [equates_after]), equates_after, ← definedBy_of_reads reads]
          rfl

theorem hasRoom_grown_iff {draft : Draft} {transcript : Transcript} {labels : List Bytes}
    (room : draft.HasRoom transcript.labels) (count : Nat) :
    (draft.grown count transcript).HasRoom labels ↔
      draft.HasRoom (transcript.labels ++ labels) := by
  induction transcript generalizing draft count with
  | nil => rfl
  | cons entry rest induction =>
      obtain ⟨line, clause⟩ := entry
      obtain ⟨here, later⟩ := (hasRoom_append_iff (count + 1) line).mp room
      rw [grown, induction later, Transcript.labels_cons, List.append_assoc,
        hasRoom_append_iff (count + 1) line]
      exact ⟨fun roomThere => ⟨here, roomThere⟩, fun both => both.2⟩

end Draft

theorem equatesAt_length {literal : Table Bytes → Bytes → Int32 → Prop} {predefined : Table Bytes}
    {transcript : Transcript} (reads : transcript.Reads literal predefined) (rest : List Bytes) :
    equatesAt predefined (transcript.lines ++ rest) transcript.length =
      ((Draft.start predefined).grown 0 transcript).equates := by
  have length : transcript.lines.length = transcript.length := List.length_map _
  rw [equatesAt, ← length, List.take_left]
  exact (@Draft.equates_grown literal (Draft.start predefined) transcript reads 0).symm

def Reading.taken (reading : Reading) : Nat :=
  if reading.failure.isSome then reading.count - 1 else reading.count

section Readings

variable [Evaluator] {predefined : Table Bytes} {source : Bytes} {breakdown : Expression.Breakdown}

/-- A reading holds the draft of a transcript of the lines it has taken. These are all lines unless it
fails, and it breaks down only if the line behind them does. -/
theorem exists_transcript_of_reading (predefined : Table Bytes) (source : Bytes) :
    ∃ (transcript : Transcript) (rest : List Bytes),
      Source.lines source = transcript.lines ++ rest ∧
      transcript.Reads Denotes predefined ∧ transcript.labels.Nodup ∧
      (reading predefined source).draft = (Draft.start predefined).grown 0 transcript ∧
      (reading predefined source).taken = transcript.length ∧
      ((reading predefined source).failure = none → rest = []) ∧
      ∀ breakdown, (reading predefined source).failure = some (.crashed breakdown) →
        ∃ line others, rest = line :: others ∧
          ((Draft.start predefined).grown 0 transcript).addLine (transcript.length + 1) line =
            .error (.crash breakdown) := by
  obtain ⟨transcript, rest, split, reads, room, ends⟩ :=
    (Draft.start predefined).exists_transcript 0 (Source.lines source)
  refine ⟨transcript, rest, split, reads, room.1, ?_⟩
  rw [reading, split, Draft.addLines_append reads room, Nat.zero_add]
  rcases ends with rfl | ⟨line, others, stop, rfl, failed⟩
  · exact ⟨rfl, rfl, fun _ => rfl, by simp [Draft.addLines]⟩
  · rw [Nat.zero_add] at failed
    rw [Draft.addLines, failed]
    cases stop with
    | because cause => exact ⟨rfl, rfl, by simp, by simp⟩
    | crash on =>
        refine ⟨rfl, rfl, by simp, ?_⟩
        rintro _ ⟨⟩
        exact ⟨line, others, rfl, failed⟩

theorem reading_crashed_iff :
    (reading predefined source).failure = some (.crashed breakdown) ↔
      ∃ word, LinesBreak predefined (Source.lines source) word breakdown := by
  constructor
  · intro crashed
    obtain ⟨transcript, rest, split, reads, nodup, _, _, _, stops⟩ :=
      exists_transcript_of_reading predefined source
    obtain ⟨line, others, rfl, failed⟩ := stops breakdown crashed
    obtain ⟨labels, word, breaks, room⟩ := Draft.addLine_eq_crash_iff.mp failed
    rw [Draft.hasRoom_grown_iff (Draft.hasRoom_start predefined nodup)] at room
    refine ⟨word, .intro split reads room.1 ?_⟩
    rwa [split, equatesAt_length reads]
  · rintro ⟨word, ⟨split, reads, distinct, breaks⟩⟩
    rename_i transcript line rest labels
    have room := Draft.hasRoom_start predefined (List.nodup_append.mp distinct).1
    have roomThere := (Draft.hasRoom_grown_iff room 0).mpr (Draft.hasRoom_start predefined distinct)
    rw [split, equatesAt_length reads] at breaks
    have failed :
        ((Draft.start predefined).grown 0 transcript).addLine (transcript.length + 1) line =
          .error (.crash breakdown) :=
      Draft.addLine_eq_crash_iff.mpr ⟨labels, word, breaks, roomThere⟩
    rw [reading, split, Draft.addLines_append reads room, Nat.zero_add, Draft.addLines, failed]

theorem parse_crashed_iff {assembler : Assembler} :
    (assembler.parse source).2 = .error (.crashed breakdown) ↔
      (reading assembler.predefined source).failure = some (.crashed breakdown) := by
  simp only [parse, link]
  cases (reading assembler.predefined source).failure with
  | some failure => simp
  | none =>
      simp only [reduceCtorEq, iff_false]
      split
      · split <;> simp
      · simp

theorem reading_of_parse {assembler : Assembler} {program : Program}
    (accepted : (assembler.parse source).2 = .ok program) :
    (reading assembler.predefined source).failure = none ∧
      (reading assembler.predefined source).draft.program = program := by
  simp only [parse, link] at accepted
  split at accepted
  · cases accepted
  · rename_i complete
    split at accepted
    · split at accepted
      · cases accepted
      · exact ⟨complete, Except.ok.inj accepted⟩
    · cases accepted

end Readings

theorem Transcript.mem_opcodes {transcript : Transcript} {known : List Bytes} {start place : Nat}
    {line : Bytes} {clause : Clause} {command : Command}
    (found : transcript[place]? = some (line, clause)) (isCommand : clause.command? = some command) :
    (⟨start + place + 1, line, some (command.resolve known)⟩ : Opcode) ∈
      transcript.opcodes known start := by
  induction transcript generalizing start place with
  | nil => cases found
  | cons entry rest induction =>
      cases place with
      | zero =>
          obtain rfl := Option.some.inj found
          apply List.mem_append_left
          simp [isCommand]
      | succ place =>
          have number : ((start + 1 : Nat) + place + 1 : Int) = start + (place + 1 : Nat) + 1 := by
            push_cast
            omega
          rw [← number]
          exact List.mem_append_right _ (induction found)

theorem equatesAt_append {lines : List Bytes} {count : Nat} (within : count ≤ lines.length)
    (predefined : Table Bytes) (rest : List Bytes) :
    equatesAt predefined (lines ++ rest) count = equatesAt predefined lines count := by
  rw [equatesAt, List.take_append_of_le_length within, equatesAt]

theorem TakesValue.mem {keyword : Keyword} {operands : List Bytes} {word : Bytes}
    (takes : TakesValue keyword operands word) : word ∈ operands := by
  cases takes with
  | only category => exact List.mem_singleton.mpr rfl
  | second category identifier => exact List.mem_pair.mpr (.inr rfl)

theorem LinesBreak.isClosed_or_predefined [Evaluator] {predefined : Table Bytes}
    {lines : List Bytes}
    {word : Bytes} {breakdown : Expression.Breakdown}
    (breaks : LinesBreak predefined lines word breakdown) :
    IsClosed word ∨ ∃ name, predefined.get? name = some word := by
  obtain ⟨_, _, _, ⟨split, _, leading, _, takes, _⟩⟩ := breaks
  apply Assembler.isClosed_or_predefined split
  rw [leading]
  exact List.mem_append_right _ (List.mem_cons_of_mem _ takes.mem)

/-- An expression on a line of a transcript is cut and evaluated, and the place of the line holds the
number it comes to. -/
theorem Transcript.Reads.exists_number [Evaluator] {predefined : Table Bytes}
    {transcript : Transcript}
    {program : Program} (reads : transcript.Reads Denotes predefined)
    (describes : transcript.Describes program) {count : Nat} {line word : Bytes}
    {words : List Bytes} (found : transcript.lines[count]? = some line)
    (split : Source.words line = .ok words) (ordinary : words.head? ≠ some Draft.equateWord)
    (member : word ∈
      words.map (replaced (equatesAt predefined transcript.lines count)))
    (marked : Source.startsExpression word = true) :
    ∃ last value, Evaluates (equatesAt predefined transcript.lines count) word last value ∧
      (last = byte ')' ∨ ∃ name, predefined.get? name = some word) ∧
      ∃ opcode ∈ program.opcodes.toList, opcode.lineNumber = count + 1 ∧
        opcode.instruction.bind Instruction.number? = some value := by
  obtain ⟨clause, place⟩ := Transcript.getElem?_of_lines found
  obtain ⟨command, value, isCommand, denotes, isNumber⟩ :=
    (reads.clauseAt place).1.number?_of_startsExpression split ordinary member marked
  obtain ⟨last, evaluates⟩ := denotes.evaluates marked
  refine ⟨last, value, evaluates, ?_, ?_⟩
  · exact (isClosed_or_predefined split member).imp_left evaluates.last_eq
  · refine ⟨_, describes.opcodes ▸ Transcript.mem_opcodes place isCommand, ?_, ?_⟩
    · simp
    · rw [Option.bind_some, Command.number?_resolve, isNumber]

/-- Assembly breaks down exactly on the first line with an expression that cannot be cut or evaluated.
An expression on a line that was taken has been cut and evaluated, the line holds the number it comes
to, and the byte at its end is a parenthesis unless the expression is a predefined text. -/
theorem parse_breakdown [Evaluator] (assembler : Assembler) (source : Bytes) :
    (∀ breakdown, (assembler.parse source).2 = .error (.crashed breakdown) ↔
      ∃ word, LinesBreak assembler.predefined (Source.lines source) word breakdown) ∧
    (∀ word breakdown,
      LinesBreak assembler.predefined (Source.lines source) word breakdown →
        IsClosed word ∨ ∃ name, assembler.predefined.get? name = some word) ∧
    (∀ count line words word, count < (reading assembler.predefined source).taken →
      (Source.lines source)[count]? = some line → Source.words line = .ok words →
      words.head? ≠ some Draft.equateWord →
      word ∈ words.map (replaced (equatesAt assembler.predefined (Source.lines source) count)) →
      Source.startsExpression word = true →
        ∃ last value,
          Evaluates (equatesAt assembler.predefined (Source.lines source) count) word last value ∧
          (last = byte ')' ∨ ∃ name, assembler.predefined.get? name = some word) ∧
          ∃ opcode ∈ (reading assembler.predefined source).draft.opcodes.toList,
            opcode.lineNumber = count + 1 ∧
            opcode.instruction.bind Instruction.number? = some value) ∧
    (∀ program, (assembler.parse source).2 = .ok program →
      (reading assembler.predefined source).draft.program = program ∧
        (reading assembler.predefined source).taken = (Source.lines source).length) ∧
    ∀ opcode ∈ (reading assembler.predefined source).draft.opcodes.toList,
      ∃ instruction, opcode.instruction = some instruction ∧
        instruction.checked = .ok instruction := by
  obtain ⟨transcript, rest, split, reads, nodup, isDraft, isTaken, complete, _⟩ :=
    exists_transcript_of_reading assembler.predefined source
  have describes := describes_grown assembler.predefined nodup
  have taken : (reading assembler.predefined source).taken = transcript.lines.length := by
    rw [isTaken, Transcript.lines, List.length_map]
  rw [← isDraft] at describes
  refine ⟨?_, ?_, ?_, ?_, ?_⟩
  · intro breakdown
    exact parse_crashed_iff.trans reading_crashed_iff
  · intro word breakdown breaks
    exact breaks.isClosed_or_predefined
  · intro count line words word within found splits ordinary member marked
    rw [taken] at within
    rw [split, List.getElem?_append_left within] at found
    rw [split, equatesAt_append within.le] at member ⊢
    exact reads.exists_number describes found splits ordinary member marked
  · intro program accepted
    obtain ⟨noFailure, isProgram⟩ := reading_of_parse accepted
    rw [split, complete noFailure, List.append_nil]
    exact ⟨isProgram, taken⟩
  · intro opcode member
    obtain ⟨command, here, found⟩ := describes.command_of_mem_opcodes member
    obtain ⟨_, _, _, commandReads⟩ := reads.command here
    exact ⟨_, found, if_pos (commandReads.accepted _)⟩

/-- A closed expression, whose evaluation breaks down. -/
theorem parse_breakdown_zeroStep :
    ∃ word, IsClosed word ∧
      LinesBreak fresh.predefined (Source.lines (utf8 "push $(range(0,1,1<<62)[::4])")) word
        .zeroStep := by
  have crashed : (reading fresh.predefined (utf8 "push $(range(0,1,1<<62)[::4])")).failure =
      some (.crashed .zeroStep) := by decide +kernel
  obtain ⟨breaks_iff, cause, _⟩ :=
    parse_breakdown fresh (utf8 "push $(range(0,1,1<<62)[::4])")
  obtain ⟨word, breaks⟩ := (breaks_iff .zeroStep).mp (parse_crashed_iff.mpr crashed)
  rcases cause word .zeroStep breaks with closed | ⟨name, predefined⟩
  · exact ⟨word, closed, breaks⟩
  · cases predefined

/-- Predefined texts that start an expression and do not end it. The first is too short to be cut; the
second loses a byte that is no parenthesis and is taken for a number. -/
theorem parse_unclosed_equate :
    ((fresh.predefine (utf8 "X") (utf8 "$(")).parse (utf8 "push X")).2 =
        .error (.crashed .bounds) ∧
      ∃ program, ((fresh.predefine (utf8 "X") (utf8 "$(5x")).parse (utf8 "push X")).2 =
          .ok program ∧
        program.opcodes.toList.map Opcode.instruction = [some (.number (.known .push) 5)] := by
  have crashed :
      (reading (fresh.predefine (utf8 "X") (utf8 "$(")).predefined (utf8 "push X")).failure =
        some (.crashed .bounds) := by decide +kernel
  have accepted :
      ((fresh.predefine (utf8 "X") (utf8 "$(5x")).parse (utf8 "push X")).2.toOption.map
          (fun program => program.opcodes.toList.map Opcode.instruction) =
        some [some (.number (.known .push) 5)] := by decide +kernel
  refine ⟨parse_crashed_iff.mpr crashed, ?_⟩
  obtain ⟨program, isProgram, instructions⟩ := Option.map_eq_some_iff.mp accepted
  refine ⟨program, ?_, instructions⟩
  generalize ((fresh.predefine (utf8 "X") (utf8 "$(5x")).parse (utf8 "push X")).2 = result
    at isProgram
  cases result with
  | error failure => cases isProgram
  | ok other => exact congrArg Except.ok (Option.some.inj isProgram)

end RegisterMachine.Assembler
