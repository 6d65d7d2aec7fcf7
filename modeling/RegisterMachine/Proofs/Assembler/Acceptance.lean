import RegisterMachine.Expression.Lookups
import RegisterMachine.Proofs.Assembler.Grammar

/-! The assembler takes exactly the sources of the grammar: a source of the grammar has a transcript
in which no name is given twice and none is missing, and the lines of a transcript are of the
grammar. -/

namespace RegisterMachine.Assembler

open Grammar

theorem Clause.Phrase.target?_unique [Evaluator] {equates : Table Bytes} {rest : List Bytes}
    {command other : Option Command} (first : Clause.Phrase (Denotes equates) rest command)
    (second : Clause.Phrase (Denotes equates) rest other) :
    command.bind Command.target? = other.bind Command.target? := by
  cases first with
  | nothing =>
      cases second with
      | nothing => rfl
  | command reads =>
      rename_i keyword operands command
      generalize phrase : keyword.name :: operands = words at second
      cases second with
      | nothing => cases phrase
      | command again =>
          obtain ⟨name, rfl⟩ := List.cons.inj phrase
          have found := congrArg Keyword.ofName? name
          rw [Keyword.ofName?_name, Keyword.ofName?_name] at found
          obtain rfl := Option.some.inj found
          -- Both commands are the one that a draft makes of the operands.
          have made : Draft.instruction (Draft.start equates) _ _ = _ :=
            Draft.instruction_of_reads reads
          have madeAgain : Draft.instruction (Draft.start equates) _ _ = _ :=
            Draft.instruction_of_reads again
          have same := congrArg (fun built => built.2.target?)
            (Except.ok.inj (made.symm.trans madeAgain))
          simp only [Command.resolve_target?] at same
          exact same

theorem Clause.Reads.target?_unique [Evaluator] {equates : Table Bytes} {line : Bytes}
    {clause other : Clause}
    (first : clause.Reads (Denotes equates) equates line)
    (second : other.Reads (Denotes equates) equates line) :
    clause.command?.bind Command.target? = other.command?.bind Command.target? := by
  cases first with
  | equate split identifier =>
      cases second with
      | equate => rfl
      | statement again ordinary =>
          obtain rfl := Except.ok.inj (split.symm.trans again)
          exact absurd rfl ordinary
  | statement split ordinary leading identifiers phrase =>
      cases second with
      | equate again =>
          obtain rfl := Except.ok.inj (split.symm.trans again)
          exact absurd rfl ordinary
      | statement again _ leadingAgain _ phraseAgain =>
          obtain rfl := Except.ok.inj (split.symm.trans again)
          have words := leading.symm.trans leadingAgain
          have labels := congrArg (List.takeWhile fun word => word.getLast? == some (byte ':')) words
          rw [takeWhile_declaration phrase, takeWhile_declaration phraseAgain] at labels
          rw [labels] at words
          obtain rfl := List.append_cancel_left words
          exact phrase.target?_unique phraseAgain

theorem Transcript.mem_commands_iff {transcript : Transcript} {command : Command} :
    command ∈ transcript.commands ↔
      ∃ (count : Nat) (line : Bytes) (labels : List Bytes),
        transcript[count]? = some (line, Clause.statement labels (some command)) := by
  rw [Transcript.commands, List.mem_filterMap]
  constructor
  · rintro ⟨⟨line, clause⟩, member, found⟩
    obtain ⟨count, place⟩ := List.mem_iff_getElem?.mp member
    cases clause with
    | equate name text => cases found
    | statement labels other =>
        obtain rfl : other = some command := found
        exact ⟨count, line, labels, place⟩
  · rintro ⟨count, line, labels, place⟩
    exact ⟨_, List.mem_of_getElem? place, rfl⟩

theorem Grammatical.linked_transcript [Evaluator] {predefined : Table Bytes}
    {transcript : Transcript}
    (grammatical : Grammatical predefined transcript.lines)
    (reads : transcript.Reads Literal predefined) : transcript.Linked := by
  intro command member name target
  obtain ⟨count, line, labels, found⟩ := Transcript.mem_commands_iff.mp member
  rw [← labelsOfAll_of_reads reads]
  exact grammatical.linked count line labels command name (Transcript.lines_getElem? found)
    (reads.clauseAt found).1 target

theorem hasClauses_of_reads [Evaluator] {predefined : Table Bytes} {transcript : Transcript}
    (reads : transcript.Reads Literal predefined) : HasClauses predefined transcript.lines where
  splits line member := by
    obtain ⟨count, found⟩ := List.mem_iff_getElem?.mp member
    obtain ⟨clause, place⟩ := Transcript.getElem?_of_lines found
    cases (reads.clauseAt place).1 with
    | equate split identifier => exact ⟨_, split⟩
    | statement split ordinary leading identifiers phrase => exact ⟨_, split⟩
  equates count line rest found split := by
    obtain ⟨clause, place⟩ := Transcript.getElem?_of_lines found
    obtain ⟨clauseReads, fresh⟩ := reads.clauseAt place
    cases clauseReads with
    | equate again identifier =>
        rename_i name text
        obtain rfl := (List.cons.inj (Except.ok.inj (split.symm.trans again))).2
        have absent := fresh name text rfl
        exact ⟨name, text, rfl, identifier, get?_foldl_definedBy_eq_none_iff.mp absent⟩
    | statement again ordinary =>
        obtain rfl := Except.ok.inj (split.symm.trans again)
        exact absurd rfl ordinary
  statements count line words found split ordinary := by
    obtain ⟨clause, place⟩ := Transcript.getElem?_of_lines found
    have clauseReads := (reads.clauseAt place).1
    cases clause with
    | statement labels command => exact ⟨labels, command, clauseReads⟩
    | equate name text =>
        cases clauseReads with
        | equate again identifier =>
            obtain rfl := Except.ok.inj (split.symm.trans again)
            exact absurd rfl ordinary

theorem hasClosedTexts_equatesAt [Evaluator] {predefined : Table Bytes} {transcript : Transcript}
    (reads : transcript.Reads Literal predefined) (closed : HasClosedTexts predefined)
    (count : Nat) : HasClosedTexts (equatesAt predefined transcript.lines count) := by
  induction reads generalizing count with
  | nil =>
      rw [Transcript.lines, List.map_nil, equatesAt, List.take_nil]
      exact closed
  | cons reads fresh later induction =>
      cases count with
      | zero => exact closed
      | succ count =>
          rw [← definedBy_of_reads reads] at induction
          refine induction ?_ count
          rw [definedBy_of_reads reads]
          exact closed.define reads

/-- The lines of a transcript are of the grammar if no label is declared twice or missing. -/
theorem grammatical_of_transcript [Evaluator] {predefined : Table Bytes} {transcript : Transcript}
    (closed : HasClosedTexts predefined) (reads : transcript.Reads Literal predefined)
    (nodup : transcript.labels.Nodup) (linked : transcript.Linked) :
    Grammatical predefined transcript.lines where
  toHasClauses := hasClauses_of_reads reads
  distinct := by rwa [labelsOfAll_of_reads reads]
  linked count line labels command name found statement target := by
    obtain ⟨clause, place⟩ := Transcript.getElem?_of_lines found
    have closedHere := hasClosedTexts_equatesAt reads closed count
    have here := (reads.clauseAt place).1.of_closed closedHere
      fun _ _ isClosed => (denotes_iff_literal isClosed).mpr
    have again := statement.of_closed closedHere
      fun _ _ isClosed => (denotes_iff_literal isClosed).mpr
    -- A line goes to one label only, so this is where its clause in the transcript goes.
    have same := here.target?_unique again
    obtain ⟨other, isCommand, goes⟩ := Option.bind_eq_some_iff.mp (same.trans target)
    rw [labelsOfAll_of_reads reads]
    refine linked other ?_ name goes
    exact List.mem_filterMap.mpr ⟨_, List.mem_of_getElem? place, isCommand⟩

/-- An assembler takes exactly the sources of the grammar, and the program of a source is the one
that its clauses describe. -/
theorem parse_isOk_iff_grammatical [Evaluator] {assembler : Assembler} {source : Bytes}
    (closed : HasClosedTexts assembler.predefined)
    (short : ∀ line ∈ Source.rawLines source, line.length < Source.lineLimit) :
    ((∃ program, (assembler.parse source).2 = .ok program) ↔
        Grammatical assembler.predefined (Source.lines source)) ∧
      ∀ program, (assembler.parse source).2 = .ok program →
        ∃ transcript : Transcript, transcript.lines = Source.lines source ∧
          transcript.Reads Literal assembler.predefined ∧ transcript.Describes program := by
  refine ⟨⟨?_, ?_⟩, ?_⟩
  · rintro ⟨program, accepted⟩
    obtain ⟨_, transcript, lines, reads, nodup, linked, _⟩ := transcript_of_assemble accepted
    rw [Transcript.reads_iff_literal closed] at reads
    rw [← lines]
    exact grammatical_of_transcript closed reads nodup linked
  · intro grammatical
    obtain ⟨transcript, lines, reads⟩ := grammatical.exists_transcript
    rw [← lines] at grammatical
    have nodup : transcript.labels.Nodup := labelsOfAll_of_reads reads ▸ grammatical.distinct
    obtain ⟨program, accepted, _⟩ := assemble_of_transcript (Source.isReadable_iff.mpr short) lines
      ((Transcript.reads_iff_literal closed).mpr reads) nodup (grammatical.linked_transcript reads)
    exact ⟨program, accepted⟩
  · intro program accepted
    obtain ⟨_, transcript, lines, reads, _, _, describes⟩ := transcript_of_assemble accepted
    exact ⟨transcript, lines, (Transcript.reads_iff_literal closed).mp reads, describes⟩

/-- An assembler with the start of a countdown, which is an expression. -/
def counting : Assembler :=
  fresh.predefineAll [(utf8 "HALF", utf8 "3"), (utf8 "N", utf8 "$(2*HALF)")]

def countdown : Bytes :=
  utf8 ".equ step -1\nmov a, N\njmp test\nbody: add a, step\ntest: loop a, body"

/-- Equates stand for an expression and for its constant, and a label is declared behind its use. The
program has the texts of the equates in the places of their names. -/
theorem parse_isOk_countdown :
    Grammatical counting.predefined (Source.lines countdown) ∧
    ∃ program, (counting.parse countdown).2 = .ok program ∧
      program.opcodes.toList.map Opcode.instruction =
        [some (.registerNumber (.known .mov) 0 6), some (.label (.known .jmp) (utf8 "test")),
          some (.registerNumber (.known .add) 0 (-1)),
          some (.registerLabel (.known .loop) 0 (utf8 "body"))] ∧
      program.registers = [utf8 "a"] ∧ program.label? (utf8 "body") = some 2 ∧
      program.label? (utf8 "test") = some 3 := by
  have closed : HasClosedTexts counting.predefined := by
    intro name text found marked
    have texts : counting.predefined.entries.all fun entry =>
        !Source.startsExpression entry.2 || entry.2.getLast? == some (byte ')') := by decide
    have ends := List.all_eq_true.mp texts _ (Table.get?_eq_some_iff.mp found)
    simpa [marked] using ends
  obtain ⟨program, accepted, facts⟩ : ∃ program, (counting.parse countdown).2 = .ok program ∧
      (program.opcodes.toList.map Opcode.instruction, program.registers,
        program.label? (utf8 "body"), program.label? (utf8 "test")) =
      ([some (.registerNumber (.known .mov) 0 6), some (.label (.known .jmp) (utf8 "test")),
        some (.registerNumber (.known .add) 0 (-1)),
        some (.registerLabel (.known .loop) 0 (utf8 "body"))], [utf8 "a"], some 2, some 3) :=
    exists_of_toOption (by decide +kernel)
  simp only [Prod.mk.injEq] at facts
  have grammatical := (parse_isOk_iff_grammatical closed (by decide)).1.mp ⟨program, accepted⟩
  exact ⟨grammatical, program, accepted, facts⟩

end RegisterMachine.Assembler
