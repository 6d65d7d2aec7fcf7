import RegisterMachine.Expression.Lookups
import RegisterMachine.Proofs.Assembler.Acceptance

/-! Where a source is turned down. Lines are taken up to the first that is too long or that the draft
refuses, and this line alone is told, whatever comes behind it. A source whose lines were all taken is
told the first place that goes to a label which no line declares. -/

namespace RegisterMachine.Assembler

open Grammar

/-- Whether a cause lies in the words of one line and the draft before it. -/
def Cause.isOfLine : Cause → Bool
  | .labelMissing _ | .lineTooLong | .unreadable _ => false
  | _ => true

/-- Whether a cause lies in the labels or the command of a line. -/
def Cause.isOfStatement : Cause → Bool
  | .equateMalformed | .equateRepeated | .textUnfinished | .expressionUnfinished => false
  | cause => cause.isOfLine

theorem Cause.isOfLine_of_isOfStatement (cause : Cause) (ofStatement : cause.isOfStatement = true) :
    cause.isOfLine = true := by
  cases cause <;> first | rfl | exact ofStatement

namespace Draft

/-- A result is there, or breaks down, or is missing for a cause of some kind. -/
def Tells {α : Type} (kind : Cause → Bool) (result : Except Stop α) : Prop :=
  ∀ cause, result = .error (.because cause) → kind cause = true

section Causes

variable {α β : Type} {kind : Cause → Bool} {draft : Draft}

theorem tells_ok (value : α) : Tells kind (.ok value) := by
  intro cause failed
  cases failed

theorem tells_because {cause : Cause} (ofKind : kind cause = true) :
    Tells kind (.error (.because cause) : Except Stop α) := by
  rintro _ ⟨⟩
  exact ofKind

theorem tells_bind {first : Except Stop α} {next : α → Except Stop β} (here : Tells kind first)
    (behind : ∀ value, Tells kind (next value)) :
    Tells kind (first >>= next) := by
  intro cause failed
  cases first with
  | error stop =>
      obtain rfl := Except.error.inj failed
      exact here cause rfl
  | ok value => exact behind value cause failed

theorem tells_register (word : Bytes) : Tells Cause.isOfStatement (draft.register word) := by
  unfold register
  split
  · exact tells_ok _
  · exact tells_because rfl

theorem tells_target (word : Bytes) : Tells Cause.isOfStatement (target word) := by
  unfold target
  split
  · exact tells_ok _
  · exact tells_because rfl

theorem tells_expression [Evaluator] (text : Bytes) : Tells Cause.isOfStatement
    (draft.expression text) := by
  unfold expression
  split
  · exact tells_because rfl
  · split
    · exact tells_ok _
    · exact tells_because rfl
  · exact tells_because rfl
  · rintro cause ⟨⟩

theorem tells_value [Evaluator] (word : Bytes) : Tells Cause.isOfStatement (draft.value word) := by
  unfold value
  split
  · split
    · exact tells_expression _
    · rintro cause ⟨⟩
  · split
    · exact tells_ok _
    · exact tells_because rfl

theorem tells_registerThen (word : Bytes) (build : Int → Instruction) :
    Tells Cause.isOfStatement (do
      let (draft, register) ← draft.register word
      return (draft, build register)) :=
  tells_bind (tells_register word) fun _ => tells_ok _

theorem tells_instruction [Evaluator] (keyword : Keyword) (operands : List Bytes) :
    Tells Cause.isOfStatement (draft.instruction keyword operands) := by
  unfold Draft.instruction
  simp only
  split
  · exact tells_ok _
  · exact tells_registerThen _ _
  · split
    · exact tells_bind (tells_value _) fun _ => tells_ok _
    · exact tells_registerThen _ _
  · split
    · split
      · exact tells_ok _
      · exact tells_because rfl
    · exact tells_registerThen _ _
  · exact tells_bind (tells_target _) fun _ => tells_ok _
  · refine tells_bind (tells_register _) fun _ => ?_
    split
    · exact tells_bind (tells_value _) fun _ => tells_ok _
    · exact tells_registerThen _ _
  · refine tells_bind (tells_register _) fun _ => ?_
    exact tells_bind (tells_target _) fun _ => tells_ok _
  · split
    · exact tells_because rfl
    · exact tells_because rfl

theorem tells_command [Evaluator] (lineNumber : Int) (line word : Bytes) (operands : List Bytes) :
    Tells Cause.isOfStatement (draft.command lineNumber line word operands) := by
  unfold Draft.command
  split
  · exact tells_because rfl
  · exact tells_bind (tells_instruction _ _) fun _ => tells_ok _

theorem tells_declare (words : List Bytes) : Tells Cause.isOfStatement (draft.declare words) := by
  induction words generalizing draft with
  | nil => exact tells_ok _
  | cons word rest induction =>
      simp only [declare]
      split
      · split
        · exact tells_because rfl
        · split
          · exact tells_because rfl
          · exact induction
      · exact tells_ok _

theorem tells_statement [Evaluator] (lineNumber : Int) (line : Bytes) (words : List Bytes) :
    Tells Cause.isOfStatement (draft.statement lineNumber line words) := by
  unfold Draft.statement
  split
  · rename_i stop found
    rintro cause ⟨⟩
    exact tells_declare words cause found
  · exact tells_ok _
  · exact tells_command _ _ _ _

theorem tells_equate (words : List Bytes) : Tells Cause.isOfLine (draft.equate words) := by
  unfold equate
  split
  · split
    · exact tells_because rfl
    · split
      · exact tells_because rfl
      · exact tells_ok _
  · exact tells_because rfl

theorem tells_addLine [Evaluator] (lineNumber : Int) (line : Bytes) :
    Tells Cause.isOfLine (draft.addLine lineNumber line) := by
  unfold Draft.addLine
  split
  · exact tells_because rfl
  · exact tells_because rfl
  · exact tells_ok _
  · split
    · exact tells_equate _
    · exact fun cause failed => cause.isOfLine_of_isOfStatement (tells_statement _ _ _ cause failed)

end Causes

variable [Evaluator]

/-- What keeps a draft from taking a line, which is `none` if it is too long to be read. -/
def objection? (draft : Draft) (lineNumber : Int) : Option Bytes → Option Failure
  | none => some (.rejected { lineNumber, line := [], cause := .lineTooLong })
  | some line =>
      match draft.addLine lineNumber line with
      | .ok _ => none
      | .error (.because cause) => some (.rejected { lineNumber, line, cause })
      | .error (.crash on) => some (.crashed on)

/-- An error at a line tells its number and its text, and says that it is too long only if it is. -/
theorem objection?_eq_rejected {draft : Draft} {lineNumber : Int} {read : Option Bytes}
    {error : SyntaxError} (objects : draft.objection? lineNumber read = some (.rejected error)) :
    error.lineNumber = lineNumber ∧ error.line = read.getD [] ∧
      (error.cause = .lineTooLong ↔ read = none) ∧ ∀ name, error.cause ≠ .labelMissing name := by
  cases read with
  | none =>
      obtain rfl := Failure.rejected.inj (Option.some.inj objects)
      exact ⟨rfl, rfl, by simp, by simp⟩
  | some line =>
      unfold objection? at objects
      cases added : draft.addLine lineNumber line with
      | ok next => simp [added] at objects
      | error stop =>
          cases stop with
          | crash on => simp [added] at objects
          | because cause =>
              simp only [added] at objects
              obtain rfl := Failure.rejected.inj (Option.some.inj objects)
              have ofLine := tells_addLine lineNumber line cause added
              refine ⟨rfl, rfl, ?_, ?_⟩
              · simp only [reduceCtorEq, iff_false]
                rintro rfl
                cases ofLine
              · rintro name rfl
                cases ofLine

end Draft

section Sources

variable [Evaluator] {predefined : Table Bytes} {source : Bytes} {transcript : Transcript}

/-- A source is turned down for the line behind those it was read up to, and what comes later does not
matter. -/
theorem assemble_of_objection {read : Option Bytes} {rest : List (Option Bytes)}
    {failure : Failure}
    (scanned : Source.scanned source = transcript.lines.map some ++ read :: rest)
    (reads : transcript.Reads Denotes predefined) (nodup : transcript.labels.Nodup)
    (objects : ((Draft.start predefined).grown 0 transcript).objection? (transcript.length + 1)
      read = some failure) :
    assemble predefined source = .error failure := by
  have lines := Source.lines_eq_leading source
  rw [scanned, Source.leading_append] at lines
  cases read with
  | none =>
      have unreadable : Source.isReadable source = false := by
        rw [Source.isReadable_eq_all, scanned]
        simp
      obtain rfl := Option.some.inj objects
      apply assemble_of_too_long unreadable _ reads nodup
      rw [lines, Source.leading, List.append_nil]
  | some line =>
      have room := Draft.hasRoom_start predefined nodup
      simp only [assemble, link, reading, lines, Draft.addLines_append reads room, Nat.zero_add,
        Source.leading, Draft.addLines]
      simp only [Draft.objection?] at objects
      cases added : ((Draft.start predefined).grown 0 transcript).addLine
          (transcript.length + 1) line with
      | ok next => simp [added] at objects
      | error stop =>
          cases stop with
          | because cause =>
              simp only [added] at objects ⊢
              rw [Option.some.inj objects]
          | crash on =>
              simp only [added] at objects ⊢
              rw [Option.some.inj objects]

theorem assemble_of_complete
    (scanned : Source.scanned source = transcript.lines.map some)
    (reads : transcript.Reads Denotes predefined) (nodup : transcript.labels.Nodup) :
    assemble predefined source =
      ((Draft.start predefined).grown 0 transcript).unlinked?.elim
        (.ok ((Draft.start predefined).grown 0 transcript).program)
        fun error => .error (.rejected error) := by
  have lines : transcript.lines = Source.lines source := by
    rw [Source.lines_eq_leading, scanned, Source.leading_map]
  have readable : Source.isReadable source = true := by
    rw [Source.isReadable_eq_all, scanned]
    simp
  simp only [assemble, link, reading_of_reads lines reads nodup, readable, ↓reduceIte]
  cases ((Draft.start predefined).grown 0 transcript).unlinked? with
  | none => rfl
  | some error => rfl

/-- A source is read up to its end, or up to a line that the draft cannot take. -/
theorem exists_transcript_of_scanned (predefined : Table Bytes) (source : Bytes) :
    ∃ (transcript : Transcript) (rest : List (Option Bytes)),
      Source.scanned source = transcript.lines.map some ++ rest ∧
      transcript.Reads Denotes predefined ∧ transcript.labels.Nodup ∧
      (rest = [] ∨ ∃ read others failure, rest = read :: others ∧
        ((Draft.start predefined).grown 0 transcript).objection? (transcript.length + 1) read =
          some failure) := by
  obtain ⟨transcript, lines, split, reads, room, ends⟩ :=
    (Draft.start predefined).exists_transcript 0 (Source.leading (Source.scanned source))
  obtain ⟨unread, scanned, unreadable⟩ := Source.eq_leading_append (Source.scanned source)
  rw [split, List.map_append, List.append_assoc] at scanned
  refine ⟨transcript, lines.map some ++ unread, scanned, reads, room.1, ?_⟩
  rcases ends with rfl | ⟨line, others, stop, rfl, failed⟩
  · rcases unreadable with rfl | ⟨others, rfl⟩
    · exact .inl rfl
    · exact .inr ⟨none, others, _, rfl, rfl⟩
  · rw [Nat.zero_add] at failed
    refine .inr ⟨some line, others.map some ++ unread, ?_⟩
    simp only [Draft.objection?, failed]
    cases stop with
    | because cause => exact ⟨_, rfl, rfl⟩
    | crash on => exact ⟨_, rfl, rfl⟩

end Sources

/-- The first place of a program that goes to a label which is not among `labels`. -/
structure IsFirstUnlinked (labels : List Bytes) (program : Program) (address : Nat)
    (opcode : Opcode) (name : Bytes) : Prop where
  place : program.opcodes[address]? = some opcode
  target : opcode.instruction.bind Instruction.target? = some name
  missing : name ∉ labels
  earlier : ∀ before < address, ∀ other label, program.opcodes[before]? = some other →
    other.instruction.bind Instruction.target? = some label → label ∈ labels

theorem isFirstUnlinked_of_unlinked? {draft : Draft} {transcript : Transcript}
    {error : SyntaxError} (describes : transcript.Describes draft.program)
    (unlinked : draft.unlinked? = some error) :
    ∃ address opcode name, IsFirstUnlinked transcript.labels draft.program address opcode name ∧
      error = { lineNumber := opcode.lineNumber, line := opcode.line,
                cause := .labelMissing name } := by
  obtain ⟨before, opcode, behind, places, found, noneBefore⟩ :=
    List.findSome?_eq_some_iff.mp unlinked
  have place : ∀ address : Nat,
      draft.program.opcodes[address]? = (before ++ opcode :: behind)[address]? := by
    intro address
    rw [← places, Array.getElem?_toList]
    rfl
  cases target : opcode.instruction.bind Instruction.target? with
  | none => simp [target] at found
  | some name =>
      simp only [target, Option.ite_none_left_eq_some, Bool.not_eq_true] at found
      obtain ⟨absent, told⟩ := found
      obtain rfl := Option.some.inj told
      refine ⟨before.length, opcode, name, ⟨?_, target, ?_, ?_⟩, rfl⟩
      · rw [place, List.getElem?_append_right (Nat.le_refl _), Nat.sub_self]
        rfl
      · intro declared
        have contains : draft.labels.contains name = true := describes.contains_iff.mpr declared
        rw [absent] at contains
        cases contains
      · intro earlier lower other label there goes
        rw [place, List.getElem?_append_left lower] at there
        have linked := noneBefore other (List.mem_of_getElem? there)
        simp only [goes, ite_eq_left_iff, reduceCtorEq, imp_false, Bool.not_eq_true,
          Bool.not_eq_false] at linked
        exact describes.contains_iff.mp linked

/-- Lines that were all taken are turned down, if at all, for the first label that is missing. -/
theorem unlinked_of_complete [Evaluator] {predefined : Table Bytes} {source : Bytes}
    {transcript : Transcript}
    {failure : Failure} (scanned : Source.scanned source = transcript.lines.map some)
    (reads : transcript.Reads Denotes predefined) (nodup : transcript.labels.Nodup)
    (failed : assemble predefined source = .error failure) :
    ∃ address opcode name,
      IsFirstUnlinked transcript.labels ((Draft.start predefined).grown 0 transcript).program
        address opcode name ∧
      failure = .rejected
        { lineNumber := opcode.lineNumber, line := opcode.line, cause := .labelMissing name } := by
  rw [assemble_of_complete scanned reads nodup] at failed
  cases unlinked : ((Draft.start predefined).grown 0 transcript).unlinked? with
  | none =>
      rw [unlinked, Option.elim_none] at failed
      cases failed
  | some error =>
      rw [unlinked, Option.elim_some] at failed
      obtain rfl := Except.error.inj failed
      obtain ⟨address, opcode, name, isFirst, rfl⟩ :=
        isFirstUnlinked_of_unlinked? (describes_grown predefined nodup) unlinked
      exact ⟨address, opcode, name, isFirst, rfl⟩

/-- An error that is told of a source. If it is about a label, every line is of the grammar, and the
error stands at the first place that goes to a label no line declares. Otherwise it stands at the first
line that cannot be taken: every source that starts with the lines up to this one is turned down with
the same error, and the lines before it have no fault but perhaps a missing label. -/
theorem parse_first_error [Evaluator] {assembler : Assembler} {source : Bytes} {error : SyntaxError}
    (closed : HasClosedTexts assembler.predefined)
    (failed : (assembler.parse source).2 = .error (.rejected error)) :
    (∀ name, error.cause = .labelMissing name →
      Source.isReadable source = true ∧
      HasClauses assembler.predefined (Source.lines source) ∧
      (labelsOfAll assembler.predefined (Source.lines source)).Nodup ∧
      ∃ (transcript : Transcript) (address : Nat) (opcode : Opcode),
        transcript.lines = Source.lines source ∧
        transcript.Reads Literal assembler.predefined ∧
        transcript.Describes (reading assembler.predefined source).draft.program ∧
        IsFirstUnlinked (labelsOfAll assembler.predefined (Source.lines source))
          (reading assembler.predefined source).draft.program address opcode name ∧
        error.lineNumber = opcode.lineNumber ∧ error.line = opcode.line) ∧
    ((∀ name, error.cause ≠ .labelMissing name) →
      ∃ count : Nat, error.lineNumber = count + 1 ∧
        (∃ read, (Source.scanned source)[count]? = some read ∧ error.line = read.getD [] ∧
          (error.cause = .lineTooLong ↔ read = none)) ∧
        (∀ other, (Source.scanned other).take (count + 1) =
            (Source.scanned source).take (count + 1) →
          (assembler.parse other).2 = .error (.rejected error)) ∧
        ∀ other, Source.scanned other = (Source.scanned source).take count →
          ∀ failure, (assembler.parse other).2 = .error failure →
            ∃ told name, failure = .rejected told ∧ told.cause = .labelMissing name) := by
  obtain ⟨transcript, rest, scanned, reads, nodup, ends⟩ :=
    exists_transcript_of_scanned assembler.predefined source
  have length : (transcript.lines.map some).length = transcript.length := by
    rw [List.length_map, Transcript.lines, List.length_map]
  rcases ends with rfl | ⟨read, others, failure, rfl, objects⟩
  · rw [List.append_nil] at scanned
    have lines : Source.lines source = transcript.lines := by
      rw [Source.lines_eq_leading, scanned, Source.leading_map]
    have readsLiteral := (Transcript.reads_iff_literal closed).mp reads
    obtain ⟨address, opcode, missing, isFirst, told⟩ :=
      unlinked_of_complete scanned reads nodup failed
    obtain rfl := Failure.rejected.inj told
    rw [reading_of_reads lines.symm reads nodup, lines, labelsOfAll_of_reads readsLiteral]
    refine ⟨?_, fun other => absurd rfl (other missing)⟩
    rintro name ⟨⟩
    refine ⟨?_, hasClauses_of_reads readsLiteral, nodup, ?_⟩
    · rw [Source.isReadable_eq_all, scanned]
      simp
    · exact ⟨transcript, address, opcode, rfl, readsLiteral,
        describes_grown assembler.predefined nodup, isFirst, rfl, rfl⟩
  · have refused := assemble_of_objection scanned reads nodup objects
    obtain rfl := Except.error.inj (refused.symm.trans failed)
    obtain ⟨number, line, long, ofLine⟩ := Draft.objection?_eq_rejected objects
    refine ⟨fun name missing => absurd missing (ofLine name), fun _ => ?_⟩
    refine ⟨transcript.length, number, ⟨read, ?_, line, long⟩, ?_, ?_⟩
    · rw [scanned, ← length, List.getElem?_append_right (Nat.le_refl _), Nat.sub_self]
      rfl
    · intro other same
      rw [scanned, ← length, List.take_length_add_append] at same
      have split := List.take_append_drop (transcript.lines.map some ++ [read]).length
        (Source.scanned other)
      rw [List.length_append, List.length_singleton, same, List.append_assoc] at split
      exact assemble_of_objection split.symm reads nodup objects
    · intro other same failure failedThere
      rw [scanned, ← length, List.take_left] at same
      obtain ⟨_, opcode, name, _, rfl⟩ := unlinked_of_complete same reads nodup failedThere
      exact ⟨_, name, rfl, rfl⟩

/-- A word that is no keyword stands behind a jump to a label that is not declared there yet, and a
line that goes to a label declared nowhere stands between two that do not. -/
theorem parse_first_error_unknown_keyword :
    (∀ other, (Source.scanned other).take 2 = [some (utf8 "jmp end"), some (utf8 "halt ; now")] →
      (fresh.parse other).2 =
        .error (.rejected ⟨2, utf8 "halt ; now", .keywordUnknown (utf8 "halt")⟩)) ∧
    ∃ address opcode,
      IsFirstUnlinked [utf8 "end"]
        (reading fresh.predefined (utf8 "jmp end\nje far\nend: jne away")).draft.program
        address opcode (utf8 "far") ∧
      opcode.lineNumber = 2 ∧ opcode.line = utf8 "je far" := by
  have closed : HasClosedTexts fresh.predefined := by
    intro name text found
    cases found
  constructor
  · have told : (reading fresh.predefined (utf8 "jmp end\nhalt ; now\njmp end")).failure =
        some (.rejected ⟨2, utf8 "halt ; now", .keywordUnknown (utf8 "halt")⟩) := by decide +kernel
    have failed : (fresh.parse (utf8 "jmp end\nhalt ; now\njmp end")).2 =
        .error (.rejected ⟨2, utf8 "halt ; now", .keywordUnknown (utf8 "halt")⟩) := by
      simp only [parse, link, told]
    have texts : (Source.scanned (utf8 "jmp end\nhalt ; now\njmp end")).take 2 =
        [some (utf8 "jmp end"), some (utf8 "halt ; now")] := by decide +kernel
    obtain ⟨count, number, _, continues, _⟩ := (parse_first_error closed failed).2 (by simp)
    obtain rfl : count = 1 := by
      simp only at number
      omega
    rw [texts] at continues
    exact continues
  · have facts : (reading fresh.predefined (utf8 "jmp end\nje far\nend: jne away")).failure = none ∧
        Source.isReadable (utf8 "jmp end\nje far\nend: jne away") = true ∧
        (reading fresh.predefined (utf8 "jmp end\nje far\nend: jne away")).draft.unlinked? =
          some ⟨2, utf8 "je far", .labelMissing (utf8 "far")⟩ ∧
        labelsOfAll fresh.predefined (Source.lines (utf8 "jmp end\nje far\nend: jne away")) =
          [utf8 "end"] := by decide +kernel
    obtain ⟨complete, readable, unlinked, labels⟩ := facts
    have failed : (fresh.parse (utf8 "jmp end\nje far\nend: jne away")).2 =
        .error (.rejected ⟨2, utf8 "je far", .labelMissing (utf8 "far")⟩) := by
      simp only [parse, link, complete, readable, unlinked, ↓reduceIte]
    obtain ⟨_, _, _, _, address, opcode, _, _, _, isFirst, number, line⟩ :=
      (parse_first_error closed failed).1 (utf8 "far") rfl
    rw [labels] at isFirst
    exact ⟨address, opcode, isFirst, number.symm, line.symm⟩

end RegisterMachine.Assembler
