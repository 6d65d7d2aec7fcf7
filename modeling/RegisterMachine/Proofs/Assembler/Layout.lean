import RegisterMachine.Expression.Lookups
import RegisterMachine.Proofs.Assembler.Alike
import RegisterMachine.Proofs.Assembler.Breakdown
import RegisterMachine.Proofs.Source.Layout

/-! Assembly does not see the layout of a source. Sources with the same words, line for line and blank
lines apart, have the same program or fail for the same reason, and a label may stand on a line before
the rest of its own. The numbers and texts of lines are all that can differ. -/

namespace RegisterMachine

/-- A program without the lines that its places came from. -/
structure Code where
  instructions : List (Option Instruction)
  registers : List Bytes
  labels : Table Int

def Program.code (program : Program) : Code where
  instructions := program.opcodes.toList.map Opcode.instruction
  registers := program.registers
  labels := program.labels

namespace Assembler

/-- Why there is no program, without the line where this was found. -/
def Failure.stop : Failure → Stop
  | .rejected error => .because error.cause
  | .crashed breakdown => .crash breakdown

def withoutLines : Except Failure Program → Except Stop Code
  | .ok program => .ok program.code
  | .error failure => .error failure.stop

/-- Readings that come to an end for the same reason, or to drafts that are alike. -/
structure Reading.Alike (reading other : Reading) : Prop where
  texts : reading.draft.equates.get? = other.draft.equates.get?
  failure : reading.failure.map Failure.stop = other.failure.map Failure.stop
  draft : reading.failure = none → reading.draft.Alike Opcode.instruction other.draft

theorem line_unseen (number otherNumber : Int) (line otherLine : Bytes)
    (instruction : Option Instruction) :
    Opcode.instruction ⟨number, line, instruction⟩ =
      Opcode.instruction ⟨otherNumber, otherLine, instruction⟩ := rfl

namespace Draft

variable [Evaluator] {draft other : Draft}

/-- Lines without words are counted, and that is all. -/
theorem addLines_blank {blank : List Bytes}
    (areBlank : ∀ line ∈ blank, Source.words line = .ok [])
    (count : Nat) (rest : List Bytes) :
    draft.addLines count (blank ++ rest) = draft.addLines (count + blank.length) rest := by
  induction blank generalizing count with
  | nil => rfl
  | cons line others induction =>
      have taken : draft.addLine (count + 1) line = .ok draft := by
        simp only [addLine, areBlank line List.mem_cons_self]
      rw [List.cons_append, addLines, taken]
      simp only
      rw [induction (fun other member => areBlank other (List.mem_cons_of_mem line member)),
        List.length_cons, Nat.add_assoc, Nat.add_comm 1]

theorem addLines_cons_alike {line otherLine : Bytes} {rest otherRest : List Bytes}
    {count number : Nat} (texts : draft.equates.get? = other.equates.get?)
    (here : AlikeResults Opcode.instruction (draft.addLine (count + 1) line)
      (other.addLine (number + 1) otherLine))
    (later : ∀ next otherNext : Draft, next.Alike Opcode.instruction otherNext →
      (next.addLines (count + 1) rest).Alike (otherNext.addLines (number + 1) otherRest)) :
    (draft.addLines count (line :: rest)).Alike (other.addLines number (otherLine :: otherRest)) := by
  rw [addLines, addLines]
  generalize draft.addLine (count + 1) line = result at here
  generalize other.addLine (number + 1) otherLine = otherResult at here
  cases here with
  | taken alike => exact later _ _ alike
  | stopped stop =>
      cases stop with
      | because cause => exact ⟨texts, rfl, by simp⟩
      | crash breakdown => exact ⟨texts, rfl, by simp⟩

/-- Lines with the same words take drafts that are alike to drafts that are alike. -/
theorem Alike.addLines (alike : draft.Alike Opcode.instruction other) {lines otherLines : List Bytes}
    (same : Source.spoken lines = Source.spoken otherLines) (count number : Nat) :
    (draft.addLines count lines).Alike (other.addLines number otherLines) := by
  induction lines generalizing draft other otherLines count number with
  | nil =>
      have areBlank : ∀ line ∈ otherLines, Source.words line = .ok [] := by
        have none := List.filter_eq_nil_iff.mp (List.map_eq_nil_iff.mp same.symm)
        intro line member
        exact Source.isSpoken_eq_false_iff.mp (Bool.eq_false_iff.mpr (none line member))
      have skipped := @addLines_blank _ other otherLines areBlank number []
      rw [List.append_nil] at skipped
      rw [skipped]
      exact ⟨alike.texts, rfl, fun _ => alike⟩
  | cons line rest induction =>
      cases isSpoken : Source.isSpoken line with
      | false =>
          have blank := Source.isSpoken_eq_false_iff.mp isSpoken
          rw [Source.spoken_cons_blank blank] at same
          have skipped := @addLines_blank _ draft [line] (by simpa using blank) count rest
          rw [List.singleton_append] at skipped
          rw [skipped]
          exact induction alike same _ _
      | true =>
          -- The other lines start with blank ones, then there is one with the same words.
          rw [Source.spoken_cons, if_pos isSpoken] at same
          obtain ⟨otherLine, others, found, words, later⟩ := List.map_eq_cons_iff.mp same.symm
          obtain ⟨blank, otherRest, rfl, areBlank, _, rfl⟩ := List.filter_eq_cons_iff.mp found
          rw [addLines_blank fun line member => Source.isSpoken_eq_false_iff.mp
            (Bool.eq_false_iff.mpr (areBlank line member))]
          apply addLines_cons_alike alike.texts (alike.addLine (line_unseen _ _ _ _) words.symm)
          intro next otherNext alikeNext
          exact induction alikeNext later.symm _ _

end Draft

/-- What is wrong with an instruction that goes to a label which is not there. -/
def unlinkedCause? (labels : Table Int) (instruction : Option Instruction) : Option Cause :=
  (instruction.bind Instruction.target?).bind fun name =>
    if labels.contains name then none else some (.labelMissing name)

theorem cause_unlinked? (draft : Draft) :
    draft.unlinked?.map SyntaxError.cause =
      (draft.opcodes.toList.map Opcode.instruction).findSome? (unlinkedCause? draft.labels) := by
  rw [Draft.unlinked?, List.map_findSome?, List.findSome?_map]
  congr 1
  funext opcode
  simp only [Function.comp_apply, unlinkedCause?]
  cases opcode.instruction.bind Instruction.target? with
  | none => rfl
  | some name =>
      simp only [Option.bind_some]
      split
      · rfl
      · rfl

theorem withoutLines_link {reading other : Reading} (alike : reading.Alike other)
    {source otherSource : Bytes} (readable : Source.isReadable source = true)
    (otherReadable : Source.isReadable otherSource = true) :
    withoutLines (link source reading) = withoutLines (link otherSource other) := by
  have stops := alike.failure
  cases failed : reading.failure with
  | some failure =>
      rw [failed, Option.map_some] at stops
      obtain ⟨otherFailure, otherFailed, same⟩ := Option.map_eq_some_iff.mp stops.symm
      simp only [link, failed, otherFailed, withoutLines, same]
  | none =>
      rw [failed, Option.map_none] at stops
      have complete := Option.map_eq_none_iff.mp stops.symm
      have drafts := alike.draft failed
      have causes : reading.draft.unlinked?.map SyntaxError.cause =
          other.draft.unlinked?.map SyntaxError.cause := by
        rw [cause_unlinked?, cause_unlinked?, drafts.places, drafts.labels]
      simp only [link, failed, complete, readable, otherReadable, ↓reduceIte]
      cases unlinked : reading.draft.unlinked? with
      | some error =>
          rw [unlinked, Option.map_some] at causes
          obtain ⟨otherError, otherUnlinked, same⟩ := Option.map_eq_some_iff.mp causes.symm
          simp only [otherUnlinked, withoutLines, Failure.stop, same]
      | none =>
          rw [unlinked, Option.map_none] at causes
          simp only [Option.map_eq_none_iff.mp causes.symm, withoutLines, Program.code,
            Draft.program, drafts.places, drafts.registers, drafts.labels]

theorem parse_of_alike [Evaluator] {assembler : Assembler} {source other : Bytes}
    (alike : (reading assembler.predefined source).Alike (reading assembler.predefined other))
    (readable : Source.isReadable source = true) (otherReadable : Source.isReadable other = true) :
    (∀ name, (assembler.parse source).1.equates.get? name =
        (assembler.parse other).1.equates.get? name) ∧
      withoutLines (assembler.parse source).2 = withoutLines (assembler.parse other).2 := by
  exact ⟨congrFun alike.texts, withoutLines_link alike readable otherReadable⟩

theorem parse_of_tokens [Evaluator] (assembler : Assembler) {source other : Bytes}
    (readable : Source.isReadable source = true) (otherReadable : Source.isReadable other = true)
    (same : Source.tokens source = Source.tokens other) :
    (∀ name, (assembler.parse source).1.equates.get? name =
        (assembler.parse other).1.equates.get? name) ∧
      withoutLines (assembler.parse source).2 = withoutLines (assembler.parse other).2 := by
  rw [Source.tokens_of_isReadable readable, Source.tokens_of_isReadable otherReadable] at same
  apply parse_of_alike _ readable otherReadable
  exact (Draft.Alike.refl _).addLines same 0 0

section Cut

variable [Evaluator] {draft : Draft} {line gaps word back label : Bytes}

/-- Words behind a declaration are taken as they are without it, once the label is there. -/
theorem Draft.statement_declaration (identifier : Bytes.isIdentifier label = true)
    (fresh : draft.labels.get? label = none) (number : Int) (line : Bytes) (words : List Bytes) :
    draft.statement number line (declaration label :: words) =
      (draft.labelled [label]).statement number line words := by
  simp only [statement, declare, isDeclaration_declaration, ↓reduceIte, dropLast_declaration,
    identifier, Bool.not_true, Bool.false_eq_true, Table.contains_eq_false_iff.mpr fresh]
  rfl

theorem Draft.addLine_cut
    (whole : Source.words line = (Source.words back).map (word :: ·)) (ordinary : word ≠ equateWord)
    (behind : ∀ found, Source.words back = .ok found → found.head? ≠ some equateWord)
    (declares : draft.substitute word = declaration label)
    (identifier : Bytes.isIdentifier label = true) (fresh : draft.labels.get? label = none)
    (number otherNumber : Int) :
    AlikeResults Opcode.instruction (draft.addLine number line)
      ((draft.labelled [label]).addLine otherNumber back) := by
  cases split : Source.words back with
  | error unfinished =>
      rw [split] at whole
      cases unfinished with
      | string =>
          simp only [addLine, whole, split, Except.map]
          exact .stopped _
      | expression =>
          simp only [addLine, whole, split, Except.map]
          exact .stopped _
  | ok found =>
      rw [split] at whole
      have substitute : (draft.labelled [label]).substitute = draft.substitute :=
        substitute_of_texts rfl
      simp only [addLine, whole, split, Except.map, ordinary, ↓reduceIte, List.map_cons, declares,
        statement_declaration identifier fresh]
      cases found with
      | nil => exact .taken (.refl _)
      | cons next rest =>
          have ordinaryNext : next ≠ equateWord := by simpa using behind _ split
          simp only [ordinaryNext, ↓reduceIte, substitute]
          exact (Alike.refl _).statement (line_unseen _ _ _ _) _

/-- A line is cut behind the declaration that it starts with. -/
theorem Draft.addLines_cut (areGaps : ∀ b ∈ gaps, Source.isGap b = true) (started : word ≠ [])
    (length : Source.wordLength (word ++ back) = .ok word.length) (ordinary : word ≠ equateWord)
    (behind : ∀ found, Source.words back = .ok found → found.head? ≠ some equateWord)
    (declares : draft.substitute word = declaration label)
    (identifier : Bytes.isIdentifier label = true) (fresh : draft.labels.get? label = none)
    (count : Nat) (after : List Bytes) :
    (draft.addLines count ((gaps ++ (word ++ back)) :: after)).Alike
      (draft.addLines count ((gaps ++ word) :: back :: after)) := by
  have first : draft.addLine (count + 1) (gaps ++ word) = .ok (draft.labelled [label]) := by
    simp only [addLine, Source.words_first areGaps started length, ordinary, ↓reduceIte,
      List.map_cons, List.map_nil, declares, statement_declaration identifier fresh]
    rfl
  have labelled : draft.addLines count ((gaps ++ word) :: back :: after) =
      (draft.labelled [label]).addLines (count + 1) (back :: after) := by
    rw [addLines, first]
  have texts : draft.equates.get? = (draft.labelled [label]).equates.get? := rfl
  rw [labelled]
  apply addLines_cons_alike texts
  · exact addLine_cut (Source.words_cut areGaps started length) ordinary behind declares identifier
      fresh _ _
  · intro next otherNext alike
    exact alike.addLines rfl _ _

/-- The cut leaves alone what stands before the line, and does not matter if that fails already. -/
theorem Draft.addLines_append_alike {predefined : Table Bytes} {before left right : List Bytes}
    (later : ∀ transcript : Transcript, transcript.lines = before →
      transcript.Reads Denotes predefined → transcript.labels.Nodup →
      (((start predefined).grown 0 transcript).addLines transcript.length left).Alike
        (((start predefined).grown 0 transcript).addLines transcript.length right)) :
    ((start predefined).addLines 0 (before ++ left)).Alike
      ((start predefined).addLines 0 (before ++ right)) := by
  obtain ⟨transcript, rest, rfl, reads, room, rfl | ⟨line, others, stop, rfl, failed⟩⟩ :=
    (start predefined).exists_transcript 0 before
  · rw [List.append_nil, addLines_append reads room, addLines_append reads room, Nat.zero_add]
    exact later transcript (List.append_nil _).symm reads room.1
  · rw [List.append_assoc, List.append_assoc, addLines_append reads room, addLines_append reads room,
      List.cons_append, List.cons_append]
    rw [addLines, addLines, failed]
    cases stop with
    | because cause => exact ⟨rfl, rfl, by simp⟩
    | crash breakdown => exact ⟨rfl, rfl, by simp⟩

end Cut

open Grammar

/-- Lines of which one is cut in two, behind a first word that stands for the declaration of a label
which the lines before it do not declare. Neither part starts as an equate does. -/
inductive CutBehindLabel (predefined : Table Bytes) : List Bytes → List Bytes → Prop
  | cut {before after : List Bytes} {gaps word back label : Bytes}
      (areGaps : ∀ b ∈ gaps, Source.isGap b = true) (started : word ≠ [])
      (length : Source.wordLength (word ++ back) = .ok word.length)
      (ordinary : word ≠ Draft.equateWord)
      (behind : ∀ found, Source.words back = .ok found → found.head? ≠ some Draft.equateWord)
      (declares : replaced (equatesAt predefined before before.length) word =
        declaration label)
      (identifier : Bytes.isIdentifier label = true)
      (fresh : label ∉ labelsOfAll predefined before) :
      CutBehindLabel predefined (before ++ (gaps ++ (word ++ back)) :: after)
        (before ++ (gaps ++ word) :: back :: after)

theorem CutBehindLabel.alike [Evaluator] {predefined : Table Bytes} {lines others : List Bytes}
    (cut : CutBehindLabel predefined lines others) :
    ((Draft.start predefined).addLines 0 lines).Alike
      ((Draft.start predefined).addLines 0 others) := by
  cases cut with
  | cut areGaps started length ordinary behind declares identifier fresh =>
      rename_i before after gaps word back label
      apply Draft.addLines_append_alike
      rintro transcript rfl reads nodup
      have equates := equatesAt_length reads []
      have size : transcript.lines.length = transcript.length := List.length_map _
      rw [List.append_nil] at equates
      rw [size, equates] at declares
      have stands : ((Draft.start predefined).grown 0 transcript).substitute word =
          declaration label := by
        rw [Draft.substitute_eq_replaced]
        exact declares
      have room : ((Draft.start predefined).grown 0 transcript).HasRoom [label] := by
        apply (Draft.hasRoom_grown_iff (Draft.hasRoom_start predefined nodup) 0).mpr
        apply Draft.hasRoom_start
        rw [labelsOfAll_of_reads reads] at fresh
        refine List.nodup_append.mpr ⟨nodup, by simp, ?_⟩
        rintro name member _ isLabel rfl
        exact fresh (List.mem_singleton.mp isLabel ▸ member)
      exact Draft.addLines_cut areGaps started length ordinary behind stands identifier
        (room.2 label (List.mem_singleton.mpr rfl)) _ _

/-- Assembly does not see the layout of a source, nor whether a label stands on a line of its own:
the equates that are left and the program, without the lines of its places, are the same, or there is
none for the same reason. -/
theorem parse_layout [Evaluator] (assembler : Assembler) {source other : Bytes}
    (readable : ∀ line ∈ Source.rawLines source, line.length < 65536)
    (otherReadable : ∀ line ∈ Source.rawLines other, line.length < 65536)
    (layout : Source.tokens source = Source.tokens other ∨ Source.Relaid source other ∨
      CutBehindLabel assembler.predefined (Source.lines source) (Source.lines other)) :
    (∀ name, (assembler.parse source).1.equates.get? name =
        (assembler.parse other).1.equates.get? name) ∧
      withoutLines (assembler.parse source).2 = withoutLines (assembler.parse other).2 := by
  have isReadable := Source.isReadable_iff.mpr readable
  have otherIsReadable := Source.isReadable_iff.mpr otherReadable
  rcases layout with same | relaid | cut
  · exact parse_of_tokens assembler isReadable otherIsReadable same
  · exact parse_of_tokens assembler isReadable otherIsReadable relaid.tokens_eq
  · exact parse_of_alike cut.alike isReadable otherIsReadable

/-- A loop behind an equate that names its label: with comments and carriage returns, without them,
and with the label on a line of its own. -/
theorem parse_layout_loop :
    (fresh.parse (utf8 ".equ start go:\nstart, inc a\njmp go")).2.isOk = true ∧
    withoutLines
        (fresh.parse (utf8 "; go\r\n.equ start,go:\r\n\r\nstart inc\ta;on\r\njmp go\r\n")).2 =
      withoutLines (fresh.parse (utf8 ".equ start go:\nstart, inc a\njmp go")).2 ∧
    withoutLines (fresh.parse (utf8 ".equ start go:\nstart, inc a\njmp go")).2 =
      withoutLines (fresh.parse (utf8 ".equ start go:\nstart\n, inc a\njmp go")).2 := by
  have same : Source.tokens (utf8 "; go\r\n.equ start,go:\r\n\r\nstart inc\ta;on\r\njmp go\r\n") =
      Source.tokens (utf8 ".equ start go:\nstart, inc a\njmp go") := by
    decide +kernel
  have cut : CutBehindLabel fresh.predefined
      ([utf8 ".equ start go:"] ++ ([] ++ (utf8 "start" ++ utf8 ", inc a")) :: [utf8 "jmp go"])
      ([utf8 ".equ start go:"] ++ ([] ++ utf8 "start") :: utf8 ", inc a" :: [utf8 "jmp go"]) := by
    have declares : replaced (equatesAt fresh.predefined [utf8 ".equ start go:"] 1)
        (utf8 "start") = declaration (utf8 "go") := by
      decide +kernel
    have split : Source.words (utf8 ", inc a") = .ok [utf8 "inc", utf8 "a"] := by decide +kernel
    refine .cut (by simp) (by decide) (by decide +kernel) (by decide) ?_ declares (by decide)
      (by decide +kernel)
    intro found other
    obtain rfl := Except.ok.inj (split.symm.trans other)
    decide
  have lines : Source.lines (utf8 ".equ start go:\nstart, inc a\njmp go") =
      [utf8 ".equ start go:"] ++ ([] ++ (utf8 "start" ++ utf8 ", inc a")) :: [utf8 "jmp go"] := by
    decide +kernel
  have cutLines : Source.lines (utf8 ".equ start go:\nstart\n, inc a\njmp go") =
      [utf8 ".equ start go:"] ++ ([] ++ utf8 "start") :: utf8 ", inc a" :: [utf8 "jmp go"] := by
    decide +kernel
  rw [← lines, ← cutLines] at cut
  refine ⟨by decide +kernel, ?_, ?_⟩
  · exact (parse_layout fresh (by decide +kernel) (by decide +kernel) (.inl same)).2
  · exact (parse_layout fresh (by decide +kernel) (by decide +kernel) (.inr (.inr cut))).2

end Assembler

end RegisterMachine
