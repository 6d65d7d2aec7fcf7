import RegisterMachine.Expression.Lookups
import RegisterMachine.Proofs.Assembler.Breakdown
import RegisterMachine.Proofs.Assembler.Rejection
import RegisterMachine.Proofs.Assembler.Stops

/-! One source behind another. The second is read under the equates that the first has left, and its
program is moved behind the other one: its lines and addresses are counted on, and its registers get
the numbers of their names in the whole. -/

namespace RegisterMachine

/-- An instruction with other numbers for its registers. -/
def Instruction.renumber (rename : Int → Int) : Instruction → Instruction
  | bare verb => .bare verb
  | register verb r => .register verb (rename r)
  | number verb value => .number verb value
  | text verb content => .text verb content
  | label verb name => .label verb name
  | registers verb target source => .registers verb (rename target) (rename source)
  | registerNumber verb target value => .registerNumber verb (rename target) value
  | registerLabel verb counter name => .registerLabel verb (rename counter) name

/-- A place that comes behind `lines` other lines. -/
def Opcode.moved (lines : Nat) (rename : Int → Int) (opcode : Opcode) : Opcode where
  lineNumber := lines + opcode.lineNumber
  line := opcode.line
  instruction := opcode.instruction.map (Instruction.renumber rename)

namespace Program

/-- The number of the register that has the name of another program's register. -/
def numberFor (whole part : Program) (register : Int) : Int :=
  whole.registers.idxOf (part.registerName register)

/-- A program of two parts, the first of which comes from `lines` lines. -/
structure IsJoin (first second : Program) (lines : Nat) (whole : Program) : Prop where
  registers : whole.registers =
    first.registers ++ second.registers.filter fun name => !first.registers.contains name
  opcodes : whole.opcodes.toList =
    first.opcodes.toList ++ second.opcodes.toList.map (Opcode.moved lines (whole.numberFor second))
  label? : ∀ name, whole.label? name =
    (first.label? name).or ((second.label? name).map (· + (first.size : Int)))

end Program

namespace Assembler

open Grammar

theorem interned_eq_append (known names : List Bytes) :
    interned known names =
      known ++ (interned [] names).filter fun name => !known.contains name := by
  induction names using List.reverseRecOn with
  | nil => simp
  | append_singleton front name induction =>
      rw [interned_append, interned_append, interned_singleton, interned_singleton]
      by_cases before : name ∈ front
      · rw [if_pos (mem_interned.mpr (.inr before)), if_pos (mem_interned.mpr (.inr before)),
          induction]
      · have new : name ∉ interned [] front := by simpa [mem_interned] using before
        rw [if_neg new, List.filter_append, ← List.append_assoc, ← induction]
        by_cases inKnown : name ∈ known
        · rw [if_pos (mem_interned.mpr (.inl inKnown))]
          simp [inKnown]
        · rw [if_neg (by simp [mem_interned, inKnown, before])]
          simp [inKnown]

theorem Command.renumber_resolve {part : Program} {command : Command} (whole : Program)
    (member : ∀ name ∈ command.names, name ∈ part.registers) :
    (command.resolve part.registers).renumber (whole.numberFor part) =
      command.resolve whole.registers := by
  have numbered : ∀ name ∈ command.names,
      whole.numberFor part (part.registers.idxOf name) = whole.registers.idxOf name := by
    intro name named
    rw [Program.numberFor, part.registerName_idxOf (member name named)]
  cases command with
  | register keyword name =>
      simp only [resolve, Instruction.renumber, numbered name (by simp [names])]
  | registers keyword target source =>
      simp only [resolve, Instruction.renumber, numbered target (by simp [names]),
        numbered source (by simp [names])]
  | registerNumber keyword target value =>
      simp only [resolve, Instruction.renumber, numbered target (by simp [names])]
  | registerLabel keyword counter label =>
      simp only [resolve, Instruction.renumber, numbered counter (by simp [names])]
  | _ => rfl

namespace Transcript

variable {front back : Transcript} {literal : Table Bytes → Bytes → Int32 → Prop}

theorem declarations_append (address : Nat) (front back : Transcript) :
    declarations address (front ++ back) =
      declarations address front ++ declarations (address + front.commands.length) back := by
  induction front generalizing address with
  | nil => rfl
  | cons entry rest induction =>
      rw [List.cons_append, declarations, declarations, induction, commands_cons,
        List.length_append, List.append_assoc, Nat.add_assoc]

/-- Labels are moved with the address that a transcript starts at. -/
theorem mem_declarations_from {transcript : Transcript} {start address : Nat} {name : Bytes} :
    (name, address) ∈ transcript.declarations start ↔
      ∃ place, (name, place) ∈ transcript.declarations 0 ∧ address = start + place := by
  constructor
  · intro declared
    obtain ⟨count, line, clause, found, member, rfl⟩ := mem_declarations_iff.mp declared
    exact ⟨_, mem_declarations_iff.mpr ⟨count, line, clause, found, member, rfl⟩, by omega⟩
  · rintro ⟨place, declared, rfl⟩
    obtain ⟨count, line, clause, found, member, rfl⟩ := mem_declarations_iff.mp declared
    exact mem_declarations_iff.mpr ⟨count, line, clause, found, member, by omega⟩

theorem Reads.append {equates : Table Bytes} (reads : front.Reads literal equates)
    (later : back.Reads literal (front.lines.foldl definedBy equates)) :
    (front ++ back).Reads literal equates := by
  induction reads with
  | nil => exact later
  | cons reads fresh _ induction =>
      refine .cons reads fresh (induction ?_)
      rw [← definedBy_of_reads reads]
      exact later

theorem Linked.append (linked : front.Linked) (later : back.Linked) : (front ++ back).Linked := by
  intro command member name target
  rw [commands_append, List.mem_append] at member
  rw [labels_append, List.mem_append]
  rcases member with here | there
  · exact .inl (linked command here name target)
  · exact .inr (later command there name target)

theorem opcodes_of_prefix {known others : List Bytes} (longer : known <+: others) (count : Nat)
    {transcript : Transcript} (named : ∀ name ∈ transcript.names, name ∈ known) :
    transcript.opcodes others count = transcript.opcodes known count := by
  induction transcript generalizing count with
  | nil => rfl
  | cons entry rest induction =>
      rw [names_cons] at named
      rw [opcodes, opcodes, induction (count + 1) fun name member =>
        named name (List.mem_append_right _ member)]
      congr 1
      apply List.map_congr_left
      intro command here
      rw [Command.resolve_of_prefix longer fun name member =>
        named name (List.mem_append_left _ (List.mem_flatMap.mpr ⟨command, here, member⟩))]

theorem opcodes_moved {part : Program} (whole : Program) (lines count : Nat)
    {transcript : Transcript} (named : ∀ name ∈ transcript.names, name ∈ part.registers) :
    transcript.opcodes whole.registers (lines + count) =
      (transcript.opcodes part.registers count).map
        (Opcode.moved lines (whole.numberFor part)) := by
  induction transcript generalizing count with
  | nil => rfl
  | cons entry rest induction =>
      rw [names_cons] at named
      rw [opcodes, opcodes, List.map_append, Nat.add_assoc, induction (count + 1) fun name member =>
        named name (List.mem_append_right _ member), List.map_map]
      congr 1
      apply List.map_congr_left
      intro command here
      have known : ∀ name ∈ command.names, name ∈ part.registers := fun name member =>
        named name (List.mem_append_left _ (List.mem_flatMap.mpr ⟨command, here, member⟩))
      have numbered := Command.renumber_resolve whole known
      simp only [Function.comp_apply, Opcode.moved, Option.map_some, numbered, Int.natCast_add,
        Int.add_assoc]

namespace Describes

variable {first second whole : Program}

theorem size_eq {transcript : Transcript} (describes : transcript.Describes first) :
    first.size = transcript.commands.length := by
  rw [Program.size, ← Array.length_toList, describes.opcodes, length_opcodes]

/-- The program of two transcripts, one behind the other, is made of their programs. -/
theorem isJoin (describesFirst : front.Describes first) (describesSecond : back.Describes second)
    (describesWhole : Describes (front ++ back) whole)
    (apart : ∀ name, first.labels.contains name = true → second.labels.contains name = false) :
    first.IsJoin second front.length whole where
  registers := by
    rw [describesWhole.registers, describesFirst.registers, describesSecond.registers, names_append,
      ← interned_nil_eq_eraseDups, ← interned_nil_eq_eraseDups, ← interned_nil_eq_eraseDups,
      interned_append, ← interned_eq_append]
  opcodes := by
    have longer : first.registers <+: whole.registers := by
      rw [describesWhole.registers, describesFirst.registers, names_append,
        ← interned_nil_eq_eraseDups, ← interned_nil_eq_eraseDups, interned_append]
      exact prefix_interned _ _
    have known : ∀ name ∈ back.names, name ∈ second.registers := fun name =>
      describesSecond.mem_registers_iff.mpr
    have moved := opcodes_moved whole front.length 0 known
    rw [describesWhole.opcodes, opcodes_append,
      opcodes_of_prefix longer 0 fun name => describesFirst.mem_registers_iff.mpr,
      ← describesFirst.opcodes, Nat.zero_add, ← Nat.add_zero front.length, moved,
      ← describesSecond.opcodes, Nat.add_zero]
  label? name := by
    ext value
    rw [describesWhole.label?, declarations_append, Option.or_eq_some_iff,
      Option.map_eq_some_iff, describesFirst.label?]
    constructor
    · rintro ⟨address, rfl, declared⟩
      rcases List.mem_append.mp declared with here | there
      · exact .inl ⟨address, rfl, here⟩
      · obtain ⟨place, later, rfl⟩ := mem_declarations_from.mp there
        have found := (describesSecond.label? name place).mpr ⟨place, rfl, later⟩
        refine .inr ⟨?_, place, found, ?_⟩
        · -- A label of the second part is none of the first.
          have absent : first.labels.contains name = false := by
            rw [Bool.eq_false_iff]
            intro taken
            have free := apart name taken
            rw [Table.contains_eq_true_iff.mpr ⟨_, found⟩] at free
            cases free
          exact Table.contains_eq_false_iff.mp absent
        · rw [describesFirst.size_eq]
          push_cast
          omega
    · rintro (⟨address, rfl, here⟩ | ⟨_, place, found, rfl⟩)
      · exact ⟨address, rfl, List.mem_append_left _ here⟩
      · obtain ⟨address, rfl, later⟩ := (describesSecond.label? name place).mp found
        refine ⟨first.size + address, by push_cast; omega, List.mem_append_right _ ?_⟩
        rw [← describesFirst.size_eq, Nat.zero_add]
        exact mem_declarations_from.mpr ⟨address, later, rfl⟩

end Describes

end Transcript

theorem Draft.objection?_of_alike [Evaluator] {draft other : Draft} {number otherNumber : Int}
    {read : Option Bytes} {error : SyntaxError} (texts : draft.equates.get? = other.equates.get?)
    (agree : ∀ line words, read = some line → Source.words line = .ok words →
      Draft.AgreeOn draft other (words.map draft.substitute))
    (objects : draft.objection? number read = some (.rejected error)) :
    other.objection? otherNumber read =
      some (.rejected { error with lineNumber := otherNumber }) := by
  cases read with
  | none =>
      obtain rfl := Failure.rejected.inj (Option.some.inj objects)
      rfl
  | some line =>
      have same := Draft.stop?_addLine texts number otherNumber rfl fun words =>
        agree line words rfl
      unfold Draft.objection? at objects ⊢
      cases added : draft.addLine number line with
      | ok next => simp [added] at objects
      | error stop =>
          cases stop with
          | crash on => simp [added] at objects
          | because cause =>
              simp only [added] at objects
              obtain rfl := Failure.rejected.inj (Option.some.inj objects)
              rw [added, Draft.stop?_error] at same
              simp only [Draft.stop?_eq_some_iff.mp same.symm]

section Sources

variable {assembler next : Assembler} {front back : Bytes} {transcript : Transcript}

theorem equates_of_parse [Evaluator] (lines : transcript.lines = Source.lines front)
    (reads : transcript.Reads Denotes assembler.predefined) (nodup : transcript.labels.Nodup) :
    (assembler.parse front).1.equates = transcript.lines.foldl definedBy assembler.predefined := by
  have read : reading assembler.predefined front = _ := reading_of_reads lines reads nodup
  simp only [parse, read]
  exact @Draft.equates_grown Denotes (Draft.start assembler.predefined) transcript reads 0

/-- Every label that a transcript declares stands with its colon among the words of a line. -/
theorem Transcript.Reads.declaration_mem {literal : Table Bytes → Bytes → Int32 → Prop}
    {equates : Table Bytes} (reads : transcript.Reads literal equates) {label : Bytes}
    (member : label ∈ transcript.labels) :
    ∃ count line words, count < transcript.length ∧ transcript.lines[count]? = some line ∧
      Source.words line = .ok words ∧
      declaration label ∈
        words.map (replaced (equatesAt equates transcript.lines count)) := by
  obtain ⟨⟨line, clause⟩, here, declares⟩ := List.mem_flatMap.mp member
  obtain ⟨count, place⟩ := List.mem_iff_getElem?.mp here
  have inside := (List.getElem?_eq_some_iff.mp place).1
  cases (reads.clauseAt place).1 with
  | equate split identifier => cases declares
  | statement split ordinary leading identifiers phrase =>
      refine ⟨count, line, _, inside, lines_getElem? place, split, ?_⟩
      rw [leading]
      exact List.mem_append_left _ (List.mem_map_of_mem declares)

variable {predefined : Table Bytes} {begun later : Transcript}

theorem nodup_labels_append (nodup : begun.labels.Nodup) (nodupThen : later.labels.Nodup)
    (apart : ∀ label ∈ begun.labels, label ∉ later.labels) : (begun ++ later).labels.Nodup := by
  rw [Transcript.labels_append, List.nodup_append]
  refine ⟨nodup, nodupThen, ?_⟩
  rintro label here _ there rfl
  exact apart label here there

variable [Evaluator]

/-- Two sources that are taken one after the other are taken as one. -/
theorem assemble_append (ended : front = [] ∨ front.getLast? = some (byte '\n'))
    (readable : Source.isReadable front = true) (lines : begun.lines = Source.lines front)
    (reads : begun.Reads Denotes predefined) (linked : begun.Linked)
    (readableThen : Source.isReadable back = true) (linesThen : later.lines = Source.lines back)
    (readsThen : later.Reads Denotes (begun.lines.foldl definedBy predefined))
    (linkedThen : later.Linked) (nodup : (begun ++ later).labels.Nodup) :
    (begun ++ later).lines = Source.lines (front ++ back) ∧
      ∃ whole, assemble predefined (front ++ back) = .ok whole ∧
        Transcript.Describes (begun ++ later) whole := by
  have readableWhole : Source.isReadable (front ++ back) = true := by
    rw [Source.isReadable, Source.rawLines_append ended, List.all_append]
    exact Bool.and_eq_true_iff.mpr ⟨readable, readableThen⟩
  have linesWhole : (begun ++ later).lines = Source.lines (front ++ back) := by
    rw [Source.lines_eq_leading, Source.scanned_append ended, Source.scanned_of_isReadable readable,
      Source.leading_append, ← Source.lines_eq_leading, ← lines, ← linesThen,
      Transcript.lines_append]
  exact ⟨linesWhole, assemble_of_transcript readableWhole linesWhole (reads.append readsThen) nodup
    (linked.append linkedThen)⟩

/-- A line that is refused behind other lines is refused behind more of them for the same cause, if it
declares no label of these. -/
theorem assemble_append_of_objection {read : Option Bytes} {others : List (Option Bytes)}
    {error : SyntaxError} (ended : front = [] ∨ front.getLast? = some (byte '\n'))
    (scanned : Source.scanned front = begun.lines.map some)
    (scannedThen : Source.scanned back = later.lines.map some ++ read :: others)
    (reads : begun.Reads Denotes predefined)
    (readsThen : later.Reads Denotes (begun.lines.foldl definedBy predefined))
    (nodup : (begun ++ later).labels.Nodup)
    (objects : ((Draft.start (begun.lines.foldl definedBy predefined)).grown 0 later).objection?
      (later.length + 1) read = some (.rejected error))
    (apart : ∀ line words label, read = some line → Source.words line = .ok words →
      label ∈ begun.labels → declaration label ∉ words.map (replaced
        ((Draft.start (begun.lines.foldl definedBy predefined)).grown 0 later).equates)) :
    assemble predefined (front ++ back) =
      .error (.rejected { error with lineNumber := begun.length + error.lineNumber }) := by
  have readsWhole := reads.append readsThen
  have nodupThen : later.labels.Nodup := by
    rw [Transcript.labels_append] at nodup
    exact (List.nodup_append.mp nodup).2.1
  have scannedWhole : Source.scanned (front ++ back) =
      (begun ++ later).lines.map some ++ read :: others := by
    rw [Source.scanned_append ended, scanned, scannedThen, Transcript.lines_append, List.map_append,
      List.append_assoc]
  have equates : ((Draft.start (begun.lines.foldl definedBy predefined)).grown 0 later).equates =
      ((Draft.start predefined).grown 0 (begun ++ later)).equates := by
    rw [@Draft.equates_grown Denotes (Draft.start predefined) (begun ++ later) readsWhole 0,
      @Draft.equates_grown Denotes (Draft.start _) later readsThen 0, Transcript.lines_append,
      List.foldl_append]
    rfl
  have describes := describes_grown predefined nodup
  have describesThen := describes_grown (begun.lines.foldl definedBy predefined) nodupThen
  have objectsWhole : ((Draft.start predefined).grown 0 (begun ++ later)).objection?
      ((begun ++ later).length + 1) read =
        some (.rejected { error with lineNumber := begun.length + error.lineNumber }) := by
    have number : begun.length + error.lineNumber = ((begun ++ later).length : Int) + 1 := by
      rw [(Draft.objection?_eq_rejected objects).1, List.length_append]
      push_cast
      omega
    rw [number]
    refine Draft.objection?_of_alike (congrArg Table.get? equates) ?_ objects
    -- The drafts differ in the labels of the first lines, which this line does not declare.
    intro line words isLine split label member
    rw [Draft.substitute_eq_replaced] at member
    rw [Bool.eq_iff_iff]
    refine (describesThen.contains_iff.trans ?_).trans describes.contains_iff.symm
    rw [Transcript.labels_append, List.mem_append]
    have foreign : label ∉ begun.labels := fun here =>
      apart line words label isLine split here member
    exact ⟨.inr, fun either => either.resolve_left foreign⟩
  exact assemble_of_objection scannedWhole readsWhole nodup objectsWhole

end Sources

/-- A source that is taken, with another behind it. If the second is taken under the equates that the
first has left, and declares none of its labels, the whole is taken and its program is made of the two.
If the second is turned down at a line, and no word up to there declares a label of the first, the
whole is turned down at this line for the same cause. -/
theorem parse_append [Evaluator] {assembler next : Assembler} {front : Bytes} {first : Program}
    (ended : front = [] ∨ front.getLast? = some (byte '\n'))
    (accepted : (assembler.parse front).2 = .ok first)
    (left : next.predefined = (assembler.parse front).1.equates) (back : Bytes) :
    (∀ second, (next.parse back).2 = .ok second →
      (∀ name, first.labels.contains name = true → second.labels.contains name = false) →
        ∃ whole, (assembler.parse (front ++ back)).2 = .ok whole ∧
          first.IsJoin second (Source.lines front).length whole ∧
          (assembler.parse (front ++ back)).1.equates = (next.parse back).1.equates) ∧
    ∀ error, (next.parse back).2 = .error (.rejected error) →
      (∀ name, error.cause ≠ .labelMissing name) →
      (∀ (count : Nat) line words label, count < error.lineNumber →
        (Source.lines back)[count]? = some line → Source.words line = .ok words →
        first.labels.contains label = true →
          declaration label ∉ words.map
            (replaced (equatesAt next.predefined (Source.lines back) count))) →
        (assembler.parse (front ++ back)).2 = .error (.rejected
          { error with lineNumber := (Source.lines front).length + error.lineNumber }) := by
  obtain ⟨readable, begun, lines, reads, nodup, linked, describes⟩ :=
    transcript_of_assemble accepted
  have count : (Source.lines front).length = begun.length := by
    rw [← lines, Transcript.lines, List.length_map]
  rw [equates_of_parse lines reads nodup] at left
  rw [count]
  constructor
  · intro second acceptedThen apart
    obtain ⟨readableThen, later, linesThen, readsThen, nodupThen, linkedThen, describesThen⟩ :=
      transcript_of_assemble acceptedThen
    have nodupWhole : (begun ++ later).labels.Nodup := by
      apply nodup_labels_append nodup nodupThen
      intro label here there
      have free := apart label (describes.contains_iff.mpr here)
      rw [describesThen.contains_iff.mpr there] at free
      cases free
    obtain ⟨linesWhole, whole, acceptedWhole, describesWhole⟩ := assemble_append ended readable lines
      reads linked readableThen linesThen (left ▸ readsThen) linkedThen nodupWhole
    refine ⟨whole, acceptedWhole, describes.isJoin describesThen describesWhole apart, ?_⟩
    rw [equates_of_parse linesWhole (reads.append (left ▸ readsThen)) nodupWhole,
      equates_of_parse linesThen readsThen nodupThen, left, Transcript.lines_append,
      List.foldl_append]
  · intro error failed ofLine apart
    obtain ⟨later, rest, scannedThen, readsThen, nodupThen, ends⟩ :=
      exists_transcript_of_scanned next.predefined back
    rcases ends with rfl | ⟨read, others, failure, rfl, objects⟩
    · rw [List.append_nil] at scannedThen
      obtain ⟨_, _, name, _, told⟩ := unlinked_of_complete scannedThen readsThen nodupThen failed
      obtain rfl := Failure.rejected.inj told
      exact absurd rfl (ofLine name)
    have refused := assemble_of_objection scannedThen readsThen nodupThen objects
    obtain rfl := Except.error.inj (refused.symm.trans failed)
    have number := (Draft.objection?_eq_rejected objects).1
    have linesThen : Source.lines back = later.lines ++ Source.leading (read :: others) := by
      rw [Source.lines_eq_leading, scannedThen, Source.leading_append]
    have length : later.lines.length = later.length := List.length_map _
    have nodupWhole : (begun ++ later).labels.Nodup := by
      apply nodup_labels_append nodup nodupThen
      intro label here there
      obtain ⟨place, line, words, inside, found, split, member⟩ := readsThen.declaration_mem there
      refine apart place line words label (by omega) ?_ split (describes.contains_iff.mpr here) ?_
      · rw [linesThen, List.getElem?_append_left (by omega), found]
      · rw [linesThen, equatesAt_append (by omega)]
        exact member
    rw [left] at readsThen objects
    refine assemble_append_of_objection ended ?_ scannedThen reads readsThen nodupWhole objects ?_
    · rw [Source.scanned_of_isReadable readable, lines]
    · rintro line words label rfl split here member
      refine apart later.length line words label (by omega) ?_ split (describes.contains_iff.mpr here) ?_
      · rw [linesThen, ← length, List.getElem?_append_right (Nat.le_refl _), Nat.sub_self]
        rfl
      · rw [linesThen, left, equatesAt_length readsThen]
        exact member

/-- A register that both parts name, an equate of the first that the second uses, and a line of the
second that holds no keyword. -/
theorem parse_append_counter :
    (∃ whole, (fresh.parse (utf8 ".equ X a\ngo: mov X, b\n" ++ utf8 "inc c\nend: loop X, end")).2 =
        .ok whole ∧ whole.registers = [utf8 "a", utf8 "b", utf8 "c"] ∧
        whole.label? (utf8 "end") = some 2) ∧
      (fresh.parse (utf8 ".equ X a\ngo: mov X, b\n" ++ utf8 "inc c\nhalt X")).2 =
        .error (.rejected ⟨4, utf8 "halt X", .keywordUnknown (utf8 "halt")⟩) := by
  have begun : (fresh.parse (utf8 ".equ X a\ngo: mov X, b\n")).2.toOption.map
      (fun program => (program.registers, program.labels.entries, program.size)) =
        some ([utf8 "a", utf8 "b"], [(utf8 "go", 0)], 1) := by decide +kernel
  obtain ⟨first, accepted, facts⟩ := exists_of_toOption begun
  simp only [Prod.mk.injEq] at facts
  obtain ⟨registers, labels, size⟩ := facts
  have onlyGo : ∀ name, first.labels.contains name = true → name = utf8 "go" := by
    intro name contained
    obtain ⟨value, found⟩ := Table.contains_eq_true_iff.mp contained
    rw [Table.get?_eq_some_iff, labels] at found
    exact congrArg Prod.fst (List.mem_singleton.mp found)
  have joins := @parse_append _ fresh
    ⟨(reading fresh.predefined (utf8 ".equ X a\ngo: mov X, b\n")).draft.equates, Table.empty⟩ _ first
    (.inr (by decide)) accepted rfl
  constructor
  · have behind : (assemble (reading fresh.predefined (utf8 ".equ X a\ngo: mov X, b\n")).draft.equates
        (utf8 "inc c\nend: loop X, end")).toOption.map (fun program =>
          (program.registers, program.labels.contains (utf8 "go"), program.label? (utf8 "end"))) =
        some ([utf8 "c", utf8 "a"], false, some 1) := by decide +kernel
    obtain ⟨second, acceptedThen, factsThen⟩ := exists_of_toOption behind
    simp only [Prod.mk.injEq] at factsThen
    obtain ⟨registersThen, absent, found⟩ := factsThen
    obtain ⟨whole, acceptedWhole, isJoin, _⟩ := (joins _).1 second acceptedThen fun name contained =>
      onlyGo name contained ▸ absent
    refine ⟨whole, acceptedWhole, ?_, ?_⟩
    · rw [isJoin.registers, registers, registersThen]
      decide
    · have free : first.label? (utf8 "end") = none := by
        rw [Program.label?, Table.get?, labels]
        decide
      rw [isJoin.label?, free, found, size]
      rfl
  · have behind : (reading (reading fresh.predefined
        (utf8 ".equ X a\ngo: mov X, b\n")).draft.equates (utf8 "inc c\nhalt X")).failure =
          some (.rejected ⟨2, utf8 "halt X", .keywordUnknown (utf8 "halt")⟩) := by decide +kernel
    have clear : ∀ count < 2, ((Source.lines (utf8 "inc c\nhalt X"))[count]?.bind fun line =>
        (Source.words line).toOption).all (fun words => !(words.map (replaced (equatesAt
          (reading fresh.predefined (utf8 ".equ X a\ngo: mov X, b\n")).draft.equates
          (Source.lines (utf8 "inc c\nhalt X")) count))).contains
            (declaration (utf8 "go"))) = true := by decide +kernel
    refine (joins _).2 _ (assemble_of_failure behind) (by simp) ?_
    intro count line words label before found split contained member
    obtain rfl := onlyGo label contained
    have bound : count < 2 := by
      simp only at before
      omega
    have unequal := clear count bound
    rw [found, Option.bind_some, split, Except.toOption, Option.all_some,
      List.contains_iff_mem.mpr member] at unequal
    cases unequal

end Assembler

end RegisterMachine
