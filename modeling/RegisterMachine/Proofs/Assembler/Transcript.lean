import RegisterMachine.Assembler
import RegisterMachine.Proofs.Assembler.Clause
import RegisterMachine.Proofs.Source.Lines

/-! Whole sources. A transcript holds the lines of a source with the clauses they are read as, and the
program of a source can be told from its transcript: registers in the order of their first use,
instructions in the order of their lines, labels with the number of instructions before them. -/

namespace RegisterMachine.Assembler

/-- Lines, each with the clause it is read as. -/
abbrev Transcript := List (Bytes × Clause)

namespace Transcript

def lines (transcript : Transcript) : List Bytes :=
  transcript.map Prod.fst

def labels (transcript : Transcript) : List Bytes :=
  transcript.flatMap fun entry => entry.2.labels

def commands (transcript : Transcript) : List Command :=
  transcript.filterMap fun entry => entry.2.command?

def names (transcript : Transcript) : List Bytes :=
  transcript.commands.flatMap Command.names

/-- The labels of a source with their addresses, where `address` instructions lie before it. -/
def declarations : Nat → Transcript → List (Bytes × Nat)
  | _, [] => []
  | address, (_, clause) :: rest =>
      clause.labels.map (fun label => (label, address)) ++
        declarations (address + clause.command?.toList.length) rest

/-- The places of the commands of a source, where `count` lines lie before it. -/
def opcodes (known : List Bytes) : Nat → Transcript → List Opcode
  | _, [] => []
  | count, (line, clause) :: rest =>
      clause.command?.toList.map (fun command =>
          { lineNumber := count + 1, line, instruction := some (command.resolve known) }) ++
        opcodes known (count + 1) rest

/-- Lines that are read one after the other, each under the equates of those before it. -/
inductive Reads (literal : Table Bytes → Bytes → Int32 → Prop) : Table Bytes → Transcript → Prop
  | nil {equates : Table Bytes} : Reads literal equates []
  | cons {equates : Table Bytes} {line : Bytes} {clause : Clause} {rest : Transcript}
      (reads : clause.Reads (literal equates) equates line)
      (fresh : ∀ name text, clause = .equate name text → equates.get? name = none)
      (later : Reads literal (clause.define equates) rest) :
      Reads literal equates ((line, clause) :: rest)

/-- Whether every label that a command goes to is declared. -/
def Linked (transcript : Transcript) : Prop :=
  ∀ command ∈ transcript.commands, ∀ name, command.target? = some name → name ∈ transcript.labels

@[simp] theorem labels_cons (entry : Bytes × Clause) (rest : Transcript) :
    labels (entry :: rest) = entry.2.labels ++ labels rest := rfl

theorem commands_cons (entry : Bytes × Clause) (rest : Transcript) :
    commands (entry :: rest) = entry.2.command?.toList ++ commands rest := by
  cases found : entry.2.command? <;> simp [commands, found]

theorem names_cons (entry : Bytes × Clause) (rest : Transcript) :
    names (entry :: rest) = entry.2.command?.toList.flatMap Command.names ++ names rest := by
  rw [names, commands_cons, List.flatMap_append]
  rfl

theorem lines_append (first second : Transcript) :
    lines (first ++ second) = lines first ++ lines second :=
  List.map_append

theorem labels_append (first second : Transcript) :
    labels (first ++ second) = labels first ++ labels second :=
  List.flatMap_append

theorem commands_append (first second : Transcript) :
    commands (first ++ second) = commands first ++ commands second :=
  List.filterMap_append

theorem names_append (first second : Transcript) :
    names (first ++ second) = names first ++ names second := by
  rw [names, commands_append, List.flatMap_append]
  rfl

theorem getElem?_of_lines {transcript : Transcript} {count : Nat} {line : Bytes}
    (found : transcript.lines[count]? = some line) :
    ∃ clause, transcript[count]? = some (line, clause) := by
  rw [lines, List.getElem?_map] at found
  obtain ⟨⟨_, clause⟩, place, rfl⟩ := Option.map_eq_some_iff.mp found
  exact ⟨clause, place⟩

theorem lines_getElem? {transcript : Transcript} {count : Nat} {line : Bytes} {clause : Clause}
    (found : transcript[count]? = some (line, clause)) :
    transcript.lines[count]? = some line := by
  rw [lines, List.getElem?_map, found]
  rfl

theorem map_fst_declarations (address : Nat) (transcript : Transcript) :
    (declarations address transcript).map Prod.fst = transcript.labels := by
  induction transcript generalizing address with
  | nil => rfl
  | cons entry rest induction =>
      rw [declarations, List.map_append, induction, labels_cons, List.map_map]
      congr 1
      exact List.map_id' entry.2.labels

end Transcript

namespace Draft

/-- A draft with a transcript behind it, after `count` lines. -/
def grown (draft : Draft) (count : Nat) : Transcript → Draft
  | [] => draft
  | (line, clause) :: rest => (draft.after (count + 1) line clause).grown (count + 1) rest

@[simp] theorem opcodes_after (draft : Draft) (lineNumber : Int) (line : Bytes)
    (clause : Clause) :
    (draft.after lineNumber line clause).opcodes.toList =
      draft.opcodes.toList ++ clause.command?.toList.map fun command =>
        { lineNumber, line,
          instruction := some (command.resolve (interned draft.registers command.names)) } := by
  match clause with
  | .equate name text => simp [after, Clause.command?]
  | .statement labels none => simp [after, labelled, Clause.command?]
  | .statement labels (some command) => simp [after, labelled, extended, Clause.command?]

@[simp] theorem registers_after (draft : Draft) (lineNumber : Int) (line : Bytes)
    (clause : Clause) :
    (draft.after lineNumber line clause).registers =
      interned draft.registers (clause.command?.toList.flatMap Command.names) := by
  match clause with
  | .equate name text => rfl
  | .statement labels none => rfl
  | .statement labels (some command) =>
      simp [after, labelled, extended, Clause.command?]

@[simp] theorem labels_after (draft : Draft) (lineNumber : Int) (line : Bytes)
    (clause : Clause) :
    (draft.after lineNumber line clause).labels =
      declared draft.labels draft.opcodes.size clause.labels := by
  match clause with
  | .equate name text => rfl
  | .statement labels none => rfl
  | .statement labels (some command) => rfl

theorem hasRoom_append_iff {draft : Draft} {clause : Clause} {labels : List Bytes}
    (lineNumber : Int) (line : Bytes) :
    draft.HasRoom (clause.labels ++ labels) ↔
      draft.HasRoom clause.labels ∧ (draft.after lineNumber line clause).HasRoom labels := by
  simp only [HasRoom, labels_after, get?_declared, List.nodup_append, List.mem_append]
  constructor
  · rintro ⟨⟨nodup, others, apart⟩, fresh⟩
    refine ⟨⟨nodup, fun label member => fresh label (.inl member)⟩, others, ?_⟩
    intro label member
    rw [if_neg (fun again => apart label again label member rfl)]
    exact fresh label (.inr member)
  · rintro ⟨⟨nodup, fresh⟩, others, later⟩
    refine ⟨⟨nodup, others, ?_⟩, ?_⟩
    · rintro label member other again rfl
      have taken := later label again
      rw [if_pos member] at taken
      contradiction
    · rintro label (member | again)
      · exact fresh label member
      · have free := later label again
        split at free
        · contradiction
        · exact free

theorem hasRoom_start (predefined : Table Bytes) {labels : List Bytes} (nodup : labels.Nodup) :
    (start predefined).HasRoom labels :=
  ⟨nodup, fun _ _ => rfl⟩

/-- Lines that are read and repeat no name are all added to a draft, before any lines behind them. -/
theorem addLines_append [Evaluator] {draft : Draft} {transcript : Transcript}
    (reads : transcript.Reads Denotes draft.equates) (room : draft.HasRoom transcript.labels)
    (count : Nat) (rest : List Bytes) :
    draft.addLines count (transcript.lines ++ rest) =
      (draft.grown count transcript).addLines (count + transcript.length) rest := by
  -- Each line is added to what the lines before it have left, so the draft is any.
  induction transcript generalizing draft count with
  | nil => rfl
  | cons entry others induction =>
      obtain ⟨line, clause⟩ := entry
      cases reads with
      | cons reads fresh later =>
          obtain ⟨here, laterRoom⟩ := (hasRoom_append_iff (count + 1) line).mp room
          have added : draft.addLine (count + 1) line = .ok (draft.after (count + 1) line clause) :=
            addLine_eq_ok_iff.mpr ⟨clause, reads, admits_iff.mpr ⟨fresh, here⟩, rfl⟩
          have behind := induction (by rwa [equates_after]) laterRoom (count + 1)
          simp only [Transcript.lines, List.map_cons, List.cons_append, addLines, added] at behind ⊢
          rw [behind, List.length_cons, grown, Nat.add_right_comm, Nat.add_assoc]

theorem addLines_of_reads [Evaluator] {draft : Draft} {transcript : Transcript}
    (reads : transcript.Reads Denotes draft.equates) (room : draft.HasRoom transcript.labels)
    (count : Nat) :
    draft.addLines count transcript.lines =
      { draft := draft.grown count transcript, count := count + transcript.length,
        failure := none } := by
  have added := addLines_append reads room count []
  rwa [List.append_nil] at added

/-- Lines are read up to the end, or up to one that cannot be added. -/
theorem exists_transcript [Evaluator] (draft : Draft) (count : Nat) (lines : List Bytes) :
    ∃ (transcript : Transcript) (rest : List Bytes), lines = transcript.lines ++ rest ∧
      transcript.Reads Denotes draft.equates ∧ draft.HasRoom transcript.labels ∧
      (rest = [] ∨ ∃ line others stop, rest = line :: others ∧
        (draft.grown count transcript).addLine ((count + transcript.length : Nat) + 1) line =
          .error stop) := by
  induction lines generalizing draft count with
  | nil => exact ⟨[], [], rfl, .nil, by simp [HasRoom, Transcript.labels], .inl rfl⟩
  | cons line lines induction =>
      cases added : draft.addLine (count + 1) line with
      | error stop =>
          refine ⟨[], line :: lines, rfl, .nil, by simp [HasRoom, Transcript.labels], .inr ?_⟩
          exact ⟨line, lines, stop, rfl, added⟩
      | ok next =>
          obtain ⟨clause, reads, admitted, rfl⟩ := addLine_eq_ok_iff.mp added
          obtain ⟨fresh, here⟩ := admits_iff.mp admitted
          obtain ⟨transcript, rest, rfl, later, room, ends⟩ :=
            induction (draft.after (count + 1) line clause) (count + 1)
          rw [equates_after] at later
          rw [Nat.add_assoc, Nat.add_comm 1] at ends
          exact ⟨(line, clause) :: transcript, rest, rfl, .cons reads fresh later,
            (hasRoom_append_iff _ line).mpr ⟨here, room⟩, ends⟩

theorem reads_of_addLines [Evaluator] {draft : Draft} {lines : List Bytes} {count : Nat}
    (complete : (draft.addLines count lines).failure = none) :
    ∃ transcript : Transcript, transcript.lines = lines ∧
      transcript.Reads Denotes draft.equates ∧ draft.HasRoom transcript.labels := by
  obtain ⟨transcript, rest, rfl, reads, room, rfl | ⟨line, others, stop, rfl, failed⟩⟩ :=
    draft.exists_transcript count lines
  · exact ⟨transcript, (List.append_nil _).symm, reads, room⟩
  · rw [addLines_append reads room, addLines, failed] at complete
    cases stop <;> cases complete

theorem registers_grown (draft : Draft) (count : Nat) (transcript : Transcript) :
    (draft.grown count transcript).registers = interned draft.registers transcript.names := by
  induction transcript generalizing draft count with
  | nil => rfl
  | cons entry rest induction =>
      rw [grown, induction, registers_after, Transcript.names_cons, interned_append]

/-- The instructions of a grown draft can be numbered by its last registers: a name that is new
later does not move those before it. -/
theorem opcodes_grown (draft : Draft) (count : Nat) (transcript : Transcript) :
    (draft.grown count transcript).opcodes.toList =
      draft.opcodes.toList ++
        transcript.opcodes (draft.grown count transcript).registers count := by
  induction transcript generalizing draft count with
  | nil => simp [grown, Transcript.opcodes]
  | cons entry rest induction =>
      obtain ⟨line, clause⟩ := entry
      rw [grown, induction, opcodes_after, Transcript.opcodes, List.append_assoc]
      congr 2
      -- This line's command is numbered by the registers so far, which the last ones start with.
      apply List.map_congr_left
      intro command member
      have longer : interned draft.registers command.names <+:
          ((draft.after (count + 1) line clause).grown (count + 1) rest).registers := by
        rw [registers_grown, registers_after, Option.mem_toList.mp member]
        simpa using prefix_interned (interned draft.registers command.names)
          (Transcript.names rest)
      rw [Command.resolve_of_prefix longer fun name named => mem_interned.mpr (.inr named)]

theorem size_after (draft : Draft) (lineNumber : Int) (line : Bytes) (clause : Clause) :
    (draft.after lineNumber line clause).opcodes.size =
      draft.opcodes.size + clause.command?.toList.length := by
  rw [← Array.length_toList, opcodes_after, List.length_append, List.length_map,
    Array.length_toList]

theorem labels_grown {draft : Draft} {transcript : Transcript}
    (room : draft.HasRoom transcript.labels) (count : Nat) {name : Bytes} {value : Int} :
    (draft.grown count transcript).labels.get? name = some value ↔
      draft.labels.get? name = some value ∨
        ∃ address : Nat, value = address ∧
          (name, address) ∈ transcript.declarations draft.opcodes.size := by
  induction transcript generalizing draft count with
  | nil => simp [grown, Transcript.declarations]
  | cons entry rest induction =>
      obtain ⟨line, clause⟩ := entry
      obtain ⟨⟨_, fresh⟩, later⟩ := (hasRoom_append_iff (count + 1) line).mp room
      rw [grown, induction later, labels_after, get?_declared, size_after]
      simp only [Transcript.declarations, List.mem_append, List.mem_map, Prod.mk.injEq]
      -- With room for its labels, a line declares only names that the draft does not have.
      by_cases here : name ∈ clause.labels
      · rw [if_pos here, fresh name here]
        constructor
        · rintro (same | ⟨address, rfl, member⟩)
          · exact .inr ⟨_, (Option.some.inj same).symm, .inl ⟨name, here, rfl, rfl⟩⟩
          · exact .inr ⟨address, rfl, .inr member⟩
        · rintro (absent | ⟨address, rfl, ⟨_, _, rfl, rfl⟩ | member⟩)
          · cases absent
          · exact .inl rfl
          · exact .inr ⟨address, rfl, member⟩
      · rw [if_neg here]
        constructor
        · rintro (before | ⟨address, rfl, member⟩)
          · exact .inl before
          · exact .inr ⟨address, rfl, .inr member⟩
        · rintro (before | ⟨address, rfl, ⟨_, declared, rfl, rfl⟩ | member⟩)
          · exact .inl before
          · exact absurd declared here
          · exact .inr ⟨address, rfl, member⟩

end Draft

/-- How a program comes from the transcript of its source. -/
structure Transcript.Describes (transcript : Transcript) (program : Program) : Prop where
  registers : program.registers = transcript.names.eraseDups
  opcodes : program.opcodes.toList = transcript.opcodes program.registers 0
  label? : ∀ name value, program.label? name = some value ↔
    ∃ address : Nat, value = address ∧ (name, address) ∈ transcript.declarations 0

theorem describes_grown (predefined : Table Bytes) {transcript : Transcript}
    (nodup : transcript.labels.Nodup) :
    transcript.Describes ((Draft.start predefined).grown 0 transcript).program where
  registers := by
    rw [← interned_nil_eq_eraseDups]
    exact Draft.registers_grown (Draft.start predefined) 0 transcript
  opcodes := Draft.opcodes_grown (Draft.start predefined) 0 transcript
  label? name value := by
    refine (Draft.labels_grown (Draft.hasRoom_start predefined nodup) 0).trans ⟨?_, .inr⟩
    rintro (before | later)
    · cases before
    · exact later

namespace Transcript

theorem map_instruction_opcodes (known : List Bytes) (count : Nat) (transcript : Transcript) :
    (transcript.opcodes known count).map Opcode.instruction =
      transcript.commands.map fun command => some (command.resolve known) := by
  induction transcript generalizing count with
  | nil => rfl
  | cons entry rest induction =>
      rw [opcodes, List.map_append, induction, commands_cons, List.map_append, List.map_map]
      rfl

theorem mem_labels_iff {transcript : Transcript} {name : Bytes} :
    name ∈ transcript.labels ↔ ∃ address, (name, address) ∈ transcript.declarations 0 := by
  rw [← map_fst_declarations 0, List.mem_map]
  constructor
  · rintro ⟨⟨_, address⟩, member, rfl⟩
    exact ⟨address, member⟩
  · rintro ⟨address, member⟩
    exact ⟨(name, address), member, rfl⟩

theorem Describes.contains_iff {transcript : Transcript} {program : Program}
    (describes : transcript.Describes program) {name : Bytes} :
    program.labels.contains name = true ↔ name ∈ transcript.labels := by
  rw [Table.contains_eq_true_iff, mem_labels_iff]
  constructor
  · rintro ⟨value, found⟩
    obtain ⟨address, _, member⟩ := (describes.label? name value).mp found
    exact ⟨address, member⟩
  · rintro ⟨address, member⟩
    exact ⟨address, (describes.label? name address).mpr ⟨address, rfl, member⟩⟩

theorem Describes.map_instruction {transcript : Transcript} {program : Program}
    (describes : transcript.Describes program) :
    program.opcodes.toList.map Opcode.instruction =
      transcript.commands.map fun command => some (command.resolve program.registers) := by
  rw [describes.opcodes, map_instruction_opcodes]

end Transcript

theorem Draft.unlinked?_eq_none_iff {draft : Draft} :
    draft.unlinked? = none ↔
      ∀ instruction ∈ draft.opcodes.toList.map Opcode.instruction,
        ∀ name, instruction.bind Instruction.target? = some name →
          draft.labels.contains name = true := by
  simp only [Draft.unlinked?, List.findSome?_eq_none_iff, List.forall_mem_map]
  apply forall₂_congr
  intro opcode member
  cases opcode.instruction.bind Instruction.target? with
  | none => simp
  | some name => simp

/-- A draft has all its labels exactly when its transcript declares those it goes to. -/
theorem unlinked?_eq_none_iff_linked {draft : Draft} {transcript : Transcript}
    (describes : transcript.Describes draft.program) :
    draft.unlinked? = none ↔ transcript.Linked := by
  have instructions : draft.opcodes.toList.map Opcode.instruction =
      transcript.commands.map fun command => some (command.resolve draft.registers) :=
    describes.map_instruction
  rw [Draft.unlinked?_eq_none_iff, instructions, List.forall_mem_map]
  apply forall₂_congr
  intro command member
  rw [Option.bind_some, Command.resolve_target?]
  exact forall₂_congr fun name _ => describes.contains_iff

variable [Evaluator]

theorem reading_of_reads {predefined : Table Bytes} {source : Bytes} {transcript : Transcript}
    (lines : transcript.lines = Source.lines source) (reads : transcript.Reads Denotes predefined)
    (nodup : transcript.labels.Nodup) :
    reading predefined source =
      { draft := (Draft.start predefined).grown 0 transcript, count := transcript.length,
        failure := none } := by
  have added := Draft.addLines_of_reads reads (Draft.hasRoom_start predefined nodup) 0
  rwa [lines, Nat.zero_add] at added

theorem assemble_of_failure {predefined : Table Bytes} {source : Bytes} {failure : Failure}
    (failed : (reading predefined source).failure = some failure) :
    assemble predefined source = .error failure := by
  simp only [assemble, link, failed]

/-- Every program that is assembled is described by a transcript of its source. -/
theorem transcript_of_assemble {predefined : Table Bytes} {source : Bytes} {program : Program}
    (accepted : assemble predefined source = .ok program) :
    Source.isReadable source = true ∧
      ∃ transcript : Transcript, transcript.lines = Source.lines source ∧
        transcript.Reads Denotes predefined ∧ transcript.labels.Nodup ∧ transcript.Linked ∧
        transcript.Describes program := by
  unfold assemble link at accepted
  split at accepted
  · cases accepted
  rename_i complete
  obtain ⟨transcript, lines, reads, room⟩ := Draft.reads_of_addLines complete
  have read : reading predefined source = _ := reading_of_reads lines reads room.1
  rw [read] at accepted
  have describes := describes_grown predefined room.1
  split at accepted
  · rename_i readable
    split at accepted
    · cases accepted
    · rename_i linked
      obtain rfl := Except.ok.inj accepted
      exact ⟨readable, transcript, lines, reads, room.1,
        (unlinked?_eq_none_iff_linked describes).mp linked, describes⟩
  · cases accepted

theorem assemble_of_transcript {predefined : Table Bytes} {source : Bytes}
    {transcript : Transcript} (readable : Source.isReadable source = true)
    (lines : transcript.lines = Source.lines source) (reads : transcript.Reads Denotes predefined)
    (nodup : transcript.labels.Nodup) (linked : transcript.Linked) :
    ∃ program, assemble predefined source = .ok program ∧ transcript.Describes program := by
  have describes := describes_grown predefined nodup
  refine ⟨_, ?_, describes⟩
  simp only [assemble, link, reading_of_reads lines reads nodup, readable, ↓reduceIte,
    (unlinked?_eq_none_iff_linked describes).mpr linked]

/-- A line that is too long is told when all lines before it could be added. -/
theorem assemble_of_too_long {predefined : Table Bytes} {source : Bytes}
    {transcript : Transcript} (readable : Source.isReadable source = false)
    (lines : transcript.lines = Source.lines source) (reads : transcript.Reads Denotes predefined)
    (nodup : transcript.labels.Nodup) :
    assemble predefined source =
      .error (.rejected
        { lineNumber := transcript.length + 1, line := [], cause := .lineTooLong }) := by
  simp [assemble, link, reading_of_reads lines reads nodup, readable]

end RegisterMachine.Assembler
