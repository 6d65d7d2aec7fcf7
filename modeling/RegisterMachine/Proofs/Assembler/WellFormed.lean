import RegisterMachine.Expression.Lookups
import RegisterMachine.Proofs.Assembler.Grammar

/-! What holds of every program that is assembled: it has no defect, its registers stand in the order
of their first use, its labels lie where their lines put them, and its places follow the lines they
came from. -/

namespace RegisterMachine

namespace Program

def instructions (program : Program) : List Instruction :=
  program.opcodes.toList.filterMap Opcode.instruction

/-- The registers that instructions name, by name and in the order they name them. -/
def mentions (program : Program) : List Bytes :=
  program.instructions.flatMap fun instruction =>
    instruction.registerList.map program.registerName

/-- The places that come from the first `count` lines of a source. -/
def opcodesUpTo (program : Program) (count : Nat) : List Opcode :=
  program.opcodes.toList.filter fun opcode => opcode.lineNumber ≤ (count : Int)

theorem registerName_eq_getElem (program : Program) {index : Nat}
    (inside : index < program.registers.length) :
    program.registerName index = program.registers[index] := by
  rw [registerName, if_pos (Int.natCast_nonneg index), Int.toNat_natCast,
    List.getElem?_eq_getElem inside]
  rfl

theorem registerName_idxOf (program : Program) {name : Bytes}
    (member : name ∈ program.registers) :
    program.registerName (program.registers.idxOf name) = name := by
  rw [registerName_eq_getElem program (List.idxOf_lt_length_iff.mpr member), List.getElem_idxOf]

theorem hasRegister_natCast {program : Program} {index : Nat} :
    program.hasRegister index = true ↔ index < program.registers.length := by
  simp [hasRegister]

end Program

namespace Assembler

open Grammar

/-- What holds of the program of some lines under predefined equates. -/
structure WellFormed (predefined : Table Bytes) (lines : List Bytes) (program : Program) :
    Prop where
  valid : program.defect? = none
  accepted : ∀ opcode ∈ program.opcodes.toList,
    ∃ instruction, opcode.instruction = some instruction ∧ instruction.Accepted
  distinct : program.registers.Nodup
  identifiers : ∀ name ∈ program.registers, Bytes.isIdentifier name = true
  order : program.registers = program.mentions.eraseDups
  used : ∀ index : Nat, index < program.registers.length →
    ∃ instruction ∈ program.instructions, (index : Int) ∈ instruction.registerList
  indexed : ∀ index : Nat, index < program.registers.length →
    program.registerIndex? (program.registerName index) = some index
  labels : ∀ name address, program.label? name = some address ↔
    ∃ count line, lines[count]? = some line ∧
      name ∈ labelsOf (equatesAt predefined lines count) line ∧
      address = (program.opcodesUpTo count).length
  labelNames : ∀ name address, program.label? name = some address →
    Bytes.isIdentifier name = true ∧ 0 ≤ address ∧ address ≤ program.size
  increasing : (program.opcodes.toList.map Opcode.lineNumber).Pairwise (· < ·)
  texts : ∀ opcode ∈ program.opcodes.toList,
    ∃ count : Nat, opcode.lineNumber = count + 1 ∧ lines[count]? = some opcode.line

namespace Command

theorem registerList_resolve (known : List Bytes) (command : Command) :
    (command.resolve known).registerList =
      command.names.map fun name => (known.idxOf name : Int) := by
  cases command <;> rfl

variable {literal : Bytes → Int32 → Prop} {keyword : Keyword} {operands : List Bytes}
variable {command : Command}

/-- Operands that a keyword takes make an instruction that its verb accepts. -/
theorem Reads.accepted (reads : Reads literal keyword operands command) (known : List Bytes) :
    (command.resolve known).Accepted := by
  cases reads with
  | bare category => cases keyword <;> first | rfl | cases category
  | register category identifier =>
      cases keyword <;> first | rfl | simp [Keyword.category] at category
  | number category stands => cases keyword <;> first | rfl | cases category
  | text category quoted stands => cases keyword <;> first | rfl | cases category
  | label category identifier => cases keyword <;> first | rfl | cases category
  | registers category identifier source => cases keyword <;> first | rfl | cases category
  | registerNumber category identifier stands => cases keyword <;> first | rfl | cases category
  | registerLabel category identifier label => cases keyword <;> first | rfl | cases category

theorem Reads.isIdentifier_of_mem_names (reads : Reads literal keyword operands command)
    {name : Bytes} (member : name ∈ command.names) : Bytes.isIdentifier name = true := by
  cases reads with
  | register category identifier =>
      obtain rfl := List.mem_singleton.mp member
      exact identifier
  | registers category identifier source =>
      rcases List.mem_pair.mp member with rfl | rfl
      · exact identifier
      · exact source
  | registerNumber category identifier stands =>
      obtain rfl := List.mem_singleton.mp member
      exact identifier
  | registerLabel category identifier label =>
      obtain rfl := List.mem_singleton.mp member
      exact identifier
  | _ => cases member

end Command

namespace Transcript

variable {literal : Table Bytes → Bytes → Int32 → Prop} {equates : Table Bytes}
variable {transcript : Transcript}

theorem Reads.command (reads : transcript.Reads literal equates) {command : Command}
    (member : command ∈ transcript.commands) :
    ∃ literal keyword operands, Command.Reads literal keyword operands command := by
  obtain ⟨⟨line, clause⟩, here, found⟩ := List.mem_filterMap.mp member
  obtain ⟨count, place⟩ := List.mem_iff_getElem?.mp here
  cases (reads.clauseAt place).1 with
  | equate split identifier => cases found
  | statement split ordinary leading identifiers phrase =>
      cases phrase with
      | nothing => cases found
      | command reads =>
          obtain rfl := Option.some.inj found
          exact ⟨_, _, _, reads⟩

theorem Reads.isIdentifier_of_mem_labels (reads : transcript.Reads literal equates)
    {name : Bytes} (member : name ∈ transcript.labels) : Bytes.isIdentifier name = true := by
  obtain ⟨⟨line, clause⟩, here, declares⟩ := List.mem_flatMap.mp member
  obtain ⟨count, place⟩ := List.mem_iff_getElem?.mp here
  cases (reads.clauseAt place).1 with
  | equate split identifier => cases declares
  | statement split ordinary leading identifiers phrase => exact identifiers name declares

theorem Reads.isIdentifier_of_mem_names (reads : transcript.Reads literal equates)
    {name : Bytes} (member : name ∈ transcript.names) : Bytes.isIdentifier name = true := by
  obtain ⟨command, here, named⟩ := List.mem_flatMap.mp member
  obtain ⟨_, _, _, commandReads⟩ := reads.command here
  exact commandReads.isIdentifier_of_mem_names named

theorem opcodes_append (known : List Bytes) (count : Nat) (first second : Transcript) :
    opcodes known count (first ++ second) =
      opcodes known count first ++ opcodes known (count + first.length) second := by
  induction first generalizing count with
  | nil => rfl
  | cons entry rest induction =>
      rw [List.cons_append, opcodes, opcodes, induction, List.append_assoc, List.length_cons,
        Nat.add_assoc, Nat.add_comm 1]

theorem length_opcodes (known : List Bytes) (count : Nat) (transcript : Transcript) :
    (transcript.opcodes known count).length = transcript.commands.length := by
  rw [← List.length_map Opcode.instruction, map_instruction_opcodes, List.length_map]

/-- A place comes from a line with a command, and has the number and the text of this line. -/
theorem entry_of_mem_opcodes {known : List Bytes} {count : Nat} {transcript : Transcript}
    {opcode : Opcode} (member : opcode ∈ transcript.opcodes known count) :
    ∃ (place : Nat) (line : Bytes) (clause : Clause) (command : Command),
      transcript[place]? = some (line, clause) ∧ clause.command? = some command ∧
        opcode = ⟨count + place + 1, line, some (command.resolve known)⟩ := by
  induction transcript generalizing count with
  | nil => cases member
  | cons entry rest induction =>
      obtain ⟨line, clause⟩ := entry
      rcases List.mem_append.mp member with here | later
      · obtain ⟨command, isCommand, rfl⟩ := List.mem_map.mp here
        exact ⟨0, line, clause, command, rfl, Option.mem_toList.mp isCommand, by simp⟩
      · obtain ⟨place, other, clauseThere, command, found, isCommand, rfl⟩ := induction later
        refine ⟨place + 1, other, clauseThere, command, found, isCommand, ?_⟩
        simp only [Opcode.mk.injEq, and_true]
        push_cast
        omega

theorem line_of_mem_opcodes {known : List Bytes} {count : Nat} {transcript : Transcript}
    {opcode : Opcode} (member : opcode ∈ transcript.opcodes known count) :
    ∃ place : Nat, opcode.lineNumber = count + place + 1 ∧
      transcript.lines[place]? = some opcode.line := by
  obtain ⟨place, line, clause, command, found, _, rfl⟩ := entry_of_mem_opcodes member
  exact ⟨place, rfl, lines_getElem? found⟩

theorem pairwise_lineNumber (known : List Bytes) (count : Nat) (transcript : Transcript) :
    ((transcript.opcodes known count).map Opcode.lineNumber).Pairwise (· < ·) := by
  induction transcript generalizing count with
  | nil => exact List.Pairwise.nil
  | cons entry rest induction =>
      obtain ⟨line, clause⟩ := entry
      rw [opcodes, List.map_append, List.pairwise_append]
      refine ⟨?_, induction (count + 1), ?_⟩
      · cases clause.command? with
        | none => exact List.Pairwise.nil
        | some command => exact List.pairwise_singleton _ _
      · intro number here other later
        simp only [List.map_map, List.mem_map, Function.comp_apply] at here
        obtain ⟨command, _, rfl⟩ := here
        obtain ⟨opcode, member, rfl⟩ := List.mem_map.mp later
        obtain ⟨place, number, _⟩ := line_of_mem_opcodes member
        rw [number]
        push_cast
        omega

/-- The places of the first lines of a source are those with the numbers of these lines. -/
theorem filter_opcodes (known : List Bytes) (count : Nat) (transcript : Transcript) :
    (transcript.opcodes known 0).filter (fun opcode => opcode.lineNumber ≤ (count : Int)) =
      opcodes known 0 (transcript.take count) := by
  conv => lhs; rw [← List.take_append_drop count transcript]
  rw [opcodes_append, List.filter_append]
  have before : (opcodes known 0 (transcript.take count)).filter
      (fun opcode => opcode.lineNumber ≤ (count : Int)) = opcodes known 0 (transcript.take count) := by
    rw [List.filter_eq_self]
    intro opcode member
    obtain ⟨place, number, line⟩ := line_of_mem_opcodes member
    have inside : place < (lines (transcript.take count)).length :=
      (List.getElem?_eq_some_iff.mp line).1
    rw [lines, List.length_map, List.length_take] at inside
    simp only [number, decide_eq_true_eq]
    omega
  have behind : (opcodes known (0 + (transcript.take count).length) (transcript.drop count)).filter
      (fun opcode => opcode.lineNumber ≤ (count : Int)) = [] := by
    rw [List.filter_eq_nil_iff]
    intro opcode member
    obtain ⟨place, number, line⟩ := line_of_mem_opcodes member
    have inside : place < (lines (transcript.drop count)).length :=
      (List.getElem?_eq_some_iff.mp line).1
    rw [lines, List.length_map, List.length_drop] at inside
    rw [number, List.length_take]
    simp only [decide_eq_true_eq]
    omega
  rw [before, behind, List.append_nil]

/-- A label lies behind the commands of the lines before the one that declares it. -/
theorem mem_declarations_iff {transcript : Transcript} {start : Nat} {name : Bytes}
    {address : Nat} :
    (name, address) ∈ transcript.declarations start ↔
      ∃ (count : Nat) (line : Bytes) (clause : Clause),
        transcript[count]? = some (line, clause) ∧ name ∈ clause.labels ∧
          address = start + (commands (transcript.take count)).length := by
  induction transcript generalizing start with
  | nil => simp [declarations]
  | cons entry rest induction =>
      obtain ⟨line, clause⟩ := entry
      rw [declarations, List.mem_append, induction]
      constructor
      · rintro (here | ⟨count, other, clauseThere, found, declares, rfl⟩)
        · obtain ⟨label, declares, same⟩ := List.mem_map.mp here
          obtain ⟨rfl, rfl⟩ := Prod.mk.inj same
          exact ⟨0, line, clause, rfl, declares, rfl⟩
        · refine ⟨count + 1, other, clauseThere, found, declares, ?_⟩
          rw [List.take_succ_cons, commands_cons, List.length_append, Nat.add_assoc]
      · rintro ⟨count, other, clauseThere, found, declares, rfl⟩
        cases count with
        | zero =>
            obtain ⟨rfl, rfl⟩ := Prod.mk.inj (Option.some.inj found)
            exact .inl (List.mem_map.mpr ⟨name, declares, rfl⟩)
        | succ count =>
            refine .inr ⟨count, other, clauseThere, found, declares, ?_⟩
            rw [List.take_succ_cons, commands_cons, List.length_append, Nat.add_assoc]

end Transcript

namespace Transcript.Describes

variable {transcript : Transcript} {program : Program}
variable {literal : Table Bytes → Bytes → Int32 → Prop} {predefined : Table Bytes}

theorem mem_registers_iff (describes : transcript.Describes program) {name : Bytes} :
    name ∈ program.registers ↔ name ∈ transcript.names := by
  rw [describes.registers, List.mem_eraseDups]

theorem nodup_registers (describes : transcript.Describes program) :
    program.registers.Nodup := by
  rw [describes.registers, ← interned_nil_eq_eraseDups]
  exact nodup_interned List.nodup_nil transcript.names

theorem command_of_mem_opcodes (describes : transcript.Describes program) {opcode : Opcode}
    (member : opcode ∈ program.opcodes.toList) :
    ∃ command ∈ transcript.commands,
      opcode.instruction = some (command.resolve program.registers) := by
  have found := List.mem_map_of_mem (f := Opcode.instruction) member
  rw [describes.map_instruction] at found
  obtain ⟨command, here, same⟩ := List.mem_map.mp found
  exact ⟨command, here, same.symm⟩

theorem instructions_eq (describes : transcript.Describes program) :
    program.instructions =
      transcript.commands.map fun command => command.resolve program.registers := by
  have same := congrArg (List.filterMap id) describes.map_instruction
  rw [List.filterMap_map, List.filterMap_map] at same
  rw [← List.filterMap_eq_map]
  exact same

theorem mem_registers_of_command (describes : transcript.Describes program) {command : Command}
    (member : command ∈ transcript.commands) {name : Bytes} (named : name ∈ command.names) :
    name ∈ program.registers :=
  describes.mem_registers_iff.mpr (List.mem_flatMap.mpr ⟨command, member, named⟩)

theorem mentions_eq (describes : transcript.Describes program) :
    program.mentions = transcript.names := by
  rw [Program.mentions, describes.instructions_eq, List.flatMap_map, Transcript.names]
  apply List.flatMap_congr
  intro command member
  rw [Command.registerList_resolve, List.map_map]
  refine (List.map_congr_left fun name named => ?_).trans (List.map_id command.names)
  exact program.registerName_idxOf (describes.mem_registers_of_command member named)

theorem flaw?_resolve (describes : transcript.Describes program) (linked : transcript.Linked)
    {command : Command} (member : command ∈ transcript.commands) {opcode : Opcode}
    (found : opcode.instruction = some (command.resolve program.registers)) :
    program.flaw? opcode = none := by
  have registers : (command.resolve program.registers).registerList.all program.hasRegister := by
    rw [Command.registerList_resolve, List.all_map, List.all_eq_true]
    intro name named
    have known := describes.mem_registers_of_command member named
    exact Program.hasRegister_natCast.mpr (List.idxOf_lt_length_iff.mpr known)
  simp only [Program.flaw?, found, registers, ↓reduceIte, Command.resolve_target?]
  cases target : command.target? with
  | none => rfl
  | some name =>
      simp only [describes.contains_iff.mpr (linked command member name target), ↓reduceIte]

theorem defect?_eq_none (describes : transcript.Describes program) (linked : transcript.Linked) :
    program.defect? = none := by
  rw [Program.defect?, List.findSome?_eq_none_iff]
  intro entry member
  obtain ⟨command, here, found⟩ :=
    describes.command_of_mem_opcodes (List.fst_mem_of_mem_zipIdx member)
  rw [describes.flaw?_resolve linked here found]
  rfl

theorem length_opcodesUpTo (describes : transcript.Describes program) (count : Nat) :
    (program.opcodesUpTo count).length = (commands (transcript.take count)).length := by
  rw [Program.opcodesUpTo, describes.opcodes, filter_opcodes, length_opcodes]

/-- The labels of a program, told from the lines that declare them. -/
theorem label?_eq_some_iff (describes : transcript.Describes program)
    (reads : transcript.Reads literal predefined) {name : Bytes} {address : Int} :
    program.label? name = some address ↔
      ∃ count line, transcript.lines[count]? = some line ∧
        name ∈ labelsOf (equatesAt predefined transcript.lines count) line ∧
        address = (program.opcodesUpTo count).length := by
  rw [describes.label?]
  constructor
  · rintro ⟨address, rfl, member⟩
    obtain ⟨count, line, clause, found, declares, rfl⟩ := mem_declarations_iff.mp member
    refine ⟨count, line, lines_getElem? found, ?_, ?_⟩
    · rwa [labelsOf_of_reads (reads.clauseAt found).1]
    · rw [describes.length_opcodesUpTo, Nat.zero_add]
  · rintro ⟨count, line, found, declares, rfl⟩
    obtain ⟨clause, place⟩ := getElem?_of_lines found
    rw [labelsOf_of_reads (reads.clauseAt place).1] at declares
    refine ⟨_, rfl, mem_declarations_iff.mpr ⟨count, line, clause, place, declares, ?_⟩⟩
    rw [describes.length_opcodesUpTo, Nat.zero_add]

theorem wellFormed (describes : transcript.Describes program)
    (reads : transcript.Reads literal predefined) (linked : transcript.Linked) :
    WellFormed predefined transcript.lines program where
  valid := describes.defect?_eq_none linked
  accepted opcode member := by
    obtain ⟨command, here, found⟩ := describes.command_of_mem_opcodes member
    obtain ⟨_, _, _, commandReads⟩ := reads.command here
    exact ⟨_, found, commandReads.accepted program.registers⟩
  distinct := describes.nodup_registers
  identifiers name member :=
    reads.isIdentifier_of_mem_names (describes.mem_registers_iff.mp member)
  order := by rw [describes.mentions_eq, describes.registers]
  used index inside := by
    have member := describes.mem_registers_iff.mp (List.getElem_mem inside)
    obtain ⟨command, here, named⟩ := List.mem_flatMap.mp member
    refine ⟨command.resolve program.registers, ?_, ?_⟩
    · rw [describes.instructions_eq]
      exact List.mem_map_of_mem here
    · rw [Command.registerList_resolve]
      refine List.mem_map.mpr ⟨_, named, ?_⟩
      rw [describes.nodup_registers.idxOf_getElem index inside]
  indexed index inside := by
    rw [program.registerName_eq_getElem inside, Program.registerIndex?, List.idxOf?_eq_some_iff]
    refine ⟨inside, rfl, fun earlier before same => ?_⟩
    have place := congrArg program.registers.idxOf same
    rw [describes.nodup_registers.idxOf_getElem index inside,
      describes.nodup_registers.idxOf_getElem earlier (before.trans inside)] at place
    omega
  labels name address := describes.label?_eq_some_iff reads
  labelNames name address found := by
    have declared := describes.contains_iff.mp (Table.contains_eq_true_iff.mpr ⟨address, found⟩)
    obtain ⟨count, line, _, _, rfl⟩ := (describes.label?_eq_some_iff reads).mp found
    refine ⟨reads.isIdentifier_of_mem_labels declared, Int.natCast_nonneg _, ?_⟩
    exact_mod_cast List.length_filter_le _ _
  increasing := by
    rw [describes.opcodes]
    exact pairwise_lineNumber program.registers 0 transcript
  texts opcode member := by
    rw [describes.opcodes] at member
    obtain ⟨place, number, line⟩ := line_of_mem_opcodes member
    exact ⟨place, by simpa using number, line⟩

end Transcript.Describes

/-- Every program that is assembled is well formed. -/
theorem parse_wellFormed [Evaluator] {assembler : Assembler} {source : Bytes} {program : Program}
    (assembled : (assembler.parse source).2 = .ok program) :
    WellFormed assembler.predefined (Source.lines source) program := by
  obtain ⟨_, transcript, lines, reads, _, linked, describes⟩ := transcript_of_assemble assembled
  rw [← lines]
  exact describes.wellFormed reads linked

/-- Two registers, a label at the end, and a line that declares two labels of one address. -/
theorem parse_wellFormed_two_labels :
    ∃ program,
      (fresh.parse (utf8 "a: b: mov y, x\n\ninc x\nje end\nend:")).2 = .ok program ∧
        WellFormed fresh.predefined
          (Source.lines (utf8 "a: b: mov y, x\n\ninc x\nje end\nend:")) program := by
  have isOk : (fresh.parse (utf8 "a: b: mov y, x\n\ninc x\nje end\nend:")).2.isOk = true := by
    decide +kernel
  obtain ⟨program, assembled⟩ := exists_of_isOk isOk
  exact ⟨program, assembled, parse_wellFormed assembled⟩

end Assembler

end RegisterMachine
