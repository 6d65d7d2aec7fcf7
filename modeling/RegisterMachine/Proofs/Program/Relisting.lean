import Mathlib.Data.List.Perm.Basic
import RegisterMachine.Expression.Lookups
import RegisterMachine.Proofs.Program.Rereading
import RegisterMachine.Settings

/-! The source text of a program read under the equates that the program was assembled with. Its words
have been exchanged for their texts once already, and are exchanged again: the text gives the same
program exactly when the equates leave its words as they are, but for labels of one address, which may
change places. -/

namespace RegisterMachine

structure Program.SameAs (program other : Program) : Prop where
  instructions : program.opcodes.toList.map Opcode.instruction =
    other.opcodes.toList.map Opcode.instruction
  registers : program.registers = other.registers
  labels : ∀ name, program.label? name = other.label? name

namespace Assembler

theorem Command.verb_resolve (known : List Bytes) (command : Command) :
    (command.resolve known).verb = .known command.keyword := by
  cases command <;> rfl

/-- A command can be told from its instruction where the registers have names. -/
theorem Command.eq_of_resolve {known : List Bytes} {command other : Command}
    (member : ∀ name ∈ command.names, name ∈ known)
    (same : command.resolve known = other.resolve known) : command = other := by
  have index : ∀ name ∈ command.names, ∀ another,
      (known.idxOf name : Int) = known.idxOf another → name = another := by
    intro name named another equal
    exact (List.idxOf_inj (member name named)).mp (Int.ofNat_inj.mp equal)
  -- Instructions of different shapes differ.
  cases command with
  | bare keyword =>
      cases other with
      | bare => cases same; rfl
      | _ => cases same
  | register keyword name =>
      cases other with
      | register otherKeyword another =>
          obtain ⟨⟨⟩, place⟩ := Instruction.register.inj same
          rw [index name (by simp [names]) another place]
      | _ => cases same
  | number keyword value =>
      cases other with
      | number => cases same; rfl
      | _ => cases same
  | text keyword text =>
      cases other with
      | text => cases same; rfl
      | _ => cases same
  | label keyword label =>
      cases other with
      | label => cases same; rfl
      | _ => cases same
  | registers keyword target source =>
      cases other with
      | registers otherKeyword otherTarget otherSource =>
          obtain ⟨⟨⟩, targetPlace, sourcePlace⟩ := Instruction.registers.inj same
          rw [index target (by simp [names]) otherTarget targetPlace,
            index source (by simp [names]) otherSource sourcePlace]
      | _ => cases same
  | registerNumber keyword target value =>
      cases other with
      | registerNumber otherKeyword otherTarget otherValue =>
          obtain ⟨⟨⟩, place, rfl⟩ := Instruction.registerNumber.inj same
          rw [index target (by simp [names]) otherTarget place]
      | _ => cases same
  | registerLabel keyword counter label =>
      cases other with
      | registerLabel otherKeyword otherCounter otherLabel =>
          obtain ⟨⟨⟩, place, rfl⟩ := Instruction.registerLabel.inj same
          rw [index counter (by simp [names]) otherCounter place]
      | _ => cases same

theorem map_resolve_inj {known : List Bytes} {commands others : List Command}
    (member : ∀ command ∈ commands, ∀ name ∈ command.names, name ∈ known)
    (same : commands.map (fun command => some (command.resolve known)) =
      others.map fun command => some (command.resolve known)) : commands = others := by
  induction commands generalizing others with
  | nil => exact (List.map_eq_nil_iff.mp same.symm).symm
  | cons command rest induction =>
      cases others with
      | nil => cases same
      | cons other otherRest =>
          obtain ⟨here, later⟩ := List.cons.inj same
          have first := Command.eq_of_resolve (member command List.mem_cons_self)
            (Option.some.inj here)
          have behind := induction
            (fun command inRest => member command (List.mem_cons_of_mem _ inRest)) later
          rw [first, behind]

/-- Whether equates leave the words of a program's source text as they are. Labels of one address may
be exchanged for each other. -/
structure Keeps [Evaluator] (equates : Table Bytes) (program : Program) : Prop where
  verbs : ∀ instruction ∈ program.instructions,
    replaced equates instruction.verb.name = instruction.verb.name
  registers : ∀ name ∈ program.registers, replaced equates name = name
  targets : ∀ instruction ∈ program.instructions, ∀ name, instruction.target? = some name →
    replaced equates name = name
  numbers : ∀ instruction ∈ program.instructions, ∀ value, instruction.number? = some value →
    Denotes equates (replaced equates (Text.Decimal.ofInt value.toInt)) value
  labels : ∀ address, ((program.labelsAt address).map fun label =>
    replaced equates (declaration label)).Perm
      ((program.labelsAt address).map declaration)

def exchangedLabel (equates : Table Bytes) (name : Bytes) : Bytes :=
  (replaced equates (declaration name)).dropLast

section Keeps

variable [Evaluator] {equates : Table Bytes} {program : Program} {address : Nat} {name : Bytes}

theorem Keeps.perm_exchangedLabel (keeps : Keeps equates program) (address : Nat) :
    ((program.labelsAt address).map (exchangedLabel equates)).Perm (program.labelsAt address) := by
  have dropped := (keeps.labels address).map List.dropLast
  rwa [Grammar.map_dropLast_declaration, List.map_map] at dropped

theorem Keeps.exchangedLabel_mem (keeps : Keeps equates program)
    (member : name ∈ program.labelsAt address) :
    exchangedLabel equates name ∈ program.labelsAt address :=
  (keeps.perm_exchangedLabel address).mem_iff.mp (List.mem_map_of_mem member)

theorem Keeps.replaced_declaration (keeps : Keeps equates program)
    (member : name ∈ program.labelsAt address) :
    replaced equates (declaration name) =
      declaration (exchangedLabel equates name) := by
  have declares : replaced equates (declaration name) ∈
      (program.labelsAt address).map declaration :=
    (keeps.labels address).mem_iff.mp (List.mem_map_of_mem member)
  obtain ⟨label, _, same⟩ := List.mem_map.mp declares
  rw [exchangedLabel, ← same, Draft.dropLast_declaration]

end Keeps

namespace Transcript.Describes

variable {transcript other : Transcript} {program again : Program} {equates : Table Bytes}

theorem mem_declarations_iff_label? (describes : transcript.Describes program) {name : Bytes}
    {address : Nat} :
    (name, address) ∈ transcript.declarations 0 ↔ program.label? name = some (address : Int) := by
  rw [describes.label?]
  constructor
  · exact fun declared => ⟨address, rfl, declared⟩
  · rintro ⟨place, same, declared⟩
    rwa [Int.ofNat_inj.mp same]

theorem sameAs_iff (describes : transcript.Describes program) (describesAgain : other.Describes again) :
    again.SameAs program ↔
      other.commands = transcript.commands ∧
        ∀ name address, (name, address) ∈ other.declarations 0 ↔
          (name, address) ∈ transcript.declarations 0 := by
  constructor
  · rintro ⟨instructions, registers, labels⟩
    refine ⟨?_, ?_⟩
    · rw [describesAgain.map_instruction, describes.map_instruction, registers] at instructions
      apply map_resolve_inj _ instructions
      intro command member name named
      rw [← registers]
      exact describesAgain.mem_registers_of_command member named
    · intro name address
      rw [describesAgain.mem_declarations_iff_label?, describes.mem_declarations_iff_label?, labels]
  · rintro ⟨commands, declared⟩
    have registers : again.registers = program.registers := by
      rw [describesAgain.registers, describes.registers, names, commands]
      rfl
    refine ⟨?_, registers, ?_⟩
    · rw [describesAgain.map_instruction, describes.map_instruction, commands, registers]
    · intro name
      ext value
      rw [describesAgain.label?, describes.label?]
      simp only [declared]

/-- Equates keep a program if they keep its commands and its labels. -/
theorem keeps_iff [Evaluator] (describes : transcript.Describes program) :
    Keeps equates program ↔
      (∀ command ∈ transcript.commands,
        command.IsKept (Denotes equates) (replaced equates)) ∧
      ∀ address, ((program.labelsAt address).map fun label =>
        replaced equates (declaration label)).Perm
          ((program.labelsAt address).map declaration) := by
  have resolved : ∀ command ∈ transcript.commands,
      command.resolve program.registers ∈ program.instructions := by
    intro command member
    rw [describes.instructions_eq]
    exact List.mem_map_of_mem member
  constructor
  · rintro ⟨verbs, registers, targets, numbers, labels⟩
    refine ⟨fun command member => ⟨?_, ?_, ?_, ?_⟩, labels⟩
    · have kept := verbs _ (resolved command member)
      rwa [Command.verb_resolve] at kept
    · exact fun name named => registers name (describes.mem_registers_of_command member named)
    · intro name target
      apply targets _ (resolved command member)
      rw [Command.resolve_target?, target]
    · intro value number
      apply numbers _ (resolved command member)
      rw [Command.number?_resolve, number]
  · rintro ⟨kept, labels⟩
    have commandOf : ∀ instruction ∈ program.instructions, ∃ command ∈ transcript.commands,
        instruction = command.resolve program.registers := by
      intro instruction member
      rw [describes.instructions_eq] at member
      obtain ⟨command, here, rfl⟩ := List.mem_map.mp member
      exact ⟨command, here, rfl⟩
    refine ⟨?_, ?_, ?_, ?_, labels⟩
    · intro instruction member
      obtain ⟨command, here, rfl⟩ := commandOf instruction member
      rw [Command.verb_resolve]
      exact (kept command here).keyword
    · intro name member
      obtain ⟨command, here, named⟩ := List.mem_flatMap.mp (describes.mem_registers_iff.mp member)
      exact (kept command here).names name named
    · intro instruction member name target
      obtain ⟨command, here, rfl⟩ := commandOf instruction member
      rw [Command.resolve_target?] at target
      exact (kept command here).target name target
    · intro instruction member value number
      obtain ⟨command, here, rfl⟩ := commandOf instruction member
      rw [Command.number?_resolve] at number
      exact (kept command here).number value number

theorem mem_declarations_iff_labelsAt (describes : transcript.Describes program) {name : Bytes}
    {address : Nat} :
    (name, address) ∈ transcript.declarations 0 ↔
      name ∈ program.labelsAt address ∧ 0 ≤ address ∧ address ≤ 0 + transcript.commands.length := by
  rw [describes.mem_declarations_iff_label?, ← describes.declarations_listed_iff,
    mem_declarations_listed]

variable [Evaluator]

theorem keeps_of_sameAs (describes : transcript.Describes program)
    (reads : transcript.Reads Denotes equates) (describesAgain : other.Describes again)
    (otherLines : other.lines = lines (listed program.labelsAt 0 transcript.commands))
    (readsAgain : other.Reads Denotes equates) (nodup : other.labels.Nodup)
    (same : again.SameAs program) : Keeps equates program := by
  obtain ⟨commands, declared⟩ := (describes.sameAs_iff describesAgain).mp same
  have ordinary : ∀ line ∈ other.lines, ∀ words, Source.words line = .ok words →
      words.head? ≠ some Draft.equateWord := by
    intro line member words split
    rw [otherLines] at member
    obtain ⟨⟨_, clause⟩, inListing, rfl⟩ := List.mem_map.mp member
    obtain ⟨_, labels, command, rfl, entryReads⟩ := describes.entry_of_mem_listed reads inListing
    cases entryReads with
    | statement again ordinary leading identifiers phrase =>
        obtain rfl := Except.ok.inj (again.symm.trans split)
        exact ordinary
  obtain ⟨kept, perm⟩ := isKept_of_listed (fun command member => reads.command member)
    (fun address name member => describes.isIdentifier_of_mem_labelsAt reads member)
    program.nodup_labelsAt otherLines (fun entry member => readsAgain.of_mem ordinary member)
    commands nodup fun name place => (declared name place).trans
      describes.mem_declarations_iff_labelsAt
  refine describes.keeps_iff.mpr ⟨kept, fun address => ?_⟩
  by_cases within : address ≤ 0 + transcript.commands.length
  · exact perm address (Nat.zero_le address) within
  · have none : program.labelsAt address = [] := by
      apply List.eq_nil_iff_forall_not_mem.mpr
      intro name member
      have found := describes.declarations_listed_iff.mpr (Program.mem_labelsAt_iff.mp member)
      exact within (mem_declarations_listed.mp found).2.2
    rw [none]
    exact .nil

/-- The lines of a listing as they are read under equates that keep its program. -/
def relisted (equates : Table Bytes) (program : Program) (commands : List Command) : Transcript :=
  (listed program.labelsAt 0 commands).relabelled (exchangedLabel equates)

theorem reads_relisted (describes : transcript.Describes program)
    (reads : transcript.Reads Denotes equates) (keeps : Keeps equates program) :
    (relisted equates program transcript.commands).Reads Denotes equates := by
  apply reads_of_statements
  intro entry member
  obtain ⟨original, inListing, rfl⟩ := List.mem_map.mp member
  rcases mem_listed inListing with ⟨address, name, isLabel, rfl⟩ | ⟨command, isCommand, rfl⟩
  · have identifier := describes.isIdentifier_of_mem_labelsAt reads isLabel
    have exchanged := keeps.exchangedLabel_mem isLabel
    refine ⟨[exchangedLabel equates name], none, rfl, ?_⟩
    refine .statement (words_declaration identifier) ?_ ?_ ?_ .nothing
    · intro marked
      have colon := congrArg Draft.isDeclaration (Option.some.inj marked)
      rw [Draft.isDeclaration_declaration] at colon
      revert colon
      decide
    · rw [List.map_singleton, keeps.replaced_declaration isLabel]
      rfl
    · have otherIdentifier := describes.isIdentifier_of_mem_labelsAt reads exchanged
      simpa using otherIdentifier
  · obtain ⟨_, _, _, commandReads⟩ := reads.command isCommand
    exact ⟨[], some command, rfl,
      ((describes.keeps_iff.mp keeps).1 command isCommand).reads_line commandReads⟩

theorem labels_relisted (keeps : Keeps equates program) (commands : List Command) :
    (relisted equates program commands).labels.Perm
      (labels (listed program.labelsAt 0 commands)) := by
  rw [relisted, labels_relabelled, labels_listed, List.map_flatMap]
  exact List.Perm.flatMap_left _ fun address _ => keeps.perm_exchangedLabel address

theorem mem_declarations_relisted (describes : transcript.Describes program)
    (keeps : Keeps equates program) {name : Bytes} {address : Nat} :
    (name, address) ∈ declarations 0 (relisted equates program transcript.commands) ↔
      (name, address) ∈ transcript.declarations 0 := by
  rw [describes.mem_declarations_iff_labelsAt, ← (keeps.perm_exchangedLabel address).mem_iff,
    relisted, declarations_relabelled, List.mem_map, List.mem_map]
  constructor
  · rintro ⟨⟨old, place⟩, declared, same⟩
    obtain ⟨rfl, rfl⟩ := Prod.mk.inj same
    obtain ⟨isLabel, lower, upper⟩ := mem_declarations_listed.mp declared
    exact ⟨⟨old, isLabel, rfl⟩, lower, upper⟩
  · rintro ⟨⟨old, isLabel, rfl⟩, lower, upper⟩
    exact ⟨(old, address), mem_declarations_listed.mpr ⟨isLabel, lower, upper⟩, rfl⟩

theorem assemble_of_keeps (describes : transcript.Describes program)
    (reads : transcript.Reads Denotes equates) (linked : transcript.Linked) {listing : Bytes}
    (written : program.listing? = some listing) (readable : Source.isReadable listing = true)
    (keeps : Keeps equates program) :
    ∃ again, assemble equates listing = .ok again ∧ again.SameAs program := by
  have commands : (relisted equates program transcript.commands).commands =
      transcript.commands := by
    rw [relisted, commands_relabelled, commands_listed]
  have sameLines : (relisted equates program transcript.commands).lines =
      Source.lines listing := by
    rw [relisted, lines_relabelled, describes.lines_listing_of_isReadable reads written readable]
  have sameLabels := labels_relisted keeps transcript.commands
  have linkedAgain : (relisted equates program transcript.commands).Linked := by
    intro command member name target
    apply sameLabels.mem_iff.mpr
    apply describes.linked_listed linked command _ name target
    rwa [commands_listed, ← commands]
  obtain ⟨again, assembled, describesAgain⟩ := assemble_of_transcript readable sameLines
    (describes.reads_relisted reads keeps)
    (sameLabels.nodup_iff.mpr (nodup_labels_listed program transcript.commands)) linkedAgain
  refine ⟨again, assembled, (describes.sameAs_iff describesAgain).mpr ⟨commands, ?_⟩⟩
  exact fun name address => describes.mem_declarations_relisted keeps

end Transcript.Describes

open Grammar

/-- Whether the predefined equates have names that could be a register's, and no text, predefined or
of a line, is the name of one of them. -/
structure HasPlainEquates (predefined : Table Bytes) (lines : List Bytes) : Prop where
  names : ∀ name text, predefined.get? name = some text → Bytes.isIdentifier name = true
  predefinedTexts : ∀ name text, predefined.get? name = some text → predefined.get? text = none
  ownTexts : ∀ line ∈ lines, ∀ name text,
    Source.words line = .ok [Draft.equateWord, name, text] → predefined.get? text = none

section Plain

variable {predefined : Table Bytes} {lines : List Bytes}

theorem replaced_eq_self {word : Bytes} (absent : predefined.get? word = none) :
    replaced predefined word = word := by
  rw [replaced_eq]
  split
  · rfl
  · exact congrArg (Option.getD · word) absent

theorem HasPlainEquates.replaced_of_not_isIdentifier (plain : HasPlainEquates predefined lines)
    {word : Bytes} (other : Bytes.isIdentifier word = false) :
    replaced predefined word = word := by
  apply replaced_eq_self
  cases found : predefined.get? word with
  | none => rfl
  | some text =>
      rw [plain.names word text found] at other
      cases other

/-- What a word stands for in a line stands for itself where only the predefined equates hold. -/
theorem HasPlainEquates.replaced_replaced (plain : HasPlainEquates predefined lines)
    (count : Nat) (word : Bytes) :
    replaced predefined
        (replaced (equatesAt predefined lines count) word) =
      replaced (equatesAt predefined lines count) word := by
  by_cases quoted : word.head? = some (byte '"')
  · have stays : ∀ equates, replaced equates word = word := fun _ => if_pos quoted
    rw [stays, stays]
  · cases found : (equatesAt predefined lines count).get? word with
    | none =>
        rw [replaced_eq_self found]
        exact replaced_eq_self (get?_foldl_definedBy_eq_none_iff.mp found).1
    | some text =>
        have stands : replaced (equatesAt predefined lines count) word = text := by
          rw [replaced_eq, if_neg quoted, found, Option.getD_some]
        rw [stands]
        apply replaced_eq_self
        rcases get?_foldl_definedBy found with known | ⟨line, member, split⟩
        · exact plain.predefinedTexts word text known
        · exact plain.ownTexts line (List.mem_of_mem_take member) word text split

theorem isIdentifier_declaration (label : Bytes) :
    Bytes.isIdentifier (declaration label) = false := by
  have colon : Bytes.isIdentifierPart (byte ':') = false := by decide
  cases label with
  | nil => rfl
  | cons b rest => simp [declaration, Bytes.isIdentifier, colon]

theorem isIdentifier_ofInt [Evaluator] (value : Int32) :
    Bytes.isIdentifier (Text.Decimal.ofInt value.toInt) = false := by
  rw [Bool.eq_false_iff]
  intro identifier
  have isLiteral := (denotes_ofInt Table.empty value).1
  rw [Draft.isLiteral_of_isIdentifier identifier] at isLiteral
  cases isLiteral

theorem Command.Reads.mem_operands {literal : Bytes → Int32 → Prop} {keyword : Keyword}
    {operands : List Bytes} {command : Command} (reads : Reads literal keyword operands command) :
    (∀ name ∈ command.names, name ∈ operands) ∧
      ∀ name, command.target? = some name → name ∈ operands := by
  cases reads with
  | _ => simp [names, target?]

theorem HasPlainEquates.keeps [Evaluator] {transcript : Transcript} {program : Program}
    (plain : HasPlainEquates predefined transcript.lines)
    (reads : transcript.Reads Denotes predefined) (describes : transcript.Describes program) :
    Keeps predefined program := by
  apply describes.keeps_iff.mpr
  constructor
  · intro command member
    obtain ⟨⟨line, clause⟩, here, found⟩ := List.mem_filterMap.mp member
    obtain ⟨count, place⟩ := List.mem_iff_getElem?.mp here
    cases (reads.clauseAt place).1 with
    | equate split identifier => cases found
    | statement split ordinary leading identifiers phrase =>
        rename_i words labels rest other
        obtain rfl : other = some command := found
        -- Each word behind the labels is what some word of the line stands for.
        have stays : ∀ word ∈ rest, replaced predefined word = word := by
          intro word inRest
          have inLine : word ∈ words.map
              (replaced (equatesAt predefined transcript.lines count)) := by
            rw [leading]
            exact List.mem_append_right _ inRest
          obtain ⟨original, _, rfl⟩ := List.mem_map.mp inLine
          exact plain.replaced_replaced count original
        cases phrase with
        | command commandReads =>
            obtain ⟨same, _⟩ := commandReads.written predefined
            obtain ⟨names, target⟩ := commandReads.mem_operands
            refine ⟨?_, ?_, ?_, ?_⟩
            · rw [same]
              exact stays _ List.mem_cons_self
            · exact fun name named => stays name (List.mem_cons_of_mem _ (names name named))
            · exact fun name found => stays name (List.mem_cons_of_mem _ (target name found))
            · intro value _
              rw [plain.replaced_of_not_isIdentifier (isIdentifier_ofInt value)]
              exact denotes_ofInt predefined value
  · intro address
    have stays : (program.labelsAt address).map
        (fun label => replaced predefined (declaration label)) =
          (program.labelsAt address).map declaration :=
      List.map_congr_left fun label _ =>
        plain.replaced_of_not_isIdentifier (isIdentifier_declaration label)
    rw [stays]

end Plain

/-- The listing of a program gives the same program again under the settings that it was assembled
with exactly when their equates keep its words, and they do so where no text of an equate is the name
of a predefined one. -/
theorem parse_listing_again [Evaluator] (settings : Settings) {source : Bytes} {program : Program}
    (assembled : (settings.assembler.parse source).2 = .ok program) :
    ∃ listing, program.listing? = some listing ∧
      ((∀ line ∈ Source.rawLines listing, line.length < 65536) →
        ((∃ again, (settings.assembler.parse listing).2 = .ok again ∧ again.SameAs program) ↔
          Keeps settings.assembler.predefined program)) ∧
      (HasPlainEquates settings.assembler.predefined (Source.lines source) →
        Keeps settings.assembler.predefined program) := by
  obtain ⟨_, transcript, lines, reads, _, linked, describes⟩ := transcript_of_assemble assembled
  have written := describes.listing?_eq
  refine ⟨_, written, ?_, ?_⟩
  · intro short
    have readable := Source.isReadable_iff.mpr short
    constructor
    · rintro ⟨again, assembledAgain, same⟩
      obtain ⟨_, other, otherLines, readsAgain, nodup, _, describesAgain⟩ :=
        transcript_of_assemble assembledAgain
      rw [describes.lines_listing_of_isReadable reads written readable] at otherLines
      exact describes.keeps_of_sameAs reads describesAgain otherLines readsAgain nodup same
    · exact describes.assemble_of_keeps reads linked written readable
  · intro plain
    rw [← lines] at plain
    exact plain.keeps reads describes

/-- A register that an equate gives the name of a standard equate is read as a number again. -/
theorem parse_listing_again_standard :
    ∃ program error,
      (Settings.default.assembler.parse (utf8 ".equ LOW INT_MIN\nmov LOW, 1\n")).2 = .ok program ∧
      program.listing? = some (utf8 "\tmov INT_MIN, 1\n") ∧
      (∀ line ∈ Source.rawLines (utf8 "\tmov INT_MIN, 1\n"), line.length < 65536) ∧
      (Settings.default.assembler.parse (utf8 "\tmov INT_MIN, 1\n")).2 =
        .error (.rejected error) ∧
      error.cause = .registerMalformed (utf8 "-2147483648") := by
  obtain ⟨program, assembled, written⟩ : ∃ program,
      (Settings.default.assembler.parse (utf8 ".equ LOW INT_MIN\nmov LOW, 1\n")).2 = .ok program ∧
        program.listing? = some (utf8 "\tmov INT_MIN, 1\n") :=
    exists_of_toOption (by decide +kernel)
  refine ⟨program, ⟨1, utf8 "\tmov INT_MIN, 1", .registerMalformed (utf8 "-2147483648")⟩,
    assembled, written, by decide, ?_, rfl⟩
  apply assemble_of_failure
  decide +kernel

/-- A loop whose step is an equate of the source. -/
theorem parse_listing_again_loop :
    ∃ program listing again,
      (Settings.default.assembler.parse
        (utf8 ".equ STEP 3\ngo: mov a, INT_MAX\nsub a, STEP\nloop a, go")).2 = .ok program ∧
      program.listing? = some listing ∧
      (Settings.default.assembler.parse listing).2 = .ok again ∧ again.SameAs program := by
  obtain ⟨program, assembled, short⟩ : ∃ program,
      (Settings.default.assembler.parse
        (utf8 ".equ STEP 3\ngo: mov a, INT_MAX\nsub a, STEP\nloop a, go")).2 = .ok program ∧
        program.listing?.all Source.isReadable = true :=
    exists_of_toOption (by decide +kernel)
  have plain : HasPlainEquates Settings.default.assembler.predefined
      (Source.lines (utf8 ".equ STEP 3\ngo: mov a, INT_MAX\nsub a, STEP\nloop a, go")) := by
    have entries : ∀ entry ∈ Settings.default.assembler.predefined.entries,
        Bytes.isIdentifier entry.1 = true ∧
          (Settings.default.assembler.predefined.get? entry.2).isNone = true := by
      decide +kernel
    have texts : ∀ line ∈ Source.lines
        (utf8 ".equ STEP 3\ngo: mov a, INT_MAX\nsub a, STEP\nloop a, go"),
          ((Source.words line).toOption.bind (·[2]?)).all (fun text =>
            (Settings.default.assembler.predefined.get? text).isNone) = true := by
      decide +kernel
    refine ⟨?_, ?_, ?_⟩
    · exact fun name text found => (entries _ (Table.get?_eq_some_iff.mp found)).1
    · intro name text found
      exact Option.isNone_iff_eq_none.mp (entries _ (Table.get?_eq_some_iff.mp found)).2
    · intro line member name text split
      have third := texts line member
      rw [split] at third
      exact Option.isNone_iff_eq_none.mp third
  obtain ⟨listing, written, iff, keeps⟩ := parse_listing_again Settings.default assembled
  rw [written] at short
  obtain ⟨again, assembledAgain, same⟩ := (iff (Source.isReadable_iff.mp short)).mpr (keeps plain)
  exact ⟨program, listing, again, assembled, written, assembledAgain, same⟩

end Assembler

end RegisterMachine
