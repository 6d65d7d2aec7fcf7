import Mathlib.Data.List.Nodup
import RegisterMachine.Expression.Lookups
import RegisterMachine.Proofs.Program.Written

/-! The source text of a program is assembled to the same program again. The lines of the text have a
transcript of their own: at each address its labels, one a line, then its command. -/

namespace RegisterMachine

theorem Program.mem_labelsAt_iff {program : Program} {address : Nat} {name : Bytes} :
    name ∈ program.labelsAt address ↔ program.label? name = some (address : Int) := by
  rw [Program.labelsAt, Bytes.sort, List.mem_mergeSort, Program.label?, Table.get?_eq_some_iff,
    List.mem_map]
  constructor
  · rintro ⟨⟨_, value⟩, member, rfl⟩
    obtain ⟨inTable, same⟩ := List.mem_filter.mp member
    rwa [← eq_of_beq same]
  · intro member
    exact ⟨(name, address), List.mem_filter.mpr ⟨member, beq_self_eq_true _⟩, rfl⟩

theorem Program.nodup_labelsAt (program : Program) (address : Nat) :
    (program.labelsAt address).Nodup := by
  rw [Program.labelsAt, Bytes.sort, (List.mergeSort_perm _ _).nodup_iff]
  exact (List.filter_sublist.map Prod.fst).nodup program.labels.nodup

namespace Assembler

def labelEntry (name : Bytes) : Bytes × Clause :=
  (declaration name, .statement [name] none)

def commandEntry (command : Command) : Bytes × Clause :=
  (command.line, .statement [] (some command))

namespace Transcript

/-- Commands in their lines, each behind the labels of its address. -/
def listed (labelsAt : Nat → List Bytes) : Nat → List Command → Transcript
  | address, [] => (labelsAt address).map labelEntry
  | address, command :: rest =>
      (labelsAt address).map labelEntry ++
        commandEntry command :: listed labelsAt (address + 1) rest

theorem labels_map_labelEntry (names : List Bytes) : labels (names.map labelEntry) = names := by
  rw [labels, List.flatMap_map]
  exact List.flatMap_singleton' names

theorem commands_map_labelEntry (names : List Bytes) : commands (names.map labelEntry) = [] := by
  rw [commands, List.filterMap_map]
  exact List.filterMap_eq_nil_iff.mpr fun name _ => rfl

theorem declarations_labels (address : Nat) (names : List Bytes) (rest : Transcript) :
    declarations address (names.map labelEntry ++ rest) =
      names.map (fun name => (name, address)) ++ declarations address rest := by
  induction names with
  | nil => rfl
  | cons name others induction =>
      rw [List.map_cons, List.cons_append, labelEntry, declarations]
      exact congrArg ((name, address) :: ·) induction

variable {labelsAt : Nat → List Bytes}

theorem commands_listed (address : Nat) (listing : List Command) :
    commands (listed labelsAt address listing) = listing := by
  induction listing generalizing address with
  | nil => exact commands_map_labelEntry (labelsAt address)
  | cons command rest induction =>
      rw [listed, commands_append, commands_map_labelEntry, commands_cons, induction]
      rfl

theorem labels_listed (address : Nat) (listing : List Command) :
    labels (listed labelsAt address listing) =
      (List.range' address (listing.length + 1)).flatMap labelsAt := by
  induction listing generalizing address with
  | nil =>
      rw [listed, labels_map_labelEntry]
      simp
  | cons command rest induction =>
      rw [listed, labels_append, labels_map_labelEntry, labels_cons, induction,
        List.length_cons, List.range'_succ, List.flatMap_cons]
      rfl

/-- The labels of a listing lie where they were asked for. -/
theorem mem_declarations_listed {address place : Nat} {listing : List Command} {name : Bytes} :
    (name, place) ∈ declarations address (listed labelsAt address listing) ↔
      name ∈ labelsAt place ∧ address ≤ place ∧ place ≤ address + listing.length := by
  induction listing generalizing address with
  | nil =>
      have shape := declarations_labels address (labelsAt address) []
      rw [List.append_nil, declarations, List.append_nil] at shape
      rw [listed, shape, List.mem_map]
      constructor
      · rintro ⟨_, member, same⟩
        obtain ⟨rfl, rfl⟩ := Prod.mk.inj same
        exact ⟨member, Nat.le_refl _, Nat.le_refl _⟩
      · rintro ⟨member, lower, upper⟩
        obtain rfl : place = address := Nat.le_antisymm upper lower
        exact ⟨name, member, rfl⟩
  | cons command rest induction =>
      rw [listed, declarations_labels, List.mem_append, List.mem_map, commandEntry, declarations,
        List.mem_append, List.length_cons]
      have behind : (name, place) ∈ declarations (address + 1) (listed labelsAt (address + 1) rest) ↔
          name ∈ labelsAt place ∧ address + 1 ≤ place ∧ place ≤ address + 1 + rest.length :=
        induction
      constructor
      · rintro (⟨_, member, same⟩ | here | later)
        · obtain ⟨rfl, rfl⟩ := Prod.mk.inj same
          exact ⟨member, Nat.le_refl _, Nat.le_add_right _ _⟩
        · cases here
        · obtain ⟨member, lower, upper⟩ := behind.mp later
          exact ⟨member, by omega, by omega⟩
      · rintro ⟨member, lower, upper⟩
        by_cases here : place = address
        · subst here
          exact .inl ⟨name, member, rfl⟩
        · exact .inr (.inr (behind.mpr ⟨member, by omega, by omega⟩))

theorem mem_listed {address : Nat} {listing : List Command} {entry : Bytes × Clause}
    (member : entry ∈ listed labelsAt address listing) :
    (∃ place, ∃ name ∈ labelsAt place, entry = labelEntry name) ∨
      ∃ command ∈ listing, entry = commandEntry command := by
  induction listing generalizing address with
  | nil =>
      obtain ⟨name, here, rfl⟩ := List.mem_map.mp member
      exact .inl ⟨address, name, here, rfl⟩
  | cons command rest induction =>
      rcases List.mem_append.mp member with isLabel | later
      · obtain ⟨name, here, rfl⟩ := List.mem_map.mp isLabel
        exact .inl ⟨address, name, here, rfl⟩
      · rcases List.mem_cons.mp later with rfl | behind
        · exact .inr ⟨command, List.mem_cons_self, rfl⟩
        · rcases induction behind with label | ⟨other, inRest, rfl⟩
          · exact .inl label
          · exact .inr ⟨other, List.mem_cons_of_mem command inRest, rfl⟩

/-- Where no line is an equate, each is read under the equates of the whole. -/
theorem reads_of_statements {literal : Table Bytes → Bytes → Int32 → Prop} {equates : Table Bytes}
    {transcript : Transcript}
    (statements : ∀ entry ∈ transcript, ∃ labels command,
      entry.2 = .statement labels command ∧ entry.2.Reads (literal equates) equates entry.1) :
    transcript.Reads literal equates := by
  induction transcript with
  | nil => exact .nil
  | cons entry rest induction =>
      obtain ⟨line, clause⟩ := entry
      obtain ⟨labels, command, shape, reads⟩ := statements (line, clause) List.mem_cons_self
      obtain rfl : clause = .statement labels command := shape
      refine .cons reads nofun ?_
      exact induction fun other member => statements other (List.mem_cons_of_mem _ member)

end Transcript

theorem mapM_eq_some_of_map {α β : Type} {f : α → Option β} {items : List α} {results : List β}
    (each : items.map f = results.map some) : items.mapM f = some results := by
  induction items generalizing results with
  | nil =>
      obtain rfl : results = [] := List.map_eq_nil_iff.mp each.symm
      rfl
  | cons item rest induction =>
      cases results with
      | nil => cases each
      | cons result others =>
          obtain ⟨here, later⟩ := List.cons.inj each
          rw [List.mapM_cons, here, induction later]
          rfl

namespace Transcript.Describes

variable {transcript : Transcript} {program : Program}
variable {literal : Table Bytes → Bytes → Int32 → Prop} {predefined : Table Bytes}

theorem placeAt? (describes : transcript.Describes program) (address : Nat) :
    program.placeAt? address =
      transcript.commands[address]?.map fun command => some (command.resolve program.registers) := by
  have same := congrArg (fun places => places[address]?) describes.map_instruction
  rw [List.getElem?_map, List.getElem?_map, Array.getElem?_toList] at same
  exact same

/-- The texts of the lines from an address on. -/
theorem map_text?_from (describes : transcript.Describes program) {before behind : List Command}
    (split : transcript.commands = before ++ behind) :
    ((List.range' before.length (behind.length + 1)).flatMap fun address =>
        (program.labelsAt address).map Program.Line.label ++
          ((program.placeAt? address).map (Program.Line.place address)).toList).map
        (Program.Line.text? program) =
      (lines (listed program.labelsAt before.length behind)).map some := by
  -- An address is the number of commands before it.
  induction behind generalizing before with
  | nil =>
      have absent : program.placeAt? before.length = none := by
        rw [describes.placeAt?, split]
        simp
      simp [absent, listed, lines, labelEntry, declaration, Program.Line.text?]
  | cons command rest induction =>
      have here : program.placeAt? before.length =
          some (some (command.resolve program.registers)) := by
        rw [describes.placeAt?, split]
        simp
      have member : command ∈ transcript.commands := by
        rw [split]
        exact List.mem_append_right before List.mem_cons_self
      have text : program.format (command.resolve program.registers) =
          command.keyword.name ++ Source.operandText command.operands :=
        Command.format_resolve fun name => describes.mem_registers_of_command member
      have later := induction (split.trans (List.append_cons before command rest))
      rw [List.length_append, List.length_singleton] at later
      rw [List.length_cons, List.range'_succ, List.flatMap_cons, List.map_append, later, here]
      simp [listed, lines, labelEntry, commandEntry, declaration, Program.Line.text?, text,
        Command.line]

theorem listing?_eq (describes : transcript.Describes program) :
    program.listing? =
      some ((lines (listed program.labelsAt 0 transcript.commands)).flatMap
        fun line => line ++ [byte '\n']) := by
  have size : program.size = transcript.commands.length := by
    rw [Program.size, ← Array.length_toList, describes.opcodes, length_opcodes]
  have texts := describes.map_text?_from (List.nil_append transcript.commands).symm
  rw [Program.listing?, Program.lines, Program.addresses, List.range_eq_range', size]
  rw [List.length_nil] at texts
  rw [mapM_eq_some_of_map texts]
  rfl

theorem isIdentifier_of_mem_labelsAt (describes : transcript.Describes program)
    (reads : transcript.Reads literal predefined) {address : Nat} {name : Bytes}
    (member : name ∈ program.labelsAt address) : Bytes.isIdentifier name = true := by
  have found := Program.mem_labelsAt_iff.mp member
  apply reads.isIdentifier_of_mem_labels
  exact describes.contains_iff.mp (Table.contains_eq_true_iff.mpr ⟨_, found⟩)

/-- Every line of a listing is read as what it was written for. -/
theorem entry_of_mem_listed [Evaluator] (describes : transcript.Describes program)
    (reads : transcript.Reads literal predefined) {entry : Bytes × Clause}
    (member : entry ∈ listed program.labelsAt 0 transcript.commands) :
    Source.IsLineText entry.1 ∧ ∃ labels command, entry.2 = .statement labels command ∧
      entry.2.Reads (Denotes Table.empty) Table.empty entry.1 := by
  rcases mem_listed member with ⟨address, name, isLabel, rfl⟩ | ⟨command, isCommand, rfl⟩
  · have identifier := describes.isIdentifier_of_mem_labelsAt reads isLabel
    exact ⟨(Source.isWord_declaration identifier).isLineText, [name], none, rfl,
      Clause.reads_declaration identifier⟩
  · obtain ⟨_, _, _, commandReads⟩ := reads.command isCommand
    exact ⟨commandReads.isLineText_line, [], some command, rfl, Clause.reads_line commandReads⟩

theorem nodup_labels_listed (program : Program) (listing : List Command) :
    (labels (listed program.labelsAt 0 listing)).Nodup := by
  rw [labels_listed, List.nodup_flatMap]
  refine ⟨fun address _ => program.nodup_labelsAt address, ?_⟩
  refine (List.pairwise_lt_range' 1 Nat.one_pos).imp fun {first second} before => ?_
  intro name inFirst inSecond
  -- A label has one address, so no two addresses share it.
  have same := (Program.mem_labelsAt_iff.mp inFirst).symm.trans
    (Program.mem_labelsAt_iff.mp inSecond)
  have equal : first = second := Int.ofNat_inj.mp (Option.some.inj same)
  omega

theorem declarations_listed_iff (describes : transcript.Describes program) {name : Bytes}
    {address : Nat} :
    (name, address) ∈ declarations 0 (listed program.labelsAt 0 transcript.commands) ↔
      program.label? name = some (address : Int) := by
  rw [mem_declarations_listed, Program.mem_labelsAt_iff]
  refine ⟨fun both => both.1, fun found => ⟨found, Nat.zero_le _, ?_⟩⟩
  obtain ⟨place, same, declared⟩ := (describes.label? name address).mp found
  obtain ⟨count, _, _, _, _, rfl⟩ := mem_declarations_iff.mp declared
  have sublist : (commands (transcript.take count)).Sublist transcript.commands :=
    (List.take_sublist count transcript).filterMap _
  have shorter := sublist.length_le
  omega

theorem linked_listed (describes : transcript.Describes program) (linked : transcript.Linked) :
    Linked (listed program.labelsAt 0 transcript.commands) := by
  intro command member name target
  rw [commands_listed] at member
  obtain ⟨address, declared⟩ := mem_labels_iff.mp (linked command member name target)
  have found := (describes.label? name address).mpr ⟨address, rfl, declared⟩
  exact mem_labels_iff.mpr ⟨address, describes.declarations_listed_iff.mpr found⟩

/-- A program with the transcript of a listing is the program of the listing. -/
theorem same_of_listed (describes : transcript.Describes program) {again : Program}
    (describesAgain : Describes (listed program.labelsAt 0 transcript.commands) again) :
    again.opcodes.toList.map Opcode.instruction = program.opcodes.toList.map Opcode.instruction ∧
      again.registers = program.registers ∧
      ∀ name, again.label? name = program.label? name := by
  have registers : again.registers = program.registers := by
    rw [describesAgain.registers, describes.registers, names, commands_listed]
    rfl
  refine ⟨?_, registers, ?_⟩
  · rw [describesAgain.map_instruction, describes.map_instruction, commands_listed, registers]
  · intro name
    ext value
    rw [describesAgain.label?]
    constructor
    · rintro ⟨address, rfl, declared⟩
      exact describes.declarations_listed_iff.mp declared
    · intro found
      obtain ⟨address, rfl, _⟩ := (describes.label? name value).mp found
      exact ⟨address, rfl, describes.declarations_listed_iff.mpr found⟩

variable [Evaluator]

/-- The first lines of a listing can be added one after the other. -/
theorem reads_listed (describes : transcript.Describes program)
    (reads : transcript.Reads literal predefined) {front : Transcript}
    (first : front <+: listed program.labelsAt 0 transcript.commands) :
    front.Reads Denotes Table.empty ∧ front.labels.Nodup := by
  refine ⟨reads_of_statements fun entry member => ?_, ?_⟩
  · exact (describes.entry_of_mem_listed reads (first.subset member)).2
  · obtain ⟨rest, whole⟩ := first
    have nodup := nodup_labels_listed program transcript.commands
    rw [← whole, labels_append] at nodup
    exact nodup.of_append_left

theorem isLineText_of_mem_listed (describes : transcript.Describes program)
    (reads : transcript.Reads literal predefined) {line : Bytes}
    (member : line ∈ lines (listed program.labelsAt 0 transcript.commands)) :
    Source.IsLineText line := by
  obtain ⟨entry, here, rfl⟩ := List.mem_map.mp member
  exact (describes.entry_of_mem_listed reads here).1

theorem rawLines_listing (describes : transcript.Describes program)
    (reads : transcript.Reads literal predefined) {listing : Bytes}
    (written : program.listing? = some listing) :
    Source.rawLines listing = lines (listed program.labelsAt 0 transcript.commands) := by
  obtain rfl := Option.some.inj (describes.listing?_eq.symm.trans written)
  exact Source.rawLines_flatMap fun line member =>
    (describes.isLineText_of_mem_listed reads member).1

/-- The lines of a listing that are read: all of them up to one that is too long. -/
theorem lines_listing (describes : transcript.Describes program)
    (reads : transcript.Reads literal predefined) {listing : Bytes}
    (written : program.listing? = some listing) :
    Source.lines listing =
      lines ((listed program.labelsAt 0 transcript.commands).takeWhile
        fun entry => Source.isShort entry.1) := by
  rw [Source.lines, describes.rawLines_listing reads written]
  have kept : ∀ line ∈ (lines (listed program.labelsAt 0 transcript.commands)).takeWhile
      Source.isShort, Source.dropReturn line = line := by
    intro line member
    have inListing := (List.takeWhile_sublist Source.isShort).mem member
    exact Source.dropReturn_eq_self (describes.isLineText_of_mem_listed reads inListing).2
  rw [(List.map_congr_left kept).trans (List.map_id' _), lines, List.takeWhile_map]
  rfl

theorem lines_listing_of_isReadable (describes : transcript.Describes program)
    (reads : transcript.Reads literal predefined) {listing : Bytes}
    (written : program.listing? = some listing) (readable : Source.isReadable listing = true) :
    Source.lines listing = lines (listed program.labelsAt 0 transcript.commands) := by
  have short : ∀ entry ∈ listed program.labelsAt 0 transcript.commands,
      Source.isShort entry.1 = true := by
    intro entry member
    rw [Source.isReadable, describes.rawLines_listing reads written, List.all_eq_true] at readable
    exact readable entry.1 (List.mem_map_of_mem member)
  rw [describes.lines_listing reads written, List.takeWhile_eq_self_iff.mpr short]

theorem parse_of_short (describes : transcript.Describes program)
    (reads : transcript.Reads literal predefined) (linked : transcript.Linked) {listing : Bytes}
    (written : program.listing? = some listing) (readable : Source.isReadable listing = true) :
    ∃ again, (fresh.parse listing).2 = .ok again ∧
      Describes (listed program.labelsAt 0 transcript.commands) again := by
  have lines := describes.lines_listing_of_isReadable reads written readable
  obtain ⟨readsAgain, nodup⟩ := describes.reads_listed reads List.prefix_rfl
  exact assemble_of_transcript readable lines.symm readsAgain nodup (describes.linked_listed linked)

theorem parse_of_long (describes : transcript.Describes program)
    (reads : transcript.Reads literal predefined) {listing : Bytes}
    (written : program.listing? = some listing) (readable : Source.isReadable listing = false) :
    ∃ error, (fresh.parse listing).2 = .error (.rejected error) ∧ error.cause = .lineTooLong := by
  obtain ⟨readsAgain, nodup⟩ := describes.reads_listed reads (List.takeWhile_prefix _)
  exact ⟨_, assemble_of_too_long readable (describes.lines_listing reads written).symm readsAgain
    nodup, rfl⟩

end Transcript.Describes

/-- The listing of an assembled program is assembled to the same instructions, registers and labels,
unless one of its lines is too long to be read. -/
theorem parse_listing [Evaluator] {assembler : Assembler} {source : Bytes} {program : Program}
    (assembled : (assembler.parse source).2 = .ok program) :
    ∃ listing, program.listing? = some listing ∧
      ((∀ line ∈ Source.rawLines listing, line.length < 65536) →
        ∃ again, (fresh.parse listing).2 = .ok again ∧
          again.opcodes.toList.map Opcode.instruction =
            program.opcodes.toList.map Opcode.instruction ∧
          again.registers = program.registers ∧
          ∀ name, again.label? name = program.label? name) ∧
      ((∃ line ∈ Source.rawLines listing, 65536 ≤ line.length) →
        ∃ error, (fresh.parse listing).2 = .error (.rejected error) ∧
          error.cause = .lineTooLong) := by
  obtain ⟨_, transcript, _, reads, _, linked, describes⟩ := transcript_of_assemble assembled
  have written := describes.listing?_eq
  refine ⟨_, written, ?_, ?_⟩
  · intro short
    obtain ⟨again, assembledAgain, describesAgain⟩ :=
      describes.parse_of_short reads linked written (Source.isReadable_iff.mpr short)
    exact ⟨again, assembledAgain, describes.same_of_listed describesAgain⟩
  · rintro ⟨line, member, long⟩
    apply describes.parse_of_long reads written
    rw [Bool.eq_false_iff]
    intro readable
    have short : line.length < 65536 := Source.isReadable_iff.mp readable line member
    omega

/-- The value of an expression is listed, and so is a text with a byte that is no character. -/
theorem parse_listing_text :
    ∃ program listing again,
      (fresh.parse (utf8 "go: mov a, $(6*7)\nprint \"\\xff;\\n\"\nloop a, go")).2 = .ok program ∧
        program.listing? = some listing ∧ (fresh.parse listing).2 = .ok again ∧
        again.registers = program.registers ∧
        ∀ name, again.label? name = program.label? name := by
  obtain ⟨program, assembled⟩ : ∃ program, (fresh.parse
      (utf8 "go: mov a, $(6*7)\nprint \"\\xff;\\n\"\nloop a, go")).2 = .ok program :=
    exists_of_isOk (by decide +kernel)
  obtain ⟨listing, written, short, _⟩ := parse_listing assembled
  have readable : ((fresh.parse
      (utf8 "go: mov a, $(6*7)\nprint \"\\xff;\\n\"\nloop a, go")).2.toOption.bind
        Program.listing?).all Source.isReadable = true := by
    decide +kernel
  rw [assembled, Except.toOption, Option.bind_some, written] at readable
  obtain ⟨again, assembledAgain, _, registers, labels⟩ := short (Source.isReadable_iff.mp readable)
  exact ⟨program, listing, again, assembled, written, assembledAgain, registers, labels⟩

end Assembler

end RegisterMachine
