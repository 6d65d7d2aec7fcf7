import RegisterMachine.Proofs.Program.Listing

/-! The two presentations of a program. Its lines and its tree both show every instruction once, in the
order of addresses, and every label whose address the program has; walked through from the top, the tree
shows them in the order of the lines. -/

namespace RegisterMachine

namespace Bytes

theorem pairwise_sort (names : List Bytes) : (sort names).Pairwise (· ≤ ·) := by
  have transitive : ∀ a b c : Bytes, decide (a ≤ b) = true → decide (b ≤ c) = true →
      decide (a ≤ c) = true := by
    intro a b c first second
    exact decide_eq_true (List.le_trans (of_decide_eq_true first) (of_decide_eq_true second))
  have total : ∀ a b : Bytes, (decide (a ≤ b) || decide (b ≤ a)) = true := by
    intro a b
    simpa using List.le_total a b
  exact (List.pairwise_mergeSort transitive total names).imp of_decide_eq_true

theorem sort_eq_of_perm {names sorted : List Bytes} (perm : names.Perm sorted)
    (ordered : sorted.Pairwise (· ≤ ·)) : sort names = sorted := by
  apply List.Perm.eq_of_pairwise _ (pairwise_sort names) ordered
  · exact (List.mergeSort_perm names _).trans perm
  · intro a b _ _ lower upper
    exact List.le_antisymm lower upper

/-- Names are sorted alike in whatever order they are given. -/
theorem sort_of_perm {names others : List Bytes} (perm : names.Perm others) :
    sort names = sort others :=
  sort_eq_of_perm (perm.trans (List.mergeSort_perm others _).symm) (pairwise_sort others)

end Bytes

namespace Program

theorem pairwise_labelsAt (program : Program) (address : Nat) :
    (program.labelsAt address).Pairwise (· < ·) := by
  have sorted : (program.labelsAt address).Pairwise (· ≤ ·) := Bytes.pairwise_sort _
  exact (sorted.and (program.nodup_labelsAt address)).imp fun both =>
    Std.lt_of_le_of_ne both.1 both.2

def Line.place? : Line → Option (Nat × Instruction)
  | .label _ => none
  | .place address instruction => instruction.map fun found => (address, found)

/-- How a line reads: a label with a colon behind it, an instruction set in by a tab. -/
inductive Line.Shows (program : Program) : Line → Bytes → Prop
  | label (name : Bytes) : Shows program (.label name) (name ++ utf8 ":")
  | place (address : Nat) (instruction : Instruction) :
      Shows program (.place address (some instruction)) (utf8 "\t" ++ program.format instruction)

/-- The labels that lines declare, each with the number of instructions before it, where `address`
instructions lie before the lines. -/
def declarations : Nat → List Line → List (Bytes × Nat)
  | _, [] => []
  | address, .label name :: rest => (name, address) :: declarations address rest
  | address, .place _ _ :: rest => declarations (address + 1) rest

def placed (instructions : List Instruction) : List (Nat × Instruction) :=
  instructions.zipIdx.map Prod.swap

/-- The labelled addresses of a program from one on. -/
def labelledFrom (program : Program) (start : Nat) : List Nat :=
  (List.range' start (program.size + 1 - start)).filter fun address =>
    !(program.labelsAt address).isEmpty

/-- The next labelled address from one on, or the end of the program. -/
def nextLabelled (program : Program) (start : Nat) : Nat :=
  (program.labelledFrom start).headD program.size

/-- What the title of a node stands for: the labels of an address, or an instruction. -/
inductive Entry where
  | labels (address : Nat)
  | place (address : Nat) (instruction : Instruction)

namespace Entry

def title (program : Program) : Entry → Bytes
  | labels address => (utf8 ": ").intercalate (program.labelsAt address) ++ [byte ':']
  | place address instruction =>
      (toString address).toList.map byte ++ utf8 ": " ++ program.format instruction

def lines (program : Program) : Entry → List Line
  | labels address => (program.labelsAt address).map Line.label
  | place address instruction => [.place address (some instruction)]

def ofItem (item : Nat × Instruction) : Entry :=
  .place item.1 item.2

end Entry

mutual

/-- The titles of a tree: its own, then those below it from the first to the last. -/
def Tree.titles : Tree → List Bytes
  | .node title children => title :: Tree.titlesOfAll children

def Tree.titlesOfAll : List Tree → List Bytes
  | [] => []
  | tree :: rest => tree.titles ++ Tree.titlesOfAll rest

end

/-- The instructions from one address up to another, as blocks hold them. -/
def bodyBetween (instructions : List Instruction) (first last : Nat) :
    List (Nat × Option Instruction) :=
  ((placed instructions).extract first last).map fun item => (item.1, some item.2)

section Labels

variable (program : Program)

theorem mem_labelledFrom_iff {start address : Nat} :
    address ∈ program.labelledFrom start ↔
      start ≤ address ∧ address ≤ program.size ∧ program.labelsAt address ≠ [] := by
  simp only [labelledFrom, List.mem_filter, List.mem_range'_1, Bool.not_eq_true',
    List.isEmpty_eq_false_iff]
  constructor
  · rintro ⟨⟨lower, upper⟩, labelled⟩
    exact ⟨lower, by omega, labelled⟩
  · rintro ⟨lower, upper, labelled⟩
    exact ⟨⟨lower, by omega⟩, labelled⟩

theorem pairwise_labelledFrom (start : Nat) : (program.labelledFrom start).Pairwise (· < ·) :=
  (List.pairwise_lt_range' 1 Nat.one_pos).filter _

variable {program} {start : Nat}

theorem labelledFrom_of_lt (outside : program.size < start) : program.labelledFrom start = [] := by
  rw [labelledFrom, Nat.sub_eq_zero_of_le outside]
  rfl

theorem labelledFrom_of_le (inside : start ≤ program.size) :
    program.labelledFrom start =
      if program.labelsAt start = [] then program.labelledFrom (start + 1)
      else start :: program.labelledFrom (start + 1) := by
  have count : program.size + 1 - start = program.size + 1 - (start + 1) + 1 := by omega
  rw [labelledFrom, count, List.range'_succ, List.filter_cons, labelledFrom]
  by_cases unlabelled : program.labelsAt start = []
  · simp [unlabelled]
  · simp [unlabelled]

theorem nextLabelled_of_unlabelled (inside : start ≤ program.size)
    (unlabelled : program.labelsAt start = []) :
    program.nextLabelled start = program.nextLabelled (start + 1) := by
  rw [nextLabelled, labelledFrom_of_le inside, if_pos unlabelled, nextLabelled]

theorem nextLabelled_of_labelled (inside : start ≤ program.size)
    (labelled : program.labelsAt start ≠ []) : program.nextLabelled start = start := by
  rw [nextLabelled, labelledFrom_of_le inside, if_neg labelled, List.headD_cons]

theorem le_nextLabelled (inside : start ≤ program.size) : start ≤ program.nextLabelled start := by
  rw [nextLabelled]
  cases found : program.labelledFrom start with
  | nil => exact inside
  | cons address rest =>
      have member : address ∈ program.labelledFrom start := by
        rw [found]
        exact List.mem_cons_self
      exact (program.mem_labelledFrom_iff.mp member).1

end Labels

section Bodies

variable {instructions : List Instruction}

theorem getElem?_placed (address : Nat) :
    (placed instructions)[address]? = instructions[address]?.map fun found => (address, found) := by
  rw [placed, List.getElem?_map, List.getElem?_zipIdx, Option.map_map, Nat.zero_add]
  rfl

theorem bodyBetween_self (address : Nat) : bodyBetween instructions address address = [] := by
  simp [bodyBetween, List.extract_eq_take_drop]

theorem bodyBetween_of_none {first : Nat} (absent : instructions[first]? = none) (last : Nat) :
    bodyBetween instructions first last = [] := by
  have short : (placed instructions).length ≤ first := by
    rw [← List.getElem?_eq_none_iff, getElem?_placed, absent]
    rfl
  simp [bodyBetween, List.extract_eq_take_drop, List.drop_eq_nil_of_le short]

theorem bodyBetween_of_some {first last : Nat} {instruction : Instruction}
    (found : instructions[first]? = some instruction) (before : first < last) :
    bodyBetween instructions first last =
      (first, some instruction) :: bodyBetween instructions (first + 1) last := by
  have here : (placed instructions)[first]? = some (first, instruction) := by
    rw [getElem?_placed, found]
    rfl
  obtain ⟨inside, same⟩ := List.getElem?_eq_some_iff.mp here
  have count : last - first = last - (first + 1) + 1 := by omega
  rw [bodyBetween, List.extract_eq_take_drop, List.drop_eq_getElem_cons inside, same, count,
    List.take_succ_cons, List.map_cons, bodyBetween, List.extract_eq_take_drop]

end Bodies

section Filled

variable {program : Program} {instructions : List Instruction}
variable (filled : program.opcodes.toList.map Opcode.instruction = instructions.map some)

include filled

theorem size_of_filled : program.size = instructions.length := by
  have lengths := congrArg List.length filled
  rwa [List.length_map, List.length_map, Array.length_toList] at lengths

theorem placeAt?_of_filled (address : Nat) :
    program.placeAt? address = instructions[address]?.map some := by
  have same := congrArg (fun places => places[address]?) filled
  simp only [List.getElem?_map, Array.getElem?_toList] at same
  exact same

end Filled

section Lines

/-- The lines of instructions from an address on, the labels of each address before it. -/
def linesFrom (program : Program) : Nat → List Instruction → List Line
  | address, [] => (program.labelsAt address).map Line.label
  | address, instruction :: rest =>
      (program.labelsAt address).map Line.label ++
        .place address (some instruction) :: program.linesFrom (address + 1) rest

variable {program : Program}

theorem lines_eq_linesFrom {instructions : List Instruction}
    (filled : program.opcodes.toList.map Opcode.instruction = instructions.map some) :
    program.lines = program.linesFrom 0 instructions := by
  -- An address is the number of instructions before it.
  have each : ∀ {before behind : List Instruction}, instructions = before ++ behind →
      ((List.range' before.length (behind.length + 1)).flatMap fun address =>
        (program.labelsAt address).map Line.label ++
          ((program.placeAt? address).map (Line.place address)).toList) =
      program.linesFrom before.length behind := by
    intro before behind split
    induction behind generalizing before with
    | nil =>
        have absent : program.placeAt? before.length = none := by
          rw [placeAt?_of_filled filled, split]
          simp
        simp [absent, linesFrom]
    | cons instruction rest induction =>
        have here : program.placeAt? before.length = some (some instruction) := by
          rw [placeAt?_of_filled filled, split]
          simp
        have later := induction (split.trans (List.append_cons before instruction rest))
        rw [List.length_append, List.length_singleton] at later
        rw [List.length_cons, List.range'_succ, List.flatMap_cons, later, here, linesFrom]
        simp
  have whole := each (List.nil_append instructions).symm
  rw [lines, addresses, List.range_eq_range', size_of_filled filled]
  exact whole

theorem filterMap_place?_labels (names : List Bytes) (rest : List Line) :
    (names.map Line.label ++ rest).filterMap Line.place? = rest.filterMap Line.place? := by
  rw [List.filterMap_append, List.filterMap_map]
  have nothing : names.filterMap (Line.place? ∘ Line.label) = [] :=
    List.filterMap_eq_nil_iff.mpr fun _ _ => rfl
  rw [nothing, List.nil_append]

theorem filterMap_place?_linesFrom (address : Nat) (instructions : List Instruction) :
    (program.linesFrom address instructions).filterMap Line.place? =
      (instructions.zipIdx address).map Prod.swap := by
  induction instructions generalizing address with
  | nil =>
      have only := filterMap_place?_labels (program.labelsAt address) []
      rwa [List.append_nil] at only
  | cons instruction rest induction =>
      have here : Line.place? (.place address (some instruction)) = some (address, instruction) := rfl
      rw [linesFrom, filterMap_place?_labels, List.filterMap_cons_some here, induction,
        List.zipIdx_cons]
      rfl

theorem declarations_labels (address : Nat) (names : List Bytes) (rest : List Line) :
    declarations address (names.map Line.label ++ rest) =
      names.map (fun name => (name, address)) ++ declarations address rest := by
  induction names with
  | nil => rfl
  | cons name others induction =>
      rw [List.map_cons, List.cons_append, declarations, induction]
      rfl

theorem declarations_linesFrom (address : Nat) (instructions : List Instruction) :
    declarations address (program.linesFrom address instructions) =
      (List.range' address (instructions.length + 1)).flatMap fun place =>
        (program.labelsAt place).map fun name => (name, place) := by
  induction instructions generalizing address with
  | nil =>
      have only := declarations_labels address (program.labelsAt address) []
      rw [List.append_nil, declarations, List.append_nil] at only
      rw [linesFrom, only]
      simp
  | cons instruction rest induction =>
      have addresses : List.range' address (rest.length + 1 + 1) =
          address :: List.range' (address + 1) (rest.length + 1) := List.range'_succ
      rw [linesFrom, declarations_labels, declarations, induction, List.length_cons, addresses,
        List.flatMap_cons]

theorem Line.shows_of_text? {line : Line} {text : Bytes} (isText : line.text? program = some text) :
    line.Shows program text := by
  cases line with
  | label name =>
      obtain rfl := Option.some.inj isText
      exact .label name
  | place address instruction =>
      obtain ⟨found, rfl, rfl⟩ := Option.map_eq_some_iff.mp isText
      exact .place address found

theorem exists_texts_linesFrom (program : Program) (address : Nat) (instructions : List Instruction) :
    ∃ texts : List Bytes,
      (program.linesFrom address instructions).map (Line.text? program) = texts.map some := by
  induction instructions generalizing address with
  | nil =>
      refine ⟨(program.labelsAt address).map fun name => name ++ [byte ':'], ?_⟩
      rw [linesFrom, List.map_map, List.map_map]
      rfl
  | cons instruction rest induction =>
      obtain ⟨texts, later⟩ := induction (address + 1)
      refine ⟨((program.labelsAt address).map fun name => name ++ [byte ':']) ++
        (byte '\t' :: program.format instruction) :: texts, ?_⟩
      rw [linesFrom, List.map_append, List.map_cons, later, List.map_append, List.map_map,
        List.map_map]
      rfl

theorem exists_texts {instructions : List Instruction}
    (filled : program.opcodes.toList.map Opcode.instruction = instructions.map some) :
    ∃ texts, program.lines.mapM (Line.text? program) = some texts ∧
      List.Forall₂ (Line.Shows program) program.lines texts := by
  obtain ⟨texts, each⟩ := exists_texts_linesFrom program 0 instructions
  rw [← lines_eq_linesFrom filled] at each
  refine ⟨texts, Assembler.mapM_eq_some_of_map each, ?_⟩
  have read : List.Forall₂ (fun line text => Line.text? program line = some text)
      program.lines texts := by
    rw [← List.forall₂_map_right_iff, ← List.forall₂_map_left_iff, List.forall₂_eq_eq_eq]
    exact each
  exact read.imp fun _ _ => Line.shows_of_text?

end Lines

section Outlines

def Outline.lines (outline : Outline) : List Line :=
  (outline.lead.map fun item => .place item.1 item.2) ++
    outline.blocks.flatMap fun block =>
      block.labels.map .label ++ block.body.map fun item => .place item.1 item.2

/-- An address opens a block if it has labels; its place comes first of what is not in a block yet. -/
theorem Outline.add_eq (program : Program) (address : Nat) (outline : Outline) :
    Outline.add program address outline =
      if program.labelsAt address = [] then
        { lead := ((program.placeAt? address).map fun place => (address, place)).toList ++ outline.lead
          blocks := outline.blocks }
      else
        { lead := []
          blocks :=
            { labels := program.labelsAt address
              body := ((program.placeAt? address).map fun place => (address, place)).toList ++
                outline.lead } :: outline.blocks } := by
  cases place : program.placeAt? address with
  | none => cases labels : program.labelsAt address <;> simp [Outline.add, place, labels]
  | some instruction => cases labels : program.labelsAt address <;> simp [Outline.add, place, labels]

theorem Outline.lines_add (program : Program) (address : Nat) (outline : Outline) :
    (Outline.add program address outline).lines =
      (program.labelsAt address).map .label ++
        ((program.placeAt? address).map (Line.place address)).toList ++ outline.lines := by
  have place : (((program.placeAt? address).map fun place => (address, place)).toList.map
      fun item => Line.place item.1 item.2) =
        ((program.placeAt? address).map (Line.place address)).toList := by
    cases program.placeAt? address with
    | none => rfl
    | some instruction => rfl
  rw [Outline.add_eq]
  by_cases labels : program.labelsAt address = []
  · rw [if_pos labels, labels, Outline.lines, List.map_append, place, List.append_assoc]
    rfl
  · rw [if_neg labels, Outline.lines, List.flatMap_cons, List.map_append, place]
    simp [Outline.lines]

theorem lines_outline (program : Program) : program.outline.lines = program.lines := by
  rw [outline, Program.lines]
  induction program.addresses with
  | nil => rfl
  | cons address rest induction =>
      rw [List.foldr_cons, Outline.lines_add, induction, List.flatMap_cons]

def outlineFrom (program : Program) (instructions : List Instruction) (start : Nat) : Outline where
  lead := bodyBetween instructions start (program.nextLabelled start)
  blocks := (program.labelledFrom start).map fun address =>
    { labels := program.labelsAt address
      body := bodyBetween instructions address (program.nextLabelled (address + 1)) }

variable {program : Program} {instructions : List Instruction}
variable (filled : program.opcodes.toList.map Opcode.instruction = instructions.map some)

include filled

/-- The place of an address comes before what lies behind it, up to the next label. -/
theorem bodyBetween_step (start : Nat) :
    bodyBetween instructions start (program.nextLabelled (start + 1)) =
      ((program.placeAt? start).map fun place => (start, place)).toList ++
        bodyBetween instructions (start + 1) (program.nextLabelled (start + 1)) := by
  have size := size_of_filled filled
  rw [placeAt?_of_filled filled]
  cases found : instructions[start]? with
  | none =>
      have absent : instructions[start + 1]? = none := by
        rw [List.getElem?_eq_none_iff] at found ⊢
        omega
      rw [bodyBetween_of_none found, bodyBetween_of_none absent]
      rfl
  | some instruction =>
      obtain ⟨below, _⟩ := List.getElem?_eq_some_iff.mp found
      rw [← size] at below
      exact bodyBetween_of_some found (le_nextLabelled below)

theorem add_outlineFrom {start : Nat} (inside : start ≤ program.size) :
    Outline.add program start (program.outlineFrom instructions (start + 1)) =
      program.outlineFrom instructions start := by
  rw [Outline.add_eq, outlineFrom, outlineFrom, ← bodyBetween_step filled,
    labelledFrom_of_le inside]
  by_cases labels : program.labelsAt start = []
  · rw [if_pos labels, if_pos labels, nextLabelled_of_unlabelled inside labels]
  · rw [if_neg labels, if_neg labels, nextLabelled_of_labelled inside labels, bodyBetween_self,
      List.map_cons]

theorem outline_eq : program.outline = program.outlineFrom instructions 0 := by
  have size := size_of_filled filled
  -- An outline is built from the end, so the induction is on how many addresses are left.
  have each : ∀ {count start : Nat}, start + count = program.size + 1 →
      (List.range' start count).foldr (Outline.add program) { lead := [], blocks := [] } =
        program.outlineFrom instructions start := by
    intro count start reaches
    induction count generalizing start with
    | zero =>
        have absent : instructions[start]? = none := by
          rw [List.getElem?_eq_none_iff]
          omega
        rw [List.range'_zero, List.foldr_nil, outlineFrom, bodyBetween_of_none absent,
          labelledFrom_of_lt (by omega)]
        rfl
    | succ count induction =>
        rw [List.range'_succ, List.foldr_cons, induction (by omega)]
        exact add_outlineFrom filled (by omega)
  rw [outline, addresses, List.range_eq_range']
  exact each (Nat.zero_add _)

end Outlines

section Trees

def itemTree (program : Program) (item : Nat × Instruction) : Tree :=
  .leaf ((Entry.ofItem item).title program)

def blockTree (program : Program) (instructions : List Instruction) (address : Nat) : Tree :=
  .node ((Entry.labels address).title program)
    (((placed instructions).extract address (program.nextLabelled (address + 1))).map
      program.itemTree)

def wholeTree (program : Program) (instructions : List Instruction) : Tree :=
  .node (utf8 "program")
    (((placed instructions).extract 0 (program.nextLabelled 0)).map program.itemTree ++
      (program.labelledFrom 0).map (program.blockTree instructions))

/-- What the titles below the top of the tree stand for, in their order. -/
def entries (program : Program) (instructions : List Instruction) : List Entry :=
  ((placed instructions).extract 0 (program.nextLabelled 0)).map Entry.ofItem ++
    (program.labelledFrom 0).flatMap fun address =>
      .labels address ::
        ((placed instructions).extract address (program.nextLabelled (address + 1))).map Entry.ofItem

variable {program : Program} {instructions : List Instruction}

theorem mapM_itemTitle?_bodyBetween (first last : Nat) :
    (bodyBetween instructions first last).mapM program.itemTitle? =
      some (((placed instructions).extract first last).map fun item =>
        (Entry.ofItem item).title program) := by
  apply Assembler.mapM_eq_some_of_map
  rw [bodyBetween, List.map_map, List.map_map]
  apply List.map_congr_left
  intro item _
  simp [itemTitle?, Entry.ofItem, Entry.title, Text.Decimal.ofNat_eq_toString]

theorem tree?_eq
    (filled : program.opcodes.toList.map Opcode.instruction = instructions.map some) :
    program.tree? = some (program.wholeTree instructions) := by
  have blocks : (program.outlineFrom instructions 0).blocks.mapM (Block.tree? program) =
      some ((program.labelledFrom 0).map (program.blockTree instructions)) := by
    apply Assembler.mapM_eq_some_of_map
    rw [outlineFrom, List.map_map, List.map_map]
    apply List.map_congr_left
    intro address _
    rw [Function.comp_apply, Block.tree?, mapM_itemTitle?_bodyBetween, Option.map_some, List.map_map]
    rfl
  have lead : (program.outlineFrom instructions 0).lead.mapM program.itemTitle? =
      some (((placed instructions).extract 0 (program.nextLabelled 0)).map fun item =>
        (Entry.ofItem item).title program) := mapM_itemTitle?_bodyBetween 0 _
  simp only [tree?, outline_eq filled, blocks, lead, List.map_map]
  rfl

theorem Tree.titlesOfAll_append (trees others : List Tree) :
    titlesOfAll (trees ++ others) = titlesOfAll trees ++ titlesOfAll others := by
  induction trees with
  | nil => rfl
  | cons tree rest induction =>
      rw [List.cons_append, titlesOfAll, induction, titlesOfAll, List.append_assoc]

theorem titlesOfAll_items (program : Program) (items : List (Nat × Instruction)) :
    Tree.titlesOfAll (items.map program.itemTree) =
      (items.map Entry.ofItem).map (Entry.title program) := by
  induction items with
  | nil => rfl
  | cons item rest induction =>
      rw [List.map_cons, Tree.titlesOfAll, induction]
      rfl

theorem titles_wholeTree (program : Program) (instructions : List Instruction) :
    (program.wholeTree instructions).titles =
      utf8 "program" :: (program.entries instructions).map (Entry.title program) := by
  rw [wholeTree, Tree.titles, Tree.titlesOfAll_append, titlesOfAll_items, entries, List.map_append]
  congr 2
  induction program.labelledFrom 0 with
  | nil => rfl
  | cons address rest induction =>
      rw [List.map_cons, Tree.titlesOfAll, induction, List.flatMap_cons, List.map_append, blockTree,
        Tree.titles, titlesOfAll_items, List.map_cons]

theorem flatMap_lines_ofItem (first last : Nat) :
    (((placed instructions).extract first last).map Entry.ofItem).flatMap (Entry.lines program) =
      (bodyBetween instructions first last).map fun item => .place item.1 item.2 := by
  rw [bodyBetween, List.flatMap_map, List.map_map]
  exact List.flatMap_pure_eq_map _ _

theorem flatMap_lines_entries
    (filled : program.opcodes.toList.map Opcode.instruction = instructions.map some) :
    (program.entries instructions).flatMap (Entry.lines program) = program.lines := by
  rw [← lines_outline, outline_eq filled, Outline.lines, outlineFrom, entries,
    List.flatMap_append, flatMap_lines_ofItem, List.flatMap_map, List.flatMap_assoc]
  congr 1
  apply List.flatMap_congr
  intro address _
  rw [List.flatMap_cons, flatMap_lines_ofItem]
  rfl

theorem labelsAt_ne_nil_of_mem_entries {address : Nat}
    (member : .labels address ∈ program.entries instructions) : program.labelsAt address ≠ [] := by
  have noItem {items : List (Nat × Instruction)} : .labels address ∉ items.map Entry.ofItem := by
    intro found
    obtain ⟨item, _, same⟩ := List.mem_map.mp found
    cases same
  rcases List.mem_append.mp member with inLead | inBlocks
  · exact absurd inLead noItem
  · obtain ⟨start, labelled, inBlock⟩ := List.mem_flatMap.mp inBlocks
    rcases List.mem_cons.mp inBlock with same | inBody
    · obtain rfl := Entry.labels.inj same
      exact (program.mem_labelledFrom_iff.mp labelled).2.2
    · exact absurd inBody noItem

end Trees

section Order

variable {program : Program} {labels : Table Int}
variable (perm : labels.entries.Perm program.labels.entries)

include perm

theorem labelsAt_of_perm :
    ({ program with labels } : Program).labelsAt = program.labelsAt := by
  funext address
  apply Bytes.sort_of_perm
  exact (perm.filter _).map Prod.fst

theorem lines_of_perm : ({ program with labels } : Program).lines = program.lines := by
  rw [lines, labelsAt_of_perm perm]
  rfl

theorem listing?_of_perm : ({ program with labels } : Program).listing? = program.listing? := by
  rw [listing?, lines_of_perm perm]
  rfl

theorem outline_of_perm : ({ program with labels } : Program).outline = program.outline := by
  have add : Outline.add { program with labels } = Outline.add program := by
    funext address outline
    rw [Outline.add_eq, Outline.add_eq, labelsAt_of_perm perm]
    rfl
  rw [outline, add]
  rfl

theorem tree?_of_perm : ({ program with labels } : Program).tree? = program.tree? := by
  rw [tree?, outline_of_perm perm]
  rfl

end Order

/-- How lines list a program: each instruction once in the order of addresses, and the labels of the
addresses that the program has, each before the instruction of its address, those of one address in
their sorting order. The texts are those of the lines. -/
structure IsListedBy (program : Program) (instructions : List Instruction) (lines : List Line)
    (texts : List Bytes) : Prop where
  places : lines.filterMap Line.place? = placed instructions
  labels : ∀ name address, (name, address) ∈ declarations 0 lines ↔
    address ≤ program.size ∧ program.label? name = some (address : Int)
  ordered : (declarations 0 lines).Pairwise fun earlier later =>
    earlier.2 < later.2 ∨ earlier.2 = later.2 ∧ earlier.1 < later.1
  shown : List.Forall₂ (Line.Shows program) lines texts

theorem isListedBy_lines {program : Program} {instructions : List Instruction}
    (filled : program.opcodes.toList.map Opcode.instruction = instructions.map some)
    {texts : List Bytes} (shown : List.Forall₂ (Line.Shows program) program.lines texts) :
    program.IsListedBy instructions program.lines texts := by
  have size := size_of_filled filled
  rw [lines_eq_linesFrom filled] at shown ⊢
  refine ⟨filterMap_place?_linesFrom 0 instructions, ?_, ?_, shown⟩
  · intro name address
    rw [declarations_linesFrom, List.mem_flatMap, ← mem_labelsAt_iff]
    constructor
    · rintro ⟨place, inside, member⟩
      obtain ⟨other, here, same⟩ := List.mem_map.mp member
      obtain ⟨rfl, rfl⟩ := Prod.mk.inj same
      rw [List.mem_range'_1] at inside
      exact ⟨by omega, here⟩
    · rintro ⟨inside, member⟩
      refine ⟨address, ?_, List.mem_map.mpr ⟨name, member, rfl⟩⟩
      rw [List.mem_range'_1]
      omega
  · rw [declarations_linesFrom, List.pairwise_flatMap]
    constructor
    · intro address _
      rw [List.pairwise_map]
      exact (program.pairwise_labelsAt address).imp fun less => .inr ⟨rfl, less⟩
    · apply (List.pairwise_lt_range' 1 Nat.one_pos).imp
      intro first second less earlier inFirst later inSecond
      obtain ⟨_, _, rfl⟩ := List.mem_map.mp inFirst
      obtain ⟨_, _, rfl⟩ := List.mem_map.mp inSecond
      exact .inl less

/-- The lines and the tree of a program without empty places. Both show all of it, the lines with a text
each, the tree in blocks that start at the labelled addresses; the titles of the tree, taken from the
top, stand for the lines in their order; and in which order the labels are kept has no part in either. -/
theorem presentations_agree {program : Program} {instructions : List Instruction}
    (filled : program.opcodes.toList.map Opcode.instruction = instructions.map some) :
    (∃ texts, program.lines.mapM (Line.text? program) = some texts ∧
      program.listing? = some (texts.flatMap fun text => text ++ utf8 "\n") ∧
      program.IsListedBy instructions program.lines texts) ∧
    program.tree? = some (program.wholeTree instructions) ∧
    (∀ address, (program.labelsAt address).Pairwise (· < ·) ∧
      ∀ name, name ∈ program.labelsAt address ↔ program.label? name = some (address : Int)) ∧
    ((program.labelledFrom 0).Pairwise (· < ·) ∧
      ∀ address, address ∈ program.labelledFrom 0 ↔
        address ≤ program.size ∧ ∃ name, program.label? name = some (address : Int)) ∧
    (∃ entries : List Entry,
      (program.wholeTree instructions).titles =
        utf8 "program" :: entries.map (Entry.title program) ∧
      entries.flatMap (Entry.lines program) = program.lines ∧
      ∀ address, .labels address ∈ entries → program.labelsAt address ≠ []) ∧
    ∀ labels : Table Int, labels.entries.Perm program.labels.entries →
      ({ program with labels } : Program).lines = program.lines ∧
      ({ program with labels } : Program).listing? = program.listing? ∧
      ({ program with labels } : Program).tree? = program.tree? := by
  refine ⟨?_, tree?_eq filled, ?_, ⟨program.pairwise_labelledFrom 0, ?_⟩, ?_, ?_⟩
  · obtain ⟨texts, read, shown⟩ := exists_texts filled
    exact ⟨texts, read, by rw [listing?, read, Option.map_some]; rfl, isListedBy_lines filled shown⟩
  · exact fun address => ⟨program.pairwise_labelsAt address, fun name => mem_labelsAt_iff⟩
  · intro address
    simp only [mem_labelledFrom_iff, ← mem_labelsAt_iff, Nat.zero_le, true_and]
    apply and_congr_right
    intro _
    constructor
    · exact List.exists_mem_of_ne_nil _
    · exact fun labelled => labelled.elim fun _ => List.ne_nil_of_mem
  · exact ⟨program.entries instructions, titles_wholeTree program instructions,
      flatMap_lines_entries filled, fun address => labelsAt_ne_nil_of_mem_entries⟩
  · exact fun labels perm => ⟨lines_of_perm perm, listing?_of_perm perm, tree?_of_perm perm⟩

/-- Two labels at one address, one at the end, and two that lie outside. -/
def signposted : Program where
  opcodes := #[⟨1, [], some (.registerNumber (.known .mov) 0 3)⟩, ⟨2, [], some (.bare (.known .ret))⟩]
  registers := [utf8 "a"]
  labels := Table.ofList
    [(utf8 "next", 1), (utf8 "below", -1), (utf8 "end", 2), (utf8 "above", 7), (utf8 "again", 1)]

theorem labelsAt_signposted :
    signposted.labelsAt 0 = [] ∧ signposted.labelsAt 1 = [utf8 "again", utf8 "next"] ∧
      signposted.labelsAt 2 = [utf8 "end"] :=
  ⟨Bytes.sort_eq_of_perm (by decide) (by decide), Bytes.sort_eq_of_perm (by decide) (by decide),
    Bytes.sort_eq_of_perm (by decide) (by decide)⟩

theorem presentations_agree_signposted :
    signposted.listing? = some (utf8 "\tmov a, 3\nagain:\nnext:\n\tret\nend:\n") ∧
    ∃ (tree : Tree) (entries : List Entry), signposted.tree? = some tree ∧
      tree.titles =
        [utf8 "program", utf8 "0: mov a, 3", utf8 "again: next:", utf8 "1: ret", utf8 "end:"] ∧
      tree.titles = utf8 "program" :: entries.map (Entry.title signposted) ∧
      entries.flatMap (Entry.lines signposted) = signposted.lines := by
  have filled : signposted.opcodes.toList.map Opcode.instruction =
      [.registerNumber (.known .mov) 0 3, .bare (.known .ret)].map some := by decide
  obtain ⟨start, middle, last⟩ := labelsAt_signposted
  obtain ⟨⟨texts, _, written, listed⟩, tree, _, _, ⟨entries, titles, lines, _⟩, _⟩ :=
    presentations_agree filled
  refine ⟨?_, _, entries, tree, ?_, titles, lines⟩
  · have shown := listed.shown
    rw [lines_eq_linesFrom filled] at shown
    simp only [linesFrom, start, middle, last, List.map_nil, List.map_cons, List.nil_append,
      List.cons_append, List.forall₂_cons_left_iff, List.forall₂_nil_left_iff] at shown
    obtain ⟨_, _, ⟨⟩, shown, rfl⟩ := shown
    obtain ⟨_, _, ⟨⟩, shown, rfl⟩ := shown
    obtain ⟨_, _, ⟨⟩, shown, rfl⟩ := shown
    obtain ⟨_, _, ⟨⟩, shown, rfl⟩ := shown
    obtain ⟨_, _, ⟨⟩, rfl, rfl⟩ := shown
    exact written
  · have behind : signposted.labelledFrom 2 = [2] ∧ signposted.labelledFrom 3 = [] := by
      rw [labelledFrom_of_le (Nat.le_refl 2), last]
      exact ⟨rfl, rfl⟩
    have labelled : signposted.labelledFrom 0 = [1, 2] := by
      rw [labelledFrom_of_le (by decide), start, labelledFrom_of_le (by decide), middle, behind.1]
      rfl
    rw [titles_wholeTree, Program.entries]
    simp only [nextLabelled, labelled, behind, List.flatMap_cons, List.flatMap_nil, List.map_append,
      List.map_cons, Entry.title, middle, last]
    decide +kernel

end Program

end RegisterMachine
