import RegisterMachine.Program

/-! Two presentations of a program: as lines of source text, and as an outline of blocks. -/

namespace RegisterMachine.Program

def labelsAt (program : Program) (address : Nat) : List Bytes :=
  Bytes.sort ((program.labels.entries.filter fun entry => entry.2 == (address : Int)).map Prod.fst)

def addresses (program : Program) : List Nat :=
  List.range (program.size + 1)

inductive Line where
  | label (name : Bytes)
  | place (address : Nat) (instruction : Option Instruction)
  deriving DecidableEq, Repr

def placeAt? (program : Program) (address : Nat) : Option (Option Instruction) :=
  program.opcodes[address]?.map Opcode.instruction

/-- The lines of a program: at each address its labels, then its instruction. -/
def lines (program : Program) : List Line :=
  program.addresses.flatMap fun address =>
    (program.labelsAt address).map Line.label ++
      ((program.placeAt? address).map (Line.place address)).toList

def Line.text? (program : Program) : Line → Option Bytes
  | .label name => some (name ++ [byte ':'])
  | .place _ instruction => instruction.map fun found => byte '\t' :: program.format found

def listing? (program : Program) : Option Bytes :=
  (program.lines.mapM (Line.text? program)).map fun lines =>
    lines.flatMap fun line => line ++ [byte '\n']

/-- The instructions from a labelled address up to the next one. -/
structure Block where
  labels : List Bytes
  body : List (Nat × Option Instruction)
  deriving DecidableEq, Repr

/-- The instructions before the first labelled address, then the blocks. -/
structure Outline where
  lead : List (Nat × Option Instruction)
  blocks : List Block
  deriving DecidableEq, Repr

def Outline.add (program : Program) (address : Nat) (outline : Outline) : Outline :=
  let lead :=
    match program.placeAt? address with
    | some instruction => (address, instruction) :: outline.lead
    | none => outline.lead
  match program.labelsAt address with
  | [] => { outline with lead }
  | labels => { lead := [], blocks := { labels, body := lead } :: outline.blocks }

def outline (program : Program) : Outline :=
  program.addresses.foldr (Outline.add program) { lead := [], blocks := [] }

inductive Tree where
  | node (title : Bytes) (children : List Tree)

def Tree.leaf (title : Bytes) : Tree :=
  .node title []

def itemTitle? (program : Program) (item : Nat × Option Instruction) : Option Bytes :=
  item.2.map fun instruction =>
    Text.Decimal.ofNat item.1 ++ utf8 ": " ++ program.format instruction

def Block.title (block : Block) : Bytes :=
  (utf8 ": ").intercalate block.labels ++ [byte ':']

def Block.tree? (program : Program) (block : Block) : Option Tree :=
  (block.body.mapM program.itemTitle?).map fun titles =>
    .node block.title (titles.map Tree.leaf)

def tree? (program : Program) : Option Tree :=
  match program.outline.lead.mapM program.itemTitle?,
      program.outline.blocks.mapM (Block.tree? program) with
  | some lead, some blocks => some (.node (utf8 "program") (lead.map Tree.leaf ++ blocks))
  | _, _ => none

end RegisterMachine.Program
