import RegisterMachine.Instruction
import RegisterMachine.Table
import RegisterMachine.Text.Message

/-! Assembled programs. -/

namespace RegisterMachine

/-- A place of a program: an instruction with the source line it came from. A place can be empty. -/
structure Opcode where
  lineNumber : Int
  line : Bytes
  instruction : Option Instruction
  deriving DecidableEq, Repr

structure Program where
  opcodes : Array Opcode
  registers : List Bytes
  labels : Table Int

def anonymousRegister (register : Int) : Bytes :=
  byte '$' :: Text.Decimal.ofInt register

def missingLabel (name : Bytes) : Bytes :=
  Text.Message.render (utf8 "label %v missing") [.text name]

namespace Program

def empty : Program where
  opcodes := #[]
  registers := []
  labels := Table.empty

def size (program : Program) : Nat :=
  program.opcodes.size

def opcode? (program : Program) (address : Int) : Option Opcode :=
  if 0 ≤ address then program.opcodes[address.toNat]? else none

def registerName (program : Program) (register : Int) : Bytes :=
  if 0 ≤ register then
    program.registers[register.toNat]?.getD (anonymousRegister register)
  else anonymousRegister register

def registerIndex? (program : Program) (name : Bytes) : Option Nat :=
  program.registers.idxOf? name

def hasRegister (program : Program) (register : Int) : Bool :=
  0 ≤ register && register < program.registers.length

def label? (program : Program) (name : Bytes) : Option Int :=
  program.labels.get? name

def format (program : Program) (instruction : Instruction) : Bytes :=
  instruction.format program.registerName

inductive Flaw where
  | empty
  | register
  | label (name : Bytes)
  deriving DecidableEq, Repr

def Flaw.message : Flaw → Bytes
  | .empty => utf8 "opcode invalid"
  | .register => utf8 "register invalid"
  | .label name => missingLabel name

structure Defect where
  address : Nat
  flaw : Flaw
  deriving DecidableEq, Repr

def Defect.message (defect : Defect) : Bytes :=
  Text.Decimal.ofNat defect.address ++ utf8 ": " ++ defect.flaw.message

def flaw? (program : Program) (opcode : Opcode) : Option Flaw :=
  match opcode.instruction with
  | none => some .empty
  | some instruction =>
      if instruction.registerList.all program.hasRegister then
        match instruction.target? with
        | some name => if program.labels.contains name then none else some (.label name)
        | none => none
      else some .register

def defect? (program : Program) : Option Defect :=
  program.opcodes.toList.zipIdx.findSome? fun entry =>
    (program.flaw? entry.1).map fun flaw => { address := entry.2, flaw }

def agrees (left right : Program) : Bool :=
  left.opcodes.map Opcode.instruction == right.opcodes.map Opcode.instruction &&
    left.registers == right.registers && left.labels.same right.labels

end Program

end RegisterMachine
