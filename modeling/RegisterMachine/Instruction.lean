import RegisterMachine.Keyword
import RegisterMachine.Text.Quoted

/-! Instructions, with registers by index and labels by name. -/

namespace RegisterMachine

/-- An operation with its operands. Any verb may stand with any operands; `Accepted` says which
belong together. -/
inductive Instruction where
  | bare (verb : Verb)
  | register (verb : Verb) (register : Int)
  | number (verb : Verb) (value : Int32)
  | text (verb : Verb) (text : Bytes)
  | label (verb : Verb) (label : Bytes)
  | registers (verb : Verb) (target source : Int)
  | registerNumber (verb : Verb) (target : Int) (value : Int32)
  | registerLabel (verb : Verb) (counter : Int) (label : Bytes)
  deriving DecidableEq, Repr

inductive Shape where
  | bare | register | number | text | label | registers | registerNumber | registerLabel
  deriving DecidableEq, Repr

namespace Shape

def takes : Shape → Keyword → Bool
  | .bare, .ret => true
  | .register, .inc | .register, .dec | .register, .push | .register, .pop | .register, .print
  | .register, .println | .register, .read => true
  | .number, .push => true
  | .text, .print | .text, .println => true
  | .label, .jmp | .label, .je | .label, .jne | .label, .jg | .label, .jge | .label, .jl
  | .label, .jle | .label, .call => true
  | .registers, .mov | .registers, .add | .registers, .sub | .registers, .mul
  | .registers, .div | .registers, .cmp => true
  | .registerNumber, .mov | .registerNumber, .add | .registerNumber, .sub
  | .registerNumber, .mul | .registerNumber, .div | .registerNumber, .cmp => true
  | .registerLabel, .loop => true
  | _, _ => false

def describe : Shape → Bytes
  | .bare => utf8 "no"
  | .register => utf8 "register"
  | .number => utf8 "integer"
  | .text => utf8 "string"
  | .label => utf8 "label"
  | .registers => utf8 "register-register"
  | .registerNumber => utf8 "register-integer"
  | .registerLabel => utf8 "register-label"

end Shape

inductive Misuse where
  | operands (verb : Verb) (shape : Shape)
  | unknownVerb (code : Int)
  deriving DecidableEq, Repr

def Misuse.message : Misuse → Bytes
  | .operands verb shape =>
      utf8 "asm: " ++ verb.name ++ utf8 " does not take " ++ shape.describe ++ utf8 " operands"
  | .unknownVerb code => utf8 "asm: unknown verb " ++ Text.Decimal.ofInt code

def Verb.category : Verb → Except Misuse Category
  | .known keyword => .ok keyword.category
  | .unknown code _ => .error (.unknownVerb code)

namespace Instruction

def verb : Instruction → Verb
  | bare verb | register verb _ | number verb _ | text verb _ | label verb _ | registers verb _ _
  | registerNumber verb _ _ | registerLabel verb _ _ => verb

def shape : Instruction → Shape
  | bare .. => .bare
  | register .. => .register
  | number .. => .number
  | text .. => .text
  | label .. => .label
  | registers .. => .registers
  | registerNumber .. => .registerNumber
  | registerLabel .. => .registerLabel

def isAccepted (instruction : Instruction) : Bool :=
  match instruction.verb with
  | .known keyword => instruction.shape.takes keyword
  | .unknown _ _ => false

abbrev Accepted (instruction : Instruction) : Prop :=
  instruction.isAccepted = true

def checked (instruction : Instruction) : Except Misuse Instruction :=
  if instruction.isAccepted then .ok instruction
  else .error (.operands instruction.verb instruction.shape)

def registerList : Instruction → List Int
  | register _ r => [r]
  | registers _ target source => [target, source]
  | registerNumber _ target _ => [target]
  | registerLabel _ counter _ => [counter]
  | bare .. | number .. | text .. | label .. => []

def target? : Instruction → Option Bytes
  | label _ name | registerLabel _ _ name => some name
  | _ => none

def format (name : Int → Bytes) : Instruction → Bytes
  | bare verb => verb.name
  | register verb r => verb.name ++ byte ' ' :: name r
  | number verb value => verb.name ++ byte ' ' :: Text.Decimal.ofInt value.toInt
  | text verb content => verb.name ++ byte ' ' :: Text.quote content
  | label verb target => verb.name ++ byte ' ' :: target
  | registers verb target source =>
      verb.name ++ byte ' ' :: name target ++ utf8 ", " ++ name source
  | registerNumber verb target value =>
      verb.name ++ byte ' ' :: name target ++ utf8 ", " ++ Text.Decimal.ofInt value.toInt
  | registerLabel verb counter target =>
      verb.name ++ byte ' ' :: name counter ++ utf8 ", " ++ target

end Instruction

end RegisterMachine
