import RegisterMachine.Console
import RegisterMachine.Program

/-! Faults of a running machine. -/

namespace RegisterMachine

inductive FaultCause where
  | stackEmpty
  | stackFull
  | divideByZero
  | labelMissing (name : Bytes)
  | registerMissing
  | input (fault : InputFault)
  | output
  | instruction
  deriving DecidableEq, Repr

def FaultCause.message : FaultCause → Bytes
  | .stackEmpty => utf8 "stack empty"
  | .stackFull => utf8 "stack full"
  | .divideByZero => utf8 "divide by zero"
  | .labelMissing name => utf8 "label missing\n" ++ missingLabel name
  | .registerMissing => utf8 "register invalid"
  | .input fault => fault.message
  | .output => utf8 "output failed\n" ++ Trouble.broken.message
  | .instruction => utf8 "instruction invalid"

structure Fault where
  address : Int64
  text : Bytes
  cause : FaultCause
  deriving DecidableEq, Repr

def Fault.message (fault : Fault) : Bytes :=
  Text.Message.render (utf8 "fault at %d '%v' %v")
    [.integer fault.address.toInt, .text fault.text, .text fault.cause.message]

/-- Why a machine did not take a step: there is no instruction, the instruction is at fault, or the
place is empty. -/
inductive Halt where
  | noInstruction
  | fault (fault : Fault)
  | crash
  deriving DecidableEq, Repr

def invalidProgram (defect : Program.Defect) : Bytes :=
  utf8 "instruction invalid\n" ++ defect.message

end RegisterMachine
