import RegisterMachine.Machine.Notes

/-! A machine under supervision: it runs a program with a bound on its steps, and its faults point at
source lines. -/

namespace RegisterMachine

structure Session where
  verbose : Bool
  machine : Machine
  program : Option Program
  stepLimit : Int

namespace Session

structure Limits where
  verbose : Bool
  stackLimit : Int
  stepLimit : Int
  deriving DecidableEq, Repr

def new : Session where
  verbose := false
  machine := Machine.new (some Program.empty)
  program := some Program.empty
  stepLimit := 0

def configure (session : Session) (limits : Limits) : Session :=
  { session with
    verbose := limits.verbose
    stepLimit := limits.stepLimit
    machine :=
      { session.machine with stack := { session.machine.stack with limit := limits.stackLimit } } }

/-- The source line of the instruction at the instruction pointer, or zero where there is none. A
session without a program has nothing to look it up in. -/
def lineNumber? (session : Session) : Option Int :=
  match session.program with
  | some program =>
      match program.opcode? session.machine.ip.toInt with
      | some opcode => some opcode.lineNumber
      | none => some 0
  | none => if session.machine.ip < 0 then some 0 else none

def loaded (session : Session) : Machine :=
  { session.machine with verbose := session.verbose, program := session.program }

def reset (session : Session) : Session × Option Program.Defect :=
  let (machine, defect) := session.loaded.reset
  ({ session with machine }, defect)

inductive Reason where
  | stepLimit
  | noInstruction
  | fault (fault : Fault)
  deriving DecidableEq, Repr

def Reason.message : Reason → Bytes
  | .stepLimit => utf8 "step limit reached"
  | .noInstruction => utf8 "ip empty"
  | .fault reported => reported.message

structure RuntimeError where
  lineNumber : Int
  reason : Reason
  deriving DecidableEq, Repr

def aboutLine (lineNumber : Int) (message : Bytes) : Bytes :=
  Text.Message.render (utf8 "line %d %v") [.integer lineNumber, .text message]

def RuntimeError.message (error : RuntimeError) : Bytes :=
  aboutLine error.lineNumber error.reason.message

inductive Event where
  | done
  | stepped
  | failed (error : RuntimeError)
  | crashed
  deriving DecidableEq, Repr

def isExhausted (session : Session) : Bool :=
  0 < session.stepLimit && session.stepLimit ≤ session.machine.ticks

def tick (session : Session) : Session × Event :=
  let machine := { session.machine with verbose := session.verbose }
  match session.lineNumber? with
  | none => ({ session with machine }, .crashed)
  | some lineNumber =>
      if machine.isDone then ({ session with machine }, .done)
      else if session.isExhausted then
        ({ session with machine }, .failed { lineNumber, reason := .stepLimit })
      else
        match machine.tick with
        | (machine, none) => ({ session with machine }, .stepped)
        | (machine, some .noInstruction) =>
            ({ session with machine }, .failed { lineNumber, reason := .noInstruction })
        | (machine, some (.fault fault)) =>
            ({ session with machine }, .failed { lineNumber, reason := .fault fault })
        | (machine, some .crash) => ({ session with machine }, .crashed)

inductive Outcome where
  | done
  | failed (error : RuntimeError)
  | crashed
  | unfinished
  deriving DecidableEq, Repr, Inhabited

def runFor : Nat → Session → Session × Outcome
  | 0, session => (session, .unfinished)
  | budget + 1, session =>
      match session.tick with
      | (after, .done) => (after, .done)
      | (after, .stepped) => runFor budget after
      | (after, .failed error) => (after, .failed error)
      | (after, .crashed) => (after, .crashed)

def resetNotes (session : Session) : List Bytes :=
  session.loaded.resetNotes ++
    match session.reset with
    | (_, some _) => []
    | (_, none) =>
        match session.program with
        | some program =>
            if session.verbose then
              [utf8 "emulator: " ++ Text.Decimal.ofNat program.size ++
                utf8 " instructions, " ++ Text.Decimal.ofNat program.registers.length ++
                utf8 " registers"]
            else []
        | none => []

def tickNotes (session : Session) : List Bytes :=
  let machine := { session.machine with verbose := session.verbose }
  if session.lineNumber?.isNone || machine.isDone || session.isExhausted then []
  else machine.tickNotes

def runNotes : Nat → Session → List Bytes
  | 0, _ => []
  | budget + 1, session =>
      session.tickNotes ++
        match session.tick with
        | (after, .done) =>
            if after.verbose then
              [utf8 "emulator: done after " ++ Text.Decimal.ofNat after.machine.ticks ++
                utf8 " ticks"]
            else []
        | (after, .stepped) => runNotes budget after
        | (_, .failed _) | (_, .crashed) => []

end Session

end RegisterMachine
