import RegisterMachine.Flags
import RegisterMachine.Machine.Fault
import RegisterMachine.Stack

/-! The register machine and its instructions. -/

namespace RegisterMachine

structure Machine where
  verbose : Bool
  program : Option Program
  ip : Int64
  registers : Array Int32
  stack : Stack
  flags : Flags
  console : Console
  ticks : Nat

namespace Machine

def new (program : Option Program) : Machine where
  verbose := false
  program := program
  ip := 0
  registers := #[]
  stack := Stack.empty 0
  flags := Flags.clear
  console := Console.empty
  ticks := 0

def register? (machine : Machine) (register : Int) : Option Int32 :=
  if 0 ≤ register then machine.registers[register.toNat]? else none

def setRegister (machine : Machine) (register : Int) (value : Int32) : Machine :=
  { machine with registers := machine.registers.setIfInBounds register.toNat value }

def format (machine : Machine) (instruction : Instruction) : Bytes :=
  match machine.program with
  | some program => program.format instruction
  | none => instruction.format anonymousRegister

def isDone (machine : Machine) : Bool :=
  match machine.program with
  | some program => machine.ip < 0 || program.size ≤ machine.ip.toInt
  | none => true

def place? (machine : Machine) : Option Opcode :=
  machine.program.bind fun program => program.opcode? machine.ip.toInt

/-- The outcome of an instruction: the machine as it is then, and the address to go on at. -/
abbrev Effect := Machine × Except FaultCause Int64

def following (machine : Machine) : Int64 :=
  machine.ip + 1

def fail (machine : Machine) (cause : FaultCause) : Effect :=
  (machine, .error cause)

def proceed (machine : Machine) : Effect :=
  (machine, .ok machine.following)

def store (machine : Machine) (register : Int) (result : Int32) : Machine :=
  { machine.setRegister register result with flags := Flags.ofResult result.toInt }

def push (machine : Machine) (value : Int32) : Effect :=
  if machine.stack.isFull then machine.fail .stackFull
  else { machine with stack := machine.stack.push value }.proceed

def popThen (machine : Machine) (use : Machine → Int32 → Effect) : Effect :=
  match machine.stack.pop? with
  | some (value, stack) => use { machine with stack } value
  | none => machine.fail .stackEmpty

def write (machine : Machine) (text : Bytes) (newline : Bool) : Effect :=
  match machine.console.write text newline with
  | (console, true) => { machine with console }.proceed
  | (console, false) => { machine with console }.fail .output

def read (machine : Machine) (register : Int) : Effect :=
  match machine.console.readNumber with
  | (console, .ok value) => ({ machine with console }.setRegister register value).proceed
  | (console, .error fault) => { machine with console }.fail (.input fault)

def jumpIf (machine : Machine) (condition : Bool) (label : Bytes) : Effect :=
  if condition then
    match machine.program.bind fun program => program.label? label with
    | some address => (machine, .ok (Int64.ofInt address))
    | none => machine.fail (.labelMissing label)
  else machine.proceed

def onRegister (machine : Machine) (verb : Verb) (register : Int) (value : Int32) : Effect :=
  match verb with
  | .known .inc => (machine.store register (value + 1)).proceed
  | .known .dec => (machine.store register (value - 1)).proceed
  | .known .push => machine.push value
  | .known .pop => machine.popThen fun machine top => (machine.setRegister register top).proceed
  | .known .read => machine.read register
  | .known .print => machine.write (Text.Decimal.ofInt value.toInt) false
  | .known .println => machine.write (Text.Decimal.ofInt value.toInt) true
  | _ => machine.fail .instruction

/-- Instructions on a register that holds `left` and a value `right`. A comparison sets the flags by
the difference, which it does not store and which does not wrap. -/
def compute (machine : Machine) (verb : Verb) (target : Int) (left right : Int32) : Effect :=
  match verb with
  | .known .mov => (machine.setRegister target right).proceed
  | .known .cmp => { machine with flags := Flags.ofResult (left.toInt - right.toInt) }.proceed
  | .known .add => (machine.store target (left + right)).proceed
  | .known .sub => (machine.store target (left - right)).proceed
  | .known .mul => (machine.store target (left * right)).proceed
  | .known .div =>
      if right = 0 then machine.fail .divideByZero
      else (machine.store target (left / right)).proceed
  | _ => machine.fail .instruction

def withRegister (machine : Machine) (register : Int) (use : Int32 → Effect) : Effect :=
  match machine.register? register with
  | some value => use value
  | none => machine.fail .registerMissing

/-- The effect of an instruction on all but the instruction pointer and the ticks. -/
def perform (machine : Machine) : Instruction → Effect
  | .bare (.known .ret) => machine.popThen fun machine value => (machine, .ok value.toInt64)
  | .register verb register =>
      machine.withRegister register fun value => machine.onRegister verb register value
  | .number (.known .push) value => machine.push value
  | .text (.known .print) text => machine.write text false
  | .text (.known .println) text => machine.write text true
  | .label (.known .call) label =>
      match machine.push machine.following.toInt32 with
      | (machine, .ok _) => machine.jumpIf true label
      | (machine, .error cause) => machine.fail cause
  | .label verb label => machine.jumpIf (machine.flags.taken verb) label
  | .registers verb target source =>
      machine.withRegister target fun left =>
        machine.withRegister source fun right => machine.compute verb target left right
  | .registerNumber verb target right =>
      machine.withRegister target fun left => machine.compute verb target left right
  | .registerLabel verb counter label =>
      machine.withRegister counter fun value =>
        if verb = .known .loop then
          (machine.store counter (value - 1)).jumpIf (0 < (value - 1).toInt) label
        else machine.fail .instruction
  | _ => machine.fail .instruction

/-- Executes an instruction. A fault keeps the instruction pointer and the ticks. -/
def execute (machine : Machine) (instruction : Instruction) : Machine × Option Fault :=
  match machine.perform instruction with
  | (after, .ok next) => ({ after with ip := next, ticks := after.ticks + 1 }, none)
  | (after, .error cause) =>
      (after, some { address := machine.ip, text := machine.format instruction, cause })

def tick (machine : Machine) : Machine × Option Halt :=
  match machine.place? with
  | none => (machine, some .noInstruction)
  | some { instruction := none, .. } => (machine, some .crash)
  | some { instruction := some instruction, .. } =>
      match machine.execute instruction with
      | (after, none) => (after, none)
      | (after, some fault) => (after, some (.fault fault))

/-- Makes a machine ready to run its program. Where there is none, the empty one takes its place. -/
def reset (machine : Machine) : Machine × Option Program.Defect :=
  let program := machine.program.getD Program.empty
  match program.defect? with
  | some defect => ({ machine with program := some program }, some defect)
  | none =>
      ({ machine with
          program := some program
          ip := 0
          registers := Array.replicate program.registers.length 0
          stack := machine.stack.clear
          flags := Flags.clear
          ticks := 0 }, none)

inductive Outcome where
  | done
  | halted (halt : Halt)
  | unfinished
  deriving DecidableEq, Repr, Inhabited

def runFor : Nat → Machine → Machine × Outcome
  | 0, machine => (machine, if machine.isDone then .done else .unfinished)
  | budget + 1, machine =>
      if machine.isDone then (machine, .done)
      else
        match machine.tick with
        | (after, none) => runFor budget after
        | (after, some halt) => (after, .halted halt)

def registerLabelName (machine : Machine) (register : Nat) : Bytes :=
  match machine.program with
  | some program => program.registerName register
  | none => Text.Decimal.ofNat register

def stateLine (name text : Bytes) : Bytes :=
  Bytes.padLeft 8 (Text.Utf8.pieces name).length name ++ utf8 ": " ++ text ++ [byte '\n']

def render (machine : Machine) : Bytes :=
  stateLine (utf8 "ip") (Text.Decimal.ofInt machine.ip.toInt) ++
    stateLine (utf8 "flags") machine.flags.render ++
    machine.registers.toList.zipIdx.flatMap (fun entry =>
      stateLine (machine.registerLabelName entry.2) (Text.Decimal.ofInt entry.1.toInt)) ++
    stateLine (utf8 "stack")
      (match machine.stack.top? with
        | some top =>
            Text.Decimal.ofInt top.toInt ++ utf8 " (depth " ++
              Text.Decimal.ofNat machine.stack.depth ++ [byte ')']
        | none => utf8 "----")

end Machine

end RegisterMachine
