import RegisterMachine.Machine

/-! What a verbose machine tells about its work. -/

namespace RegisterMachine.Machine

def resetNotes (machine : Machine) : List Bytes :=
  if machine.verbose then [utf8 "cpu: reset"] else []

def executeNotes (machine : Machine) (instruction : Instruction) : List Bytes :=
  if machine.verbose then
    [Text.Decimal.zeroPadded 3 machine.ip.toInt ++ utf8 ": " ++ machine.format instruction]
  else []

def tickNotes (machine : Machine) : List Bytes :=
  match machine.place? with
  | some { instruction := some instruction, .. } => machine.executeNotes instruction
  | _ => []

def runNotes : Nat → Machine → List Bytes
  | 0, _ => []
  | budget + 1, machine =>
      if machine.isDone then []
      else
        machine.tickNotes ++
          match machine.tick with
          | (after, none) => runNotes budget after
          | (_, some _) => []

end RegisterMachine.Machine
