import RegisterMachine.Assembler.Draft
import RegisterMachine.Source.Lines

/-! The assembler: predefined equates and a source text give a program. -/

namespace RegisterMachine

/-- An assembler keeps predefined equates from one source to the next, and the equates that the last
source left. -/
structure Assembler where
  predefined : Table Bytes
  equates : Table Bytes

namespace Assembler

variable [Evaluator]

def fresh : Assembler where
  predefined := Table.empty
  equates := Table.empty

def standardEquates : List (Bytes × Bytes) :=
  [(utf8 "INT_MIN", utf8 "-2147483648"), (utf8 "INT_MAX", utf8 "2147483647")]

def predefine (assembler : Assembler) (name text : Bytes) : Assembler :=
  { assembler with predefined := assembler.predefined.insert name text }

def predefineAll (assembler : Assembler) (pairs : List (Bytes × Bytes)) : Assembler :=
  { assembler with predefined := assembler.predefined.insertAll pairs }

def reading (predefined : Table Bytes) (source : Bytes) : Reading :=
  (Draft.start predefined).addLines 0 (Source.lines source)

def link (source : Bytes) (reading : Reading) : Except Failure Program :=
  match reading.failure with
  | some failure => .error failure
  | none =>
      if Source.isReadable source then
        match reading.draft.unlinked? with
        | some error => .error (.rejected error)
        | none => .ok reading.draft.program
      else
        .error (.rejected { lineNumber := reading.count + 1, line := [], cause := .lineTooLong })

def assemble (predefined : Table Bytes) (source : Bytes) : Except Failure Program :=
  link source (reading predefined source)

def parse (assembler : Assembler) (source : Bytes) : Assembler × Except Failure Program :=
  let read := reading assembler.predefined source
  ({ assembler with equates := read.draft.equates }, link source read)

def lineNote (entry : Bytes × Nat) : Bytes :=
  Text.Decimal.ofNat entry.2 ++ utf8 ": " ++ entry.1

def programNote (program : Program) : Bytes :=
  utf8 "asm: " ++ Text.Decimal.ofNat program.size ++ utf8 " instructions, " ++
    Text.Decimal.ofNat program.registers.length ++ utf8 " registers, " ++
    Text.Decimal.ofNat program.labels.size ++ utf8 " labels"

def notes (assembler : Assembler) (source : Bytes) : List Bytes :=
  let read := reading assembler.predefined source
  (((Source.lines source).take read.count).zipIdx 1).map lineNote ++
    match link source read with
    | .ok program => [programNote program]
    | .error _ => []

/-- What is told about lines that are added to a draft of `count` lines: each line, where `verbose`,
and whatever its expression prints. -/
def Draft.account (verbose : Bool) (draft : Draft) (count : Nat) : List Bytes → List Bytes
  | [] => []
  | line :: rest =>
      (if verbose then [lineNote (line, count + 1)] else []) ++
        (draft.printedBy line).map (· ++ [byte '\n']) ++
        match draft.addLine (count + 1) line with
        | .ok next => next.account verbose (count + 1) rest
        | .error _ => []

def account (assembler : Assembler) (verbose : Bool) (source : Bytes) : List Bytes :=
  (Draft.start assembler.predefined).account verbose 0 (Source.lines source) ++
    match assemble assembler.predefined source with
    | .ok program => if verbose then [programNote program] else []
    | .error _ => []

end Assembler

end RegisterMachine
