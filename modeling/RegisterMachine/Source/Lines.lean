import RegisterMachine.Bytes

/-! The lines of a source text. A newline ends a line and a carriage return before it is dropped;
the last line may lack both. -/

namespace RegisterMachine.Source

/-- A line of this many bytes is too long to be read. -/
def lineLimit : Nat := 65536

/-- The lines still to come after those `done`, with `current` the bytes of the present one. Both
accumulators are in reverse. -/
def rawLinesOnto (done : List Bytes) (current : Bytes) : Bytes → List Bytes
  | [] => (if current.isEmpty then done else current.reverse :: done).reverse
  | b :: rest =>
      if b = byte '\n' then rawLinesOnto (current.reverse :: done) [] rest
      else rawLinesOnto done (b :: current) rest

def rawLines (source : Bytes) : List Bytes :=
  rawLinesOnto [] [] source

def dropReturn (line : Bytes) : Bytes :=
  if line.getLast? = some (byte '\r') then line.dropLast else line

def isShort (line : Bytes) : Bool :=
  line.length < lineLimit

def lines (source : Bytes) : List Bytes :=
  ((rawLines source).takeWhile isShort).map dropReturn

def isReadable (source : Bytes) : Bool :=
  (rawLines source).all isShort

end RegisterMachine.Source
