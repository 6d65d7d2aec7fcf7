import RegisterMachine.Text.Decimal

/-! Ranges of integers. Their arithmetic has 64 bits and wraps around. -/

namespace RegisterMachine.Expression

/-- The integers from `start` on in steps of `step`, up to but not including `stop`. -/
structure Range where
  start : Int64
  stop : Int64
  step : Int64
  deriving DecidableEq, Repr

namespace Range

/-- How many integers a range has. The sum may wrap, and the range is empty then. -/
def size (range : Range) : Int64 :=
  if 0 < range.step then
    if range.start < range.stop then (range.stop - 1 - range.start) / range.step + 1 else 0
  else
    if range.stop < range.start then (range.start - 1 - range.stop) / -range.step + 1 else 0

def count (range : Range) : Nat :=
  range.size.toInt.toNat

def get (range : Range) (i : Int) : Int :=
  (range.start + Int64.ofInt i * range.step).toInt

/-- Whether a range has an integer. None beyond 32 bits is found. -/
def contains (range : Range) (n : Int) : Bool :=
  let distance := Int64.ofInt n - range.start
  decide (-Int.pow 2 31 ≤ n) && n < Int.pow 2 31 && distance % range.step == 0 &&
    0 ≤ distance / range.step && distance / range.step < range.size

def same (a b : Range) : Bool :=
  a.size == b.size && (a.size == 0 || (a.start == b.start && (a.size == 1 || a.step == b.step)))

def slice (range : Range) (start stop step : Int) : Range where
  start := range.start + range.step * Int64.ofInt start
  stop := range.start + range.step * Int64.ofInt stop
  step := range.step * Int64.ofInt step

def text (range : Range) : Bytes :=
  let number (n : Int64) : Bytes := Text.Decimal.ofInt n.toInt
  let parts :=
    if range.step != 1 then [number range.start, number range.stop, number range.step]
    else if range.start != 0 then [number range.start, number range.stop]
    else [number range.stop]
  utf8 "range(" ++ (utf8 ", ").intercalate parts ++ utf8 ")"

end Range

end RegisterMachine.Expression
