import RegisterMachine.Text.Decimal
import RegisterMachine.Text.Real

/-! The decimal texts of floating-point numbers. The shortest of them has the fewest digits that are
read back as the number. -/

namespace RegisterMachine.Text.Real

/-- Significant digits, and the place of the point among them, which may lie before or after all. -/
structure Digits where
  digits : Bytes
  point : Int
  deriving DecidableEq, Repr

def magnitude (numerator denominator : Nat) : Int :=
  let guess : Int :=
    ((Nat.toDigits 10 numerator).length : Int) - ((Nat.toDigits 10 denominator).length : Int)
  let below :=
    if 0 ≤ guess then decide (numerator < denominator * Nat.pow 10 guess.toNat)
    else decide (numerator * Nat.pow 10 (-guess).toNat < denominator)
  if below then guess else guess + 1

def Digits.ofUnits (n : Nat) (unit : Int) : Digits :=
  let digits := Decimal.ofNat n
  { digits := (digits.reverse.dropWhile (· == byte '0')).reverse, point := digits.length + unit }

def inUnits (numerator denominator : Nat) (unit : Int) : Nat × Nat :=
  if 0 ≤ unit then (numerator, denominator * Nat.pow 10 unit.toNat)
  else (numerator * Nat.pow 10 (-unit).toNat, denominator)

/-- The numbers around one that are read back as it, in quarters of its last binary place. The lower
neighbour of a power of two is nearer. -/
structure Interval where
  value : Nat
  low : Nat
  high : Nat
  /-- Whether the ends belong to the interval. -/
  closed : Bool
  exponent : Int

def Interval.of (mantissa : Nat) (exponent : Int) : Interval where
  value := 4 * mantissa
  low := if mantissa = Nat.pow 2 52 && -1074 < exponent then 4 * mantissa - 1 else 4 * mantissa - 2
  high := 4 * mantissa + 2
  closed := mantissa % 2 = 0
  exponent := exponent - 2

def Interval.quotient (interval : Interval) (quarters : Nat) : Nat × Nat :=
  if 0 ≤ interval.exponent then (quarters * Nat.pow 2 interval.exponent.toNat, 1)
  else (quarters, Nat.pow 2 (-interval.exponent).toNat)

def Interval.units? (interval : Interval) (unit : Int) : Option Nat :=
  let count (quarters : Nat) : Nat × Nat :=
    let (numerator, denominator) := interval.quotient quarters
    inUnits numerator denominator unit
  let (value, denominator) := count interval.value
  let low := (count interval.low).1
  let high := (count interval.high).1
  let down := value / denominator
  let isInside (units : Nat) : Bool :=
    let position := units * denominator
    if interval.closed then low ≤ position && position ≤ high else low < position && position < high
  match isInside down, isInside (down + 1) with
  | true, true => some (roundedQuotient value denominator)
  | true, false => some down
  | false, true => some (down + 1)
  | false, false => none

/-- The fewest digits of an interval from `count` on. Seventeen always suffice. -/
def Interval.digits (interval : Interval) (power : Int) : Nat → Nat → Digits
  | 0, count =>
      let (numerator, denominator) := interval.quotient interval.value
      let (n, d) := inUnits numerator denominator (power - count)
      .ofUnits (roundedQuotient n d) (power - count)
  | bound + 1, count =>
      match interval.units? (power - count) with
      | some units => .ofUnits units (power - count)
      | none => interval.digits power bound (count + 1)

def shortest (x : Float) : Digits :=
  match dyadic? x with
  | none => { digits := [], point := 0 }
  | some value =>
      if value.mantissa = 0 then { digits := [], point := 0 }
      else
        let interval := Interval.of value.mantissa.natAbs value.exponent
        let (numerator, denominator) := interval.quotient interval.value
        interval.digits (magnitude numerator denominator) 16 1

def quotient (x : Float) : Nat × Nat :=
  match dyadic? x with
  | none => (0, 1)
  | some value =>
      if 0 ≤ value.exponent then (value.mantissa.natAbs * Nat.pow 2 value.exponent.toNat, 1)
      else (value.mantissa.natAbs, Nat.pow 2 (-value.exponent).toNat)

def roundedAt (places : Int) (x : Float) : Digits :=
  let (numerator, denominator) := quotient x
  let (n, d) := inUnits numerator denominator (-places)
  .ofUnits (roundedQuotient n d) (-places)

def roundedTo (count : Nat) (x : Float) : Digits :=
  let (numerator, denominator) := quotient x
  if numerator = 0 then { digits := [], point := 0 }
  else roundedAt (count - magnitude numerator denominator) x

def signText (x : Float) : Bytes :=
  if isNegative x then [byte '-'] else []

def padRight (width : Nat) (digits : Bytes) : Bytes :=
  digits ++ List.replicate (width - digits.length) (byte '0')

def exponentText (n : Int) : Bytes :=
  let digits := Decimal.ofNat n.natAbs
  (if n < 0 then byte '-' else byte '+') ::
    (List.replicate (2 - digits.length) (byte '0') ++ digits)

def Digits.scientific (digits : Digits) (mark : UInt8) (places : Nat) : Bytes :=
  let first := digits.digits.headD (byte '0')
  let rest := padRight places (digits.digits.drop 1)
  first :: ((if places = 0 then [] else byte '.' :: rest) ++
    mark :: exponentText (if digits.digits.isEmpty then 0 else digits.point - 1))

def Digits.positional (digits : Digits) (places : Nat) : Bytes :=
  let whole :=
    if digits.point ≤ 0 then [byte '0']
    else padRight digits.point.toNat (digits.digits.take digits.point.toNat)
  let zeros := List.replicate (min places (-digits.point).toNat) (byte '0')
  let fraction := padRight places (zeros ++ digits.digits.drop digits.point.toNat)
  whole ++ if places = 0 then [] else byte '.' :: fraction

def Digits.places (digits : Digits) : Nat :=
  (digits.digits.length - digits.point).toNat

/-- The shortest text of a finite number. An exponent is written below a ten-thousandth and from a
million on. -/
def general (mark : UInt8) (x : Float) : Bytes :=
  let digits := shortest x
  signText x ++
    if !digits.digits.isEmpty && (digits.point < -3 || 6 < digits.point) then
      digits.scientific mark (digits.digits.length - 1)
    else digits.positional digits.places

end RegisterMachine.Text.Real
