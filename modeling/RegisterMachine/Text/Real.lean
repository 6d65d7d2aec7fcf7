import RegisterMachine.Text.Digits

/-! Floating-point numbers of 64 bits: the exact quantities they stand for, and which texts are read as
one. -/

namespace RegisterMachine.Text.Real

/-- A finite number, `mantissa` times two to the `exponent`. -/
structure Dyadic where
  mantissa : Int
  exponent : Int
  deriving DecidableEq, Repr

def dyadic? (x : Float) : Option Dyadic :=
  let bits : Nat := x.toBits.toNat
  let fraction : Nat := bits % Nat.pow 2 52
  let scale : Nat := bits / Nat.pow 2 52 % Nat.pow 2 11
  let signed (n : Nat) : Int := if bits < Nat.pow 2 63 then (n : Int) else -(n : Int)
  if scale = Nat.pow 2 11 - 1 then none
  else if scale = 0 then some { mantissa := signed fraction, exponent := -1074 }
  else some { mantissa := signed (Nat.pow 2 52 + fraction), exponent := (scale : Int) - 1075 }

def isNegative (x : Float) : Bool :=
  Nat.pow 2 63 ≤ x.toBits.toNat

def truncate? (x : Float) : Option Int :=
  (dyadic? x).map fun value =>
    if 0 ≤ value.exponent then value.mantissa * Int.pow 2 value.exponent.toNat
    else value.mantissa.tdiv (Int.pow 2 (-value.exponent).toNat)

def Dyadic.compareInt (n : Int) (value : Dyadic) : Ordering :=
  if 0 ≤ value.exponent then compare n (value.mantissa * Int.pow 2 value.exponent.toNat)
  else compare (n * Int.pow 2 (-value.exponent).toNat) value.mantissa

/-- The quotient of two natural numbers rounded to a natural number, a half going to the even one. -/
def roundedQuotient (numerator denominator : Nat) : Nat :=
  let quotient := numerator / denominator
  let twice := 2 * (numerator % denominator)
  if denominator < twice || (twice = denominator && quotient % 2 = 1) then quotient + 1
  else quotient

def scaled (numerator denominator : Nat) (exponent : Int) : Nat × Nat :=
  if 0 ≤ exponent then (numerator, denominator * Nat.pow 2 exponent.toNat)
  else (numerator * Nat.pow 2 (-exponent).toNat, denominator)

/-- The number nearest to a quotient. The exponent is such that a mantissa of 53 bits remains, but not
below that of the least numbers. -/
def nearest (numerator denominator : Nat) : Float :=
  if numerator = 0 then 0
  else
    let guess : Int := (numerator.log2 : Int) - (denominator.log2 : Int) - 52
    let (n, d) := scaled numerator denominator guess
    let exponent := max (if n < d * Nat.pow 2 52 then guess - 1 else guess) (-1074)
    let (n, d) := scaled numerator denominator exponent
    let mantissa := roundedQuotient n d
    if mantissa < Nat.pow 2 52 then Float.ofBits mantissa.toUInt64
    else
      let bits := (exponent + 1074).toNat * Nat.pow 2 52 + mantissa
      if bits < 2047 * Nat.pow 2 52 then Float.ofBits bits.toUInt64 else 1 / 0

def withSign (negative : Bool) (x : Float) : Float :=
  if negative then -x else x

def ofBinary (mantissa : Nat) (exponent : Int) : Float :=
  if mantissa = 0 || exponent + mantissa.log2 < -1200 then 0
  else if 1200 < exponent + mantissa.log2 then 1 / 0
  else if 0 ≤ exponent then nearest (mantissa * Nat.pow 2 exponent.toNat) 1
  else nearest mantissa (Nat.pow 2 (-exponent).toNat)

def ofDecimal (mantissa : Nat) (exponent : Int) : Float :=
  let magnitude := exponent + (Nat.toDigits 10 mantissa).length
  if mantissa = 0 || magnitude < -400 then 0
  else if 400 < magnitude then 1 / 0
  else if 0 ≤ exponent then nearest (mantissa * Nat.pow 10 exponent.toNat) 1
  else nearest mantissa (Nat.pow 10 (-exponent).toNat)

def ofInt (n : Int) : Float :=
  withSign (n < 0) (ofBinary n.natAbs 0)

def ofInt? (n : Int) : Option Float :=
  if (ofInt n).isFinite then some (ofInt n) else none

/-- What is left of one number when as much of another one as fits is taken away, with the sign of the
first. -/
def remainder (x y : Float) : Float :=
  match dyadic? x, dyadic? y with
  | some a, some b =>
      let exponent := min a.exponent b.exponent
      let dividend := a.mantissa * Int.pow 2 (a.exponent - exponent).toNat
      let divisor := b.mantissa * Int.pow 2 (b.exponent - exponent).toNat
      if divisor = 0 then 0 / 0
      else withSign (isNegative x) (ofBinary (dividend.natAbs % divisor.natAbs) exponent)
  | some _, none => if y == y then x else y
  | none, _ => 0 / 0

/-- What is left of one number after the division by another one that rounds down. -/
def modulo (x y : Float) : Float :=
  let rest := remainder x y
  if (x < 0) != (y < 0) && rest != 0 then rest + y else rest

def exponent? (text : Bytes) : Option (Int × Bytes) :=
  let negative := text.head? == some (byte '-')
  let unsigned := if negative || text.head? == some (byte '+') then text.drop 1 else text
  let digits := unsigned.takeWhile Bytes.isDigit
  let value : Nat := valueOf 10 digits
  if digits.isEmpty then none
  else some (if negative then -(value : Int) else value, unsigned.dropWhile Bytes.isDigit)

def isExponentMark (b : UInt8) : Bool :=
  b == byte 'e' || b == byte 'E'

def ofDigits? (whole fraction rest : Bytes) : Option (Float × Bytes) :=
  let exponent := if rest.head?.any isExponentMark then exponent? (rest.drop 1) else some (0, rest)
  exponent.map fun (exponent, rest) =>
    (ofDecimal (valueOf 10 (whole ++ fraction)) (exponent - fraction.length), rest)

def splitDigits (isDigit : UInt8 → Bool) (text : Bytes) : Bytes × Bytes × Bytes :=
  let whole := text.takeWhile isDigit
  let rest := text.dropWhile isDigit
  if rest.head? == some (byte '.') then
    (whole, (rest.drop 1).takeWhile isDigit, (rest.drop 1).dropWhile isDigit)
  else (whole, [], rest)

def unsigned? (text : Bytes) : Option Float :=
  let (whole, fraction, rest) := splitDigits Bytes.isDigit text
  if whole.isEmpty && fraction.isEmpty then none
  else
    match ofDigits? whole fraction rest with
    | some (x, []) => some x
    | _ => none

/-- The number that hexadecimal digits stand for. Their exponent is one of two, and it is never left
out. -/
def hexadecimal? (text : Bytes) : Option Float :=
  let (whole, fraction, rest) := splitDigits (isDigitOf 16) text
  if (whole.isEmpty && fraction.isEmpty) || !rest.head?.any fun b => b == byte 'p' || b == byte 'P' then
    none
  else
    match exponent? (rest.drop 1) with
    | some (exponent, []) =>
        some (ofBinary (valueOf 16 (whole ++ fraction)) (exponent - 4 * fraction.length))
    | _ => none

def splitSign (text : Bytes) : Bool × Bytes :=
  if text.head? == some (byte '-') then (true, text.drop 1)
  else if text.head? == some (byte '+') then (false, text.drop 1)
  else (false, text)

/-- Whether each underscore of a number lies between two digits, `last` telling whether a digit comes
right before. The base that a text names counts as one. -/
def underscoresSeparate (isDigit : UInt8 → Bool) (last : Bool) : Bytes → Bool
  | [] => true
  | b :: rest =>
      if b = byte '_' then
        last && rest.head?.any isDigit && underscoresSeparate isDigit false rest
      else underscoresSeparate isDigit (isDigit b) rest

def parse? (text : Bytes) : Option Float :=
  let (negative, text) := splitSign text
  (unsigned? text).bind fun x => if x.isFinite then some (withSign negative x) else none

def read? (text : Bytes) : Option Float :=
  let (negative, text) := splitSign text
  let plain := text.filter (· != byte '_')
  if namedBase? text == some 16 then
    if underscoresSeparate (isDigitOf 16) true (text.drop 2) then
      (hexadecimal? (plain.drop 2)).map (withSign negative)
    else none
  else if underscoresSeparate Bytes.isDigit false text then
    (unsigned? plain).map (withSign negative)
  else none

end RegisterMachine.Text.Real
