import RegisterMachine.Bytes

/-! Decimal numbers: how they are written, and which byte strings are read as one. -/

namespace RegisterMachine.Text.Decimal

def ofNat (n : Nat) : Bytes :=
  (Nat.toDigits 10 n).map byte

def sign (n : Int) : Bytes :=
  if n < 0 then [byte '-'] else []

def ofInt (n : Int) : Bytes :=
  sign n ++ ofNat n.natAbs

def zeroPadded (width : Nat) (n : Int) : Bytes :=
  let digits := ofNat n.natAbs
  sign n ++ List.replicate (width - (sign n).length - digits.length) (byte '0') ++ digits

def grouped (n : Int) : Bytes :=
  let digits := ofNat n.natAbs
  sign n ++ digits.zipIdx.flatMap fun entry =>
    if 0 < entry.2 && (digits.length - entry.2) % 3 = 0 then [byte ',', entry.1] else [entry.1]

inductive Refusal where
  | malformed
  | outOfRange
  deriving DecidableEq, Repr

def Refusal.message : Refusal → Bytes
  | .malformed => utf8 "invalid syntax"
  | .outOfRange => utf8 "value out of range"

def digitsValue (bound : Nat) : Nat → Bytes → Except Refusal Nat
  | n, [] => .ok n
  | n, b :: rest =>
      if Bytes.isDigit b then
        let value := 10 * n + (b - byte '0').toNat
        if value ≤ bound then digitsValue bound value rest else .error .outOfRange
      else .error .malformed

def magnitude (bound : Nat) (digits : Bytes) : Except Refusal Nat :=
  if digits.isEmpty then .error .malformed else digitsValue bound 0 digits

/-- Reads an optional sign and decimal digits as a two's complement number of `bits` bits. Digits are
read from the left, so a number too long for an unsigned one of that size is out of range whatever
follows. -/
def read (bits : Nat) (text : Bytes) : Except Refusal Int :=
  let bound := Nat.pow 2 bits - 1
  let half := Nat.pow 2 (bits - 1)
  match text with
  | [] => .error .malformed
  | b :: rest =>
      if b = byte '-' then
        match magnitude bound rest with
        | .ok n => if n ≤ half then .ok (-(n : Int)) else .error .outOfRange
        | .error refusal => .error refusal
      else
        match magnitude bound (if b = byte '+' then rest else text) with
        | .ok n => if n < half then .ok (n : Int) else .error .outOfRange
        | .error refusal => .error refusal

end RegisterMachine.Text.Decimal
