import RegisterMachine.Bytes

/-! Digits in bases up to thirty-six. -/

namespace RegisterMachine.Text

/-- The value of a byte as a digit, letters following on nine. -/
def digitValue? (b : UInt8) : Option Nat :=
  if Bytes.isDigit b then some (b - byte '0').toNat
  else if Bytes.isLower b then some ((b - byte 'a').toNat + 10)
  else if Bytes.isUpper b then some ((b - byte 'A').toNat + 10)
  else none

def isDigitOf (base : Nat) (b : UInt8) : Bool :=
  (digitValue? b).any (· < base)

def valueOf (base : Nat) (digits : Bytes) : Nat :=
  digits.foldl (fun n b => n * base + (digitValue? b).getD 0) 0

def namedBase? (text : Bytes) : Option Nat :=
  let start := text.take 2
  if start == utf8 "0x" || start == utf8 "0X" then some 16
  else if start == utf8 "0o" || start == utf8 "0O" then some 8
  else if start == utf8 "0b" || start == utf8 "0B" then some 2
  else none

/-- The number that digits stand for, if there are any and all are of the base. -/
def digitsValue? (base : Nat) (digits : Bytes) : Option Nat :=
  if !digits.isEmpty && digits.all (isDigitOf base) then some (valueOf base digits) else none

end RegisterMachine.Text
