import RegisterMachine.Text.Digits

/-! Dates and times as plain texts of YAML documents write them: a date, a date and a time with blanks
between them, or a date, the letter `T`, a time and its zone. -/

namespace RegisterMachine.Document.Moment

def isLeapYear (year : Nat) : Bool :=
  (year % 4 == 0 && year % 100 != 0) || year % 400 == 0

def daysIn (year month : Nat) : Nat :=
  if month == 2 then if isLeapYear year then 29 else 28
  else if month == 4 || month == 6 || month == 9 || month == 11 then 30
  else 31

def number? (text : Bytes) : Option (Nat × Bytes) :=
  let digits := (text.take 2).takeWhile Bytes.isDigit
  if digits.isEmpty then none else some (Text.valueOf 10 digits, text.drop digits.length)

def after? (b : UInt8) (text : Bytes) : Option Bytes :=
  if text.head? == some b then some (text.drop 1) else none

def date? (text : Bytes) : Option Bytes := do
  let year := text.takeWhile Bytes.isDigit
  if year.length ≠ 4 then failure
  let (month, rest) ← number? (← after? (byte '-') (text.drop 4))
  let (day, rest) ← number? (← after? (byte '-') rest)
  let isMonth := 1 ≤ month && month ≤ 12
  if isMonth && 1 ≤ day && day ≤ daysIn (Text.valueOf 10 year) month then return rest else none

def dropFraction (text : Bytes) : Bytes :=
  match text with
  | mark :: digit :: rest =>
      if (mark == byte '.' || mark == byte ',') && Bytes.isDigit digit then
        rest.dropWhile Bytes.isDigit
      else text
  | _ => text

def time? (text : Bytes) : Option Bytes := do
  let (hour, rest) ← number? text
  let (minute, rest) ← number? (← after? (byte ':') rest)
  let (second, rest) ← number? (← after? (byte ':') rest)
  if hour < 24 && minute < 60 && second < 60 then return dropFraction rest else none

/-- Whether a text is a zone: the letter `Z`, or how far the time is ahead or behind. -/
def isZone : Bytes → Bool
  | [b] => b == byte 'Z'
  | [sign, a, b, colon, c, d] =>
      (sign == byte '+' || sign == byte '-') && [a, b, c, d].all Bytes.isDigit &&
        colon == byte ':' && Text.valueOf 10 [a, b] ≤ 24 && Text.valueOf 10 [c, d] ≤ 60
  | _ => false

def isClock (text : Bytes) : Bool :=
  if text.head? == some (byte 'T') || text.head? == some (byte 't') then
    (time? (text.drop 1)).any isZone
  else if text.head? == some (byte ' ') then
    (time? (text.dropWhile (· == byte ' '))).any List.isEmpty
  else false

def isMoment (text : Bytes) : Bool :=
  match date? text with
  | none => false
  | some rest => rest.isEmpty || isClock rest

end RegisterMachine.Document.Moment
