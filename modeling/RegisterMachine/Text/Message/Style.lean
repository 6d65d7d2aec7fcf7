import RegisterMachine.Text.Decimal
import RegisterMachine.Text.Quoted

/-! How the arguments of messages are written: padded, cut, quoted, or in another base. -/

namespace RegisterMachine.Text.Message

/-- What a mark asks of an argument. `literal` asks for the form in which a program would write it. -/
structure Style where
  left : Bool
  plus : Bool
  sharp : Bool
  space : Bool
  zero : Bool
  literal : Bool
  width : Option Nat
  precision : Option Nat
  deriving DecidableEq, Repr

structure Padding where
  after : Bool
  width : Nat
  deriving DecidableEq, Repr

def Padding.apply (fill : UInt8) (text : Bytes) (padding : Padding) : Bytes :=
  let missing := List.replicate (padding.width - (Utf8.pieces text).length) fill
  if padding.after then text ++ missing else missing ++ text

namespace Style

def plain : Style where
  left := false
  plus := false
  sharp := false
  space := false
  zero := false
  literal := false
  width := none
  precision := none

def padding? (style : Style) : Option Padding :=
  style.width.map fun width => { after := style.left, width }

def fill (style : Style) : UInt8 :=
  byte (if style.zero then '0' else ' ')

def pad (style : Style) (text : Bytes) : Bytes :=
  match style.padding? with
  | some padding => padding.apply style.fill text
  | none => text

def padBlank (style : Style) (text : Bytes) : Bytes :=
  { style with zero := false }.pad text

def cut (style : Style) (text : Bytes) : Bytes :=
  match style.precision with
  | some count => ((Utf8.pieces text).take count).flatMap Utf8.Piece.bytes
  | none => text

def text (style : Style) (t : Bytes) : Bytes :=
  style.pad (style.cut t)

def sign (style : Style) (isNegative : Bool) : Bytes :=
  if isNegative then [byte '-']
  else if style.plus then [byte '+']
  else if style.space then [byte ' ']
  else []

def hasSign (style : Style) : Bool :=
  style.plus || style.space

/-- The digits of a number, none for zero, with zeros in front up to a least number of them, in groups
of three. -/
def groupedDigits (least n : Nat) : Bytes :=
  let digits := if n = 0 then [] else Decimal.ofNat n
  let all := List.replicate (least - digits.length) (byte '0') ++ digits
  all.zipIdx.flatMap fun entry =>
    if 0 < entry.2 && (all.length - entry.2) % 3 = 0 then [byte ',', entry.1] else [entry.1]

def leastDigits (style : Style) : Nat :=
  match style.precision, style.width with
  | some precision, _ => precision % 256
  | none, some width =>
      let wanted := if style.hasSign then width - 1 else width
      if style.zero && 1 < wanted then wanted % 256 else 1
  | none, none => 1

/-- The padding of a number in groups: the width is kept in two bytes. With a precision and no width
the padding of the number before is taken. -/
def groupedPadding (style : Style) (before : Option Padding) : Option Padding :=
  match style.padding? with
  | some padding => some { padding with width := padding.width % 65536 }
  | none => if style.precision.isSome then before else none

def grouped (style : Style) (before : Option Padding) (n : Int) : Bytes × Option Padding :=
  let text := style.sign (n < 0) ++ groupedDigits style.leastDigits n.natAbs
  match style.groupedPadding before with
  | some padding => (padding.apply (byte ' ') text, some padding)
  | none => (text, none)

def digit (upper : Bool) (n : Nat) : UInt8 :=
  let found := hexDigit n
  if upper && Bytes.isLower found then found - 32 else found

def digitsIn (base : Nat) (upper : Bool) (n : Nat) : Bytes :=
  (Nat.toDigits base n).map fun c => digit upper ((hexValue? (byte c)).getD 0)

def baseMark (base : Nat) (upper : Bool) (digits : Bytes) : Bytes :=
  if base = 16 then [byte '0', byte (if upper then 'X' else 'x')]
  else if base = 8 && digits.head? ≠ some (byte '0') then [byte '0']
  else []

/-- A number in a base. A precision of zero leaves nothing of the number zero. -/
def integer (style : Style) (base : Nat) (upper : Bool) (n : Int) : Bytes :=
  if style.precision = some 0 && n = 0 then style.padBlank []
  else
    let wanted :=
      match style.precision with
      | some precision => precision
      | none =>
          if style.zero then
            style.width.getD 0 - if n < 0 || style.hasSign then 1 else 0
          else 0
    let digits := digitsIn base upper n.natAbs
    let all := List.replicate (wanted - digits.length) (byte '0') ++ digits
    let marked := if style.sharp then baseMark base upper all ++ all else all
    style.padBlank (style.sign (n < 0) ++ marked)

def characterOf (n : Nat) : Char :=
  if n < 0xD800 || (0xDFFF < n && n < 0x110000) then Char.ofNat n else Utf8.replacement

def unsigned (n : Int) : Nat :=
  (n % Int.pow 2 64).toNat

def character (style : Style) (n : Int) : Bytes :=
  style.pad (Utf8.encode (characterOf (unsigned n)))

def isAscii (c : Char) : Bool :=
  c.toNat < 0x80

def keeps (style : Style) (c : Char) : Bool :=
  isPrintable c && (isAscii c || !style.plus)

def quotedCharacter (style : Style) (mark c : Char) : Bytes :=
  if c = mark || c = '\\' then [byte '\\', byte c]
  else if style.keeps c then Utf8.encode c
  else escapeCharacter c

def quotedPiece (style : Style) : Utf8.Piece → Bytes
  | .character c => style.quotedCharacter '"' c
  | .stray b => quoteByte b

def fitsBackQuotes (text : Bytes) : Bool :=
  (Utf8.pieces text).all fun piece =>
    match piece with
    | .stray _ => false
    | .character c =>
        c ≠ '\ufeff' && c ≠ '\x60' && c ≠ '\x7f' && (0x20 ≤ c.toNat || c = '\t')

def quoted (style : Style) (text : Bytes) : Bytes :=
  let text := style.cut text
  if style.sharp && fitsBackQuotes text then style.pad ([0x60] ++ text ++ [0x60])
  else
    style.pad ([byte '"'] ++ (Utf8.pieces text).flatMap style.quotedPiece ++ [byte '"'])

def quotedNumber (style : Style) (n : Nat) : Bytes :=
  style.pad ([byte '\''] ++ style.quotedCharacter '\'' (characterOf n) ++ [byte '\''])

def codePoint (style : Style) (n : Int) : Bytes :=
  let number := unsigned n
  let digits := digitsIn 16 true number
  let zeros := List.replicate (max 4 (style.precision.getD 4) - digits.length) (byte '0')
  let isShown :=
    style.sharp && number < 0x110000 && (characterOf number).toNat = number &&
      isPrintable (characterOf number)
  let shown :=
    if isShown then utf8 " '" ++ Utf8.encode (characterOf number) ++ [byte '\''] else []
  style.padBlank (utf8 "U+" ++ zeros ++ digits ++ shown)

/-- The bytes of a text in hexadecimal. A sharp sign asks for a mark before them, and a space for one
between them, which makes the mark stand before each. -/
def bytes (style : Style) (upper : Bool) (text : Bytes) : Bytes :=
  let mark := if style.sharp then [byte '0', byte (if upper then 'X' else 'x')] else []
  let written (b : UInt8) : Bytes :=
    [digit upper (b.toNat / 16), digit upper (b.toNat % 16)]
  let shown := text.take (style.precision.getD text.length)
  if shown.isEmpty then style.pad []
  else if style.space then
    style.pad ((utf8 " ").intercalate (shown.map fun b => mark ++ written b))
  else style.pad (mark ++ shown.flatMap written)

end Style

end RegisterMachine.Text.Message
