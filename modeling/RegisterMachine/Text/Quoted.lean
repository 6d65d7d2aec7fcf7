import RegisterMachine.Text.Printable
import RegisterMachine.Text.Utf8

/-! Texts in double quotes. Quoting writes printable characters as they are and escapes all else;
unquoting also takes the other spellings of an escape. -/

namespace RegisterMachine.Text

open Utf8 (Piece)

def hexDigit (n : Nat) : UInt8 :=
  if n < 10 then byte '0' + n.toUInt8 else byte 'a' + (n - 10).toUInt8

def hexDigits : Nat → Nat → Bytes
  | 0, _ => []
  | width + 1, n => hexDigits width (n / 16) ++ [hexDigit (n % 16)]

/-- Escapes of one letter: the letter and the byte it stands for. -/
def letterEscapes : List (UInt8 × UInt8) :=
  [(byte 'a', 7), (byte 'b', 8), (byte 'f', 12), (byte 'n', 10), (byte 'r', 13), (byte 't', 9),
    (byte 'v', 11)]

def letterFor? (b : UInt8) : Option UInt8 :=
  (letterEscapes.find? fun entry => entry.2 == b).map Prod.fst

def quoteByte (b : UInt8) : Bytes :=
  byte '\\' :: byte 'x' :: hexDigits 2 b.toNat

def escapeCharacter (c : Char) : Bytes :=
  if c.toNat < 0x80 then
    match letterFor? (byte c) with
    | some letter => [byte '\\', letter]
    | none => quoteByte (byte c)
  else if c.toNat < 0x10000 then byte '\\' :: byte 'u' :: hexDigits 4 c.toNat
  else byte '\\' :: byte 'U' :: hexDigits 8 c.toNat

def quoteCharacter (c : Char) : Bytes :=
  if c = '"' || c = '\\' then [byte '\\', byte c]
  else if isPrintable c then Utf8.encode c
  else escapeCharacter c

def quotePiece : Piece → Bytes
  | .character c => quoteCharacter c
  | .stray b => quoteByte b

def quote (text : Bytes) : Bytes :=
  byte '"' :: ((Utf8.pieces text).flatMap quotePiece ++ [byte '"'])

def octalValue? (b : UInt8) : Option Nat :=
  if byte '0' ≤ b && b ≤ byte '7' then some (b - byte '0').toNat else none

def hexValue? (b : UInt8) : Option Nat :=
  if Bytes.isDigit b then some (b - byte '0').toNat
  else if byte 'a' ≤ b && b ≤ byte 'f' then some ((b - byte 'a').toNat + 10)
  else if byte 'A' ≤ b && b ≤ byte 'F' then some ((b - byte 'A').toNat + 10)
  else none

def digits? (value? : UInt8 → Option Nat) (base : Nat) : Nat → Nat → Bytes → Option (Nat × Bytes)
  | 0, n, rest => some (n, rest)
  | _ + 1, _, [] => none
  | count + 1, n, b :: rest =>
      match value? b with
      | some d => digits? value? base count (n * base + d) rest
      | none => none

def encodeNumber? (n : Nat) : Option Bytes :=
  if n < 0xD800 || (0xDFFF < n && n < 0x110000) then some (Utf8.encode (Char.ofNat n)) else none

def escape? : Bytes → Option (Bytes × Bytes)
  | [] => none
  | c :: rest =>
      match letterEscapes.lookup c with
      | some b => some ([b], rest)
      | none =>
          if c = byte '\\' || c = byte '"' then some ([c], rest)
          else if c = byte 'x' then
            match digits? hexValue? 16 2 0 rest with
            | some (n, rest) => some ([n.toUInt8], rest)
            | none => none
          else if c = byte 'u' || c = byte 'U' then
            match digits? hexValue? 16 (if c = byte 'u' then 4 else 8) 0 rest with
            | some (n, rest) => (encodeNumber? n).map fun text => (text, rest)
            | none => none
          else
            match octalValue? c with
            | none => none
            | some first =>
                match digits? octalValue? 8 2 first rest with
                | some (n, rest) => if n < 256 then some ([n.toUInt8], rest) else none
                | none => none

/-- What the first character of a quoted text stands for, and what follows it. A stray byte stands
for U+FFFD. -/
def content? : Bytes → Option (Bytes × Bytes)
  | [] => none
  | b :: rest =>
      if b = byte '\n' then none
      else if b = byte '\\' then escape? rest
      else
        match Utf8.character? (b :: rest) with
        | some (c, rest) => some (Utf8.encode c, rest)
        | none => some (Utf8.encode Utf8.replacement, rest)

theorem length_of_digits? {value? : UInt8 → Option Nat} {base count n m : Nat} {text rest : Bytes}
    (h : digits? value? base count n text = some (m, rest)) : rest.length ≤ text.length := by
  fun_induction digits? value? base count n text with
  | case1 => simp_all
  | case2 => simp at h
  | case3 count n b tail d found ih => exact Nat.le_trans (ih h) (by simp)
  | case4 => simp at h

theorem length_of_escape? {text rest bytes : Bytes}
    (h : escape? text = some (bytes, rest)) : rest.length < text.length := by
  unfold escape? at h
  grind [→ length_of_digits?, Option.map_eq_some_iff]

theorem length_of_content? {text rest bytes : Bytes}
    (h : content? text = some (bytes, rest)) : rest.length < text.length := by
  unfold content? at h
  grind [→ length_of_escape?, → Utf8.length_of_character?]

def unquoteOnto (done : List Bytes) (text : Bytes) : Option Bytes :=
  match text with
  | [] => none
  | b :: rest =>
      if b = byte '"' then
        if rest.isEmpty then some done.reverse.flatten else none
      else
        match _found : content? (b :: rest) with
        | some (bytes, rest) => unquoteOnto (bytes :: done) rest
        | none => none
termination_by text.length
decreasing_by exact length_of_content? _found

def unquote? : Bytes → Option Bytes
  | [] => none
  | b :: rest => if b = byte '"' then unquoteOnto [] rest else none

end RegisterMachine.Text
