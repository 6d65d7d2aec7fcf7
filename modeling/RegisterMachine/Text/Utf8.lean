import RegisterMachine.Bytes

/-! UTF-8 in byte strings that may hold anything. A byte that belongs to no encoded character stands
for itself. -/

namespace RegisterMachine.Text.Utf8

def encode (c : Char) : Bytes :=
  let n := c.toNat
  if n < 0x80 then
    [n.toUInt8]
  else if n < 0x800 then
    [(0xC0 + n / 64).toUInt8, (0x80 + n % 64).toUInt8]
  else if n < 0x10000 then
    [(0xE0 + n / 4096).toUInt8, (0x80 + n / 64 % 64).toUInt8, (0x80 + n % 64).toUInt8]
  else
    [(0xF0 + n / 262144).toUInt8, (0x80 + n / 4096 % 64).toUInt8, (0x80 + n / 64 % 64).toUInt8,
      (0x80 + n % 64).toUInt8]

def isContinuation (b : UInt8) : Bool :=
  0x80 ≤ b && b ≤ 0xBF

/-- The second byte of a sequence. Its range keeps out overlong forms, surrogates and numbers past
the last character. -/
def isSecond (lead b : UInt8) : Bool :=
  (if lead = 0xE0 then 0xA0 else if lead = 0xF0 then 0x90 else 0x80) ≤ b &&
    b ≤ (if lead = 0xED then 0x9F else if lead = 0xF4 then 0x8F else 0xBF)

def character? : Bytes → Option (Char × Bytes)
  | [] => none
  | a :: rest =>
      if a < 0x80 then
        some (Char.ofNat a.toNat, rest)
      else if a < 0xC2 then
        none
      else if a < 0xE0 then
        match rest with
        | b :: rest =>
            if isContinuation b then
              some (Char.ofNat ((a.toNat - 0xC0) * 64 + (b.toNat - 0x80)), rest)
            else none
        | _ => none
      else if a < 0xF0 then
        match rest with
        | b :: c :: rest =>
            if isSecond a b && isContinuation c then
              some (Char.ofNat
                ((a.toNat - 0xE0) * 4096 + (b.toNat - 0x80) * 64 + (c.toNat - 0x80)), rest)
            else none
        | _ => none
      else if a < 0xF5 then
        match rest with
        | b :: c :: d :: rest =>
            if isSecond a b && isContinuation c && isContinuation d then
              some (Char.ofNat
                ((a.toNat - 0xF0) * 262144 + (b.toNat - 0x80) * 4096 + (c.toNat - 0x80) * 64 +
                  (d.toNat - 0x80)), rest)
            else none
        | _ => none
      else none

/-- Whether more bytes could still complete a first character. -/
def isPartial : Bytes → Bool
  | [] => true
  | [a] => 0xC2 ≤ a && a < 0xF5
  | [a, b] => 0xE0 ≤ a && a < 0xF5 && isSecond a b
  | [a, b, c] => 0xF0 ≤ a && a < 0xF5 && isSecond a b && isContinuation c
  | _ => false

/-- A part of a byte string: an encoded character, or a byte outside of any. -/
inductive Piece where
  | character (c : Char)
  | stray (b : UInt8)
  deriving DecidableEq, Repr

def replacement : Char := '�'

def Piece.char : Piece → Char
  | .character c => c
  | .stray _ => replacement

def Piece.bytes : Piece → Bytes
  | .character c => encode c
  | .stray b => [b]

def next? : Bytes → Option (Piece × Bytes)
  | [] => none
  | a :: rest =>
      match character? (a :: rest) with
      | some (c, rest) => some (.character c, rest)
      | none => some (.stray a, rest)

theorem length_of_character? {text rest : Bytes} {c : Char}
    (h : character? text = some (c, rest)) : rest.length < text.length := by
  unfold character? at h
  grind

theorem length_of_next? {text rest : Bytes} {piece : Piece}
    (h : next? text = some (piece, rest)) : rest.length < text.length := by
  unfold next? at h
  grind [→ length_of_character?]

def piecesOnto (done : List Piece) (text : Bytes) : List Piece :=
  match _found : next? text with
  | none => done.reverse
  | some (piece, rest) => piecesOnto (piece :: done) rest
termination_by text.length
decreasing_by exact length_of_next? _found

def pieces (text : Bytes) : List Piece :=
  piecesOnto [] text

/-- The characters of a byte string, a stray byte read as U+FFFD. -/
def decode (text : Bytes) : List Char :=
  (pieces text).map Piece.char

def encodeAll (text : List Char) : Bytes :=
  text.flatMap encode

def Piece.isCharacter : Piece → Bool
  | .character _ => true
  | .stray _ => false

def isValid (text : Bytes) : Bool :=
  (pieces text).all Piece.isCharacter

end RegisterMachine.Text.Utf8
