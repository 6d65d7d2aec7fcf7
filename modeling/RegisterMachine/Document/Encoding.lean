import RegisterMachine.Text.Utf8

/-! How the bytes of a YAML document become characters. They are decoded in portions as they arrive:
what lies further on than a reader goes is never looked at. -/

namespace RegisterMachine.Document

inductive Encoding where
  | utf8
  | utf16 (bigEndian : Bool)
  deriving DecidableEq, Repr

/-- The character that bytes start with, and the number of its bytes. Bytes may be missing, or make up
no character. -/
inductive Decoded where
  | character (c : Char) (length : Nat)
  | incomplete
  | invalid
  deriving DecidableEq, Repr

def isAllowed (c : Char) : Bool :=
  let n := c.toNat
  n == 0x09 || n == 0x0A || n == 0x0D || (0x20 ≤ n && n ≤ 0x7E) || n == 0x85 ||
    (0xA0 ≤ n && n ≤ 0xD7FF) || (0xE000 ≤ n && n ≤ 0xFFFD) || 0x10000 ≤ n

namespace Encoding

def lengthOf? (lead : UInt8) : Option Nat :=
  if lead < 0x80 then some 1
  else if lead < 0xC0 then none
  else if lead < 0xE0 then some 2
  else if lead < 0xF0 then some 3
  else if lead < 0xF8 then some 4
  else none

def nextUtf8 (text : Bytes) : Decoded :=
  match text.head?.bind lengthOf? with
  | none => .invalid
  | some length =>
      if (text.take length).length < length then .incomplete
      else
        match Text.Utf8.character? text with
        | some (c, _) => .character c length
        | none => .invalid

def unit (bigEndian : Bool) (a b : UInt8) : Nat :=
  if bigEndian then a.toNat * 256 + b.toNat else b.toNat * 256 + a.toNat

def isHighSurrogate (n : Nat) : Bool :=
  0xD800 ≤ n && n ≤ 0xDBFF

def isLowSurrogate (n : Nat) : Bool :=
  0xDC00 ≤ n && n ≤ 0xDFFF

def nextUtf16 (bigEndian : Bool) : Bytes → Decoded
  | a :: b :: rest =>
      let first := unit bigEndian a b
      if isLowSurrogate first then .invalid
      else if isHighSurrogate first then
        match rest with
        | c :: d :: _ =>
            let second := unit bigEndian c d
            if isLowSurrogate second then
              .character (Char.ofNat (0x10000 + first % 0x400 * 0x400 + second % 0x400)) 4
            else .invalid
        | _ => .incomplete
      else .character (Char.ofNat first) 2
  | _ => .incomplete

def next (text : Bytes) : Encoding → Decoded
  | .utf8 => nextUtf8 text
  | .utf16 bigEndian => nextUtf16 bigEndian text

def ofMark (text : Bytes) : Encoding × Nat :=
  if text.take 2 == [0xFF, 0xFE] then (.utf16 false, 2)
  else if text.take 2 == [0xFE, 0xFF] then (.utf16 true, 2)
  else if text.take 3 == [0xEF, 0xBB, 0xBF] then (.utf8, 3)
  else (.utf8, 0)

/-- Decodes all characters that are complete, each of a byte at least, after those in `done`, which are
in reverse. The bytes that are left follow. -/
def decodeOnto? (encoding : Encoding) : Nat → List Char → Bytes → Option (List Char × Bytes)
  | 0, done, text => some (done.reverse, text)
  | bound + 1, done, text =>
      if text.isEmpty then some (done.reverse, [])
      else
        match encoding.next text with
        | .incomplete => some (done.reverse, text)
        | .invalid => none
        | .character c length =>
            if isAllowed c then decodeOnto? encoding bound (c :: done) (text.drop length) else none

end Encoding

inductive Portion where
  | characters (text : List Char)
  | unreadable
  deriving DecidableEq, Repr

namespace Portion

def capacity : Nat := 512

/-- The portions of a text of which some bytes are held and others come later. -/
def ofHeld (encoding : Encoding) : Nat → Bytes → Bytes → List Portion
  | 0, _, _ => [unreadable]
  | bound + 1, held, later =>
      match encoding.decodeOnto? capacity [] held with
      | none => [unreadable]
      | some (text, left) =>
          if later.isEmpty then if left.isEmpty then [characters text] else [characters text, unreadable]
          else
            let room := capacity - left.length
            characters text :: ofHeld encoding bound (left ++ later.take room) (later.drop room)

def ofBytes (text : Bytes) : List Portion :=
  let (encoding, length) := Encoding.ofMark text
  ofHeld encoding (text.length + 1) ((text.take capacity).drop length) (text.drop capacity)

def size : Portion → Nat
  | .characters text => text.length
  | .unreadable => 0

end Portion

end RegisterMachine.Document
