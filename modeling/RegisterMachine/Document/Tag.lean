import RegisterMachine.Document.Scalar
import RegisterMachine.Text.Digits

/-! The tags and directives of YAML documents. A tag is written with a handle that a directive may
declare, or as a whole between angle brackets. -/

namespace RegisterMachine.Document

/-- A tag as it is written. One without handle is complete. -/
structure WrittenTag where
  handle : Bytes
  suffix : Bytes
  deriving DecidableEq, Repr

inductive Directive where
  | version (major minor : Nat)
  | tag (handle replacement : Bytes)
  deriving DecidableEq, Repr

def isNamePart (c : Char) : Bool :=
  c.isAlphanum || c == '_' || c == '-'

def isTagPart (c : Char) : Bool :=
  isNamePart c || [';', '/', '?', ':', '@', '&', '=', '+', '$', ',', '.', '!', '~', '*', '\'', '(',
    ')', '[', ']'].contains c

def escapedByte? (cursor : Cursor) : Option (UInt8 × Cursor) := do
  let cursor ← cursor.view? 3
  match cursor.rest with
  | '%' :: a :: b :: _ =>
      let high ← hexValue? a
      let low ← hexValue? b
      return ((high * 16 + low).toUInt8, cursor.skip 3)
  | _ => none

def escapedTail? : Nat → Bytes → Cursor → Option (Bytes × Cursor)
  | 0, done, cursor => some (done, cursor)
  | count + 1, done, cursor => do
      let (found, cursor) ← escapedByte? cursor
      if 0x80 ≤ found && found < 0xC0 then escapedTail? count (done ++ [found]) cursor else none

def escapedCharacter? (cursor : Cursor) : Option (Bytes × Cursor) := do
  let (lead, cursor) ← escapedByte? cursor
  let length ← Encoding.lengthOf? lead
  escapedTail? (length - 1) [lead] cursor

def tagTextOnto? : Nat → Bytes → Cursor → Option (Bytes × Cursor)
  | 0, _, _ => none
  | bound + 1, done, cursor => do
      let cursor ← cursor.view? 1
      match cursor.rest with
      | [] => return (done.reverse, cursor)
      | c :: _ =>
          if c == '%' then
            let (found, cursor) ← escapedCharacter? cursor
            tagTextOnto? bound (found.reverse ++ done) cursor
          else if isTagPart c then
            tagTextOnto? bound ((Text.Utf8.encode c).reverse ++ done) (cursor.skip 1)
          else return (done.reverse, cursor)

def tagText? (cursor : Cursor) : Option (Bytes × Cursor) :=
  tagTextOnto? cursor.size [] cursor

def someTagText? (cursor : Cursor) : Option (Bytes × Cursor) := do
  let start ← cursor.view? 1
  if start.rest.head?.any fun c => c == '%' || isTagPart c then tagText? start else none

/-- The exclamation mark and the name of a handle, and the place after them. A second mark completes
the handle. -/
def handle? (cursor : Cursor) : Option (Bytes × Bool × Cursor) := do
  let cursor ← cursor.view? 1
  if cursor.rest.head? ≠ some '!' then failure
  let (name, cursor) ← (cursor.skip 1).word? isNamePart
  if cursor.rest.head? == some '!' then
    return (byte '!' :: name ++ [byte '!'], true, cursor.skip 1)
  else return (byte '!' :: name, false, cursor)

def verbatimTag? (cursor : Cursor) : Option (WrittenTag × Cursor) := do
  let (suffix, cursor) ← someTagText? (cursor.skip 2)
  if cursor.rest.head? == some '>' then return ({ handle := [], suffix }, cursor.skip 1) else none

/-- A tag with a handle. An exclamation mark alone is a complete tag. -/
def shorthandTag? (cursor : Cursor) : Option (WrittenTag × Cursor) := do
  let (handle, isComplete, cursor) ← handle? cursor
  if isComplete then
    let (suffix, cursor) ← someTagText? cursor
    return ({ handle, suffix }, cursor)
  else
    let (rest, cursor) ← tagText? cursor
    let suffix := handle.drop 1 ++ rest
    if suffix.isEmpty then return ({ handle := [], suffix := utf8 "!" }, cursor)
    else return ({ handle := utf8 "!", suffix }, cursor)

def tag? (cursor : Cursor) : Option (WrittenTag × Cursor) := do
  let cursor ← cursor.view? 2
  let (found, cursor) ←
    if cursor.rest[1]? == some '<' then verbatimTag? cursor else shorthandTag? cursor
  let cursor ← cursor.view? 1
  if endsWord cursor.rest then return (found, cursor) else none

def versionNumber? (cursor : Cursor) : Option (Nat × Cursor) := do
  let (digits, cursor) ← cursor.word? Char.isDigit
  if digits.isEmpty || 2 < digits.length then none else return (Text.valueOf 10 digits, cursor)

def versionDirective? (cursor : Cursor) : Option (Directive × Cursor) := do
  let cursor ← cursor.skipWhile? isBlank
  let (major, cursor) ← versionNumber? cursor
  if cursor.rest.head? ≠ some '.' then failure
  let (minor, cursor) ← versionNumber? (cursor.skip 1)
  return (.version major minor, cursor)

def tagDirective? (cursor : Cursor) : Option (Directive × Cursor) := do
  let cursor ← cursor.skipWhile? isBlank
  let (handle, isComplete, cursor) ← handle? cursor
  if !isComplete && handle ≠ utf8 "!" then failure
  let cursor ← cursor.view? 1
  if !cursor.rest.head?.any isBlank then failure
  let cursor ← cursor.skipWhile? isBlank
  let (replacement, cursor) ← someTagText? cursor
  let cursor ← cursor.view? 1
  if endsWord cursor.rest then return (.tag handle replacement, cursor) else none

def directive? (cursor : Cursor) : Option (Directive × Cursor) := do
  let (name, cursor) ← (cursor.skip 1).word? isNamePart
  if !endsWord cursor.rest then failure
  let (found, cursor) ←
    if name == utf8 "YAML" then versionDirective? cursor
    else if name == utf8 "TAG" then tagDirective? cursor
    else none
  return (found, ← cursor.skipLineEnd?)

end RegisterMachine.Document
