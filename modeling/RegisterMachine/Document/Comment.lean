import RegisterMachine.Document.Cursor

/-! The comments of YAML documents. Comments in lines that follow each other belong together, whatever
white space there is between them. -/

namespace RegisterMachine.Document.Cursor

def commentRange : Nat := 512

/-- Where the next comment starts, from a place `ahead` of the cursor on, if there are only characters
with a property before it. The first argument bounds what is still looked at. -/
def commentAhead? (p : Char → Bool) : Nat → Nat → Cursor → Option (Option Nat × Cursor)
  | 0, _, cursor => some (none, cursor)
  | bound + 1, ahead, cursor => do
      let cursor ← cursor.view? (ahead + 1)
      match cursor.rest[ahead]? with
      | some c =>
          if p c then commentAhead? p bound (ahead + 1) cursor
          else if c == '#' then some (some ahead, cursor)
          else some (none, cursor)
      | none => some (none, cursor)

def advance? : Nat → Nat → Cursor → Option Cursor
  | _, 0, cursor => some cursor
  | 0, _, _ => none
  | bound + 1, count, cursor => do
      let cursor ← cursor.view? 1
      if cursor.rest.head?.any isBreak then
        let cursor ← cursor.view? 2
        advance? bound (count - breakLength cursor.rest) cursor.skipBreak
      else advance? bound (count - 1) (cursor.skip 1)

def skipLine? (cursor : Cursor) : Option Cursor :=
  cursor.skipWhile? fun c => !isBreak c

def isAsciiSpace (c : Char) : Bool :=
  isBlank c || c == '\n' || c == '\r'

def endsWide (cursor : Cursor) : Bool :=
  cursor.rest.head?.any fun c => isBreak c && !isAsciiSpace c

/-- Moves on past the comment at which the cursor is, and past those that follow it. None follows a
line that ends in a wide break. -/
def skipComments? : Nat → Cursor → Option Cursor
  | 0, _ => none
  | bound + 1, cursor => do
      let cursor ← cursor.skipLine?
      if cursor.endsWide then return cursor
      let (found, cursor) ← cursor.commentAhead? isAsciiSpace (commentRange - 1) 1
      match found with
      | some ahead => do
          let cursor ← advance? ahead ahead cursor
          skipComments? bound cursor
      | none => some cursor

def skipLineComment? (cursor : Cursor) : Option Cursor := do
  if 0 < cursor.breaks then return cursor
  let (found, cursor) ← cursor.commentAhead? isBlank commentRange 0
  match found with
  | some ahead => (← advance? ahead ahead cursor).skipLine?
  | none => return cursor

end RegisterMachine.Document.Cursor
