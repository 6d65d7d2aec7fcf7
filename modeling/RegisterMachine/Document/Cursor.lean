import RegisterMachine.Document.Encoding

/-! Places in the text of a YAML document, and the white space between its words. -/

namespace RegisterMachine.Document

def isBreak (c : Char) : Bool :=
  c == '\n' || c == '\r' || c == '\u0085' || c == '\u2028' || c == '\u2029'

def isBlank (c : Char) : Bool :=
  c == ' ' || c == '\t'

def isSpace (c : Char) : Bool :=
  isBlank c || isBreak c

def endsWord : List Char → Bool
  | [] => true
  | c :: _ => isSpace c

def endsLine : List Char → Bool
  | [] => true
  | c :: _ => isBreak c

def breakLength : List Char → Nat
  | '\r' :: '\n' :: _ => 2
  | c :: _ => if isBreak c then 1 else 0
  | [] => 0

def breakText (c : Char) : Char :=
  if c == '\u2028' || c == '\u2029' then c else '\n'

def byteOrderMark : Char := '\ufeff'

/-- A place in a text: what is in view of it, and what comes later. The place after the end may be in
view too, any number of times. `opensWithMark` tells whether the view began with a byte order mark when
it was last widened, and `breaks` counts the line breaks since the last character that is not blank.
Lines and columns count from zero; `size` is more than the number of steps through the text. -/
structure Cursor where
  rest : List Char
  inView : Nat
  later : List Portion
  opensWithMark : Bool
  line : Nat
  column : Nat
  breaks : Nat
  size : Nat
  deriving Repr

namespace Cursor

def start (text : List Portion) : Cursor where
  rest := []
  inView := 0
  later := text
  opensWithMark := false
  line := 0
  column := 0
  breaks := 0
  size := (text.map Portion.size).foldl (· + ·) 8

/-- Portions are added to a view until it is wide enough, or the end of the text is. -/
def widen? (wanted : Nat) (rest : List Char) (inView : Nat) :
    List Portion → Option (List Char × Nat × List Portion)
  | [] => some (rest, inView + 1, [])
  | .unreadable :: _ => none
  | .characters text :: later =>
      let wider := inView + text.length
      if wanted ≤ wider then some (rest ++ text, wider, later)
      else widen? wanted (rest ++ text) wider later

def view? (wanted : Nat) (cursor : Cursor) : Option Cursor :=
  if wanted ≤ cursor.inView then some cursor
  else
    match widen? wanted cursor.rest cursor.inView cursor.later with
    | none => none
    | some (rest, inView, later) =>
        some { cursor with rest, inView, later, opensWithMark := rest.head? == some byteOrderMark }

def skip (count : Nat) (cursor : Cursor) : Cursor :=
  { cursor with
    rest := cursor.rest.drop count
    inView := cursor.inView - count
    column := cursor.column + count
    breaks := if (cursor.rest.take count).all isBlank then cursor.breaks else 0 }

def skipBreak (cursor : Cursor) : Cursor :=
  match breakLength cursor.rest with
  | 0 => cursor
  | count =>
      { cursor with
        rest := cursor.rest.drop count
        inView := cursor.inView - count
        line := cursor.line + 1
        column := 0
        breaks := cursor.breaks + 1 }

def takeBreak? (cursor : Cursor) : Option (List Char × Cursor) := do
  let cursor ← cursor.view? 2
  match cursor.rest with
  | c :: _ => if isBreak c then some ([breakText c], cursor.skipBreak) else some ([], cursor)
  | [] => some ([], cursor)

def takeWhile? (p : Char → Bool) : Nat → List Char → Cursor → Option (List Char × Cursor)
  | 0, _, _ => none
  | bound + 1, done, cursor =>
      match cursor.rest with
      | [] => some (done.reverse, cursor)
      | c :: _ =>
          if p c then do
            let cursor ← (cursor.skip 1).view? 1
            takeWhile? p bound (c :: done) cursor
          else some (done.reverse, cursor)

def skipWhile? (p : Char → Bool) (cursor : Cursor) : Option Cursor := do
  let cursor ← cursor.view? 1
  let (_, cursor) ← takeWhile? p cursor.size [] cursor
  return cursor

def word? (p : Char → Bool) (cursor : Cursor) : Option (Bytes × Cursor) := do
  let cursor ← cursor.view? 1
  let (word, cursor) ← takeWhile? p cursor.size [] cursor
  return (Text.Utf8.encodeAll word, cursor)

def skipLineEnd? (cursor : Cursor) : Option Cursor := do
  let cursor ← cursor.skipWhile? isBlank
  let cursor ←
    if cursor.rest.head? == some '#' then cursor.skipWhile? fun c => !isBreak c else some cursor
  if endsLine cursor.rest then
    let (_, cursor) ← cursor.takeBreak?
    return cursor
  else none

def isMark (c : Char) (cursor : Cursor) : Bool :=
  cursor.column == 0 && cursor.rest.take 3 == [c, c, c] && endsWord (cursor.rest.drop 3)

def isDocumentMark (cursor : Cursor) : Bool :=
  cursor.isMark '-' || cursor.isMark '.'

end Cursor

/-- White space between words: blanks of one line, or line breaks with no blanks around them. The
last come first. -/
structure Gap where
  blanks : List Char
  breaks : List Char
  folds : Bool

namespace Gap

def empty : Gap where
  blanks := []
  breaks := []
  folds := false

def afterEscape : Gap where
  blanks := []
  breaks := []
  folds := true

/-- A single line break becomes a blank, and the first of several is left out. -/
def fold : List Char → List Char
  | [] => []
  | ['\n'] => [' ']
  | '\n' :: rest => rest
  | breaks => breaks

def text (gap : Gap) : List Char :=
  if gap.folds then fold gap.breaks.reverse else gap.blanks.reverse

end Gap

/-- White space, and the place after it. Past a line break no tab stands before column `limit`. -/
def gapOnto? (limit : Nat) : Nat → Gap → Cursor → Option (Gap × Cursor)
  | 0, _, _ => none
  | bound + 1, gap, cursor =>
      match cursor.rest with
      | [] => some (gap, cursor)
      | c :: _ =>
          if isBlank c then
            if gap.folds && c == '\t' && cursor.column < limit then none
            else do
              let gap := if gap.folds then gap else { gap with blanks := c :: gap.blanks }
              let cursor ← (cursor.skip 1).view? 1
              gapOnto? limit bound gap cursor
          else if isBreak c then do
            let (found, cursor) ← cursor.takeBreak?
            let cursor ← cursor.view? 1
            gapOnto? limit bound { blanks := [], breaks := found ++ gap.breaks, folds := true } cursor
          else some (gap, cursor)

def Cursor.gap? (limit : Nat) (cursor : Cursor) : Option (Gap × Cursor) :=
  gapOnto? limit cursor.size Gap.empty cursor

end RegisterMachine.Document
