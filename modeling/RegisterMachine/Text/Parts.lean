import RegisterMachine.Text.Blank
import RegisterMachine.Text.Utf8

/-! Searching in byte strings and taking them apart. -/

namespace RegisterMachine.Text

open Utf8 (Piece)

def indexFrom? (part : Bytes) (place : Nat) : Bytes → Option Nat
  | [] => if part.isEmpty then some place else none
  | b :: rest =>
      if part.isPrefixOf (b :: rest) then some place else indexFrom? part (place + 1) rest

def indexOf? (part text : Bytes) : Option Nat :=
  indexFrom? part 0 text

def lastIndexOf? (part text : Bytes) : Option Nat :=
  (indexOf? part.reverse text.reverse).map fun i => text.length - i - part.length

def splitOnto (separator : Bytes) (done : List Bytes) : Nat → Bytes → List Bytes
  | 0, text => (text :: done).reverse
  | limit + 1, text =>
      match indexOf? separator text with
      | none => (text :: done).reverse
      | some i =>
          splitOnto separator (text.take i :: done) limit (text.drop (i + separator.length))

def splitUpTo (limit : Nat) (separator text : Bytes) : List Bytes :=
  splitOnto separator [] limit text

def splitAll (separator text : Bytes) : List Bytes :=
  splitUpTo (text.length + 1) separator text

/-- How often a part is in a text, one after the other. Nothing is before each character and at the
end. -/
def occurrences (part text : Bytes) : Nat :=
  if part.isEmpty then (Utf8.pieces text).length + 1 else (splitAll part text).length - 1

/-- A text with something put before its first characters, and at the end if there is still `limit`
left for it. -/
def interleave (between : Bytes) : Nat → List Piece → Bytes
  | 0, pieces => pieces.flatMap Piece.bytes
  | _ + 1, [] => between
  | limit + 1, piece :: rest => between ++ piece.bytes ++ interleave between limit rest

def replaceUpTo (limit : Nat) (part replacement text : Bytes) : Bytes :=
  if part.isEmpty then interleave replacement limit (Utf8.pieces text)
  else replacement.intercalate (splitUpTo limit part text)

def isBlankPiece (piece : Piece) : Bool :=
  isBlank piece.char

def joinPieces (pieces : List Piece) : Bytes :=
  pieces.flatMap Piece.bytes

/-- The words among the parts of a text, of which at most `limit` are cut off before the rest.
`current` is the word that is being read, in reverse. -/
def wordsOnto (done : List (List Piece)) (current : List Piece) (limit : Nat) :
    List Piece → List (List Piece)
  | [] => (if current.isEmpty then done else current.reverse :: done).reverse
  | piece :: rest =>
      if isBlankPiece piece then
        if current.isEmpty then wordsOnto done [] limit rest
        else if limit = 0 then ((current.reverse ++ piece :: rest) :: done).reverse
        else wordsOnto (current.reverse :: done) [] (limit - 1) rest
      else wordsOnto done (piece :: current) limit rest

/-- The words of a text. The one after the first `limit` goes up to the end. -/
def wordsUpTo (limit : Nat) (text : Bytes) : List Bytes :=
  (wordsOnto [] [] limit (Utf8.pieces text)).map joinPieces

/-- The words of a text. The one before the last `limit` goes back to the start. -/
def lastWordsUpTo (limit : Nat) (text : Bytes) : List Bytes :=
  ((wordsOnto [] [] limit (Utf8.pieces text).reverse).map fun word => joinPieces word.reverse).reverse

def trimLeft (isTrimmed : Char → Bool) (text : Bytes) : Bytes :=
  joinPieces ((Utf8.pieces text).dropWhile fun piece => isTrimmed piece.char)

def trimRight (isTrimmed : Char → Bool) (text : Bytes) : Bytes :=
  joinPieces ((Utf8.pieces text).reverse.dropWhile fun piece => isTrimmed piece.char).reverse

end RegisterMachine.Text
