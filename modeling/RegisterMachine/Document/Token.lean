import RegisterMachine.Document.Comment
import RegisterMachine.Document.Tag
import Std.Data.HashMap

/-! The tokens of YAML documents. Tokens tell where blocks start and end, which the text shows by
its indents only, and where keys start, which is only known at the colon after them. -/

namespace RegisterMachine.Document

/-- What a token is. The last one of a text is its end, or stands for what cannot be read. -/
inductive Sign where
  | documentStart
  | documentEnd
  | textEnd
  | unreadable
  | directive (found : Directive)
  | sequenceStart
  | mappingStart
  | blockEnd
  | entry
  | flowSequenceStart
  | flowSequenceEnd
  | flowMappingStart
  | flowMappingEnd
  | comma
  | key
  | value
  | reference (name : Bytes)
  | anchor (name : Bytes)
  | tag (found : WrittenTag)
  | scalar (text : Bytes) (isPlain : Bool)
  deriving DecidableEq, Repr

structure Token where
  sign : Sign
  line : Nat
  deriving DecidableEq, Repr

/-- A token that becomes a key if a colon follows in the same line, as long as it is `possible`. A
required one has to. -/
structure Candidate where
  possible : Bool
  required : Bool
  number : Nat
  line : Nat
  column : Nat
  deriving DecidableEq, Repr, Inhabited

/-- How far the tokens of a text are known. The first `given` ones are final. The indents of the open
blocks, and the candidates of the brackets around, come in the order in which they were met. `awaited`
gives the level of brackets of a token that is not final while it may become a key. -/
structure Scan where
  cursor : Cursor
  tokens : Array Token
  given : Nat
  indents : Array Nat
  candidates : Array Candidate
  awaited : Std.HashMap Nat Nat
  keyAllowed : Bool

namespace Scan

def noCandidate (number : Nat) (cursor : Cursor) : Candidate where
  possible := false
  required := false
  number := number
  line := cursor.line
  column := cursor.column

def start (text : List Portion) : Scan where
  cursor := Cursor.start text
  tokens := #[]
  given := 0
  indents := #[]
  candidates := #[noCandidate 0 (Cursor.start text)]
  awaited := ∅
  keyAllowed := true

def inFlow (scan : Scan) : Bool :=
  1 < scan.candidates.size

/-- The column at which the block around starts, or one less than the first column. -/
def indent (scan : Scan) : Int :=
  match scan.indents.back? with
  | none => -1
  | some column => column

def push (sign : Sign) (scan : Scan) : Scan :=
  { scan with tokens := scan.tokens.push { sign, line := scan.cursor.line + 1 } }

def take (count : Nat) (sign : Sign) (scan : Scan) : Scan :=
  let taken := scan.push sign
  { taken with cursor := taken.cursor.skip count }

def allowKey (allowed : Bool) (scan : Scan) : Scan :=
  { scan with keyAllowed := allowed }

/-- Puts a token before those from a number on. It comes last if that one is final. -/
def insertAt (given number : Nat) (token : Token) (tokens : Array Token) : Array Token :=
  if number < given then tokens.push token else tokens.insertIdxIfInBounds number token

def insert (number : Nat) (token : Token) (scan : Scan) : Scan :=
  { scan with tokens := insertAt scan.given number token scan.tokens }

def closeBlocksFrom (column : Int) : Nat → Scan → Scan
  | 0, scan => scan
  | bound + 1, scan =>
      if column < scan.indent then
        let closed : Token := { sign := .blockEnd, line := scan.cursor.line + 1 }
        closeBlocksFrom column bound
          { scan with tokens := scan.tokens.push closed, indents := scan.indents.pop }
      else scan

def closeBlocks (column : Int) (scan : Scan) : Scan :=
  if scan.inFlow then scan else closeBlocksFrom column scan.indents.size scan

def depthLimit : Nat := 10000

def openBlock? (sign : Sign) (number line column : Nat) (scan : Scan) : Option Scan :=
  if scan.inFlow || (column : Int) ≤ scan.indent then some scan
  else if depthLimit ≤ scan.indents.size then none
  else
    some
      { scan with
        tokens := insertAt scan.given number { sign, line } scan.tokens
        indents := scan.indents.push column }

def openBlockHere? (sign : Sign) (scan : Scan) : Option Scan :=
  scan.openBlock? sign scan.tokens.size (scan.cursor.line + 1) scan.cursor.column

def forget (level : Nat) (scan : Scan) : Scan :=
  match scan.candidates[level]? with
  | none => scan
  | some candidate =>
      { scan with
        candidates := scan.candidates.setIfInBounds level { candidate with possible := false }
        awaited := scan.awaited.erase candidate.number }

def dropCandidate? (scan : Scan) : Option Scan :=
  match scan.candidates.back? with
  | some candidate =>
      if !candidate.possible then some scan
      else if candidate.required then none
      else some (scan.forget (scan.candidates.size - 1))
  | none => some scan

def noteCandidate? (scan : Scan) : Option Scan :=
  if scan.keyAllowed then
    scan.dropCandidate?.map fun scan =>
      let level := scan.candidates.size - 1
      { scan with
        candidates := scan.candidates.setIfInBounds level
          { possible := true
            required := !scan.inFlow && scan.indent = scan.cursor.column
            number := scan.tokens.size
            line := scan.cursor.line
            column := scan.cursor.column }
        awaited := scan.awaited.insert scan.tokens.size level }
  else some scan

def keyLimit : Nat := 1024

/-- The candidate of a level, if it still may become a key. A required one that may not is an error. -/
def candidate? (level : Nat) (scan : Scan) : Option (Option Candidate × Scan) :=
  match scan.candidates[level]? with
  | none => some (none, scan)
  | some candidate =>
      if !candidate.possible then some (none, scan)
      else if candidate.line = scan.cursor.line &&
          scan.cursor.column ≤ candidate.column + keyLimit then some (some candidate, scan)
      else if candidate.required then none
      else some (none, scan.forget level)

/-- Moves on past white space and comments. Tabs are no white space where a key may stand. -/
def skipSpace? : Nat → Scan → Option Scan
  | 0, _ => none
  | bound + 1, scan => do
      let cursor ← scan.cursor.view? 1
      let cursor := if cursor.column == 0 && cursor.opensWithMark then cursor.skip 1 else cursor
      let cursor ← cursor.skipWhile? fun c =>
        c == ' ' || (c == '\t' && (scan.inFlow || !scan.keyAllowed))
      let cursor ←
        if cursor.rest.head? == some '#' then Cursor.skipComments? cursor.size cursor
        else some cursor
      if cursor.rest.head?.any isBreak then
        let (_, cursor) ← cursor.takeBreak?
        skipSpace? bound { scan with cursor, keyAllowed := scan.keyAllowed || !scan.inFlow }
      else return { scan with cursor }

def documentMark? (sign : Sign) (scan : Scan) : Option Scan :=
  (scan.closeBlocks (-1)).dropCandidate?.map fun scan => (scan.take 3 sign).allowKey false

def textEnd? (scan : Scan) : Option Scan :=
  let cursor :=
    if scan.cursor.column = 0 then scan.cursor
    else { scan.cursor with line := scan.cursor.line + 1, column := 0 }
  let scan := { scan with cursor }
  (scan.closeBlocks (-1)).dropCandidate?.map fun scan => (scan.push .textEnd).allowKey false

def directiveLine? (scan : Scan) : Option Scan := do
  let scan ← (scan.closeBlocks (-1)).dropCandidate?
  let (found, cursor) ← directive? scan.cursor
  return { (scan.push (.directive found)).allowKey false with cursor }

def openFlow? (sign : Sign) (scan : Scan) : Option Scan := do
  let scan ← scan.noteCandidate?
  if depthLimit < scan.candidates.size then failure
  let inner := noCandidate scan.tokens.size scan.cursor
  let opened := { scan with candidates := scan.candidates.push inner }
  return (opened.take 1 sign).allowKey true

/-- A closing bracket. The candidate between the brackets goes, and no token with its number is awaited
any more. -/
def closeFlow? (sign : Sign) (scan : Scan) : Option Scan :=
  scan.dropCandidate?.map fun scan =>
    let outer :=
      match scan.inFlow, scan.candidates.back? with
      | true, some candidate =>
          { scan with
            candidates := scan.candidates.pop
            awaited := scan.awaited.erase candidate.number }
      | _, _ => scan
    (outer.take 1 sign).allowKey false

def comma? (scan : Scan) : Option Scan :=
  scan.dropCandidate?.map fun scan => (scan.take 1 .comma).allowKey true

def entry? (scan : Scan) : Option Scan := do
  if !scan.inFlow && !scan.keyAllowed then failure
  let scan ← (← scan.openBlockHere? .sequenceStart).dropCandidate?
  return (scan.take 1 .entry).allowKey true

def key? (scan : Scan) : Option Scan := do
  if !scan.inFlow && !scan.keyAllowed then failure
  let scan ← (← scan.openBlockHere? .mappingStart).dropCandidate?
  return (scan.take 1 .key).allowKey !scan.inFlow

def value? (scan : Scan) : Option Scan := do
  let level := scan.candidates.size - 1
  let (found, scan) ← scan.candidate? level
  match found with
  | some candidate =>
      let line := candidate.line + 1
      let keyed := scan.insert candidate.number { sign := .key, line }
      let opened ← keyed.openBlock? .mappingStart candidate.number line candidate.column
      return ((opened.forget level).take 1 .value).allowKey false
  | none =>
      if !scan.inFlow && !scan.keyAllowed then failure
      let scan ← scan.openBlockHere? .mappingStart
      return (scan.take 1 .value).allowKey !scan.inFlow

def nameEnds : List Char :=
  ['?', ':', ',', ']', '\x7d', '%', '@', '\x60']

def takeTo (next : Cursor) (sign : Sign) (scan : Scan) : Scan :=
  { scan.push sign with cursor := next }

def name? (sign : Bytes → Sign) (scan : Scan) : Option Scan := do
  let scan ← scan.noteCandidate?
  let (name, next) ← (scan.cursor.skip 1).word? isNamePart
  if name.isEmpty || !(endsWord next.rest || next.rest.head?.any nameEnds.contains) then failure
  return (scan.takeTo next (sign name)).allowKey false

def writtenTag? (scan : Scan) : Option Scan := do
  let scan ← scan.noteCandidate?
  let (found, next) ← tag? scan.cursor
  return (scan.takeTo next (.tag found)).allowKey false

def blockScalar? (literal : Bool) (scan : Scan) : Option Scan := do
  let scan ← scan.dropCandidate?
  let (text, next) ← block? literal scan.indent scan.cursor
  return (scan.takeTo next (.scalar (Text.Utf8.encodeAll text) false)).allowKey true

def quotedScalar? (quote : Char) (scan : Scan) : Option Scan := do
  let scan ← scan.noteCandidate?
  let (text, next) ← quoted? quote scan.cursor
  return (scan.takeTo next (.scalar (Text.Utf8.encodeAll text) false)).allowKey false

def plainScalar? (scan : Scan) : Option Scan := do
  let scan ← scan.noteCandidate?
  let (text, next, folds) ← plain? scan.inFlow (scan.indent + 1).toNat scan.cursor
  return (scan.takeTo next (.scalar (Text.Utf8.encodeAll text) true)).allowKey folds

def isIndicator (c : Char) : Bool :=
  ['-', '?', ':', ',', '[', ']', '\x7b', '\x7d', '#', '&', '*', '!', '|', '>', '\'', '"', '%', '@',
    '\x60'].contains c

def startsPlain (flow : Bool) (c : Char) (rest : List Char) : Bool :=
  !(isSpace c || isIndicator c) || (c == '-' && !rest.head?.any isBlank) ||
    (!flow && (c == '?' || c == ':') && !endsWord rest)

def word? (c : Char) (rest : List Char) (scan : Scan) : Option Scan :=
  let stands := scan.inFlow || endsWord rest
  if c == '[' then scan.openFlow? .flowSequenceStart
  else if c == '\x7b' then scan.openFlow? .flowMappingStart
  else if c == ']' then scan.closeFlow? .flowSequenceEnd
  else if c == '\x7d' then scan.closeFlow? .flowMappingEnd
  else if c == ',' then scan.comma?
  else if c == '-' && endsWord rest then scan.entry?
  else if c == '?' && stands then scan.key?
  else if c == ':' && stands then scan.value?
  else if c == '*' then scan.name? .reference
  else if c == '&' then scan.name? .anchor
  else if c == '!' then scan.writtenTag?
  else if c == '|' && !scan.inFlow then scan.blockScalar? true
  else if c == '>' && !scan.inFlow then scan.blockScalar? false
  else if c == '\'' || c == '"' then scan.quotedScalar? c
  else if startsPlain scan.inFlow c rest then scan.plainScalar?
  else none

def skipLineComment? (scan : Scan) : Option Scan :=
  match scan.tokens.back? with
  | some { sign := .entry, .. } => some scan
  | _ => scan.cursor.skipLineComment?.map fun cursor => { scan with cursor }

/-- The next token after white space. Blocks end before it that it is not indented enough for. -/
def next? (scan : Scan) : Option Scan := do
  let scan ← skipSpace? scan.cursor.size scan
  let scan := scan.closeBlocks scan.cursor.column
  let cursor ← scan.cursor.view? 4
  let scan := { scan with cursor }
  match cursor.rest with
  | [] => scan.textEnd?
  | c :: rest =>
      if cursor.column = 0 && c = '%' then scan.directiveLine?
      else if cursor.isMark '-' then scan.documentMark? .documentStart
      else if cursor.isMark '.' then scan.documentMark? .documentEnd
      else (← scan.word? c rest).skipLineComment?

/-- The number of tokens that are known when one becomes final, with that. -/
def lookahead : Nat := 3

def isSettled? (scan : Scan) : Option (Bool × Scan) :=
  if scan.tokens.size < scan.given + lookahead then some (false, scan)
  else
    match scan.awaited[scan.given]? with
    | none => some (true, scan)
    | some level => (scan.candidate? level).map fun (found, scan) => (found.isNone, scan)

/-- The tokens up to the end of the text, or to what cannot be read. Those that are final lie behind in
reverse. -/
def finish : Nat → List Token → Scan → List Token
  | 0, done, _ => ({ sign := .unreadable, line := 0 } :: done).reverse
  | bound + 1, done, scan =>
      match scan.isSettled? with
      | none => ({ sign := .unreadable, line := 0 } :: done).reverse
      | some (true, scan) =>
          match scan.tokens[scan.given]? with
          | none => done.reverse
          | some token =>
              if token.sign = .textEnd then (token :: done).reverse
              else finish bound (token :: done) { scan with given := scan.given + 1 }
      | some (false, scan) =>
          match scan.next? with
          | none => ({ sign := .unreadable, line := 0 } :: done).reverse
          | some scan => finish bound done scan

end Scan

/-- The tokens of a text. Each takes a character at least, but for those that open and close blocks and
keys. -/
def Token.scan (text : Bytes) : List Token :=
  let scan := Scan.start (Portion.ofBytes text)
  scan.finish (16 * scan.cursor.size) []

end RegisterMachine.Document
