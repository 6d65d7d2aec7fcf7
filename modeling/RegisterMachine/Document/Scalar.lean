import RegisterMachine.Document.Cursor
import RegisterMachine.Text.Quoted

/-! The texts in YAML documents: plain ones, quoted ones, and blocks of lines. Each is read from its
first character on, and lines that were broken inside of it are joined. -/

namespace RegisterMachine.Document

def isFlowSign (c : Char) : Bool :=
  c == ',' || c == '?' || c == '[' || c == ']' || c == '\x7b' || c == '\x7d'

def plainRun? (flow : Bool) : Nat → List Char → Cursor → Option (List Char × Cursor)
  | 0, _, _ => none
  | bound + 1, done, cursor =>
      match cursor.rest with
      | [] => some (done, cursor)
      | c :: rest =>
          if isSpace c || (c == ':' && endsWord rest) || (flow && isFlowSign c) then
            some (done, cursor)
          else do
            let cursor ← (cursor.skip 1).view? 2
            plainRun? flow bound (c :: done) cursor

/-- A plain text goes on, `done` in reverse and then `pending` lying behind. Its lines start at
column `limit` at least. The result tells, too, whether a line break follows the text. -/
def plainOnto? (flow : Bool) (limit : Nat) :
    Nat → List Char → List Char → Bool → Cursor → Option (List Char × Cursor × Bool)
  | 0, _, _, _, _ => none
  | bound + 1, done, pending, folds, cursor => do
      let cursor ← cursor.view? 4
      if cursor.isDocumentMark || cursor.rest.head? == some '#' then
        return (done.reverse, cursor, folds)
      let (run, after) ← plainRun? flow cursor.size [] cursor
      let done := if run.isEmpty then done else run ++ (pending.reverse ++ done)
      let folds := folds && run.isEmpty
      if !after.rest.head?.any isSpace then return (done.reverse, after, folds)
      let (gap, next) ← (← after.view? 1).gap? limit
      if !flow && next.column < limit then return (done.reverse, next, gap.folds)
      plainOnto? flow limit bound done gap.text gap.folds next

def plain? (flow : Bool) (limit : Nat) (cursor : Cursor) : Option (List Char × Cursor × Bool) :=
  plainOnto? flow limit cursor.size [] [] false cursor

def letterEscapes : List (Char × Char) :=
  [('0', '\x00'), ('a', '\x07'), ('b', '\x08'), ('t', '\t'), ('\t', '\t'), ('n', '\n'),
    ('v', '\x0b'), ('f', '\x0c'), ('r', '\r'), ('e', '\x1b'), (' ', ' '), ('"', '"'),
    ('\'', '\''), ('\\', '\\'), ('N', '\u0085'), ('_', '\u00a0'), ('L', '\u2028'),
    ('P', '\u2029')]

def escapeDigits? (c : Char) : Option Nat :=
  if c == 'x' then some 2 else if c == 'u' then some 4 else if c == 'U' then some 8 else none

def hexValue? (c : Char) : Option Nat :=
  if c.toNat < 0x80 then Text.hexValue? (byte c) else none

def numbered? (count : Nat) (text : List Char) : Option Char :=
  match (text.take count).mapM hexValue? with
  | none => none
  | some digits =>
      let n := digits.foldl (fun n d => n * 16 + d) 0
      if digits.length < count || (0xD800 ≤ n && n ≤ 0xDFFF) || 0x10FFFF < n then none
      else some (Char.ofNat n)

def escape? (cursor : Cursor) : Option (Char × Cursor) := do
  let c ← cursor.rest[1]?
  match letterEscapes.lookup c with
  | some found => return (found, cursor.skip 2)
  | none =>
      let count ← escapeDigits? c
      let cursor ← (cursor.skip 2).view? count
      let found ← numbered? count cursor.rest
      return (found, cursor.skip count)

/-- A quoted text goes on up to white space, its closing quote, or a line break that does not count. A
quote that is written twice stands for itself between single quotes, and a backslash starts an escape
between double quotes. The result tells whether the text ends at such a line break. -/
def quotedRun? (quote : Char) : Nat → List Char → Cursor → Option (List Char × Cursor × Bool)
  | 0, _, _ => none
  | bound + 1, done, cursor =>
      match cursor.rest with
      | [] => some (done, cursor, false)
      | c :: rest =>
          if isSpace c then some (done, cursor, false)
          else if c == quote then
            if quote == '\'' && rest.head? == some quote then do
              let cursor ← (cursor.skip 2).view? 2
              quotedRun? quote bound (c :: done) cursor
            else some (done, cursor, false)
          else if quote == '"' && c == '\\' then
            if rest.head?.any isBreak then do
              let cursor ← cursor.view? 3
              return (done, (cursor.skip 1).skipBreak, true)
            else do
              let (found, cursor) ← escape? cursor
              let cursor ← cursor.view? 2
              quotedRun? quote bound (found :: done) cursor
          else do
            let cursor ← (cursor.skip 1).view? 2
            quotedRun? quote bound (c :: done) cursor

def quotedOnto? (quote : Char) : Nat → List Char → Cursor → Option (List Char × Cursor)
  | 0, _, _ => none
  | bound + 1, done, cursor => do
      let cursor ← cursor.view? 4
      if cursor.isDocumentMark || cursor.rest.isEmpty then failure
      let (done, cursor, escaped) ← quotedRun? quote cursor.size done cursor
      let cursor ← cursor.view? 1
      if cursor.rest.head? == some quote then return (done.reverse, cursor.skip 1)
      if escaped then
        let (gap, next) ← gapOnto? 0 cursor.size Gap.afterEscape cursor
        quotedOnto? quote bound (gap.breaks ++ done) next
      else
        let (gap, next) ← cursor.gap? 0
        quotedOnto? quote bound (gap.text.reverse ++ done) next

def quoted? (quote : Char) (cursor : Cursor) : Option (List Char × Cursor) :=
  quotedOnto? quote cursor.size [] (cursor.skip 1)

inductive Chomping where
  | strip
  | clip
  | keep
  deriving DecidableEq, Repr

def chomping? (cursor : Cursor) : Option (Chomping × Cursor) :=
  if cursor.rest.head? == some '+' then some (.keep, cursor.skip 1)
  else if cursor.rest.head? == some '-' then some (.strip, cursor.skip 1)
  else none

def indentDigit (cursor : Cursor) : Option Nat × Cursor :=
  match cursor.rest.head? with
  | some c => if c.isDigit then (some (c.toNat - '0'.toNat), cursor.skip 1) else (none, cursor)
  | none => (none, cursor)

/-- The first line of a block after its sign: its chomping, how much its lines are indented, if that
is given, and the place after both. -/
def blockHeader? (cursor : Cursor) : Option (Chomping × Option Nat × Cursor) := do
  let cursor ← cursor.view? 1
  match chomping? cursor with
  | some (chomping, cursor) =>
      let (increment, cursor) := indentDigit (← cursor.view? 1)
      return (chomping, increment, cursor)
  | none =>
      match indentDigit cursor with
      | (none, cursor) => return (.clip, none, cursor)
      | (some increment, cursor) =>
          let cursor ← cursor.view? 1
          let (chomping, cursor) := (chomping? cursor).getD (.clip, cursor)
          return (chomping, some increment, cursor)

/-- The blanks and empty lines before a line of a block: the breaks, the largest column reached, and
the place of the line. `limit` is the indent of the block, once it is known; no tab stands before
it. -/
def blockBreaks? (limit : Option Nat) :
    Nat → List Char → Nat → Cursor → Option (List Char × Nat × Cursor)
  | 0, _, _, _ => none
  | bound + 1, breaks, reached, cursor => do
      let cursor ← cursor.view? 1
      let before := limit.all (cursor.column < ·)
      let reached := max reached cursor.column
      match cursor.rest with
      | [] => return (breaks, reached, cursor)
      | c :: _ =>
          if c == ' ' && before then blockBreaks? limit bound breaks reached (cursor.skip 1)
          else if c == '\t' && before then none
          else if isBreak c then
            let (found, cursor) ← cursor.takeBreak?
            blockBreaks? limit bound (found ++ breaks) reached cursor
          else return (breaks, reached, cursor)

/-- The lines of a block, which are indented by `indent`; `done` lies behind in reverse, then the
break of its last line and the empty lines after it. -/
def blockLines? (literal : Bool) (indent : Nat) :
    Nat → List Char → List Char → List Char → Bool → Cursor →
      Option (List Char × List Char × List Char × Cursor)
  | 0, _, _, _, _, _ => none
  | bound + 1, done, lineEnd, breaks, blankBefore, cursor =>
      if cursor.column ≠ indent || cursor.rest.isEmpty then some (done, lineEnd, breaks, cursor)
      else do
        let blank := cursor.rest.head?.any isBlank
        let joins := !literal && !blankBefore && !blank && lineEnd == ['\n']
        let join := if joins then if breaks.isEmpty then [' '] else [] else lineEnd
        let (content, after) ← Cursor.takeWhile? (fun c => !isBreak c) cursor.size [] cursor
        let (lineEnd, next) ← after.takeBreak?
        let (found, _, next) ← blockBreaks? (some indent) cursor.size [] 0 next
        blockLines? literal indent bound (content.reverse ++ (breaks ++ (join ++ done)))
          lineEnd found blank next

def block? (literal : Bool) (around : Int) (cursor : Cursor) : Option (List Char × Cursor) := do
  let (chomping, increment, header) ← blockHeader? (cursor.skip 1)
  if increment = some 0 then failure
  let first ← header.skipLineEnd?
  let given := increment.map fun n => if 0 ≤ around then around.toNat + n else n
  let (breaks, reached, next) ← blockBreaks? given cursor.size [] 0 first
  let indent := given.getD (max reached (max (around + 1).toNat 1))
  let next ← next.view? 1
  let (done, lineEnd, breaks, next) ←
    blockLines? literal indent cursor.size [] [] breaks false next
  let text :=
    match chomping with
    | .strip => done
    | .clip => lineEnd ++ done
    | .keep => breaks ++ (lineEnd ++ done)
  return (text.reverse, next)

end RegisterMachine.Document
