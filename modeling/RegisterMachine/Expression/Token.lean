import RegisterMachine.Expression.Failure
import RegisterMachine.Text.Letter
import RegisterMachine.Text.Quoted
import RegisterMachine.Text.Real

/-! The tokens of compile-time expressions. -/

namespace RegisterMachine.Expression

/-- A token. Marks are the signs and words with a meaning of their own; indents and outdents tell
how the start of a line lies to the lines before it. -/
inductive Token where
  | name (name : Bytes)
  | integer (n : Nat)
  | real (x : Float)
  | string (text : Bytes)
  | bytes (text : Bytes)
  | mark (sign : String)
  | newline
  | indent
  | outdent
  deriving Repr

namespace Token

/-- Words that are marks. Those after `while` have no use and can stand nowhere. -/
def reservedWords : List String :=
  ["and", "break", "continue", "def", "elif", "else", "for", "if", "in", "lambda", "load", "not",
    "or", "pass", "return", "while",
    "as", "async", "await", "class", "del", "except", "finally", "from", "global", "import", "is",
    "nonlocal", "raise", "try", "with", "yield"]

/-- Signs, each before those it begins with. -/
def signs : List String :=
  ["<<=", ">>=", "//=", "==", "!=", "<=", ">=", "+=", "-=", "*=", "/=", "%=", "&=", "|=", "^=",
    "<<", ">>", "//", "**", "+", "-", "*", "/", "%", "&", "|", "^", "~", "<", ">", "=", ",", ":",
    ";", ".", "(", "[", "\x7b", ")", "]", "\x7d"]

def sign? (text : Bytes) : Option (Token × Bytes) :=
  (signs.find? fun sign => (utf8 sign).isPrefixOf text).map fun sign =>
    (.mark sign, text.drop sign.length)

def isNameCharacter (c : Char) : Bool :=
  c == '_' || c.isDigit || Text.isLetter c

/-- Bytes that a name may start with. Whether those past ASCII make up letters is seen when the
name is complete. -/
def isNameStart (b : UInt8) : Bool :=
  Bytes.isIdentifierStart b || 0x80 ≤ b

def isNamePart (b : UInt8) : Bool :=
  Bytes.isIdentifierPart b || 0x80 ≤ b

def ofWord? (word : Bytes) : Option Token :=
  match reservedWords.find? fun reserved => utf8 reserved == word with
  | some reserved => some (.mark reserved)
  | none => if (Text.Utf8.decode word).all isNameCharacter then some (.name word) else none

def based? (base : Nat) (text : Bytes) : Option (Token × Bytes) :=
  let digits := text.takeWhile (Text.isDigitOf base)
  let n := Text.valueOf base digits
  if digits.isEmpty || (base < 10 && Nat.pow 2 63 ≤ n) then none
  else some (.integer n, text.dropWhile (Text.isDigitOf base))

def decimal? (text : Bytes) : Option (Token × Bytes) :=
  let digits := text.takeWhile Bytes.isDigit
  let rest := text.dropWhile Bytes.isDigit
  if rest.head?.any fun b => b == byte '.' || Text.Real.isExponentMark b then
    let (whole, fraction, rest) := Text.Real.splitDigits Bytes.isDigit text
    match Text.Real.ofDigits? whole fraction rest with
    | some (x, rest) => if x.isFinite then some (.real x, rest) else none
    | none => none
  else if digits.head? == some (byte '0') && digits.any (· != byte '0') then none
  else some (.integer (Text.valueOf 10 digits), rest)

def number? (text : Bytes) : Option (Token × Bytes) :=
  match Text.namedBase? text with
  | some base => based? base (text.drop 2)
  | none => decimal? text

/-- Splits a string's rest at its closing quote, `done` lying behind in reverse. A backslash takes
the next byte with it, and a line ends before the string does only in `long` ones. -/
def closing? (quote : Bytes) (long : Bool) (done : Bytes) : Bytes → Option (Bytes × Bytes)
  | [] => none
  | b :: rest =>
      if quote.isPrefixOf (b :: rest) then some (done.reverse, (b :: rest).drop quote.length)
      else if b = byte '\n' && !long then none
      else if b = byte '\\' then
        match rest with
        | [] => none
        | c :: rest => closing? quote long (c :: b :: done) rest
      else closing? quote long (b :: done) rest

def octal : Nat → Nat → Bytes → Nat × Bytes
  | 0, n, text => (n, text)
  | _, n, [] => (n, [])
  | count + 1, n, b :: rest =>
      match Text.octalValue? b with
      | some d => octal count (n * 8 + d) rest
      | none => (n, b :: rest)

/-- What the escape after a backslash stands for, and what follows it. In texts the numbers of single
bytes stay in ASCII. -/
def escape? (limit : Nat) : Bytes → Option (Bytes × Bytes)
  | [] => none
  | b :: rest =>
      match Text.letterEscapes.lookup b with
      | some c => some ([c], rest)
      | none =>
          if b = byte '\n' then some ([], rest)
          else if b = byte '\\' || b = byte '\'' || b = byte '"' then some ([b], rest)
          else if (Text.octalValue? b).isSome then
            let (n, rest) := octal 3 0 (b :: rest)
            if n < limit then some ([n.toUInt8], rest) else none
          else if b = byte 'x' then
            match Text.digits? Text.hexValue? 16 2 0 rest with
            | some (n, rest) => if n < limit then some ([n.toUInt8], rest) else none
            | none => none
          else if b = byte 'u' || b = byte 'U' then
            match Text.digits? Text.hexValue? 16 (if b = byte 'u' then 4 else 8) 0 rest with
            | some (n, rest) => (Text.encodeNumber? n).map fun text => (text, rest)
            | none => none
          else none

def unescape? (limit : Nat) (done : Bytes) : Nat → Bytes → Option Bytes
  | 0, _ => some done.reverse
  | _, [] => some done.reverse
  | bound + 1, b :: rest =>
      if b = byte '\\' then
        match escape? limit rest with
        | some (text, rest) => unescape? limit (text.reverse ++ done) bound rest
        | none => none
      else unescape? limit (b :: done) bound rest

structure Prefixes where
  raw : Bool
  binary : Bool

def string? (prefixes : Prefixes) (text : Bytes) : Option (Token × Bytes) :=
  let quote := text.take 1
  let triple := quote ++ quote ++ quote
  let parts :=
    if triple.isPrefixOf text then closing? triple true [] (text.drop 3)
    else closing? quote false [] (text.drop 1)
  match parts with
  | none => none
  | some (content, rest) =>
      let value :=
        if prefixes.raw then some content
        else unescape? (if prefixes.binary then 256 else 128) [] content.length content
      value.map fun value => (if prefixes.binary then .bytes value else .string value, rest)

def isQuote (b : UInt8) : Bool :=
  b == byte '"' || b == byte '\''

def prefixes? (text : Bytes) : Option (Prefixes × Bytes) :=
  if text.head?.any isQuote then some (⟨false, false⟩, text)
  else if (text.drop 1).head?.any isQuote && text.head? == some (byte 'r') then
    some (⟨true, false⟩, text.drop 1)
  else if (text.drop 1).head?.any isQuote && text.head? == some (byte 'b') then
    some (⟨false, true⟩, text.drop 1)
  else if (text.drop 2).head?.any isQuote && text.take 2 == utf8 "rb" then
    some (⟨true, true⟩, text.drop 2)
  else none

def first? (text : Bytes) : Option (Token × Bytes) :=
  match text, prefixes? text with
  | [], _ => none
  | _, some (prefixes, text) => string? prefixes text
  | b :: rest, none =>
      if isNameStart b then
        (ofWord? (text.takeWhile isNamePart)).map fun token => (token, text.dropWhile isNamePart)
      else if Bytes.isDigit b then number? text
      else if b == byte '.' && rest.head?.any Bytes.isDigit then decimal? text
      else sign? text

/-- How far the scan of a text has come: the brackets open, the columns at which the lines around
start, and whether a line begins. -/
structure Position where
  depth : Nat
  columns : List Nat
  lineStart : Bool

def Position.start : Position where
  depth := 0
  columns := [0]
  lineStart := true

def indentation (index column : Nat) : Bytes → Nat × Bytes
  | [] => (column, [])
  | b :: rest =>
      if b = byte ' ' then indentation (index + 1) (column + 1) rest
      else if b = byte '\t' then indentation (index + 1) (column + (8 - index % 8)) rest
      else (column, b :: rest)

/-- The tokens for a line that starts at a column, and the columns around what it holds. -/
def dents? (column : Nat) (columns : List Nat) : Option (List Token × List Nat) :=
  if columns.headD 0 < column then some ([.indent], column :: columns)
  else
    let outer := columns.dropWhile fun around => column < around
    if outer.headD 0 = column then
      some (List.replicate (columns.length - outer.length) .outdent, outer)
    else none

def isEnd (text : Bytes) : Bool :=
  text.isEmpty || text.head? == some 0

def isBlankLine (text : Bytes) : Bool :=
  isEnd text || text.head? == some (byte '#') || text.head? == some (byte '\n')

def isLineSpace (b : UInt8) : Bool :=
  b == byte ' ' || b == byte '\t'

def isCommentPart (b : UInt8) : Bool :=
  b != byte '\n' && b != 0

def isOpening (b : UInt8) : Bool :=
  b == byte '(' || b == byte '[' || b == byte '\x7b'

def isClosing (b : UInt8) : Bool :=
  b == byte ')' || b == byte ']' || b == byte '\x7d'

def depthPast? (b : UInt8) (depth : Nat) : Option Nat :=
  if isOpening b then some (depth + 1)
  else if isClosing b then if depth = 0 then none else some (depth - 1)
  else some depth

def skipSpace (text : Bytes) : Bytes :=
  let text := text.dropWhile isLineSpace
  if text.head? == some (byte '#') then text.dropWhile isCommentPart else text

def finish (lineStart : Bool) (columns : List Nat) (done : List Token) : List Token :=
  let line := if lineStart || columns.length ≤ 1 then done else .newline :: done
  (List.replicate (columns.length - 1) Token.outdent ++ line).reverse

/-- The tokens of a text, those before it lying in `done` in reverse. Each step takes a byte at
least, so that a `bound` above the length of the text suffices. -/
def scanOnto (done : List Token) (position : Position) : Nat → Bytes → Option (List Token)
  | 0, _ => none
  | bound + 1, text =>
      let (column, line) := if position.lineStart then indentation 0 0 text else (0, text)
      let blank := position.lineStart && isBlankLine line
      let dents :=
        if position.lineStart && !blank && position.depth = 0 then dents? column position.columns
        else some ([], position.columns)
      match dents with
      | none => none
      | some (dents, columns) =>
          match skipSpace line with
          | [] => some (finish position.lineStart columns (dents ++ done))
          | b :: rest =>
              if b = 0 then some (finish position.lineStart columns (dents ++ done))
              else if b = byte '\n' then
                let skipped := blank || 0 < position.depth
                scanOnto (if skipped then dents ++ done else .newline :: (dents ++ done))
                  { position with columns, lineStart := true } bound rest
              else if b = byte '\\' then
                if rest.head? == some (byte '\n') then
                  scanOnto (dents ++ done) { position with columns, lineStart := false } bound
                    (rest.drop 1)
                else none
              else
                match depthPast? b position.depth, first? (b :: rest) with
                | some depth, some (token, rest) =>
                    scanOnto (token :: (dents ++ done)) { depth, columns, lineStart := false } bound
                      rest
                | _, _ => none

def normalizeLines (done : Bytes) : Bytes → Bytes
  | [] => done.reverse
  | b :: rest =>
      if b = byte '\r' then
        if rest.head? == some (byte '\n') then normalizeLines done rest
        else normalizeLines (byte '\n' :: done) rest
      else normalizeLines (b :: done) rest

/-- The tokens of a text. A byte outside of any character is read as U+FFFD. -/
def scan? (text : Bytes) : Option (List Token) :=
  let text := normalizeLines [] (Text.Utf8.encodeAll (Text.Utf8.decode text))
  scanOnto [] Position.start (text.length + 1) text

end Token

end RegisterMachine.Expression
