import RegisterMachine.Text.Message.Style

/-! Message templates. A mark of a percent sign and a letter takes the next argument, or the one whose
number stands in brackets; numbers are written with their digits in groups. -/

namespace RegisterMachine.Text.Message

inductive Argument where
  | integer (n : Int)
  | boolean (b : Bool)
  | text (t : Bytes)
  deriving DecidableEq, Repr

namespace Argument

def typeName : Argument → Bytes
  | .integer _ => utf8 "int"
  | .boolean _ => utf8 "bool"
  | .text _ => utf8 "string"

def text? (style : Style) (letter : Char) (t : Bytes) : Option Bytes :=
  match letter with
  | 'v' => some (if style.literal then style.quoted t else style.text t)
  | 's' => some (style.text t)
  | 'x' => some (style.bytes false t)
  | 'X' => some (style.bytes true t)
  | 'q' => some (style.quoted t)
  | 'm' => some t
  | _ => none

def integer? (style : Style) (before : Option Padding) (letter : Char) (n : Int) :
    Option (Bytes × Option Padding) :=
  match letter with
  | 'v' | 'd' =>
      if style.sharp || style.literal then some (style.integer 10 false n, before)
      else some (style.grouped before n)
  | 'b' => some (style.integer 2 false n, before)
  | 'o' => some (style.integer 8 false n, before)
  | 'x' => some (style.integer 16 false n, before)
  | 'X' => some (style.integer 16 true n, before)
  | 'c' => some (style.character n, before)
  | 'q' =>
      if Style.unsigned n < 0x110000 then some (style.quotedNumber (Style.unsigned n), before)
      else none
  | 'U' => some (style.codePoint n, before)
  | _ => none

def boolean? (style : Style) (letter : Char) (b : Bool) : Option Bytes :=
  if letter = 'v' || letter = 't' then some (style.pad (utf8 (if b then "true" else "false")))
  else none

def write? (style : Style) (before : Option Padding) (letter : Char) :
    Argument → Option (Bytes × Option Padding)
  | .integer n => integer? style before letter n
  | .boolean b => (boolean? style letter b).map (·, before)
  | .text t => (text? style letter t).map (·, before)

def described (style : Style) (before : Option Padding) (argument : Argument) :
    Bytes × Option Padding :=
  let (written, padding) := (argument.write? style before 'v').getD ([], before)
  (argument.typeName ++ byte '=' :: written, padding)

def fill (style : Style) (before : Option Padding) (letter : Char) (argument : Argument) :
    Bytes × Option Padding :=
  if letter = 'T' then (style.text argument.typeName, before)
  else
    match argument.write? style before letter with
    | some found => found
    | none =>
        let (written, padding) := argument.described style before
        (utf8 "%!" ++ Utf8.encode letter ++ [byte '('] ++ written ++ [byte ')'], padding)

end Argument

/-- How far a template has been read: what follows, the number of the next argument, whether marks
have named arguments by their numbers, and the padding of the last number in groups. -/
structure Progress where
  rest : Bytes
  next : Nat
  reordered : Bool
  padding : Option Padding

/-- A mark while it is read: its style, what went wrong with its width or precision, and whether it
names its argument as it should. -/
structure Mark where
  style : Style
  complaint : Bytes
  isSound : Bool

def sizeLimit : Nat := 1000000

/-- The number that a text starts with, if there is one, and what follows it. One that is much too large
is none, and nothing follows it. -/
def leadingNumber (found : Option Nat) : Bytes → Option Nat × Bytes
  | [] => (found, [])
  | b :: rest =>
      if Bytes.isDigit b then
        if sizeLimit < found.getD 0 then (none, [])
        else leadingNumber (some (found.getD 0 * 10 + (b - byte '0').toNat)) rest
      else (found, b :: rest)

def flags (style : Style) : Bytes → Style × Bytes
  | [] => (style, [])
  | b :: rest =>
      if b = byte '#' then flags { style with sharp := true } rest
      else if b = byte '0' then flags { style with zero := !style.left } rest
      else if b = byte '+' then flags { style with plus := true } rest
      else if b = byte '-' then flags { style with left := true, zero := false } rest
      else if b = byte ' ' then flags { style with space := true } rest
      else (style, b :: rest)

def bracketed (text : Bytes) : Option Nat × Bytes :=
  let inside := (text.drop 1).takeWhile (· ≠ byte ']')
  if text.length < 3 || inside.length + 1 = text.length then (none, text.drop 1)
  else
    let after := text.drop (inside.length + 2)
    match leadingNumber none inside with
    | (some n, []) => (some n, after)
    | _ => (none, after)

namespace Progress

def takeIndex (count : Nat) (mark : Mark) (progress : Progress) : Mark × Progress × Bool :=
  if progress.rest.head? ≠ some (byte '[') then (mark, progress, false)
  else
    let (index, rest) := bracketed progress.rest
    let progress := { progress with rest, reordered := true }
    match index with
    | some n =>
        if 1 ≤ n && n ≤ count then (mark, { progress with next := n - 1 }, true)
        else ({ mark with isSound := false }, progress, true)
    | none => ({ mark with isSound := false }, progress, false)

def takeSize (arguments : List Argument) (progress : Progress) : Option Int × Progress :=
  match arguments[progress.next]? with
  | none => (none, progress)
  | some argument =>
      let progress := { progress with next := progress.next + 1 }
      match argument with
      | .integer n => (if n.natAbs ≤ sizeLimit then some n else none, progress)
      | _ => (none, progress)

/-- Takes the width of a mark, which an asterisk asks an argument for. A number in brackets right before
a width is out of place. -/
def takeWidth (arguments : List Argument) (indexed : Bool) (mark : Mark) (progress : Progress) :
    Mark × Progress × Bool :=
  if progress.rest.head? = some (byte '*') then
    let (size, progress) := { progress with rest := progress.rest.drop 1 }.takeSize arguments
    let mark :=
      match size with
      | none => { mark with complaint := utf8 "%!(BADWIDTH)" }
      | some n =>
          let style := { mark.style with width := some n.natAbs }
          { mark with style := if n < 0 then { style with left := true, zero := false } else style }
    (mark, progress, false)
  else
    let (width, rest) := leadingNumber none progress.rest
    let isSound := mark.isSound && !(indexed && width.isSome)
    ({ mark with style := { mark.style with width }, isSound }, { progress with rest }, indexed)

def takePrecision (arguments : List Argument) (indexed : Bool) (mark : Mark) (progress : Progress) :
    Mark × Progress × Bool :=
  if progress.rest.head? ≠ some (byte '.') || progress.rest.length < 2 then
    (mark, progress, indexed)
  else
    let mark := { mark with isSound := mark.isSound && !indexed }
    let (mark, progress, indexed) :=
      { progress with rest := progress.rest.drop 1 }.takeIndex arguments.length mark
    if progress.rest.head? = some (byte '*') then
      let (size, progress) := { progress with rest := progress.rest.drop 1 }.takeSize arguments
      let mark :=
        match size.filter (0 ≤ ·) with
        | none => { mark with complaint := utf8 "%!(BADPREC)" }
        | some n => { mark with style := { mark.style with precision := some n.toNat } }
      (mark, progress, false)
    else
      let (precision, rest) := leadingNumber none progress.rest
      ({ mark with style := { mark.style with precision := some (precision.getD 0) } },
        { progress with rest }, indexed)

def takeMark (arguments : List Argument) (progress : Progress) : Mark × Progress :=
  let (style, rest) := flags Style.plain progress.rest
  let mark : Mark := { style, complaint := [], isSound := true }
  let (mark, progress, indexed) := { progress with rest }.takeIndex arguments.length mark
  let (mark, progress, indexed) := progress.takeWidth arguments indexed mark
  let (mark, progress, indexed) := progress.takePrecision arguments indexed mark
  if indexed then (mark, progress)
  else
    let (mark, progress, _) := progress.takeIndex arguments.length mark
    (mark, progress)

/-- The style that a letter asks for. The letter `v` asks for the literal form where others ask for a
mark of the base. -/
def styleFor (letter : Char) (style : Style) : Style :=
  if letter = 'v' then { style with literal := style.sharp, sharp := false, plus := false } else style

def fill (arguments : List Argument) (mark : Mark) (letter : Char) (progress : Progress) :
    Bytes × Progress :=
  if letter = '%' then ([byte '%'], progress)
  else if !mark.isSound then (utf8 "%!" ++ Utf8.encode letter ++ utf8 "(BADINDEX)", progress)
  else
    match arguments[progress.next]? with
    | none => (utf8 "%!" ++ Utf8.encode letter ++ utf8 "(MISSING)", progress)
    | some argument =>
        let (text, padding) := argument.fill (styleFor letter mark.style) progress.padding letter
        (mark.complaint ++ text, { progress with next := progress.next + 1, padding })

def substitute (arguments : List Argument) (progress : Progress) : Bytes × Progress :=
  let (mark, progress) := progress.takeMark arguments
  match Utf8.next? progress.rest with
  | none => (utf8 "%!(NOVERB)", progress)
  | some (letter, rest) => { progress with rest }.fill arguments mark letter.char

/-- Arguments left over, told only after some were used and none was named by its number. -/
def extra (arguments : List Argument) (progress : Progress) : Bytes :=
  let left := arguments.drop progress.next
  if progress.reordered || progress.next = 0 || left.isEmpty then []
  else
    utf8 "%!(EXTRA " ++
      (utf8 ", ").intercalate (left.map fun argument => (argument.described Style.plain none).1) ++
      [byte ')']

/-- Reads a template to its end. Each step takes a byte at least. -/
def finish (arguments : List Argument) : Nat → List Bytes → Progress → Bytes
  | 0, done, _ => done.reverse.flatten
  | bound + 1, done, progress =>
      match progress.rest with
      | [] => (progress.extra arguments :: done).reverse.flatten
      | b :: rest =>
          if b = byte '%' then
            let (text, progress) := { progress with rest }.substitute arguments
            finish arguments bound (text :: done) progress
          else
            let text := (b :: rest).takeWhile (· ≠ byte '%')
            let progress := { progress with rest := (b :: rest).dropWhile (· ≠ byte '%') }
            finish arguments bound (text :: done) progress

end Progress

def render (template : Bytes) (arguments : List Argument) : Bytes :=
  { rest := template, next := 0, reordered := false, padding := none : Progress }.finish arguments
    (template.length + 1) []

end RegisterMachine.Text.Message
