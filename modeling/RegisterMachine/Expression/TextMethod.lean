import RegisterMachine.Expression.Arguments
import RegisterMachine.Expression.Operation
import RegisterMachine.Text.Case
import RegisterMachine.Text.Letter
import RegisterMachine.Text.Parts

/-! The methods of texts. -/

namespace RegisterMachine.Expression

namespace TextMethod

def mapCharacters (f : Char → Char) (text : Bytes) : Bytes :=
  Text.Utf8.encodeAll ((Text.Utf8.decode text).map f)

def capitalized (text : Bytes) : Bytes :=
  match Text.Utf8.decode text with
  | [] => []
  | first :: rest =>
      Text.Utf8.encodeAll (Text.toTitleCase first :: rest.map Text.toLowerCase)

def titled (afterCased : Bool) : List Char → List Char
  | [] => []
  | c :: rest =>
      let c := if afterCased then Text.toLowerCase c else Text.toTitleCase c
      c :: titled (Text.isCased c) rest

/-- Whether words of cased characters are in title case, and whether there is such a word, after
characters of which `cased` tells the same. -/
def isTitled (cased afterCased : Bool) : List Char → Bool
  | [] => cased
  | c :: rest =>
      if c.isUpper || Text.isTitleCase c then !afterCased && isTitled true true rest
      else if Text.isLowerCase c then afterCased && isTitled true true rest
      else if Text.isUpperCase c then false
      else isTitled cased false rest

def allCharacters (p : Char → Bool) (text : Bytes) : Bool :=
  !text.isEmpty && (Text.Utf8.decode text).all p

def isInCase (f : Char → Char) (text : Bytes) : Bool :=
  (Text.Utf8.decode text).any Text.isCased && mapCharacters f text == text

def between? (text : Bytes) (arguments : Array Value) : Option (Nat × Bytes) :=
  (Value.forward? text.length (arguments.getD 1 .nothing) (arguments.getD 2 .nothing)).map
    fun (start, stop) => (start, (text.take stop).drop start)

def search? (index? : Bytes → Bytes → Option Nat) (text : Bytes) (arguments : Array Value) :
    Option (Option Nat) :=
  match (arguments.getD 0 .nothing).text?, between? text arguments with
  | some part, some (start, inside) => some ((index? part inside).map (start + ·))
  | _, _ => none

def hasEnd? (atEnd : Bytes → Bytes → Bool) (text : Bytes) (arguments : Array Value) :
    Option Bool :=
  match between? text arguments, arguments.getD 0 .nothing with
  | some (_, inside), .string part => some (atEnd part.toList inside)
  | some (_, inside), .tuple parts => anyEnd? inside parts.toList
  | _, _ => none
where
  anyEnd? (inside : Bytes) : List Value → Option Bool
    | [] => some false
    | .string part :: rest =>
        if atEnd part.toList inside then some true else anyEnd? inside rest
    | _ => none

def partition? (index? : Bytes → Bytes → Option Nat) (missing : Bytes → Bytes × Bytes × Bytes)
    (text separator : Bytes) : Option (Bytes × Bytes × Bytes) :=
  if separator.isEmpty then none
  else
    match index? separator text with
    | none => some (missing text)
    | some i => some (text.take i, separator, text.drop (i + separator.length))

def stripped (isTrimmed : Char → Bool) (left right : Bool) (text : Bytes) : Bytes :=
  let text := if left then Text.trimLeft isTrimmed text else text
  if right then Text.trimRight isTrimmed text else text

def strip? (left right : Bool) (text : Bytes) (arguments : Array Value) : Option Bytes :=
  match arguments.toList.map Value.text? with
  | [] => some (stripped Text.isBlank left right text)
  | [some named] =>
      let trimmed := Text.Utf8.decode named
      let isTrimmed := if trimmed.isEmpty then Text.isBlank else trimmed.contains
      some (stripped isTrimmed left right text)
  | _ => none

def splitFromEnd (limit : Nat) (separator text : Bytes) : List Bytes :=
  let parts := Text.splitAll separator text
  let excess := parts.length - limit
  if excess = 0 then parts
  else separator.intercalate (parts.take excess) :: parts.drop excess

/-- The parts of a text between separators or blanks. A negative number leaves their count open. -/
def split? (fromEnd : Bool) (text : Bytes) (arguments : Array Value) : Option (List Bytes) :=
  let limit := match arguments[1]? with
    | none => some (-1)
    | some value => value.word?
  match limit, arguments.getD 0 .nothing with
  | some limit, .nothing =>
      let limit := if limit < 0 then text.length + 1 else limit.toNat
      some (if fromEnd then Text.lastWordsUpTo limit text else Text.wordsUpTo limit text)
  | some limit, .string separator =>
      if separator.size = 0 then none
      else
        let limit := if limit < 0 then text.length + 1 else min limit.toNat (text.length + 1)
        some (if fromEnd then splitFromEnd limit separator.toList text
          else Text.splitUpTo limit separator.toList text)
  | _, _ => none

def asksTooMuch (arguments : Array Value) : Bool :=
  match arguments.getD 0 .nothing, (arguments[1]?).bind Value.word? with
  | .nothing, some limit => Action.memoryLimit ≤ limit
  | _, _ => false

def lines (keepEnds : Bool) (text : Bytes) : List Bytes :=
  if text.isEmpty then []
  else
    let parts := Text.splitAll [byte '\n'] text
    let whole := parts.dropLast.map fun line => if keepEnds then line ++ [byte '\n'] else line
    let last := parts.getLastD []
    if last.isEmpty then whole else whole ++ [last]

def join? (separator : Bytes) (sequence : Sequence) (done : List Bytes) :
    Nat → Nat → Option Bytes
  | 0, _ => some (separator.intercalate done.reverse)
  | left + 1, i =>
      match (sequence.get i).text? with
      | none => none
      | some text => join? separator sequence (text :: done) left (i + 1)

def replaced? (text : Bytes) (arguments : Array Value) : Option Bytes :=
  match arguments.toList with
  | .string part :: .string replacement :: rest =>
      let limit := match rest with
        | [] => some (-1)
        | value :: _ => value.word?
      limit.map fun limit =>
        let limit := if limit < 0 then text.length + 1 else min limit.toNat (text.length + 1)
        Text.replaceUpTo limit part.toList replacement.toList text
  | _ => none

def ofTexts (texts : List Bytes) : Array Value :=
  (texts.map Value.ofBytes).toArray

def triple (parts : Bytes × Bytes × Bytes) : Value :=
  .tuple (ofTexts [parts.1, parts.2.1, parts.2.2])

def arity : TextMethod → Nat × Nat
  | .count => (1, 3)
  | .find => (1, 3)
  | .findLast => (1, 3)
  | .index => (1, 3)
  | .indexLast => (1, 3)
  | .startsWith => (1, 3)
  | .endsWith => (1, 3)
  | .join => (1, 1)
  | .partition => (1, 1)
  | .partitionLast => (1, 1)
  | .removeStart => (1, 1)
  | .removeEnd => (1, 1)
  | .replace => (2, 3)
  | .split => (0, 2)
  | .splitLast => (0, 2)
  | .splitLines => (0, 1)
  | .strip => (0, 1)
  | .stripLeft => (0, 1)
  | .stripRight => (0, 1)
  | _ => (0, 0)

def place (index : Option Nat) : Value :=
  match index with
  | some i => .ofNat i
  | none => .integer (-1)

def plain? (content : ByteArray) (arguments : Array Value) : TextMethod → Option Value
  | .capitalize => some (.ofBytes (capitalized text))
  | .characterNumbers => some (.view .characterNumbers content)
  | .characters => some (.view .characters content)
  | .count =>
      match first.text?, between? text arguments with
      | some part, some (_, inside) => some (.ofNat (Text.occurrences part inside))
      | _, _ => none
  | .byteNumbers => some (.view .byteNumbers content)
  | .bytes => some (.view .bytes content)
  | .endsWith =>
      (hasEnd? (fun part inside => part.isSuffixOf inside) text arguments).map Value.boolean
  | .startsWith =>
      (hasEnd? (fun part inside => part.isPrefixOf inside) text arguments).map Value.boolean
  | .find => (search? Text.indexOf? text arguments).map place
  | .findLast => (search? Text.lastIndexOf? text arguments).map place
  | .index => (search? Text.indexOf? text arguments).join.map Value.ofNat
  | .indexLast => (search? Text.lastIndexOf? text arguments).join.map Value.ofNat
  | .isAlphanumeric =>
      some (.boolean (allCharacters (fun c => Text.isLetter c || Text.isDecimalDigit c) text))
  | .isAlphabetic => some (.boolean (allCharacters Text.isLetter text))
  | .isDigits => some (.boolean (allCharacters Text.isDecimalDigit text))
  | .isLower => some (.boolean (isInCase Text.toLowerCase text))
  | .isSpace => some (.boolean (allCharacters Text.isBlank text))
  | .isTitle => some (.boolean (isTitled false false (Text.Utf8.decode text)))
  | .isUpper => some (.boolean (isInCase Text.toUpperCase text))
  | .lower => some (.ofBytes (mapCharacters Text.toLowerCase text))
  | .upper => some (.ofBytes (mapCharacters Text.toUpperCase text))
  | .title => some (.ofBytes (Text.Utf8.encodeAll (titled false (Text.Utf8.decode text))))
  | .strip => (strip? true true text arguments).map Value.ofBytes
  | .stripLeft => (strip? true false text arguments).map Value.ofBytes
  | .stripRight => (strip? false true text arguments).map Value.ofBytes
  | .partition =>
      (first.text?.bind (partition? Text.indexOf? (fun text => (text, [], [])) text)).map triple
  | .partitionLast =>
      (first.text?.bind (partition? Text.lastIndexOf? (fun text => ([], [], text)) text)).map triple
  | .removeStart =>
      first.text?.map fun part =>
        .ofBytes (if part.isPrefixOf text then text.drop part.length else text)
  | .removeEnd =>
      first.text?.map fun part =>
        .ofBytes (if part.isSuffixOf text then text.take (text.length - part.length) else text)
  | .replace => (replaced? text arguments).map Value.ofBytes
  | _ => none
where
  text : Bytes := content.toList
  first : Value := arguments.getD 0 .nothing

def call (method : TextMethod) (content : ByteArray) (arguments : Arguments) : Action Value := do
  match method with
  | .format =>
      return .ofBytes (← Action.ofOption
        (Interpolation.braces? (← get) content.toList arguments.placed arguments.named))
  | _ =>
      let (least, most) := method.arity
      let values ← Action.ofOption (arguments.placed? least most)
      match method with
      | .join =>
          let sequence ← Action.sequence (values.getD 0 .nothing)
          return .ofBytes (← Action.ofOption (join? content.toList sequence [] sequence.size 0))
      | .split =>
          Action.newList (ofTexts (← Action.ofOption (split? false content.toList values)))
      | .splitLast =>
          if asksTooMuch values then throw (.crashed .bounds)
          Action.newList (ofTexts (← Action.ofOption (split? true content.toList values)))
      | .splitLines =>
          let keepEnds ← Action.ofOption ((values.getD 0 (.boolean false)).boolean?)
          Action.newList (ofTexts (lines keepEnds content.toList))
      | _ => Action.ofOption (plain? content values method)

end TextMethod

end RegisterMachine.Expression
