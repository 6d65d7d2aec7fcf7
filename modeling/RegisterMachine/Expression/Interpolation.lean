import RegisterMachine.Expression.Display

/-! Values put into the places of a text: after percent signs, or between braces. -/

namespace RegisterMachine.Expression

namespace Value

def whole? : Value → Option Int
  | .integer n => some n
  | .real x => Text.Real.truncate? x
  | _ => none

def float? : Value → Option Float
  | .integer n => some (Text.Real.ofInt n)
  | .real x => some x
  | _ => none

def small? : Value → Option Int
  | .integer n => if -Int.pow 2 31 ≤ n ∧ n < Int.pow 2 31 then some n else none
  | _ => none

end Value

namespace Interpolation

def based (base : Nat) (upper : Bool) (n : Int) : Bytes :=
  let digit (c : Char) : UInt8 := byte (if upper then c.toUpper else c)
  Text.Decimal.sign n ++ (Nat.toDigits base n.natAbs).map digit

def real? (conversion : UInt8) (x : Float) : Bytes :=
  let mark := if conversion = byte 'E' || conversion = byte 'G' then byte 'E' else byte 'e'
  if conversion = byte 'g' || conversion = byte 'G' then Value.realText mark x
  else if !x.isFinite then Value.unboundedText x
  else if conversion = byte 'f' then
    Text.Real.signText x ++ (Text.Real.roundedAt 6 x).positional 6
  else if conversion = byte 'F' then utf8 "%F"
  else Text.Real.signText x ++ (Text.Real.roundedTo 7 x).scientific mark 6

def character? (n : Int) : Option Bytes :=
  if 0 ≤ n && n ≤ 0x10FFFF then
    some ((Text.encodeNumber? n.toNat).getD (Text.Utf8.encode Text.Utf8.replacement))
  else none

def onlyCharacter? (text : Bytes) : Option Nat :=
  match Text.Utf8.pieces text with
  | [piece] => some piece.char.toNat
  | _ => none

def convert? (store : Store) (conversion : UInt8) (value : Value) : Option Bytes :=
  if conversion = byte 's' then some (value.display store)
  else if conversion = byte 'r' then some (value.representation store)
  else if conversion = byte 'd' || conversion = byte 'i' then value.whole?.map Text.Decimal.ofInt
  else if conversion = byte 'o' then value.whole?.map (based 8 false)
  else if conversion = byte 'x' then value.whole?.map (based 16 false)
  else if conversion = byte 'X' then value.whole?.map (based 16 true)
  else if (utf8 "efgEFG").contains conversion then value.float?.map (real? conversion)
  else if conversion = byte 'c' then
    match value with
    | .string text => (onlyCharacter? text.toList).bind fun n => character? n
    | value => value.small?.bind character?
  else if conversion = byte '%' then some [byte '%']
  else none

def arguments : Value → Array Value
  | .tuple items => items
  | value => #[value]

/-- Whether values were all used when `index` of them were put in. Those of a dictionary need not
be. -/
def isUsedUp (source : Value) (index : Nat) : Bool :=
  match source with
  | .dictionary _ => true
  | source => (arguments source).size ≤ index

def named? (store : Store) (source : Value) (key : Bytes) : Option Value :=
  match source with
  | .dictionary place => ((store.dictionary place).get? (Value.ofBytes key)).join
  | _ => none

/-- Goes on with a text of at most `bound` bytes when `index` values have been put in, `done` lying
behind in reverse. -/
def percentOnto (store : Store) (source : Value) (done : List Bytes) (index : Nat) :
    Nat → Bytes → Option Bytes
  | 0, _ => none
  | bound + 1, text =>
      let literal := text.takeWhile (· != byte '%')
      let done := literal :: done
      match text.dropWhile (· != byte '%') with
      | [] => if isUsedUp source index then some done.reverse.flatten else none
      | _ :: rest =>
          if rest.head? == some (byte '%') then
            percentOnto store source ([byte '%'] :: done) index bound (rest.drop 1)
          else
            let (value, rest) :=
              if rest.head? == some (byte '(') then
                let key := (rest.drop 1).takeWhile (· != byte ')')
                let after := (rest.drop 1).dropWhile (· != byte ')')
                (if after.isEmpty then none else named? store source key, after.drop 1)
              else ((arguments source)[index]?, rest)
            match value, rest with
            | some value, conversion :: rest =>
                match convert? store conversion value with
                | some put => percentOnto store source (put :: done) (index + 1) bound rest
                | none => none
            | _, _ => none

def percent? (store : Store) (text : Bytes) (source : Value) : Option Bytes :=
  percentOnto store source [] 0 (text.length + 1) text

def halveBraces? (done : Bytes) : Bytes → Option Bytes
  | [] => some done.reverse
  | [b] => if b = byte '\x7d' then none else some (b :: done).reverse
  | b :: c :: rest =>
      if b = byte '\x7d' then if c = byte '\x7d' then halveBraces? (b :: done) rest else none
      else halveBraces? (b :: done) (c :: rest)

/-- How fields name the values put in: by their order or by numbers, but not both. -/
inductive Numbering where
  | undecided
  | ordered (next : Nat)
  | numbered
  deriving DecidableEq, Repr

structure Field where
  name : Bytes
  conversion : Bytes
  form : Bytes

def splitAt (b : UInt8) (text : Bytes) : Bytes × Bytes :=
  (text.takeWhile (· != b), (text.dropWhile (· != b)).drop 1)

def Field.parse (text : Bytes) : Field :=
  if text.contains (byte '!') then
    let (name, rest) := splitAt (byte '!') text
    let (conversion, form) := splitAt (byte ':') rest
    { name, conversion, form }
  else
    let (name, form) := splitAt (byte ':') text
    { name, conversion := utf8 "s", form }

/-- The number that a name of digits stands for. It has 64 bits and wraps, but not to below zero. -/
def numberOf? (name : Bytes) : Option Nat :=
  (name.foldlM addDigit? (0 : Int64)).map fun n => n.toInt.toNat
where
  addDigit? (n : Int64) (b : UInt8) : Option Int64 :=
    let sum := n * 10 + Int64.ofNat (b - byte '0').toNat
    if Bytes.isDigit b && 0 ≤ sum then some sum else none

def Field.value? (field : Field) (numbering : Numbering) (values : Array Value)
    (named : List (Bytes × Value)) : Option (Value × Numbering) :=
  if field.name.isEmpty then
    match numbering with
    | .numbered => none
    | .undecided => values[0]?.map fun value => (value, .ordered 1)
    | .ordered next => values[next]?.map fun value => (value, .ordered (next + 1))
  else
    match numberOf? field.name, numbering with
    | some _, .ordered _ => none
    | some i, _ => values[i]?.map fun value => (value, .numbered)
    | none, _ => (named.lookup field.name).map fun value => (value, numbering)

def Field.text? (store : Store) (field : Field) (value : Value) : Option Bytes :=
  if !field.form.isEmpty then none
  else if field.conversion = utf8 "s" then some (value.display store)
  else if field.conversion = utf8 "r" then some (value.representation store)
  else none

def bracesOnto (store : Store) (values : Array Value) (named : List (Bytes × Value))
    (done : List Bytes) (numbering : Numbering) : Nat → Bytes → Option Bytes
  | 0, _ => none
  | bound + 1, text =>
      match halveBraces? [] (text.takeWhile (· != byte '\x7b')),
          text.dropWhile (· != byte '\x7b') with
      | none, _ => none
      | some literal, [] => some (literal :: done).reverse.flatten
      | some literal, _ :: rest =>
          if rest.head? == some (byte '\x7b') then
            bracesOnto store values named ([byte '\x7b'] :: literal :: done) numbering bound
              (rest.drop 1)
          else if !rest.contains (byte '\x7d') then none
          else
            let (inside, rest) := splitAt (byte '\x7d') rest
            let field := Field.parse inside
            match field.value? numbering values named with
            | none => none
            | some (value, numbering) =>
                match field.text? store value with
                | none => none
                | some put =>
                    bracesOnto store values named (put :: literal :: done) numbering bound rest

def braces? (store : Store) (text : Bytes) (values : Array Value) (named : List (Bytes × Value)) :
    Option Bytes :=
  bracesOnto store values named [] .undecided (text.length + 1) text

end Interpolation

end RegisterMachine.Expression
