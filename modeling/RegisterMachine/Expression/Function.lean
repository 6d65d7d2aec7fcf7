import RegisterMachine.Expression.CollectionMethod
import RegisterMachine.Expression.Sorting
import RegisterMachine.Expression.TextMethod

/-! The functions that are there from the start. -/

namespace RegisterMachine.Expression

abbrev Invocation := Value → Array Value → Action Value

namespace Builtin

def namedBase? (digits : Bytes) : Option Nat :=
  if digits.length ≤ 2 then none else Text.namedBase? digits

/-- The number that a text without sign stands for. Base zero leaves the base to the text, and then
a leading zero that names none has to be followed by zeros. -/
def unsigned? (base : Nat) (digits : Bytes) : Option Nat :=
  match namedBase? digits with
  | some named =>
      if base = 0 || base = named then Text.digitsValue? named (digits.drop 2)
      else Text.digitsValue? base digits
  | none =>
      if base = 0 then
        if 1 < digits.length && digits.head? == some (byte '0') then
          if digits.all (· == byte '0') then some 0 else none
        else Text.digitsValue? 10 digits
      else Text.digitsValue? base digits

def parse? (base : Nat) (text : Bytes) : Option Int :=
  let (negative, digits) := Text.Real.splitSign text
  (unsigned? base digits).map fun n => if negative then -(n : Int) else n

def isBase (n : Int) : Bool :=
  n = 0 || (2 ≤ n && n ≤ 36)

def integer? (x : Value) (base : Option Value) : Option Value :=
  match x, base with
  | .string text, none => (parse? 10 text.toList).map Value.integer
  | .string text, some (.integer base) =>
      if isBase base then (parse? base.toNat text.toList).map Value.integer else none
  | .boolean b, none => some (.integer b.toNat)
  | x, none => x.whole?.map Value.integer
  | _, _ => none

def unbounded? (text : Bytes) : Option Float :=
  let (negative, rest) := Text.Real.splitSign text
  let word := rest.map fun b => if Bytes.isUpper b then b + 32 else b
  if word = utf8 "inf" || word = utf8 "infinity" then some (Text.Real.withSign negative (1 / 0))
  else if word = utf8 "nan" then some (0 / 0)
  else none

def real? : Value → Option Value
  | .boolean b => some (.real (if b then 1 else 0))
  | .integer n => (Text.Real.ofInt? n).map Value.real
  | .real x => some (.real x)
  | .string text =>
      match unbounded? text.toList with
      | some x => some (.real x)
      | none =>
          (Text.Real.read? text.toList).bind fun x => if x.isFinite then some (.real x) else none
  | _ => none

/-- The hash of a text: each character added to thirty-one times what comes before it. -/
def hashText (text : Bytes) : Int :=
  ((Text.Utf8.decode text).foldl (fun (h : Int32) c => 31 * h + Int32.ofNat c.toNat) 0).toInt

/-- The hash of bytes: each combined with what comes before it, and the result multiplied by a
prime. -/
def hashBytes (text : Bytes) : Int :=
  (text.foldl (fun (h : UInt32) b => (h ^^^ b.toUInt32) * 16777619) 2166136261).toNat

def absolute? : Value → Option Value
  | .integer n => some (.integer n.natAbs)
  | .real x => some (.real x.abs)
  | _ => none

def hash? : Value → Option Value
  | .string text => some (.integer (hashText text.toList))
  | .bytes text => some (.integer (hashBytes text.toList))
  | _ => none

def ordinal? : Value → Option Value
  | .string text => (Interpolation.onlyCharacter? text.toList).map Value.ofNat
  | .bytes text =>
      match text.toList with
      | [b] => some (.ofNat b.toNat)
      | _ => none
  | _ => none

def range? (arguments : Array Value) : Option Value :=
  match arguments.toList.mapM Value.word? with
  | some [stop] => make? 0 stop 1
  | some [start, stop] => make? start stop 1
  | some [start, stop, step] => make? start stop step
  | _ => none
where
  make? (start stop step : Int) : Option Value :=
    if step = 0 then none
    else
      some (.range
        { start := Int64.ofInt start, stop := Int64.ofInt stop, step := Int64.ofInt step })

def repairText (text : ByteArray) : Bytes :=
  Text.Utf8.encodeAll (Text.Utf8.decode text.toList)

def bytesOnto? (sequence : Sequence) (done : Bytes) : Nat → Nat → Option Bytes
  | 0, _ => some done.reverse
  | left + 1, i =>
      match sequence.get i with
      | .integer n =>
          if 0 ≤ n && n < 256 then bytesOnto? sequence (n.toNat.toUInt8 :: done) left (i + 1)
          else none
      | _ => none

def byteLimit : Nat := Nat.pow 2 48

def bytesOf (value : Value) : Action Value := do
  match value with
  | .bytes text => return .bytes text
  | .string text => return .bytes (ByteArray.mk (repairText text).toArray)
  | value =>
      let sequence ← Action.sequence value
      if byteLimit < sequence.size then throw (.crashed .bounds)
      else
        let bytes ← Action.ofOption (bytesOnto? sequence [] sequence.size 0)
        return .bytes (ByteArray.mk bytes.toArray)

def stringOf (store : Store) : Value → Value
  | .string text => .string text
  | .bytes text => .ofBytes (repairText text)
  | value => .ofBytes (value.representation store)

def printedText (store : Store) : Value → Bytes
  | .bytes text => text.toList
  | value => value.display store

/-- The line that values make up, with a text between them that may be given by name. -/
def line? (store : Store) (arguments : Arguments) : Option Bytes :=
  match { arguments with placed := #[] : Arguments }.arrange? [utf8 "sep"] with
  | some [separator] =>
      match (separator.getD (.ofBytes [byte ' '])).text? with
      | some separator =>
          some (separator.intercalate (arguments.placed.toList.map (printedText store)))
      | none => none
  | _ => none

def keyOf (invoke : Invocation) (key : Option Value) (item : Value) : Action Value :=
  match key with
  | none => pure item
  | some function => invoke function #[item]

def extremeFrom (invoke : Invocation) (comparison : Comparison) (key : Option Value)
    (sequence : Sequence) : Nat → Nat → Value → Value → Action Value
  | 0, _, best, _ => pure best
  | left + 1, i, best, bestKey => do
      let item := sequence.get i
      let itemKey ← keyOf invoke key item
      if ← Action.ofOption (Value.compare? (← get) comparison itemKey bestKey) then
        extremeFrom invoke comparison key sequence left (i + 1) item itemKey
      else extremeFrom invoke comparison key sequence left (i + 1) best bestKey

def callable? (given : Option Value) : Option (Option Value) :=
  match given with
  | none => some none
  | some value => if value.isCallable then some (some value) else none

def extreme (invoke : Invocation) (comparison : Comparison) (arguments : Arguments) :
    Action Value := do
  Action.require !arguments.placed.isEmpty
  match { arguments with placed := #[] : Arguments }.arrange? [utf8 "key"] with
  | some [given] =>
      let key ← Action.ofOption (callable? given)
      let source :=
        if arguments.placed.size = 1 then arguments.placed.getD 0 .nothing
        else .tuple arguments.placed
      Action.reading source fun sequence => do
        Action.require (0 < sequence.size)
        let first := sequence.get 0
        let firstKey ← keyOf invoke key first
        extremeFrom invoke comparison key sequence (sequence.size - 1) 1 first firstKey
  | _ => Action.fail

def precedes? (store : Store) (backward : Bool) (a b : Value × Value) : Option Bool :=
  if backward then Value.compare? store .less b.1 a.1 else Value.compare? store .less a.1 b.1

def inOrder (invoke : Invocation) (arguments : Arguments) : Action Value := do
  match arguments.arrange? [utf8 "iterable", utf8 "key", utf8 "reverse"] with
  | some [some source, given, backward] =>
      let key ← Action.ofOption (callable? given)
      let backward ← Action.ofOption (backward.getD (.boolean false)).boolean?
      let entries ← Action.reading source fun _ => do
        (← Action.items source).toList.mapM fun item => do
          return (← keyOf invoke key item, item)
      let store ← get
      let entries ← Action.ofOption (Sorting.sort? (precedes? store backward) entries)
      Action.newList (entries.map Prod.snd).toArray
  | _ => Action.fail

def numberedItems (arguments : Array Value) : Action Value := do
  let start ← Action.ofOption (arguments.getD 1 (.integer 0)).word?
  let items ← Action.items (arguments.getD 0 .nothing)
  Action.newList <| items.mapIdx fun i item =>
    .tuple #[.integer (Int64.ofInt (start + i)).toInt, item]

def rowsOf (arguments : Array Value) : Action Value := do
  let columns ← arguments.mapM Action.sequence
  let rows := (columns.map Sequence.size).toList.min?.getD 0
  if Action.memoryLimit < rows then throw (.crashed .bounds)
  else
    Action.newList <| (Array.range rows).map fun i =>
      .tuple (columns.map fun column => column.get i)

def itemsOf (arguments : Array Value) : Action (Array Value) :=
  match arguments[0]? with
  | none => pure #[]
  | some source => Action.items source

def attribute? (object : Value) (name : Bytes) : Option Method :=
  Method.ofName? object name

def attributeOf (arguments : Array Value) : Action Value := do
  let object := arguments.getD 0 .nothing
  let name ← Action.ofOption (arguments.getD 1 .nothing).text?
  match attribute? object name with
  | some method => Action.newMethod method object
  | none => Action.ofOption arguments[2]?

def callPlaced (builtin : Builtin) (arguments : Arguments) : Action Value := do
  match builtin with
  | .absolute => Action.ofOption (arguments.only?.bind absolute?)
  | .all =>
      let sequence ← Action.sequence (← Action.ofOption arguments.only?)
      let store ← get
      return .boolean !sequence.any fun item => !item.isTrue store
  | .any =>
      let sequence ← Action.sequence (← Action.ofOption arguments.only?)
      let store ← get
      return .boolean (sequence.any fun item => item.isTrue store)
  | .boolean =>
      let values ← Action.ofOption (arguments.placed? 0 1)
      return .boolean ((values.getD 0 (.boolean false)).isTrue (← get))
  | .bytes => bytesOf (← Action.ofOption arguments.only?)
  | .character =>
      let n ← Action.ofOption (arguments.only?.bind Value.small?)
      return .ofBytes (← Action.ofOption (Interpolation.character? n))
  | .attributes =>
      let object ← Action.ofOption arguments.only?
      Action.newList ((Method.names object).map fun name => Value.ofBytes (utf8 name)).toArray
  | .enumerate => numberedItems (← Action.ofOption (arguments.placed? 1 2))
  | .real =>
      let values ← Action.ofOption (arguments.placed? 0 1)
      Action.ofOption (real? (values.getD 0 (.real 0)))
  | .getAttribute => attributeOf (← Action.ofOption (arguments.placed? 2 3))
  | .hasAttribute =>
      let values ← Action.ofOption (arguments.placed? 2 2)
      let name ← Action.ofOption (values.getD 1 .nothing).text?
      return .boolean (attribute? (values.getD 0 .nothing) name).isSome
  | .hash => Action.ofOption (arguments.only?.bind hash?)
  | .length =>
      let value ← Action.ofOption arguments.only?
      return .ofNat (← Action.ofOption (value.size? (← get)))
  | .list => Action.newList (← itemsOf (← Action.ofOption (arguments.placed? 0 1)))
  | .tuple => return .tuple (← itemsOf (← Action.ofOption (arguments.placed? 0 1)))
  | .ordinal => Action.ofOption (arguments.only?.bind ordinal?)
  | .range => Action.ofOption ((arguments.placed? 1 3).bind range?)
  | .representation =>
      let value ← Action.ofOption arguments.only?
      return .ofBytes (value.representation (← get))
  | .reversed =>
      Action.newList (← Action.items (← Action.ofOption arguments.only?)).reverse
  | .string => return stringOf (← get) (← Action.ofOption arguments.only?)
  | .type => return .ofBytes (← Action.ofOption arguments.only?).typeName
  | .zip => rowsOf (← Action.ofOption (arguments.placed? 0 arguments.placed.size))
  | _ => Action.fail

def call (invoke : Invocation) (builtin : Builtin) (arguments : Arguments) : Action Value := do
  match builtin with
  | .dictionary =>
      let created ← Action.newDictionary .empty
      match created with
      | .dictionary place => Action.updateEntries place arguments
      | _ => Action.fail
      return created
  | .integer =>
      match arguments.arrange? [utf8 "x", utf8 "base"] with
      | some [some x, base] => Action.ofOption (integer? x base)
      | _ => Action.fail
  | .maximum => extreme invoke .greater arguments
  | .minimum => extreme invoke .less arguments
  | .print =>
      Action.print (← Action.ofOption (line? (← get) arguments))
      return .nothing
  | .sorted => inOrder invoke arguments
  | _ => callPlaced builtin arguments

end Builtin

def Method.call (method : Method) (object : Value) (arguments : Arguments) : Action Value := do
  match method, object with
  | .text called, .string content => called.call content arguments
  | .elements, .bytes content =>
      let _ ← Action.ofOption (arguments.placed? 0 0)
      return .view .numbers content
  | .list called, .list place => called.call place arguments
  | .dictionary called, .dictionary place => called.call place arguments
  | _, _ => Action.fail

end RegisterMachine.Expression
