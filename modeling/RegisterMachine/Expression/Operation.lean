import RegisterMachine.Expression.Equality
import RegisterMachine.Expression.Interpolation
import RegisterMachine.Expression.Sequence

/-! The operators on values, and the parts of collections. -/

namespace RegisterMachine.Expression

namespace Value

def finite? : Value → Option Float
  | .integer n => Text.Real.ofInt? n
  | .real x => some x
  | _ => none

def arithmetic? (integers : Int → Int → Option Int) (reals : Float → Float → Option Float)
    (x y : Value) : Option Value :=
  match x, y with
  | .integer m, .integer n => (integers m n).map Value.integer
  | _, _ =>
      match finite? x, finite? y with
      | some x, some y => (reals x y).map Value.real
      | _, _ => none

def divide? (x y : Value) : Option Value :=
  match finite? x, finite? y with
  | some x, some y => if y == 0 then none else some (.real (x / y))
  | _, _ => none

def floorDivide? : Value → Value → Option Value :=
  arithmetic? (fun m n => if n = 0 then none else some (m.fdiv n))
    fun x y => if y == 0 then none else some (x / y).floor

def remainder? : Value → Value → Option Value :=
  arithmetic? (fun m n => if n = 0 then none else some (m.fmod n))
    fun x y => if y == 0 then none else some (Text.Real.modulo x y)

/-- The two's complement operation on integers that a Boolean function gives for their bits. -/
def bitwise (f : Bool → Bool → Bool) (m n : Int) : Int :=
  let width := max m.natAbs.log2 n.natAbs.log2 + 2
  let bits (k : Int) : Nat := (k.emod (Int.pow 2 width)).toNat
  (Nat.bitwise f (bits m) (bits n) : Int).bmod (Nat.pow 2 width)

def integers? (f : Int → Int → Option Int) : Value → Value → Option Value
  | .integer m, .integer n => (f m n).map Value.integer
  | _, _ => none

def isShiftCount (n : Int) : Bool :=
  0 ≤ n && n < Int.pow 2 31

/-- Bits by which an integer may at most be shifted to the left, and one more. -/
def shiftLimit : Int := 512

def shiftLeft? (m n : Int) : Option Int :=
  if isShiftCount n && n < shiftLimit then some (m * Int.pow 2 n.toNat) else none

def shiftRight? (m n : Int) : Option Int :=
  if isShiftCount n then some (m >>> n.toNat) else none

def repetitionLimit : Int := Int.pow 2 30

def repetitions? (size : Nat) (n : Int) : Option Nat :=
  if size = 0 then some 0
  else if n < -Int.pow 2 31 || Int.pow 2 31 ≤ n then none
  else if n < 1 then some 0
  else if repetitionLimit ≤ size * n then none
  else some n.toNat

/-- Puts `n` copies of `x` after `done`, doubling what is there. There are `bound` binary digits of
`n` at most. -/
def copiesOnto (append : α → α → α) (done : α) : Nat → Nat → α → α
  | 0, _, _ => done
  | bound + 1, n, x =>
      if n = 0 then done
      else if n = 1 then append done x
      else copiesOnto append (if n % 2 = 1 then append done x else done) bound (n / 2) (append x x)

def copies (append : α → α → α) (empty : α) (n : Nat) (x : α) : α :=
  copiesOnto append empty (n.log2 + 1) n x

def repeatText? (n : Int) (text : ByteArray) : Option ByteArray :=
  (repetitions? text.size n).map fun n => copies ByteArray.append ByteArray.empty n text

def repeatItems? (n : Int) (items : Array Value) : Option (Array Value) :=
  (repetitions? items.size n).map fun n => copies Array.append #[] n items

def hasPart (part : Bytes) : Bytes → Bool
  | [] => part.isEmpty
  | b :: rest => part.isPrefixOf (b :: rest) || hasPart part rest

def hasItem? (store : Store) (item : Value) : List Value → Option Bool
  | [] => some false
  | found :: rest =>
      match equal? store found item with
      | some false => hasItem? store item rest
      | result => result

/-- Whether a collection has an item. What cannot be looked up in a dictionary is not in it. -/
def contains? (store : Store) (item collection : Value) : Option Bool :=
  match collection with
  | .tuple items => hasItem? store item items.toList
  | .list place => hasItem? store item (store.items place).toList
  | .dictionary place =>
      some (((store.dictionary place).get? item).any Option.isSome)
  | .range numbers => item.whole?.map numbers.contains
  | .string text =>
      match item with
      | .string part => some (hasPart part.toList text.toList)
      | _ => none
  | .bytes text =>
      match item with
      | .bytes part => some (hasPart part.toList text.toList)
      | .integer n =>
          if 0 ≤ n && n < 256 then some (text.toList.contains n.toNat.toUInt8) else none
      | _ => none
  | _ => none

def unary? (store : Store) : Sign → Value → Option Value
  | .negative, .integer n => some (.integer (-n))
  | .negative, .real x => some (.real (-x))
  | .positive, .integer n => some (.integer n)
  | .positive, .real x => some (.real x)
  | .complement, .integer n => some (.integer (-n - 1))
  | .negation, x => some (.boolean !x.isTrue store)
  | _, _ => none

def place? (size : Nat) (key : Value) : Option Nat :=
  match key.small? with
  | none => none
  | some n =>
      let i := if n < 0 then n + size else n
      if 0 ≤ i && i < size then some i.toNat else none

def index? (store : Store) (collection key : Value) : Option Value :=
  match collection with
  | .tuple items => (place? items.size key).bind fun i => items[i]?
  | .list place => (place? (store.items place).size key).bind fun i => (store.items place)[i]?
  | .dictionary place => ((store.dictionary place).get? key).join
  | .string text => (place? text.size key).map fun i => .string (text.extract i (i + 1))
  | .bytes text => (place? text.size key).map fun i => .bytes (text.extract i (i + 1))
  | .range numbers => (place? numbers.count key).map fun i => .integer (numbers.get i)
  | .view .bytes text => (place? text.size key).map fun i => .string (text.extract i (i + 1))
  | .view .byteNumbers text =>
      (place? text.size key).bind fun i => text.data[i]?.map fun b => .ofNat b.toNat
  | _ => none

/-- A bound among `size` items, which counts from the end if it is negative. One that is left out has
a value of its own. -/
def bound? (size : Nat) (default : Int) : Value → Option Int
  | .nothing => some default
  | value => value.small?.map fun n => if n < 0 then n + size else n

def forward? (size : Nat) (start stop : Value) : Option (Nat × Nat) :=
  match bound? size 0 start, bound? size size stop with
  | some start, some stop => some (min start.toNat size, min stop.toNat size)
  | _, _ => none

def backward? (size : Nat) (start stop : Value) : Option (Int × Int) :=
  match bound? size (size - 1) start, bound? size (-1) stop with
  | some start, some stop =>
      let start := min start (size - 1)
      let stop := max stop (-1)
      some (max start stop, stop)
  | _, _ => none

def sliceBounds? (size : Nat) (start stop step : Value) : Option (Int × Int × Int) :=
  let step := match step with
    | .nothing => some 1
    | step => step.small?
  match step with
  | none => none
  | some step =>
      if step = 0 then none
      else if 0 < step then
        (forward? size start stop).map fun (start, stop) => (start, max start stop, step)
      else (backward? size start stop).map fun (start, stop) => (start, stop, step)

def stepCount (start stop step : Int) : Nat :=
  if 0 < step then ((stop - start + step - 1).fdiv step).toNat
  else ((start - stop - step - 1).fdiv (-step)).toNat

def slicePlaces (bounds : Int × Int × Int) : Array Nat :=
  let (start, stop, step) := bounds
  (Array.range (stepCount start stop step)).map fun (i : Nat) => (start + i * step).toNat

def sliceItems (items : Array Value) (bounds : Int × Int × Int) : Array Value :=
  (slicePlaces bounds).filterMap fun i => items[i]?

def sliceText (text : ByteArray) (bounds : Int × Int × Int) : ByteArray :=
  if bounds.2.2 = 1 then text.extract bounds.1.toNat bounds.2.1.toNat
  else ByteArray.mk ((slicePlaces bounds).filterMap fun i => text.data[i]?)

end Value

namespace Action

open Value

def plain (operator : Operator) (x y : Value) : Action Value := do
  let store ← get
  ofOption <|
    match operator with
    | .add => arithmetic? (fun m n => some (m + n)) (fun x y => some (x + y)) x y
    | .subtract => arithmetic? (fun m n => some (m - n)) (fun x y => some (x - y)) x y
    | .multiply => arithmetic? (fun m n => some (m * n)) (fun x y => some (x * y)) x y
    | .divide => divide? x y
    | .floorDivide => floorDivide? x y
    | .remainder => remainder? x y
    | .bitAnd => integers? (fun m n => some (bitwise and m n)) x y
    | .bitOr => integers? (fun m n => some (bitwise or m n)) x y
    | .bitXor => integers? (fun m n => some (bitwise xor m n)) x y
    | .shiftLeft =>
        match x, y.small? with
        | .integer m, some n => (shiftLeft? m n).map Value.integer
        | _, _ => none
    | .shiftRight =>
        match x, y.small? with
        | .integer m, some n => (shiftRight? m n).map Value.integer
        | _, _ => none
    | .compare comparison => (compare? store comparison x y).map Value.boolean
    | .contains => (contains? store x y).map Value.boolean
    | .lacks => (contains? store x y).map fun found => .boolean !found

def add (x y : Value) : Action Value := do
  match x, y with
  | .string a, .string b => return .string (a ++ b)
  | .bytes a, .bytes b => return .bytes (a ++ b)
  | .tuple xs, .tuple ys => return .tuple (xs ++ ys)
  | .list a, .list b =>
      let store ← get
      newList (store.items a ++ store.items b)
  | _, _ => plain .add x y

def repeated (n : Int) (x y : Value) : Action Value := do
  match y with
  | .string text => return .string (← ofOption (repeatText? n text))
  | .bytes text => return .bytes (← ofOption (repeatText? n text))
  | .tuple items => return .tuple (← ofOption (repeatItems? n items))
  | .list place => newList (← ofOption (repeatItems? n ((← get).items place)))
  | _ => plain .multiply x y

def multiply (x y : Value) : Action Value :=
  match x, y with
  | .integer n, _ => repeated n x y
  | _, .integer n => repeated n y x
  | _, _ => plain .multiply x y

def binary (operator : Operator) (x y : Value) : Action Value := do
  match operator, x, y with
  | .add, _, _ => add x y
  | .multiply, _, _ => multiply x y
  | .remainder, .string text, _ =>
      return .ofBytes (← ofOption (Interpolation.percent? (← get) text.toList y))
  | .bitOr, .dictionary a, .dictionary b =>
      let store ← get
      newDictionary ((store.dictionary a).union (store.dictionary b))
  | _, _, _ => plain operator x y

def extend (place : Nat) (value : Value) : Action Unit := do
  requireQuietList place
  let more ← items value
  modifyList place fun items => items ++ more

/-- The value of an operator that may change what is held before: lists grow and dictionaries take
over entries. -/
def update (operator : Operator) (held value : Value) : Action Value := do
  match operator, held, value with
  | .add, .list place, _ =>
      if (value.sequence? (← get)).isSome then
        extend place value
        return held
      else binary operator held value
  | .bitOr, .dictionary place, .dictionary other =>
      let more := (← get).dictionary other
      modifyDictionary place fun dictionary => some (dictionary.addAll more)
      return held
  | _, _, _ => binary operator held value

def slice (collection start stop step : Value) : Action Value := do
  match collection with
  | .tuple items =>
      return .tuple (sliceItems items (← ofOption (sliceBounds? items.size start stop step)))
  | .list place =>
      let items := (← get).items place
      newList (sliceItems items (← ofOption (sliceBounds? items.size start stop step)))
  | .string text =>
      return .string (sliceText text (← ofOption (sliceBounds? text.size start stop step)))
  | .bytes text =>
      return .bytes (sliceText text (← ofOption (sliceBounds? text.size start stop step)))
  | .range numbers =>
      let (start, stop, step) ← ofOption (sliceBounds? numbers.count start stop step)
      let part := numbers.slice start stop step
      if part.step = 0 then throw (.crashed .zeroStep) else return .range part
  | _ => fail

def setIndex (collection key value : Value) : Action Unit := do
  match collection with
  | .dictionary place => modifyDictionary place fun dictionary => dictionary.insert? key value
  | .list place =>
      let i ← ofOption (place? ((← get).items place).size key)
      modifyList place fun items => items.setIfInBounds i value
  | _ => fail

end Action

end RegisterMachine.Expression
