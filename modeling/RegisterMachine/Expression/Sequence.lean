import RegisterMachine.Expression.Value
import RegisterMachine.Text.Utf8

/-! Going through the items of values. -/

namespace RegisterMachine.Expression

/-- Items in order, which need not be there before they are asked for. -/
structure Sequence where
  size : Nat
  get : Nat → Value

namespace Sequence

def ofArray (items : Array Value) : Sequence where
  size := items.size
  get i := items.getD i .nothing

def toArray (sequence : Sequence) : Array Value :=
  (Array.range sequence.size).map sequence.get

def anyFrom (sequence : Sequence) (p : Value → Bool) : Nat → Nat → Bool
  | 0, _ => false
  | left + 1, i => if p (sequence.get i) then true else sequence.anyFrom p left (i + 1)

def any (sequence : Sequence) (p : Value → Bool) : Bool :=
  sequence.anyFrom p sequence.size 0

end Sequence

namespace View

def ofBytes (text : ByteArray) (start stop : Nat) : Value :=
  .string (text.extract start stop)

def items (text : ByteArray) : View → Sequence
  | .bytes => { size := text.size, get := fun i => ofBytes text i (i + 1) }
  | .byteNumbers => numbers
  | .characters =>
      .ofArray ((characters.map fun c => Value.ofBytes (Text.Utf8.encode c)).toArray)
  | .characterNumbers => .ofArray ((characters.map fun c => Value.ofNat c.toNat).toArray)
  | .numbers => numbers
where
  numbers : Sequence :=
    { size := text.size, get := fun i => .ofNat (text.data.getD i 0).toNat }
  characters : List Char :=
    Text.Utf8.decode text.toList

end View

namespace Value

def sequence? (store : Store) : Value → Option Sequence
  | .tuple items => some (.ofArray items)
  | .list place => some (.ofArray (store.items place))
  | .dictionary place => some (.ofArray (store.dictionary place).keys)
  | .range numbers => some { size := numbers.count, get := fun i => .integer (numbers.get i) }
  | .view way text => some (way.items text)
  | _ => none

def size? (store : Store) : Value → Option Nat
  | .string text => some text.size
  | .bytes text => some text.size
  | .tuple items => some items.size
  | .list place => some (store.items place).size
  | .dictionary place => some (store.dictionary place).size
  | .range numbers => if 0 ≤ numbers.size then some numbers.count else none
  | .view .bytes text => some text.size
  | .view .byteNumbers text => some text.size
  | _ => none

def isTrue (store : Store) : Value → Bool
  | .nothing => false
  | .boolean b => b
  | .integer n => n ≠ 0
  | .real x => x != 0
  | .string text => text.size ≠ 0
  | .bytes text => text.size ≠ 0
  | .tuple items => !items.isEmpty
  | .list place => !(store.items place).isEmpty
  | .dictionary place => (store.dictionary place).size ≠ 0
  | .range numbers => numbers.count ≠ 0
  | _ => true

end Value

/-- How the statements of a block end: at the last one, at a loop's end or its next turn, or with the
result of a function. -/
inductive Flow where
  | next
  | leave
  | again
  | result (value : Value)

namespace Action

def sequence (value : Value) : Action Sequence := do
  ofOption (value.sequence? (← get))

def memoryLimit : Nat := Nat.pow 2 44

def items (value : Value) : Action (Array Value) := do
  let sequence ← sequence value
  if memoryLimit < sequence.size then throw (.crashed .bounds) else return sequence.toArray

def eachFrom (sequence : Sequence) (body : Value → Action Flow) : Nat → Nat → Action Flow
  | 0, _ => pure .next
  | left + 1, i => do
      match ← body (sequence.get i) with
      | .leave => pure .next
      | .result value => pure (.result value)
      | _ => eachFrom sequence body left (i + 1)

/-- Does something with the items of a value, which nothing changes meanwhile. -/
def reading (value : Value) (action : Sequence → Action α) : Action α := do
  let sequence ← sequence value
  modifyReaders (· + 1) value
  let result ← action sequence
  modifyReaders (· - 1) value
  return result

def each (value : Value) (body : Value → Action Flow) : Action Flow :=
  reading value fun sequence => eachFrom sequence body sequence.size 0

end Action

end RegisterMachine.Expression
