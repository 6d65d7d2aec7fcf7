import RegisterMachine.Expression.Builtin
import RegisterMachine.Expression.Failure
import RegisterMachine.Expression.Range
import RegisterMachine.Expression.Term
import RegisterMachine.Text.Real
import Std.Data.HashMap

/-! The values of compile-time expressions. Lists, dictionaries and functions have an identity: their
values are places in a store that holds what they are. -/

namespace RegisterMachine.Expression

inductive View where
  | bytes
  | byteNumbers
  | characters
  | characterNumbers
  | numbers
  deriving DecidableEq, Repr

inductive Method where
  | text (method : TextMethod)
  | elements
  | list (method : ListMethod)
  | dictionary (method : DictionaryMethod)
  deriving DecidableEq, Repr

/-- A value. Every look at a method gives one with an identity of its own. -/
inductive Value where
  | nothing
  | boolean (b : Bool)
  | integer (n : Int)
  | real (x : Float)
  | string (text : ByteArray)
  | bytes (text : ByteArray)
  | tuple (items : Array Value)
  | list (place : Nat)
  | dictionary (place : Nat)
  | range (range : Range)
  | view (view : View) (text : ByteArray)
  | builtin (builtin : Builtin)
  | function (place : Nat)
  | method (identity : Nat) (method : Method) (object : Value)
  deriving Inhabited

namespace Value

def ofBytes (text : Bytes) : Value :=
  .string (ByteArray.mk text.toArray)

def ofNat (n : Nat) : Value :=
  .integer n

end Value

/-- What tells keys of dictionaries apart. Whole numbers are the same with and without a point. -/
inductive Key where
  | nothing
  | boolean (b : Bool)
  | integer (n : Int)
  | real (bits : UInt64)
  | string (text : ByteArray)
  | bytes (text : ByteArray)
  | tuple (items : List Key)
  | builtin (builtin : Builtin)
  | function (place : Nat)
  | method (identity : Nat)
  deriving BEq, Hashable

def Key.ofReal (x : Float) : Key :=
  match Text.Real.truncate? x with
  | some n => if Text.Real.ofInt n == x then .integer n else .real x.toBits
  | none => if x == x then .real x.toBits else .real 0

def Value.key? : Value → Option Key
  | .nothing => some .nothing
  | .boolean b => some (.boolean b)
  | .integer n => some (.integer n)
  | .real x => some (Key.ofReal x)
  | .string text => some (.string text)
  | .bytes text => some (.bytes text)
  | .tuple items => do
      let keys ← items.attach.mapM fun ⟨item, _⟩ => item.key?
      return .tuple keys.toList
  | .builtin which => some (.builtin which)
  | .function place => some (.function place)
  | .method identity _ _ => some (.method identity)
  | .list _ => none
  | .dictionary _ => none
  | .range _ => none
  | .view _ _ => none

def comparisonDepth : Nat := 10

def Value.isShallow : Nat → Value → Bool
  | _, .string _ => true
  | 0, _ => false
  | depth + 1, .tuple items => items.all (isShallow depth)
  | _ + 1, _ => true

/-- Keys with their values, in the order in which they were added. An entry that is taken away leaves
a gap, so that a dictionary without entries and gaps is one that never held anything. -/
structure Dictionary where
  entries : Array (Option (Value × Value))
  places : Std.HashMap Key Nat

namespace Dictionary

def empty : Dictionary where
  entries := #[]
  places := ∅

def size (dictionary : Dictionary) : Nat :=
  dictionary.places.size

def toList (dictionary : Dictionary) : List (Value × Value) :=
  dictionary.entries.toList.filterMap id

def keys (dictionary : Dictionary) : Array Value :=
  dictionary.entries.filterMap fun entry => entry.map Prod.fst

def values (dictionary : Dictionary) : Array Value :=
  dictionary.entries.filterMap fun entry => entry.map Prod.snd

/-- The place of a key, unless the value is no key or too deep to be compared with the one there. -/
def place? (dictionary : Dictionary) (key : Value) : Option (Option Nat) :=
  match key.key? with
  | none => none
  | some found =>
      match dictionary.places[found]? with
      | none => some none
      | some place => if key.isShallow comparisonDepth then some (some place) else none

def get? (dictionary : Dictionary) (key : Value) : Option (Option Value) :=
  (dictionary.place? key).map fun place =>
    place.bind fun place => (dictionary.entries.getD place none).map Prod.snd

def insert? (dictionary : Dictionary) (key value : Value) : Option Dictionary :=
  match dictionary.place? key, key.key? with
  | some (some place), _ =>
      some { dictionary with
        entries := dictionary.entries.modify place fun entry =>
          entry.map fun entry => (entry.1, value) }
  | some none, some found =>
      let place := dictionary.entries.size
      some
        { entries := dictionary.entries.push (some (key, value))
          places := dictionary.places.insert found place }
  | _, _ => none

def insertNew? (dictionary : Dictionary) (entry : Value × Value) : Option Dictionary :=
  match dictionary.place? entry.1 with
  | some none => dictionary.insert? entry.1 entry.2
  | _ => none

def addUpTo (dictionary : Dictionary) : List (Value × Value) → Dictionary
  | [] => dictionary
  | (key, value) :: rest =>
      match dictionary.insert? key value with
      | some sum => sum.addUpTo rest
      | none => dictionary

def addAll (dictionary other : Dictionary) : Dictionary :=
  dictionary.addUpTo other.toList

/-- A new dictionary with the entries of two. It counts as one that held something. -/
def union (dictionary other : Dictionary) : Dictionary :=
  ({ empty with entries := #[none] }.addAll dictionary).addAll other

def clear (dictionary : Dictionary) : Dictionary where
  entries := dictionary.entries.map fun _ => none
  places := ∅

def erase (dictionary : Dictionary) (key : Key) (place : Nat) : Dictionary where
  entries := dictionary.entries.set! place none
  places := dictionary.places.erase key

end Dictionary

/-- Something that can be changed unless it is being gone through. -/
structure Shared (α : Type) where
  content : α
  readers : Nat

/-- A variable: the number of the function or comprehension that binds it, and its name. -/
structure Variable where
  block : Nat
  name : Bytes
  deriving DecidableEq, Repr

abbrev Frame := List (Variable × Value)

structure Block where
  frame : Nat
  number : Nat
  names : List Bytes

inductive Body where
  | term (term : Term)
  | statements (statements : List Statement)

structure Closure where
  number : Nat
  name : Bytes
  parameters : List (Parameter Value)
  body : Body
  names : List Bytes
  scope : List Block

structure Store where
  lists : Array (Shared (Array Value))
  dictionaries : Array (Shared Dictionary)
  functions : Array Closure
  frames : Array Frame
  methods : Nat
  printed : List Bytes

def Store.empty : Store where
  lists := #[]
  dictionaries := #[]
  functions := #[]
  frames := #[]
  methods := 0
  printed := []

inductive Stop where
  | failed
  | crashed (breakdown : Breakdown)
  deriving DecidableEq, Repr

abbrev Action := EStateM Stop Store

namespace Action

def fail : Action α :=
  throw .failed

def ofOption : Option α → Action α
  | some a => pure a
  | none => fail

def require (condition : Bool) : Action Unit :=
  if condition then pure () else fail

end Action

namespace Store

def items (store : Store) (place : Nat) : Array Value :=
  match store.lists[place]? with
  | some list => list.content
  | none => #[]

def dictionary (store : Store) (place : Nat) : Dictionary :=
  match store.dictionaries[place]? with
  | some dictionary => dictionary.content
  | none => .empty

end Store

namespace Action

def newList (items : Array Value) : Action Value :=
  modifyGet fun store =>
    (.list store.lists.size, { store with lists := store.lists.push ⟨items, 0⟩ })

def newDictionary (dictionary : Dictionary) : Action Value :=
  modifyGet fun store =>
    (.dictionary store.dictionaries.size,
      { store with dictionaries := store.dictionaries.push ⟨dictionary, 0⟩ })

def newFunction (closure : Closure) : Action Value :=
  modifyGet fun store =>
    (.function store.functions.size, { store with functions := store.functions.push closure })

def newFrame (frame : Frame) : Action Nat :=
  modifyGet fun store =>
    (store.frames.size, { store with frames := store.frames.push frame })

def newMethod (method : Method) (object : Value) : Action Value :=
  modifyGet fun store =>
    (.method store.methods method object, { store with methods := store.methods + 1 })

def print (line : Bytes) : Action Unit :=
  modify fun store => { store with printed := line :: store.printed }

def requireQuietList (place : Nat) : Action Unit := do
  require (((← get).lists[place]?).all fun list => list.readers = 0)

def requireQuietDictionary (place : Nat) : Action Unit := do
  require (((← get).dictionaries[place]?).all fun dictionary => dictionary.readers = 0)

def modifyList (place : Nat) (f : Array Value → Array Value) : Action Unit := do
  requireQuietList place
  modify fun store =>
    { store with lists := store.lists.modify place fun list =>
        { list with content := f list.content } }

def exchangeDictionary (place : Nat) (dictionary : Dictionary) : Action Dictionary :=
  modifyGet fun store =>
    if bound : place < store.dictionaries.size then
      let (old, dictionaries) := store.dictionaries.swapAt place ⟨dictionary, 0⟩ bound
      (old.content, { store with dictionaries })
    else (dictionary, store)

/-- Changes a dictionary, if the change is possible. Nothing looks at the place in between. -/
def modifyDictionary (place : Nat) (f : Dictionary → Option Dictionary) : Action Unit := do
  requireQuietDictionary place
  let changed ← ofOption (f (← exchangeDictionary place .empty))
  discard <| exchangeDictionary place changed

def modifyReaders (f : Nat → Nat) (value : Value) : Action Unit :=
  match value with
  | .list place =>
      modify fun store =>
        { store with lists := store.lists.modify place fun list =>
            { list with readers := f list.readers } }
  | .dictionary place =>
      modify fun store =>
        { store with dictionaries := store.dictionaries.modify place fun dictionary =>
            { dictionary with readers := f dictionary.readers } }
  | _ => pure ()

end Action

end RegisterMachine.Expression
