import RegisterMachine.Expression.Arguments
import RegisterMachine.Expression.Operation

/-! The methods of lists and dictionaries. -/

namespace RegisterMachine.Expression

namespace Action

def searchItem? (store : Store) (items : Array Value) (value : Value) : Nat → Nat → Option Nat
  | 0, _ => none
  | left + 1, i =>
      match Value.equal? store (items.getD i .nothing) value with
      | none => none
      | some true => some i
      | some false => searchItem? store items value left (i + 1)

def itemIndex (items : Array Value) (arguments : Array Value) : Action Value := do
  let (start, stop) ← ofOption
    (Value.forward? items.size (arguments.getD 1 .nothing) (arguments.getD 2 .nothing))
  return .ofNat (← ofOption
    (searchItem? (← get) items (arguments.getD 0 .nothing) (stop - start) start))

def insertItem (place : Nat) (size : Nat) (index : Int) (value : Value) : Action Unit :=
  let index := if index < 0 then index + size else index
  let i := min index.toNat size
  modifyList place fun items => items.extract 0 i ++ #[value] ++ items.extract i size

def popItem (place : Nat) (items : Array Value) (index : Int) : Action Value := do
  let index := if index < 0 then index + items.size else index
  require (0 ≤ index && index < items.size)
  modifyList place fun items => items.eraseIdxIfInBounds index.toNat
  return items.getD index.toNat .nothing

end Action

def ListMethod.call (method : ListMethod) (place : Nat) (arguments : Arguments) : Action Value := do
  match method with
  | .append =>
      let value ← Action.ofOption arguments.only?
      Action.modifyList place fun items => items.push value
      return .nothing
  | .clear =>
      let _ ← Action.ofOption (arguments.placed? 0 0)
      Action.modifyList place fun _ => #[]
      return .nothing
  | .extend =>
      Action.extend place (← Action.ofOption arguments.only?)
      return .nothing
  | .index => Action.itemIndex ((← get).items place) (← Action.ofOption (arguments.placed? 1 3))
  | .insert =>
      let values ← Action.ofOption (arguments.placed? 2 2)
      let position ← Action.ofOption (values.getD 0 .nothing).word?
      Action.insertItem place ((← get).items place).size position (values.getD 1 .nothing)
      return .nothing
  | .pop =>
      let values ← Action.ofOption (arguments.placed? 0 1)
      let items := (← get).items place
      let position ← Action.ofOption (values.getD 0 (.integer (items.size - 1))).word?
      Action.popItem place items position
  | .remove =>
      let value ← Action.ofOption arguments.only?
      Action.requireQuietList place
      let items := (← get).items place
      let i ← Action.ofOption (Action.searchItem? (← get) items value items.size 0)
      Action.modifyList place fun items => items.eraseIdxIfInBounds i
      return .nothing

namespace Action

def eraseKey (place : Nat) (key : Value) : Action (Option Value) := do
  requireQuietDictionary place
  let dictionary := (← get).dictionary place
  if dictionary.entries.isEmpty then return none
  else
    match ← ofOption (dictionary.place? key), key.key? with
    | some position, some found =>
        let value := (dictionary.entries.getD position none).map Prod.snd
        modifyDictionary place fun dictionary => some (dictionary.erase found position)
        return value
    | _, _ => return none

def pair (source : Value) : Action (Value × Value) := do
  let store ← get
  let sequence ← sequence source
  require (source.size? store == some 2)
  return (sequence.get 0, sequence.get 1)

def addEntries (place : Nat) (source : Value) : Action Unit := do
  match source with
  | .dictionary other =>
      for (key, value) in ((← get).dictionary other).toList do
        modifyDictionary place fun dictionary => dictionary.insert? key value
  | _ =>
      discard <| each source fun item =>
        reading item fun _ => do
          let (key, value) ← pair item
          modifyDictionary place fun dictionary => dictionary.insert? key value
          return .next

/-- Adds the entries of an argument, and then named ones, which all have different names. -/
def updateEntries (place : Nat) (arguments : Arguments) : Action Unit := do
  require (arguments.placed.size ≤ 1)
  match arguments.placed[0]? with
  | some source => addEntries place source
  | none => pure ()
  for (name, value) in arguments.named do
    modifyDictionary place fun dictionary => dictionary.insert? (.ofBytes name) value
  require (decide (arguments.named.map Prod.fst).Nodup)

end Action

def DictionaryMethod.call (method : DictionaryMethod) (place : Nat) (arguments : Arguments) :
    Action Value := do
  match method with
  | .clear =>
      let _ ← Action.ofOption (arguments.placed? 0 0)
      Action.modifyDictionary place fun dictionary => some dictionary.clear
      return .nothing
  | .lookUp =>
      let values ← Action.ofOption (arguments.placed? 1 2)
      let found ← Action.ofOption (((← get).dictionary place).get? (values.getD 0 .nothing))
      return found.getD (values.getD 1 .nothing)
  | .items =>
      let _ ← Action.ofOption (arguments.placed? 0 0)
      let entries := ((← get).dictionary place).toList
      Action.newList (entries.map fun entry => .tuple #[entry.1, entry.2]).toArray
  | .keys =>
      let _ ← Action.ofOption (arguments.placed? 0 0)
      Action.newList ((← get).dictionary place).keys
  | .pop =>
      let values ← Action.ofOption (arguments.placed? 1 2)
      match ← Action.eraseKey place (values.getD 0 .nothing) with
      | some value => return value
      | none => Action.ofOption values[1]?
  | .popItem =>
      let _ ← Action.ofOption (arguments.placed? 0 0)
      let entry ← Action.ofOption ((← get).dictionary place).toList.head?
      let _ ← Action.eraseKey place entry.1
      return .tuple #[entry.1, entry.2]
  | .setDefault =>
      let values ← Action.ofOption (arguments.placed? 1 2)
      let key := values.getD 0 .nothing
      let value := values.getD 1 .nothing
      match ← Action.ofOption (((← get).dictionary place).get? key) with
      | some found => return found
      | none =>
          Action.modifyDictionary place fun dictionary => dictionary.insert? key value
          return value
  | .update =>
      Action.updateEntries place arguments
      return .nothing
  | .values =>
      let _ ← Action.ofOption (arguments.placed? 0 0)
      Action.newList ((← get).dictionary place).values

namespace Method

def inTable? (table : List (String × α)) (name : Bytes) : Option α :=
  (table.find? fun entry => utf8 entry.1 == name).map Prod.snd

def ofName? (object : Value) (name : Bytes) : Option Method :=
  match object with
  | .string _ => (inTable? TextMethod.table name).map Method.text
  | .bytes _ => if name = utf8 elementsName then some .elements else none
  | .list _ => (inTable? ListMethod.table name).map Method.list
  | .dictionary _ => (inTable? DictionaryMethod.table name).map Method.dictionary
  | _ => none

def names : Value → List String
  | .string _ => TextMethod.table.map Prod.fst
  | .bytes _ => [elementsName]
  | .list _ => ListMethod.table.map Prod.fst
  | .dictionary _ => DictionaryMethod.table.map Prod.fst
  | _ => []

end Method

end RegisterMachine.Expression
