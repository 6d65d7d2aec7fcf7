import RegisterMachine.Settings.Problem

/-! Steps in the reading of settings. All that does not fit is told at once, in the order of the
document; what is malformed ends the reading. -/

namespace RegisterMachine.Settings

open Document (Node Meaning)

inductive Stop where
  | malformed
  | crashed
  deriving DecidableEq, Repr

/-- How far a reading is: the problems, the last first, the number of nodes that were visited, and of
those that were visited through an alias, and the aliases that are being followed. -/
structure Account where
  problems : List Problem
  visits : Nat
  aliasVisits : Nat
  following : List Nat

abbrev Decoding := EStateM Stop Account

namespace Decoding

def initial : Account where
  problems := []
  visits := 0
  aliasVisits := 0
  following := []

def report (problem : Problem) : Decoding Unit :=
  modify fun account => { account with problems := problem :: account.problems }

/-- The share of nodes that may be visited through aliases, which gets smaller as there are more. -/
def allowedShare (visits : Nat) : Float :=
  if visits ≤ 400000 then 0.99
  else if 4000000 ≤ visits then 0.10
  else 0.99 - 0.89 * ((visits - 400000).toFloat / 3600000)

def isExcessive (account : Account) : Bool :=
  100 < account.aliasVisits && 1000 < account.visits &&
    account.aliasVisits.toFloat / account.visits.toFloat > allowedShare account.visits

def visit : Decoding Unit := do
  modify fun account =>
    { account with
      visits := account.visits + 1
      aliasVisits := account.aliasVisits + if account.following.isEmpty then 0 else 1 }
  if isExcessive (← get) then throw .malformed

def follow (number : Nat) (read : Decoding α) : Decoding α := do
  if (← get).following.contains number then throw .malformed
  modify fun account => { account with following := number :: account.following }
  let result ← read
  modify fun account => { account with following := account.following.drop 1 }
  return result

def reading (document : Document) (read : Node → Decoding α) (node : Node) : Decoding α := do
  visit
  match node with
  | .reference _ _ number target =>
      follow number do
        visit
        read ((document.anchored[target]?).getD (Node.empty 0))
  | node => read node

end Decoding

/-- Whether two keys are of one kind and have the same text or name. Collections have none. -/
def sameKey : Node → Node → Bool
  | .scalar _ _ a _, .scalar _ _ b _ => a == b
  | .reference _ a _ _, .reference _ b _ _ => a == b
  | .sequence .., .sequence .. => true
  | .mapping .., .mapping .. => true
  | _, _ => false

def keyText : Node → Bytes
  | .scalar _ _ text _ => text
  | .reference _ name _ _ => name
  | _ => []

def repeatedKeys : List Node → List Problem
  | [] => []
  | key :: rest =>
      (rest.filter (sameKey key)).map (fun other =>
        .repeatedKey other.line (keyText other) key.line) ++ repeatedKeys rest

def hasUniqueKeys (entries : List (Node × Node)) : Decoding Bool := do
  let repeated := repeatedKeys (entries.map Prod.fst)
  repeated.forM Decoding.report
  return repeated.isEmpty

def readScalar (document : Document) (wanted : Target) (read : Bytes → Meaning → Option α) :
    Node → Decoding (Option α) :=
  Decoding.reading document fun node =>
    match node with
    | .scalar line tag text isPlain =>
        match Meaning.ofScalar? tag text isPlain with
        | none => throw .malformed
        | some .null => return none
        | some meaning =>
            match read text meaning with
            | some value => return some value
            | none => do
                Decoding.report (.mismatch line node.tag text wanted)
                return none
    | .mapping line _ entries => do
        if ← hasUniqueKeys entries then Decoding.report (.mismatch line node.tag [] wanted)
        return none
    | _ => do
        Decoding.report (.mismatch node.line node.tag [] wanted)
        return none

def text? (text : Bytes) : Meaning → Option Bytes
  | .text found => some found
  | _ => some text

def readText (document : Document) : Node → Decoding (Option Bytes) :=
  readScalar document .text text?

inductive Key where
  | null
  | boolean (b : Bool)
  | integer (n : Int)
  | real (bits : UInt64)
  | moment (text : Bytes)
  | text (b : Bytes)
  | collection
  deriving DecidableEq, Repr

namespace Key

def ofMeaning (source : Bytes) : Meaning → Key
  | .null => .null
  | .boolean b => .boolean b
  | .integer n => .integer n
  | .real x => .real (if x == 0 then 0 else x.toBits)
  | .moment => .moment source
  | .text b => .text b

/-- Whether a key is among others. What is not a number differs from itself. -/
def isAmong (key : Key) (keys : List Key) : Bool :=
  match key with
  | .real bits => !(Float.ofBits bits).isNaN && keys.contains key
  | _ => keys.contains key

end Key

def tagOf (document : Document) : Node → Bytes
  | .reference _ _ _ target => ((document.anchored[target]?).getD (Node.empty 0)).tag
  | node => node.tag

def admit? (key : Key) : Option (List Key) → Decoding (Bool × Option (List Key))
  | none => return (true, none)
  | some known => do
      if key = .collection then throw .crashed
      if key.isAmong known then return (false, some known) else return (true, some (key :: known))

/-- The entries of a mapping without the key of a merge, and what is merged, the last one counting. -/
def splitMerge (entries : List (Node × Node)) : List (Node × Node) × Option Node :=
  (entries.filter fun entry => !entry.1.isMerge,
    ((entries.filter fun entry => entry.1.isMerge).getLast?).map Prod.snd)

def isMergeable (document : Document) : Node → Bool
  | .reference _ _ _ target => (document.anchored[target]?).any Node.isMapping
  | node => node.isMapping

def mergeAll (document : Document) (read : List Key → α → Node → Decoding (List Key × α)) :
    List Key → α → List Node → Decoding (List Key × α)
  | keys, value, [] => return (keys, value)
  | keys, value, node :: rest => do
      if !isMergeable document node then throw .malformed
      let (keys, value) ← read keys value node
      mergeAll document read keys value rest

def merge (document : Document) (read : List Key → α → Node → Decoding (List Key × α))
    (keys : List Key) (value : α) : Node → Decoding (List Key × α)
  | .sequence _ _ items => mergeAll document read keys value items
  | node => mergeAll document read keys value [node]

def hasTextKeys (document : Document) (entries : List (Node × Node)) : Bool :=
  entries.all fun entry =>
    let tag := tagOf document entry.1
    tag = Document.Tag.text || tag = Document.Tag.merge

mutual

/-- Reads a node whatever it is. The keys of mappings in it that are known are passed over. -/
def readAny (document : Document) : Nat → Option (List Key) → Node →
    Decoding (Option Key × Option (List Key))
  | 0, _, _ => throw .malformed
  | bound + 1, known, node =>
      Decoding.reading document (fun node =>
        match node with
        | .scalar _ tag text isPlain =>
            match Meaning.ofScalar? tag text isPlain with
            | none => throw .malformed
            | some meaning => return (some (.ofMeaning text meaning), known)
        | .sequence _ _ items => do
            let known ← readAnyItems document bound known items
            return (some .collection, known)
        | .mapping _ _ entries => do
            if ← hasUniqueKeys entries then
              let known ← readAnyMapping document (hasTextKeys document entries) bound known entries
              return (some .collection, known)
            else return (none, known)
        | .reference .. => throw .malformed) node

def readAnyItems (document : Document) : Nat → Option (List Key) → List Node →
    Decoding (Option (List Key))
  | 0, _, _ => throw .malformed
  | _ + 1, known, [] => return known
  | bound + 1, known, item :: rest => do
      let (_, known) ← readAny document bound known item
      readAnyItems document bound known rest

def readAnyMapping (document : Document) (textKeys : Bool) :
    Nat → Option (List Key) → List (Node × Node) → Decoding (Option (List Key))
  | 0, _, _ => throw .malformed
  | bound + 1, known, entries => do
      let (plain, merged) := splitMerge entries
      let after ← readAnyEntries document textKeys bound known plain
      match merged with
      | none => return after
      | some node => do
          let keys ← knownKeys document bound after entries
          let read (keys : List Key) (_ : Unit) (node : Node) : Decoding (List Key × Unit) :=
            Decoding.reading document (fun node =>
              match node with
              | .mapping _ _ entries => do
                  if ← hasUniqueKeys entries then
                    let known ← readAnyMapping document textKeys bound (some keys) entries
                    return (known.getD keys, ())
                  else return (keys, ())
              | _ => return (keys, ())) node
          let (keys, _) ← merge document read keys () node
          return after.map fun _ => keys

def readAnyEntries (document : Document) (textKeys : Bool) :
    Nat → Option (List Key) → List (Node × Node) → Decoding (Option (List Key))
  | 0, _, _ => throw .malformed
  | _ + 1, known, [] => return known
  | bound + 1, known, (key, node) :: rest => do
      let found ←
        if textKeys then pure ((← readText document key).map Key.text)
        else pure (← readAny document bound none key).1
      match found with
      | none => readAnyEntries document textKeys bound known rest
      | some found => do
          let (isNew, known) ← admit? found known
          if isNew then
            if found = .collection then throw .malformed
            discard (readAny document bound none node)
          readAnyEntries document textKeys bound known rest

/-- The keys that are known where entries are merged into a mapping: those of the mapping itself,
unless more are known from around it. -/
def knownKeys (document : Document) : Nat → Option (List Key) → List (Node × Node) →
    Decoding (List Key)
  | 0, _, _ => throw .malformed
  | _ + 1, some known, _ => return known
  | bound + 1, none, entries => ownKeys document bound [] entries

def ownKeys (document : Document) : Nat → List Key → List (Node × Node) → Decoding (List Key)
  | 0, _, _ => throw .malformed
  | _ + 1, keys, [] => return keys
  | bound + 1, keys, (key, _) :: rest => do
      let (found, known) ← readAny document bound (some keys) key
      let keys := known.getD keys
      match found with
      | none => ownKeys document bound keys rest
      | some found => do
          if found = .collection then throw .crashed
          ownKeys document bound (found :: keys) rest

end

end RegisterMachine.Settings
