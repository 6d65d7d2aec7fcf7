import RegisterMachine.Settings
import RegisterMachine.Settings.Decoding

/-! The reading of settings from YAML documents. -/

namespace RegisterMachine.Settings

open Document (Node Meaning)

def yesWords : List String :=
  ["y", "Y", "yes", "Yes", "YES", "on", "On", "ON"]

def noWords : List String :=
  ["n", "N", "no", "No", "NO", "off", "Off", "OFF"]

/-- A flag is given by a Boolean or by certain words, quoted or not. -/
def flag? (_ : Bytes) : Meaning → Option Bool
  | .boolean b => some b
  | .text text =>
      if (yesWords.map utf8).contains text then some true
      else if (noWords.map utf8).contains text then some false
      else none
  | _ => none

def leastLimit : Int := -Int.pow 2 63

/-- A limit is given by an integer, or by a real number that is cut off at its point. Real numbers
below the least one give that, and so does two to the 63rd. -/
def limit? (_ : Bytes) : Meaning → Option Int
  | .integer n => if n < Int.pow 2 63 then some n else none
  | .real x =>
      if x ≤ 9223372036854775808 then
        match Text.Real.truncate? x with
        | some n => if leastLimit ≤ n && n < Int.pow 2 63 then some n else some leastLimit
        | none => some leastLimit
      else none
  | _ => none

def readFlag (document : Document) : Node → Decoding (Option Bool) :=
  readScalar document .flag flag?

def readLimit (document : Document) : Node → Decoding (Option Int) :=
  readScalar document .limit limit?

/-- Reads the text of a definition. One that means null is empty, and does not replace another one. -/
def readDefinition (document : Document) (isNew : Bool) (table : Table Bytes) (name : Bytes)
    (node : Node) : Decoding (Table Bytes) := do
  match ← readText document node with
  | some text => return table.insert name text
  | none =>
      if tagOf document node = Document.Tag.null && (isNew || !table.contains name) then
        return table.insert name []
      else return table

/-- Reads definitions in order, passing over those that are known. A null key defines nothing. -/
def readEntries (document : Document) (isNew : Bool) (known : Option (List Key))
    (table : Table Bytes) : List (Node × Node) → Decoding (Option (List Key) × Table Bytes)
  | [] => return (known, table)
  | (key, node) :: rest => do
      match ← readText document key with
      | none => readEntries document isNew known table rest
      | some name =>
          let (isWanted, known) ← admit? (.text name) known
          let table ←
            if isWanted then readDefinition document isNew table name node else pure table
          readEntries document isNew known table rest

def readTable (document : Document) : Nat → Bool → Option (List Key) → Table Bytes →
    List (Node × Node) → Decoding (Option (List Key) × Table Bytes)
  | 0, _, _, _, _ => throw .malformed
  | bound + 1, isNew, known, table, entries => do
      let (plain, merged) := splitMerge entries
      let (known, table) ← readEntries document isNew known table plain
      match merged with
      | none => return (known, table)
      | some node => do
          let keys ← knownKeys document bound known entries
          let read (keys : List Key) (table : Table Bytes) (node : Node) :
              Decoding (List Key × Table Bytes) :=
            Decoding.reading document (fun node =>
              match node with
              | .mapping _ _ entries => do
                  if ← hasUniqueKeys entries then
                    let (known, table) ← readTable document bound false (some keys) table entries
                    return (known.getD keys, table)
                  else return (keys, table)
              | _ => return (keys, table)) node
          let (keys, table) ← merge document read keys table node
          return (known.map fun _ => keys, table)

/-- Bounds the depth of a reading: no alias is followed inside of itself, and no node is deeper than the
document. -/
def depthBound (document : Document) : Nat :=
  (document.size + 8) * (document.aliases + 2)

def readDefinitions (document : Document) (node : Node) : Decoding (Option (Table Bytes)) :=
  let isTable :=
    match node with
    | .reference _ _ _ target => (document.anchored[target]?).any Node.isMapping
    | node => node.isMapping
  if isTable then
    Decoding.reading document (fun node =>
      match node with
      | .mapping _ _ entries => do
          if ← hasUniqueKeys entries then
            let (_, table) ←
              readTable document (depthBound document) true none Table.empty entries
            return some table
          else return none
      | _ => return none) node
  else readScalar document .definitions (fun _ _ => none) node

inductive Field where
  | verbose
  | listing
  | tree
  | stackLimit
  | stepLimit
  | locale
  | defines
  deriving DecidableEq, Repr

def Field.name : Field → Bytes
  | .verbose => utf8 "verbose"
  | .listing => utf8 "listing"
  | .tree => utf8 "tree"
  | .stackLimit => utf8 "stack_limit"
  | .stepLimit => utf8 "step_limit"
  | .locale => utf8 "locale"
  | .defines => utf8 "defines"

def Field.all : List Field :=
  [.verbose, .listing, .tree, .stackLimit, .stepLimit, .locale, .defines]

def Field.ofName? (name : Bytes) : Option Field :=
  Field.all.find? fun field => field.name == name

def Field.read (document : Document) (settings : Settings) (node : Node) : Field → Decoding Settings
  | .verbose => do
      return { settings with verbose := (← readFlag document node).getD settings.verbose }
  | .listing => do
      return { settings with listing := (← readFlag document node).getD settings.listing }
  | .tree => do
      return { settings with tree := (← readFlag document node).getD settings.tree }
  | .stackLimit => do
      return { settings with stackLimit := (← readLimit document node).getD settings.stackLimit }
  | .stepLimit => do
      return { settings with stepLimit := (← readLimit document node).getD settings.stepLimit }
  | .locale => do
      return { settings with locale := (← readText document node).getD settings.locale }
  | .defines => do
      return { settings with defines := ← readDefinitions document node }

def readField (document : Document) (settings : Settings) (seen : List Field) (line : Nat)
    (name : Bytes) (node : Node) : Decoding (Settings × List Field) := do
  match Field.ofName? name with
  | none =>
      Decoding.report (.unknownField line name)
      return (settings, seen)
  | some field =>
      if seen.contains field then
        Decoding.report (.repeatedField line name)
        return (settings, seen)
      else return (← field.read document settings node, field :: seen)

def readFields (document : Document) (known : Option (List Key)) (settings : Settings)
    (seen : List Field) : List (Node × Node) → Decoding (Option (List Key) × Settings)
  | [] => return (known, settings)
  | (key, node) :: rest => do
      match ← readText document key with
      | none => readFields document known settings seen rest
      | some name =>
          let (isWanted, known) ← admit? (.text name) known
          if isWanted then
            let (settings, seen) ← readField document settings seen key.line name node
            readFields document known settings seen rest
          else readFields document known settings seen rest

def readMapping (document : Document) : Nat → Option (List Key) → Settings → List (Node × Node) →
    Decoding (Option (List Key) × Settings)
  | 0, _, _, _ => throw .malformed
  | bound + 1, known, settings, entries => do
      let (plain, merged) := splitMerge entries
      let (known, settings) ← readFields document known settings [] plain
      match merged with
      | none => return (known, settings)
      | some node => do
          let keys ← knownKeys document bound known entries
          let read (keys : List Key) (settings : Settings) (node : Node) :
              Decoding (List Key × Settings) :=
            Decoding.reading document (fun node =>
              match node with
              | .mapping _ _ entries => do
                  if ← hasUniqueKeys entries then
                    let (known, settings) ← readMapping document bound (some keys) settings entries
                    return (known.getD keys, settings)
                  else return (keys, settings)
              | _ => return (keys, settings)) node
          let (keys, settings) ← merge document read keys settings node
          return (known.map fun _ => keys, settings)

def readDocument (document : Document) : Decoding Settings := do
  Decoding.visit
  match document.root with
  | .mapping _ _ entries =>
      Decoding.visit
      if ← hasUniqueKeys entries then
        let (_, settings) ← readMapping document (depthBound document) none Settings.default entries
        return settings
      else return Settings.default
  | node =>
      discard (readScalar document .settings (fun _ _ => (none : Option Settings)) node)
      return Settings.default

def decode (text : Bytes) : Except Refusal Settings :=
  match Document.parse? text with
  | none => .error .malformed
  | some none => .ok Settings.default
  | some (some document) =>
      match (readDocument document).run Decoding.initial with
      | .error .malformed _ => .error .malformed
      | .error .crashed _ => .error .crashed
      | .ok settings account =>
          if !account.problems.isEmpty then .error (.mismatched account.problems.reverse)
          else if settings.isValid then .ok settings
          else .error .negativeLimit

end RegisterMachine.Settings
