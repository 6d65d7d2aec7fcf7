import RegisterMachine.Document.Token

/-! The nodes of YAML documents, and their reading from tokens. -/

namespace RegisterMachine

namespace Document

/-- A node with the number of its line and the tag that is written with it. An alias has a number of its
own and gives the place of the node it stands for among those with an anchor. -/
inductive Node where
  | scalar (line : Nat) (tag : Option Bytes) (text : Bytes) (isPlain : Bool)
  | sequence (line : Nat) (tag : Option Bytes) (items : List Node)
  | mapping (line : Nat) (tag : Option Bytes) (entries : List (Node × Node))
  | reference (line : Nat) (name : Bytes) (number target : Nat)
  deriving Repr, Inhabited

namespace Node

def empty (line : Nat) : Node :=
  .scalar line none [] true

def line : Node → Nat
  | .scalar line _ _ _ => line
  | .sequence line _ _ => line
  | .mapping line _ _ => line
  | .reference line _ _ _ => line

end Node

def standardTags : Bytes := utf8 "tag:yaml.org,2002:"

def shortTag (tag : Bytes) : Bytes :=
  if standardTags.isPrefixOf tag then utf8 "!!" ++ tag.drop standardTags.length else tag

def standardHandles : List (Bytes × Bytes) :=
  [(utf8 "!", utf8 "!"), (utf8 "!!", standardTags)]

def WrittenTag.complete? (handles : List (Bytes × Bytes)) (tag : WrittenTag) : Option Bytes :=
  if tag.handle.isEmpty then some tag.suffix
  else (handles.lookup tag.handle).map (· ++ tag.suffix)

/-- How far a document has been read: the tokens that follow, the handles of tags, the places of the
anchored nodes by name, the last first, and the number of aliases. A node that is not complete has an
empty one in its place. -/
structure Progress where
  tokens : List Token
  handles : List (Bytes × Bytes)
  anchors : List (Bytes × Nat)
  anchored : Array Node
  aliases : Nat

abbrev NodeReader := StateT Progress Option

namespace NodeReader

def peek : NodeReader Token := fun progress =>
  match progress.tokens with
  | [] => none
  | token :: _ => if token.sign = .unreadable then none else some (token, progress)

def skip : NodeReader Unit :=
  modify fun progress => { progress with tokens := progress.tokens.drop 1 }

def accept (sign : Sign) : NodeReader Bool := do
  if (← peek).sign = sign then
    skip
    return true
  else return false

/-- Gives a node a place before it is complete, if it has an anchor. -/
def register (anchor : Option Bytes) : NodeReader (Option Nat) := do
  match anchor with
  | none => return none
  | some name =>
      let place := (← get).anchored.size
      modify fun progress =>
        { progress with
          anchors := (name, place) :: progress.anchors
          anchored := progress.anchored.push (Node.empty 0) }
      return some place

def complete (place : Option Nat) (node : Node) : NodeReader Node := do
  match place with
  | none => return node
  | some place =>
      modify fun progress =>
        { progress with anchored := progress.anchored.setIfInBounds place node }
      return node

def reference (line : Nat) (name : Bytes) : NodeReader Node := do
  match (← get).anchors.lookup name with
  | none => failure
  | some target =>
      let number := (← get).aliases
      modify fun progress => { progress with aliases := progress.aliases + 1 }
      return .reference line name number target

def anchor? : NodeReader (Option Bytes) := do
  match (← peek).sign with
  | .anchor name =>
      skip
      return some name
  | _ => return none

def tag? : NodeReader (Option Bytes) := do
  match (← peek).sign with
  | .tag found =>
      skip
      match found.complete? (← get).handles with
      | some tag => return some tag
      | none => failure
  | _ => return none

def properties : NodeReader (Option Bytes × Option Bytes) := do
  match ← anchor? with
  | some anchor => return (some anchor, ← tag?)
  | none =>
      match ← tag? with
      | some tag => return (← anchor?, some tag)
      | none => return (none, none)

/-- The tag that a node gets. An exclamation mark alone is as good as none. -/
def tagOf (tag : Option Bytes) : Option Bytes :=
  (tag.filter (· ≠ utf8 "!")).map shortTag

def endsPair (sign : Sign) : Bool :=
  sign = .key || sign = .value || sign = .blockEnd

def endsFlow (closing sign : Sign) : Bool :=
  sign = .comma || sign = closing

mutual

/-- A node with its properties. Blocks stand outside of brackets only, and a sequence that is the value
of a key need not be indented. -/
def node (block indentless : Bool) : Nat → NodeReader Node
  | 0 => failure
  | bound + 1 => do
      let token ← peek
      match token.sign with
      | .reference name =>
          skip
          reference token.line name
      | _ =>
          let (anchor, tag) ← properties
          content block indentless anchor tag token.line bound

def content (block indentless : Bool) (anchor tag : Option Bytes) (line : Nat) :
    Nat → NodeReader Node
  | 0 => failure
  | bound + 1 => do
      let sign := (← peek).sign
      match sign with
      | .scalar text isPlain =>
          skip
          complete (← register anchor) (.scalar line (tagOf tag) text isPlain)
      | .flowSequenceStart =>
          skip
          let place ← register anchor
          let items ← flowItems true [] bound
          complete place (.sequence line (tagOf tag) items)
      | .flowMappingStart =>
          skip
          let place ← register anchor
          let entries ← flowEntries true [] bound
          complete place (.mapping line (tagOf tag) entries)
      | _ =>
          if block && sign = .sequenceStart then
            skip
            let place ← register anchor
            let items ← blockItems false [] bound
            complete place (.sequence line (tagOf tag) items)
          else if block && sign = .mappingStart then
            skip
            let place ← register anchor
            let entries ← blockEntries [] bound
            complete place (.mapping line (tagOf tag) entries)
          else if indentless && sign = .entry then
            let place ← register anchor
            let items ← blockItems true [] bound
            complete place (.sequence line (tagOf tag) items)
          else if anchor.isSome || tag.isSome then
            complete (← register anchor) (.scalar line (tagOf tag) [] true)
          else failure

/-- The items of a block sequence. One that is not indented has no token at its end. -/
def blockItems (indentless : Bool) (done : List Node) : Nat → NodeReader (List Node)
  | 0 => failure
  | bound + 1 => do
      let token ← peek
      if token.sign = .entry then
        skip
        let sign := (← peek).sign
        let isEmpty := sign = .entry || sign = .blockEnd || (indentless && endsPair sign)
        let item ← if isEmpty then pure (Node.empty token.line) else node true false bound
        blockItems indentless (item :: done) bound
      else if indentless then return done.reverse
      else if token.sign = .blockEnd then
        skip
        return done.reverse
      else failure

def blockEntries (done : List (Node × Node)) : Nat → NodeReader (List (Node × Node))
  | 0 => failure
  | bound + 1 => do
      let token ← peek
      if token.sign = .key then
        skip
        let key ←
          if endsPair (← peek).sign then pure (Node.empty token.line) else node true true bound
        let next ← peek
        let value ←
          if next.sign = .value then
            skip
            if endsPair (← peek).sign then pure (Node.empty next.line) else node true true bound
          else pure (Node.empty next.line)
        blockEntries ((key, value) :: done) bound
      else if token.sign = .blockEnd then
        skip
        return done.reverse
      else failure

/-- The items of a sequence in brackets. A pair among them is a mapping of its own. Where its key is
left out, the token after it goes with the key. -/
def flowItems (first : Bool) (done : List Node) : Nat → NodeReader (List Node)
  | 0 => failure
  | bound + 1 => do
      if ← accept .flowSequenceEnd then return done.reverse
      if !first && !(← accept .comma) then failure
      let token ← peek
      if token.sign = .flowSequenceEnd then
        skip
        return done.reverse
      else if token.sign = .key then
        skip
        let next ← peek
        let key ←
          if next.sign = .value || endsFlow .flowSequenceEnd next.sign then
            skip
            pure (Node.empty next.line)
          else node false false bound
        let value ← flowValue .flowSequenceEnd bound
        flowItems false (.mapping token.line none [(key, value)] :: done) bound
      else
        let item ← node false false bound
        flowItems false (item :: done) bound

def flowValue (closing : Sign) : Nat → NodeReader Node
  | 0 => failure
  | bound + 1 => do
      if ← accept .value then
        let next ← peek
        if endsFlow closing next.sign then return Node.empty next.line else node false false bound
      else return Node.empty (← peek).line

def flowEntries (first : Bool) (done : List (Node × Node)) : Nat → NodeReader (List (Node × Node))
  | 0 => failure
  | bound + 1 => do
      if ← accept .flowMappingEnd then return done.reverse
      if !first && !(← accept .comma) then failure
      let token ← peek
      if token.sign = .flowMappingEnd then
        skip
        return done.reverse
      else if token.sign = .key then
        skip
        let next ← peek
        let key ←
          if next.sign = .value || endsFlow .flowMappingEnd next.sign then pure (Node.empty next.line)
          else node false false bound
        let value ← flowValue .flowMappingEnd bound
        flowEntries false ((key, value) :: done) bound
      else
        let key ← node false false bound
        let next ← peek
        flowEntries false ((key, Node.empty next.line) :: done) bound

end

def isKnownVersion (major minor : Nat) : Bool :=
  major = 1 && minor = 1

/-- The directives before a document. The version is given once, and each handle is declared once. -/
def directives (versioned : Bool) : Nat → NodeReader Unit
  | 0 => failure
  | bound + 1 => do
      match (← peek).sign with
      | .directive (.version major minor) =>
          if versioned || !isKnownVersion major minor then failure
          skip
          directives true bound
      | .directive (.tag handle replacement) =>
          if ((← get).handles.lookup handle).isSome then failure
          modify fun progress =>
            { progress with handles := progress.handles ++ [(handle, replacement)] }
          skip
          directives versioned bound
      | _ => modify fun progress => { progress with handles := progress.handles ++ standardHandles }

def isDirective : Sign → Bool
  | .directive _ => true
  | _ => false

def endsDocument (sign : Sign) : Bool :=
  isDirective sign || sign = .documentStart || sign = .documentEnd || sign = .textEnd

/-- The node of the first document, if there is one. Directives come before a mark. The token after the
document can be read, whatever it is. -/
def document (bound : Nat) : NodeReader (Option Node) := do
  let first ← peek
  if first.sign = .textEnd then return none
  directives false bound
  if isDirective first.sign || first.sign = .documentStart then
    if !(← accept .documentStart) then failure
    let next ← peek
    let root ← if endsDocument next.sign then pure (Node.empty next.line) else node true false bound
    discard peek
    return some root
  else
    let root ← node true false bound
    discard peek
    return some root

end NodeReader

end Document

/-- The first document of a text. The nodes with an anchor are kept apart, since nodes inside of them
may refer to them. -/
structure Document where
  root : Document.Node
  anchored : Array Document.Node
  aliases : Nat
  size : Nat

namespace Document

def ofTokens? (tokens : List Token) : Option (Option Document) :=
  let start : Progress := { tokens, handles := [], anchors := [], anchored := #[], aliases := 0 }
  match (NodeReader.document (8 * (tokens.length + 1))).run start with
  | none => none
  | some (none, _) => some none
  | some (some root, after) =>
      some (some
        { root, anchored := after.anchored, aliases := after.aliases, size := tokens.length })

def parse? (text : Bytes) : Option (Option Document) :=
  ofTokens? (Token.scan text)

end Document

end RegisterMachine
