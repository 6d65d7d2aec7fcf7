import RegisterMachine.Expression.Builtin
import RegisterMachine.Expression.Term

/-! Which names a text binds, and whether all that it uses are known. This is settled before
anything is evaluated. -/

namespace RegisterMachine.Expression

def isUniversal (name : Bytes) : Bool :=
  name == utf8 "None" || name == utf8 "True" || name == utf8 "False" ||
    (Builtin.ofName? name).isSome

def argumentLimit : Nat := 256

def Passing.isPlaced : Passing → Bool
  | .placed => true
  | _ => false

def Passing.isNamed : Passing → Bool
  | .named _ => true
  | _ => false

/-- Placed arguments come first, then named ones with different names, then collections of them. -/
def argumentsInOrder (arguments : List Passing) : Bool :=
  let rest := arguments.dropWhile Passing.isPlaced
  let named := rest.takeWhile Passing.isNamed
  let spread := rest.dropWhile Passing.isNamed
  [[], [.spread], [.spreadNamed], [.spread, .spreadNamed]].contains spread &&
    decide named.Nodup && named.length < argumentLimit &&
    arguments.length - rest.length < argumentLimit

def Parameter.isRequired : Parameter α → Bool
  | .required _ => true
  | _ => false

def Parameter.isOptional : Parameter α → Bool
  | .optional _ _ => true
  | _ => false

def Parameter.isSingle (parameter : Parameter α) : Bool :=
  parameter.isRequired || parameter.isOptional

def endsParameters : List (Parameter α) → Bool
  | [] => true
  | [.doubleStar _] => true
  | _ => false

/-- Parameters have different names. Before the star, those without a value come first; a star that
takes nothing is followed by others. -/
def parametersInOrder (parameters : List (Parameter α)) : Bool :=
  let rest := (parameters.dropWhile Parameter.isRequired).dropWhile Parameter.isOptional
  let after := (rest.drop 1).dropWhile Parameter.isSingle
  decide (parameters.filterMap Parameter.name?).Nodup &&
    match rest with
    | .star none :: next :: _ => next.isSingle && endsParameters after
    | .star (some _) :: _ => endsParameters after
    | rest => endsParameters rest

namespace Term

mutual

def boundNames : Term → List Bytes
  | .name word => [word]
  | .group body => body.boundNames
  | .tuple items => boundNamesOf items
  | .list items => boundNamesOf items
  | _ => []

def boundNamesOf : List Term → List Bytes
  | [] => []
  | target :: rest => target.boundNames ++ boundNamesOf rest

end

def clauseNames (clauses : List (Clause Term)) : List Bytes :=
  clauses.flatMap fun clause =>
    match clause with
    | .each target _ => target.boundNames
    | .only _ => []

def isPlace : Term → Bool
  | .name _ => true
  | .index _ _ => true
  | .attribute _ _ => true
  | .group body => body.isPlace
  | _ => false

end Term

def alsoKnown (names : List Bytes) (known : Bytes → Bool) (word : Bytes) : Bool :=
  names.contains word || known word

namespace Term

mutual

def isScoped (known : Bytes → Bool) : Term → Bool
  | .name word => known word
  | .integer _ => true
  | .real _ => true
  | .string _ => true
  | .bytes _ => true
  | .omitted => true
  | .tuple items => areScoped known items
  | .list items => areScoped known items
  | .dictionary entries => entriesScoped known entries
  | .listOf _ body clauses =>
      let inner := alsoKnown (clauseNames clauses) known
      loopsScoped known inner clauses && body.isScoped inner
  | .dictionaryOf _ key value clauses =>
      let inner := alsoKnown (clauseNames clauses) known
      loopsScoped known inner clauses && key.isScoped inner && value.isScoped inner
  | .group body => body.isScoped known
  | .unary _ operand => operand.isScoped known
  | .binary _ left right => left.isScoped known && right.isScoped known
  | .connective _ left right => left.isScoped known && right.isScoped known
  | .conditional condition positive negative =>
      condition.isScoped known && positive.isScoped known && negative.isScoped known
  | .call callee arguments =>
      callee.isScoped known && argumentsScoped known arguments &&
        argumentsInOrder (arguments.map Prod.fst)
  | .index collection key => collection.isScoped known && key.isScoped known
  | .slice collection start stop step =>
      collection.isScoped known && start.isScoped known && stop.isScoped known &&
        step.isScoped known
  | .attribute object _ => object.isScoped known
  | .function _ parameters body =>
      parametersScoped known parameters && parametersInOrder parameters &&
        body.isScoped (alsoKnown (parameters.filterMap Parameter.name?) known)

def areScoped (known : Bytes → Bool) : List Term → Bool
  | [] => true
  | term :: rest => term.isScoped known && areScoped known rest

def entriesScoped (known : Bytes → Bool) : List (Term × Term) → Bool
  | [] => true
  | (key, value) :: rest =>
      key.isScoped known && value.isScoped known && entriesScoped known rest

def argumentsScoped (known : Bytes → Bool) : List (Passing × Term) → Bool
  | [] => true
  | (_, value) :: rest => value.isScoped known && argumentsScoped known rest

def parametersScoped (known : Bytes → Bool) : List (Parameter Term) → Bool
  | [] => true
  | .optional _ value :: rest => value.isScoped known && parametersScoped known rest
  | .required _ :: rest => parametersScoped known rest
  | .star _ :: rest => parametersScoped known rest
  | .doubleStar _ :: rest => parametersScoped known rest

/-- The first collection of a comprehension lies outside of what its loops bind. -/
def loopsScoped (known inner : Bytes → Bool) : List (Clause Term) → Bool
  | .each target collection :: rest =>
      collection.isScoped known && target.isTarget inner && clausesScoped inner rest
  | _ => false

def clausesScoped (known : Bytes → Bool) : List (Clause Term) → Bool
  | [] => true
  | .each target collection :: rest =>
      target.isTarget known && collection.isScoped known && clausesScoped known rest
  | .only condition :: rest => condition.isScoped known && clausesScoped known rest

def isTarget (known : Bytes → Bool) : Term → Bool
  | .name _ => true
  | .group body => body.isTarget known
  | .tuple items => areTargets known items
  | .list items => areTargets known items
  | .index collection key => collection.isScoped known && key.isScoped known
  | .attribute object _ => object.isScoped known
  | _ => false

def areTargets (known : Bytes → Bool) : List Term → Bool
  | [] => true
  | target :: rest => target.isTarget known && areTargets known rest

end

end Term

namespace Statement

mutual

def boundNames : Statement → List Bytes
  | .assign target _ => target.boundNames
  | .update target _ _ => target.boundNames
  | .define _ name _ _ => [name]
  | .choose _ positive negative => boundNamesOf positive ++ boundNamesOf negative
  | .each target _ body => target.boundNames ++ boundNamesOf body
  | .loop _ body => boundNamesOf body
  | _ => []

def boundNamesOf : List Statement → List Bytes
  | [] => []
  | statement :: rest => statement.boundNames ++ boundNamesOf rest

end

/-- The blocks that a statement stands in. A loop around a function counts for what is in it. -/
structure Position where
  inFunction : Bool
  inLoop : Bool

mutual

/-- Whether a statement uses only names that are known, and can stand where it stands. Conditions and
loops stand in functions only, and a loop goes over a collection. -/
def isScoped (known : Bytes → Bool) (position : Position) : Statement → Bool
  | .assign target value => value.isScoped known && target.isTarget known
  | .update target _ value =>
      value.isScoped known && target.isTarget known && target.isPlace
  | .evaluate term => term.isScoped known
  | .define _ _ parameters body =>
      Term.parametersScoped known parameters && parametersInOrder parameters &&
        areScoped (alsoKnown (parameters.filterMap Parameter.name? ++ boundNamesOf body) known)
          { position with inFunction := true } body
  | .choose condition positive negative =>
      position.inFunction && condition.isScoped known && areScoped known position positive &&
        areScoped known position negative
  | .each target collection body =>
      position.inFunction && collection.isScoped known && target.isTarget known &&
        areScoped known { position with inLoop := true } body
  | .loop _ _ => false
  | .result none => position.inFunction
  | .result (some value) => position.inFunction && value.isScoped known
  | .leave => position.inLoop
  | .again => position.inLoop
  | .pass => true
  | .load names =>
      !position.inFunction &&
        names.all fun entry => !entry.2.isEmpty && entry.2.head? != some (byte '_')

def areScoped (known : Bytes → Bool) (position : Position) : List Statement → Bool
  | [] => true
  | statement :: rest => statement.isScoped known position && areScoped known position rest

end

mutual

def hasLoops (inLoop : Bool) : Statement → Bool
  | .define _ _ _ body => haveLoops false body
  | .choose _ positive negative => haveLoops inLoop positive && haveLoops inLoop negative
  | .each _ _ body => haveLoops true body
  | .loop _ body => haveLoops true body
  | .leave => inLoop
  | .again => inLoop
  | _ => true

def haveLoops (inLoop : Bool) : List Statement → Bool
  | [] => true
  | statement :: rest => statement.hasLoops inLoop && haveLoops inLoop rest

end

structure Outer where
  loaded : List Bytes
  bound : List Bytes

def Outer.bind? (outer : Outer) (name : Bytes) : Option Outer :=
  if outer.loaded.contains name || outer.bound.contains name then none
  else some { outer with bound := name :: outer.bound }

def Outer.load? (outer : Outer) (name : Bytes) : Option Outer :=
  if outer.loaded.contains name then none else some { outer with loaded := name :: outer.loaded }

def Outer.add? (outer : Outer) : Statement → Option Outer
  | .load names => names.foldlM (fun outer entry => outer.load? entry.1) outer
  | statement => statement.boundNames.foldlM Outer.bind? outer

def resolve? (known : Bytes → Bool) (statements : List Statement) : Option (List Bytes) :=
  match statements.foldlM Outer.add? { loaded := [], bound := [] } with
  | none => none
  | some outer =>
      let names := outer.loaded ++ outer.bound
      let all (name : Bytes) : Bool := names.contains name || known name || isUniversal name
      if areScoped all { inFunction := false, inLoop := false } statements then some names else none

end Statement

end RegisterMachine.Expression
