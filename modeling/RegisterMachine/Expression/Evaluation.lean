import RegisterMachine.Expression.Function
import RegisterMachine.Expression.Scope
import RegisterMachine.Table

/-! The evaluation of compile-time expressions. -/

namespace RegisterMachine.Expression

def universal? (name : Bytes) : Option Value :=
  if name = utf8 "None" then some .nothing
  else if name = utf8 "True" then some (.boolean true)
  else if name = utf8 "False" then some (.boolean false)
  else (Builtin.ofName? name).map Value.builtin

/-- Where something is evaluated: the blocks around it, the innermost first, and the numbers of the
functions being called. No function is called from itself. -/
structure Site where
  constants : Table Int
  scope : List Block
  active : List Nat

namespace Site

def block? (site : Site) (name : Bytes) : Option Block :=
  site.scope.find? fun block => block.names.contains name

/-- The value of a name. One bound around hides a constant, and a constant hides what is there from
the start. -/
def read (site : Site) (name : Bytes) : Action Value := do
  match site.block? name with
  | some block =>
      let frame := (← get).frames.getD block.frame []
      Action.ofOption (frame.lookup { block := block.number, name })
  | none =>
      match site.constants.get? name with
      | some n => return .integer n
      | none => Action.ofOption (universal? name)

def write (site : Site) (name : Bytes) (value : Value) : Action Unit := do
  match site.block? name with
  | none => Action.fail
  | some block =>
      let key : Variable := { block := block.number, name }
      modify fun store =>
        { store with frames := store.frames.modify block.frame fun frame =>
            (key, value) :: frame.filter fun entry => entry.1 ≠ key }

/-- Inside of a comprehension, whose variables belong to the call around it. -/
def within (site : Site) (number : Nat) (names : List Bytes) : Site :=
  let frame := (site.scope.head?.map Block.frame).getD 0
  { site with scope := { frame, number, names } :: site.scope }

end Site

def Body.names (parameters : List (Parameter α)) (body : Body) : List Bytes :=
  parameters.filterMap Parameter.name? ++
    match body with
    | .term _ => []
    | .statements held => Statement.boundNamesOf held

namespace Parameter

def placedNames (parameters : List (Parameter α)) : List Bytes :=
  (parameters.takeWhile isSingle).filterMap name?

def singleNames (parameters : List (Parameter α)) : List Bytes :=
  (parameters.filter isSingle).filterMap name?

def star? (parameters : List (Parameter α)) : Option Bytes :=
  parameters.findSome? fun parameter =>
    match parameter with
    | .star name => name
    | _ => none

def doubleStar? (parameters : List (Parameter α)) : Option Bytes :=
  parameters.findSome? fun parameter =>
    match parameter with
    | .doubleStar name => some name
    | _ => none

def default? (parameters : List (Parameter α)) (name : Bytes) : Option α :=
  parameters.findSome? fun parameter =>
    match parameter with
    | .optional found value => if found = name then some value else none
    | _ => none

end Parameter

/-- The values that a call gives to the parameters of a function, and the named arguments that no
parameter takes. None has two values, and none has no value. -/
def Closure.bind? (closure : Closure) (arguments : Arguments) :
    Option (List (Bytes × Value) × List (Bytes × Value)) :=
  let placed := Parameter.placedNames closure.parameters
  let single := Parameter.singleNames closure.parameters
  let taken := placed.zip arguments.placed.toList
  let named := arguments.named.filter fun argument => single.contains argument.1
  let rest := arguments.named.filter fun argument => !single.contains argument.1
  let given := taken ++ named
  let isTaken :=
    (arguments.placed.size ≤ placed.length || (Parameter.star? closure.parameters).isSome) &&
      (rest.isEmpty || (Parameter.doubleStar? closure.parameters).isSome) &&
      decide (given.map Prod.fst).Nodup && decide (rest.map Prod.fst).Nodup
  if isTaken then
    let values := single.mapM fun name =>
      (given.lookup name <|> Parameter.default? closure.parameters name).map fun value =>
        (name, value)
    values.map fun values => (values, rest)
  else none

def Closure.frame (closure : Closure) (arguments : Arguments) : Action Frame := do
  let (values, rest) ← Action.ofOption (closure.bind? arguments)
  let entry (name : Bytes) (value : Value) : Variable × Value :=
    ({ block := closure.number, name }, value)
  let singles := values.map fun (name, value) => entry name value
  let star := (Parameter.star? closure.parameters).map fun name =>
    let count := (Parameter.placedNames closure.parameters).length
    entry name (.tuple (arguments.placed.extract count arguments.placed.size))
  match Parameter.doubleStar? closure.parameters with
  | none => return star.toList ++ singles
  | some name =>
      let entries := rest.foldl
        (fun (sum : Dictionary) argument =>
          (sum.insert? (.ofBytes argument.1) argument.2).getD sum) .empty
      return entry name (← Action.newDictionary entries) :: (star.toList ++ singles)

def Arguments.collect (arguments : List (Passing × Value)) : Action Arguments :=
  arguments.foldlM add { placed := #[], named := [] }
where
  add (sum : Arguments) (argument : Passing × Value) : Action Arguments := do
    match argument with
    | (.placed, value) => return { sum with placed := sum.placed.push value }
    | (.named name, value) => return { sum with named := sum.named ++ [(name, value)] }
    | (.spread, value) => return { sum with placed := sum.placed ++ (← Action.items value) }
    | (.spreadNamed, .dictionary place) =>
        let entries := ((← get).dictionary place).toList
        let named ← Action.ofOption <| entries.mapM fun (key, value) =>
          key.text?.map fun name => (name, value)
        return { sum with named := sum.named ++ named }
    | (.spreadNamed, _) => Action.fail

mutual

def evaluate : Nat → Site → Term → Action Value
  | 0, _, _ => Action.fail
  | bound + 1, site, term =>
      match term with
      | .name word => site.read word
      | .integer n => pure (.integer n)
      | .real x => pure (.real x)
      | .string text => pure (.ofBytes text)
      | .bytes text => pure (.bytes (ByteArray.mk text.toArray))
      | .omitted => pure .nothing
      | .tuple items => do
          return .tuple (← items.mapM (evaluate bound site)).toArray
      | .list items => do
          Action.newList (← items.mapM (evaluate bound site)).toArray
      | .dictionary entries => do
          let add (sum : Dictionary) (entry : Term × Term) : Action Dictionary := do
            let key ← evaluate bound site entry.1
            let value ← evaluate bound site entry.2
            Action.ofOption (sum.insertNew? (key, value))
          Action.newDictionary (← entries.foldlM add .empty)
      | .listOf number body clauses => do
          let created ← Action.newList #[]
          let inner := site.within number (Term.clauseNames clauses)
          comprehend bound site inner clauses do
            let value ← evaluate bound inner body
            match created with
            | .list place => Action.modifyList place fun items => items.push value
            | _ => Action.fail
          return created
      | .dictionaryOf number key value clauses => do
          let created ← Action.newDictionary .empty
          let inner := site.within number (Term.clauseNames clauses)
          comprehend bound site inner clauses do
            let key ← evaluate bound inner key
            let value ← evaluate bound inner value
            Action.setIndex created key value
          return created
      | .group body => evaluate bound site body
      | .unary sign operand => do
          let x ← evaluate bound site operand
          Action.ofOption (Value.unary? (← get) sign x)
      | .binary operator left right => do
          let x ← evaluate bound site left
          let y ← evaluate bound site right
          Action.binary operator x y
      | .connective connective left right => do
          let x ← evaluate bound site left
          if x.isTrue (← get) = (connective = .disjunction) then return x
          else evaluate bound site right
      | .conditional condition positive negative => do
          let chosen ← evaluate bound site condition
          if chosen.isTrue (← get) then evaluate bound site positive
          else evaluate bound site negative
      | .call callee arguments => do
          let callee ← evaluate bound site callee
          let values ← arguments.mapM fun (passing, value) => do
            return (passing, ← evaluate bound site value)
          call bound site.constants site.active callee (← Arguments.collect values)
      | .index collection key => do
          let collection ← evaluate bound site collection
          let key ← evaluate bound site key
          Action.ofOption (Value.index? (← get) collection key)
      | .slice collection start stop step => do
          let collection ← evaluate bound site collection
          let start ← evaluate bound site start
          let stop ← evaluate bound site stop
          Action.slice collection start stop (← evaluate bound site step)
      | .attribute object name => do
          let object ← evaluate bound site object
          Action.newMethod (← Action.ofOption (Method.ofName? object name)) object
      | .function number parameters body =>
          define bound site number (utf8 "lambda") parameters (.term body)

def define : Nat → Site → Nat → Bytes → List (Parameter Term) → Body → Action Value
  | 0, _, _, _, _, _ => Action.fail
  | bound + 1, site, number, name, parameters, body => do
      let parameters ← parameters.mapM fun parameter => do
        match parameter with
        | .required name => return .required name
        | .optional name value => return .optional name (← evaluate bound site value)
        | .star name => return .star name
        | .doubleStar name => return .doubleStar name
      Action.newFunction
        { number, name, parameters, body, names := body.names parameters, scope := site.scope }

/-- Goes through the loops of a comprehension. The first collection is evaluated outside of it. -/
def comprehend : Nat → Site → Site → List (Clause Term) → Action Unit → Action Unit
  | 0, _, _, _, _ => Action.fail
  | bound + 1, outer, inner, clauses, yield =>
      match clauses with
      | [] => yield
      | .only condition :: rest => do
          let chosen ← evaluate bound outer condition
          if chosen.isTrue (← get) then comprehend bound inner inner rest yield
          else return ()
      | .each target collection :: rest => do
          let source ← evaluate bound outer collection
          discard <| Action.each source fun item => do
            assign bound inner target item
            comprehend bound inner inner rest yield
            return .next

def assign : Nat → Site → Term → Value → Action Unit
  | 0, _, _, _ => Action.fail
  | bound + 1, site, target, value =>
      match target with
      | .name word => site.write word value
      | .group body => assign bound site body value
      | .tuple targets => assignAll bound site targets value
      | .list targets => assignAll bound site targets value
      | .index collection key => do
          let collection ← evaluate bound site collection
          let key ← evaluate bound site key
          Action.setIndex collection key value
      | .attribute object _ => do
          let _ ← evaluate bound site object
          Action.fail
      | _ => Action.fail

def assignAll : Nat → Site → List Term → Value → Action Unit
  | 0, _, _, _ => Action.fail
  | bound + 1, site, targets, value => do
      let sequence ← Action.sequence value
      Action.require (sequence.size = targets.length)
      for (target, i) in targets.zipIdx do
        assign bound site target (sequence.get i)

def call : Nat → Table Int → List Nat → Value → Arguments → Action Value
  | 0, _, _, _, _ => Action.fail
  | bound + 1, constants, active, callee, arguments =>
      match callee with
      | .builtin which =>
          which.call (fun callee placed => call bound constants active callee ⟨placed, []⟩) arguments
      | .method _ method object => method.call object arguments
      | .function place => do
          let closure ← Action.ofOption (← get).functions[place]?
          Action.require !active.contains closure.number
          let frame ← Action.newFrame (← closure.frame arguments)
          let site : Site :=
            { constants
              scope := { frame, number := closure.number, names := closure.names } :: closure.scope
              active := closure.number :: active }
          match closure.body with
          | .term term => evaluate bound site term
          | .statements statements =>
              match ← run bound site statements with
              | .result value => return value
              | _ => return .nothing
      | _ => Action.fail

def update : Nat → Site → Term → Operator → Term → Action Unit
  | 0, _, _, _, _ => Action.fail
  | bound + 1, site, target, operator, term =>
      match target with
      | .name word => do
          let held ← site.read word
          let value ← evaluate bound site term
          site.write word (← Action.update operator held value)
      | .group body => update bound site body operator term
      | .index collection key => do
          let collection ← evaluate bound site collection
          let key ← evaluate bound site key
          let held ← Action.ofOption (Value.index? (← get) collection key)
          let value ← evaluate bound site term
          Action.setIndex collection key (← Action.update operator held value)
      | .attribute object name => do
          let object ← evaluate bound site object
          let _ ← Action.ofOption (Method.ofName? object name)
          let _ ← evaluate bound site term
          Action.fail
      | _ => Action.fail

def perform : Nat → Site → Statement → Action Flow
  | 0, _, _ => Action.fail
  | bound + 1, site, statement =>
      match statement with
      | .assign target value => do
          assign bound site target (← evaluate bound site value)
          return .next
      | .update target operator value => do
          update bound site target operator value
          return .next
      | .evaluate term => do
          let _ ← evaluate bound site term
          return .next
      | .define number name parameters body => do
          site.write name (← define bound site number name parameters (.statements body))
          return .next
      | .choose condition positive negative => do
          let chosen ← evaluate bound site condition
          if chosen.isTrue (← get) then run bound site positive else run bound site negative
      | .each target collection body => do
          let source ← evaluate bound site collection
          Action.each source fun item => do
            assign bound site target item
            run bound site body
      | .loop _ _ => Action.fail
      | .result none => return .result .nothing
      | .result (some value) => do
          return .result (← evaluate bound site value)
      | .leave => return .leave
      | .again => return .again
      | .pass => return .next
      | .load _ => Action.fail

def run : Nat → Site → List Statement → Action Flow
  | 0, _, _ => Action.fail
  | _, _, [] => return .next
  | bound + 1, site, statement :: rest => do
      match ← perform bound site statement with
      | .next => run bound site rest
      | flow => return flow

end

end RegisterMachine.Expression
