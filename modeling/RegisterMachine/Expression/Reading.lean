import RegisterMachine.Expression.Term
import RegisterMachine.Expression.Token

/-! The reading of terms and statements from tokens. -/

namespace RegisterMachine.Expression

namespace Term

inductive Link where
  | operator (operator : Operator)
  | connective (connective : Connective)
  deriving DecidableEq, Repr

def Link.join (left right : Term) : Link → Term
  | .operator applied => .binary applied left right
  | .connective applied => .connective applied left right

def negationLevel : Nat := 2

def comparisonLevel : Nat := 3

def links : List (String × Nat × Link) :=
  [("or", 0, .connective .disjunction), ("and", 1, .connective .conjunction),
    ("==", 3, .operator (.compare .equal)), ("!=", 3, .operator (.compare .unequal)),
    ("<", 3, .operator (.compare .less)), (">", 3, .operator (.compare .greater)),
    ("<=", 3, .operator (.compare .atMost)), (">=", 3, .operator (.compare .atLeast)),
    ("in", 3, .operator .contains), ("|", 4, .operator .bitOr), ("^", 5, .operator .bitXor),
    ("&", 6, .operator .bitAnd), ("<<", 7, .operator .shiftLeft), (">>", 7, .operator .shiftRight),
    ("+", 8, .operator .add), ("-", 8, .operator .subtract), ("*", 9, .operator .multiply),
    ("/", 9, .operator .divide), ("//", 9, .operator .floorDivide), ("%", 9, .operator .remainder)]

def link? : List Token → Option ((Nat × Link) × List Token)
  | .mark "not" :: .mark "in" :: rest => some ((comparisonLevel, .operator .lacks), rest)
  | .mark sign :: rest => (links.lookup sign).map fun found => (found, rest)
  | _ => none

def signOf? : String → Option Sign
  | "-" => some .negative
  | "+" => some .positive
  | "~" => some .complement
  | _ => none

def expect? (sign : String) : List Token → Option (List Token)
  | .mark found :: rest => if found = sign then some rest else none
  | _ => none

def startsWith (sign : String) (tokens : List Token) : Bool :=
  (expect? sign tokens).isSome

mutual

def read? : Nat → List Token → Option (Term × List Token)
  | 0, _ => none
  | bound + 1, .mark "lambda" :: rest => readFunction? bound true rest
  | bound + 1, tokens => do
      let (term, rest) ← readLinked? bound 0 tokens
      match expect? "if" rest with
      | none => return (term, rest)
      | some rest =>
          let (condition, rest) ← readLinked? bound 0 rest
          let rest ← expect? "else" rest
          let (negative, rest) ← read? bound rest
          return (.conditional condition term negative, rest)

def readUnconditional? : Nat → List Token → Option (Term × List Token)
  | 0, _ => none
  | bound + 1, .mark "lambda" :: rest => readFunction? bound false rest
  | bound + 1, tokens => readLinked? bound 0 tokens

def readFunction? : Nat → Bool → List Token → Option (Term × List Token)
  | 0, _, _ => none
  | bound + 1, withCondition, tokens => do
      let (parameters, rest) ← readParameters? bound ":" [] tokens
      let rest ← expect? ":" rest
      let (body, rest) ← if withCondition then read? bound rest else readUnconditional? bound rest
      return (.function tokens.length parameters body, rest)

def readLinked? : Nat → Nat → List Token → Option (Term × List Token)
  | 0, _, _ => none
  | bound + 1, level, .mark "not" :: rest =>
      if negationLevel < level then none
      else do
        let (operand, rest) ← readLinked? bound negationLevel rest
        readLinks? bound level none (.unary .negation operand) rest
  | bound + 1, level, tokens => do
      let (term, rest) ← readPrimary? bound tokens
      readLinks? bound level none term rest

/-- Goes on with a term by operators that bind at least as closely as `level`. No comparison follows
on another one. -/
def readLinks? : Nat → Nat → Option Nat → Term → List Token → Option (Term × List Token)
  | 0, _, _, _, _ => none
  | bound + 1, level, last, left, tokens =>
      match link? tokens with
      | none => some (left, tokens)
      | some ((found, link), rest) =>
          if found < level then some (left, tokens)
          else if found = comparisonLevel && last = some comparisonLevel then none
          else do
            let (right, rest) ← readLinked? bound (found + 1) rest
            readLinks? bound level (some found) (link.join left right) rest

def readPrimary? : Nat → List Token → Option (Term × List Token)
  | 0, _ => none
  | _, [] => none
  | bound + 1, token :: rest =>
      match token with
      | .name word => readSuffixes? bound (.name word) rest
      | .integer n => readSuffixes? bound (.integer n) rest
      | .real x => readSuffixes? bound (.real x) rest
      | .string text => readSuffixes? bound (.string text) rest
      | .bytes text => readSuffixes? bound (.bytes text) rest
      | .mark "(" => do
          let (term, rest) ← readGroup? bound rest
          readSuffixes? bound term rest
      | .mark "[" => do
          let (term, rest) ← readList? bound rest
          readSuffixes? bound term rest
      | .mark "\x7b" => do
          let (term, rest) ← readDictionary? bound rest
          readSuffixes? bound term rest
      | .mark sign =>
          match signOf? sign with
          | none => none
          | some sign => (readPrimary? bound rest).map fun found => (.unary sign found.1, found.2)
      | _ => none

def readSuffixes? : Nat → Term → List Token → Option (Term × List Token)
  | 0, _, _ => none
  | bound + 1, term, .mark "." :: .name word :: rest => readSuffixes? bound (.attribute term word) rest
  | _ + 1, _, .mark "." :: _ => none
  | bound + 1, term, .mark "[" :: rest => do
      let (term, rest) ← readIndex? bound term rest
      readSuffixes? bound term rest
  | bound + 1, term, .mark "(" :: rest => do
      let (arguments, rest) ← readArguments? bound [] rest
      readSuffixes? bound (.call term arguments) rest
  | _, term, tokens => some (term, tokens)

/-- What stands after an opening parenthesis: a tuple if it is empty or has a comma. -/
def readGroup? : Nat → List Token → Option (Term × List Token)
  | 0, _ => none
  | bound + 1, tokens => do
      let (items, comma, rest) ← readItems? bound ")" [] tokens
      match items, comma with
      | [term], false => return (.group term, rest)
      | _, _ => return (.tuple items, rest)

def readList? : Nat → List Token → Option (Term × List Token)
  | 0, _ => none
  | bound + 1, tokens =>
      match expect? "]" tokens with
      | some rest => some (.list [], rest)
      | none => do
          let (term, rest) ← read? bound tokens
          if startsWith "for" rest then
            let (clauses, rest) ← readClauses? bound "]" [] rest
            return (.listOf tokens.length term clauses, rest)
          else
            match expect? "," rest with
            | some rest =>
                let (items, _, rest) ← readItems? bound "]" [term] rest
                return (.list items, rest)
            | none =>
                let rest ← expect? "]" rest
                return (.list [term], rest)

def readDictionary? : Nat → List Token → Option (Term × List Token)
  | 0, _ => none
  | bound + 1, tokens =>
      match expect? "\x7d" tokens with
      | some rest => some (.dictionary [], rest)
      | none => do
          let ((key, value), rest) ← readEntry? bound tokens
          if startsWith "for" rest then
            let (clauses, rest) ← readClauses? bound "\x7d" [] rest
            return (.dictionaryOf tokens.length key value clauses, rest)
          else
            match expect? "," rest with
            | some rest =>
                let (entries, rest) ← readEntries? bound [(key, value)] rest
                return (.dictionary entries, rest)
            | none =>
                let rest ← expect? "\x7d" rest
                return (.dictionary [(key, value)], rest)

def readClauses? : Nat → String → List (Clause Term) → List Token →
    Option (List (Clause Term) × List Token)
  | 0, _, _, _ => none
  | bound + 1, closing, done, tokens =>
      match expect? closing tokens, tokens with
      | some rest, _ => some (done.reverse, rest)
      | none, .mark "for" :: rest => do
          let (target, rest) ← readTargets? bound rest
          let rest ← expect? "in" rest
          let (collection, rest) ← readLinked? bound 0 rest
          readClauses? bound closing (.each target collection :: done) rest
      | none, .mark "if" :: rest => do
          let (condition, rest) ← readUnconditional? bound rest
          readClauses? bound closing (.only condition :: done) rest
      | none, _ => none

def readTargets? : Nat → List Token → Option (Term × List Token)
  | 0, _ => none
  | bound + 1, tokens => do
      let (target, rest) ← readPrimary? bound tokens
      if startsWith "," rest then
        let (targets, rest) ← readMoreTargets? bound [target] rest
        return (.tuple targets, rest)
      else return (target, rest)

def readMoreTargets? : Nat → List Term → List Token → Option (List Term × List Token)
  | 0, _, _ => none
  | bound + 1, done, tokens =>
      match expect? "," tokens with
      | none => some (done.reverse, tokens)
      | some rest => do
          let (target, rest) ← readPrimary? bound rest
          readMoreTargets? bound (target :: done) rest

/-- Terms up to a closing mark, those before lying in `done` in reverse, and whether a comma stands
among them. -/
def readItems? : Nat → String → List Term → List Token → Option (List Term × Bool × List Token)
  | 0, _, _, _ => none
  | bound + 1, closing, done, tokens =>
      match expect? closing tokens with
      | some rest => some (done.reverse, !done.isEmpty, rest)
      | none => do
          let (term, rest) ← read? bound tokens
          match expect? "," rest with
          | some rest => readItems? bound closing (term :: done) rest
          | none =>
              let rest ← expect? closing rest
              return ((term :: done).reverse, !done.isEmpty, rest)

def readEntry? : Nat → List Token → Option ((Term × Term) × List Token)
  | 0, _ => none
  | bound + 1, tokens => do
      let (key, rest) ← read? bound tokens
      let rest ← expect? ":" rest
      let (value, rest) ← read? bound rest
      return ((key, value), rest)

def readEntries? : Nat → List (Term × Term) → List Token → Option (List (Term × Term) × List Token)
  | 0, _, _ => none
  | bound + 1, done, tokens =>
      match expect? "\x7d" tokens with
      | some rest => some (done.reverse, rest)
      | none => do
          let (entry, rest) ← readEntry? bound tokens
          match expect? "," rest with
          | some rest => readEntries? bound (entry :: done) rest
          | none =>
              let rest ← expect? "\x7d" rest
              return ((entry :: done).reverse, rest)

def readIndex? : Nat → Term → List Token → Option (Term × List Token)
  | 0, _, _ => none
  | bound + 1, collection, tokens => do
      let (start, rest) ←
        if startsWith ":" tokens then some (.omitted, tokens) else readTuple? bound tokens
      match expect? "]" rest with
      | some rest => return (.index collection start, rest)
      | none =>
          let rest ← expect? ":" rest
          let (stop, rest) ←
            if startsWith ":" rest || startsWith "]" rest then some (.omitted, rest)
            else read? bound rest
          let (step, rest) ←
            match expect? ":" rest with
            | none => some (.omitted, rest)
            | some rest => if startsWith "]" rest then some (.omitted, rest) else read? bound rest
          let rest ← expect? "]" rest
          return (.slice collection start stop step, rest)

def readArguments? : Nat → List (Passing × Term) → List Token →
    Option (List (Passing × Term) × List Token)
  | 0, _, _ => none
  | bound + 1, done, tokens =>
      match expect? ")" tokens with
      | some rest => some (done.reverse, rest)
      | none => do
          let (passing, tokens) :=
            match tokens with
            | .mark "*" :: rest => (Passing.spread, rest)
            | .mark "**" :: rest => (Passing.spreadNamed, rest)
            | .name word :: .mark "=" :: rest => (Passing.named word, rest)
            | _ => (Passing.placed, tokens)
          let (value, rest) ← read? bound tokens
          match expect? "," rest with
          | some rest => readArguments? bound ((passing, value) :: done) rest
          | none =>
              let rest ← expect? ")" rest
              return (((passing, value) :: done).reverse, rest)

/-- The parameters of a function up to its closing mark, which stays. A comma may come before a
parenthesis. -/
def readParameters? : Nat → String → List (Parameter Term) → List Token →
    Option (List (Parameter Term) × List Token)
  | 0, _, _, _ => none
  | bound + 1, closing, done, tokens =>
      if startsWith closing tokens && (done.isEmpty || closing = ")") then
        some (done.reverse, tokens)
      else do
        let (parameter, rest) ← readParameter? bound tokens
        match expect? "," rest with
        | some rest => readParameters? bound closing (parameter :: done) rest
        | none =>
            if startsWith closing rest then return ((parameter :: done).reverse, rest) else none

def readParameter? : Nat → List Token → Option (Parameter Term × List Token)
  | 0, _ => none
  | _ + 1, .mark "*" :: .name word :: rest => some (.star (some word), rest)
  | _ + 1, .mark "*" :: rest => some (.star none, rest)
  | _ + 1, .mark "**" :: .name word :: rest => some (.doubleStar word, rest)
  | bound + 1, .name word :: .mark "=" :: rest => do
      let (value, rest) ← read? bound rest
      return (.optional word value, rest)
  | _ + 1, .name word :: rest => some (.required word, rest)
  | _ + 1, _ => none

/-- A term, or a tuple without parentheses. No comma ends such a tuple. -/
def readTuple? : Nat → List Token → Option (Term × List Token)
  | 0, _ => none
  | bound + 1, tokens => do
      let (term, rest) ← read? bound tokens
      if startsWith "," rest then
        let (items, rest) ← readRest? bound [term] rest
        return (.tuple items, rest)
      else return (term, rest)

def readRest? : Nat → List Term → List Token → Option (List Term × List Token)
  | 0, _, _ => none
  | bound + 1, done, tokens =>
      match expect? "," tokens with
      | none => some (done.reverse, tokens)
      | some rest => do
          let (term, rest) ← read? bound rest
          readRest? bound (term :: done) rest

end

end Term

namespace Statement

open Term (expect? startsWith)

def updates : List (String × Operator) :=
  [("+=", .add), ("-=", .subtract), ("*=", .multiply), ("/=", .divide), ("//=", .floorDivide),
    ("%=", .remainder), ("&=", .bitAnd), ("|=", .bitOr), ("^=", .bitXor), ("<<=", .shiftLeft),
    (">>=", .shiftRight)]

def readAssignment? (bound : Nat) (tokens : List Token) : Option (Statement × List Token) := do
  let (target, rest) ← Term.readTuple? bound tokens
  match rest with
  | .mark "=" :: rest =>
      let (value, rest) ← Term.readTuple? bound rest
      return (.assign target value, rest)
  | .mark sign :: after =>
      match updates.lookup sign with
      | none => return (.evaluate target, rest)
      | some operator =>
          let (value, rest) ← Term.readTuple? bound after
          return (.update target operator value, rest)
  | _ => return (.evaluate target, rest)

def readLoaded? (done : List (Bytes × Bytes)) : Nat → List Token →
    Option (List (Bytes × Bytes) × List Token)
  | 0, _ => none
  | bound + 1, tokens =>
      match expect? ")" tokens with
      | some rest => some (done.reverse, rest)
      | none =>
          match tokens with
          | .mark "," :: .mark ")" :: rest => some (done.reverse, rest)
          | .mark "," :: .string name :: rest => readLoaded? ((name, name) :: done) bound rest
          | .mark "," :: .name word :: .mark "=" :: .string name :: rest =>
              readLoaded? ((word, name) :: done) bound rest
          | _ => none

def isEnd : List Token → Bool
  | [] => true
  | .newline :: _ => true
  | .mark ";" :: _ => true
  | _ => false

def readSmall? (bound : Nat) : List Token → Option (Statement × List Token)
  | .mark "pass" :: rest => some (.pass, rest)
  | .mark "break" :: rest => some (.leave, rest)
  | .mark "continue" :: rest => some (.again, rest)
  | .mark "return" :: rest =>
      if isEnd rest then some (.result none, rest)
      else (Term.readTuple? bound rest).map fun found => (.result (some found.1), found.2)
  | .mark "load" :: .mark "(" :: .string _ :: rest =>
      match readLoaded? [] bound rest with
      | some ([], _) => none
      | some (names, rest) => some (.load names, rest)
      | none => none
  | tokens => readAssignment? bound tokens

def readLine? (done : List Statement) : Nat → List Token → Option (List Statement × List Token)
  | 0, _ => none
  | bound + 1, tokens =>
      match readSmall? bound tokens with
      | none => none
      | some (statement, rest) =>
          match rest with
          | [] => some ((statement :: done).reverse, [])
          | .newline :: rest => some ((statement :: done).reverse, rest)
          | [.mark ";"] => some ((statement :: done).reverse, [])
          | .mark ";" :: .newline :: rest => some ((statement :: done).reverse, rest)
          | .mark ";" :: rest => readLine? (statement :: done) bound rest
          | _ => none

mutual

def readSome? : Nat → List Token → Option (List Statement × List Token)
  | 0, _ => none
  | bound + 1, tokens =>
      match tokens with
      | .mark "def" :: .name word :: .mark "(" :: rest => do
          let (parameters, rest) ← Term.readParameters? bound ")" [] rest
          let rest ← expect? ")" rest
          let rest ← expect? ":" rest
          let (body, rest) ← readBlock? bound rest
          return ([.define tokens.length word parameters body], rest)
      | .mark "if" :: rest => do
          let (statement, rest) ← readChoice? bound rest
          return ([statement], rest)
      | .mark "for" :: rest => do
          let (target, rest) ← Term.readTargets? bound rest
          let rest ← expect? "in" rest
          let (collection, rest) ← Term.readTuple? bound rest
          let rest ← expect? ":" rest
          let (body, rest) ← readBlock? bound rest
          return ([.each target collection body], rest)
      | .mark "while" :: rest => do
          let (condition, rest) ← Term.read? bound rest
          let rest ← expect? ":" rest
          let (body, rest) ← readBlock? bound rest
          return ([.loop condition body], rest)
      | _ => readLine? [] bound tokens

def readChoice? : Nat → List Token → Option (Statement × List Token)
  | 0, _ => none
  | bound + 1, tokens => do
      let (condition, rest) ← Term.read? bound tokens
      let rest ← expect? ":" rest
      let (positive, rest) ← readBlock? bound rest
      match rest with
      | .mark "elif" :: rest =>
          let (negative, rest) ← readChoice? bound rest
          return (.choose condition positive [negative], rest)
      | .mark "else" :: rest =>
          let rest ← expect? ":" rest
          let (negative, rest) ← readBlock? bound rest
          return (.choose condition positive negative, rest)
      | _ => return (.choose condition positive [], rest)

def readBlock? : Nat → List Token → Option (List Statement × List Token)
  | 0, _ => none
  | bound + 1, .newline :: .indent :: rest => readIndented? bound [] rest
  | _ + 1, .newline :: _ => none
  | bound + 1, tokens => readLine? [] bound tokens

def readIndented? : Nat → List Statement → List Token → Option (List Statement × List Token)
  | 0, _, _ => none
  | _ + 1, done, .outdent :: rest => some (done.reverse, rest)
  | bound + 1, done, tokens => do
      let (statements, rest) ← readSome? bound tokens
      readIndented? bound (statements.reverse ++ done) rest

end

def readOnto? (done : List Statement) : Nat → List Token → Option (List Statement)
  | 0, _ => none
  | _, [] => some done.reverse
  | bound + 1, .newline :: rest => readOnto? done bound rest
  | bound + 1, tokens =>
      match readSome? bound tokens with
      | none => none
      | some (statements, rest) => readOnto? (statements.reverse ++ done) bound rest

/-- The statements of a text. Every step that takes no token lies at most eight levels below one that
does. -/
def read? (text : Bytes) : Option (List Statement) := do
  let tokens ← Token.scan? text
  readOnto? [] (10 * (tokens.length + 1)) tokens

end Statement

end RegisterMachine.Expression
