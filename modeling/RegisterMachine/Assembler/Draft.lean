import RegisterMachine.Assembler.Cause
import RegisterMachine.Expression.Evaluator
import RegisterMachine.Source.Words

/-! Assembly line by line. -/

namespace RegisterMachine.Assembler

variable [Evaluator]

structure Draft where
  equates : Table Bytes
  registers : List Bytes
  labels : Table Int
  opcodes : Array Opcode

inductive Stop where
  | because (cause : Cause)
  | crash (breakdown : Expression.Breakdown)
  deriving DecidableEq, Repr

namespace Draft

def start (equates : Table Bytes) : Draft where
  equates := equates
  registers := []
  labels := Table.empty
  opcodes := #[]

def program (draft : Draft) : Program where
  opcodes := draft.opcodes
  registers := draft.registers
  labels := draft.labels

/-- The index of a register, which gets the next one on its first use. -/
def intern (draft : Draft) (name : Bytes) : Draft × Int :=
  match draft.registers.idxOf? name with
  | some index => (draft, index)
  | none => ({ draft with registers := draft.registers ++ [name] }, draft.registers.length)

def register (draft : Draft) (word : Bytes) : Except Stop (Draft × Int) :=
  if Bytes.isIdentifier word then .ok (draft.intern word)
  else .error (.because (.registerMalformed word))

def target (word : Bytes) : Except Stop Bytes :=
  if Bytes.isIdentifier word then .ok word else .error (.because .targetMalformed)

def isLiteral (word : Bytes) : Bool :=
  Source.startsExpression word || (Text.Decimal.read 32 word).isOk

/-- The equates that stand for whole numbers of 64 bits. -/
def constants (draft : Draft) : Table Int :=
  Table.ofList (draft.equates.entries.filterMap fun entry =>
    match Text.Decimal.read 64 entry.2 with
    | .ok n => some (entry.1, n)
    | .error _ => none)

def expression (draft : Draft) (text : Bytes) : Except Stop Int32 :=
  match Evaluator.evaluated draft.constants text with
  | .refused failure => .error (.because (.expression text (some failure)))
  | .integer n =>
      if -Int.pow 2 31 ≤ n ∧ n < Int.pow 2 31 then .ok (Int32.ofInt n)
      else .error (.because (.expression text none))
  | .other => .error (.because (.expression text none))
  | .crashed on => .error (.crash on)

/-- The text of an expression word, which loses its first two bytes and its last. -/
def expressionText? (word : Bytes) : Option Bytes :=
  if 3 ≤ word.length then some (word.drop 2).dropLast else none

def value (draft : Draft) (word : Bytes) : Except Stop Int32 :=
  if Source.startsExpression word then
    match expressionText? word with
    | some text => draft.expression text
    | none => .error (.crash .bounds)
  else
    match Text.Decimal.read 32 word with
    | .ok n => .ok (Int32.ofInt n)
    | .error _ => .error (.because (.numberMalformed word))

def isQuoted : Bytes → Bool
  | [] => false
  | b :: _ => b == byte '"'

def instruction (draft : Draft) (keyword : Keyword) (operands : List Bytes) :
    Except Stop (Draft × Instruction) :=
  let verb := Verb.known keyword
  match keyword.category, operands with
  | .none, [] => .ok (draft, .bare verb)
  | .register, [word] => do
      let (draft, register) ← draft.register word
      return (draft, .register verb register)
  | .registerOrNumber, [word] =>
      if isLiteral word then do
        let number ← draft.value word
        return (draft, .number verb number)
      else do
        let (draft, register) ← draft.register word
        return (draft, .register verb register)
  | .registerOrText, [word] =>
      if isQuoted word then
        match Text.unquote? word with
        | some text => .ok (draft, .text verb text)
        | none => .error (.because .textMalformed)
      else do
        let (draft, register) ← draft.register word
        return (draft, .register verb register)
  | .label, [word] => do
      let label ← target word
      return (draft, .label verb label)
  | .registerAndValue, [first, second] => do
      let (draft, target) ← draft.register first
      if isLiteral second then
        let number ← draft.value second
        return (draft, .registerNumber verb target number)
      else
        let (draft, source) ← draft.register second
        return (draft, .registers verb target source)
  | .registerAndLabel, [first, second] => do
      let (draft, counter) ← draft.register first
      let label ← target second
      return (draft, .registerLabel verb counter label)
  | category, operands =>
      if operands.length < category.arity then .error (.because .operandMissing)
      else .error (.because .operandExcess)

def command (draft : Draft) (lineNumber : Int) (line word : Bytes) (operands : List Bytes) :
    Except Stop Draft :=
  match Keyword.ofName? word with
  | none => .error (.because (.keywordUnknown word))
  | some keyword => do
      let (draft, instruction) ← draft.instruction keyword operands
      return { draft with
        opcodes := draft.opcodes.push { lineNumber, line, instruction := some instruction } }

def isDeclaration (word : Bytes) : Bool :=
  word.getLast? == some (byte ':')

def declare (draft : Draft) : List Bytes → Except Stop (Draft × List Bytes)
  | [] => .ok (draft, [])
  | word :: rest =>
      if isDeclaration word then
        let name := word.dropLast
        if !Bytes.isIdentifier name then .error (.because .labelMalformed)
        else if draft.labels.contains name then .error (.because .labelRepeated)
        else declare { draft with labels := draft.labels.insert name draft.opcodes.size } rest
      else .ok (draft, word :: rest)

def statement (draft : Draft) (lineNumber : Int) (line : Bytes) (words : List Bytes) :
    Except Stop Draft :=
  match draft.declare words with
  | .error stop => .error stop
  | .ok (draft, []) => .ok draft
  | .ok (draft, word :: rest) => draft.command lineNumber line word rest

def equate (draft : Draft) : List Bytes → Except Stop Draft
  | [name, text] =>
      if !Bytes.isIdentifier name then .error (.because .equateMalformed)
      else if draft.equates.contains name then .error (.because .equateRepeated)
      else .ok { draft with equates := draft.equates.insert name text }
  | _ => .error (.because .equateMalformed)

/-- The text a word stands for. A string stands for itself. -/
def substitute (draft : Draft) (word : Bytes) : Bytes :=
  if isQuoted word then word else (draft.equates.get? word).getD word

def equateWord : Bytes := utf8 ".equ"

def addLine (draft : Draft) (lineNumber : Int) (line : Bytes) : Except Stop Draft :=
  match Source.words line with
  | .error .string => .error (.because .textUnfinished)
  | .error .expression => .error (.because .expressionUnfinished)
  | .ok [] => .ok draft
  | .ok (first :: rest) =>
      if first = equateWord then draft.equate rest
      else draft.statement lineNumber line ((first :: rest).map draft.substitute)

def evaluatedText? (word : Bytes) (operands : List Bytes) : Option Bytes :=
  match (Keyword.ofName? word).map Keyword.category, operands with
  | some .registerOrNumber, [value] =>
      if Source.startsExpression value then expressionText? value else none
  | some .registerAndValue, [target, value] =>
      if Bytes.isIdentifier target && Source.startsExpression value then expressionText? value
      else none
  | _, _ => none

def printedBy (draft : Draft) (line : Bytes) : List Bytes :=
  match Source.words line with
  | .error _ | .ok [] => []
  | .ok (first :: rest) =>
      if first = equateWord then []
      else
        match draft.declare ((first :: rest).map draft.substitute) with
        | .error _ | .ok (_, []) => []
        | .ok (_, word :: operands) =>
            match evaluatedText? word operands with
            | some text => (Evaluator.report draft.constants text).printed
            | none => []

end Draft

/-- How far a source was read: `count` lines, the last of which may have failed. -/
structure Reading where
  draft : Draft
  count : Nat
  failure : Option Failure

def Draft.addLines (draft : Draft) (count : Nat) : List Bytes → Reading
  | [] => { draft, count, failure := none }
  | line :: rest =>
      match draft.addLine (count + 1) line with
      | .ok next => next.addLines (count + 1) rest
      | .error (.because cause) =>
          { draft, count := count + 1,
            failure := some (.rejected { lineNumber := count + 1, line, cause }) }
      | .error (.crash on) => { draft, count := count + 1, failure := some (.crashed on) }

def Draft.unlinked? (draft : Draft) : Option SyntaxError :=
  draft.opcodes.toList.findSome? fun opcode =>
    match opcode.instruction.bind Instruction.target? with
    | some name =>
        if draft.labels.contains name then none
        else some
          { lineNumber := opcode.lineNumber, line := opcode.line, cause := .labelMissing name }
    | none => none

end RegisterMachine.Assembler
