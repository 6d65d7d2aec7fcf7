import RegisterMachine.Console.Feed
import RegisterMachine.Expression.Failure
import RegisterMachine.Program

/-! Reasons for which a source text is refused. -/

namespace RegisterMachine.Assembler

inductive Cause where
  | equateMalformed
  | equateRepeated
  | labelRepeated
  | labelMalformed
  | operandExcess
  | operandMissing
  | keywordUnknown (word : Bytes)
  | registerMalformed (word : Bytes)
  | targetMalformed
  | numberMalformed (word : Bytes)
  | textMalformed
  | textUnfinished
  | expressionUnfinished
  | expression (text : Bytes) (failure : Option Expression.Failure)
  | labelMissing (name : Bytes)
  | lineTooLong
  | unreadable (trouble : Trouble)
  deriving DecidableEq, Repr

def notANumber (word : Bytes) : Bytes :=
  Text.Message.render (utf8 "'%v' is not a number") [.text word]

def notAValue (word : Bytes) : Bytes :=
  Text.Message.render (utf8 "'%v' is not a value or register") [.text word]

def notAnExpression (text : Bytes) : Bytes :=
  Text.Message.render (utf8 "$(%v) is not a valid expression") [.text text]

def below (first second : Bytes) : Bytes :=
  first ++ byte '\n' :: second

def Cause.message (cause : Cause) (detail : Expression.Failure → Bytes) : Bytes :=
  match cause with
  | .equateMalformed => utf8 ".equ syntax"
  | .equateRepeated => utf8 ".equ duplicated"
  | .labelRepeated => utf8 "label duplicated"
  | .labelMalformed => utf8 "label invalid"
  | .operandExcess => utf8 "excessive arguments"
  | .operandMissing => utf8 "value missing"
  | .keywordUnknown word => utf8 "opcode invalid: " ++ word
  | .registerMalformed word => below (utf8 "register invalid") (notAValue word)
  | .targetMalformed => utf8 "target invalid"
  | .numberMalformed word => notANumber word
  | .textMalformed => below (utf8 "string invalid") (utf8 "invalid syntax")
  | .textUnfinished => utf8 "string unterminated"
  | .expressionUnfinished => utf8 "$( without )"
  | .expression text none => notAnExpression text
  | .expression text (some failure) => below (notAnExpression text) (detail failure)
  | .labelMissing name => missingLabel name
  | .lineTooLong => utf8 "bufio.Scanner: token too long"
  | .unreadable trouble => trouble.message

structure SyntaxError where
  lineNumber : Int
  line : Bytes
  cause : Cause
  deriving DecidableEq, Repr

def aboutLine (lineNumber : Int) (line message : Bytes) : Bytes :=
  Text.Message.render (utf8 "line %d '%v' %v") [.integer lineNumber, .text line, .text message]

def SyntaxError.message (error : SyntaxError) (detail : Expression.Failure → Bytes) : Bytes :=
  aboutLine error.lineNumber error.line (error.cause.message detail)

/-- The error of a source that gives nothing but trouble. It stands on the line after the last one
read. -/
def SyntaxError.unreadable (trouble : Trouble) : SyntaxError where
  lineNumber := 1
  line := []
  cause := .unreadable trouble

/-- How a source text is turned down: with an error, or by a breakdown on an expression. A predefined
equate may be too short for the expression it starts, and an expression may need more than there is
memory for. -/
inductive Failure where
  | rejected (error : SyntaxError)
  | crashed (breakdown : Expression.Breakdown)
  deriving DecidableEq, Repr

end RegisterMachine.Assembler
