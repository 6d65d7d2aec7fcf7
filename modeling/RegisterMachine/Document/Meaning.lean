import RegisterMachine.Document.Moment
import RegisterMachine.Document.Node
import RegisterMachine.Text.Base64
import RegisterMachine.Text.Real

/-! What scalars of YAML documents mean. A plain one means what it looks like, and a tag tells what one
has to mean. -/

namespace RegisterMachine.Document

/-- The meaning of a scalar. Integers fit in 64 bits, with or without sign. -/
inductive Meaning where
  | null
  | boolean (b : Bool)
  | integer (n : Int)
  | real (x : Float)
  | moment
  | text (b : Bytes)
  deriving Repr

namespace Tag

def null : Bytes := utf8 "!!null"

def boolean : Bytes := utf8 "!!bool"

def integer : Bytes := utf8 "!!int"

def real : Bytes := utf8 "!!float"

def moment : Bytes := utf8 "!!timestamp"

def text : Bytes := utf8 "!!str"

def binary : Bytes := utf8 "!!binary"

def merge : Bytes := utf8 "!!merge"

def sequence : Bytes := utf8 "!!seq"

def mapping : Bytes := utf8 "!!map"

/-- The tags of scalars that have to look like what they mean. -/
def resolved : List Bytes :=
  [null, boolean, integer, real, moment]

end Tag

namespace Meaning

def tag : Meaning → Bytes
  | .null => Tag.null
  | .boolean _ => Tag.boolean
  | .integer _ => Tag.integer
  | .real _ => Tag.real
  | .moment => Tag.moment
  | .text _ => Tag.text

def words : List (String × Meaning) :=
  [("", .null), ("~", .null), ("null", .null), ("Null", .null), ("NULL", .null),
    ("true", .boolean true), ("True", .boolean true), ("TRUE", .boolean true),
    ("false", .boolean false), ("False", .boolean false), ("FALSE", .boolean false),
    (".nan", .real (0 / 0)), (".NaN", .real (0 / 0)), (".NAN", .real (0 / 0)),
    (".inf", .real (1 / 0)), (".Inf", .real (1 / 0)), (".INF", .real (1 / 0)),
    ("+.inf", .real (1 / 0)), ("+.Inf", .real (1 / 0)), ("+.INF", .real (1 / 0)),
    ("-.inf", .real (-1 / 0)), ("-.Inf", .real (-1 / 0)), ("-.INF", .real (-1 / 0))]

/-- The number that a text without sign stands for. After a zero come the digits of an octal
number. -/
def natural? (text : Bytes) : Option Nat :=
  if text == utf8 "0" then some 0
  else
    match Text.namedBase? text with
    | some base => Text.digitsValue? base (text.drop 2)
    | none =>
        if text.head? == some (byte '0') then Text.digitsValue? 8 (text.drop 1)
        else Text.digitsValue? 10 text

def isSigned (text : Bytes) : Bool :=
  text.head? == some (byte '-') || text.head? == some (byte '+')

def signed? (magnitude? : Bytes → Option Nat) (text : Bytes) : Option Int :=
  if isSigned text then
    (magnitude? (text.drop 1)).map fun n =>
      if text.head? == some (byte '-') then -(n : Int) else n
  else (magnitude? text).map Int.ofNat

def isWord (n : Int) : Bool :=
  -Int.pow 2 63 ≤ n && n < Int.pow 2 63

def innerSigned? (text : Bytes) : Option Int :=
  let start := text.take 2
  if start == utf8 "0b" then signed? (Text.digitsValue? 2) (text.drop 2)
  else if start == utf8 "0o" then signed? (Text.digitsValue? 8) (text.drop 2)
  else none

def integer? (text : Bytes) : Option Int :=
  match signed? natural? text with
  | some n => if isWord n || (!isSigned text && n < Int.pow 2 64) then some n else none
  | none => (innerSigned? text).filter isWord

def startsNumber : Bytes → Bool
  | [] => false
  | b :: _ => Bytes.isDigit b || b == byte '+' || b == byte '-'

/-- The meaning of a text that starts like a number. Underscores in numbers do not count. -/
def ofNumber (moments : Bool) (text : Bytes) : Meaning :=
  let digits := text.filter (· != byte '_')
  if moments && Moment.isMoment text then .moment
  else
    match integer? digits with
    | some n => .integer n
    | none =>
        match Text.Real.parse? digits with
        | some x => .real x
        | none => .text text

def ofLook (moments : Bool) (text : Bytes) : Meaning :=
  match words.find? fun entry => utf8 entry.1 == text with
  | some entry => entry.2
  | none =>
      if startsNumber text then ofNumber moments text
      else if text.head? == some (byte '.') then
        match (Text.Real.read? text).filter Float.isFinite with
        | some x => .real x
        | none => .text text
      else .text text

/-- The meaning of a text with a tag. A text that looks different from what the tag says has none, but
an integer may be a real number. -/
def ofTagged? (tag text : Bytes) : Option Meaning :=
  if tag = Tag.binary then (Text.Base64.decode? text).map .text
  else if Tag.resolved.contains tag then
    let found := ofLook (tag = Tag.moment) text
    if found.tag = tag then some found
    else
      match found with
      | .integer n => if tag = Tag.real && isWord n then some (.real (Text.Real.ofInt n)) else none
      | _ => none
  else some (.text text)

/-- The meaning of a scalar. What is quoted is a text, unless a tag says otherwise. -/
def ofScalar? (tag : Option Bytes) (text : Bytes) (isPlain : Bool) : Option Meaning :=
  match tag with
  | some tag => ofTagged? tag text
  | none => some (if isPlain then ofLook true text else .text text)

end Meaning

def mergeSign : Bytes := utf8 "<<"

namespace Node

def tag : Node → Bytes
  | .scalar _ (some tag) _ _ => tag
  | .scalar _ none text isPlain =>
      if !isPlain then Tag.text
      else if text = mergeSign then Tag.merge
      else (Meaning.ofLook true text).tag
  | .sequence _ tag _ => tag.getD Tag.sequence
  | .mapping _ tag _ => tag.getD Tag.mapping
  | .reference .. => []

def isMerge (node : Node) : Bool :=
  match node with
  | .scalar _ _ text _ => text = mergeSign && node.tag = Tag.merge
  | _ => false

def isMapping : Node → Bool
  | .mapping .. => true
  | _ => false

end Node

end RegisterMachine.Document
