import RegisterMachine.Bytes

/-! The names that are there from the start: functions, and the methods of values. -/

namespace RegisterMachine.Expression

inductive Builtin where
  | absolute
  | all
  | any
  | boolean
  | bytes
  | character
  | dictionary
  | attributes
  | enumerate
  | fail
  | real
  | getAttribute
  | hasAttribute
  | hash
  | integer
  | length
  | list
  | maximum
  | minimum
  | ordinal
  | print
  | range
  | representation
  | reversed
  | sorted
  | string
  | tuple
  | type
  | zip
  deriving DecidableEq, Repr, Hashable

namespace Builtin

def table : List (String × Builtin) :=
  [("abs", .absolute), ("all", .all), ("any", .any), ("bool", .boolean), ("bytes", .bytes),
    ("chr", .character), ("dict", .dictionary), ("dir", .attributes), ("enumerate", .enumerate),
    ("fail", .fail), ("float", .real), ("getattr", .getAttribute), ("hasattr", .hasAttribute),
    ("hash", .hash), ("int", .integer), ("len", .length), ("list", .list), ("max", .maximum),
    ("min", .minimum), ("ord", .ordinal), ("print", .print), ("range", .range),
    ("repr", .representation), ("reversed", .reversed), ("sorted", .sorted), ("str", .string),
    ("tuple", .tuple), ("type", .type), ("zip", .zip)]

def ofName? (name : Bytes) : Option Builtin :=
  (table.find? fun entry => utf8 entry.1 == name).map Prod.snd

def name (builtin : Builtin) : Bytes :=
  match table.find? fun entry => entry.2 == builtin with
  | some entry => utf8 entry.1
  | none => []

end Builtin

inductive TextMethod where
  | capitalize
  | characterNumbers
  | characters
  | count
  | byteNumbers
  | bytes
  | endsWith
  | find
  | format
  | index
  | isAlphanumeric
  | isAlphabetic
  | isDigits
  | isLower
  | isSpace
  | isTitle
  | isUpper
  | join
  | lower
  | stripLeft
  | partition
  | removeStart
  | removeEnd
  | replace
  | findLast
  | indexLast
  | partitionLast
  | splitLast
  | stripRight
  | split
  | splitLines
  | startsWith
  | strip
  | title
  | upper
  deriving DecidableEq, Repr

def TextMethod.table : List (String × TextMethod) :=
  [("capitalize", .capitalize), ("codepoint_ords", .characterNumbers), ("codepoints", .characters),
    ("count", .count), ("elem_ords", .byteNumbers), ("elems", .bytes), ("endswith", .endsWith),
    ("find", .find), ("format", .format), ("index", .index), ("isalnum", .isAlphanumeric),
    ("isalpha", .isAlphabetic), ("isdigit", .isDigits), ("islower", .isLower), ("isspace", .isSpace),
    ("istitle", .isTitle), ("isupper", .isUpper), ("join", .join), ("lower", .lower),
    ("lstrip", .stripLeft), ("partition", .partition), ("removeprefix", .removeStart),
    ("removesuffix", .removeEnd), ("replace", .replace), ("rfind", .findLast),
    ("rindex", .indexLast), ("rpartition", .partitionLast), ("rsplit", .splitLast),
    ("rstrip", .stripRight), ("split", .split), ("splitlines", .splitLines),
    ("startswith", .startsWith), ("strip", .strip), ("title", .title), ("upper", .upper)]

inductive ListMethod where
  | append
  | clear
  | extend
  | index
  | insert
  | pop
  | remove
  deriving DecidableEq, Repr

def ListMethod.table : List (String × ListMethod) :=
  [("append", .append), ("clear", .clear), ("extend", .extend), ("index", .index),
    ("insert", .insert), ("pop", .pop), ("remove", .remove)]

inductive DictionaryMethod where
  | clear
  | lookUp
  | items
  | keys
  | pop
  | popItem
  | setDefault
  | update
  | values
  deriving DecidableEq, Repr

def DictionaryMethod.table : List (String × DictionaryMethod) :=
  [("clear", .clear), ("get", .lookUp), ("items", .items), ("keys", .keys), ("pop", .pop),
    ("popitem", .popItem), ("setdefault", .setDefault), ("update", .update), ("values", .values)]

def elementsName : String := "elems"

end RegisterMachine.Expression
