/-! Byte strings. Source lines, names, inputs and messages are bytes, and need not be valid UTF-8. -/

namespace RegisterMachine

abbrev Bytes := List UInt8

def utf8 (s : String) : Bytes :=
  s.toUTF8.data.toList

def byte (c : Char) : UInt8 :=
  c.toUInt8

namespace Bytes

def sort (names : List Bytes) : List Bytes :=
  names.mergeSort fun a b => decide (a ≤ b)

/-- A byte string with blanks in front, up to a width of `width` characters, `size` of which it has. -/
def padLeft (width size : Nat) (text : Bytes) : Bytes :=
  List.replicate (width - size) (byte ' ') ++ text

def isUpper (b : UInt8) : Bool :=
  byte 'A' ≤ b && b ≤ byte 'Z'

def isLower (b : UInt8) : Bool :=
  byte 'a' ≤ b && b ≤ byte 'z'

def isDigit (b : UInt8) : Bool :=
  byte '0' ≤ b && b ≤ byte '9'

def isIdentifierStart (b : UInt8) : Bool :=
  isUpper b || isLower b || b == byte '_'

def isIdentifierPart (b : UInt8) : Bool :=
  isIdentifierStart b || isDigit b

/-- Names of registers, labels and equates: a letter or underscore, then letters, digits and
underscores. -/
def isIdentifier : Bytes → Bool
  | [] => false
  | first :: rest => isIdentifierStart first && rest.all isIdentifierPart

end Bytes

end RegisterMachine
