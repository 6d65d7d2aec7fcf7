import RegisterMachine.Expression.Value
import RegisterMachine.Text.Floating
import RegisterMachine.Text.Quoted

/-! The texts of values. -/

namespace RegisterMachine.Expression

namespace Value

def typeName : Value → Bytes
  | .nothing => utf8 "NoneType"
  | .boolean _ => utf8 "bool"
  | .integer _ => utf8 "int"
  | .real _ => utf8 "float"
  | .string _ => utf8 "string"
  | .bytes _ => utf8 "bytes"
  | .tuple _ => utf8 "tuple"
  | .list _ => utf8 "list"
  | .dictionary _ => utf8 "dict"
  | .range _ => utf8 "range"
  | .view .bytes _ => utf8 "string.elems"
  | .view .byteNumbers _ => utf8 "string.elems"
  | .view .characters _ => utf8 "string.codepoints"
  | .view .characterNumbers _ => utf8 "string.codepoints"
  | .view .numbers _ => utf8 "bytes.elems"
  | .builtin _ => utf8 "builtin_function_or_method"
  | .function _ => utf8 "function"
  | .method .. => utf8 "builtin_function_or_method"

def unboundedText (x : Float) : Bytes :=
  if x == x then if x < 0 then utf8 "-inf" else utf8 "+inf" else utf8 "nan"

def realText (mark : UInt8) (x : Float) : Bytes :=
  if x.isFinite then
    let text := Text.Real.general mark x
    if text.contains mark || text.contains (byte '.') then text else text ++ utf8 ".0"
  else unboundedText x

def quoteBytes (text : ByteArray) : Bytes :=
  Text.quote text.toList

def viewText (text : ByteArray) : View → Bytes
  | .bytes => quoteBytes text ++ utf8 ".elems()"
  | .byteNumbers => quoteBytes text ++ utf8 ".elem_ords()"
  | .characters => quoteBytes text ++ utf8 ".codepoints()"
  | .characterNumbers => quoteBytes text ++ utf8 ".codepoint_ords()"
  | .numbers => byte 'b' :: (quoteBytes text ++ utf8 ".elems()")

end Value

def nameIn [DecidableEq α] (table : List (String × α)) (method : α) : Bytes :=
  match table.find? fun entry => entry.2 = method with
  | some entry => utf8 entry.1
  | none => []

def Method.name : Method → Bytes
  | .text method => nameIn TextMethod.table method
  | .elements => utf8 elementsName
  | .list method => nameIn ListMethod.table method
  | .dictionary method => nameIn DictionaryMethod.table method

namespace Value

def commaSeparated (texts : List Bytes) : Bytes :=
  (utf8 ", ").intercalate texts

/-- The text of a value. The lists and dictionaries around it are not written out again; they are
fewer than those of the store, of which `left` count the ones not around. -/
def write (store : Store) (left : Nat) (lists dictionaries : List Nat) : Value → Bytes
  | .nothing => utf8 "None"
  | .boolean true => utf8 "True"
  | .boolean false => utf8 "False"
  | .integer n => Text.Decimal.ofInt n
  | .real x => realText (byte 'e') x
  | .string text => quoteBytes text
  | .bytes text => byte 'b' :: quoteBytes text
  | .tuple items =>
      let texts := items.attach.map fun ⟨item, _⟩ => write store left lists dictionaries item
      utf8 "(" ++ commaSeparated texts.toList ++ utf8 (if items.size = 1 then ",)" else ")")
  | .list place =>
      match left with
      | 0 => utf8 "[...]"
      | left + 1 =>
          if lists.contains place then utf8 "[...]"
          else
            let texts := (store.items place).map fun item =>
              write store left (place :: lists) dictionaries item
            utf8 "[" ++ commaSeparated texts.toList ++ utf8 "]"
  | .dictionary place =>
      match left with
      | 0 => utf8 "\x7b...\x7d"
      | left + 1 =>
          if dictionaries.contains place then utf8 "\x7b...\x7d"
          else
            let texts := (store.dictionary place).toList.map fun entry =>
              write store left lists dictionaries entry.1 ++ utf8 ": " ++
                write store left lists (place :: dictionaries) entry.2
            utf8 "\x7b" ++ commaSeparated texts ++ utf8 "\x7d"
  | .range numbers => numbers.text
  | .view way text => viewText text way
  | .builtin which => utf8 "<built-in function " ++ which.name ++ utf8 ">"
  | .function place =>
      let name := (store.functions[place]?.map Closure.name).getD []
      utf8 "<function " ++ name ++ utf8 ">"
  | .method _ which object =>
      utf8 "<built-in method " ++ which.name ++ utf8 " of " ++ object.typeName ++ utf8 " value>"
termination_by value => (left, sizeOf value)

def representation (store : Store) (value : Value) : Bytes :=
  value.write store (store.lists.size + store.dictionaries.size + 1) [] []

def display (store : Store) : Value → Bytes
  | .string text => text.toList
  | value => value.representation store

end Value

end RegisterMachine.Expression
