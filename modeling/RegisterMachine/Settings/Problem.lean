import RegisterMachine.Document.Meaning
import RegisterMachine.Text.Decimal
import RegisterMachine.Text.Quoted

/-! What can be wrong with a settings document. -/

namespace RegisterMachine.Settings

inductive Target where
  | settings
  | flag
  | limit
  | text
  | definitions
  deriving DecidableEq, Repr

def Target.name : Target → Bytes
  | .settings => utf8 "config.Config"
  | .flag => utf8 "bool"
  | .limit => utf8 "int"
  | .text => utf8 "string"
  | .definitions => utf8 "map[string]string"

def excerpt (text : Bytes) : Bytes :=
  if 10 < text.length then text.take 7 ++ utf8 "..." else text

/-- A node by its tag and its text. That of one with the tag of a collection is not marked. -/
def description (tag text : Bytes) : Bytes :=
  if tag = Document.Tag.sequence || tag = Document.Tag.mapping then tag ++ text
  else tag ++ utf8 " `" ++ excerpt text ++ utf8 "`"

inductive Problem where
  | mismatch (line : Nat) (tag text : Bytes) (target : Target)
  | unknownField (line : Nat) (name : Bytes)
  | repeatedField (line : Nat) (name : Bytes)
  | repeatedKey (line : Nat) (key : Bytes) (first : Nat)
  deriving DecidableEq, Repr

def Problem.message : Problem → Bytes
  | .mismatch line tag text target =>
      utf8 "line " ++ Text.Decimal.ofNat line ++ utf8 ": cannot unmarshal " ++
        description tag text ++ utf8 " into " ++ target.name
  | .unknownField line name =>
      utf8 "line " ++ Text.Decimal.ofNat line ++ utf8 ": field " ++ name ++
        utf8 " not found in type " ++ Target.settings.name
  | .repeatedField line name =>
      utf8 "line " ++ Text.Decimal.ofNat line ++ utf8 ": field " ++ name ++
        utf8 " already set in type " ++ Target.settings.name
  | .repeatedKey line key first =>
      utf8 "line " ++ Text.Decimal.ofNat line ++ utf8 ": mapping key " ++ Text.quote key ++
        utf8 " already defined at line " ++ Text.Decimal.ofNat first

/-- Why a settings document is refused. The reading breaks down at a collection that would have to be
found again among keys. -/
inductive Refusal where
  | malformed
  | mismatched (problems : List Problem)
  | negativeLimit
  | crashed
  deriving DecidableEq, Repr

def Refusal.message (detail : Bytes) : Refusal → Bytes
  | .malformed => detail
  | .mismatched problems =>
      utf8 "yaml: unmarshal errors:" ++
        problems.flatMap fun problem => utf8 "\n  " ++ problem.message
  | .negativeLimit => utf8 "limit is negative"
  | .crashed => utf8 "runtime error"

end RegisterMachine.Settings
