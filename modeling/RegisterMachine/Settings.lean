import RegisterMachine.Assembler
import RegisterMachine.Session

/-! The settings of a run. -/

namespace RegisterMachine

structure Settings where
  verbose : Bool
  listing : Bool
  tree : Bool
  stackLimit : Int
  stepLimit : Int
  locale : Bytes
  defines : Option (Table Bytes)

namespace Settings

def default : Settings where
  verbose := false
  listing := false
  tree := false
  stackLimit := 0
  stepLimit := 0
  locale := []
  defines := none

def isValid (settings : Settings) : Bool :=
  0 ≤ settings.stackLimit && 0 ≤ settings.stepLimit

def limits (settings : Settings) : Session.Limits where
  verbose := settings.verbose
  stackLimit := settings.stackLimit
  stepLimit := settings.stepLimit

def definitions (settings : Settings) : List (Bytes × Bytes) :=
  match settings.defines with
  | some table => table.entries
  | none => []

/-- An assembler with the standard equates, then the configured ones. -/
def assembler (settings : Settings) : Assembler :=
  Assembler.fresh.predefineAll
    (concatPairs [Assembler.standardEquates, settings.definitions])

end Settings

end RegisterMachine
