import RegisterMachine.Bytes

/-! The options of the command line. They stand before the first argument that is none; one or two
dashes start an option, and its value follows an equals sign or is the next argument. -/

namespace RegisterMachine.CommandLine

structure Options where
  settings : Bytes
  input : Bytes
  listing : Bool
  tree : Bool
  check : Bool
  verbose : Bool
  arguments : List Bytes
  deriving DecidableEq, Repr

def standardInput : Bytes :=
  utf8 "-"

namespace Options

def default : Options where
  settings := []
  input := standardInput
  listing := false
  tree := false
  check := false
  verbose := false
  arguments := []

inductive Misuse where
  | help
  | malformed
  deriving DecidableEq, Repr

inductive Switch where
  | listing
  | tree
  | check
  | verbose
  deriving DecidableEq, Repr

inductive Setting where
  | settings
  | input
  deriving DecidableEq, Repr

def switch? (name : Bytes) : Option Switch :=
  if name = utf8 "l" then some .listing
  else if name = utf8 "t" then some .tree
  else if name = utf8 "s" then some .check
  else if name = utf8 "v" then some .verbose
  else none

def setting? (name : Bytes) : Option Setting :=
  if name = utf8 "c" then some .settings
  else if name = utf8 "i" then some .input
  else none

def turn (options : Options) (on : Bool) : Switch → Options
  | .listing => { options with listing := on }
  | .tree => { options with tree := on }
  | .check => { options with check := on }
  | .verbose => { options with verbose := on }

def set (options : Options) (value : Bytes) : Setting → Options
  | .settings => { options with settings := value }
  | .input => { options with input := value }

def usage (name : Bytes) : Bytes :=
  utf8 "Usage of " ++ name ++ utf8 ":\n" ++
    utf8 "  -c string\n    \tYAML configuration file\n" ++
    utf8 "  -i string\n    \tProgram input (default \"-\")\n" ++
    utf8 "  -l\tPrint the assembled listing\n" ++
    utf8 "  -s\tAssemble only, do not execute\n" ++
    utf8 "  -t\tPrint the assembled program as a label tree\n" ++
    utf8 "  -v\tVerbose mode\n"

def boolean? (word : Bytes) : Option Bool :=
  if (["1", "t", "T", "true", "TRUE", "True"].map utf8).contains word then some true
  else if (["0", "f", "F", "false", "FALSE", "False"].map utf8).contains word then some false
  else none

inductive Shape where
  | argument
  | separator
  | option (name : Bytes) (value : Option Bytes)
  | malformed
  deriving DecidableEq, Repr

/-- The shape of an option without its dashes. Its first character is part of its name. -/
def shapeOfName : Bytes → Shape
  | [] => .malformed
  | first :: rest =>
      if first = byte '-' || first = byte '=' then .malformed
      else
        let name := first :: rest.takeWhile (· != byte '=')
        match rest.dropWhile (· != byte '=') with
        | [] => .option name none
        | _ :: value => .option name (some value)

def shape : Bytes → Shape
  | dash :: second :: rest =>
      if dash ≠ byte '-' then .argument
      else if second ≠ byte '-' then shapeOfName (second :: rest)
      else if rest.isEmpty then .separator
      else shapeOfName rest
  | _ => .argument

def isHelp (name : Bytes) : Bool :=
  name = utf8 "help" || name = utf8 "h"

def parseOnto (options : Options) : List Bytes → Except Misuse Options
  | [] => .ok options
  | word :: rest =>
      match shape word with
      | .argument => .ok { options with arguments := word :: rest }
      | .separator => .ok { options with arguments := rest }
      | .malformed => .error .malformed
      | .option name value =>
          match switch? name, setting? name with
          | some switch, _ =>
              match value.elim (some true) boolean? with
              | some on => parseOnto (options.turn on switch) rest
              | none => .error .malformed
          | none, some setting =>
              match value with
              | some value => parseOnto (options.set value setting) rest
              | none =>
                  match rest with
                  | value :: rest => parseOnto (options.set value setting) rest
                  | [] => .error .malformed
          | none, none => .error (if isHelp name then .help else .malformed)

def parse (words : List Bytes) : Except Misuse Options :=
  parseOnto default words

end Options

end RegisterMachine.CommandLine
