import RegisterMachine.Bytes

/-! Files and directories, and what a path leads to among them. -/

namespace RegisterMachine.CommandLine

inductive Entry where
  | file (content : Bytes)
  | directory
  deriving DecidableEq, Repr

inductive PathFault where
  | absent
  | notDirectory
  | nameTooLong
  | malformed
  | forbidden
  deriving DecidableEq, Repr

def PathFault.description : PathFault → Bytes
  | .absent => utf8 "no such file or directory"
  | .notDirectory => utf8 "not a directory"
  | .nameTooLong => utf8 "file name too long"
  | .malformed => utf8 "invalid argument"
  | .forbidden => utf8 "permission denied"

def PathFault.message (fault : PathFault) (path : Bytes) : Bytes :=
  utf8 "open " ++ path ++ utf8 ": " ++ fault.description

def pathParts : Bytes → List Bytes
  | [] => [[]]
  | b :: rest =>
      if b = byte '/' then [] :: pathParts rest
      else
        match pathParts rest with
        | [] => [[b]]
        | part :: parts => (b :: part) :: parts

/-- Files by their places, and the place where relative paths start. A place is the list of the names
from the root of all directories down. -/
structure Files where
  home : List Bytes
  contents : List (List Bytes × Bytes)

namespace Files

def nameLimit : Nat := 255

def pathLimit : Nat := 4095

def here : Bytes := utf8 "."

def above : Bytes := utf8 ".."

/-- What stands at a place. Whatever has a file below it is a directory. -/
def entry? (files : Files) (place : List Bytes) : Option Entry :=
  match files.contents.lookup place with
  | some content => some (.file content)
  | none =>
      if place.isPrefixOf files.home || files.contents.any (fun entry => place.isPrefixOf entry.1) then
        some .directory
      else none

/-- Follows the parts of a path from a place on. Only a directory can be left by a part, even by one
that leads back to it. -/
def follow (files : Files) (place : List Bytes) : List Bytes → Except PathFault Entry
  | [] =>
      match files.entry? place with
      | some entry => .ok entry
      | none => .error .absent
  | part :: rest =>
      match files.entry? place with
      | none => .error .absent
      | some (.file _) => .error .notDirectory
      | some .directory =>
          if part = [] ∨ part = here then files.follow place rest
          else if part = above then files.follow place.dropLast rest
          else if nameLimit < part.length then .error .nameTooLong
          else files.follow (place ++ [part]) rest

def find (files : Files) (path : Bytes) : Except PathFault Entry :=
  if path.contains 0 then .error .malformed
  else if pathLimit < path.length then .error .nameTooLong
  else if path.isEmpty then .error .absent
  else if path.head? = some (byte '/') then files.follow [] (pathParts path)
  else files.follow files.home (pathParts path)

def insert (files : Files) (path content : Bytes) : Files :=
  let names := (pathParts path).filter fun part => !(part.isEmpty || part == here)
  { files with contents := (files.home ++ names, content) :: files.contents }

end Files

end RegisterMachine.CommandLine
