import RegisterMachine.CommandLine
import RegisterMachine.Expression.Lookups
import RegisterMachine.Program.Drawing

/-! The command as a program of the system. -/

namespace RegisterMachine.CommandLine

/-- Ticks between two looks at what a job has written. -/
def stride : Nat := 4096

def write (stream : IO.FS.Stream) (text : Bytes) : IO Unit := do
  stream.write (ByteArray.mk text.toArray)
  stream.flush

partial def readAll (stream : IO.FS.Stream) (done : ByteArray) : IO ByteArray := do
  let chunk ← stream.read 65536
  if chunk.isEmpty then return done else readAll stream (done ++ chunk)

def pathFault : IO.Error → PathFault
  | .inappropriateType .. => .notDirectory
  | .permissionDenied .. => .forbidden
  | .invalidArgument .. => .malformed
  | _ => .absent

def findEntry (name : Bytes) : IO (Except PathFault Entry) := do
  match String.fromUTF8? (ByteArray.mk name.toArray) with
  | none => return .error .absent
  | some path =>
      try
        if ← (← IO.FS.realPath path).isDir then return .ok .directory
        let content ← IO.FS.readBinFile path
        return .ok (.file content.data.toList)
      catch error => return .error (pathFault error)

def readInput : IO Feed := do
  return Feed.ofBytes (← readAll (← IO.getStdin) ByteArray.empty).data.toList

partial def finish (stretch : Stretch) : IO UInt32 := do
  write (← IO.getStdout) stretch.output
  write (← IO.getStderr) (stretch.notes.flatMap logLine)
  match stretch.progress with
  | .exited code => return code.toUInt32
  | .running job => finish (job.runFor stride)

def execute (arguments : List String) : IO UInt32 := do
  let call : Call :=
    { name := utf8 "register-machine"
      arguments := arguments.map utf8
      expressionDetail := Expression.Failure.message
      documentDetail := utf8 "yaml: document is malformed"
      drawing := Program.Tree.draw }
  finish (← start call { find := findEntry, input := readInput })

end RegisterMachine.CommandLine

def main (arguments : List String) : IO UInt32 :=
  RegisterMachine.CommandLine.execute arguments
