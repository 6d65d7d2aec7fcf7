import RegisterMachine.Program.Layout
import RegisterMachine.Text.Utf8

/-! A plain drawing of outlines: a box for each title, set in by the depth of the title. The command
takes any drawing; this is the one it is started with. -/

namespace RegisterMachine.Program.Tree

def box (margin : Nat) (title : Bytes) : Bytes :=
  let blanks := List.replicate margin (byte ' ')
  let bar := (List.replicate (Text.Utf8.decode title).length (utf8 "─")).flatten
  blanks ++ utf8 "╭" ++ bar ++ utf8 "╮\n" ++ (blanks ++ utf8 "│" ++ title ++ utf8 "│\n") ++
    (blanks ++ utf8 "╰" ++ bar ++ utf8 "╯\n")

mutual

def drawAt (margin : Nat) : Tree → Bytes
  | .node title children => box margin title ++ drawAll (margin + 2) children

def drawAll (margin : Nat) : List Tree → Bytes
  | [] => []
  | tree :: rest => drawAt margin tree ++ drawAll margin rest

end

def draw (tree : Tree) : Bytes :=
  drawAt 0 tree

end RegisterMachine.Program.Tree
