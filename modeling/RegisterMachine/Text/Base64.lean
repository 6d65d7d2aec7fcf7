import RegisterMachine.Bytes

/-! Bytes that are written in groups of four letters, digits and signs, each of which stands for six
bits. -/

namespace RegisterMachine.Text.Base64

def sextet? (b : UInt8) : Option Nat :=
  if Bytes.isUpper b then some (b - byte 'A').toNat
  else if Bytes.isLower b then some ((b - byte 'a').toNat + 26)
  else if Bytes.isDigit b then some ((b - byte '0').toNat + 52)
  else if b == byte '+' then some 62
  else if b == byte '/' then some 63
  else none

def padding : UInt8 := byte '='

def bytesOf (count : Nat) (a b c d : Nat) : Bytes :=
  let n := ((a * 64 + b) * 64 + c) * 64 + d
  [(n / 65536).toUInt8, (n / 256).toUInt8, n.toUInt8].take count

/-- The bytes that groups stand for. Only the last group may be padded, and bits in it that belong to
no byte do not count. -/
def groups? : Bytes → Option Bytes
  | [] => some []
  | a :: b :: c :: d :: rest => do
      let first ← sextet? a
      let second ← sextet? b
      if c == padding then
        if d == padding && rest.isEmpty then return bytesOf 1 first second 0 0 else none
      else
        let third ← sextet? c
        if d == padding then
          if rest.isEmpty then return bytesOf 2 first second third 0 else none
        else
          let fourth ← sextet? d
          return bytesOf 3 first second third fourth ++ (← groups? rest)
  | _ => none

def isLineEnd (b : UInt8) : Bool :=
  b == byte '\n' || b == byte '\r'

def decode? (text : Bytes) : Option Bytes :=
  groups? (text.filter fun b => !isLineEnd b)

end RegisterMachine.Text.Base64
