import RegisterMachine.Bytes

/-! The words of a source line. Blanks, tabs, carriage returns and commas separate words and a
semicolon starts a comment; a string in quotes and an expression in parentheses are one word each. -/

namespace RegisterMachine.Source

inductive Unfinished where
  | string
  | expression
  deriving DecidableEq, Repr

def isGap (b : UInt8) : Bool :=
  b == byte ' ' || b == byte '\t' || b == byte '\r' || b == byte ','

def isPlain (b : UInt8) : Bool :=
  !isGap b && b != byte ';' && b != byte '"'

def stringEnd? (n : Nat) : Bytes → Option Nat
  | [] => none
  | [b] => if b = byte '"' then some (n + 1) else none
  | b :: c :: rest =>
      if b = byte '"' then some (n + 1)
      else if b = byte '\\' then stringEnd? (n + 2) rest
      else stringEnd? (n + 1) (c :: rest)

/-- The length of an expression's rest up to the parenthesis that closes it, with `depth`
parentheses open around it and `n` bytes behind. -/
def expressionEnd? (depth n : Nat) : Bytes → Option Nat
  | [] => none
  | b :: rest =>
      if b = byte '(' then expressionEnd? (depth + 1) (n + 1) rest
      else if b = byte ')' then
        if depth = 0 then some (n + 1) else expressionEnd? (depth - 1) (n + 1) rest
      else expressionEnd? depth (n + 1) rest

def startsExpression : Bytes → Bool
  | a :: b :: _ => a == byte '$' && b == byte '('
  | _ => false

/-- The length of the word a line starts with, for a line that starts with neither a gap nor a
comment. -/
def wordLength (line : Bytes) : Except Unfinished Nat :=
  match line with
  | [] => .ok 0
  | b :: rest =>
      if b = byte '"' then
        match stringEnd? 1 rest with
        | some n => .ok n
        | none => .error .string
      else if startsExpression line then
        match expressionEnd? 0 2 (rest.drop 1) with
        | some n => .ok n
        | none => .error .expression
      else .ok (line.takeWhile isPlain).length

theorem le_of_stringEnd? {n m : Nat} {text : Bytes} (h : stringEnd? n text = some m) : n < m := by
  fun_induction stringEnd? n text <;> grind

theorem le_of_expressionEnd? {depth n m : Nat} {text : Bytes}
    (h : expressionEnd? depth n text = some m) : n < m := by
  fun_induction expressionEnd? depth n text <;> grind

theorem wordLength_pos {b : UInt8} {rest : Bytes} {n : Nat}
    (gap : isGap b = false) (comment : b ≠ byte ';')
    (h : wordLength (b :: rest) = .ok n) : 0 < n := by
  unfold wordLength at h
  split at h
  · simp_all
  · rename_i first others cons
    obtain ⟨rfl, rfl⟩ := List.cons.inj cons
    split at h
    · split at h
      · rename_i found
        have := le_of_stringEnd? found
        grind
      · simp at h
    · split at h
      · split at h
        · rename_i found
          have := le_of_expressionEnd? found
          grind
        · simp at h
      · have plain : isPlain b = true := by simp_all [isPlain]
        simp [plain] at h
        omega

def words (line : Bytes) : Except Unfinished (List Bytes) :=
  match line with
  | [] => .ok []
  | b :: rest =>
      if b = byte ';' then .ok []
      else if isGap b then words rest
      else
        match _found : wordLength (b :: rest) with
        | .error unfinished => .error unfinished
        | .ok n =>
            match words ((b :: rest).drop n) with
            | .ok others => .ok ((b :: rest).take n :: others)
            | .error unfinished => .error unfinished
termination_by line.length
decreasing_by
  · simp
  · rename_i comment gap
    have := wordLength_pos (by simpa using gap) comment _found
    simp only [List.length_drop, List.length_cons]
    omega

end RegisterMachine.Source
