import Mathlib.Data.List.TakeWhile
import RegisterMachine.Source.Lines

/-! A newline ends a line and nothing else does, so lines that hold no newline are read back from the
text that ends each of them by one. -/

namespace RegisterMachine.Source

theorem rawLinesOnto_append (done before : List Bytes) (current text : Bytes) :
    rawLinesOnto (done ++ before) current text =
      before.reverse ++ rawLinesOnto done current text := by
  induction text generalizing done current with
  | nil =>
      simp only [rawLinesOnto]
      split <;> simp
  | cons b rest induction =>
      simp only [rawLinesOnto]
      split
      · exact induction (current.reverse :: done) []
      · exact induction done (b :: current)

theorem rawLinesOnto_line {line : Bytes} (oneLine : byte '\n' ∉ line) (done : List Bytes)
    (current rest : Bytes) :
    rawLinesOnto done current (line ++ rest) =
      rawLinesOnto done (line.reverse ++ current) rest := by
  induction line generalizing current with
  | nil => rfl
  | cons b tail induction =>
      have inLine : b ≠ byte '\n' := fun same => oneLine (same ▸ List.mem_cons_self)
      have tailInLine : byte '\n' ∉ tail := fun member => oneLine (List.mem_cons_of_mem b member)
      rw [List.cons_append, rawLinesOnto, if_neg inLine, induction tailInLine]
      simp

theorem rawLines_cons {line : Bytes} (oneLine : byte '\n' ∉ line) (rest : Bytes) :
    rawLines (line ++ byte '\n' :: rest) = line :: rawLines rest := by
  have joined := rawLinesOnto_append [] [line] [] rest
  rw [rawLines, rawLinesOnto_line oneLine, rawLinesOnto, if_pos rfl]
  simpa [rawLines] using joined

theorem rawLinesOnto_newline (current text rest : Bytes) :
    rawLinesOnto [] current (text ++ byte '\n' :: rest) =
      rawLinesOnto [] current (text ++ [byte '\n']) ++ rawLines rest := by
  induction text generalizing current with
  | nil =>
      have split := rawLinesOnto_append [] [current.reverse] [] rest
      simpa [rawLinesOnto, rawLines] using split
  | cons b tail induction =>
      rw [List.cons_append, List.cons_append, rawLinesOnto, rawLinesOnto]
      split
      · have here := rawLinesOnto_append [] [current.reverse] [] (tail ++ byte '\n' :: rest)
        have alone := rawLinesOnto_append [] [current.reverse] [] (tail ++ [byte '\n'])
        rw [List.nil_append] at here alone
        rw [here, alone, induction, List.append_assoc]
      · exact induction (b :: current)

/-- A text that ends with its last line has its own lines, whatever follows. -/
theorem rawLines_append {front : Bytes} (ended : front = [] ∨ front.getLast? = some (byte '\n'))
    (back : Bytes) : rawLines (front ++ back) = rawLines front ++ rawLines back := by
  rcases ended with rfl | ends
  · rfl
  · obtain ⟨text, rfl⟩ := List.getLast?_eq_some_iff.mp ends
    rw [List.append_assoc]
    exact rawLinesOnto_newline [] text back

/-- Lines that are each ended by a newline are the lines of the text they make up. -/
theorem rawLines_flatMap {lines : List Bytes} (oneLine : ∀ line ∈ lines, byte '\n' ∉ line) :
    rawLines (lines.flatMap fun line => line ++ [byte '\n']) = lines := by
  induction lines with
  | nil => rfl
  | cons line rest induction =>
      have restInLine : ∀ other ∈ rest, byte '\n' ∉ other := fun other member =>
        oneLine other (List.mem_cons_of_mem line member)
      rw [List.flatMap_cons, List.append_assoc, List.singleton_append,
        rawLines_cons (oneLine line List.mem_cons_self), induction restInLine]

theorem dropReturn_eq_self {line : Bytes} (kept : line.getLast? ≠ some (byte '\r')) :
    dropReturn line = line :=
  if_neg kept

theorem isReadable_iff {source : Bytes} :
    isReadable source = true ↔ ∀ line ∈ rawLines source, line.length < lineLimit := by
  simp [isReadable, isShort]

/-- A line as it is read: without its carriage return, or not at all if it is too long. -/
def readLine? (line : Bytes) : Option Bytes :=
  if isShort line then some (dropReturn line) else none

def scanned (source : Bytes) : List (Option Bytes) :=
  (rawLines source).map readLine?

/-- The lines before the first that cannot be read. -/
def leading : List (Option Bytes) → List Bytes
  | [] => []
  | none :: _ => []
  | some line :: rest => line :: leading rest

theorem lines_eq_leading (source : Bytes) : lines source = leading (scanned source) := by
  unfold lines scanned
  induction rawLines source with
  | nil => rfl
  | cons line rest induction =>
      cases short : isShort line with
      | true =>
          rw [List.takeWhile_cons_of_pos short, List.map_cons, List.map_cons, induction, readLine?,
            if_pos short, leading]
      | false =>
          have long : ¬ isShort line = true := Bool.eq_false_iff.mp short
          rw [List.takeWhile_cons_of_neg long, List.map_cons, readLine?, if_neg long]
          rfl

theorem isReadable_eq_all (source : Bytes) :
    isReadable source = (scanned source).all Option.isSome := by
  rw [isReadable, scanned, List.all_map]
  congr 1
  funext line
  cases short : isShort line <;> simp [readLine?, short]

theorem scanned_append {front : Bytes} (ended : front = [] ∨ front.getLast? = some (byte '\n'))
    (back : Bytes) :
    scanned (front ++ back) = scanned front ++ scanned back := by
  rw [scanned, rawLines_append ended, List.map_append, scanned, scanned]

theorem leading_append (texts : List Bytes) (rest : List (Option Bytes)) :
    leading (texts.map some ++ rest) = texts ++ leading rest := by
  induction texts with
  | nil => rfl
  | cons line others induction => rw [List.map_cons, List.cons_append, leading, induction]; rfl

theorem leading_map (texts : List Bytes) : leading (texts.map some) = texts := by
  have joined := leading_append texts []
  rwa [leading, List.append_nil, List.append_nil] at joined

theorem eq_leading_append (read : List (Option Bytes)) :
    ∃ rest, read = (leading read).map some ++ rest ∧
      (rest = [] ∨ ∃ others, rest = none :: others) := by
  induction read with
  | nil => exact ⟨[], rfl, .inl rfl⟩
  | cons first others induction =>
      cases first with
      | none => exact ⟨none :: others, rfl, .inr ⟨others, rfl⟩⟩
      | some line =>
          obtain ⟨rest, same, ends⟩ := induction
          exact ⟨rest, congrArg (some line :: ·) same, ends⟩

theorem scanned_of_isReadable {source : Bytes} (readable : isReadable source = true) :
    scanned source = (lines source).map some := by
  obtain ⟨rest, split, ends⟩ := eq_leading_append (scanned source)
  rcases ends with rfl | ⟨others, rfl⟩
  · rw [List.append_nil, ← lines_eq_leading] at split
    exact split
  · rw [isReadable_eq_all, split] at readable
    simp at readable

end RegisterMachine.Source
