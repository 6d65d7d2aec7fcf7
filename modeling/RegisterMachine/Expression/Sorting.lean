/-! Stable sorting by an order that may be undefined on some pairs. Short runs are sorted by insertion
from the left, and sorted runs are merged two by two. -/

namespace RegisterMachine.Expression.Sorting

/-- Puts an item into a sorted run, whose last item comes first. -/
def insert? (less? : α → α → Option Bool) (x : α) : List α → Option (List α)
  | [] => some [x]
  | y :: rest =>
      match less? x y with
      | none => none
      | some true => (insert? less? x rest).map (y :: ·)
      | some false => some (x :: y :: rest)

def insertionSort? (less? : α → α → Option Bool) (run : List α) : Option (List α) :=
  (run.foldlM (fun sorted x => insert? less? x sorted) []).map List.reverse

def mergeOnto? (less? : α → α → Option Bool) (done : List α) : List α → List α → Option (List α)
  | [], ys => some (done.reverse ++ ys)
  | xs, [] => some (done.reverse ++ xs)
  | x :: xs, y :: ys =>
      match less? y x with
      | none => none
      | some true => mergeOnto? less? (y :: done) (x :: xs) ys
      | some false => mergeOnto? less? (x :: done) xs (y :: ys)
termination_by xs ys => xs.length + ys.length

def mergePairs? (less? : α → α → Option Bool) : List (List α) → Option (List (List α))
  | xs :: ys :: rest =>
      match mergeOnto? less? [] xs ys, mergePairs? less? rest with
      | some merged, some others => some (merged :: others)
      | _, _ => none
  | runs => some runs

/-- Merges runs into one. Each round halves their number. -/
def mergeAll? (less? : α → α → Option Bool) : Nat → List (List α) → Option (List α)
  | 0, runs => some runs.flatten
  | _, [] => some []
  | _, [run] => some run
  | bound + 1, runs => (mergePairs? less? runs).bind (mergeAll? less? bound)

def runs (length : Nat) : Nat → List α → List (List α)
  | 0, items => [items]
  | _, [] => []
  | bound + 1, items => items.take length :: runs length bound (items.drop length)

def runLength : Nat := 20

/-- Items in order, unless two of them that are compared have none. -/
def sort? (less? : α → α → Option Bool) (items : List α) : Option (List α) :=
  match (runs runLength (items.length / runLength + 1) items).mapM (insertionSort? less?) with
  | none => none
  | some sorted => mergeAll? less? (items.length.log2 + 1) sorted

end RegisterMachine.Expression.Sorting
