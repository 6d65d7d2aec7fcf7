import RegisterMachine.Bytes

/-! Finite maps from names. -/

namespace RegisterMachine

structure Table (α : Type) where
  entries : List (Bytes × α)
  nodup : (entries.map Prod.fst).Nodup

namespace Table

variable {α : Type}

def empty : Table α where
  entries := []
  nodup := List.nodup_nil

def names (table : Table α) : List Bytes :=
  table.entries.map Prod.fst

def get? (table : Table α) (name : Bytes) : Option α :=
  table.entries.lookup name

def contains (table : Table α) (name : Bytes) : Bool :=
  (table.get? name).isSome

def insert (table : Table α) (name : Bytes) (value : α) : Table α where
  entries := (name, value) :: table.entries.filter fun entry => entry.1 != name
  nodup := by
    rw [List.map_cons, List.nodup_cons]
    constructor
    · simp
    · have sublist : (table.entries.filter fun entry => entry.1 != name).Sublist table.entries :=
        List.filter_sublist
      exact (sublist.map Prod.fst).nodup table.nodup

/-- Inserts pairs in order, so that the last value of a name stays. -/
def insertAll (table : Table α) (pairs : List (Bytes × α)) : Table α :=
  pairs.foldl (fun table pair => table.insert pair.1 pair.2) table

def ofList (pairs : List (Bytes × α)) : Table α :=
  empty.insertAll pairs

def size (table : Table α) : Nat :=
  table.entries.length

def sorted (table : Table α) : List (Bytes × α) :=
  table.entries.mergeSort fun a b => decide (a.1 ≤ b.1)

def same [BEq α] (left right : Table α) : Bool :=
  left.sorted == right.sorted

@[simp] theorem get?_empty (name : Bytes) : (empty : Table α).get? name = none := rfl

end Table

def concatPairs {κ α : Type} (sequences : List (List (κ × α))) : List (κ × α) :=
  sequences.flatten

end RegisterMachine
