import RegisterMachine.Table

/-! A table seen through its look-ups. -/

namespace RegisterMachine.Table

variable {α : Type}

theorem lookup_filter_ne {name other : Bytes} (different : other ≠ name)
    (entries : List (Bytes × α)) :
    (entries.filter fun entry => entry.1 != name).lookup other = entries.lookup other := by
  induction entries with
  | nil => rfl
  | cons entry rest induction =>
      obtain ⟨key, value⟩ := entry
      by_cases same : key = name
      · subst same
        have skipped : (other == key) = false := by simpa using different
        simp [List.lookup_cons, skipped, induction]
      · have kept : (key != name) = true := by simpa using same
        simp only [List.filter_cons, kept, ↓reduceIte, List.lookup_cons, induction]

@[simp] theorem get?_insert_self (table : Table α) (name : Bytes) (value : α) :
    (table.insert name value).get? name = some value := by
  simp [get?, insert]

theorem get?_insert_of_ne (table : Table α) {name other : Bytes} (value : α)
    (different : other ≠ name) : (table.insert name value).get? other = table.get? other := by
  have skipped : (other == name) = false := by simpa using different
  simp only [get?, insert, List.lookup_cons, skipped]
  exact lookup_filter_ne different table.entries

theorem get?_insert (table : Table α) (name other : Bytes) (value : α) :
    (table.insert name value).get? other =
      if other = name then some value else table.get? other := by
  split
  · rename_i same
    subst same
    exact get?_insert_self table other value
  · rename_i different
    exact get?_insert_of_ne table value different

theorem contains_eq_false_iff {table : Table α} {name : Bytes} :
    table.contains name = false ↔ table.get? name = none := by
  simp [contains]

theorem contains_eq_true_iff {table : Table α} {name : Bytes} :
    table.contains name = true ↔ ∃ value, table.get? name = some value := by
  simp [contains, Option.isSome_iff_exists]

theorem lookup_eq_some_iff {entries : List (Bytes × α)} (nodup : (entries.map Prod.fst).Nodup)
    {name : Bytes} {value : α} :
    entries.lookup name = some value ↔ (name, value) ∈ entries := by
  induction entries with
  | nil => simp
  | cons entry rest induction =>
      obtain ⟨key, first⟩ := entry
      rw [List.map_cons, List.nodup_cons] at nodup
      by_cases same : name = key
      · subst same
        have absent : (name, value) ∉ rest := fun member =>
          nodup.1 (List.mem_map.mpr ⟨(name, value), member, rfl⟩)
        simp [absent, eq_comm]
      · have skipped : (name == key) = false := by simpa using same
        simp [List.lookup_cons, skipped, induction nodup.2, same]

/-- A name has the last value that it was given, or the one it had before. -/
theorem get?_insertAll (table : Table α) (pairs : List (Bytes × α)) (name : Bytes) :
    (table.insertAll pairs).get? name = (pairs.reverse.lookup name).or (table.get? name) := by
  induction pairs generalizing table with
  | nil => rfl
  | cons pair rest induction =>
      obtain ⟨key, value⟩ := pair
      have step : table.insertAll ((key, value) :: rest) =
          (table.insert key value).insertAll rest := rfl
      rw [step, induction, List.reverse_cons, List.lookup_append, Option.or_assoc, get?_insert]
      congr 1
      by_cases same : name = key
      · simp [same]
      · simp [List.lookup_cons, same, beq_eq_false_iff_ne.mpr same]

theorem get?_ofList (pairs : List (Bytes × α)) (name : Bytes) :
    (ofList pairs).get? name = pairs.reverse.lookup name := by
  rw [ofList, get?_insertAll, get?_empty, Option.or_none]

theorem lookup_reverse_filterMap {β : Type} (f : α → Option β) {entries : List (Bytes × α)}
    (nodup : (entries.map Prod.fst).Nodup) (name : Bytes) :
    (entries.filterMap fun entry => (f entry.2).map (entry.1, ·)).reverse.lookup name =
      (entries.lookup name).bind f := by
  induction entries with
  | nil => rfl
  | cons entry rest induction =>
      obtain ⟨key, value⟩ := entry
      obtain ⟨notAgain, restNodup⟩ := List.nodup_cons.mp nodup
      have later := induction restNodup
      by_cases same : name = key
      · subst same
        have absent : rest.lookup name = none := by
          rw [List.lookup_eq_none_iff]
          rintro ⟨other, text⟩ member
          have different : name ≠ other := fun same =>
            notAgain (List.mem_map.mpr ⟨(other, text), member, same.symm⟩)
          simpa using different
        rw [absent, Option.bind_none] at later
        cases here : f value with
        | none => simpa [List.filterMap_cons, here] using later
        | some result => simp [here, List.lookup_append, later]
      · have skipped : (name == key) = false := beq_eq_false_iff_ne.mpr same
        cases here : f value with
        | none => simpa [List.filterMap_cons, here, List.lookup_cons, skipped] using later
        | some result =>
            simpa [List.filterMap_cons, here, List.lookup_append, List.lookup_cons, skipped]
              using later

/-- A table of what some values of another come to has their names. -/
theorem get?_ofList_filterMap {β : Type} (table : Table α) (f : α → Option β) (name : Bytes) :
    (ofList (table.entries.filterMap fun entry => (f entry.2).map (entry.1, ·))).get? name =
      (table.get? name).bind f := by
  rw [get?_ofList, lookup_reverse_filterMap f table.nodup, get?]

theorem get?_eq_some_iff {table : Table α} {name : Bytes} {value : α} :
    table.get? name = some value ↔ (name, value) ∈ table.entries :=
  lookup_eq_some_iff table.nodup

end RegisterMachine.Table
