import RegisterMachine.Expression.Value

/-! Equality and order of values. -/

namespace RegisterMachine.Expression

def Comparison.holds : Comparison → Ordering → Bool
  | .equal, order => order = .eq
  | .unequal, order => order ≠ .eq
  | .less, order => order = .lt
  | .greater, order => order = .gt
  | .atMost, order => order ≠ .gt
  | .atLeast, order => order ≠ .lt

def Comparison.ofEquality? : Comparison → Bool → Option Bool
  | .equal, same => some same
  | .unequal, same => some !same
  | _, _ => none

namespace Value

def compareReals (x y : Float) : Ordering :=
  if y < x then .gt
  else if x < y then .lt
  else if x == y then .eq
  else if x == x then .lt
  else if y == y then .gt
  else .eq

def compareMixed (n : Int) (x : Float) : Ordering :=
  match Text.Real.dyadic? x with
  | some value => value.compareInt n
  | none => if x < 0 then .gt else .lt

def compareBytes (a b : ByteArray) : Ordering :=
  if a == b then .eq else compare a.toList b.toList

/-- Compares item by item with an equality and a comparison of items. The first pair that differs
decides. -/
def compareItems? (equal? : Value → Value → Option Bool)
    (compare? : Comparison → Value → Value → Option Bool) (comparison : Comparison) :
    List Value → List Value → Option Bool
  | [], [] => some (comparison.holds .eq)
  | [], _ :: _ => some (comparison.holds .lt)
  | _ :: _, [] => some (comparison.holds .gt)
  | x :: xs, y :: ys =>
      match equal? x y with
      | none => none
      | some true => compareItems? equal? compare? comparison xs ys
      | some false =>
          match comparison.ofEquality? false with
          | some result => some result
          | none => compare? comparison x y

/-- Compares two sequences; for their equality their lengths come first. -/
def compareSequences? (equal? : Value → Value → Option Bool)
    (compare? : Comparison → Value → Value → Option Bool) (comparison : Comparison)
    (xs ys : Array Value) : Option Bool :=
  match comparison.ofEquality? false with
  | some result =>
      if xs.size = ys.size then compareItems? equal? compare? comparison xs.toList ys.toList
      else some result
  | none => compareItems? equal? compare? comparison xs.toList ys.toList

/-- Whether all entries are in another dictionary. What cannot be looked up there is not in it. -/
def includes? (equal? : Value → Value → Option Bool) (other : Dictionary) :
    List (Value × Value) → Option Bool
  | [] => some true
  | (key, value) :: rest =>
      match other.get? key with
      | some (some found) =>
          match equal? value found with
          | some true => includes? equal? other rest
          | result => result
      | _ => some false

/-- Two strings are equal at any depth. -/
def equalStrings? (equal? : Value → Value → Option Bool) (x y : Value) : Option Bool :=
  match x, y with
  | .string a, .string b => some (a == b)
  | .string _, _ => some false
  | _, _ => equal? x y

def compareTo? (store : Store) : Nat → Comparison → Value → Value → Option Bool
  | 0, _, _, _ => none
  | depth + 1, comparison, x, y =>
      let equal? := equalStrings? (compareTo? store depth .equal)
      match x, y with
      | .nothing, .nothing => comparison.ofEquality? true
      | .boolean a, .boolean b => some (comparison.holds (compare a.toNat b.toNat))
      | .integer m, .integer n => some (comparison.holds (compare m n))
      | .integer n, .real x => some (comparison.holds (compareMixed n x))
      | .real x, .integer n => some (comparison.holds (compareMixed n x).swap)
      | .real x, .real y => some (comparison.holds (compareReals x y))
      | .string a, .string b => some (comparison.holds (compareBytes a b))
      | .bytes a, .bytes b => some (comparison.holds (compareBytes a b))
      | .tuple xs, .tuple ys => compareSequences? equal? (compareTo? store depth) comparison xs ys
      | .list a, .list b =>
          compareSequences? equal? (compareTo? store depth) comparison (store.items a) (store.items b)
      | .dictionary a, .dictionary b =>
          let xs := store.dictionary a
          let ys := store.dictionary b
          if (comparison.ofEquality? true).isNone then none
          else if xs.size = ys.size then
            (includes? equal? ys xs.toList).bind comparison.ofEquality?
          else comparison.ofEquality? false
      | .range a, .range b => comparison.ofEquality? (a.same b)
      | .view v a, .view w b => comparison.ofEquality? (v == w && a == b)
      | .builtin a, .builtin b => comparison.ofEquality? (a == b)
      | .function a, .function b => comparison.ofEquality? (a == b)
      | .method a _ _, .method b _ _ => comparison.ofEquality? (a == b)
      | _, _ => comparison.ofEquality? false

def compare? (store : Store) (comparison : Comparison) (x y : Value) : Option Bool :=
  compareTo? store comparisonDepth comparison x y

def equal? (store : Store) (x y : Value) : Option Bool :=
  equalStrings? (compare? store .equal) x y

end Value

end RegisterMachine.Expression
