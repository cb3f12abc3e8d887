import ClusterGate.SortedMap
import ClusterGate.Json.Binary64

/-!
# JSON values

The documents the library reads, filters and logs. A number is an exact
integer when it is written as one and fits 64 bits, and a double
otherwise; the two never compare equal.

An object is a list of entries. A *canonical* value lists the keys of
every object in strictly increasing order, so that no key occurs twice
and equal documents are equal values; the reader produces canonical
values only.
-/

namespace ClusterGate

/-- A JSON number: an integer of at most 64 bits, or a double. -/
inductive Number where
  | int (value : Int)
  | real (value : Binary64)
  deriving DecidableEq, Repr

/-- A JSON value. -/
inductive Json where
  | null
  | bool (value : Bool)
  | num (value : Number)
  | str (value : String)
  | arr (items : List Json)
  | obj (fields : List (String × Json))
  deriving Repr

namespace Json

instance : Inhabited Json := ⟨null⟩

/-! ## Equality -/

mutual

/-- Whether two values are the same document. -/
def same : Json → Json → Bool
  | .null, .null => true
  | .bool a, .bool b => a == b
  | .num a, .num b => a == b
  | .str a, .str b => a == b
  | .arr a, .arr b => sameItems a b
  | .obj a, .obj b => sameFields a b
  | _, _ => false

def sameItems : List Json → List Json → Bool
  | [], [] => true
  | a :: as, b :: bs => same a b && sameItems as bs
  | _, _ => false

def sameFields : List (String × Json) → List (String × Json) → Bool
  | [], [] => true
  | (j, a) :: as, (k, b) :: bs => j == k && same a b && sameFields as bs
  | _, _ => false

end

mutual

theorem eq_of_same : ∀ {a b : Json}, same a b = true → a = b
  | .null, .null, _ => rfl
  | .bool a, .bool b, h => by simpa [same] using h
  | .num a, .num b, h => by simpa [same] using h
  | .str a, .str b, h => by simpa [same] using h
  | .arr _, .arr _, h => congrArg arr (eq_of_sameItems h)
  | .obj _, .obj _, h => congrArg obj (eq_of_sameFields h)

theorem eq_of_sameItems : ∀ {a b : List Json}, sameItems a b = true → a = b
  | [], [], _ => rfl
  | a :: as, b :: bs, h => by
    simp only [sameItems, Bool.and_eq_true] at h
    rw [eq_of_same h.1, eq_of_sameItems h.2]

theorem eq_of_sameFields :
    ∀ {a b : List (String × Json)}, sameFields a b = true → a = b
  | [], [], _ => rfl
  | (j, a) :: as, (k, b) :: bs, h => by
    simp only [sameFields, Bool.and_eq_true, beq_iff_eq] at h
    rw [h.1.1, eq_of_same h.1.2, eq_of_sameFields h.2]

end

mutual

theorem same_self : ∀ a : Json, same a a = true
  | .null => rfl
  | .bool _ => by simp [same]
  | .num _ => by simp [same]
  | .str _ => by simp [same]
  | .arr a => by simp [same, sameItems_self a]
  | .obj a => by simp [same, sameFields_self a]

theorem sameItems_self : ∀ a : List Json, sameItems a a = true
  | [] => rfl
  | a :: as => by simp [sameItems, same_self a, sameItems_self as]

theorem sameFields_self : ∀ a : List (String × Json), sameFields a a = true
  | [] => rfl
  | (_, a) :: as => by simp [sameFields, same_self a, sameFields_self as]

end

instance : DecidableEq Json := fun a b =>
  decidable_of_iff (same a b = true) ⟨eq_of_same, fun h => h ▸ same_self a⟩

/-! ## Access -/

/-- The value under a key, for an object that has it. -/
def field? (key : String) : Json → Option Json
  | .obj fields => lookupEntry key fields
  | _ => none

/-- The object with these fields in key order; of equal keys the last one
counts. -/
def ofFields (fields : List (String × Json)) : Json :=
  .obj (fields.foldl (fun acc f => insertEntry f.1 f.2 acc) [])

/-- A natural number as JSON. -/
def ofNat (n : Nat) : Json := .num (.int n)

/-- The number of roots: how many keys an object has, and none otherwise. -/
def rootCount : Json → Nat
  | .obj fields => fields.length
  | _ => 0

/-! ## Canonical values -/

mutual

/-- Every object in the value lists its keys in strictly increasing
order. -/
def Canonical : Json → Prop
  | .arr items => CanonicalItems items
  | .obj fields => KeysAscend fields ∧ CanonicalFields fields
  | _ => True

def CanonicalItems : List Json → Prop
  | [] => True
  | item :: rest => Canonical item ∧ CanonicalItems rest

def CanonicalFields : List (String × Json) → Prop
  | [] => True
  | (_, value) :: rest => Canonical value ∧ CanonicalFields rest

end

end Json

end ClusterGate
