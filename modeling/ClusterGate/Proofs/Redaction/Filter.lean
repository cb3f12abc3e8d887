import ClusterGate.Proofs.SortedMap
import ClusterGate.Redaction.Redact

/-!
# The filter as a choice

What the filter leaves of an object or an array is chosen member by member:
each field by the nodes that its key reaches, and each item by whether it is
an object. The roots of a response are chosen in the same way, by their
rules.
-/

namespace ClusterGate

open Json

section

variable {nodes : List PathTree} {v w : Json}

theorem filterValue_obj_eq_some_iff {fields : List (String × Json)} :
    filterValue nodes (.obj fields) = some w ↔
      filterFields nodes fields ≠ [] ∧
        .obj (filterFields nodes fields) = w := by
  simp [filterValue]

theorem filterValue_arr_eq_some_iff {items : List Json} :
    filterValue nodes (.arr items) = some w ↔
      filterItems nodes items ≠ [] ∧ .arr (filterItems nodes items) = w := by
  simp [filterValue]

/-- What is left of a value at the nodes that were reached. -/
def keepReached (reached : List PathTree) (v : Json) : Option Json :=
  if reached.any PathTree.terminal then some v else filterValue reached v

theorem filterFields_eq_pickEntries (nodes : List PathTree)
    (fields : List (String × Json)) :
    filterFields nodes fields =
      pickEntries (fun key => keepReached (nodes.flatMap (·.childrenFor key)))
        fields := by
  induction fields with
  | nil => simp [filterFields, pickEntries]
  | cons e rest ih =>
      rw [filterFields, ih, pickEntries, pickEntries,
        List.filterMap_cons, keepReached]
      cases (nodes.flatMap (·.childrenFor e.1)).any PathTree.terminal with
      | true => simp
      | false =>
          cases filterValue (nodes.flatMap (·.childrenFor e.1)) e.2 <;> simp

/-- What is left of an item. -/
def keepItem (nodes : List PathTree) : Json → Option Json
  | .obj fields => filterValue nodes (.obj fields)
  | _ => none

theorem filterItems_eq_filterMap (nodes : List PathTree) (items : List Json) :
    filterItems nodes items = items.filterMap (keepItem nodes) := by
  induction items with
  | nil => simp [filterItems]
  | cons v rest ih =>
      rw [List.filterMap_cons, ← ih]
      cases v with
      | obj fields =>
          rw [filterItems, keepItem, filterValue]
          split <;> simp_all
      | _ => simp [filterItems, keepItem]

theorem filterValue_of_keepItem (h : keepItem nodes v = some w) :
    filterValue nodes v = some w := by
  cases v with
  | obj fields => exact h
  | _ => cases h

end

/-! ## Roots -/

/-- The roots that are left, each with what its rule keeps of the value. -/
def keptRoots (raw : Json) (list : AllowList) : List (String × Json) :=
  pickEntries (fun root rule => (raw.field? root).map rule.keep)
    list.roots.entries

theorem redact_eq_obj {list : AllowList} (hne : list.isEmpty = false)
    (raw : Json) :
    redact raw list = .obj (keptRoots raw list) := by
  rw [redact, hne, if_neg Bool.false_ne_true, keptRoots, pickEntries]
  simp only [Option.map_map, Function.comp_def]

theorem keysAscend_keptRoots (raw : Json) (list : AllowList) :
    KeysAscend (keptRoots raw list) :=
  keysAscend_pickEntries _ list.roots.ascending

theorem lookupEntry_keptRoots (raw : Json) (list : AllowList) (root : String) :
    lookupEntry root (keptRoots raw list) =
      (list.roots.get? root).bind fun rule => (raw.field? root).map rule.keep :=
  lookupEntry_pickEntries _ list.roots.ascending

end ClusterGate
