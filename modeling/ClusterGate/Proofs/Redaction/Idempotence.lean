import ClusterGate.Proofs.Json.Members
import ClusterGate.Proofs.Redaction.Filter

/-!
# Redacting twice

A response that has been redacted passes the same allow-list unchanged. The
filter finds again whatever it left, although arrays have become shorter and
emptied containers are gone by then: every container that it keeps below a
root has something in it, and the nodes that found it will look for it
again.

The value of a root may be left empty, and it is kept as it is where it is
no object, in the second pass as in the first.
-/

namespace ClusterGate

open Json

/-- Whatever is left of a value, at whichever nodes, is left of it again. -/
def FilterStable (v : Json) : Prop :=
  ∀ nodes w, filterValue nodes v = some w → filterValue nodes w = some w

theorem filterFields_filterFields_of_stable {fields : List (String × Json)}
    (h : ∀ e ∈ fields, FilterStable e.2) (nodes : List PathTree) :
    filterFields nodes (filterFields nodes fields) =
      filterFields nodes fields := by
  simp only [filterFields_eq_pickEntries]
  refine pickEntries_pickEntries fun e he w hw => ?_
  rw [keepReached] at hw ⊢
  split at hw
  · next hterm => exact if_pos hterm
  · next hterm =>
      rw [if_neg hterm]
      exact h e he _ w hw

/-- An item that is kept is an object, and what is left of it is one. -/
theorem keepItem_keepItem {nodes : List PathTree} {v w : Json}
    (h : FilterStable v) (hw : keepItem nodes v = some w) :
    keepItem nodes w = some w := by
  have hstable := h nodes w (filterValue_of_keepItem hw)
  cases v with
  | obj fields =>
      obtain ⟨-, rfl⟩ := filterValue_obj_eq_some_iff.mp hw
      exact hstable
  | _ => cases hw

theorem filterItems_filterItems_of_stable {items : List Json}
    (h : ∀ v ∈ items, FilterStable v) (nodes : List PathTree) :
    filterItems nodes (filterItems nodes items) = filterItems nodes items := by
  simp only [filterItems_eq_filterMap, List.filterMap_filterMap]
  refine List.filterMap_congr fun v hv => ?_
  cases hw : keepItem nodes v with
  | none => rfl
  | some w => exact keepItem_keepItem (h v hv) hw

theorem filterStable (v : Json) : FilterStable v := by
  induction v using induction_members with
  | null => simp [FilterStable, filterValue]
  | bool b => simp [FilterStable, filterValue]
  | num n => simp [FilterStable, filterValue]
  | str s => simp [FilterStable, filterValue]
  | arr items ih =>
      intro nodes w h
      obtain ⟨hne, rfl⟩ := filterValue_arr_eq_some_iff.mp h
      rw [filterValue_arr_eq_some_iff, filterItems_filterItems_of_stable ih]
      exact ⟨hne, rfl⟩
  | obj fields ih =>
      intro nodes w h
      obtain ⟨hne, rfl⟩ := filterValue_obj_eq_some_iff.mp h
      rw [filterValue_obj_eq_some_iff, filterFields_filterFields_of_stable ih]
      exact ⟨hne, rfl⟩

/-! ## The roots -/

theorem RootRule.keep_keep (rule : RootRule) (value : Json) :
    rule.keep (rule.keep value) = rule.keep value := by
  cases rule with
  | whole => rfl
  | along paths tree =>
      cases value with
      | obj fields =>
          have hstable :=
            filterFields_filterFields_of_stable fun e (_ : e ∈ fields) =>
              filterStable e.2
          exact congrArg Json.obj (hstable [tree])
      | _ => rfl

/-- **Redacting twice.** What an allow-list lets through it lets through
again as it is. -/
theorem redact_redact (raw : Json) (list : AllowList) :
    redact (redact raw list) list = redact raw list := by
  cases hne : list.isEmpty with
  | true => simp only [redact, hne, if_true]
  | false =>
      rw [redact_eq_obj hne raw, redact_eq_obj hne]
      refine congrArg Json.obj ((keysAscend_keptRoots _ list).eq_of_lookupEntry
        (keysAscend_keptRoots raw list) fun root => ?_)
      rw [lookupEntry_keptRoots, field?, lookupEntry_keptRoots]
      cases list.roots.get? root with
      | none => rfl
      | some rule =>
          cases raw.field? root with
          | none => rfl
          | some value => exact congrArg some (rule.keep_keep value)

end ClusterGate
