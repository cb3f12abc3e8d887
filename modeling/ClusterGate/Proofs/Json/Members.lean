import ClusterGate.Json.Basic

/-!
# Documents and their members

A property of documents is proved for a container from what holds of its
members, the items of an array or the values of an object.
-/

namespace ClusterGate

namespace Json

@[elab_as_elim]
theorem induction_members {P : Json → Prop} (null : P .null)
    (bool : ∀ b, P (.bool b)) (num : ∀ n, P (.num n)) (str : ∀ s, P (.str s))
    (arr : ∀ items, (∀ v ∈ items, P v) → P (.arr items))
    (obj : ∀ fields, (∀ e ∈ fields, P e.2) → P (.obj fields))
    (v : Json) : P v :=
  @Json.rec P (fun items => ∀ v ∈ items, P v)
    (fun fields => ∀ e ∈ fields, P e.2) (fun e => P e.2)
    null bool num str arr obj
    (List.forall_mem_nil _)
    (fun _ _ hv hrest => List.forall_mem_cons.mpr ⟨hv, hrest⟩)
    (List.forall_mem_nil _)
    (fun _ _ he hrest => List.forall_mem_cons.mpr ⟨he, hrest⟩)
    (fun _ _ hv => hv) v

theorem canonical_of_mem_items {items : List Json} {v : Json}
    (h : CanonicalItems items) (hv : v ∈ items) : v.Canonical := by
  induction items with
  | nil => cases hv
  | cons w rest ih =>
      rcases List.mem_cons.mp hv with rfl | hv
      · exact h.1
      · exact ih h.2 hv

end Json

end ClusterGate
