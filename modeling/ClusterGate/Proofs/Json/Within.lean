import ClusterGate.Proofs.Json.Members
import ClusterGate.Proofs.SortedMap

/-!
# Parts of a document

A document lies within another one if it can be had from it by leaving out
fields of objects and items of arrays. Scalars have to be equal, an object
has each of its keys in the other one too, with a value within the value
there, and the items of an array lie within items of the other one, in
order.

What is picked from the same fields or items in two ways is compared member
by member (`within_pickEntries`, `itemsWithin_filterMap`).
-/

namespace ClusterGate

namespace Json

mutual

/-- The first document lies within the second. -/
inductive Within : Json → Json → Prop
  | null : Within .null .null
  | bool (b : Bool) : Within (.bool b) (.bool b)
  | num (n : Number) : Within (.num n) (.num n)
  | str (s : String) : Within (.str s) (.str s)
  | arr {xs ys : List Json} (h : ItemsWithin xs ys) : Within (.arr xs) (.arr ys)
  | obj {xs ys : List (String × Json)}
      (keys : ∀ key x, lookupEntry key xs = some x →
        ∃ y, lookupEntry key ys = some y)
      (values : ∀ key x y, lookupEntry key xs = some x →
        lookupEntry key ys = some y →
        Within x y) : Within (.obj xs) (.obj ys)

/-- The items of the first list lie within items of the second, in order. -/
inductive ItemsWithin : List Json → List Json → Prop
  | nil : ItemsWithin [] []
  | skip {xs ys : List Json} (y : Json) (h : ItemsWithin xs ys) :
      ItemsWithin xs (y :: ys)
  | cons {x y : Json} {xs ys : List Json} (h : Within x y)
      (hrest : ItemsWithin xs ys) :
      ItemsWithin (x :: xs) (y :: ys)

end

theorem within_obj_iff {xs ys : List (String × Json)} :
    Within (.obj xs) (.obj ys) ↔
      ∀ key x, lookupEntry key xs = some x →
        ∃ y, lookupEntry key ys = some y ∧ Within x y := by
  constructor
  · rintro (_ | _ | _ | _ | _ | ⟨hkeys, hvalues⟩) key x hx
    obtain ⟨y, hy⟩ := hkeys key x hx
    exact ⟨y, hy, hvalues key x y hx hy⟩
  · intro h
    constructor
    · intro key x hx
      obtain ⟨y, hy, -⟩ := h key x hx
      exact ⟨y, hy⟩
    · intro key x y hx hy
      obtain ⟨y', hy', hwithin⟩ := h key x hx
      obtain rfl : y' = y := Option.some.inj (hy'.symm.trans hy)
      exact hwithin

theorem eq_nil_of_within_nil {xs : List (String × Json)}
    (h : Within (.obj xs) (.obj [])) :
    xs = [] := by
  cases xs with
  | nil => rfl
  | cons e rest =>
      obtain ⟨y, hy, -⟩ := within_obj_iff.mp h e.1 e.2 (if_pos rfl)
      cases hy

theorem eq_nil_of_itemsWithin_nil {xs : List Json} (h : ItemsWithin xs []) :
    xs = [] := by
  cases h
  rfl

/-! ## Members kept in two ways -/

/-- Whatever is kept in the first way is kept in the second, or more of it. -/
def KeptWithin (a b : Option Json) : Prop :=
  ∀ x, a = some x → ∃ y, b = some y ∧ Within x y

theorem keptWithin_some {a : Option Json} {y : Json}
    (h : ∀ x, a = some x → Within x y) :
    KeptWithin a (some y) :=
  fun x hx => ⟨y, rfl, h x hx⟩

theorem within_pickEntries {α : Type} {f g : String → α → Option Json}
    {l : List (String × α)} (hasc : KeysAscend l)
    (h : ∀ e ∈ l, KeptWithin (f e.1 e.2) (g e.1 e.2)) :
    Within (.obj (pickEntries f l)) (.obj (pickEntries g l)) := by
  rw [within_obj_iff]
  intro key x hx
  rw [lookupEntry_pickEntries f hasc] at hx
  obtain ⟨a, ha, hx⟩ := Option.bind_eq_some_iff.mp hx
  have hmem : (key, a) ∈ l := (lookupEntry_eq_some_iff hasc).mp ha
  obtain ⟨y, hy, hwithin⟩ := h (key, a) hmem x hx
  refine ⟨y, ?_, hwithin⟩
  rw [lookupEntry_pickEntries g hasc, ha]
  exact hy

theorem itemsWithin_filterMap {f g : Json → Option Json} {items : List Json}
    (h : ∀ v ∈ items, KeptWithin (f v) (g v)) :
    ItemsWithin (items.filterMap f) (items.filterMap g) := by
  induction items with
  | nil => exact .nil
  | cons v rest ih =>
      obtain ⟨hv, hrest⟩ := List.forall_mem_cons.mp h
      have hwithin := ih hrest
      rw [List.filterMap_cons, List.filterMap_cons]
      cases hf : f v with
      | some x =>
          obtain ⟨y, hy, hxy⟩ := hv x hf
          rw [hy]
          exact .cons hxy hwithin
      | none =>
          cases g v with
          | some y => exact .skip y hwithin
          | none => exact hwithin

theorem within_refl (v : Json) : Within v v := by
  induction v using induction_members with
  | null => exact .null
  | bool b => exact .bool b
  | num n => exact .num n
  | str s => exact .str s
  | arr items ih =>
      have hitems : ItemsWithin (items.filterMap some) (items.filterMap some) :=
        itemsWithin_filterMap fun v hv => keptWithin_some fun x hx =>
          Option.some.inj hx ▸ ih v hv
      rw [List.filterMap_some] at hitems
      exact .arr hitems
  | obj fields ih =>
      rw [within_obj_iff]
      intro key x hx
      exact ⟨x, hx, ih (key, x) (mem_of_lookupEntry hx)⟩

end Json

end ClusterGate
