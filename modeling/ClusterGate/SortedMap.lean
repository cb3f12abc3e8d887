/-!
# Maps sorted by text key

A finite map from text keys to values, kept as a list of entries in
strictly increasing key order. Code-point order of the keys is the order
every listing of the map shows, and since each map has exactly one such
list, two maps with the same lookups are equal
(`SortedMap.ext_get?`).

Insertion replaces the value of a key that is already there. The raw
list operations (`insertEntry`, `lookupEntry`) are also what JSON objects
use, whose entries cannot carry the order proof inside a nested type.
-/

namespace ClusterGate

variable {α : Type}

/-! ## Entry lists -/

/-- Puts `k ↦ v` into an entry list in key order, replacing the value of
an equal key. -/
def insertEntry (k : String) (v : α) : List (String × α) → List (String × α)
  | [] => [(k, v)]
  | e :: rest =>
    if k < e.1 then (k, v) :: e :: rest
    else if k = e.1 then (k, v) :: rest
    else e :: insertEntry k v rest

/-- The value of the first entry with key `k`. -/
def lookupEntry (k : String) : List (String × α) → Option α
  | [] => none
  | e :: rest => if e.1 = k then some e.2 else lookupEntry k rest

/-- Strictly increasing keys. -/
def KeysAscend (entries : List (String × α)) : Prop :=
  entries.Pairwise (fun a b => a.1 < b.1)

theorem lookupEntry_insertEntry (k : String) (v : α) (j : String)
    (l : List (String × α)) :
    lookupEntry j (insertEntry k v l) = if k = j then some v
      else lookupEntry j l := by
  induction l with
  | nil => simp [insertEntry, lookupEntry]
  | cons e rest ih =>
    simp only [insertEntry]
    split
    · simp [lookupEntry]
    · split
      · next h => subst h; by_cases hj : e.1 = j <;> simp [lookupEntry, hj]
      · next h =>
        simp only [lookupEntry, ih]
        by_cases hj : e.1 = j
        · subst hj; simp [h]
        · simp [hj]

theorem mem_insertEntry {k : String} {v : α} {e : String × α}
    {l : List (String × α)} (h : e ∈ insertEntry k v l) :
    e = (k, v) ∨ e ∈ l := by
  induction l with
  | nil => simpa [insertEntry] using h
  | cons d rest ih =>
    simp only [insertEntry] at h
    split at h
    · simpa using h
    · split at h
      · rcases List.mem_cons.mp h with h | h
        · exact .inl h
        · exact .inr (List.mem_cons_of_mem _ h)
      · rcases List.mem_cons.mp h with h | h
        · exact .inr (h ▸ List.mem_cons_self)
        · exact (ih h).imp_right (List.mem_cons_of_mem _)

theorem keysAscend_insertEntry (k : String) (v : α) {l : List (String × α)}
    (h : KeysAscend l) : KeysAscend (insertEntry k v l) := by
  induction l with
  | nil => simp [insertEntry, KeysAscend]
  | cons e rest ih =>
    have he : ∀ a ∈ rest, e.1 < a.1 := fun a => List.rel_of_pairwise_cons h
    have hr : KeysAscend rest := List.Pairwise.of_cons h
    simp only [insertEntry]
    split
    · next hk =>
      refine List.Pairwise.cons ?_ h
      intro a ha
      rcases List.mem_cons.mp ha with ha | ha
      · exact ha ▸ hk
      · exact String.lt_trans hk (he a ha)
    · split
      · next hk => exact List.Pairwise.cons (fun a ha => hk ▸ he a ha) hr
      · next hlt hne =>
        refine List.Pairwise.cons ?_ (ih hr)
        intro a ha
        rcases mem_insertEntry ha with ha | ha
        · subst ha
          exact String.not_le.mp fun hle =>
            hne (String.le_antisymm hle (String.not_lt.mp hlt))
        · exact he a ha

theorem lookupEntry_eq_none_of_lt {k : String} {l : List (String × α)}
    (h : ∀ e ∈ l, k < e.1) : lookupEntry k l = none := by
  induction l with
  | nil => rfl
  | cons e rest ih =>
    have hne : e.1 ≠ k :=
      fun hk => String.lt_irrefl k (by simpa [hk] using h e List.mem_cons_self)
    simp [lookupEntry, hne, ih fun d hd => h d (List.mem_cons_of_mem _ hd)]

/-- Lists in key order with the same lookups are the same list. -/
theorem KeysAscend.eq_of_lookupEntry {l m : List (String × α)}
    (hl : KeysAscend l) (hm : KeysAscend m)
    (h : ∀ k, lookupEntry k l = lookupEntry k m) : l = m := by
  induction l generalizing m with
  | nil =>
    cases m with
    | nil => rfl
    | cons e rest => simpa [lookupEntry] using h e.1
  | cons d l ih =>
    cases m with
    | nil => simpa [lookupEntry] using h d.1
    | cons e m =>
      have hd : ∀ a ∈ l, d.1 < a.1 := fun a => List.rel_of_pairwise_cons hl
      have he : ∀ a ∈ m, e.1 < a.1 := fun a => List.rel_of_pairwise_cons hm
      have key : d.1 = e.1 := by
        apply String.le_antisymm
        · apply String.not_lt.mp; intro hlt
          have := h e.1
          rw [lookupEntry_eq_none_of_lt (k := e.1) (l := d :: l)] at this
          · simp [lookupEntry] at this
          · intro a ha
            rcases List.mem_cons.mp ha with ha | ha
            · exact ha ▸ hlt
            · exact String.lt_trans hlt (hd a ha)
        · apply String.not_lt.mp; intro hlt
          have := h d.1
          rw [lookupEntry_eq_none_of_lt (k := d.1) (l := e :: m)] at this
          · simp [lookupEntry] at this
          · intro a ha
            rcases List.mem_cons.mp ha with ha | ha
            · exact ha ▸ hlt
            · exact String.lt_trans hlt (he a ha)
      have value : d.2 = e.2 := by
        have := h d.1
        simpa [lookupEntry, key] using this
      have rest : l = m := by
        refine ih (List.Pairwise.of_cons hl) (List.Pairwise.of_cons hm)
          fun k => ?_
        have hk := h k
        by_cases hdk : d.1 = k
        · subst hdk
          rw [lookupEntry_eq_none_of_lt fun a ha => hd a ha,
            lookupEntry_eq_none_of_lt fun a ha => key ▸ he a ha]
        · simpa [lookupEntry, hdk, key ▸ hdk] using hk
      rw [rest, show d = e from Prod.ext key value]

/-! ## The map type -/

/-- A finite map with text keys, listed in key order. -/
structure SortedMap (α : Type) where
  entries : List (String × α)
  ascending : KeysAscend entries

namespace SortedMap

def empty : SortedMap α := ⟨[], List.Pairwise.nil⟩

instance : EmptyCollection (SortedMap α) := ⟨empty⟩

instance : Inhabited (SortedMap α) := ⟨empty⟩

instance [DecidableEq α] : DecidableEq (SortedMap α) := fun a b =>
  decidable_of_iff (a.entries = b.entries) (by cases a; cases b; simp)

instance [Repr α] : Repr (SortedMap α) := ⟨fun m p => reprPrec m.entries p⟩

/-- Adds `k ↦ v`, replacing the value `k` had. -/
def insert (m : SortedMap α) (k : String) (v : α) : SortedMap α :=
  ⟨insertEntry k v m.entries, keysAscend_insertEntry k v m.ascending⟩

def get? (m : SortedMap α) (k : String) : Option α := lookupEntry k m.entries

def contains (m : SortedMap α) (k : String) : Bool := (m.get? k).isSome

def keys (m : SortedMap α) : List String := m.entries.map Prod.fst

def size (m : SortedMap α) : Nat := m.entries.length

def isEmpty (m : SortedMap α) : Bool := m.entries.isEmpty

/-- The map of a list of pairs; of equal keys the last one counts. -/
def ofList (pairs : List (String × α)) : SortedMap α :=
  pairs.foldl (fun m p => m.insert p.1 p.2) empty

theorem ext_get? {a b : SortedMap α} (h : ∀ k, a.get? k = b.get? k) :
    a = b := by
  cases a with
  | mk l hl =>
    cases b with
    | mk m hm => exact (by simpa using hl.eq_of_lookupEntry hm h)

theorem get?_insert (m : SortedMap α) (k : String) (v : α) (j : String) :
    (m.insert k v).get? j = if k = j then some v else m.get? j :=
  lookupEntry_insertEntry k v j m.entries

end SortedMap

end ClusterGate
