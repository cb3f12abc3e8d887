import Mathlib.Data.List.Basic
import Mathlib.Data.List.Induction
import ClusterGate.Proofs.Outcome
import ClusterGate.SortedMap

/-!
# Entries of a sorted map

Looking up a key and having an entry with it are the same thing in a list
whose keys ascend, and a list that picks and changes some of the values
answers lookups accordingly. Where all values are made anew
(`SortedMap.remake`), the keys stay, and what fails does so at the least key
that has a bad value.
-/

namespace ClusterGate

variable {α β : Type} {k : String} {v : α} {l : List (String × α)}

theorem notMem_keys_of_lt (h : ∀ e ∈ l, k < e.1) : k ∉ l.map Prod.fst := by
  intro hk
  obtain ⟨e, he, rfl⟩ := List.mem_map.mp hk
  exact String.lt_irrefl _ (h e he)

theorem mem_of_lookupEntry (h : lookupEntry k l = some v) : (k, v) ∈ l := by
  induction l with
  | nil => cases h
  | cons e rest ih =>
      rw [lookupEntry] at h
      split at h
      · next hk =>
          obtain rfl := Option.some.inj h
          exact hk ▸ List.mem_cons_self
      · exact List.mem_cons_of_mem e (ih h)

theorem lookupEntry_eq_some_iff_of_nodup (h : (l.map Prod.fst).Nodup) :
    lookupEntry k l = some v ↔ (k, v) ∈ l := by
  refine ⟨mem_of_lookupEntry, fun hmem => ?_⟩
  induction l with
  | nil => cases hmem
  | cons e rest ih =>
      rw [List.map_cons, List.nodup_cons] at h
      rw [lookupEntry]
      rcases List.mem_cons.mp hmem with rfl | hrest
      · exact if_pos rfl
      · have hne : e.1 ≠ k := fun hk => h.1 (hk ▸ List.mem_map_of_mem hrest)
        rw [if_neg hne, ih h.2 hrest]

theorem lookupEntry_eq_of_perm {m : List (String × α)}
    (h : (l.map Prod.fst).Nodup) (hperm : l.Perm m) (k : String) :
    lookupEntry k l = lookupEntry k m := by
  have hm : (m.map Prod.fst).Nodup := (hperm.map Prod.fst).nodup_iff.mp h
  ext v
  rw [lookupEntry_eq_some_iff_of_nodup h, lookupEntry_eq_some_iff_of_nodup hm,
    hperm.mem_iff]

theorem KeysAscend.nodup_keys (h : KeysAscend l) : (l.map Prod.fst).Nodup := by
  refine List.Pairwise.map Prod.fst (fun a b hlt heq => ?_) h
  rw [heq] at hlt
  exact String.lt_irrefl _ hlt

theorem lookupEntry_eq_some_iff (hasc : KeysAscend l) :
    lookupEntry k l = some v ↔ (k, v) ∈ l :=
  lookupEntry_eq_some_iff_of_nodup hasc.nodup_keys

theorem lookupEntry_isSome_iff :
    (lookupEntry k l).isSome = true ↔ k ∈ l.map Prod.fst := by
  induction l with
  | nil => simp [lookupEntry]
  | cons e rest ih =>
      rw [lookupEntry]
      by_cases hk : e.1 = k
      · simp [hk]
      · simp [hk, ih, Ne.symm hk]

theorem KeysAscend.nodup (h : KeysAscend l) : l.Nodup :=
  List.Pairwise.of_map Prod.fst (fun _ _ hne heq => hne (congrArg Prod.fst heq))
    h.nodup_keys

/-- The entries of a map are other pairs in some order exactly if its
lookups find these pairs. -/
theorem SortedMap.perm_entries_iff {m : SortedMap α} (hnodup : l.Nodup) :
    m.entries.Perm l ↔ ∀ k v, m.get? k = some v ↔ (k, v) ∈ l := by
  rw [List.perm_ext_iff_of_nodup m.ascending.nodup hnodup]
  constructor
  · intro h k v
    rw [get?, lookupEntry_eq_some_iff m.ascending]
    exact h (k, v)
  · intro h e
    rw [← h, get?, lookupEntry_eq_some_iff m.ascending]

theorem SortedMap.isEmpty_iff {m : SortedMap α} : m.isEmpty = true ↔ m = ∅ := by
  constructor
  · intro h
    have hnil : m.entries = [] := List.isEmpty_iff.mp h
    exact SortedMap.ext_get? fun k => by rw [SortedMap.get?, hnil]; rfl
  · rintro rfl
    rfl

/-! ## Maps of lists -/

theorem KeysAscend.map_values {f : α → β} (h : KeysAscend l) :
    KeysAscend (l.map fun e => (e.1, f e.2)) :=
  List.pairwise_map.mpr h

theorem SortedMap.get?_foldl_insert :
    ∀ {l : List (String × α)} {m : SortedMap α},
      KeysAscend l →
        (l.foldl (fun m e => m.insert e.1 e.2) m).get? k =
          (lookupEntry k l).or (m.get? k)
  | [], _, _ => rfl
  | e :: rest, m, h => by
      have hlt : ∀ d ∈ rest, e.1 < d.1 := fun _ => List.rel_of_pairwise_cons h
      rw [List.foldl_cons, get?_foldl_insert h.of_cons,
        get?_insert, lookupEntry]
      by_cases hk : e.1 = k
      · subst hk
        rw [lookupEntry_eq_none_of_lt hlt, if_pos rfl, if_pos rfl]
        rfl
      · rw [if_neg hk, if_neg hk]

/-- Entries in key order make the map that has just these entries. -/
theorem SortedMap.ofList_eq_mk (h : KeysAscend l) :
    SortedMap.ofList l = ⟨l, h⟩ := by
  refine SortedMap.ext_get? fun k => ?_
  rw [ofList, get?_foldl_insert h]
  exact Option.or_none

theorem SortedMap.ofList_entries (m : SortedMap α) :
    SortedMap.ofList m.entries = m :=
  ofList_eq_mk m.ascending

theorem SortedMap.ofList_snoc (l : List (String × α)) (e : String × α) :
    ofList (l ++ [e]) = (ofList l).insert e.1 e.2 := by
  rw [ofList, List.foldl_append]
  rfl

theorem SortedMap.contains_ofList_iff :
    (ofList l).contains k = true ↔ k ∈ l.map Prod.fst := by
  induction l using List.reverseRecOn with
  | nil => exact iff_of_false nofun List.not_mem_nil
  | append_singleton l e ih =>
      rw [ofList_snoc, contains, get?_insert, List.map_append,
        List.mem_append, ← ih]
      by_cases hk : e.1 = k
      · simp [hk]
      · simp [hk, Ne.symm hk, contains]

/-- Of equal keys the last one counts. -/
theorem SortedMap.get?_ofList (l : List (String × α)) (k : String) :
    (ofList l).get? k = lookupEntry k l.reverse := by
  induction l using List.reverseRecOn with
  | nil => rfl
  | append_singleton l e ih =>
      rw [ofList_snoc, get?_insert, ih, List.reverse_append,
        List.reverse_singleton, List.singleton_append, lookupEntry]

/-- What is made of the values may depend on the keys. -/
theorem lookupEntry_map_key (f : String → α → β) (k : String)
    (l : List (String × α)) :
    lookupEntry k (l.map fun e => (e.1, f e.1 e.2)) =
      (lookupEntry k l).map (f k) := by
  induction l with
  | nil => rfl
  | cons e rest ih =>
      rw [List.map_cons, lookupEntry, lookupEntry, ih]
      split
      · next hk => rw [hk, Option.map_some]
      · rfl

theorem lookupEntry_map (f : α → β) (k : String) (l : List (String × α)) :
    lookupEntry k (l.map fun e => (e.1, f e.2)) = (lookupEntry k l).map f :=
  lookupEntry_map_key (fun _ => f) k l

theorem lookupEntry_filter {p : String → Bool} (hk : p k = true)
    (l : List (String × α)) :
    lookupEntry k (l.filter fun e => p e.1) = lookupEntry k l := by
  induction l with
  | nil => rfl
  | cons e rest ih =>
      rw [List.filter_cons]
      by_cases he : e.1 = k
      · rw [if_pos (he ▸ hk), lookupEntry, lookupEntry, if_pos he, if_pos he]
      · rw [lookupEntry, if_neg he, ← ih]
        split
        · exact if_neg he
        · rfl

theorem SortedMap.ofList_map (f : α → β) (l : List (String × α)) :
    ofList (l.map fun e => (e.1, f e.2)) =
      ⟨(ofList l).entries.map fun e => (e.1, f e.2),
        (ofList l).ascending.map_values⟩ := by
  refine ext_get? fun k => ?_
  rw [get?_ofList, ← List.map_reverse, lookupEntry_map, ← get?_ofList]
  exact (lookupEntry_map f k (ofList l).entries).symm

/-! ## Passes over the entries -/

/-- Lists with the same keys are both in key order. -/
theorem KeysAscend.of_forall₂ {m : List (String × β)} (hl : KeysAscend l)
    (h : List.Forall₂ (fun e d => d.1 = e.1) l m) : KeysAscend m := by
  have hkeys : l.map Prod.fst = m.map Prod.fst := by
    rw [← List.forall₂_eq_eq_eq, List.forall₂_map_left_iff,
      List.forall₂_map_right_iff]
    exact h.imp fun _ _ hkey => hkey.symm
  have hsorted : (m.map Prod.fst).Pairwise (· < ·) :=
    hkeys ▸ List.pairwise_map.mpr hl
  exact List.pairwise_map.mp hsorted

namespace SortedMap

/-- Every value is good. -/
def All (good : α → Prop) (m : SortedMap α) : Prop := ∀ e ∈ m.entries, good e.2

/-- A value with its key, where all values under lesser keys are good. -/
structure FoundAfter (m : SortedMap α) (good : α → Prop) (k : String) (v : α) :
    Prop where
  found : m.get? k = some v
  lesser : ∀ j < k, ∀ u, m.get? j = some u → good u

theorem foundAfter_iff {m : SortedMap α} {good : α → Prop} :
    m.FoundAfter good k v ↔
      ∃ before after, m.entries = before ++ (k, v) :: after ∧
        ∀ e ∈ before, good e.2 := by
  constructor
  · rintro ⟨hfound, hlesser⟩
    obtain ⟨before, after, hsplit⟩ :=
      List.append_of_mem (mem_of_lookupEntry hfound)
    refine ⟨before, after, hsplit, fun e he => hlesser e.1 ?_ e.2 ?_⟩
    · exact (List.pairwise_append.mp (hsplit ▸ m.ascending)).2.2 e he _
        List.mem_cons_self
    · refine (lookupEntry_eq_some_iff m.ascending).mpr ?_
      exact hsplit ▸ List.mem_append_left _ he
  · rintro ⟨before, after, hsplit, hbefore⟩
    have hmem : (k, v) ∈ m.entries :=
      hsplit ▸ List.mem_append_right before List.mem_cons_self
    refine ⟨(lookupEntry_eq_some_iff m.ascending).mpr hmem, fun j hj u hu => ?_⟩
    have hasc : KeysAscend (before ++ (k, v) :: after) := hsplit ▸ m.ascending
    have hlater : ∀ e ∈ after, k < e.1 := fun _ =>
      List.rel_of_pairwise_cons (List.pairwise_append.mp hasc).2.1
    have hentry : (j, u) ∈ before ++ (k, v) :: after :=
      hsplit ▸ mem_of_lookupEntry hu
    rcases List.mem_append.mp hentry with hbefore' | hrest
    · exact hbefore _ hbefore'
    · rcases List.mem_cons.mp hrest with hsame | hafter
      · exact absurd ((Prod.mk.inj hsame).1 ▸ hj) (String.lt_irrefl _)
      · exact absurd (String.lt_trans hj (hlater _ hafter)) (String.lt_irrefl _)

/-- Makes a value anew. An error is told the key. -/
def remakeEntry {ε ε' : Type} (tag : String → ε → ε') (make : α → Except ε β)
    (d : String × α) :
    Except ε' (String × β) :=
  ((make d.2).mapError (tag d.1)).map fun b => (d.1, b)

/-- Makes each value anew, in the order of the keys. -/
def remake {ε ε' : Type} (tag : String → ε → ε') (make : α → Except ε β)
    (m : SortedMap α) :
    Except ε' (SortedMap β) :=
  (m.entries.mapM (remakeEntry tag make)).map ofList

section

variable {ε ε' : Type} {tag : String → ε → ε'} {make : α → Except ε β}
  {good : α → Prop} {m : SortedMap α}

theorem remakeEntry_eq_ok_iff {d : String × α} {e : String × β} :
    remakeEntry tag make d = .ok e ↔ e.1 = d.1 ∧ make d.2 = .ok e.2 := by
  simp only [remakeEntry, map_eq_ok, mapError_eq_ok]
  constructor
  · rintro ⟨b, hb, rfl⟩
    exact ⟨rfl, hb⟩
  · rintro ⟨hkey, hb⟩
    exact ⟨e.2, hb, Prod.ext hkey.symm rfl⟩

theorem keysAscend_remade {made : List (String × β)}
    (h : m.entries.mapM (remakeEntry tag make) = .ok made) : KeysAscend made :=
  m.ascending.of_forall₂
    ((mapM_eq_ok_iff.mp h).imp fun _ _ he => (remakeEntry_eq_ok_iff.mp he).1)

/-- What is made has the same keys, each with what is made of its value. -/
theorem remake_eq_ok_iff {n : SortedMap β} :
    m.remake tag make = .ok n ↔
      List.Forall₂ (fun d e => e.1 = d.1 ∧ make d.2 = .ok e.2)
        m.entries n.entries := by
  have hpass :
      List.Forall₂ (fun d e => e.1 = d.1 ∧ make d.2 = .ok e.2)
          m.entries n.entries ↔
        m.entries.mapM (remakeEntry tag make) = .ok n.entries := by
    simp only [mapM_eq_ok_iff, remakeEntry_eq_ok_iff]
  rw [hpass, remake, map_eq_ok]
  constructor
  · rintro ⟨made, hmade, rfl⟩
    rwa [ofList_eq_mk (keysAscend_remade hmade)]
  · exact fun h => ⟨n.entries, h, ofList_entries n⟩

/-- A pass that puts the made values into something one after the other, if that
depends on the map of them alone. -/
theorem foldlM_eq_map_remake {σ : Type} {add : σ → String × β → σ} {s : σ}
    {build : SortedMap β → σ}
    (hadd : ∀ n : SortedMap β, n.entries.foldl add s = build n) :
    m.entries.foldlM (fun s d => (remakeEntry tag make d).map (add s)) s =
      (m.remake tag make).map build := by
  rw [foldlM_eq_map_mapM, remake]
  cases hmade : m.entries.mapM (remakeEntry tag make) with
  | error e => rfl
  | ok made =>
      have hmap : ofList made = ⟨made, keysAscend_remade hmade⟩ :=
        ofList_eq_mk _
      exact congrArg Except.ok
        ((hadd ⟨made, _⟩).trans (congrArg build hmap.symm))

theorem exists_remake_iff (hgood : ∀ a, (∃ b, make a = .ok b) ↔ good a) :
    (∃ n, m.remake tag make = .ok n) ↔ m.All good := by
  rw [remake, exists_map_eq_ok_iff, exists_mapM_eq_ok_iff]
  refine forall₂_congr fun d _ => ?_
  rw [remakeEntry, exists_map_eq_ok_iff, ← hgood]
  exact exists_congr fun _ => mapError_eq_ok

/-- It fails at the least key whose value is not good. -/
theorem remake_eq_error_iff (hgood : ∀ a, (∃ b, make a = .ok b) ↔ good a)
    {e : ε'} :
    m.remake tag make = .error e ↔
      ∃ k v cause, m.FoundAfter good k v ∧ make v = .error cause ∧
        tag k cause = e := by
  rw [remake, map_eq_error]
  simp only [mapM_eq_error_iff, remakeEntry, exists_map_eq_ok_iff, map_eq_error,
    mapError_eq_ok, mapError_eq_error, hgood, foundAfter_iff]
  constructor
  · rintro ⟨before, d, after, hsplit, hbefore, cause, hcause, htag⟩
    exact ⟨d.1, d.2, cause, ⟨before, after, hsplit, hbefore⟩, hcause, htag⟩
  · rintro ⟨k, v, cause, ⟨before, after, hsplit, hbefore⟩, hcause, htag⟩
    exact ⟨before, (k, v), after, hsplit, hbefore, cause, hcause, htag⟩

end

end SortedMap

/-! ## Picking entries -/

/-- Picking entries and changing their values. -/
def pickEntries (f : String → α → Option β) (l : List (String × α)) :
    List (String × β) :=
  l.filterMap fun e => (f e.1 e.2).map fun b => (e.1, b)

theorem keysAscend_pickEntries (f : String → α → Option β) (h : KeysAscend l) :
    KeysAscend (pickEntries f l) := by
  refine List.Pairwise.filterMap _ (fun a b hab c hc d hd => ?_) h
  obtain ⟨c, -, rfl⟩ := Option.map_eq_some_iff.mp hc
  obtain ⟨d, -, rfl⟩ := Option.map_eq_some_iff.mp hd
  exact hab

theorem lookupEntry_pickEntries (f : String → α → Option β) (h : KeysAscend l) :
    lookupEntry k (pickEntries f l) = (lookupEntry k l).bind (f k) := by
  ext b
  rw [lookupEntry_eq_some_iff (keysAscend_pickEntries f h), pickEntries,
    List.mem_filterMap, Option.bind_eq_some_iff]
  constructor
  · rintro ⟨e, he, hb⟩
    obtain ⟨c, hc, heq⟩ := Option.map_eq_some_iff.mp hb
    obtain ⟨rfl, rfl⟩ := Prod.mk.inj heq
    exact ⟨e.2, (lookupEntry_eq_some_iff h).mpr he, hc⟩
  · rintro ⟨a, ha, hb⟩
    exact ⟨(k, a), (lookupEntry_eq_some_iff h).mp ha, by simp [hb]⟩

theorem pickEntries_congr {f g : String → α → Option β}
    (h : ∀ e ∈ l, f e.1 e.2 = g e.1 e.2) : pickEntries f l = pickEntries g l :=
  List.filterMap_congr fun e he => by rw [h e he]

/-- Picking everything as it is. -/
theorem pickEntries_some (l : List (String × α)) :
    pickEntries (fun _ => some) l = l := by
  simp [pickEntries]

/-- What is picked is picked again as it is if that holds of every value. -/
theorem pickEntries_pickEntries {f : String → α → Option α}
    (h : ∀ e ∈ l, ∀ b, f e.1 e.2 = some b → f e.1 b = some b) :
    pickEntries f (pickEntries f l) = pickEntries f l := by
  rw [pickEntries, pickEntries, List.filterMap_filterMap]
  refine List.filterMap_congr fun e he => ?_
  cases hb : f e.1 e.2 with
  | none => rfl
  | some b => simp [h e he b hb]

end ClusterGate
