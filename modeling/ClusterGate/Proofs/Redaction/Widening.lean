import ClusterGate.Proofs.Json.Within
import ClusterGate.Proofs.Redaction.Filter
import ClusterGate.Proofs.Redaction.Redact

/-!
# Widening an allow-list

What an allow-list leaves of a response lies within the response, and the
more steps it is built by, the more it leaves. A further step may add a
root, add paths that begin like others, or let a root with paths be kept
whole.

Two filters are compared by the paths that their nodes hold. Where all are
held in the second case too (`HoldsAll`), a key leads from there to nodes
for which the same is true, and so whatever is kept lies within what the
second filter keeps.
-/

namespace ClusterGate

open Json FieldPath PathTree Allowance

/-! ## The filter and the whole value -/

theorem keptWithin_keepReached_some {reached : List PathTree} {v : Json}
    (h : KeptWithin (filterValue reached v) (some v)) :
    KeptWithin (keepReached reached v) (some v) := by
  rw [keepReached]
  split
  · exact keptWithin_some fun x hx => Option.some.inj hx ▸ within_refl v
  · exact h

theorem within_filterFields {fields : List (String × Json)}
    (hasc : KeysAscend fields)
    (h : ∀ e ∈ fields, ∀ nodes, KeptWithin (filterValue nodes e.2) (some e.2))
    (nodes : List PathTree) :
    Within (.obj (filterFields nodes fields)) (.obj fields) := by
  have hwithin : Within
      (.obj (pickEntries
        (fun key => keepReached (nodes.flatMap (·.childrenFor key))) fields))
      (.obj (pickEntries (fun _ => some) fields)) :=
    within_pickEntries hasc fun e he => keptWithin_keepReached_some (h e he _)
  rwa [← filterFields_eq_pickEntries, pickEntries_some] at hwithin

/-- What is left of a value lies within it. -/
theorem keptWithin_filterValue_some {v : Json} : v.Canonical → ∀ nodes,
    KeptWithin (filterValue nodes v) (some v) := by
  induction v using induction_members with
  | null => simp [filterValue, KeptWithin]
  | bool b => simp [filterValue, KeptWithin]
  | num n => simp [filterValue, KeptWithin]
  | str s => simp [filterValue, KeptWithin]
  | arr items ih =>
      intro hcan nodes
      have hitems :
          ItemsWithin (items.filterMap (keepItem nodes))
            (items.filterMap some) :=
        itemsWithin_filterMap fun v hv x hx =>
          ih v hv (canonical_of_mem_items hcan hv) nodes x
            (filterValue_of_keepItem hx)
      rw [← filterItems_eq_filterMap, List.filterMap_some] at hitems
      refine keptWithin_some fun x hx => ?_
      obtain ⟨-, rfl⟩ := filterValue_arr_eq_some_iff.mp hx
      exact .arr hitems
  | obj fields ih =>
      intro hcan nodes
      have hfields := within_filterFields hcan.1
        (fun e he => ih e he (canonical_of_mem hcan.2 he)) nodes
      refine keptWithin_some fun x hx => ?_
      obtain ⟨-, rfl⟩ := filterValue_obj_eq_some_iff.mp hx
      exact hfields

/-! ## Two filters -/

/-- Every path that one of the first nodes holds is held by one of the
second. -/
def HoldsAll (nodes wider : List PathTree) : Prop :=
  ∀ path, AnyHolds nodes path → AnyHolds wider path

section

variable {nodes wider : List PathTree}

theorem HoldsAll.childrenFor (h : HoldsAll nodes wider) (key : String) :
    HoldsAll (nodes.flatMap (·.childrenFor key))
      (wider.flatMap (·.childrenFor key)) := by
  intro path hpath
  obtain ⟨segment, hmatch, hsegment⟩ := anyHolds_childrenFor.mp hpath
  exact anyHolds_childrenFor.mpr ⟨segment, hmatch, h _ hsegment⟩

theorem HoldsAll.terminal (h : HoldsAll nodes wider)
    (hterm : nodes.any PathTree.terminal = true) :
    wider.any PathTree.terminal = true :=
  anyHolds_nil.mp (h [] (anyHolds_nil.mpr hterm))

theorem HoldsAll.keptWithin_keepReached {v : Json} (h : HoldsAll nodes wider)
    (hcan : v.Canonical)
    (hv : KeptWithin (filterValue nodes v) (filterValue wider v)) :
    KeptWithin (keepReached nodes v) (keepReached wider v) := by
  rw [keepReached, keepReached]
  by_cases hwider : wider.any PathTree.terminal = true
  · rw [if_pos hwider]
    exact keptWithin_keepReached_some (keptWithin_filterValue_some hcan nodes)
  · rw [if_neg hwider, if_neg (mt h.terminal hwider)]
    exact hv

theorem HoldsAll.within_filterFields {fields : List (String × Json)}
    (h : HoldsAll nodes wider) (hcan : (Json.obj fields).Canonical)
    (hfields : ∀ e ∈ fields, ∀ {nodes wider}, HoldsAll nodes wider →
      KeptWithin (filterValue nodes e.2) (filterValue wider e.2)) :
    Within (.obj (filterFields nodes fields))
      (.obj (filterFields wider fields)) := by
  rw [filterFields_eq_pickEntries, filterFields_eq_pickEntries]
  refine within_pickEntries hcan.1 fun e he => ?_
  have hreach := h.childrenFor e.1
  exact hreach.keptWithin_keepReached (canonical_of_mem hcan.2 he)
    (hfields e he hreach)

end

/-- **Wider filters.** A filter whose nodes hold all paths of another one
leaves at least as much. -/
theorem HoldsAll.keptWithin_filterValue {v : Json} :
    v.Canonical → ∀ {nodes wider},
    HoldsAll nodes wider →
    KeptWithin (filterValue nodes v) (filterValue wider v) := by
  induction v using induction_members with
  | null => simp [filterValue, KeptWithin]
  | bool b => simp [filterValue, KeptWithin]
  | num n => simp [filterValue, KeptWithin]
  | str s => simp [filterValue, KeptWithin]
  | arr items ih =>
      intro hcan nodes wider h x hx
      have hitems :
          ItemsWithin (filterItems nodes items) (filterItems wider items) := by
        rw [filterItems_eq_filterMap, filterItems_eq_filterMap]
        refine itemsWithin_filterMap fun v hv => ?_
        have hkept := ih v hv (canonical_of_mem_items hcan hv) h
        cases v with
        | obj fields => exact hkept
        | _ => simp [keepItem, KeptWithin]
      obtain ⟨hne, rfl⟩ := filterValue_arr_eq_some_iff.mp hx
      have hwider : filterItems wider items ≠ [] := by
        intro hnil
        rw [hnil] at hitems
        exact hne (eq_nil_of_itemsWithin_nil hitems)
      exact ⟨_, filterValue_arr_eq_some_iff.mpr ⟨hwider, rfl⟩, .arr hitems⟩
  | obj fields ih =>
      intro hcan nodes wider h x hx
      have hfields :=
        h.within_filterFields hcan fun e he =>
          ih e he (canonical_of_mem hcan.2 he)
      obtain ⟨hne, rfl⟩ := filterValue_obj_eq_some_iff.mp hx
      have hwider : filterFields wider fields ≠ [] := by
        intro hnil
        rw [hnil] at hfields
        exact hne (eq_nil_of_within_nil hfields)
      exact ⟨_, filterValue_obj_eq_some_iff.mpr ⟨hwider, rfl⟩, hfields⟩

/-! ## Rules of roots -/

theorem within_keep (rule : RootRule) {value : Json} (hcan : value.Canonical) :
    Within (rule.keep value) value := by
  cases rule with
  | whole => exact within_refl value
  | along paths tree =>
      cases value with
      | obj fields =>
          exact within_filterFields hcan.1
            (fun e he => keptWithin_filterValue_some
              (canonical_of_mem hcan.2 he)) [tree]
      | _ => exact within_refl _

theorem holdsAll_ofPaths {paths more : List FieldPath}
    (h : ∀ path ∈ paths, path ∈ more) :
    HoldsAll [PathTree.ofPaths paths] [PathTree.ofPaths more] := by
  intro segments hholds
  obtain ⟨path, hpath, hsegments⟩ := anyHolds_ofPaths.mp hholds
  exact anyHolds_ofPaths.mpr ⟨path, h path hpath, hsegments⟩

theorem within_keep_along {paths more : List FieldPath}
    (h : ∀ path ∈ paths, path ∈ more) {value : Json} (hcan : value.Canonical) :
    Within ((RootRule.along paths (PathTree.ofPaths paths)).keep value)
      ((RootRule.along more (PathTree.ofPaths more)).keep value) := by
  cases value with
  | obj fields =>
      exact (holdsAll_ofPaths h).within_filterFields hcan fun e he =>
        HoldsAll.keptWithin_filterValue (canonical_of_mem hcan.2 he)
  | _ => exact within_refl _

namespace Allowance

variable {steps more : List Allowance} {root : String}

theorem Mentions.mono (h : Mentions steps root) (hmore : steps ⊆ more) :
    Mentions more root := by
  obtain ⟨s, hs, htarget⟩ := h
  exact ⟨s, hmore hs, htarget⟩

theorem AllowWhole.mono (h : AllowWhole steps root) (hmore : steps ⊆ more) :
    AllowWhole more root := by
  obtain ⟨s, hs, hwhole⟩ := h
  exact ⟨s, hmore hs, hwhole⟩

theorem AllowPath.mono {path : FieldPath} (h : AllowPath steps root path)
    (hmore : steps ⊆ more) :
    AllowPath more root path := by
  obtain ⟨s, hs, hpath⟩ := h
  exact ⟨s, hmore hs, hpath⟩

end Allowance

/-- Of two rules for a root, the one that more steps ask for keeps at least
as much. -/
theorem RootRule.AsksFor.exists_wider {steps more : List Allowance}
    {root : String} {rule : RootRule} {rule' : Option RootRule}
    (h : AsksFor steps root (some rule)) (h' : AsksFor more root rule')
    (hmore : steps ⊆ more) :
    ∃ wider, rule' = some wider ∧
      ∀ value : Json, value.Canonical →
        Within (rule.keep value) (wider.keep value) := by
  have hmen : Mentions more root := (h.mentions_iff.mpr rfl).mono hmore
  by_cases hwhole : AllowWhole more root
  · exact ⟨.whole, h'.eq_whole hwhole, fun value hcan => within_keep rule hcan⟩
  · have hnot : ¬ AllowWhole steps root := fun hw => hwhole (hw.mono hmore)
    obtain ⟨paths, hrule, hpaths⟩ := h.eq_along (h.mentions_iff.mpr rfl) hnot
    obtain ⟨paths', hrule', hpaths'⟩ := h'.eq_along hmen hwhole
    have hsub : ∀ path ∈ paths, path ∈ paths' := by
      intro path hpath
      exact (hpaths' path).mpr (((hpaths path).mp hpath).mono hmore)
    obtain rfl := Option.some.inj hrule
    exact ⟨_, hrule', fun value hcan => within_keep_along hsub hcan⟩

/-! ## Responses -/

namespace AllowList

variable {steps : List Allowance} {list : AllowList}

/-- Steps leave a list empty only where there are none. -/
theorem isEmpty_build_iff (h : build steps = .ok list) :
    list.isEmpty = true ↔ steps = [] := by
  constructor
  · intro hempty
    have hroots : list.roots = ∅ := SortedMap.isEmpty_iff.mp hempty
    by_contra hne
    obtain ⟨s, hs⟩ := List.exists_mem_of_ne_nil steps hne
    have hasks := asksFor_build h s.target
    rw [hroots] at hasks
    exact hasks ⟨s, hs, rfl⟩
  · rintro rfl
    obtain rfl := Except.ok.inj h
    rfl

theorem build_snoc {s : Allowance} {wider : AllowList}
    (h : build steps = .ok list) (hs : s.extend list = .ok wider) :
    build (steps ++ [s]) = .ok wider := by
  rw [build] at h ⊢
  rw [List.foldlM_append, h]
  exact bind_eq_ok.mpr ⟨list, rfl, bind_eq_ok.mpr ⟨wider, hs, rfl⟩⟩

end AllowList

theorem within_redact_raw {list : AllowList} {fields : List (String × Json)}
    (hne : list.isEmpty = false) (hraw : (Json.obj fields).Canonical) :
    Within (redact (.obj fields) list) (.obj fields) := by
  rw [redact_eq_obj hne, within_obj_iff]
  intro root x hx
  rw [lookupEntry_keptRoots] at hx
  obtain ⟨rule, -, hx⟩ := Option.bind_eq_some_iff.mp hx
  obtain ⟨value, hvalue, rfl⟩ := Option.map_eq_some_iff.mp hx
  exact ⟨value, hvalue, within_keep rule (canonical_of_field? hraw hvalue)⟩

/-- Whatever is added to the steps that a list is built by, and wherever,
nothing of what it leaves is lost. -/
theorem within_redact_of_subset {steps more : List Allowance}
    {list wider : AllowList} {raw : Json}
    (hlist : AllowList.build steps = .ok list)
    (hwider : AllowList.build more = .ok wider) (hmore : steps ⊆ more)
    (hne : list.isEmpty = false) (hraw : raw.Canonical) :
    Within (redact raw list) (redact raw wider) := by
  have hne' : wider.isEmpty = false := by
    rw [← Bool.not_eq_true, AllowList.isEmpty_build_iff hlist] at hne
    rw [← Bool.not_eq_true, AllowList.isEmpty_build_iff hwider]
    rintro rfl
    exact hne (List.subset_nil.mp hmore)
  rw [redact_eq_obj hne, redact_eq_obj hne', within_obj_iff]
  intro root x hx
  rw [lookupEntry_keptRoots] at hx
  obtain ⟨rule, hrule, hx⟩ := Option.bind_eq_some_iff.mp hx
  obtain ⟨value, hvalue, rfl⟩ := Option.map_eq_some_iff.mp hx
  have hasks : RootRule.AsksFor steps root (some rule) :=
    hrule ▸ AllowList.asksFor_build hlist root
  obtain ⟨rule', hrule', hkeep⟩ :=
    hasks.exists_wider (AllowList.asksFor_build hwider root) hmore
  refine ⟨rule'.keep value, ?_, hkeep value (canonical_of_field? hraw hvalue)⟩
  rw [lookupEntry_keptRoots, hrule', hvalue]
  rfl

/-- **Widening a list.** A further step loses nothing of what a list leaves
of a response, unless the list is empty, and adds nothing that is not in the
response. -/
theorem redact_within_of_extend {steps : List Allowance} {s : Allowance}
    {list wider : AllowList} {raw : Json}
    (hlist : AllowList.build steps = .ok list) (hne : list.isEmpty = false)
    (hs : s.extend list = .ok wider) (hraw : raw.Canonical) :
    Within (redact raw list) (redact raw wider) ∧
      ((∃ fields, raw = .obj fields) → Within (redact raw wider) raw) := by
  have hwider := AllowList.build_snoc hlist hs
  refine ⟨within_redact_of_subset hlist hwider
    (List.subset_append_left steps [s]) hne hraw, ?_⟩
  rintro ⟨fields, rfl⟩
  refine within_redact_raw ?_ hraw
  rw [← Bool.not_eq_true, AllowList.isEmpty_build_iff hwider]
  exact List.append_ne_nil_of_right_ne_nil steps (List.cons_ne_nil s [])

/-- Rows are kept for their addresses as well. -/
theorem redact_within_of_extend_nodes :
    ∃ list wider, AllowList.build nodeSteps = .ok list ∧ list.isEmpty = false ∧
      (Allowance.paths "nodes" ["*.rows.ip"]).extend list = .ok wider ∧
      nodeResponse.Canonical ∧
      redact nodeResponse list ≠ redact nodeResponse wider ∧
      Within (redact nodeResponse list) (redact nodeResponse wider) ∧
      Within (redact nodeResponse wider) nodeResponse := by
  obtain ⟨list, hlist⟩ : ∃ list, AllowList.build nodeSteps = .ok list :=
    ⟨_, rfl⟩
  obtain ⟨wider, hwider⟩ : ∃ wider,
      (Allowance.paths "nodes" ["*.rows.ip"]).extend list = .ok wider := by
    obtain rfl := Except.ok.inj hlist
    exact ⟨_, rfl⟩
  have hne : list.isEmpty = false := by
    obtain rfl := Except.ok.inj hlist
    rfl
  have hcan : nodeResponse.Canonical := by
    simp only [nodeResponse, Canonical, CanonicalFields,
      CanonicalItems, KeysAscend]
    decide
  obtain ⟨hlost, hadded⟩ := redact_within_of_extend hlist hne hwider hcan
  refine ⟨list, wider, hlist, hne, hwider, hcan, ?_, hlost, hadded ⟨_, rfl⟩⟩
  obtain rfl := Except.ok.inj hlist
  obtain rfl := Except.ok.inj hwider
  decide

end ClusterGate
