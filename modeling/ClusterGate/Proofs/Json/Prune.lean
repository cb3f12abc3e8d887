import ClusterGate.Proofs.Json.Leaves
import ClusterGate.Proofs.SortedMap

/-!
# Pruning a document

`prune keep` keeps the leaves at the positions that `keep` holds of and
drops every container in which nothing is left. What that does to the
positions is said by `renumber`: keys stay, and an index counts the items
before it that have a leaf left. The headline is `leaves_prune`: the
leaves of the pruned document are the leaves that were to be kept, in
order, at their renumbered positions.
-/

namespace ClusterGate

namespace Json

/-! ## Pruning -/

mutual

/-- What is left of a value when only the leaves at the positions in `keep`
stay. -/
def prune (keep : Position → Bool) : Json → Option Json
  | .obj fields =>
    if fields.isEmpty then (if keep [] then some (.obj []) else none)
    else
      let kept := pruneFields keep fields
      if kept.isEmpty then none else some (.obj kept)
  | .arr items =>
    if items.isEmpty then (if keep [] then some (.arr []) else none)
    else
      let kept := pruneItems keep 0 items
      if kept.isEmpty then none else some (.arr kept)
  | value => if keep [] then some value else none

def pruneFields (keep : Position → Bool) :
    List (String × Json) → List (String × Json)
  | [] => []
  | (key, value) :: rest =>
    match prune (fun p => keep (.key key :: p)) value with
    | some kept => (key, kept) :: pruneFields keep rest
    | none => pruneFields keep rest

def pruneItems (keep : Position → Bool) (i : Nat) : List Json → List Json
  | [] => []
  | value :: rest =>
    match prune (fun p => keep (.item i :: p)) value with
    | some kept => kept :: pruneItems keep (i + 1) rest
    | none => pruneItems keep (i + 1) rest

end

/-- What follows `step` in those positions that begin with it. -/
def tailsAfter (step : Step) (positions : List Position) : List Position :=
  positions.filterMap fun
    | [] => none
    | s :: rest => if s = step then some rest else none

/-- Where a position stands when only the positions in `stay` are left. -/
def renumber : List Position → Position → Position
  | _, [] => []
  | stay, .key key :: rest =>
      .key key :: renumber (tailsAfter (.key key) stay) rest
  | stay, .item i :: rest =>
    .item ((List.range i).countP
      fun j => !(tailsAfter (.item j) stay).isEmpty) ::
      renumber (tailsAfter (.item i) stay) rest

/-- A leaf at its place among the positions in `stay`. -/
def moved (stay : List Position) (e : Position × Json) : Position × Json :=
  (renumber stay e.1, e.2)

/-- The leaves at the positions in `keep`. -/
def staying (keep : Position → Bool) (all : List (Position × Json)) :
    List (Position × Json) :=
  all.filter fun e => keep e.1

/-! ## What is pruned away -/

mutual

/-- Nothing is left exactly if no leaf was to be kept. -/
theorem prune_eq_none_iff :
    ∀ {v : Json} {keep : Position → Bool},
      prune keep v = none ↔ ∀ e ∈ leaves v, keep e.1 = false
  | .null, _ => by simp [prune, leaves]
  | .bool _, _ => by simp [prune, leaves]
  | .num _, _ => by simp [prune, leaves]
  | .str _, _ => by simp [prune, leaves]
  | .obj [], _ => by simp [prune, leaves]
  | .arr [], _ => by simp [prune, leaves]
  | .obj (f :: rest), keep => by
      have h : pruneFields keep (f :: rest) = [] ↔
          ∀ e ∈ leavesOfFields (f :: rest), keep e.1 = false :=
        pruneFields_eq_nil_iff
      simpa [prune, leaves] using h
  | .arr (v :: rest), keep => by
      have h : pruneItems keep 0 (v :: rest) = [] ↔
          ∀ e ∈ leavesOfItems 0 (v :: rest), keep e.1 = false :=
        pruneItems_eq_nil_iff
      simpa [prune, leaves] using h

theorem pruneFields_eq_nil_iff :
    ∀ {fields : List (String × Json)} {keep : Position → Bool},
      pruneFields keep fields = [] ↔
        ∀ e ∈ leavesOfFields fields, keep e.1 = false
  | [], _ => by simp [pruneFields, leavesOfFields]
  | (key, v) :: rest, keep => by
      have hv : prune (fun p => keep (.key key :: p)) v = none ↔
          ∀ e ∈ leaves v, keep (.key key :: e.1) = false := prune_eq_none_iff
      have hrest : pruneFields keep rest = [] ↔
          ∀ e ∈ leavesOfFields rest, keep e.1 = false := pruneFields_eq_nil_iff
      simp only [leavesOfFields, List.forall_mem_append, List.forall_mem_map,
        under, ← hrest, ← hv]
      cases h : prune (fun p => keep (.key key :: p)) v <;>
        simp [pruneFields, h]

theorem pruneItems_eq_nil_iff :
    ∀ {items : List Json} {keep : Position → Bool} {i : Nat},
      pruneItems keep i items = [] ↔
        ∀ e ∈ leavesOfItems i items, keep e.1 = false
  | [], _, _ => by simp [pruneItems, leavesOfItems]
  | v :: rest, keep, i => by
      have hv : prune (fun p => keep (.item i :: p)) v = none ↔
          ∀ e ∈ leaves v, keep (.item i :: e.1) = false := prune_eq_none_iff
      have hrest : pruneItems keep (i + 1) rest = [] ↔
          ∀ e ∈ leavesOfItems (i + 1) rest, keep e.1 = false :=
        pruneItems_eq_nil_iff
      simp only [leavesOfItems, List.forall_mem_append, List.forall_mem_map,
        under, ← hrest, ← hv]
      cases h : prune (fun p => keep (.item i :: p)) v <;> simp [pruneItems, h]

end

mutual

/-- A value all of whose leaves are kept stays as it is. -/
theorem prune_eq_self : ∀ {v : Json} {keep : Position → Bool},
    (∀ p, keep p = true) → prune keep v = some v
  | .null, _, h => by simp [prune, h]
  | .bool _, _, h => by simp [prune, h]
  | .num _, _, h => by simp [prune, h]
  | .str _, _, h => by simp [prune, h]
  | .obj [], _, h => by simp [prune, h]
  | .arr [], _, h => by simp [prune, h]
  | .obj (f :: rest), keep, h => by
      have hfields : pruneFields keep (f :: rest) = f :: rest :=
        pruneFields_eq_self h
      simp [prune, hfields]
  | .arr (v :: rest), keep, h => by
      have hitems : pruneItems keep 0 (v :: rest) = v :: rest :=
        pruneItems_eq_self h
      simp [prune, hitems]

theorem pruneFields_eq_self :
    ∀ {fields : List (String × Json)} {keep : Position → Bool},
      (∀ p, keep p = true) → pruneFields keep fields = fields
  | [], _, _ => rfl
  | (key, v) :: rest, keep, h => by
      have hv : prune (fun p => keep (.key key :: p)) v = some v :=
        prune_eq_self fun p => h _
      have hrest : pruneFields keep rest = rest := pruneFields_eq_self h
      simp [pruneFields, hv, hrest]

theorem pruneItems_eq_self :
    ∀ {items : List Json} {keep : Position → Bool} {i : Nat},
      (∀ p, keep p = true) → pruneItems keep i items = items
  | [], _, _, _ => rfl
  | v :: rest, keep, i, h => by
      have hv : prune (fun p => keep (.item i :: p)) v = some v :=
        prune_eq_self fun p => h _
      have hrest : pruneItems keep (i + 1) rest = rest := pruneItems_eq_self h
      simp [pruneItems, hv, hrest]

end

/-! ## Canonical values -/

theorem canonical_of_mem {fields : List (String × Json)} {e : String × Json}
    (h : CanonicalFields fields) (he : e ∈ fields) : e.2.Canonical := by
  induction fields with
  | nil => cases he
  | cons f rest ih =>
      rcases List.mem_cons.mp he with rfl | he
      · exact h.1
      · exact ih h.2 he

theorem keys_pruneFields_sublist (keep : Position → Bool)
    (fields : List (String × Json)) :
    ((pruneFields keep fields).map Prod.fst).Sublist (fields.map Prod.fst) := by
  induction fields with
  | nil => exact .slnil
  | cons f rest ih =>
      rw [pruneFields]
      cases prune (fun p => keep (.key f.1 :: p)) f.2 with
      | none => exact .cons _ ih
      | some w => exact .cons_cons _ ih

mutual

theorem canonical_prune :
    ∀ {v w : Json} {keep : Position → Bool}, v.Canonical →
      prune keep v = some w → w.Canonical
  | .null, w, keep, _, h => by
      obtain ⟨-, rfl⟩ : keep [] = true ∧ .null = w := by simpa [prune] using h
      trivial
  | .bool b, w, keep, _, h => by
      obtain ⟨-, rfl⟩ : keep [] = true ∧ .bool b = w := by simpa [prune] using h
      trivial
  | .num n, w, keep, _, h => by
      obtain ⟨-, rfl⟩ : keep [] = true ∧ .num n = w := by simpa [prune] using h
      trivial
  | .str s, w, keep, _, h => by
      obtain ⟨-, rfl⟩ : keep [] = true ∧ .str s = w := by simpa [prune] using h
      trivial
  | .obj [], w, keep, hcan, h => by
      obtain ⟨-, rfl⟩ : keep [] = true ∧ .obj [] = w := by simpa [prune] using h
      exact hcan
  | .arr [], w, keep, hcan, h => by
      obtain ⟨-, rfl⟩ : keep [] = true ∧ .arr [] = w := by simpa [prune] using h
      exact hcan
  | .obj (f :: rest), w, keep, hcan, h => by
      obtain ⟨-, rfl⟩ : ¬ pruneFields keep (f :: rest) = [] ∧
          .obj (pruneFields keep (f :: rest)) = w := by simpa [prune] using h
      have hkeys := (List.pairwise_map.mpr hcan.1).sublist
        (keys_pruneFields_sublist keep (f :: rest))
      exact ⟨List.pairwise_map.mp hkeys, canonicalFields_prune hcan.2⟩
  | .arr (v :: rest), w, keep, hcan, h => by
      obtain ⟨-, rfl⟩ : ¬ pruneItems keep 0 (v :: rest) = [] ∧
          .arr (pruneItems keep 0 (v :: rest)) = w := by simpa [prune] using h
      exact canonicalItems_prune hcan

theorem canonicalFields_prune :
    ∀ {fields : List (String × Json)} {keep : Position → Bool},
      CanonicalFields fields → CanonicalFields (pruneFields keep fields)
  | [], _, h => h
  | (key, v) :: rest, keep, h => by
      have hrest : CanonicalFields (pruneFields keep rest) :=
        canonicalFields_prune h.2
      rw [pruneFields]
      cases hv : prune (fun p => keep (.key key :: p)) v with
      | none => exact hrest
      | some w => exact ⟨canonical_prune h.1 hv, hrest⟩

theorem canonicalItems_prune :
    ∀ {items : List Json} {keep : Position → Bool} {i : Nat},
      CanonicalItems items → CanonicalItems (pruneItems keep i items)
  | [], _, _, h => h
  | v :: rest, keep, i, h => by
      have hrest : CanonicalItems (pruneItems keep (i + 1) rest) :=
        canonicalItems_prune h.2
      rw [pruneItems]
      cases hv : prune (fun p => keep (.item i :: p)) v with
      | none => exact hrest
      | some w => exact ⟨canonical_prune h.1 hv, hrest⟩

end

/-! ## Positions of what stays -/

theorem staying_append (keep : Position → Bool) (a b : List (Position × Json)) :
    staying keep (a ++ b) = staying keep a ++ staying keep b := by
  simp [staying]

theorem staying_map_under (keep : Position → Bool) (step : Step)
    (all : List (Position × Json)) :
    staying keep (all.map (under step)) =
      (staying (fun p => keep (step :: p)) all).map (under step) := by
  simp only [staying, List.filter_map]
  rfl

theorem tailsAfter_append (step : Step) (a b : List Position) :
    tailsAfter step (a ++ b) = tailsAfter step a ++ tailsAfter step b := by
  simp [tailsAfter]

theorem tailsAfter_under_self (step : Step) (all : List (Position × Json)) :
    tailsAfter step ((all.map (under step)).map Prod.fst) =
      all.map Prod.fst := by
  induction all with
  | nil => rfl
  | cons e rest ih => simpa [tailsAfter, under] using ih

theorem tailsAfter_under_ne {step other : Step} (h : other ≠ step)
    (all : List (Position × Json)) :
    tailsAfter step ((all.map (under other)).map Prod.fst) = [] := by
  simp [tailsAfter, under, h]

/-- Nothing stays under a key that an object does not have. -/
theorem tailsAfter_fields_of_notMem {keep : Position → Bool} {key : String} :
    ∀ {fields : List (String × Json)}, key ∉ fields.map Prod.fst →
      tailsAfter (.key key)
        ((staying keep (leavesOfFields fields)).map Prod.fst) = []
  | [], _ => rfl
  | (k, v) :: rest, h => by
      obtain ⟨hk, hrest⟩ := not_or.mp (mt List.mem_cons.mpr h)
      rw [leavesOfFields, staying_append, staying_map_under, List.map_append,
        tailsAfter_append, tailsAfter_under_ne (by simpa using Ne.symm hk),
        tailsAfter_fields_of_notMem hrest, List.append_nil]

/-- What stays under a key of an object is what stays of the value there. -/
theorem tailsAfter_fields {keep : Position → Bool} {key : String} {v : Json} :
    ∀ {fields : List (String × Json)}, KeysAscend fields → (key, v) ∈ fields →
      tailsAfter (.key key)
        ((staying keep (leavesOfFields fields)).map Prod.fst) =
          (staying (fun p => keep (.key key :: p)) (leaves v)).map Prod.fst
  | (k, w) :: rest, hasc, hmem => by
      have hlt : ∀ e ∈ rest, k < e.1 := fun _ => List.rel_of_pairwise_cons hasc
      rw [leavesOfFields, staying_append, staying_map_under, List.map_append,
        tailsAfter_append]
      rcases List.mem_cons.mp hmem with heq | hin
      · obtain ⟨rfl, rfl⟩ := Prod.mk.inj heq
        rw [tailsAfter_under_self,
          tailsAfter_fields_of_notMem (notMem_keys_of_lt hlt), List.append_nil]
      · have hne : Step.key k ≠ .key key := fun h => by
          obtain rfl := Step.key.inj h
          exact String.lt_irrefl _ (hlt _ hin)
        rw [tailsAfter_under_ne hne,
          tailsAfter_fields (List.Pairwise.of_cons hasc) hin, List.nil_append]

theorem tailsAfter_items_of_lt {keep : Position → Bool} {j : Nat} :
    ∀ {items : List Json} {i : Nat}, j < i →
      tailsAfter (.item j)
        ((staying keep (leavesOfItems i items)).map Prod.fst) = []
  | [], _, _ => rfl
  | v :: rest, i, h => by
      have hne : Step.item i ≠ .item j := fun heq => by
        have := Step.item.inj heq
        omega
      rw [leavesOfItems, staying_append, staying_map_under, List.map_append,
        tailsAfter_append, tailsAfter_under_ne hne,
        tailsAfter_items_of_lt (Nat.lt_succ_of_lt h), List.append_nil]

/-- What stays under an index of an array is what stays of the item there. -/
theorem tailsAfter_items {keep : Position → Bool} {v : Json} :
    ∀ {items : List Json} {i n : Nat}, items[n]? = some v →
      tailsAfter (.item (i + n))
        ((staying keep (leavesOfItems i items)).map Prod.fst) =
          (staying (fun p => keep (.item (i + n) :: p)) (leaves v)).map Prod.fst
  | w :: rest, i, 0, h => by
      obtain rfl := Option.some.inj h
      rw [leavesOfItems, staying_append, staying_map_under, List.map_append,
        tailsAfter_append, Nat.add_zero, tailsAfter_under_self,
        tailsAfter_items_of_lt (Nat.lt_succ_self i), List.append_nil]
  | w :: rest, i, n + 1, h => by
      have hne : Step.item i ≠ .item (i + (n + 1)) := fun heq => by
        have := Step.item.inj heq
        omega
      have ih : tailsAfter (.item (i + 1 + n))
            ((staying keep (leavesOfItems (i + 1) rest)).map Prod.fst) =
          (staying (fun p => keep (.item (i + 1 + n) :: p)) (leaves v)).map
            Prod.fst :=
        tailsAfter_items h
      rw [show i + 1 + n = i + (n + 1) by omega] at ih
      rw [leavesOfItems, staying_append, staying_map_under, List.map_append,
        tailsAfter_append, tailsAfter_under_ne hne, ih, List.nil_append]

/-! ## The leaves of what is left -/

theorem moved_under_key {key : String} {stay : List Position}
    (e : Position × Json) :
    moved stay (under (.key key) e) =
      under (.key key) (moved (tailsAfter (.key key) stay) e) := rfl

/-- One part of a container: its leaves that stay, at their places in the
pruned part, are its leaves that stay in the whole. -/
theorem map_moved_under {step step' : Step} {stay : List Position}
    {keep : Position → Bool} {all : List (Position × Json)}
    (hmoved : ∀ e, moved stay (under step e) =
      under step' (moved (tailsAfter step stay) e))
    (htails : tailsAfter step stay =
      (staying (fun p => keep (step :: p)) all).map Prod.fst) :
    (staying keep (all.map (under step))).map (moved stay) =
      ((staying (fun p => keep (step :: p)) all).map
        (moved ((staying (fun p => keep (step :: p)) all).map Prod.fst))).map
        (under step') := by
  rw [staying_map_under, List.map_map, List.map_map]
  refine List.map_congr_left fun e _ => ?_
  rw [Function.comp_apply, Function.comp_apply, hmoved, htails]

/-- No leaf stays of what nothing is left of. -/
theorem staying_eq_nil_iff {keep : Position → Bool} {v : Json} :
    staying keep (leaves v) = [] ↔ prune keep v = none := by
  rw [staying, List.filter_eq_nil_iff, prune_eq_none_iff]
  simp only [Bool.not_eq_true]

theorem staying_under_eq_nil_iff {keep : Position → Bool} {v : Json}
    {step : Step} :
    staying keep ((leaves v).map (under step)) = [] ↔
      prune (fun p => keep (step :: p)) v = none := by
  rw [staying_map_under, List.map_eq_nil_iff, staying_eq_nil_iff]

mutual

/-- **The leaves of a pruned document** are the leaves that were to be kept,
in order, at their renumbered positions. -/
theorem leaves_prune :
    ∀ {v w : Json} {keep : Position → Bool}, v.Canonical →
      prune keep v = some w →
        leaves w = (staying keep (leaves v)).map
          (moved ((staying keep (leaves v)).map Prod.fst))
  | .null, w, keep, _, h => by
      simp only [prune, Option.ite_none_right_eq_some, Option.some.injEq] at h
      simp [← h.2, leaves, staying, h.1, moved, renumber]
  | .bool _, w, keep, _, h => by
      simp only [prune, Option.ite_none_right_eq_some, Option.some.injEq] at h
      simp [← h.2, leaves, staying, h.1, moved, renumber]
  | .num _, w, keep, _, h => by
      simp only [prune, Option.ite_none_right_eq_some, Option.some.injEq] at h
      simp [← h.2, leaves, staying, h.1, moved, renumber]
  | .str _, w, keep, _, h => by
      simp only [prune, Option.ite_none_right_eq_some, Option.some.injEq] at h
      simp [← h.2, leaves, staying, h.1, moved, renumber]
  | .obj [], w, keep, _, h => by
      simp [prune] at h
      simp [← h.2, leaves, staying, h.1, moved, renumber]
  | .arr [], w, keep, _, h => by
      simp [prune] at h
      simp [← h.2, leaves, staying, h.1, moved, renumber]
  | .obj (f :: rest), w, keep, hcan, h => by
      simp only [prune, List.isEmpty_cons, Bool.false_eq_true, if_false,
        Option.ite_none_left_eq_some, Option.some.injEq] at h
      obtain ⟨hne, rfl⟩ := h
      rw [leaves, if_neg hne, leaves, if_neg (by simp)]
      exact leavesOfFields_prune hcan.2 fun e he => tailsAfter_fields hcan.1 he
  | .arr (v :: rest), w, keep, hcan, h => by
      simp only [prune, List.isEmpty_cons, Bool.false_eq_true, if_false,
        Option.ite_none_left_eq_some, Option.some.injEq] at h
      obtain ⟨hne, rfl⟩ := h
      rw [leaves, if_neg hne, leaves, if_neg (by simp)]
      exact leavesOfItems_prune (i := 0) hcan fun n v hv => tailsAfter_items hv

theorem leavesOfFields_prune :
    ∀ {fields : List (String × Json)} {keep : Position → Bool}
      {stay : List Position}, CanonicalFields fields →
      (∀ e ∈ fields, tailsAfter (.key e.1) stay =
        (staying (fun p => keep (.key e.1 :: p)) (leaves e.2)).map Prod.fst) →
      leavesOfFields (pruneFields keep fields) =
        (staying keep (leavesOfFields fields)).map (moved stay)
  | [], _, _, _, _ => rfl
  | (key, v) :: rest, keep, stay, hcan, htails => by
      have ih : leavesOfFields (pruneFields keep rest) =
          (staying keep (leavesOfFields rest)).map (moved stay) :=
        leavesOfFields_prune hcan.2 fun e he =>
          htails e (List.mem_cons_of_mem _ he)
      rw [leavesOfFields, staying_append, List.map_append, ← ih]
      cases hv : prune (fun p => keep (.key key :: p)) v with
      | none => simp [pruneFields, hv, staying_under_eq_nil_iff.mpr hv]
      | some w =>
          rw [map_moved_under moved_under_key (htails _ List.mem_cons_self),
            ← leaves_prune hcan.1 hv]
          simp [pruneFields, hv, leavesOfFields]

theorem leavesOfItems_prune :
    ∀ {items : List Json} {keep : Position → Bool} {i : Nat}
      {stay : List Position}, CanonicalItems items →
      (∀ n v, items[n]? = some v → tailsAfter (.item (i + n)) stay =
        (staying (fun p => keep (.item (i + n) :: p)) (leaves v)).map
          Prod.fst) →
      leavesOfItems
          ((List.range i).countP fun j => !(tailsAfter (.item j) stay).isEmpty)
          (pruneItems keep i items) =
        (staying keep (leavesOfItems i items)).map (moved stay)
  | [], _, _, _, _, _ => rfl
  | v :: rest, keep, i, stay, hcan, htails => by
      have ih : leavesOfItems
            ((List.range (i + 1)).countP fun j =>
              !(tailsAfter (.item j) stay).isEmpty)
            (pruneItems keep (i + 1) rest) =
          (staying keep (leavesOfItems (i + 1) rest)).map (moved stay) :=
        leavesOfItems_prune hcan.2 fun n w hw => by
          rw [show i + 1 + n = i + (n + 1) by omega]
          exact htails (n + 1) w hw
      have htail := htails 0 v rfl
      rw [Nat.add_zero] at htail
      rw [leavesOfItems, staying_append, List.map_append, ← ih, List.range_succ,
        List.countP_append]
      cases hv : prune (fun p => keep (.item i :: p)) v with
      | none =>
          have hnone : tailsAfter (.item i) stay = [] := by
            rw [htail, List.map_eq_nil_iff]
            exact staying_eq_nil_iff.mpr hv
          simp [pruneItems, hv, staying_under_eq_nil_iff.mpr hv, hnone]
      | some w =>
          have hsome : tailsAfter (.item i) stay ≠ [] := fun hnil => by
            rw [htail, List.map_eq_nil_iff, staying_eq_nil_iff, hv] at hnil
            cases hnil
          rw [map_moved_under (fun _ => rfl) htail, ← leaves_prune hcan.1 hv]
          simp [pruneItems, hv, leavesOfItems, hsome]

end

end Json

end ClusterGate
