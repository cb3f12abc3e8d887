import ClusterGate.Proofs.Json.Prune
import ClusterGate.Proofs.Redaction.Allowance
import ClusterGate.Proofs.Redaction.Approval
import ClusterGate.Redaction.Redact

/-!
# What a redaction keeps

The filter walks a document together with the nodes of a path tree. Said
without the tree it prunes the document to the leaves at approved
positions (`filterValue_eq_prune`), which is proved by going down both at
once: after a key the nodes hold what is left of their paths, and so they
approve in the part what they approved in the whole.

The headline says what a built allow-list leaves of a document, in terms
of the steps it was built by.
-/

namespace ClusterGate

open Json FieldPath PathTree Allowance

/-! ## Filtering is pruning -/

section Filter

open Classical

/-- Whether a path that one of the nodes holds approves a position. -/
noncomputable def approvedBy (nodes : List PathTree) (v : Json)
    (p : Position) : Bool :=
  decide (∃ path, AnyHolds nodes path ∧ Approves path v p)

variable {nodes : List PathTree} {v w : Json}

theorem approvedBy_iff {p : Position} :
    approvedBy nodes v p = true ↔
      ∃ path, AnyHolds nodes path ∧ Approves path v p :=
  decide_eq_true_iff

theorem approvedBy_ofPaths {paths : List FieldPath} {p : Position} :
    approvedBy [PathTree.ofPaths paths] v p = true ↔
      ∃ path ∈ paths, Approves path.segments v p := by
  rw [approvedBy_iff]
  constructor
  · rintro ⟨_, hholds, hp⟩
    obtain ⟨path, hmem, rfl⟩ := anyHolds_ofPaths.mp hholds
    exact ⟨path, hmem, hp⟩
  · rintro ⟨path, hmem, hp⟩
    exact ⟨path.segments, anyHolds_ofPaths.mpr ⟨path, hmem, rfl⟩, hp⟩

/-- At a terminal node everything is approved. -/
theorem approvedBy_of_terminal (h : nodes.any PathTree.terminal = true)
    (p : Position) :
    approvedBy nodes v p = true :=
  decide_eq_true ⟨[], anyHolds_nil.mpr h, approves_nil⟩

/-- A path that is held by no terminal node has a first segment. -/
theorem exists_cons_of_anyHolds (h : nodes.any PathTree.terminal = false)
    {path : List String} (hpath : AnyHolds nodes path) :
    ∃ segment rest, path = segment :: rest := by
  cases path with
  | nil =>
      rw [anyHolds_nil, h] at hpath
      cases hpath
  | cons segment rest => exact ⟨segment, rest, rfl⟩

theorem approvedBy_self (h : nodes.any PathTree.terminal = false) :
    approvedBy nodes v [] = false := by
  refine decide_eq_false ?_
  rintro ⟨path, hpath, happ⟩
  obtain ⟨segment, rest, rfl⟩ := exists_cons_of_anyHolds h hpath
  exact not_approves_cons_nil happ

/-- After a key the nodes reached by it approve what was approved before. -/
theorem approvedBy_key (h : nodes.any PathTree.terminal = false) {key : String}
    (hw : v.part? (.key key) = some w) (p : Position) :
    approvedBy nodes v (.key key :: p) =
      approvedBy (nodes.flatMap (·.childrenFor key)) w p := by
  refine decide_eq_decide.mpr ⟨?_, ?_⟩
  · rintro ⟨path, hpath, happ⟩
    obtain ⟨segment, rest, rfl⟩ := exists_cons_of_anyHolds h hpath
    obtain ⟨hmatch, hrest⟩ := (approves_key hw).mp happ
    exact ⟨rest, anyHolds_childrenFor.mpr ⟨segment, hmatch, hpath⟩, hrest⟩
  · rintro ⟨rest, hrest, happ⟩
    obtain ⟨segment, hmatch, hpath⟩ := anyHolds_childrenFor.mp hrest
    exact ⟨segment :: rest, hpath, (approves_key hw).mpr ⟨hmatch, happ⟩⟩

/-- After an index that leads to an object the same nodes approve the same. -/
theorem approvedBy_item_obj (h : nodes.any PathTree.terminal = false) {i : Nat}
    {fields : List (String × Json)}
    (hw : v.part? (.item i) = some (.obj fields)) (p : Position) :
    approvedBy nodes v (.item i :: p) = approvedBy nodes (.obj fields) p := by
  refine decide_eq_decide.mpr (exists_congr fun path => and_congr_right
    fun hpath => ?_)
  obtain ⟨segment, rest, rfl⟩ := exists_cons_of_anyHolds h hpath
  rw [approves_item hw]
  exact and_iff_right ⟨fields, rfl⟩

/-- After an index that leads to anything else nothing is approved. -/
theorem approvedBy_item_other (h : nodes.any PathTree.terminal = false)
    {i : Nat} (hw : v.part? (.item i) = some w)
    (hobj : ∀ fields, w ≠ .obj fields) (p : Position) :
    approvedBy nodes v (.item i :: p) = false := by
  refine decide_eq_false ?_
  rintro ⟨path, hpath, happ⟩
  obtain ⟨segment, rest, rfl⟩ := exists_cons_of_anyHolds h hpath
  obtain ⟨⟨fields, hfields⟩, -⟩ := (approves_item hw).mp happ
  exact hobj fields hfields

theorem filterItems_cons_other (hobj : ∀ fields, v ≠ .obj fields)
    (rest : List Json) :
    filterItems nodes (v :: rest) = filterItems nodes rest := by
  cases v with
  | obj fields => exact absurd rfl (hobj fields)
  | _ => simp [filterItems]

mutual

/-- **Filtering is pruning.** Below nodes of which none is terminal, what is
left of a value are its approved leaves. -/
theorem filterValue_eq_prune : ∀ {v : Json} {nodes : List PathTree},
    nodes.any PathTree.terminal = false → v.Canonical →
      filterValue nodes v = prune (approvedBy nodes v) v
  | .null, _, h, _ => by simp [filterValue, prune, approvedBy_self h]
  | .bool _, _, h, _ => by simp [filterValue, prune, approvedBy_self h]
  | .num _, _, h, _ => by simp [filterValue, prune, approvedBy_self h]
  | .str _, _, h, _ => by simp [filterValue, prune, approvedBy_self h]
  | .obj [], _, h, _ =>
      by simp [filterValue, filterFields, prune, approvedBy_self h]
  | .arr [], _, h, _ =>
      by simp [filterValue, filterItems, prune, approvedBy_self h]
  | .obj (f :: rest), nodes, h, hcan => by
      have hfields : filterFields nodes (f :: rest) =
          pruneFields (approvedBy nodes (.obj (f :: rest))) (f :: rest) :=
        filterFields_eq_prune h hcan.2 fun e he =>
          (lookupEntry_eq_some_iff hcan.1).mpr he
      simp [filterValue, prune, hfields]
  | .arr (v :: rest), nodes, h, hcan => by
      have hitems : filterItems nodes (v :: rest) =
          pruneItems (approvedBy nodes (.arr (v :: rest))) 0 (v :: rest) :=
        filterItems_eq_prune h hcan fun n w hw => by rwa [Nat.zero_add]
      simp [filterValue, prune, hitems]

theorem filterFields_eq_prune :
    ∀ {fields all : List (String × Json)} {nodes : List PathTree},
      nodes.any PathTree.terminal = false → CanonicalFields fields →
        (∀ e ∈ fields, lookupEntry e.1 all = some e.2) →
          filterFields nodes fields =
            pruneFields (approvedBy nodes (.obj all)) fields
  | [], _, _, _, _, _ => by simp [filterFields, pruneFields]
  | (key, v) :: rest, all, nodes, h, hcan, hall => by
      have hrest := filterFields_eq_prune h hcan.2 fun e he =>
        hall e (List.mem_cons_of_mem _ he)
      have hkeep : (fun p => approvedBy nodes (.obj all) (.key key :: p)) =
          approvedBy (nodes.flatMap (·.childrenFor key)) v :=
        funext (approvedBy_key h (hall _ List.mem_cons_self))
      rw [filterFields, pruneFields, hkeep, hrest]
      cases hreach :
        (nodes.flatMap (·.childrenFor key)).any PathTree.terminal with
      | true => simp [prune_eq_self (approvedBy_of_terminal hreach)]
      | false =>
          have hvalue := filterValue_eq_prune hreach hcan.1
          cases hprune :
            prune (approvedBy (nodes.flatMap (·.childrenFor key)) v) v <;>
              simp [hvalue, hprune]

theorem filterItems_eq_prune :
    ∀ {items all : List Json} {i : Nat} {nodes : List PathTree},
      nodes.any PathTree.terminal = false → CanonicalItems items →
        (∀ n v, items[n]? = some v → all[i + n]? = some v) →
          filterItems nodes items =
            pruneItems (approvedBy nodes (.arr all)) i items
  | [], _, _, _, _, _, _ => by simp [filterItems, pruneItems]
  | v :: rest, all, i, nodes, h, hcan, hall => by
      have hv := filterValue_eq_prune h hcan.1
      have hrest :
          filterItems nodes rest =
            pruneItems (approvedBy nodes (.arr all)) (i + 1) rest :=
        filterItems_eq_prune h hcan.2 fun n w hw => by
          rw [show i + 1 + n = i + (n + 1) by omega]
          exact hall (n + 1) w hw
      have hpart : (Json.arr all).part? (.item i) = some v := hall 0 v rfl
      rw [pruneItems]
      by_cases hobj : ∃ fields, v = .obj fields
      · obtain ⟨fields, rfl⟩ := hobj
        rw [funext (approvedBy_item_obj h hpart), ← hv, ← hrest]
        by_cases hkept : filterFields nodes fields = [] <;>
          simp [filterItems, filterValue, hkept]
      · have hother : ∀ fields, v ≠ .obj fields := not_exists.mp hobj
        have hnone :
            prune (fun p => approvedBy nodes (.arr all) (.item i :: p))
              v = none :=
          prune_eq_none_iff.mpr fun e _ =>
            approvedBy_item_other h hpart hother e.1
        rw [hnone, filterItems_cons_other hother, hrest]

end

end Filter

/-! ## What is kept below a root -/

/-- A value in which only the approved leaves are left. They keep their
order, their values and the keys on the way to them, and an index counts
the items left before it. If no leaf is approved an empty object is left. -/
def KeepsLeaves (approved : Position → Prop) (value kept : Json) : Prop :=
  kept.Canonical ∧ ∃ stay : List (Position × Json), stay.Sublist value.leaves ∧
    (∀ e ∈ value.leaves, e ∈ stay ↔ approved e.1) ∧
    (stay = [] → kept = .obj []) ∧
    (stay ≠ [] → kept.leaves = stay.map (moved (stay.map Prod.fst)))

/-- Some path of the steps for `root` approves a position of its value. -/
def Approved (steps : List Allowance) (root : String) (value : Json)
    (p : Position) : Prop :=
  ∃ path, AllowPath steps root path ∧ Approves path.segments value p

/-- The tree of some paths, none of them empty, keeps the leaves that one
of the paths approves. -/
theorem keepsLeaves_filterFields {paths : List FieldPath}
    {fields : List (String × Json)} {approved : Position → Prop}
    (hpaths : ∀ path ∈ paths, path.segments ≠ [])
    (happ : ∀ p, approved p ↔
      ∃ path ∈ paths, Approves path.segments (.obj fields) p)
    (hcan : (Json.obj fields).Canonical) :
    KeepsLeaves approved (.obj fields)
      (.obj (filterFields [PathTree.ofPaths paths] fields)) := by
  have hkeep : ∀ p, approvedBy [PathTree.ofPaths paths] (.obj fields) p = true ↔
      approved p := fun p => by
    rw [happ, approvedBy_ofPaths]
  have hstays : ∀ e ∈ (Json.obj fields).leaves,
      e ∈ staying (approvedBy [PathTree.ofPaths paths] (.obj fields))
        (Json.obj fields).leaves ↔
          approved e.1 := fun e he => by
    rw [staying, List.mem_filter, hkeep]
    exact and_iff_right he
  have hprune := filterValue_eq_prune (any_terminal_ofPaths hpaths) hcan
  rw [filterValue] at hprune
  by_cases hkept : filterFields [PathTree.ofPaths paths] fields = []
  · rw [hkept] at hprune ⊢
    have hnil := staying_eq_nil_iff.mpr hprune.symm
    exact ⟨⟨.nil, trivial⟩, _, List.filter_sublist, hstays, fun _ => rfl,
      fun h => absurd hnil h⟩
  · simp only [List.isEmpty_iff, hkept, if_false] at hprune
    refine ⟨canonical_prune hcan hprune.symm, _, List.filter_sublist, hstays,
      fun hnil => ?_, fun _ => leaves_prune hcan hprune.symm⟩
    cases hprune.trans (staying_eq_nil_iff.mp hnil)

/-! ## What is kept of a document -/

/-- What is left of a document when it is filtered by the allow-list that
the steps build. -/
structure Redacted (steps : List Allowance) (raw : Json)
    (roots : List (String × Json)) : Prop where
  /-- Every root stands once. -/
  ascending : KeysAscend roots
  /-- A document that is no object has no roots. -/
  noObject : (∀ fields, raw ≠ .obj fields) → roots = []
  /-- The roots are those that are mentioned and present. -/
  present : ∀ root, root ∈ roots.map Prod.fst ↔
    Mentions steps root ∧ (raw.field? root).isSome = true
  /-- Under a root that is allowed whole nothing changes. -/
  whole : ∀ root value, AllowWhole steps root → raw.field? root = some value →
    lookupEntry root roots = some value
  /-- Nor does it where the value is no object. -/
  plain : ∀ root value, Mentions steps root → raw.field? root = some value →
    (∀ fields, value ≠ .obj fields) → lookupEntry root roots = some value
  /-- Under every other root the approved leaves are left. -/
  filtered : ∀ root fields, Mentions steps root → ¬ AllowWhole steps root →
    raw.field? root = some (.obj fields) →
      ∃ kept, lookupEntry root roots = some (.obj kept) ∧
        KeepsLeaves (Approved steps root (.obj fields))
          (.obj fields) (.obj kept)

theorem canonical_of_field? {raw value : Json} {root : String}
    (hraw : raw.Canonical) (h : raw.field? root = some value) :
    value.Canonical := by
  cases raw with
  | obj fields =>
      exact canonical_of_mem hraw.2 ((lookupEntry_eq_some_iff hraw.1).mp h)
  | _ => cases h

theorem keep_of_not_obj {rule : RootRule} {value : Json}
    (h : ∀ fields, value ≠ .obj fields) :
    rule.keep value = value := by
  cases value with
  | obj fields => exact absurd rfl (h fields)
  | _ => cases rule <;> rfl

/-- **A redaction keeps the approved leaves.** Whatever steps an allow-list
is built by, unless it is empty, it leaves of every document what the steps
ask for. -/
theorem redact_keeps_approved {steps : List Allowance}
    {list : AllowList} {raw : Json} (hlist : AllowList.build steps = .ok list)
    (hne : list.isEmpty = false) (hraw : raw.Canonical) :
    ∃ roots, redact raw list = .obj roots ∧ Redacted steps raw roots := by
  let keep := fun root (rule : RootRule) => (raw.field? root).map rule.keep
  have hredact :
      redact raw list = .obj (pickEntries keep list.roots.entries) := by
    rw [redact, hne, if_neg Bool.false_ne_true, pickEntries]
    simp only [keep, Option.map_map, Function.comp_def]
  have hlook : ∀ root, lookupEntry root (pickEntries keep list.roots.entries) =
      (list.roots.get? root).bind (keep root) :=
    fun _ => lookupEntry_pickEntries keep list.roots.ascending
  have hasks := AllowList.asksFor_build hlist
  refine ⟨_, hredact, keysAscend_pickEntries keep list.roots.ascending,
    fun hobj => ?_, fun root => ?_, fun root value hwhole hvalue => ?_,
    fun root value hmen hvalue hobj => ?_,
    fun root fields hmen hnot hvalue => ?_⟩
  · have hnone : ∀ root, raw.field? root = none := fun root => by
      cases raw with
      | obj fields => exact absurd rfl (hobj fields)
      | _ => rfl
    simp [pickEntries, keep, hnone]
  · rw [← lookupEntry_isSome_iff, hlook, (hasks root).mentions_iff]
    cases list.roots.get? root <;> simp [keep]
  · rw [hlook, (hasks root).eq_whole hwhole, Option.bind_some]
    simp only [keep, hvalue]
    rfl
  · obtain ⟨rule, hrule⟩ :=
      Option.isSome_iff_exists.mp ((hasks root).mentions_iff.mp hmen)
    rw [hlook, hrule, Option.bind_some]
    simp only [keep, hvalue, Option.map_some, keep_of_not_obj hobj]
  · obtain ⟨paths, hrule, hpaths⟩ := (hasks root).eq_along hmen hnot
    have hsegments : ∀ path ∈ paths, path.segments ≠ [] := fun path hpath => by
      obtain ⟨s, -, -, text, -, htext⟩ := (hpaths path).mp hpath
      exact segments_ne_nil_of_parse htext
    refine ⟨filterFields [PathTree.ofPaths paths] fields, ?_,
      keepsLeaves_filterFields hsegments (fun p => ?_)
        (canonical_of_field? hraw hvalue)⟩
    · rw [hlook, hrule, Option.bind_some]
      simp only [keep, hvalue, Option.map_some, RootRule.keep]
    · exact exists_congr fun path => and_congr_left fun _ => (hpaths path).symm

/-- A wildcard path and a plain one below `nodes`, and the whole of `took`. -/
def nodeSteps : List Allowance :=
  [.paths "nodes" ["*.rows.id", "total"], .root "took"]

/-- A response with rows that are no object, or of which nothing is left. -/
def nodeResponse : Json :=
  .obj [("nodes", .obj [
      ("a",
        .obj [("ip", .str "::1"), ("rows", .arr [.null, .obj [("ip", .null)],
        .obj [("id", .bool true), ("ip", .null)]])]),
      ("total", .arr [.null, .obj []])]),
    ("took", .null), ("version", .null)]

theorem redact_keeps_approved_nodes :
    ∃ list roots, AllowList.build nodeSteps = .ok list ∧ list.isEmpty = false ∧
      nodeResponse.Canonical ∧ redact nodeResponse list = .obj roots ∧
      roots =
        [("nodes", .obj [
            ("a", .obj [("rows", .arr [.obj [("id", .bool true)]])]),
            ("total", .arr [.null, .obj []])]),
          ("took", .null)] ∧
      Redacted nodeSteps nodeResponse roots := by
  obtain ⟨list, hlist⟩ : ∃ list, AllowList.build nodeSteps = .ok list :=
    ⟨_, rfl⟩
  have hne : list.isEmpty = false := by
    obtain rfl := Except.ok.inj hlist
    rfl
  have hcan : nodeResponse.Canonical := by
    simp only [nodeResponse, Canonical, CanonicalFields,
      CanonicalItems, KeysAscend]
    decide
  obtain ⟨roots, hroots, hredacted⟩ := redact_keeps_approved hlist hne hcan
  refine ⟨list, roots, hlist, hne, hcan, hroots, ?_, hredacted⟩
  obtain rfl := Except.ok.inj hlist
  exact (Json.obj.inj hroots).symm

end ClusterGate
