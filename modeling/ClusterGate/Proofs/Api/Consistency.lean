import ClusterGate.Proofs.Api.Declared
import ClusterGate.Proofs.Api.Derivation
import ClusterGate.Redaction.AllowLists

/-!
# Tables of accepted declarations

In the table of an accepted declaration every variant has its entry, and no
two entries share a wire name or a canonical path. So entries can be found
again by their names, a catalog has the route of each of its APIs, and the
allow-list of one API can be replaced without a change to any other
(`consistent_of_derive`).
-/

namespace ClusterGate

theorem ParamRule.allows_of_demands {rule : ParamRule}
    (h : rule.demands = true) :
    rule.allows = true := by
  cases rule with
  | unsupported => cases h
  | optional => rfl
  | required => rfl

/-! ## Tables without clashes -/

/-- The canonical path of an API, if it has a route. -/
def Api.path? (api : Api) : Option String := api.route.map Route.path

namespace ApiTable

/-- No two entries share a wire name or a canonical path. -/
structure Distinct (table : ApiTable) : Prop where
  names : (table.apis.map Api.name).Nodup
  paths : (table.apis.filterMap Api.path?).Nodup

variable {table : ApiTable} {api other : Api} {route : Route} {name : String}

theorem map_fst_routable (table : ApiTable) :
    table.routable.map (·.1) = table.apis.filter fun api =>
      !api.isSentinel := by
  rw [routable, List.map_filterMap, ← List.filterMap_eq_filter]
  refine List.filterMap_congr fun api _ => ?_
  cases hroute : api.route with
  | none => simp [Api.isSentinel, hroute, Option.guard]
  | some route => simp [Api.isSentinel, hroute, Option.guard]

theorem Distinct.nodup_routable (h : table.Distinct) :
    (table.routable.map (·.1)).Nodup := by
  rw [map_fst_routable]
  exact h.names.of_map.filter _

/-- Entries are found by their names, and by no other text. -/
theorem Distinct.ofName?_eq_some_iff (h : table.Distinct) :
    table.ofName? name = some api ↔ api ∈ table.apis ∧ api.name = name := by
  constructor
  · intro hfound
    rw [ofName?] at hfound
    exact ⟨List.mem_of_find?_eq_some hfound,
      by simpa using List.find?_some hfound⟩
  · rintro ⟨hmem, rfl⟩
    exact find?_eq_some_of_unique hmem (beq_iff_eq.mpr rfl) fun b hb hname =>
      List.inj_on_of_nodup_map h.names hb hmem (beq_iff_eq.mp hname)

/-- The catalog of all APIs has the route of each. -/
theorem lookup?_full (hmem : api ∈ table.apis) :
    (Catalog.full table).lookup? api = api.route := by
  rw [Catalog.lookup?, Catalog.full]
  cases hroute : api.route with
  | none =>
      rw [List.find?_eq_none.mpr, Option.map_none]
      intro e he hsame
      obtain rfl := of_decide_eq_true hsame
      cases hroute.symm.trans (mem_routable_iff.mp he).2
  | some route =>
      rw [find?_eq_some_of_unique (mem_routable_iff.mpr ⟨hmem, hroute⟩)
          (decide_eq_true rfl),
        Option.map_some]
      intro e he hsame
      obtain rfl := of_decide_eq_true hsame
      obtain rfl :=
        Option.some.inj (hroute.symm.trans (mem_routable_iff.mp he).2)
      rfl

/-- A canonical path belongs to one API. -/
theorem Distinct.eq_of_path_eq (h : table.Distinct) {route' : Route}
    (hmem : api ∈ table.apis) (hother : other ∈ table.apis)
    (hroute : api.route = some route) (hroute' : other.route = some route')
    (hpath : route.path = route'.path) : api = other :=
  eq_of_nodup_filterMap (x := route.path) h.paths hmem hother
    (by rw [Api.path?, hroute, Option.map_some])
    (by rw [Api.path?, hroute', Option.map_some, hpath])

theorem restrictedTo_routable (table : ApiTable) :
    Catalog.restrictedTo table (table.routable.map (·.1)) =
      Catalog.full table := by
  rw [Catalog.restrictedTo, Catalog.full, List.filter_eq_self.mpr]
  exact fun e he => decide_eq_true (List.mem_map_of_mem he)

end ApiTable

/-- An allow-list under another path does not matter to an API. -/
theorem AllowLists.forApi_withEntry {lists : AllowLists} {list : AllowList}
    {path : String} {api : Api} (h : api.path? ≠ some path) :
    (lists.withEntry path list).forApi api = lists.forApi api := by
  unfold forApi
  cases hroute : api.route with
  | none => rfl
  | some route =>
      have hne : path ≠ route.path := by
        simpa [Api.path?, hroute, eq_comm] using h
      simp only [get, withEntry, SortedMap.get?_insert, if_neg hne]

/-! ## Tables of declarations -/

/-- What a table says of the variants it is made from. -/
structure ApiTable.Consistent (table : ApiTable) (variants : List VariantDecl) :
    Prop where
  /-- Each variant has its entry, in declaration order. -/
  apis : table.apis = variants.map VariantDecl.described
  /-- Requests are matched to those that are not blank, in that order. -/
  routable : table.routable.map (·.1) =
    (variants.filter fun v => ¬ v.IsBlank).map VariantDecl.described
  once : (table.routable.map (·.1)).Nodup
  /-- Only blank variants have no route. -/
  route : ∀ v ∈ variants, v.described.route = none ↔ v.IsBlank
  /-- Entries are found by their names, and by no other text. -/
  ofName : ∀ name api, table.ofName? name = some api ↔
    api ∈ table.apis ∧ api.name = name
  wellFormed : AllWellFormed table.apis
  params : ∀ api ∈ table.apis, ∀ route, api.route = some route →
    route.params.demands = true → route.params.allows = true
  /-- The catalog of all routable APIs has the route of each. -/
  full : Catalog.restrictedTo table (table.routable.map (·.1)) =
    Catalog.full table
  lookup : ∀ api ∈ table.apis, (Catalog.full table).lookup? api = api.route
  /-- Canonical paths belong to one API each. -/
  paths : ∀ api ∈ table.apis, ∀ other ∈ table.apis, ∀ route route',
    api.route = some route → other.route = some route' →
      route.path = route'.path → api = other
  /-- The allow-lists of APIs are independent of each other. -/
  lists : ∀ (lists : AllowLists) (list : AllowList), ∀ api ∈ table.apis,
    ∀ other ∈ table.apis,
      other ≠ api → ∀ route, api.route = some route →
        (lists.withEntry route.path list).forApi other = lists.forApi other

namespace ItemDecl

variable {item : ItemDecl} {table : ApiTable}

theorem WellFormed.distinct (h : item.WellFormed) :
    item.described.Distinct where
  names := by
    rw [described, List.map_map]
    exact h.compatible.names
  paths := by
    rw [described, List.filterMap_map]
    have hpath : Api.path? ∘ VariantDecl.described = VariantDecl.path? :=
      funext VariantDecl.described_route_path
    rw [hpath]
    exact h.compatible.paths

theorem WellFormed.routable_described (h : item.WellFormed) :
    item.described.routable.map (·.1) =
      (item.variants.filter fun v => ¬ v.IsBlank).map
        VariantDecl.described := by
  rw [ApiTable.map_fst_routable, described, List.filter_map]
  congr 1
  refine List.filter_congr fun v hv => ?_
  have hblank : decide v.IsBlank = v.described.isSentinel := by
    rw [Bool.eq_iff_iff, decide_eq_true_iff]
    exact (h.variants v hv).isSentinel_described.symm
  rw [Function.comp_apply, decide_not, hblank]

/-- **Tables of accepted declarations are consistent.** -/
theorem consistent_of_derive (h : item.derive = .ok table) :
    table.Consistent item.variants := by
  have hwf := wellFormed_derive h
  obtain ⟨hitem, rfl⟩ := item.verdict_derive.eq_ok_iff.mp h
  have hdistinct := hitem.distinct
  exact
    { apis := rfl
      routable := hitem.routable_described
      once := hdistinct.nodup_routable
      route := fun v hv => by
        rw [← (hitem.variants v hv).isSentinel_described, Api.isSentinel,
          Option.isNone_iff_eq_none]
      ofName := fun name api => hdistinct.ofName?_eq_some_iff
      wellFormed := hwf
      params := fun _ _ route _ => ParamRule.allows_of_demands
      full := ApiTable.restrictedTo_routable _
      lookup := fun api => ApiTable.lookup?_full
      paths := fun api hmem other hother route route' hroute hroute' hpath =>
        hdistinct.eq_of_path_eq hmem hother hroute hroute' hpath
      lists := fun lists list api hmem other hother hne route hroute =>
        AllowLists.forApi_withEntry fun hpath => by
          obtain ⟨route', hroute', hsame⟩ := Option.map_eq_some_iff.mp hpath
          exact hne (hdistinct.eq_of_path_eq hother hmem hroute' hroute hsame) }

/-- A sentinel under its own name, an API with every option and one with only
a path. -/
def nodesItem : ItemDecl where
  kind := .enumeration
  generics := []
  variants :=
    [⟨"Unclassified", .unit,
      [⟨"api", .list [⟨"blank", none⟩, ⟨"name", some (.text "NONE")⟩]⟩]⟩,
      ⟨"NodesStats", .unit, [⟨"doc", .assigned⟩, ⟨"api", .list
        [⟨"path", some (.text "/_nodes/stats")⟩,
          ⟨"prefix", some (.text "/_nodes")⟩, ⟨"suffix", some (.text "/stats")⟩,
          ⟨"path_params", some (.text "required")⟩,
          ⟨"name", some (.text "NODES")⟩]⟩]⟩,
      ⟨"CatTasks", .unit,
        [⟨"api", .list [⟨"path", some (.text "/_cat/tasks")⟩]⟩]⟩]

theorem consistent_nodes :
    ∃ table, nodesItem.derive = .ok table ∧
      table.apis.map Api.name = ["NONE", "NODES", "CAT_TASKS"] ∧
        table.Consistent nodesItem.variants :=
  ⟨_, rfl, rfl, consistent_of_derive rfl⟩

end ItemDecl

end ClusterGate
