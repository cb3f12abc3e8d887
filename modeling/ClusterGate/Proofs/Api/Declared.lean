import ClusterGate.Api.Catalog
import ClusterGate.Api.Cluster
import ClusterGate.Proofs.Api.Derivation

/-!
# Catalogs over declared sets

What holds of every API of a set that could be declared, and so of every
entry of a catalog over it: the canonical path of a route and the
beginning that is matched are absolute, and the one begins with the other.
-/

namespace ClusterGate

/-- What every declared route obeys. -/
structure Route.WellFormed (route : Route) : Prop where
  /-- The canonical path is absolute. -/
  path : "/".toList <+: route.path.toList
  /-- So is the beginning that is matched. -/
  lead : "/".toList <+: route.lead.toList
  /-- The canonical path is matched. -/
  covers : route.lead.toList <+: route.path.toList

/-- All routes of a list of APIs obey it. -/
def AllWellFormed (apis : List Api) : Prop :=
  ∀ api ∈ apis, ∀ route, api.route = some route → route.WellFormed

/-- Options that go together describe a well-formed route. -/
theorem Fitting.wellFormed_route {options : List OptionDecl} {route : Route}
    (h : Fitting options) (hroute : routeOf options = some route) :
    route.WellFormed := by
  obtain ⟨path, hpath, rfl⟩ := Option.map_eq_some_iff.mp hroute
  have hblank : "blank" ∉ options.map OptionDecl.name := by
    intro hblank
    cases hpath.symm.trans (h.path_eq_none hblank)
  obtain ⟨path', hpath', habs, hcovers⟩ := h.path hblank
  obtain rfl := Option.some.inj (hpath.symm.trans hpath')
  match hlead : textOf? options "prefix" with
  | none => exact ⟨habs, habs, List.prefix_rfl⟩
  | some lead =>
      obtain ⟨hleadAbs, hprefix⟩ := hcovers lead hlead
      exact ⟨habs, hleadAbs, hprefix⟩

theorem ItemDecl.wellFormed_derive {item : ItemDecl} {table : ApiTable}
    (h : item.derive = .ok table) : AllWellFormed table.apis := by
  obtain ⟨hitem, rfl⟩ := item.verdict_derive.eq_ok_iff.mp h
  refine List.forall_mem_map.mpr fun variant hvariant route hroute => ?_
  exact (hitem.variants variant hvariant).fitting.wellFormed_route hroute

theorem ApiTable.mem_routable_iff {table : ApiTable} {api : Api}
    {route : Route} :
    (api, route) ∈ table.routable ↔
      api ∈ table.apis ∧ api.route = some route := by
  rw [routable, List.mem_filterMap]
  constructor
  · rintro ⟨api', hmem, hpair⟩
    obtain ⟨route', hroute, hpair⟩ := Option.map_eq_some_iff.mp hpair
    obtain ⟨rfl, rfl⟩ := Prod.mk.inj hpair
    exact ⟨hmem, hroute⟩
  · rintro ⟨hmem, hroute⟩
    exact ⟨api, hmem, by rw [hroute, Option.map_some]⟩

/-! ## Catalogs -/

namespace Catalog

/-- A catalog over a set that could be declared: of all its APIs, or of
those among the wanted ones. -/
def Declared (catalog : Catalog) : Prop :=
  ∃ item table, ItemDecl.derive item = .ok table ∧
    (catalog = full table ∨ ∃ wanted, catalog = restrictedTo table wanted)

/-- A catalog over a set: of all its APIs, or of those among the wanted
ones. -/
def Over (table : ApiTable) (catalog : Catalog) : Prop :=
  catalog = full table ∨ ∃ wanted, catalog = restrictedTo table wanted

variable {catalog : Catalog} {table : ApiTable} {api : Api} {route : Route}

theorem Over.mem_routable (h : catalog.Over table) :
    ∀ e ∈ catalog.entries, e ∈ table.routable := by
  obtain rfl | ⟨wanted, rfl⟩ := h
  · intro e he
    exact he
  · intro e he
    exact (List.mem_filter.mp he).1

/-- An entry over the cluster APIs is a cluster API with its route. -/
theorem Over.exists_clusterApi (h : catalog.Over clusterTable)
    (he : (api, route) ∈ catalog.entries) :
    ∃ clusterApi : ClusterApi, clusterApi.entry = api ∧
      clusterApi.route = some route := by
  obtain ⟨hmem, hroute⟩ := ApiTable.mem_routable_iff.mp (h.mem_routable _ he)
  obtain ⟨clusterApi, -, rfl⟩ := List.mem_map.mp hmem
  exact ⟨clusterApi, rfl, hroute⟩

theorem Over.declared (h : catalog.Over clusterTable) : catalog.Declared :=
  ⟨clusterItem, clusterTable, clusterItem_derive, h⟩

theorem Declared.mem_routable (h : catalog.Declared) :
    ∃ item table, ItemDecl.derive item = .ok table ∧
      ∀ e ∈ catalog.entries, e ∈ table.routable := by
  obtain ⟨item, table, hderive, hover⟩ := h
  exact ⟨item, table, hderive, Over.mem_routable hover⟩

/-- An entry stands there with its own route. -/
theorem Declared.route_eq (h : catalog.Declared)
    (he : (api, route) ∈ catalog.entries) :
    api.route = some route ∧ route.WellFormed := by
  obtain ⟨item, table, hderive, hsub⟩ := h.mem_routable
  obtain ⟨hapi, hroute⟩ := ApiTable.mem_routable_iff.mp (hsub _ he)
  exact ⟨hroute, ItemDecl.wellFormed_derive hderive api hapi route hroute⟩

theorem declared_cluster : (full clusterTable).Declared :=
  ⟨clusterItem, clusterTable, clusterItem_derive, .inl rfl⟩

end Catalog

end ClusterGate
