import ClusterGate.Proofs.Api.Consistency
import ClusterGate.Proofs.Request.Canonical

/-!
# Shadowed entries

A catalog reports an entry as shadowed when an earlier one covers the very
beginning that is matched for it. Whatever covers that beginning covers every
path that goes on from it, so a shadowed entry is found by no path; and an
entry that is not reported is found by the beginning itself. What is reported
is thereby settled by a search for each entry's own beginning
(`shadowed_eq_filterMap`), and the report is exact (`shadowed_exact`).
-/

namespace ClusterGate

theorem Route.covers_iff {route : Route} {path : String} :
    route.covers path = true ↔ route.lead.toList <+: path.toList :=
  List.isPrefixOf_iff_prefix

theorem Route.covers_lead (route : Route) : route.covers route.lead = true :=
  covers_iff.mpr List.prefix_rfl

/-- What covers the beginning of a route covers every path of the route. -/
theorem Route.covers_trans {route other : Route} {path : String}
    (h : other.covers route.lead = true) (hpath : route.covers path = true) :
    other.covers path = true :=
  covers_iff.mpr ((covers_iff.mp h).trans (covers_iff.mp hpath))

namespace Catalog

variable {catalog : Catalog} {api first : Api} {route : Route} {path : String}

/-- No API has two entries. -/
def EntriesOnce (catalog : Catalog) : Prop := (catalog.entries.map (·.1)).Nodup

theorem Declared.entriesOnce (h : catalog.Declared) : catalog.EntriesOnce := by
  obtain ⟨item, table, hderive, hover⟩ := h
  obtain ⟨hitem, rfl⟩ := item.verdict_derive.eq_ok_iff.mp hderive
  have hnodup := hitem.distinct.nodup_routable
  rcases hover with rfl | ⟨wanted, rfl⟩
  · exact hnodup
  · exact hnodup.sublist (List.filter_sublist.map _)

/-! ## Searching for an entry's own beginning -/

/-- The search for an entry's beginning ends at the entry, if not before. -/
theorem findEntry?_lead {before after : List (Api × Route)} {e : Api × Route}
    (h : catalog.entries = before ++ e :: after) :
    catalog.findEntry? e.2.lead =
      (before.find? fun d => d.2.covers e.2.lead).or (some e) := by
  have hself : (e :: after).find? (fun d => d.2.covers e.2.lead) = some e :=
    List.find?_cons_of_pos (Route.covers_lead e.2)
  unfold findEntry?
  rw [h, List.find?_append, hself]

theorem exists_find?_lead (h : (api, route) ∈ catalog.entries) :
    ∃ first, catalog.find? route.lead = some first := by
  obtain ⟨before, after, hentries⟩ := List.append_of_mem h
  rw [find?, findEntry?_lead hentries]
  cases before.find? fun d => d.2.covers route.lead with
  | none => exact ⟨api, rfl⟩
  | some d => exact ⟨d.1, rfl⟩

/-- The other API, if any, that the search for an entry's beginning finds in
its place. -/
def shadower? (catalog : Catalog) (e : Api × Route) : Option Api :=
  (catalog.find? e.2.lead).filter (· ≠ e.1)

theorem shadower?_eq_some_iff :
    catalog.shadower? (api, route) = some first ↔
      catalog.find? route.lead = some first ∧ first ≠ api := by
  rw [shadower?, Option.filter_eq_some_iff, decide_eq_true_iff]

/-- It is the first one before the entry that covers the beginning. -/
theorem shadower?_eq (honce : catalog.EntriesOnce)
    {before after : List (Api × Route)} {e : Api × Route}
    (h : catalog.entries = before ++ e :: after) :
    catalog.shadower? e =
      (before.find? fun d => d.2.covers e.2.lead).map (·.1) := by
  have hnotMem : e.1 ∉ before.map (·.1) := by
    rw [EntriesOnce, h, List.map_append, List.map_cons] at honce
    exact fun hmem => (List.nodup_append.mp honce).2.2 _ hmem _
      List.mem_cons_self rfl
  rw [shadower?, find?, findEntry?_lead h]
  cases hfound : before.find? fun d => d.2.covers e.2.lead with
  | none => exact Option.filter_some_neg (by simp)
  | some d =>
      have hne : d.1 ≠ e.1 := fun hsame =>
        hnotMem (hsame ▸ List.mem_map_of_mem (List.mem_of_find?_eq_some hfound))
      exact Option.filter_some_pos (decide_eq_true hne)

/-- The report on the entries that come after others. -/
theorem shadowedAfter_eq_filterMap (honce : catalog.EntriesOnce) :
    ∀ {rest earlier : List (Api × Route)}, catalog.entries = earlier ++ rest →
      shadowedAfter earlier rest =
        rest.filterMap fun e => (catalog.shadower? e).map
          fun first => (first, e.1)
  | [], _, _ => rfl
  | e :: rest, earlier, hentries => by
      have hrest : catalog.entries = (earlier ++ [e]) ++ rest := by
        rw [hentries, List.append_assoc, List.singleton_append]
      rw [shadowedAfter, shadowedAfter_eq_filterMap honce hrest,
        List.filterMap_cons, shadower?_eq honce hentries]
      cases earlier.find? fun d => d.2.covers e.2.lead with
      | none => rfl
      | some d => rfl

/-- **The report of a catalog.** An entry is reported if the search for its
beginning finds another one, and with that one. -/
theorem shadowed_eq_filterMap (honce : catalog.EntriesOnce) :
    catalog.shadowed =
      catalog.entries.filterMap fun e => (catalog.shadower? e).map fun first =>
        (first, e.1) :=
  shadowedAfter_eq_filterMap honce rfl

theorem mem_shadowed_iff (honce : catalog.EntriesOnce) :
    (first, api) ∈ catalog.shadowed ↔
      ∃ route, (api, route) ∈ catalog.entries ∧
        catalog.find? route.lead = some first ∧
        first ≠ api := by
  rw [shadowed_eq_filterMap honce, List.mem_filterMap]
  constructor
  · rintro ⟨⟨other, route⟩, hmem, hpair⟩
    obtain ⟨found, hfound, hsame⟩ := Option.map_eq_some_iff.mp hpair
    obtain ⟨rfl, rfl⟩ := Prod.mk.inj hsame
    exact ⟨route, hmem, shadower?_eq_some_iff.mp hfound⟩
  · rintro ⟨route, hmem, hfound⟩
    exact ⟨(api, route), hmem,
      by rw [shadower?_eq_some_iff.mpr hfound, Option.map_some]⟩

/-- The reported entries stand in the order of the catalog. -/
theorem shadowed_sublist (honce : catalog.EntriesOnce) :
    (catalog.shadowed.map (·.2)).Sublist (catalog.entries.map (·.1)) := by
  have hsecond :
      ∀ e, ((catalog.shadower? e).map fun first => (first, e.1)).map (·.2) =
        (Option.guard (fun e => (catalog.shadower? e).isSome) e).map (·.1) := by
    intro e
    cases hfound : catalog.shadower? e <;> simp [Option.guard, hfound]
  have hkept : catalog.shadowed.map (·.2) =
      (catalog.entries.filter fun e => (catalog.shadower? e).isSome).map
        (·.1) := by
    rw [shadowed_eq_filterMap honce, List.map_filterMap,
      ← List.filterMap_eq_filter, List.map_filterMap]
    exact List.filterMap_congr fun e _ => hsecond e
  exact hkept ▸ List.filter_sublist.map _

/-- An API that is found stands in the catalog, with a route that covers the
path, and nothing before it covers the path. -/
theorem find?_eq_some_iff :
    catalog.find? path = some api ↔
      ∃ route, catalog.FirstMatch path api route := by
  rw [find?, Option.map_eq_some_iff]
  constructor
  · rintro ⟨⟨_, route⟩, hfound, rfl⟩
    exact ⟨route, findEntry?_eq_some_iff.mp hfound⟩
  · rintro ⟨route, hfirst⟩
    exact ⟨(api, route), findEntry?_eq_some_iff.mpr hfirst, rfl⟩

/-- With another entry for its beginning, an API is found by no path. -/
theorem find?_ne_of_shadowed (honce : catalog.EntriesOnce)
    (h : (first, api) ∈ catalog.shadowed) (path : String) :
    catalog.find? path ≠ some api := by
  intro hpath
  obtain ⟨route, hmem, hfirst, hne⟩ := (mem_shadowed_iff honce).mp h
  obtain ⟨route', before, after, hentries, hcovers, hbefore⟩ :=
    find?_eq_some_iff.mp hpath
  have hmem' : (api, route') ∈ catalog.entries :=
    hentries ▸ List.mem_append_right _ List.mem_cons_self
  obtain rfl : route = route' :=
    congrArg Prod.snd (List.inj_on_of_nodup_map honce hmem hmem' rfl)
  -- The search for the beginning ends before the entry, with one that covers
  -- the path as well.
  rw [find?, findEntry?_lead hentries] at hfirst
  cases hearlier : before.find? fun d => d.2.covers route.lead with
  | none =>
      rw [hearlier] at hfirst
      exact hne (Option.some.inj hfirst).symm
  | some d =>
      have hlead : d.2.covers route.lead = true := by
        simpa using List.find?_some hearlier
      exact hbefore d (List.mem_of_find?_eq_some hearlier)
        (Route.covers_iff.mp
          (Route.covers_trans hlead (Route.covers_iff.mpr hcovers)))

/-- An entry that is not reported is found by its own beginning. -/
theorem find?_lead_of_not_shadowed (honce : catalog.EntriesOnce)
    (hmem : (api, route) ∈ catalog.entries)
    (h : ∀ first, (first, api) ∉ catalog.shadowed) :
    catalog.find? route.lead = some api := by
  obtain ⟨first, hfirst⟩ := exists_find?_lead hmem
  by_cases hsame : first = api
  · exact hsame ▸ hfirst
  · exact absurd ((mem_shadowed_iff honce).mpr ⟨route, hmem, hfirst, hsame⟩)
      (h first)

/-- The entry that is found for the beginning of another one stands before
it. -/
theorem exists_split_of_find?_lead (hmem : (api, route) ∈ catalog.entries)
    (hfirst : catalog.find? route.lead = some first) (hne : first ≠ api) :
    ∃ before middle after firstRoute,
      catalog.entries = before ++
        (first, firstRoute) :: (middle ++ (api, route) :: after) := by
  obtain ⟨firstRoute, before, rest, hentries, -, hbefore⟩ :=
    find?_eq_some_iff.mp hfirst
  have hrest : (api, route) ∈ rest := by
    rw [hentries] at hmem
    rcases List.mem_append.mp hmem with hmem | hmem
    · exact absurd List.prefix_rfl (hbefore _ hmem)
    · rcases List.mem_cons.mp hmem with hsame | hmem
      · exact absurd (congrArg Prod.fst hsame).symm hne
      · exact hmem
  obtain ⟨middle, after, rfl⟩ := List.append_of_mem hrest
  exact ⟨before, middle, after, firstRoute, hentries⟩

end Catalog

/-- **Shadowed entries.** A catalog reports just those entries that no path
finds, each once and in order, together with the earlier one that its
beginning finds, which is not reported itself. Every other entry is found by
its own beginning. -/
theorem shadowed_exact {catalog : Catalog} (h : catalog.Declared) :
    (∀ api route, (api, route) ∈ catalog.entries →
      ((∃ first, (first, api) ∈ catalog.shadowed) ↔
        ∀ path, catalog.find? path ≠ some api)) ∧
    (catalog.shadowed.map (·.2)).Sublist (catalog.entries.map (·.1)) ∧
    (catalog.shadowed.map (·.2)).Nodup ∧
    (∀ first later, (first, later) ∈ catalog.shadowed →
      ∃ before middle after firstRoute route,
        catalog.entries = before ++
          (first, firstRoute) :: (middle ++ (later, route) :: after) ∧
          catalog.find? route.lead = some first ∧
            ∀ other, (other, first) ∉ catalog.shadowed) ∧
    ∀ api route, (api, route) ∈ catalog.entries →
      (∀ first, (first, api) ∉ catalog.shadowed) →
      catalog.find? route.lead = some api := by
  have honce := h.entriesOnce
  have hsublist := Catalog.shadowed_sublist honce
  refine ⟨fun api route hmem => ⟨?_, fun hnone => ?_⟩, hsublist,
    honce.sublist hsublist, fun first later hpair => ?_, fun api route =>
      Catalog.find?_lead_of_not_shadowed honce⟩
  · rintro ⟨first, hfirst⟩
    exact Catalog.find?_ne_of_shadowed honce hfirst
  · by_contra hnot
    exact hnone _
      (Catalog.find?_lead_of_not_shadowed honce hmem (not_exists.mp hnot))
  · obtain ⟨route, hmem, hfirst, hne⟩ :=
      (Catalog.mem_shadowed_iff honce).mp hpair
    obtain ⟨before, middle, after, firstRoute, hentries⟩ :=
      Catalog.exists_split_of_find?_lead hmem hfirst hne
    exact ⟨before, middle, after, firstRoute, route, hentries, hfirst,
      fun other hother =>
        Catalog.find?_ne_of_shadowed honce hother _ hfirst⟩

/-- Three APIs, the paths of which go on from each other, after one that
stands for itself. -/
def nestedItem : ItemDecl where
  kind := .enumeration
  generics := []
  variants :=
    [⟨"Health", .unit,
      [⟨"api", .list [⟨"path", some (.text "/_cluster/health")⟩]⟩]⟩,
      ⟨"Nodes", .unit, [⟨"api", .list [⟨"path", some (.text "/_nodes")⟩]⟩]⟩,
      ⟨"Stats", .unit,
        [⟨"api", .list [⟨"path", some (.text "/_nodes/stats")⟩]⟩]⟩,
      ⟨"HttpStats", .unit,
        [⟨"api", .list [⟨"path", some (.text "/_nodes/stats/http")⟩]⟩]⟩]

/-- The route of one of them. -/
def nestedRoute (path : String) : Route := ⟨path, path, "", .unsupported⟩

def nestedNodes : Api := ⟨"Nodes", "NODES", some (nestedRoute "/_nodes")⟩

def nestedStats : Api := ⟨"Stats", "STATS", some (nestedRoute "/_nodes/stats")⟩

def nestedHttpStats : Api :=
  ⟨"HttpStats", "HTTP_STATS", some (nestedRoute "/_nodes/stats/http")⟩

/-- Of the whole set both longer paths are shadowed by the shortest one, and
without that one the longest is shadowed by the other. -/
theorem shadowed_exact_nested :
    ∃ table, nestedItem.derive = .ok table ∧ (Catalog.full table).Declared ∧
      (Catalog.full table).shadowed =
        [(nestedNodes, nestedStats), (nestedNodes, nestedHttpStats)] ∧
      (∀ path, (Catalog.full table).find? path ≠ some nestedStats) ∧
      (Catalog.restrictedTo table [nestedHttpStats, nestedStats]).Declared ∧
      (Catalog.restrictedTo table [nestedHttpStats, nestedStats]).shadowed =
        [(nestedStats, nestedHttpStats)] ∧
      (Catalog.restrictedTo table [nestedHttpStats, nestedStats]).find?
        "/_nodes/stats" = some nestedStats := by
  obtain ⟨table, hderive, hfull, hpart, hmem, hmem'⟩ :
      ∃ table, nestedItem.derive = .ok table ∧
        (Catalog.full table).shadowed =
          [(nestedNodes, nestedStats), (nestedNodes, nestedHttpStats)] ∧
        (Catalog.restrictedTo table [nestedHttpStats, nestedStats]).shadowed =
          [(nestedStats, nestedHttpStats)] ∧
        (nestedStats, nestedRoute "/_nodes/stats") ∈
          (Catalog.full table).entries ∧
        (nestedStats, nestedRoute "/_nodes/stats") ∈
          (Catalog.restrictedTo table [nestedHttpStats, nestedStats]).entries :=
    ⟨_, rfl, rfl, rfl, by decide, by decide⟩
  have hdeclared : (Catalog.full table).Declared :=
    ⟨nestedItem, table, hderive, .inl rfl⟩
  have hdeclared' :
      (Catalog.restrictedTo table [nestedHttpStats, nestedStats]).Declared :=
    ⟨nestedItem, table, hderive, .inr ⟨_, rfl⟩⟩
  obtain ⟨hreported, -⟩ := shadowed_exact hdeclared
  obtain ⟨-, -, -, -, hfound⟩ := shadowed_exact hdeclared'
  refine ⟨table, hderive, hdeclared, hfull, ?_, hdeclared', hpart, ?_⟩
  · refine (hreported _ _ hmem).mp ⟨nestedNodes, ?_⟩
    rw [hfull]
    exact List.mem_cons_self
  · refine hfound _ _ hmem' fun first hfirst => ?_
    rw [hpart, List.mem_singleton] at hfirst
    exact absurd (congrArg Prod.snd hfirst)
      (by decide : nestedStats ≠ nestedHttpStats)

end ClusterGate
