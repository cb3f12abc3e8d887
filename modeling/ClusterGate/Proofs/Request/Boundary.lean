import ClusterGate.Proofs.Request.Canonical

/-!
# Where the parameters of a request begin

Two things one would like to know of the path that an accepted request goes
to: that it is the canonical one if the API takes no parameters, and that
parameters are segments of their own. Neither holds throughout. The first
is lost when parameters are given apart from the path: given slashes count
as no parameters, and the path is then not looked at. The second is lost
there as well, and when a path goes on in the segment that was matched.

What decides is whether the parameters of the request are those that its
path holds (`Request.HoldsParams`), as they are whenever none are given.
-/

namespace ClusterGate

/-! ## Paths of requests -/

/-- The path of a request with its escapes undone. -/
def Request.HasPath (r : Request) (path : List Char) : Prop :=
  Utf8.decode (Percent.decode r.uri.path.toList) = .ok path

/-- The parameters of a request are those in its path. -/
def Request.HoldsParams (r : Request) : Prop :=
  ∃ path, r.HasPath path.toList ∧ r.api.extractParams path "" = .ok r.pathParams

/-- The path is the canonical one with slashes behind it. -/
def Request.OnCanonicalPath (r : Request) (route : Route) : Prop :=
  ∃ n, r.HasPath (route.path.toList ++ List.replicate n '/')

/-- Behind the beginning that is matched the path ends, or a slash follows. -/
def Request.Separated (r : Request) (route : Route) : Prop :=
  r.HasPath route.lead.toList ∨
    ∃ rest, r.HasPath (route.lead.toList ++ '/' :: rest)

/-- The parameters stand directly behind the beginning that is matched. -/
def Request.RunsOn (r : Request) (route : Route) : Prop :=
  r.pathParams ≠ "" ∧
    ∃ rest, r.HasPath (route.lead.toList ++ (r.pathParams.toList ++ rest))

theorem Request.HasPath.unique {r : Request} {path other : List Char}
    (h : r.HasPath path) (hother : r.HasPath other) : path = other :=
  Except.ok.inj (h.symm.trans hother)

/-! ## Routes of the cluster APIs -/

/-- What the routes of the cluster APIs have in common. -/
structure Route.Bundled (route : Route) : Prop where
  trail : route.trail = ""
  lead : ∃ c ∈ route.lead.toList, c ≠ '/'
  /-- The canonical path goes on with a segment of its own, if at all. -/
  path : route.path.toList = route.lead.toList ∨
    route.lead.toList ++ ['/'] <+: route.path.toList

theorem ClusterApi.bundled_plainRoute {path : String} {params : ParamRule}
    (h : ∃ c ∈ path.toList, c ≠ '/') : (plainRoute path params).Bundled :=
  ⟨rfl, h, .inl rfl⟩

theorem ClusterApi.bundled_route {api : ClusterApi} {route : Route}
    (h : api.route = some route) :
    route.Bundled := by
  cases api with
  | blank => cases h
  | nodesStats =>
      obtain rfl := Option.some.inj h
      have hpath : "/_nodes".toList ++ ['/'] <+: "/_nodes/stats".toList :=
        ⟨"stats".toList, rfl⟩
      exact ⟨rfl, ⟨'_', by decide, by decide⟩, .inr hpath⟩
  | _ =>
      obtain rfl := Option.some.inj h
      exact bundled_plainRoute ⟨'_', by decide, by decide⟩

theorem Catalog.Over.bundled {catalog : Catalog} {api : Api} {route : Route}
    (h : catalog.Over clusterTable) (he : (api, route) ∈ catalog.entries) :
    route.Bundled := by
  obtain ⟨clusterApi, -, hroute⟩ := h.exists_clusterApi he
  exact ClusterApi.bundled_route hroute

section

variable {catalog : Catalog} {input : CallerInput} {r : Request}
  {query : SortedMap String} {path : String} {route : Route}

theorem Accepted.hasPath (h : Accepted catalog input r query path route) :
    r.HasPath path.toList :=
  Uri.decodedPath_eq_ok_iff.mp h.decoded

/-- Unless parameters are given, those in the path are taken. -/
theorem Accepted.holdsParams (h : Accepted catalog input r query path route)
    (hnone : input.pathParams = "") : r.HoldsParams :=
  ⟨path, h.hasPath, hnone ▸ h.admitted⟩

theorem Accepted.holdsParams_iff
    (h : Accepted catalog input r query path route) :
    r.HoldsParams ↔ r.api.extractParams path "" = .ok r.pathParams := by
  constructor
  · rintro ⟨other, hother, hparams⟩
    obtain rfl : path = other := String.toList_inj.mp (h.hasPath.unique hother)
    exact hparams
  · intro hparams
    exact ⟨path, h.hasPath, hparams⟩

/-! ## The canonical path -/

/-- The path of an API without parameters holds no parameters exactly if it
is the canonical one. -/
theorem Accepted.onCanonicalPath_iff_holdsParams
    (h : Accepted catalog input r query path route)
    (hcat : catalog.Over clusterTable) (hnone : route.params = .unsupported) :
    r.OnCanonicalPath route ↔ r.HoldsParams := by
  have hroute : r.api.route = some route := h.route_eq hcat.declared
  have hbundled : route.Bundled := hcat.bundled h.firstMatch.mem
  have hsuit : SuitParams route r.pathParams := h.suitParams hcat.declared
  have hempty : r.pathParams = "" := hsuit.unsupported hnone
  have hallows : route.params.allows = false := by rw [hnone]; rfl
  obtain ⟨-, -, -, hcovers, -⟩ := h.firstMatch
  have hremainder :=
    Route.trimSlashes_remainder_eq_nil_iff hbundled.trail hallows hbundled.lead
      hcovers
  have hcanonical : r.OnCanonicalPath route ↔
      ∃ n, path.toList = route.path.toList ++ List.replicate n '/' :=
    exists_congr fun n => ⟨h.hasPath.unique, fun heq => heq ▸ h.hasPath⟩
  rw [hcanonical, ← hremainder, h.holdsParams_iff,
    Api.extractParams_eq_ok_iff hroute, and_iff_left hsuit, if_pos (by rfl),
    hempty, eq_comm (a := ""), String.ofList_eq_empty_iff]

/-- **Canonical paths.** A request to an API without parameters goes to the
canonical path of the API, apart from slashes at its end, exactly if no
parameters were given or the path holds none of its own. -/
theorem onCanonicalPath_iff (hcat : catalog.Over clusterTable)
    (h : catalog.classify input = .ok r) (hroute : r.api.route = some route)
    (hnone : route.params = .unsupported) :
    r.OnCanonicalPath route ↔ input.pathParams = "" ∨ r.HoldsParams := by
  obtain ⟨query, path, route', hacc⟩ := classify_eq_ok_iff.mp h
  obtain rfl : route' = route :=
    Option.some.inj ((hacc.route_eq hcat.declared).symm.trans hroute)
  rw [hacc.onCanonicalPath_iff_holdsParams hcat hnone]
  constructor
  · exact .inr
  · rintro (hempty | hholds)
    · exact hacc.holdsParams hempty
    · exact hholds

end

set_option maxRecDepth 2000 in
theorem onCanonicalPath_nodesStats :
    (Catalog.full clusterTable).Over clusterTable ∧
      ∃ r route, (Catalog.full clusterTable).classify
          (CallerInput.ofUrl "http://localhost:9200/_nodes/./stats%2F/") =
            .ok r ∧
        r.api.route = some route ∧ route.params = .unsupported ∧
          r.OnCanonicalPath route := by
  have hcat : (Catalog.full clusterTable).Over clusterTable := .inl rfl
  obtain ⟨r, route, hr, hroute, hnone⟩ :
      ∃ r route, (Catalog.full clusterTable).classify
          (CallerInput.ofUrl "http://localhost:9200/_nodes/./stats%2F/") =
            .ok r ∧
        r.api.route = some route ∧ route.params = .unsupported :=
    ⟨_, _, rfl, rfl, rfl⟩
  exact ⟨hcat, r, route, hr, hroute, hnone,
    (onCanonicalPath_iff hcat hr hroute hnone).mpr (.inl rfl)⟩

set_option maxRecDepth 2000 in
/-- A given slash counts as no parameters, and nothing then looks at the
path. -/
theorem not_onCanonicalPath_hotThreads :
    (Catalog.full clusterTable).Over clusterTable ∧
      ∃ r route, (Catalog.full clusterTable).classify
          ((CallerInput.ofUrl
            "http://localhost:9200/_nodes/hot_threads").withPathParams "/") =
              .ok r ∧
        r.api.route = some route ∧ route.params = .unsupported ∧
          ¬ r.OnCanonicalPath route := by
  refine ⟨.inl rfl, _, _, rfl, rfl, rfl, ?_⟩
  rintro ⟨n, hn⟩
  have hpath : "/_nodes/stats".toList ++ List.replicate n '/' =
      "/_nodes/hot_threads".toList :=
    Request.HasPath.unique hn rfl
  have hprefix : "/_nodes/stats".toList <+: "/_nodes/hot_threads".toList :=
    ⟨_, hpath⟩
  exact absurd hprefix (by decide)

section

variable {catalog : Catalog} {input : CallerInput} {r : Request}
  {query : SortedMap String} {path : String} {route : Route}

/-! ## Parameters as segments -/

/-- The canonical path of a cluster API is separated. -/
theorem Request.OnCanonicalPath.separated (h : r.OnCanonicalPath route)
    (hbundled : route.Bundled) : r.Separated route := by
  obtain ⟨n, hpath⟩ := h
  rcases hbundled.path with hlead | ⟨rest, hrest⟩
  · rw [hlead] at hpath
    cases n with
    | zero =>
        rw [List.replicate_zero, List.append_nil] at hpath
        exact .inl hpath
    | succ n => exact .inr ⟨_, hpath⟩
  · rw [← hrest, List.append_assoc, List.append_assoc] at hpath
    exact .inr ⟨_, hpath⟩

/-- Where a path goes on behind the beginning that is matched. -/
theorem Accepted.separated_iff_rest
    (h : Accepted catalog input r query path route) {rest : List Char}
    (hrest : path.toList = route.lead.toList ++ rest) :
    r.Separated route ↔ ¬ ∃ c tail, rest = c :: tail ∧ c ≠ '/' := by
  have hpath : r.HasPath (route.lead.toList ++ rest) := hrest ▸ h.hasPath
  cases rest with
  | nil =>
      rw [List.append_nil] at hpath
      exact iff_of_true (.inl hpath) nofun
  | cons c tail =>
      constructor
      · rintro (hlead | ⟨tail', hslash⟩) ⟨d, _, hcons, hne⟩
        · simpa using hpath.unique hlead
        · have hsame := List.append_cancel_left (hpath.unique hslash)
          obtain ⟨rfl, -⟩ := List.cons_eq_cons.mp hsame
          obtain ⟨rfl, -⟩ := List.cons_eq_cons.mp hcons
          exact hne rfl
      · intro hslash
        have hc : c = '/' := by
          by_contra hne
          exact hslash ⟨c, tail, rfl, hne⟩
        exact .inr ⟨tail, hc ▸ hpath⟩

theorem Accepted.runsOn_iff_rest (h : Accepted catalog input r query path route)
    {rest : List Char} (hrest : path.toList = route.lead.toList ++ rest) :
    r.RunsOn route ↔ r.pathParams.toList ≠ [] ∧
      r.pathParams.toList <+: rest := by
  refine and_congr (by simp) (exists_congr fun tail => ?_)
  constructor
  · intro hpath
    have hsame := h.hasPath.unique hpath
    rw [hrest] at hsame
    exact (List.append_cancel_left hsame).symm
  · intro htail
    rw [htail, ← hrest]
    exact h.hasPath

/-- **Separate parameters.** A request whose path holds its parameters has
them in segments of their own exactly if they do not stand directly behind
the beginning that is matched. -/
theorem separated_iff (hcat : catalog.Over clusterTable)
    (h : catalog.classify input = .ok r) (hroute : r.api.route = some route)
    (hholds : input.pathParams = "" ∨ r.HoldsParams) :
    r.Separated route ↔ ¬ r.RunsOn route := by
  obtain ⟨query, path, route', hacc⟩ := classify_eq_ok_iff.mp h
  obtain rfl : route' = route :=
    Option.some.inj ((hacc.route_eq hcat.declared).symm.trans hroute)
  have hbundled : route'.Bundled := hcat.bundled hacc.firstMatch.mem
  have hparams : r.HoldsParams := hholds.elim hacc.holdsParams id
  cases hallows : route'.params.allows with
  | false =>
      have hnone : route'.params = .unsupported := by
        cases hrule : route'.params <;> simp_all [ParamRule.allows]
      have hempty : r.pathParams = "" :=
        (hacc.suitParams hcat.declared).unsupported hnone
      have hcanonical :=
        (hacc.onCanonicalPath_iff_holdsParams hcat hnone).mpr hparams
      exact iff_of_true (hcanonical.separated hbundled)
        fun hrun => hrun.1 hempty
  | true =>
      obtain ⟨-, -, -, ⟨rest, hrest⟩, -⟩ := hacc.firstMatch
      have htrim : r.pathParams.toList = trimSlashes rest := by
        obtain ⟨hsame, -⟩ :=
          (Api.extractParams_eq_ok_iff hroute).mp
            (hacc.holdsParams_iff.mp hparams)
        rw [hsame, if_pos (by rfl), String.toList_ofList,
          Route.remainder_of_allows hbundled.trail hallows hrest.symm]
      rw [hacc.separated_iff_rest hrest.symm, hacc.runsOn_iff_rest hrest.symm,
        htrim, trimSlashes, Text.trim_ne_nil_and_prefix_iff]
      simp

end

set_option maxRecDepth 2000 in
theorem separated_recovery :
    (Catalog.full clusterTable).Over clusterTable ∧
      ∃ r route, (Catalog.full clusterTable).classify
          (CallerInput.ofUrl "http://localhost:9200/_cat/recovery%2Fa,b") =
            .ok r ∧
        r.api.route = some route ∧ r.pathParams = "a,b" ∧
          r.Separated route := by
  have hcat : (Catalog.full clusterTable).Over clusterTable := .inl rfl
  obtain ⟨r, route, hr, hroute, hparams, hlead, hpath⟩ :
      ∃ r route, (Catalog.full clusterTable).classify
          (CallerInput.ofUrl "http://localhost:9200/_cat/recovery%2Fa,b") =
            .ok r ∧
        r.api.route = some route ∧ r.pathParams = "a,b" ∧
          route.lead = "/_cat/recovery" ∧
        r.HasPath "/_cat/recovery/a,b".toList :=
    ⟨_, _, rfl, rfl, rfl, rfl, rfl⟩
  have hrun : ¬ r.RunsOn route := by
    rintro ⟨-, rest, hrest⟩
    rw [hlead, hparams] at hrest
    have hprefix : "/_cat/recoverya,b".toList <+: "/_cat/recovery/a,b".toList :=
      ⟨rest, (hpath.unique hrest).symm⟩
    exact absurd hprefix (by decide)
  exact ⟨hcat, r, route, hr, hroute, hparams,
    (separated_iff hcat hr hroute (.inl rfl)).mpr hrun⟩

set_option maxRecDepth 2000 in
/-- What goes on in the same segment is taken for parameters. -/
theorem not_separated_healthfoo :
    (Catalog.full clusterTable).Over clusterTable ∧
      ∃ r route, (Catalog.full clusterTable).classify
          (CallerInput.ofUrl "http://localhost:9200/_cluster/healthfoo") =
            .ok r ∧
        r.api.route = some route ∧ r.pathParams = "foo" ∧
          ¬ r.Separated route := by
  refine ⟨.inl rfl, _, _, rfl, rfl, rfl, ?_⟩
  rintro (hlead | ⟨rest, hrest⟩)
  · have hpath : "/_cluster/health".toList = "/_cluster/healthfoo".toList :=
      Request.HasPath.unique hlead rfl
    exact absurd hpath (by decide)
  · have hpath : "/_cluster/health".toList ++ '/' :: rest =
        "/_cluster/healthfoo".toList :=
      Request.HasPath.unique hrest rfl
    have hprefix : "/_cluster/health/".toList <+:
        "/_cluster/healthfoo".toList := ⟨rest, hpath⟩
    exact absurd hprefix (by decide)

end ClusterGate
