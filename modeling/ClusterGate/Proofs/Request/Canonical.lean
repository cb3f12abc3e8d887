import ClusterGate.Proofs.Api.Declared
import ClusterGate.Proofs.Request.Accepted
import ClusterGate.Proofs.Request.Params
import ClusterGate.Proofs.Request.Target
import ClusterGate.Proofs.SortedMap

/-!
# Canonical requests

What a caller may rely on who is handed a request: where it goes, that its
URI says the same, which API it is for, and what its parameters look like.
The lemmas about `Accepted` draw it from the checks one by one, and the
invariant puts it together, for every input and every catalog over a
declared set.
-/

namespace ClusterGate

/-- The first entry of a catalog that covers a path. -/
def Catalog.FirstMatch (catalog : Catalog) (path : String) (api : Api)
    (route : Route) : Prop :=
  ∃ before after, catalog.entries = before ++ (api, route) :: after ∧
    route.lead.toList <+: path.toList ∧
      ∀ e ∈ before, ¬ e.2.lead.toList <+: path.toList

/-- What holds of the request that an input became. -/
structure Request.IsCanonical (catalog : Catalog) (input : CallerInput)
    (r : Request) : Prop where
  scheme : r.scheme = "http" ∨ r.scheme = "https"
  uriScheme : r.uri.scheme = r.scheme
  host : r.host = "localhost"
  /-- The host of the URI is the same up to the case of its letters. -/
  uriHost : String.ofList (r.uri.hostText.toList.map Char.toLower) = r.host
  port : r.port = 9200
  uriPort : r.uri.effectivePort? = some r.port
  connectionTimeout : 1 ≤ r.connectionTimeout ∧ r.connectionTimeout ≤ 5
  socketTimeout : 1 ≤ r.socketTimeout ∧ r.socketTimeout ≤ 60
  givenTimeouts : r.connectionTimeout = input.connectionTimeout ∧
    r.socketTimeout = input.socketTimeout
  /-- No two slashes stand next to each other in the path as it is sent. -/
  noEmptySegment : ¬ "//".toList <:+: r.uri.path.toList
  noRepeatedKey : (r.uri.queryPairs.map Prod.fst).Nodup
  notSentinel : r.api.isSentinel = false
  inCatalog : catalog.contains r.api = true
  /-- The API is the first one that covers the decoded path; the path shown
  and the parameters suit its route. -/
  matched : ∃ path route,
    Utf8.decode (Percent.decode r.uri.path.toList) = .ok path.toList ∧
      catalog.FirstMatch path r.api route ∧
        catalog.classifyPath path = .ok r.api ∧
      r.api.route = some route ∧ SuitParams route r.pathParams ∧
      r.path = (if input.path ≠ "" then input.path
        else if r.pathParams = "" then route.path else route.lead)
  path : r.path ≠ ""
  /-- The query is the given one, or else that of the URI. -/
  queryParams : if input.queryParams = ∅
    then ∀ k v, r.queryParams.get? k = some v ↔ (k, v) ∈ r.uri.queryPairs
    else r.queryParams = input.queryParams
  url : r.url = if input.url = "" then r.uri.render else input.url

namespace Catalog

variable {catalog : Catalog} {path : String} {api : Api} {route : Route}

theorem findEntry?_eq_some_iff :
    catalog.findEntry? path = some (api, route) ↔
      catalog.FirstMatch path api route := by
  unfold findEntry?
  rw [List.find?_eq_some_iff_append, FirstMatch]
  constructor
  · rintro ⟨hcovers, before, after, hentries, hbefore⟩
    refine ⟨before, after, hentries, List.isPrefixOf_iff_prefix.mp hcovers,
      fun e he hpre => ?_⟩
    have hnot := hbefore e he
    rw [Route.covers, List.isPrefixOf_iff_prefix.mpr hpre] at hnot
    cases hnot
  · rintro ⟨before, after, hentries, hcovers, hbefore⟩
    refine ⟨List.isPrefixOf_iff_prefix.mpr hcovers, before, after, hentries,
      fun e he => ?_⟩
    rw [Bool.not_eq_true', Bool.eq_false_iff]
    exact fun hpre => hbefore e he (List.isPrefixOf_iff_prefix.mp hpre)

theorem findEntry?_eq_none_iff :
    catalog.findEntry? path = none ↔
      ∀ e ∈ catalog.entries, ¬ e.2.lead.toList <+: path.toList := by
  unfold findEntry?
  rw [List.find?_eq_none]
  exact forall₂_congr fun e _ => not_congr List.isPrefixOf_iff_prefix

theorem FirstMatch.unique {api' : Api} {route' : Route}
    (h : catalog.FirstMatch path api route)
    (hother : catalog.FirstMatch path api' route') :
    api = api' ∧ route = route' := by
  have hsome :=
    (findEntry?_eq_some_iff.mpr h).symm.trans
      (findEntry?_eq_some_iff.mpr hother)
  exact Prod.mk.inj (Option.some.inj hsome)

theorem FirstMatch.mem (h : catalog.FirstMatch path api route) :
    (api, route) ∈ catalog.entries := by
  obtain ⟨before, after, hentries, -⟩ := h
  rw [hentries]
  exact List.mem_append_right _ List.mem_cons_self

theorem contains_of_mem (h : (api, route) ∈ catalog.entries) :
    catalog.contains api = true := by
  rw [contains, lookup?, Option.isSome_map, List.find?_isSome]
  exact ⟨_, h, decide_eq_true rfl⟩

end Catalog

theorem map_toLower_of_isSupportedHost {host : String}
    (h : isSupportedHost host = true) :
    String.ofList (host.toList.map Char.toLower) = "localhost" := by
  rw [eq_of_beq h]
  rfl

theorem TimeoutKind.allows_iff {kind : TimeoutKind} {seconds : Int32} :
    kind.allows seconds = true ↔
      kind.least ≤ seconds ∧ seconds ≤ kind.greatest := by
  simp [allows]

/-- A route's text is never empty, since it begins with a slash. -/
theorem ne_empty_of_slash_prefix {text : String}
    (h : "/".toList <+: text.toList) : text ≠ "" := by
  rintro rfl
  exact absurd h (by decide)

theorem CallerInput.shownPath_eq {input : CallerInput} {route : Route}
    {params : String} :
    input.shownPath route params = if input.path ≠ "" then input.path
      else if params = "" then route.path else route.lead := by
  simp [shownPath]

/-! ## What the checks come to -/

section

variable {catalog : Catalog} {input : CallerInput} {r : Request}
  {query : SortedMap String} {path : String} {route : Route}

theorem Accepted.checked (h : Accepted catalog input r query path route) :
    r.scheme ∈ supportedSchemes ∧
      hasEmptySegment r.uri.path.toList = false := by
  obtain ⟨field, hchecked⟩ := CallerInput.checked_of_targetUri h.reached
  obtain ⟨-, hscheme, -, hsegment⟩ := Uri.checked_eq_ok_iff.mp hchecked
  exact ⟨h.scheme ▸ hscheme, hsegment⟩

theorem Accepted.uriPort_eq (h : Accepted catalog input r query path route) :
    r.uri.effectivePort? = some supportedPort :=
  (Uri.checkEndpoint_eq_ok_iff.mp h.endpoint).2

theorem Accepted.port_eq (h : Accepted catalog input r query path route) :
    r.port = supportedPort := by
  rw [h.port, h.uriPort_eq]
  rfl

theorem Accepted.host_eq (h : Accepted catalog input r query path route) :
    r.host = supportedHost := by
  obtain ⟨hhost, -⟩ := Uri.checkEndpoint_eq_ok_iff.mp h.endpoint
  rw [h.host, map_toLower_of_isSupportedHost hhost]
  rfl

theorem Accepted.firstMatch (h : Accepted catalog input r query path route) :
    catalog.FirstMatch path r.api route :=
  Catalog.findEntry?_eq_some_iff.mp h.matched

theorem Accepted.route_eq (h : Accepted catalog input r query path route)
    (hcat : catalog.Declared) : r.api.route = some route :=
  (hcat.route_eq h.firstMatch.mem).1

theorem Accepted.suitParams (h : Accepted catalog input r query path route)
    (hcat : catalog.Declared) : SuitParams route r.pathParams :=
  ((Api.extractParams_eq_ok_iff (h.route_eq hcat)).mp h.admitted).2

theorem Accepted.path_eq (h : Accepted catalog input r query path route) :
    r.path = if input.path ≠ "" then input.path
      else if r.pathParams = "" then route.path else route.lead := by
  rw [h.shown, CallerInput.shownPath_eq]

theorem Accepted.path_ne_empty (h : Accepted catalog input r query path route)
    (hcat : catalog.Declared) : r.path ≠ "" := by
  obtain ⟨-, hwf⟩ := hcat.route_eq h.firstMatch.mem
  rw [h.path_eq]
  split
  · next hne => exact hne
  split
  · exact ne_empty_of_slash_prefix hwf.path
  · exact ne_empty_of_slash_prefix hwf.lead

end

/-- **Canonical requests.** Every input that a catalog over a declared set
accepts becomes a canonical request. -/
theorem isCanonical_of_classify {catalog : Catalog}
    {input : CallerInput} {r : Request} (hcat : catalog.Declared)
    (h : catalog.classify input = .ok r) :
    r.IsCanonical catalog input := by
  obtain ⟨query, path, route, hacc⟩ := classify_eq_ok_iff.mp h
  obtain ⟨hscheme, hsegment⟩ := hacc.checked
  obtain ⟨hnodup, hquery⟩ := Uri.queryMap_eq_ok_iff.mp hacc.distinct
  refine
    { scheme := ?_
      uriScheme := hacc.scheme.symm
      host := hacc.host_eq
      uriHost := hacc.host.symm
      port := hacc.port_eq
      uriPort := hacc.port_eq ▸ hacc.uriPort_eq
      connectionTimeout := ?_
      socketTimeout := ?_
      givenTimeouts := ⟨hacc.connectionTimeout, hacc.socketTimeout⟩
      noEmptySegment := hasEmptySegment_eq_false_iff.mp hsegment
      noRepeatedKey := hnodup
      notSentinel := by rw [Api.isSentinel, hacc.route_eq hcat]; rfl
      inCatalog := Catalog.contains_of_mem hacc.firstMatch.mem
      matched :=
        ⟨path, route, Uri.decodedPath_eq_ok_iff.mp hacc.decoded,
          hacc.firstMatch, ?_, hacc.route_eq hcat,
          hacc.suitParams hcat, hacc.path_eq⟩
      path := hacc.path_ne_empty hcat
      queryParams := ?_
      url := by rw [hacc.url]; simp }
  · simpa [supportedSchemes] using hscheme
  · rw [hacc.connectionTimeout]
    simpa only [TimeoutKind.allows_iff, TimeoutKind.least, TimeoutKind.greatest]
      using hacc.connection
  · rw [hacc.socketTimeout]
    simpa only [TimeoutKind.allows_iff, TimeoutKind.least, TimeoutKind.greatest]
      using hacc.socket
  · rw [Catalog.classifyPath, Catalog.find?, hacc.matched]
    rfl
  · rw [hacc.queryParams]
    by_cases hnone : input.queryParams = ∅
    · rw [if_pos hnone, if_pos (SortedMap.isEmpty_iff.mpr hnone)]
      exact hquery
    · rw [if_neg hnone, if_neg (mt SortedMap.isEmpty_iff.mp hnone)]

/-- A URL in another spelling, with parameters that end in a slash. -/
def recoveryInput : CallerInput :=
  (CallerInput.ofUrl
    "HTTP://LocalHost:9200/_cat/./recovery/%61,b/?v=true").withTimeouts 5 60

set_option maxRecDepth 2000 in
theorem isCanonical_recovery :
    (Catalog.full clusterTable).Declared ∧
      ∃ r, (Catalog.full clusterTable).classify recoveryInput = .ok r ∧
        r.pathParams = "a,b" ∧
        r.IsCanonical (Catalog.full clusterTable) recoveryInput := by
  obtain ⟨r, hr, hparams⟩ :
      ∃ r, (Catalog.full clusterTable).classify recoveryInput = .ok r ∧
        r.pathParams = "a,b" :=
    ⟨_, rfl, rfl⟩
  exact ⟨Catalog.declared_cluster, r, hr, hparams,
    isCanonical_of_classify Catalog.declared_cluster hr⟩

end ClusterGate
