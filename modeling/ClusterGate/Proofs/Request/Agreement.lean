import ClusterGate.Proofs.Request.Boundary
import ClusterGate.Proofs.Request.Components

/-!
# A URL and the components beside it

An input that has a URL and a path is accepted exactly if its components
alone would be, and as the same request: whatever is asked of a URI is asked
alike of any other with the same target (`Accepted.retarget`).

An input that has a URL and no path is not held to its components, and the
parameters beside a URL are only compared as part of the path. Components
that agree with the URL they stand beside are told by what the URL alone
would have become (`CallerInput.urlAlone`).
-/

namespace ClusterGate

section

variable {catalog : Catalog} {input : CallerInput} {r : Request}
  {query : SortedMap String} {path : String} {route : Route} {uri : Uri}

/-! ## The same target by another URL -/

/-- An accepted input is accepted with another URL, or without one, that
leads to the same target. -/
theorem Accepted.retarget (h : Accepted catalog input r query path route)
    (url : String) (hlike : r.uri.Alike uri)
    (htarget : { input with url }.namesTarget = true)
    (hreached : { input with url }.targetUri = .ok uri)
    (hagree : { input with url }.checkAgreement uri = .ok ()) :
    Accepted catalog { input with url }
      { r with url := if url.isEmpty then uri.render else url, uri }
      query path route where
  target := htarget
  connection := h.connection
  socket := h.socket
  reached := hreached
  distinct := hlike.queryMap_iff.mp h.distinct
  agreement := hagree
  endpoint := hlike.checkEndpoint_iff.mp h.endpoint
  decoded := hlike.decodedPath_iff.mp h.decoded
  matched := h.matched
  admitted := h.admitted
  scheme := h.scheme.trans hlike.scheme
  host := by rw [h.host, hlike.host]
  port := by rw [h.port, hlike.port]
  shown := h.shown
  queryParams := h.queryParams
  url := rfl
  connectionTimeout := h.connectionTimeout
  socketTimeout := h.socketTimeout

/-- Next to a path, the components of an accepted URL have its target. -/
theorem Accepted.exists_components
    (h : Accepted catalog input r query path route) (hurl : input.url ≠ "")
    (hpath : input.path ≠ "") :
    ∃ components, input.componentUri = .ok components ∧
      components.Alike r.uri := by
  obtain ⟨components, hcomponents, hsame⟩ :=
    (CallerInput.checkAgreement_eq_ok_iff hurl hpath).mp h.agreement
  exact ⟨components, hcomponents, Uri.sameTarget_iff.mp hsame⟩

/-- **A URL next to a path.** An input with both is accepted exactly if its
URL can be used, its components have the same target, and they alone are
accepted. The request is then the same but for its URL and URI. -/
theorem classify_iff_components (hurl : input.url ≠ "")
    (hpath : input.path ≠ "") :
    catalog.classify input = .ok r ↔
      ∃ uri components r', Uri.parse input.url = .ok uri ∧
        uri.checked .url = .ok uri ∧
        (uri.queryPairs.map Prod.fst).Nodup ∧
        input.componentUri = .ok components ∧
        components.Alike uri ∧
        catalog.classify { input with url := "" } = .ok r' ∧
        r = { r' with url := input.url, uri } := by
  constructor
  · intro h
    obtain ⟨query, path, route, hacc⟩ := classify_eq_ok_iff.mp h
    obtain ⟨hparse, hchecked⟩ :=
      (CallerInput.targetUri_eq_ok_iff_of_url hurl).mp hacc.reached
    obtain ⟨hnodup, -⟩ := Uri.queryMap_eq_ok_iff.mp hacc.distinct
    obtain ⟨components, hcomponents, hlike⟩ := hacc.exists_components hurl hpath
    have htarget : { input with url := "" }.namesTarget = true := by
      simp [CallerInput.namesTarget, hpath]
    have hacc' := hacc.retarget "" hlike.symm htarget hcomponents rfl
    refine ⟨r.uri, components, _, hparse, hchecked, hnodup, hcomponents, hlike,
      classify_eq_ok_iff.mpr ⟨query, path, route, hacc'⟩, ?_⟩
    have hshown : r.url = input.url := by
      rw [hacc.url, if_neg (by simpa using hurl)]
    rw [← hshown]
  · rintro ⟨uri, components, r', hparse, hchecked, -, hcomponents,
      hlike, h, rfl⟩
    obtain ⟨query, path, route, hacc⟩ := classify_eq_ok_iff.mp h
    obtain rfl : components = r'.uri :=
      Except.ok.inj (hcomponents.symm.trans hacc.reached)
    have htarget : input.namesTarget = true := by
      simp [CallerInput.namesTarget, hpath]
    have hagree : input.checkAgreement uri = .ok () :=
      (CallerInput.checkAgreement_eq_ok_iff hurl hpath).mpr
        ⟨_, hcomponents, Uri.sameTarget_iff.mpr hlike⟩
    have hacc' := hacc.retarget input.url hlike htarget
      ((CallerInput.targetUri_eq_ok_iff_of_url hurl).mpr ⟨hparse, hchecked⟩)
      hagree
    rw [if_neg (by simpa using hurl)] at hacc'
    exact classify_eq_ok_iff.mpr ⟨query, path, route, hacc'⟩

end

/-- A URL with credentials, a fragment and its query in another order, next
to all that it says. -/
def doublyNamedInput : CallerInput :=
  (((CallerInput.ofUrl
    "http://ops@LOCALHOST:9200/_cluster/health/a?wait=1&level=shards#top").withPath
    "/_cluster/health/").withPathParams "/a").withQueryParam "level" "shards"
      |>.withQueryParam "wait" "1"

set_option maxRecDepth 2000 in
theorem classify_iff_components_health :
    doublyNamedInput.url ≠ "" ∧ doublyNamedInput.path ≠ "" ∧
      ∃ uri r r', (Catalog.full clusterTable).classify
        doublyNamedInput = .ok r ∧
        (Catalog.full clusterTable).classify
          { doublyNamedInput with url := "" } = .ok r' ∧
        r = { r' with url := doublyNamedInput.url, uri } := by
  have hurl : doublyNamedInput.url ≠ "" := by decide
  have hpath : doublyNamedInput.path ≠ "" := by decide
  obtain ⟨r, hr⟩ : ∃ r, (Catalog.full clusterTable).classify doublyNamedInput =
      .ok r := ⟨_, rfl⟩
  obtain ⟨uri, _, r', -, -, -, -, -, hr', heq⟩ :=
    (classify_iff_components hurl hpath).mp hr
  exact ⟨hurl, hpath, uri, r, r', hr, hr', heq⟩

section

variable {catalog : Catalog} {input : CallerInput} {r : Request}
  {query : SortedMap String} {path : String} {route : Route}

/-! ## Components that say the same as the URL -/

/-- A scheme, host or port that is given is that of the URI. -/
structure CallerInput.NamesEndpoint (input : CallerInput) (uri : Uri) :
    Prop where
  scheme : input.scheme ≠ "" →
    String.ofList (input.scheme.toList.map Char.toLower) = uri.scheme
  host : input.host ≠ "" →
    ∃ host, Host.parse input.host.toList = .ok host ∧ uri.host = some host
  port : ∀ port, input.port = some port → uri.effectivePort? = some port

/-- What is given beside a URL says the same as the URI it leads to. -/
structure CallerInput.AgreesWith (input : CallerInput) (r : Request) :
    Prop where
  endpoint : input.NamesEndpoint r.uri
  /-- Given parameters are found in the path, with nothing given. -/
  pathParams : input.pathParams ≠ "" → ∃ path, r.HasPath path.toList ∧
    r.api.extractParams path "" =
      .ok (String.ofList (trimSlashes input.pathParams.toList))
  queryParams : input.queryParams ≠ ∅ →
    r.uri.queryMap .url = .ok input.queryParams

/-- The input that is left without the components. -/
def CallerInput.urlAlone (input : CallerInput) : CallerInput :=
  (ofUrl input.url).withTimeouts input.connectionTimeout input.socketTimeout

/-- Next to a path, scheme, host and port have to be those of the URL. -/
theorem Accepted.namesEndpoint (h : Accepted catalog input r query path route)
    (hurl : input.url ≠ "") (hpath : input.path ≠ "") :
    input.NamesEndpoint r.uri := by
  obtain ⟨components, hcomponents, hlike⟩ := h.exists_components hurl hpath
  obtain ⟨-, host, hparse, rfl⟩ := CallerInput.componentUri_eq_ok hcomponents
  constructor
  · intro hscheme
    rw [← hlike.scheme, CallerInput.assemble_eq, CallerInput.wantedScheme,
      if_neg (by simpa using hscheme)]
  · intro hhost
    rw [CallerInput.wantedHost, if_neg (by simpa using hhost)] at hparse
    obtain ⟨hsupported, -⟩ := Uri.checkEndpoint_eq_ok_iff.mp h.endpoint
    rw [← hlike.host, CallerInput.assemble_eq, Uri.hostText] at hsupported
    have hlocal : host = .domain supportedHost :=
      Host.eq_domain_of_isSupportedHost hparse hsupported
    exact ⟨host, hparse, hlocal ▸ h.uriHost⟩
  · intro port hport
    rw [← hlike.port, CallerInput.effectivePort?_assemble, hport]
    rfl

/-- Given parameters are found in the path exactly if those of the request
are. -/
theorem Accepted.pathParams_agree_iff
    (h : Accepted catalog input r query path route) :
    (input.pathParams ≠ "" → ∃ path, r.HasPath path.toList ∧
      r.api.extractParams path "" =
        .ok (String.ofList (trimSlashes input.pathParams.toList))) ↔
          r.HoldsParams := by
  by_cases hgiven : input.pathParams = ""
  · exact iff_of_true (absurd hgiven) (h.holdsParams hgiven)
  · rw [← Api.eq_trimSlashes_of_extractParams h.admitted hgiven]
    exact forall_prop_of_true hgiven

/-- A given query is that of the URI exactly if the query of the request is. -/
theorem Accepted.queryParams_agree_iff
    (h : Accepted catalog input r query path route) :
    (input.queryParams ≠ ∅ → r.uri.queryMap .url = .ok input.queryParams) ↔
      r.uri.queryMap .url = .ok r.queryParams := by
  have hquery : r.uri.queryMap .url = .ok query :=
    Uri.queryMap_eq_ok_iff.mpr (Uri.queryMap_eq_ok_iff.mp h.distinct)
  have hshown := h.queryParams
  by_cases hgiven : input.queryParams = ∅
  · rw [if_pos (SortedMap.isEmpty_iff.mpr hgiven)] at hshown
    exact iff_of_true (absurd hgiven) (hshown ▸ hquery)
  · rw [if_neg (mt SortedMap.isEmpty_iff.mp hgiven)] at hshown
    rw [hshown]
    exact forall_prop_of_true hgiven

/-- The URL alone makes a request of its own parameters and query. -/
theorem Accepted.urlAlone (h : Accepted catalog input r query path route)
    (hurl : input.url ≠ "") (hholds : r.HoldsParams)
    (hquery : r.uri.queryMap .url = .ok r.queryParams) :
    Accepted catalog input.urlAlone
      { r with path := input.urlAlone.shownPath route r.pathParams }
      r.queryParams path route := by
  have hgiven : ¬ input.url.isEmpty = true := by simpa using hurl
  have halone : input.urlAlone.url ≠ "" := hurl
  have hreached := (CallerInput.targetUri_eq_ok_iff_of_url hurl).mp h.reached
  have hshown : r.url = input.url := by
    rw [h.url, if_neg hgiven]
  exact
    { target := by
        simp [CallerInput.namesTarget, CallerInput.urlAlone, CallerInput.ofUrl,
          CallerInput.withTimeouts, hurl]
      connection := h.connection
      socket := h.socket
      reached := (CallerInput.targetUri_eq_ok_iff_of_url halone).mpr hreached
      distinct := Uri.queryMap_eq_ok_iff.mpr (Uri.queryMap_eq_ok_iff.mp hquery)
      agreement := if_pos (Bool.or_true _)
      endpoint := h.endpoint
      decoded := Uri.decodedPath_eq_ok_iff.mpr h.hasPath
      matched := h.matched
      admitted := h.holdsParams_iff.mp hholds
      scheme := h.scheme
      host := h.host
      port := h.port
      shown := rfl
      queryParams := rfl
      url := hshown.trans (if_neg hgiven).symm
      connectionTimeout := h.connectionTimeout
      socketTimeout := h.socketTimeout }

/-- The URL alone makes the same request exactly if parameters and query are
its own. -/
theorem Accepted.classify_urlAlone_iff
    (h : Accepted catalog input r query path route) (hurl : input.url ≠ "") :
    (∃ shown, catalog.classify input.urlAlone = .ok { r with path := shown }) ↔
      r.HoldsParams ∧ r.uri.queryMap .url = .ok r.queryParams := by
  constructor
  · rintro ⟨shown, halone⟩
    obtain ⟨query', path', route', hacc⟩ := classify_eq_ok_iff.mp halone
    have hquery : r.queryParams = query' := hacc.queryParams
    rw [hquery]
    exact ⟨hacc.holdsParams rfl,
      Uri.queryMap_eq_ok_iff.mpr (Uri.queryMap_eq_ok_iff.mp hacc.distinct)⟩
  · rintro ⟨hholds, hquery⟩
    exact ⟨_, classify_eq_ok_iff.mpr ⟨_, _, _, h.urlAlone hurl hholds hquery⟩⟩

/-- **A URL and its components.** What is given beside the URL of an accepted
input agrees with it exactly if scheme, host and port do, which they have
to next to a path, and the URL alone makes the same request, apart from the
path that is shown. -/
theorem agreesWith_iff (hurl : input.url ≠ "")
    (h : catalog.classify input = .ok r) :
    input.AgreesWith r ↔ (input.path = "" → input.NamesEndpoint r.uri) ∧
      ∃ shown, catalog.classify input.urlAlone =
        .ok { r with path := shown } := by
  obtain ⟨query, path, route, hacc⟩ := classify_eq_ok_iff.mp h
  have hendpoint : (input.path = "" → input.NamesEndpoint r.uri) ↔
      input.NamesEndpoint r.uri := by
    by_cases hpath : input.path = ""
    · exact forall_prop_of_true hpath
    · exact iff_of_true (absurd · hpath) (hacc.namesEndpoint hurl hpath)
  rw [hendpoint, hacc.classify_urlAlone_iff hurl, ← hacc.pathParams_agree_iff,
    ← hacc.queryParams_agree_iff]
  constructor
  · rintro ⟨hnames, hparams, hquery⟩
    exact ⟨hnames, hparams, hquery⟩
  · rintro ⟨hnames, hparams, hquery⟩
    exact ⟨hnames, hparams, hquery⟩

end

/-- A URL next to all that it says but the path, in other spellings. -/
def agreeingInput : CallerInput :=
  (((((CallerInput.ofUrl
    "http://localhost:9200/_cluster/health/a?level=shards").withScheme
    "HTTP").withHost "LocalHost").withPort 9200).withPathParams
      "/a/").withQueryParam "level" "shards"

set_option maxRecDepth 2000 in
theorem agreesWith_health :
    agreeingInput.url ≠ "" ∧
      ∃ r, (Catalog.full clusterTable).classify agreeingInput = .ok r ∧
      agreeingInput.AgreesWith r := by
  have hurl : agreeingInput.url ≠ "" := by decide
  obtain ⟨r, hr, hscheme, hhost, hport, halone⟩ :
      ∃ r, (Catalog.full clusterTable).classify agreeingInput = .ok r ∧
        r.uri.scheme = "http" ∧
        r.uri.host = some (.domain supportedHost) ∧
        r.uri.effectivePort? = some 9200 ∧
        (Catalog.full clusterTable).classify agreeingInput.urlAlone =
          .ok { r with path := r.path } :=
    ⟨_, rfl, rfl, rfl, rfl, rfl⟩
  have hnames : agreeingInput.NamesEndpoint r.uri := by
    constructor
    · intro _
      rw [hscheme]
      rfl
    · intro _
      exact ⟨_, rfl, hhost⟩
    · intro port hgiven
      obtain rfl := Option.some.inj hgiven
      exact hport
  exact ⟨hurl, r, hr,
    (agreesWith_iff hurl hr).mpr ⟨fun _ => hnames, r.path, halone⟩⟩

/-- A URL next to a scheme, host, port, parameters and query of another. -/
def contradictingInput : CallerInput :=
  (((((CallerInput.ofUrl
    "http://localhost:9200/_cluster/health/a?level=shards").withScheme
    "https").withHost "example.com").withPort 9300).withPathParams
      "b").withQueryParam "level" "indices"

set_option maxRecDepth 2000 in
/-- Without a path nothing is compared, and the request shows parameters and
a query that it is not sent with. -/
theorem not_agreesWith_health :
    contradictingInput.url ≠ "" ∧
      ∃ r, (Catalog.full clusterTable).classify contradictingInput = .ok r ∧
        r.pathParams = "b" ∧ r.uri.path = "/_cluster/health/a" ∧
        r.queryParams.entries = [("level", "indices")] ∧
        r.uri.queryPairs = [("level", "shards")] ∧
        ¬ contradictingInput.AgreesWith r := by
  obtain ⟨r, hr, hparams, hpath, hquery, hpairs, hport⟩ :
      ∃ r, (Catalog.full clusterTable).classify contradictingInput = .ok r ∧
        r.pathParams = "b" ∧
        r.uri.path = "/_cluster/health/a" ∧
        r.queryParams.entries = [("level", "indices")] ∧
        r.uri.queryPairs = [("level", "shards")] ∧
        r.uri.effectivePort? = some 9200 :=
    ⟨_, rfl, rfl, rfl, rfl, rfl, rfl⟩
  refine ⟨by decide, r, hr, hparams, hpath, hquery, hpairs, fun hagrees => ?_⟩
  have hgiven := hagrees.endpoint.port 9300 rfl
  rw [hport] at hgiven
  exact absurd hgiven (by decide)

end ClusterGate
