import ClusterGate.Proofs.Request.Canonical
import ClusterGate.Proofs.Request.Components

/-!
# Requests given back as inputs

A request given back as an input names its target twice, by its URL and by
its components, and is accepted only if the two agree. Nothing in the
first pass makes sure of that: the path shown is the beginning that was
matched, or the caller's, and not the rest of the path that was sent. The
second pass makes the same request of those that restate themselves, and
of no others.
-/

namespace ClusterGate

/-! ## URIs of components -/

/-- A URI from components alone is of the form that can be read back. -/
theorem CallerInput.local_of_componentUri {input : CallerInput} {uri : Uri}
    (h : input.componentUri = .ok uri)
    (hhost : uri.host = some (.domain supportedHost))
    (hport : uri.effectivePort? = some supportedPort) : uri.Local := by
  obtain ⟨hscheme, host, -, rfl⟩ := componentUri_eq_ok h
  rw [assemble_eq] at hhost hport ⊢
  refine
    { scheme := hscheme
      username := rfl
      password := rfl
      host := hhost
      port := ?_
      path := ?_
      query := ?_
      fragment := rfl }
  · dsimp only [Uri.effectivePort?] at hport ⊢
    by_cases hsame :
      Uri.defaultPort? input.wantedScheme = some (input.port.getD supportedPort)
    · rw [if_pos hsame] at hport
      exact absurd hport (Uri.defaultPort?_ne_supportedPort hscheme)
    · rwa [if_neg hsame] at hport ⊢
  · have hspecial : (SchemeKind.of input.wantedScheme != .other) = true := by
      rw [Uri.kind_of_supported hscheme]
      rfl
    exact ⟨_, by rw [Uri.withPath, hspecial]⟩
  · intro query hquery
    dsimp only at hquery
    split at hquery
    · cases hquery
    · exact ⟨_, (Option.some.inj hquery).symm⟩

/-! ## The components of a request -/

/-- A request whose components describe its own URI. -/
structure Request.RestatesItself (r : Request) : Prop where
  /-- The path shown and the parameters make up the path of the URI. -/
  path : r.uri.withPath (joinPath r.path r.pathParams) = r.uri
  /-- The query is that of the URI. -/
  query : ∀ k v, r.queryParams.get? k = some v ↔ (k, v) ∈ r.uri.queryPairs
  /-- Parameters are missing only if the path has none either. -/
  params : r.pathParams = "" → ∀ path route,
    Utf8.decode (Percent.decode r.uri.path.toList) = .ok path.toList →
      r.api.route = some route → trimSlashes (route.remainder path) = []

section

variable {r : Request}

theorem Uri.withPath_eq_self_iff {uri : Uri} {text : String} :
    uri.withPath text = uri ↔ (uri.withPath text).path = uri.path := by
  constructor
  · intro h
    rw [h]
  · intro h
    cases uri
    exact congrArg (Uri.mk _ _ _ _ _ · _ _) h

theorem Request.componentUri_toInput (hscheme : r.scheme ∈ supportedSchemes)
    (hhost : r.host = supportedHost) :
    r.toInput.componentUri =
      (r.toInput.assemble r.scheme (.domain supportedHost)).checked .path :=
  CallerInput.componentUri_of_supported hscheme (.inr hhost)

end

section

variable {catalog : Catalog} {input : CallerInput} {r : Request}
  {query : SortedMap String} {path : String} {route : Route}

theorem Accepted.path_assemble (h : Accepted catalog input r query path route)
    {host : Host} :
    (r.toInput.assemble r.scheme host).path =
      (r.uri.withPath (joinPath r.path r.pathParams)).path := by
  rw [CallerInput.assemble_eq, Uri.withPath, Uri.withPath, h.scheme]
  rfl

/-- The components agree with the URI of a request exactly if path and query
do. -/
theorem Accepted.sameTarget_iff
    (h : Accepted catalog input r query path route) :
    (r.toInput.assemble r.scheme (.domain supportedHost)).sameTarget
      r.uri = true ↔
        r.uri.withPath (joinPath r.path r.pathParams) = r.uri ∧
          ∀ k v, r.queryParams.get? k = some v ↔ (k, v) ∈ r.uri.queryPairs := by
  have hnodup : r.uri.queryPairs.Nodup :=
    List.Pairwise.of_map Prod.fst
      (fun _ _ hne heq => hne (congrArg Prod.fst heq))
      (Uri.queryMap_eq_ok_iff.mp h.distinct).1
  have hscheme : (r.toInput.assemble r.scheme (.domain supportedHost)).scheme =
      r.uri.scheme :=
    CallerInput.scheme_assemble.trans h.scheme
  have hhostText :
      (r.toInput.assemble r.scheme (.domain supportedHost)).hostText =
        r.uri.hostText := by
    rw [CallerInput.hostText_assemble, Uri.hostText, h.uriHost]
  have hport :
      (r.toInput.assemble r.scheme (.domain supportedHost)).effectivePort? =
        r.uri.effectivePort? := by
    have hgiven : r.toInput.port.getD supportedPort = supportedPort := h.port_eq
    rw [CallerInput.effectivePort?_assemble, hgiven, h.uriPort_eq]
  rw [Uri.sameTarget, hscheme, hhostText, hport, h.path_assemble,
    CallerInput.queryPairs_assemble, Uri.withPath_eq_self_iff,
    ← SortedMap.perm_entries_iff hnodup, ← List.isPerm_iff]
  simp [Request.toInput]

/-- The URL of a request is read as its URI: the caller's URL again, or the
rendered URI of the components. -/
theorem Accepted.parse_url (h : Accepted catalog input r query path route) :
    Uri.parse r.url = .ok r.uri := by
  have hreached := h.reached
  rw [h.url]
  by_cases hempty : input.url.isEmpty = true
  · rw [CallerInput.targetUri, if_pos hempty] at hreached
    rw [if_pos hempty]
    exact Uri.parse_render
      (CallerInput.local_of_componentUri hreached h.uriHost h.uriPort_eq)
  · rw [CallerInput.targetUri, if_neg hempty] at hreached
    rw [if_neg hempty]
    exact (CallerInput.urlUri_eq_ok_iff.mp hreached).1

theorem Accepted.url_ne_empty (h : Accepted catalog input r query path route) :
    r.url ≠ "" := by
  intro hempty
  have hparse := h.parse_url
  rw [hempty] at hparse
  cases hparse

/-! ## The second pass -/

/-- Whatever has the URL of a request points at its URI. -/
theorem Accepted.targetUri_of_url
    (h : Accepted catalog input r query path route) {other : CallerInput}
    (hurl : other.url = r.url) : other.targetUri = .ok r.uri := by
  obtain ⟨field, hchecked⟩ := CallerInput.checked_of_targetUri h.reached
  have hne : other.url ≠ "" := hurl ▸ h.url_ne_empty
  rw [CallerInput.targetUri_eq_ok_iff_of_url hne, hurl]
  exact ⟨h.parse_url,
    Uri.checked_eq_ok_iff.mpr (Uri.checked_eq_ok_iff.mp hchecked)⟩

theorem Accepted.targetUri_toInput
    (h : Accepted catalog input r query path route) :
    r.toInput.targetUri = .ok r.uri :=
  h.targetUri_of_url rfl

/-- What the two descriptions of the target in a request come to. -/
theorem Accepted.checkAgreement_toInput_iff
    (h : Accepted catalog input r query path route) (hcat : catalog.Declared) :
    r.toInput.checkAgreement r.uri = .ok () ↔
      r.uri.withPath (joinPath r.path r.pathParams) = r.uri ∧
        ∀ k v, r.queryParams.get? k = some v ↔ (k, v) ∈ r.uri.queryPairs := by
  obtain ⟨hscheme, hsegment⟩ := h.checked
  rw [CallerInput.checkAgreement_eq_ok_iff h.url_ne_empty
      (h.path_ne_empty hcat),
    Request.componentUri_toInput hscheme h.host_eq, ← h.sameTarget_iff]
  constructor
  · rintro ⟨components, hcomponents, hsame⟩
    obtain ⟨rfl, -⟩ := Uri.checked_eq_ok_iff.mp hcomponents
    exact hsame
  · intro hsame
    refine ⟨_, Uri.checked_eq_ok_iff.mpr ⟨rfl, ?_, ?_, ?_⟩, hsame⟩
    · rw [CallerInput.assemble_eq]
      exact hscheme
    · rw [CallerInput.assemble_eq]
      rfl
    · rw [h.path_assemble, (h.sameTarget_iff.mp hsame).1]
      exact hsegment

/-- The parameters of a request are accepted again, unless there are none
and the path has some. -/
theorem Accepted.admitted_toInput_iff
    (h : Accepted catalog input r query path route) (hcat : catalog.Declared) :
    r.api.extractParams path r.pathParams = .ok r.pathParams ↔
      (r.pathParams = "" → trimSlashes (route.remainder path) = []) := by
  have hsuit := h.suitParams hcat
  rw [Api.extractParams_eq_ok_iff (h.route_eq hcat), and_iff_left hsuit]
  by_cases hempty : r.pathParams = ""
  · rw [if_pos (by simp [hempty]), hempty, eq_comm, String.ofList_eq_empty_iff]
    exact ⟨fun hnil _ => hnil, fun hnil => hnil rfl⟩
  · rw [if_neg (by simpa using hempty), hsuit.trimSlashes_eq,
      String.ofList_toList]
    exact iff_of_true rfl fun h => absurd h hempty

/-- The decoded path is settled by the URI. -/
theorem Accepted.path_unique (h : Accepted catalog input r query path route)
    {other : String}
    (hother : Utf8.decode (Percent.decode r.uri.path.toList) =
      .ok other.toList) : path = other :=
  String.toList_inj.mp
    (Except.ok.inj ((Uri.decodedPath_eq_ok_iff.mp h.decoded).symm.trans hother))

/-- A request that is accepted again restates itself. -/
theorem Accepted.restatesItself
    (h : Accepted catalog input r query path route) (hcat : catalog.Declared)
    (hagain : catalog.classify r.toInput = .ok r) : r.RestatesItself := by
  obtain ⟨_, path', _, hacc'⟩ := classify_eq_ok_iff.mp hagain
  obtain ⟨hpath, hquery⟩ :=
    (h.checkAgreement_toInput_iff hcat).mp hacc'.agreement
  obtain rfl : path = path' :=
    h.path_unique (Uri.decodedPath_eq_ok_iff.mp hacc'.decoded)
  refine ⟨hpath, hquery, fun hnone other route' hother hroute' => ?_⟩
  obtain rfl := h.path_unique hother
  obtain rfl := Option.some.inj ((h.route_eq hcat).symm.trans hroute')
  exact (h.admitted_toInput_iff hcat).mp hacc'.admitted hnone

/-- A request that restates itself is accepted again. -/
theorem Accepted.toInput (h : Accepted catalog input r query path route)
    (hcat : catalog.Declared) (hrestates : r.RestatesItself) :
    Accepted catalog r.toInput r query path route where
  target := by
    simp [CallerInput.namesTarget, Request.toInput, h.path_ne_empty hcat]
  connection := by
    have hconnection := h.connection
    rw [← h.connectionTimeout] at hconnection
    exact hconnection
  socket := by
    have hsocket := h.socket
    rw [← h.socketTimeout] at hsocket
    exact hsocket
  reached := h.targetUri_toInput
  distinct := Uri.queryMap_eq_ok_iff.mpr (Uri.queryMap_eq_ok_iff.mp h.distinct)
  agreement :=
    (h.checkAgreement_toInput_iff hcat).mpr ⟨hrestates.path, hrestates.query⟩
  endpoint := h.endpoint
  decoded :=
    Uri.decodedPath_eq_ok_iff.mpr (Uri.decodedPath_eq_ok_iff.mp h.decoded)
  matched := h.matched
  admitted := (h.admitted_toInput_iff hcat).mpr fun hnone =>
    hrestates.params hnone path route (Uri.decodedPath_eq_ok_iff.mp h.decoded)
      (h.route_eq hcat)
  scheme := h.scheme
  host := h.host
  port := h.port
  shown := by
    rw [CallerInput.shownPath_eq]
    exact (if_pos (h.path_ne_empty hcat)).symm
  queryParams := by
    have hquery := (Uri.queryMap_eq_ok_iff.mp h.distinct).2
    have hsame : query = r.queryParams := SortedMap.ext_get? fun k =>
      Option.ext fun v => (hquery k v).trans (hrestates.query k v).symm
    rw [hsame]
    exact (ite_self _).symm
  url := (if_neg (by simpa [Request.toInput] using h.url_ne_empty)).symm
  connectionTimeout := rfl
  socketTimeout := rfl

/-- **Requests given back.** Classifying a request of a catalog over a
declared set yields the request again exactly if it restates itself. -/
theorem classify_toInput_iff (hcat : catalog.Declared)
    (h : catalog.classify input = .ok r) :
    catalog.classify r.toInput = .ok r ↔ r.RestatesItself := by
  obtain ⟨query, path, route, hacc⟩ := classify_eq_ok_iff.mp h
  constructor
  · intro hagain
    exact hacc.restatesItself hcat hagain
  · intro hrestates
    exact classify_eq_ok_iff.mpr
      ⟨query, path, route, hacc.toInput hcat hrestates⟩

end

set_option maxRecDepth 2000 in
/-- A path without parameters that ends in a slash is shown without it, and
so the request contradicts its own URL. -/
theorem classify_toInput_health :
    (Catalog.full clusterTable).Declared ∧
      ∃ r, (Catalog.full clusterTable).classify
          (CallerInput.ofUrl "http://localhost:9200/_cluster/health/") = .ok r ∧
        (Catalog.full clusterTable).classify r.toInput =
          .error (.conflictingTarget "http://localhost:9200/_cluster/health/"
            "http://localhost:9200/_cluster/health") :=
  ⟨Catalog.declared_cluster, _, rfl, rfl⟩

set_option maxRecDepth 2000 in
theorem restatesItself_recovery :
    (Catalog.full clusterTable).Declared ∧
      ∃ r, (Catalog.full clusterTable).classify
          (CallerInput.ofUrl "http://localhost:9200/_cat/recovery/a,b?v=true") =
            .ok r ∧
        r.pathParams = "a,b" ∧ r.RestatesItself := by
  obtain ⟨r, hr, hagain, hparams⟩ :
      ∃ r, (Catalog.full clusterTable).classify
          (CallerInput.ofUrl "http://localhost:9200/_cat/recovery/a,b?v=true") =
            .ok r ∧
        (Catalog.full clusterTable).classify r.toInput = .ok r ∧
          r.pathParams = "a,b" :=
    ⟨_, rfl, rfl, rfl⟩
  exact ⟨Catalog.declared_cluster, r, hr, hparams,
    (classify_toInput_iff Catalog.declared_cluster hr).mp hagain⟩

end ClusterGate
