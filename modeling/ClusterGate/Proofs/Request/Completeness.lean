import ClusterGate.Proofs.Request.Agreement
import ClusterGate.Proofs.Request.CleanParams
import ClusterGate.Proofs.Request.Restated

/-!
# Clean requests in both forms

A cluster API named by its canonical path, with clean parameters and any
query, is accepted as the request that was asked for (`Accepted.ofRoute`),
and the URL of this request alone is accepted as the same one. For this no
canonical path may be covered by the route of another API, whatever is put
behind it (`Catalog.findEntry?_cluster`).
-/

namespace ClusterGate

/-! ## Canonical paths of the cluster APIs -/

namespace Catalog

variable {api : Api} {route : Route}

theorem lead_eq_path (he : (api, route) ∈ clusterTable.routable)
    (hparams : route.params ≠ .unsupported) : route.lead = route.path := by
  have hall : ∀ e ∈ clusterTable.routable, e.2.params ≠ .unsupported →
      e.2.lead = e.2.path := by
    decide
  exact hall _ he hparams

theorem isCleanPath_cluster (he : (api, route) ∈ clusterTable.routable) :
    IsCleanPath route.path.toList := by
  have hall : ∀ e ∈ clusterTable.routable,
      (∀ s ∈ Text.splitAt '/' (e.2.path.toList.drop 1),
        UriPath.CleanSegment s) ∧
        e.2.path.toList =
          UriPath.render (Text.splitAt '/' (e.2.path.toList.drop 1)) := by
    decide
  exact ⟨_, Text.splitWhen_ne_nil _ _, hall _ he⟩

/-- Two routes have nothing in common: neither is the canonical path of one
covered by the other, nor could it be continued to something that is. -/
theorem eq_of_covers (he : (api, route) ∈ clusterTable.routable)
    {e : Api × Route} (hmem : e ∈ clusterTable.routable) {rest : List Char}
    (hcovers : e.2.lead.toList <+: route.path.toList ++ rest) :
    e = (api, route) := by
  have hall : ∀ d ∈ clusterTable.routable, ∀ e ∈ clusterTable.routable, e = d ∨
      ¬ e.2.lead.toList <+: d.2.path.toList ∧
        ¬ d.2.path.toList <+: e.2.lead.toList := by
    decide
  refine (hall _ he e hmem).resolve_right fun ⟨hlead, hpath⟩ => ?_
  exact (List.prefix_or_prefix_of_prefix hcovers
    (List.prefix_append _ rest)).elim hlead hpath

theorem findEntry?_cluster (he : (api, route) ∈ clusterTable.routable)
    {path : String} {rest : List Char}
    (hpath : path.toList = route.path.toList ++ rest) :
    Catalog.findEntry? (full clusterTable) path = some (api, route) := by
  have hcovers : route.covers path = true := by
    obtain ⟨-, hwf⟩ := declared_cluster.route_eq he
    rw [Route.covers, List.isPrefixOf_iff_prefix, hpath]
    exact hwf.covers.trans (List.prefix_append _ rest)
  unfold findEntry?
  -- The search ends at some entry, and no other one covers a path like this.
  cases hfind : (full clusterTable).entries.find? fun e => e.2.covers path with
  | none => exact absurd hcovers (List.find?_eq_none.mp hfind _ he)
  | some e =>
      have hother := List.find?_some hfind
      rw [Route.covers, List.isPrefixOf_iff_prefix, hpath] at hother
      rw [eq_of_covers he (List.mem_of_find?_eq_some hfind) hother]

end Catalog

/-! ## Parameters of clean requests -/

section

variable {api : Api} {route : Route} {params : String}

/-- The parameters that a clean request to a route may have: none unless they
are required, or clean ones if there may be any. -/
def Route.TakesClean (route : Route) (params : String) : Prop :=
  params = "" ∧ route.params ≠ .required ∨
    route.params ≠ .unsupported ∧ CleanParams params

theorem Route.TakesClean.suit (h : route.TakesClean params) :
    SuitParams route params := by
  rcases h with ⟨rfl, hrequired⟩ | ⟨hsupported, hclean⟩
  · exact ⟨nofun, nofun, nofun, fun hrule => absurd hrule hrequired,
      fun _ => rfl⟩
  · exact hclean.suit hsupported

/-- The path of a clean request: the canonical one, and behind it nothing but
the parameters. -/
theorem Route.TakesClean.joinPath (h : route.TakesClean params)
    (hpath : IsCleanPath route.path.toList) :
    IsCleanPath (joinPath route.path params).toList ∧
      ∃ rest, (ClusterGate.joinPath route.path params).toList =
        route.path.toList ++ rest ∧
        trimSlashes rest = params.toList := by
  have hsuit := h.suit
  rcases h with ⟨rfl, -⟩ | ⟨-, hclean⟩
  · have hjoin : ClusterGate.joinPath route.path "" = route.path := rfl
    rw [hjoin]
    exact ⟨hpath, [], (List.append_nil _).symm, rfl⟩
  · rw [toList_joinPath hpath hclean]
    refine ⟨hpath.append hclean, _, rfl, ?_⟩
    have hslash :
        trimSlashes ('/' :: params.toList) = trimSlashes params.toList := rfl
    rw [hslash, hsuit.trimSlashes_eq]

theorem Route.TakesClean.trimSlashes_remainder (h : route.TakesClean params)
    (he : (api, route) ∈ clusterTable.routable) :
    trimSlashes (route.remainder (ClusterGate.joinPath route.path params)) =
      params.toList := by
  have hbundled : route.Bundled := Catalog.Over.bundled (.inl rfl) he
  obtain ⟨-, rest, hpath, hrest⟩ := h.joinPath (Catalog.isCleanPath_cluster he)
  -- Only a route without parameters may lead elsewhere than to its own path.
  by_cases hnone : route.params = .unsupported
  · obtain ⟨-, hwf⟩ := Catalog.declared_cluster.route_eq he
    obtain rfl : params = "" := h.suit.unsupported hnone
    have hallows : route.params.allows = false := by rw [hnone]; rfl
    have hcovers :
        route.lead.toList <+: (ClusterGate.joinPath route.path "").toList :=
      hwf.covers
    exact (Route.trimSlashes_remainder_eq_nil_iff hbundled.trail hallows
      hbundled.lead hcovers).mpr ⟨0, (List.append_nil _).symm⟩
  · have hlead : route.lead = route.path := Catalog.lead_eq_path he hnone
    rw [Route.remainder_of_allows hbundled.trail
        (ParamRule.allows_iff.mpr hnone) (hpath.trans (by rw [hlead])), hrest]

theorem Api.extractParams_clean (he : (api, route) ∈ clusterTable.routable)
    (h : route.TakesClean params) {given : String}
    (hgiven : given = params ∨ given = "") :
    api.extractParams (joinPath route.path params) given = .ok params := by
  obtain ⟨hroute, -⟩ := Catalog.declared_cluster.route_eq he
  rw [Api.extractParams_eq_ok_iff hroute, and_iff_left h.suit]
  by_cases hempty : given = ""
  · rw [if_pos (by simp [hempty]), h.trimSlashes_remainder he,
      String.ofList_toList]
  · obtain rfl : given = params := hgiven.resolve_right hempty
    rw [if_neg (by simpa using hempty), h.suit.trimSlashes_eq,
      String.ofList_toList]

end

/-! ## Requests from their own URLs -/

section

variable {catalog : Catalog} {input : CallerInput} {r : Request}
  {query : SortedMap String} {path : String} {route : Route}

/-- A request from components is accepted from its URL alone if path and query
of the URI say all that it shows. -/
theorem Accepted.classify_url (h : Accepted catalog input r query path route)
    (hurl : input.url = "") (hholds : r.HoldsParams)
    (hquery : r.uri.queryMap .url = .ok r.queryParams)
    (hshown : r.path = if r.pathParams = "" then route.path else route.lead) :
    catalog.classify
      ((CallerInput.ofUrl r.url).withTimeouts input.connectionTimeout
      input.socketTimeout) = .ok r := by
  have hne : r.url ≠ "" := h.url_ne_empty
  have hlike : r.uri.Alike r.uri := ⟨rfl, rfl, rfl, rfl, .refl _⟩
  -- The URL is first added to the components, and these are then left out.
  have hboth : { input with url := r.url }.url ≠ "" := hne
  have htarget : { input with url := r.url }.namesTarget = true := by
    simp [CallerInput.namesTarget, hne]
  have hagree : { input with url := r.url }.checkAgreement r.uri = .ok () := by
    by_cases hpath : input.path = ""
    · exact if_pos (by simp [hpath])
    · exact (CallerInput.checkAgreement_eq_ok_iff hboth hpath).mpr
        ⟨r.uri, (CallerInput.componentUri_withUrl r.url).trans
          (h.componentUri_eq hurl), Uri.sameTarget_iff.mpr hlike⟩
  have hacc := h.retarget r.url hlike htarget (h.targetUri_of_url rfl) hagree
  rw [if_neg (by simpa using hne)] at hacc
  have halone := hacc.urlAlone hboth hholds hquery
  have hpath : { input with url := r.url }.urlAlone.shownPath route
      r.pathParams = r.path := by
    rw [CallerInput.shownPath_eq, hshown]
    exact if_neg (not_not_intro rfl)
  rw [hpath] at halone
  exact classify_eq_ok_iff.mpr ⟨_, _, _, halone⟩

end

/-! ## Clean requests -/

/-- The input that names an API by its canonical path. -/
def CallerInput.ofRoute (route : Route) (scheme params : String)
    (query : SortedMap String) (connectionTimeout socketTimeout : Int32) :
    CallerInput :=
  { ofPath route.path with
    scheme, pathParams := params, queryParams := query
    connectionTimeout, socketTimeout }

/-- The request that such an input asks for. -/
def Request.ofRoute (api : Api) (route : Route) (scheme params : String)
    (query : SortedMap String) (connectionTimeout socketTimeout : Int32) :
    Request :=
  let input :=
    CallerInput.ofRoute route scheme params query
      connectionTimeout socketTimeout
  let uri := input.assemble scheme (.domain supportedHost)
  { api, scheme, host := supportedHost, port := supportedPort
    path := route.path, pathParams := params, queryParams := query
    url := uri.render, connectionTimeout, socketTimeout, uri }

section

variable {api : Api} {route : Route} {scheme params : String}
  {connectionTimeout socketTimeout : Int32}

theorem CallerInput.componentUri_of_clean {input : CallerInput}
    (hscheme : input.scheme ∈ supportedSchemes)
    (hhost : input.host = "" ∨ input.host = supportedHost)
    (hclean : IsCleanPath (joinPath input.path input.pathParams).toList) :
    input.componentUri =
      .ok (input.assemble input.scheme (.domain supportedHost)) ∧
      Utf8.decode (Percent.decode
        (input.assemble input.scheme (.domain supportedHost)).path.toList) =
          .ok (joinPath input.path input.pathParams).toList := by
  obtain ⟨hsegment, hdecoded⟩ :
      hasEmptySegment (input.assemble input.scheme
        (.domain supportedHost)).path.toList = false ∧
          Utf8.decode (Percent.decode
            (input.assemble input.scheme (.domain supportedHost)).path.toList) =
              .ok (joinPath input.path input.pathParams).toList := by
    rw [assemble_eq]
    exact Uri.withPath_of_clean (Uri.kind_of_supported hscheme) hclean
  refine ⟨?_, hdecoded⟩
  rw [componentUri_of_supported hscheme hhost]
  exact Uri.checked_eq_ok_iff.mpr
    ⟨rfl, scheme_assemble ▸ hscheme, by rw [host_assemble]; rfl, hsegment⟩

/-- **Clean requests.** What is asked for is accepted. -/
theorem Accepted.ofRoute (he : (api, route) ∈ clusterTable.routable)
    (hscheme : scheme ∈ supportedSchemes) (hparams : route.TakesClean params)
    (query : SortedMap String)
    (hconnection : TimeoutKind.connection.allows connectionTimeout = true)
    (hsocket : TimeoutKind.socket.allows socketTimeout = true) :
    Accepted (Catalog.full clusterTable)
      (CallerInput.ofRoute route scheme params query connectionTimeout
        socketTimeout)
      (Request.ofRoute api route scheme params query connectionTimeout
        socketTimeout)
      query (joinPath route.path params) route := by
  obtain ⟨-, hwf⟩ := Catalog.declared_cluster.route_eq he
  have hne : route.path ≠ "" := ne_empty_of_slash_prefix hwf.path
  obtain ⟨hclean, rest, hpath, -⟩ :=
    hparams.joinPath (Catalog.isCleanPath_cluster he)
  have hsupported :
      (CallerInput.ofRoute route scheme params query connectionTimeout
      socketTimeout).scheme ∈ supportedSchemes := hscheme
  obtain ⟨hcomponents, hdecoded⟩ :=
    CallerInput.componentUri_of_clean hsupported (.inl rfl) hclean
  have hhost : (Request.ofRoute api route scheme params query connectionTimeout
    socketTimeout).uri.hostText = supportedHost := CallerInput.hostText_assemble
  have hport : (Request.ofRoute api route scheme params query connectionTimeout
    socketTimeout).uri.effectivePort? =
      some supportedPort := CallerInput.effectivePort?_assemble
  exact
    { target := by
        simp [CallerInput.namesTarget, CallerInput.ofRoute, CallerInput.ofPath,
          hne]
      connection := hconnection
      socket := hsocket
      reached := (if_pos rfl).trans hcomponents
      distinct := Uri.queryMap_of_entries CallerInput.queryPairs_assemble
      agreement := if_pos rfl
      endpoint := Uri.checkEndpoint_eq_ok_iff.mpr ⟨by rw [hhost]; rfl, hport⟩
      decoded := Uri.decodedPath_eq_ok_iff.mpr hdecoded
      matched := Catalog.findEntry?_cluster he hpath
      admitted := Api.extractParams_clean he hparams (.inl rfl)
      scheme := CallerInput.scheme_assemble.symm
      host := by
        rw [hhost]
        rfl
      port := by
        rw [hport]
        rfl
      shown := by
        rw [CallerInput.shownPath_eq]
        exact (if_pos hne).symm
      queryParams := (ite_self _).symm
      url := rfl
      connectionTimeout := rfl
      socketTimeout := rfl }

/-- **Both forms of a clean request.** A clean request to a cluster API is
accepted from its components as what was asked for, and from the URL of the
accepted request as the same. -/
theorem classify_clean (he : (api, route) ∈ clusterTable.routable)
    (hscheme : scheme ∈ supportedSchemes) (hparams : route.TakesClean params)
    (query : SortedMap String)
    (hconnection : TimeoutKind.connection.allows connectionTimeout = true)
    (hsocket : TimeoutKind.socket.allows socketTimeout = true) :
    ∃ r, (Catalog.full clusterTable).classify
      (CallerInput.ofRoute route scheme params query
        connectionTimeout socketTimeout) = .ok r ∧
      r.api = api ∧ r.path = route.path ∧ r.pathParams = params ∧
      r.queryParams = query ∧
      (Catalog.full clusterTable).classify
        ((CallerInput.ofUrl r.url).withTimeouts connectionTimeout
          socketTimeout) = .ok r := by
  have hacc := Accepted.ofRoute he hscheme hparams query hconnection hsocket
  refine ⟨_, classify_eq_ok_iff.mpr ⟨_, _, _, hacc⟩, rfl, rfl, rfl, rfl, ?_⟩
  refine hacc.classify_url rfl ?_
    (Uri.queryMap_of_entries CallerInput.queryPairs_assemble) ?_
  · exact hacc.holdsParams_iff.mpr
      (Api.extractParams_clean he hparams (.inr rfl))
  · show route.path = if params = "" then route.path else route.lead
    split
    · rfl
    · next hgiven =>
        rcases hparams with ⟨hempty, -⟩ | ⟨hsupported, -⟩
        · exact absurd hempty hgiven
        · exact (Catalog.lead_eq_path he hsupported).symm

end

/-- Parameters with characters that have to be escaped. -/
def accentedParams : String := "é\x0B/a,<b>#;..c"

def dividingQuery : SortedMap String := .ofList [("a b", "&=?"), ("", "é+")]

theorem cleanParams_accentedParams : CleanParams accentedParams :=
  ⟨⟨["é\x0B".toList, "a,<b>#;..c".toList], by decide, by decide, by decide⟩,
    Percent.forall_mem_of_all (by decide)⟩

set_option maxRecDepth 2000 in
theorem classify_clean_health :
    ∃ api route r, (api, route) ∈ clusterTable.routable ∧
      route.TakesClean accentedParams ∧
      (Catalog.full clusterTable).classify
        (CallerInput.ofRoute route "https" accentedParams dividingQuery 5 60) =
          .ok r ∧
      r.uri.path = "/_cluster/health/%C3%A9%0B/a,%3Cb%3E%23;..c" ∧
      r.uri.query = some "=%C3%A9%2B&a+b=%26%3D%3F" ∧
      (Catalog.full clusterTable).classify
        ((CallerInput.ofUrl r.url).withTimeouts 5 60) = .ok r := by
  have he : (ClusterApi.clusterHealth.entry,
      ClusterApi.plainRoute "/_cluster/health" .optional) ∈
        clusterTable.routable := by decide
  have hparams : (ClusterApi.plainRoute "/_cluster/health" .optional).TakesClean
      accentedParams :=
    .inr ⟨by decide, cleanParams_accentedParams⟩
  obtain ⟨r, hr, -, -, -, -, hagain⟩ :=
    classify_clean he (show "https" ∈ supportedSchemes by decide)
      hparams dividingQuery
      (show TimeoutKind.connection.allows 5 = true by decide)
      (show TimeoutKind.socket.allows 60 = true by decide)
  obtain ⟨r', hr', hpath, hquery⟩ : ∃ r', (Catalog.full clusterTable).classify
      (CallerInput.ofRoute
        (ClusterApi.plainRoute "/_cluster/health" .optional) "https"
        accentedParams dividingQuery 5 60) = .ok r' ∧
      r'.uri.path = "/_cluster/health/%C3%A9%0B/a,%3Cb%3E%23;..c" ∧
      r'.uri.query = some "=%C3%A9%2B&a+b=%26%3D%3F" :=
    ⟨_, rfl, rfl, rfl⟩
  obtain rfl : r = r' := Except.ok.inj (hr.symm.trans hr')
  exact ⟨_, _, r, he, hparams, hr, hpath, hquery, hagain⟩

end ClusterGate
