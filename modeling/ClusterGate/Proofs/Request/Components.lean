import ClusterGate.Proofs.Request.Accepted
import ClusterGate.Proofs.Request.Target
import ClusterGate.Proofs.SortedMap
import ClusterGate.Proofs.Uri.Host
import ClusterGate.Proofs.Uri.HostText

/-!
# The two ways to a target

A URI is reached by the URL of an input or by its components. Reading scheme
and host as one text gives just the two (`componentUri_eq`), and what the
components are put together to can be read off them again: scheme, host,
port and query. However a URI was reached, a supported host is the domain
`localhost`.
-/

namespace ClusterGate

variable {input : CallerInput} {uri : Uri}

theorem CallerInput.urlUri_eq_ok_iff :
    input.urlUri = .ok uri ↔
      Uri.parse input.url = .ok uri ∧ uri.checked .url = .ok uri := by
  unfold urlUri
  cases hparse : Uri.parse input.url with
  | error e => simp
  | ok parsed =>
      constructor
      · intro h
        obtain ⟨rfl, -⟩ := Uri.checked_eq_ok_iff.mp h
        exact ⟨rfl, h⟩
      · rintro ⟨hsame, h⟩
        obtain rfl := Except.ok.inj hsame
        exact h

theorem CallerInput.targetUri_eq_ok_iff_of_url (hurl : input.url ≠ "") :
    input.targetUri = .ok uri ↔
      Uri.parse input.url = .ok uri ∧ uri.checked .url = .ok uri := by
  rw [targetUri, if_neg (by simpa using hurl), urlUri_eq_ok_iff]

/-- The URI of a scheme, a host, and the remaining components. -/
def CallerInput.assemble (input : CallerInput) (scheme : String)
    (host : Host) : Uri :=
  input.complete ⟨scheme, "", "", some host, none, "/", none, none⟩

theorem CallerInput.assemble_eq {scheme : String} {host : Host} :
    input.assemble scheme host =
      { scheme, username := "", password := "", host := some host
        port :=
          if Uri.defaultPort? scheme = some (input.port.getD supportedPort)
          then none else some (input.port.getD supportedPort)
        path := (Uri.withPath ⟨scheme, "", "", none, none, "", none, none⟩
          (joinPath input.path input.pathParams)).path
        query := if input.queryParams.isEmpty then none
          else some (String.ofList (Query.render input.queryParams.entries))
        fragment := none } := by
  unfold assemble complete
  split <;> rfl

theorem CallerInput.scheme_assemble {scheme : String} {host : Host} :
    (input.assemble scheme host).scheme = scheme := by rw [assemble_eq]

theorem CallerInput.host_assemble {scheme : String} {host : Host} :
    (input.assemble scheme host).host = some host := by rw [assemble_eq]

theorem CallerInput.hostText_assemble {scheme : String} {host : Host} :
    (input.assemble scheme host).hostText = host.render := by
  rw [Uri.hostText, host_assemble]

/-- **URIs of components.** The text of scheme and host makes the URI of the
scheme and of what the host stands for. -/
theorem CallerInput.componentUri_eq :
    input.componentUri =
      if input.wantedScheme ∉ supportedSchemes then
        .error (.invalidUrl .scheme input.scheme
          (.unsupportedScheme input.wantedScheme))
      else
        match Host.parse input.wantedHost.toList with
        | .error e =>
            .error (.invalidUrl .host input.wantedHost (.unreadable e))
        | .ok host =>
            (input.assemble input.wantedScheme host).checked .path := by
  unfold componentUri
  split
  · rfl
  next hscheme =>
  cases hhost : Host.parse input.wantedHost.toList with
  | error e => rfl
  | ok host =>
      rw [wantedBase,
        Uri.parse_scheme_host (Decidable.not_not.mp hscheme) hhost]
      rfl

/-- The URL has no part in the URI of the components. -/
theorem CallerInput.componentUri_withUrl (url : String) :
    { input with url }.componentUri = input.componentUri := by
  rw [componentUri_eq, componentUri_eq]
  rfl

/-- A supported scheme stands for itself, and no host for the supported one. -/
theorem CallerInput.componentUri_of_supported
    (hscheme : input.scheme ∈ supportedSchemes)
    (hhost : input.host = "" ∨ input.host = supportedHost) :
    input.componentUri =
      (input.assemble input.scheme (.domain supportedHost)).checked .path := by
  have hlower : ∀ scheme ∈ supportedSchemes, scheme.isEmpty = false ∧
      String.ofList (scheme.toList.map Char.toLower) = scheme := by decide
  have hwanted : input.wantedScheme = input.scheme := by
    obtain ⟨hsome, hsame⟩ := hlower _ hscheme
    rw [wantedScheme, hsome, if_neg Bool.false_ne_true, hsame]
  have hwantedHost : input.wantedHost = supportedHost := by
    rcases hhost with hhost | hhost
    · rw [wantedHost, hhost]
      rfl
    · rw [wantedHost, hhost]
      rfl
  have hparse : Host.parse supportedHost.toList = .ok (.domain supportedHost) :=
    rfl
  rw [componentUri_eq, hwanted, hwantedHost, hparse,
    if_neg (not_not_intro hscheme)]

theorem CallerInput.componentUri_eq_ok (h : input.componentUri = .ok uri) :
    input.wantedScheme ∈ supportedSchemes ∧
      ∃ host, Host.parse input.wantedHost.toList = .ok host ∧
      input.assemble input.wantedScheme host = uri := by
  rw [componentUri_eq] at h
  split at h
  · cases h
  next hscheme =>
  split at h
  · cases h
  · next host hhost =>
      exact ⟨Decidable.not_not.mp hscheme, host, hhost,
        (Uri.checked_eq_ok_iff.mp h).1⟩

/-- A supported host is the domain `localhost`, however the URI was
reached. -/
theorem CallerInput.host_of_targetUri (h : input.targetUri = .ok uri)
    (hhost : isSupportedHost uri.hostText = true) :
    uri.host = some (.domain supportedHost) := by
  obtain ⟨field, hchecked⟩ := checked_of_targetUri h
  obtain ⟨-, hscheme, -⟩ := Uri.checked_eq_ok_iff.mp hchecked
  obtain ⟨text, host, hsome, hparse⟩ :
      ∃ text host, uri.host = some host ∧ Host.parse text = .ok host := by
    unfold targetUri at h
    split at h
    · obtain ⟨-, host, hparse, rfl⟩ := componentUri_eq_ok h
      exact ⟨_, host, by rw [assemble_eq], hparse⟩
    · exact Uri.parse_host_of_parse (urlUri_eq_ok_iff.mp h).1
        (Uri.kind_of_supported hscheme)
  rw [Uri.hostText, hsome] at hhost
  rw [hsome, Host.eq_domain_of_isSupportedHost hparse hhost]

theorem Uri.defaultPort?_ne_supportedPort {scheme : String}
    (h : scheme ∈ supportedSchemes) :
    defaultPort? scheme ≠ some supportedPort := by
  have hall : ∀ scheme ∈ supportedSchemes, defaultPort? scheme ≠
      some supportedPort := by decide
  exact hall scheme h

theorem CallerInput.checkAgreement_eq_ok_iff (hurl : input.url ≠ "")
    (hpath : input.path ≠ "") :
    input.checkAgreement uri = .ok () ↔
      ∃ components, input.componentUri = .ok components ∧
        components.sameTarget uri = true := by
  have hboth : (input.url.isEmpty || input.path.isEmpty) = false := by
    simp [hurl, hpath]
  rw [checkAgreement, hboth, if_neg Bool.false_ne_true, bind_eq_ok]
  refine exists_congr fun components => and_congr_right fun _ => ?_
  cases components.sameTarget uri with
  | false => exact iff_of_false nofun nofun
  | true => exact iff_of_true rfl rfl

theorem CallerInput.queryPairs_assemble {scheme : String} {host : Host} :
    (input.assemble scheme host).queryPairs = input.queryParams.entries := by
  rw [assemble_eq, Uri.queryPairs]
  cases hempty : input.queryParams.isEmpty with
  | true =>
      rw [SortedMap.isEmpty_iff.mp hempty]
      rfl
  | false =>
      rw [if_neg Bool.false_ne_true, Option.getD_some, String.toList_ofList,
        Query.parse_render]

theorem CallerInput.queryPairs_of_componentUri
    (h : input.componentUri = .ok uri) :
    uri.queryPairs = input.queryParams.entries := by
  obtain ⟨-, host, -, rfl⟩ := componentUri_eq_ok h
  exact queryPairs_assemble

/-- Pairs that are the entries of a map are read as this map. -/
theorem Uri.queryMap_of_entries {field : InputField} {query : SortedMap String}
    (h : uri.queryPairs = query.entries) : uri.queryMap field = .ok query := by
  rw [queryMap_eq_ok_iff, h]
  exact ⟨query.ascending.nodup_keys, fun k v => lookupEntry_eq_some_iff
    query.ascending⟩

/-- The port that is asked for is the one that requests go to, also where it
is left out as the default one. -/
theorem CallerInput.effectivePort?_assemble {scheme : String} {host : Host} :
    (input.assemble scheme host).effectivePort? =
      some (input.port.getD supportedPort) := by
  rw [assemble_eq, Uri.effectivePort?]
  dsimp only
  by_cases hdefault :
    Uri.defaultPort? scheme = some (input.port.getD supportedPort)
  · rw [if_pos hdefault, hdefault]
    rfl
  · rw [if_neg hdefault]
    rfl

/-- The host of the URI of an accepted input. -/
theorem Accepted.uriHost {catalog : Catalog} {r : Request}
    {query : SortedMap String} {path : String} {route : Route}
    (h : Accepted catalog input r query path route) :
    r.uri.host = some (.domain supportedHost) :=
  CallerInput.host_of_targetUri h.reached
    (Uri.checkEndpoint_eq_ok_iff.mp h.endpoint).1

/-- Without a URL the URI of a request is that of the components. -/
theorem Accepted.componentUri_eq {catalog : Catalog} {r : Request}
    {query : SortedMap String} {path : String} {route : Route}
    (h : Accepted catalog input r query path route) (hurl : input.url = "") :
    input.componentUri = .ok r.uri := by
  have hreached := h.reached
  rwa [CallerInput.targetUri, if_pos (by simp [hurl])] at hreached

end ClusterGate
