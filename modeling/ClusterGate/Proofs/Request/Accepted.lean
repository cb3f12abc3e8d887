import ClusterGate.Proofs.Outcome
import ClusterGate.Request.Classify

/-!
# What was checked about an accepted input

Classifying runs its checks in a fixed order, each on what the ones before
it made. `Accepted` lists them for an input and the request it became, and
`classify_eq_ok_iff` says that there is a request exactly if all of them
hold.
-/

namespace ClusterGate

/-- The checks that an input passed to become the request `r`, and where
the fields of `r` come from. -/
structure Accepted (catalog : Catalog) (input : CallerInput) (r : Request)
    (query : SortedMap String) (path : String) (route : Route) : Prop where
  target : input.namesTarget = true
  connection : TimeoutKind.connection.allows input.connectionTimeout = true
  socket : TimeoutKind.socket.allows input.socketTimeout = true
  reached : input.targetUri = .ok r.uri
  distinct : r.uri.queryMap input.targetField = .ok query
  agreement : input.checkAgreement r.uri = .ok ()
  endpoint : r.uri.checkEndpoint = .ok ()
  decoded : r.uri.decodedPath input.targetField = .ok path
  matched : catalog.findEntry? path = some (r.api, route)
  admitted : r.api.extractParams path input.pathParams = .ok r.pathParams
  scheme : r.scheme = r.uri.scheme
  host : r.host = String.ofList (r.uri.hostText.toList.map Char.toLower)
  port : r.port = r.uri.effectivePort?.getD 0
  shown : r.path = input.shownPath route r.pathParams
  queryParams : r.queryParams = if input.queryParams.isEmpty then query
    else input.queryParams
  url : r.url = if input.url.isEmpty then r.uri.render else input.url
  connectionTimeout : r.connectionTimeout = input.connectionTimeout
  socketTimeout : r.socketTimeout = input.socketTimeout

variable {catalog : Catalog} {input : CallerInput} {r : Request}

theorem CallerInput.checkTimeout_eq_ok {kind : TimeoutKind} {seconds : Int32} :
    CallerInput.checkTimeout kind seconds = .ok () ↔
      kind.allows seconds = true := by
  unfold CallerInput.checkTimeout
  split <;> simp_all

/-- **Accepted inputs.** An input becomes a request exactly if it passes
every check. -/
theorem classify_eq_ok_iff :
    catalog.classify input = .ok r ↔
      ∃ query path route, Accepted catalog input r query path route := by
  unfold Catalog.classify
  constructor
  · intro h
    cases htarget : input.namesTarget with
    | false =>
        rw [htarget] at h
        cases h
    | true =>
        simp only [htarget, Bool.not_true, Bool.false_eq_true, if_false,
          bind_eq_ok] at h
        obtain ⟨_, hconn, _, hsock, uri, huri, query, hquery, _, hagree, _,
          hend, path, hpath, h⟩ := h
        split at h
        · cases h
        · next api route hentry =>
            obtain ⟨params, hparams, hr⟩ := bind_eq_ok.mp h
            obtain rfl := Except.ok.inj hr
            exact ⟨query, path, route,
              { target := htarget
                connection := CallerInput.checkTimeout_eq_ok.mp hconn
                socket := CallerInput.checkTimeout_eq_ok.mp hsock
                reached := huri
                distinct := hquery
                agreement := hagree
                endpoint := hend
                decoded := hpath
                matched := hentry
                admitted := hparams
                scheme := rfl, host := rfl, port := rfl, shown :=
                  rfl, queryParams := rfl
                url := rfl, connectionTimeout := rfl, socketTimeout := rfl }⟩
  · rintro ⟨query, path, route, h⟩
    simp only [h.target, Bool.not_true, Bool.false_eq_true,
      if_false, bind_eq_ok]
    refine ⟨(), CallerInput.checkTimeout_eq_ok.mpr h.connection, (),
      CallerInput.checkTimeout_eq_ok.mpr h.socket, r.uri, h.reached, query,
      h.distinct, (), h.agreement, (), h.endpoint, path, h.decoded, ?_⟩
    rw [h.matched]
    refine bind_eq_ok.mpr ⟨r.pathParams, h.admitted, congrArg Except.ok ?_⟩
    rw [← h.scheme, ← h.host, ← h.port, ← h.shown, ← h.queryParams, ← h.url,
      ← h.connectionTimeout, ← h.socketTimeout]

end ClusterGate
