import ClusterGate.Proofs.Request.Restated

/-!
# Components keep to their parts

Scheme and host are written into one text before they are read, and path
and parameters into another. Whatever they hold, nothing of it ends up in
another part of the URI: a host that is one has no character that divides
an authority, and path and query are escaped when they are put in.
-/

namespace ClusterGate

variable {catalog : Catalog} {input : CallerInput} {r : Request}

/-- The query that the components write, with its mark. -/
def CallerInput.queryText (input : CallerInput) : String :=
  if input.queryParams.isEmpty then ""
  else "?" ++ String.ofList (Query.render input.queryParams.entries)

/-- A request whose URI consists of the endpoint, a path and the given
query. -/
structure Request.KeepsToParts (r : Request) (input : CallerInput) : Prop where
  username : r.uri.username = ""
  password : r.uri.password = ""
  fragment : r.uri.fragment = none
  absolute : "/".toList <+: r.uri.path.toList
  path : ∀ c ∈ r.uri.path.toList, c ≠ '?' ∧ c ≠ '#'
  url : r.url = r.scheme ++ "://localhost:9200" ++ r.uri.path ++ input.queryText

theorem CallerInput.query_of_componentUri {uri : Uri}
    (h : input.componentUri = .ok uri) :
    uri.query = if input.queryParams.isEmpty then none
      else some (String.ofList (Query.render input.queryParams.entries)) := by
  obtain ⟨-, host, -, rfl⟩ := componentUri_eq_ok h
  rw [assemble_eq]

/-- The text of a URI of the supported endpoint. -/
theorem Uri.Local.render_eq {uri : Uri} (h : uri.Local) :
    uri.render = uri.scheme ++ "://localhost:9200" ++ uri.path ++
      (match uri.query with
        | some query => "?" ++ query
        | none => "") := by
  rw [← String.toList_inj, toList_render h]
  cases uri.query <;> simp [queryPart]

/-- **Components keep to their parts.** -/
theorem keepsToParts_of_classify (hurl : input.url = "")
    (h : catalog.classify input = .ok r) :
    r.KeepsToParts input := by
  obtain ⟨query, path, route, hacc⟩ := classify_eq_ok_iff.mp h
  have hcomponents := hacc.componentUri_eq hurl
  have hlocal :=
    CallerInput.local_of_componentUri hcomponents hacc.uriHost hacc.uriPort_eq
  obtain ⟨text, htext⟩ := hlocal.path
  refine
    { username := hlocal.username
      password := hlocal.password
      fragment := hlocal.fragment
      absolute := ?_
      path := ?_
      url := ?_ }
  · obtain ⟨rest, hrest⟩ := UriPath.ofText_eq_cons true text
    exact ⟨rest, by rw [htext, hrest]; rfl⟩
  · intro c hc
    have hescaped : Percent.path c = false :=
      UriPath.path_of_mem_ofText (htext ▸ hc)
    constructor
    · rintro rfl
      exact absurd hescaped (by decide)
    · rintro rfl
      exact absurd hescaped (by decide)
  · have hquery := CallerInput.query_of_componentUri hcomponents
    rw [hacc.url, if_pos (by simp [hurl]), hlocal.render_eq,
      hquery, hacc.scheme, CallerInput.queryText]
    cases input.queryParams.isEmpty <;> rfl

/-- Components that are full of what divides a URI. -/
def dividingInput : CallerInput :=
  ((((CallerInput.ofPath "/_cat\\tasks/../recovery").withScheme "HTTP").withHost
    "LOCAL%48OST").withPathParams "/a@b:80#c%3Fd\n").withQueryParam "k#" "v?&=@"

set_option maxRecDepth 2000 in
theorem keepsToParts_dividingInput :
    dividingInput.url = "" ∧
      ∃ r, (Catalog.full clusterTable).classify dividingInput = .ok r ∧
        r.url =
          "http://localhost:9200/_cat/recovery/a@b:80%23c%3Fd?k%23=v%3F%26%3D%40" ∧
        r.KeepsToParts dividingInput := by
  obtain ⟨r, hr, hurl⟩ :
      ∃ r, (Catalog.full clusterTable).classify dividingInput = .ok r ∧
        r.url =
          "http://localhost:9200/_cat/recovery/a@b:80%23c%3Fd?k%23=v%3F%26%3D%40" :=
    ⟨_, rfl, rfl⟩
  exact ⟨rfl, r, hr, hurl, keepsToParts_of_classify rfl hr⟩

end ClusterGate
