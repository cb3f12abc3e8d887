import ClusterGate.Proofs.Json.Printed
import ClusterGate.Proofs.Request.Canonical
import ClusterGate.Proofs.Request.Names

/-!
# What a request asks for

Every request that a catalog of cluster APIs accepts asks for an action, which
is one on the API of the request (`resolves_of_classify`). An action with a list
carries the names that the path parameters list, so blanks and empty pieces
between the commas make no difference to it; a repository is the path parameters
as they are.

An action is read from the document that is written for it (`ofJson_toJson`),
and that document from its text (`read_render_toJson`).
-/

namespace ClusterGate

namespace Action

variable {params other : String} {api : ClusterApi} {action : Action}

/-! ## Documents of actions -/

theorem readNames_ofNames (names : List String) :
    readNames (ofNames names) = .ok names :=
  mapM_map_eq_ok fun _ _ => rfl

/-- **Written actions.** An action is read from its document. -/
theorem ofJson_toJson (action : Action) :
    ofJson action.toJson = .ok action := by
  cases action with
  | catRecovery names | clusterHealth names | clusterStats names =>
      change (readNames (ofNames names)).map _ = .ok _
      rw [readNames_ofNames]
      rfl
  | _ => rfl

theorem reads_ofNames (names : List String) :
    Shape.any.Reads (ofNames names) (ofNames names) :=
  Shape.reads_any_list (List.forall_mem_map.mpr
    fun name _ => Shape.reads_any_text name)

/-- A tag with a parameter behind it. -/
theorem reads_tagged {field : String} {v : Json} (h : "action" < field)
    (hv : Shape.any.Reads v v) (tag : String) :
    Shape.any.Reads (.obj [("action", .str tag), (field, v)])
      (.obj [("action", .str tag), (field, v)]) := by
  refine Shape.reads_any_object (List.pairwise_pair.mpr h) ?_
  exact List.forall_mem_cons.mpr ⟨Shape.reads_any_text tag,
    List.forall_mem_singleton.mpr hv⟩

theorem reads_toJson (action : Action) :
    Shape.any.Reads action.toJson action.toJson := by
  cases action with
  | catRecovery names | clusterHealth names | clusterStats names =>
      exact reads_tagged (by decide) (reads_ofNames names) _
  | catSnapshots repository =>
      exact reads_tagged (by decide) (Shape.reads_any_text repository) _
  | _ =>
      refine Shape.reads_any_object (List.pairwise_singleton _ _) ?_
      exact List.forall_mem_singleton.mpr (Shape.reads_any_text _)

/-- The document of an action is read from its text. -/
theorem read_render_toJson (action : Action) :
    Shape.any.read action.toJson.render = .ok action.toJson :=
  action.reads_toJson.read_render

/-! ## Actions of APIs -/

/-- The list that an action carries. -/
def names? : Action → Option (List String)
  | catRecovery indices => some indices
  | clusterHealth indices => some indices
  | clusterStats nodes => some nodes
  | _ => none

/-- Every API but the sentinel has an action for all parameters. -/
theorem exists_ofParams? (params : String) (h : api ≠ .blank) :
    ∃ action, ofParams? params api = some action ∧ action.api = api := by
  cases api with
  | blank => exact absurd rfl h
  | _ => exact ⟨_, rfl, rfl⟩

theorem names_of_ofParams? {names : List String}
    (h : ofParams? params api = some action)
    (hnames : action.names? = some names) : splitNames params = names := by
  cases api with
  | catRecovery | clusterHealth | clusterStats =>
      obtain rfl := Option.some.inj h
      exact Option.some.inj hnames
  | blank => cases h
  | _ =>
      obtain rfl := Option.some.inj h
      cases hnames

theorem repository_of_ofParams? {repository : String}
    (h : ofParams? params api = some (catSnapshots repository)) :
    api = .catSnapshots ∧ repository = params := by
  cases api with
  | catSnapshots =>
      obtain rfl := catSnapshots.inj (Option.some.inj h)
      exact ⟨rfl, rfl⟩
  | blank => cases h
  | _ => cases Option.some.inj h

/-- An action that names no repository depends on the listed names only. -/
theorem ofParams?_congr (h : Respaced params other)
    (hapi : api ≠ .catSnapshots) :
    ofParams? params api = ofParams? other api := by
  have hnames : splitNames params = splitNames other :=
    splitNames_eq_splitNames_iff.mpr h
  cases api with
  | catSnapshots => exact absurd rfl hapi
  | _ => simp only [ofParams?, hnames]

end Action

/-! ## Actions of requests -/

theorem ClusterApi.ofName?_name (api : ClusterApi) :
    ofName? api.name = some api := by
  cases api <;> rfl

theorem Request.action_eq_ok {r : Request} {api : ClusterApi} {action : Action}
    (hapi : api.entry = r.api)
    (h : Action.ofParams? r.pathParams api = some action) :
    r.action = .ok action := by
  have hname : ClusterApi.ofName? r.api.name = some api :=
    hapi ▸ api.ofName?_name
  rw [Request.action, hname, Option.bind_some, h]

/-- The action is what the request asks for, and a document keeps all of it. -/
structure Request.Resolves (r : Request) (action : Action) : Prop where
  api : action.api.entry = r.api
  written : Shape.any.read action.toJson.render = .ok action.toJson ∧
    Action.ofJson action.toJson = .ok action
  /-- A list has the names that the parameters list, and it is what its names
  joined with commas list. -/
  names : ∀ names, action.names? = some names →
    Action.Lists r.pathParams names ∧
      (∀ name ∈ names, name ≠ "" ∧ ',' ∉ name.toList) ∧
      Action.splitNames (",".intercalate names) = names
  repository : ∀ repository, action = .catSnapshots repository →
    repository = r.pathParams ∧ repository ≠ ""

section

variable {catalog : Catalog} {input : CallerInput} {r : Request}
  {action : Action}

theorem Accepted.resolves {query : SortedMap String} {path : String}
    {route : Route} {api : ClusterApi}
    (h : Accepted catalog input r query path route)
    (hcat : catalog.Over clusterTable) (hapi : api.entry = r.api)
    (hroute : api.route = some route)
    (haction : Action.ofParams? r.pathParams api = some action)
    (hsame : action.api = api) :
    r.Resolves action where
  api := by rw [hsame, hapi]
  written := ⟨action.read_render_toJson, action.ofJson_toJson⟩
  names names hnames := by
    have hlists : Action.Lists r.pathParams names :=
      Action.splitNames_eq_iff.mp (Action.names_of_ofParams? haction hnames)
    refine ⟨hlists, fun name hname => ?_, ?_⟩
    · exact ⟨(hlists.isName name hname).nonempty,
        (hlists.isName name hname).noComma⟩
    · exact Action.splitNames_eq_iff.mpr
        (Action.lists_intercalate hlists.isName)
  repository := by
    rintro repository rfl
    obtain ⟨rfl, rfl⟩ := Action.repository_of_ofParams? haction
    obtain rfl := Option.some.inj hroute
    exact ⟨rfl, (h.suitParams hcat.declared).required rfl⟩

/-- **Actions of requests.** An accepted request asks for one action on its API.
Unless that names a repository, any other accepted request to the API whose
parameters differ in nothing but blanks around commas and empty pieces asks for
it as well. -/
theorem resolves_of_classify (hcat : catalog.Over clusterTable)
    (h : catalog.classify input = .ok r) :
    ∃ action, r.action = .ok action ∧ r.Resolves action ∧
      ((∀ repository, action ≠ .catSnapshots repository) →
        ∀ (catalog' : Catalog) (input' : CallerInput) (r' : Request),
          catalog'.Over clusterTable → catalog'.classify input' = .ok r' →
            r'.api = r.api →
            Action.Respaced r.pathParams r'.pathParams →
              r'.action = .ok action) := by
  obtain ⟨query, path, route, hacc⟩ := classify_eq_ok_iff.mp h
  obtain ⟨api, hapi, hroute⟩ := hcat.exists_clusterApi hacc.firstMatch.mem
  have hblank : api ≠ .blank := by
    rintro rfl
    cases hroute
  obtain ⟨action, haction, hsame⟩ := Action.exists_ofParams? r.pathParams hblank
  refine ⟨action, Request.action_eq_ok hapi haction,
    hacc.resolves hcat hapi hroute haction hsame, ?_⟩
  intro hnot _ _ r' _ _ hapi' hspaced
  have hsnapshots : api ≠ .catSnapshots := by
    rintro rfl
    exact hnot r.pathParams (Option.some.inj haction).symm
  have haction' : Action.ofParams? r'.pathParams api = some action := by
    rw [← haction, Action.ofParams?_congr hspaced hsnapshots]
  exact Request.action_eq_ok (hapi.trans hapi'.symm) haction'

end

set_option maxRecDepth 2000 in
/-- Empty pieces and blanks between names, of which one is not a space. -/
theorem resolves_health :
    (Catalog.full clusterTable).Over clusterTable ∧
      ∃ r r' action, (Catalog.full clusterTable).classify
          (CallerInput.ofUrl
            "http://localhost:9200/_cluster/health/a,,%09b%E3%80%80,") = .ok r ∧
        (Catalog.full clusterTable).classify
          (CallerInput.ofUrl "http://localhost:9200/_cluster/health/,a,b") =
            .ok r' ∧
        r.action = .ok action ∧ action = .clusterHealth ["a", "b"] ∧
        r.Resolves action ∧
        r'.action = .ok action := by
  have hcat : (Catalog.full clusterTable).Over clusterTable := .inl rfl
  obtain ⟨r, r', hr, hr', hparams, hparams', hapi, hhealth⟩ :
      ∃ r r', (Catalog.full clusterTable).classify
          (CallerInput.ofUrl
            "http://localhost:9200/_cluster/health/a,,%09b%E3%80%80,") = .ok r ∧
        (Catalog.full clusterTable).classify
          (CallerInput.ofUrl "http://localhost:9200/_cluster/health/,a,b") =
            .ok r' ∧
        r.pathParams = "a,,\tb\u3000," ∧ r'.pathParams = ",a,b" ∧
          r'.api = r.api ∧
        r.action = .ok (.clusterHealth ["a", "b"]) :=
    ⟨_, _, rfl, rfl, rfl, rfl, rfl, rfl⟩
  obtain ⟨action, haction, hresolves, hsame⟩ := resolves_of_classify hcat hr
  obtain rfl : .clusterHealth ["a", "b"] = action :=
    Except.ok.inj (hhealth.symm.trans haction)
  have hspaced : Action.Respaced r.pathParams r'.pathParams := by
    rw [hparams, hparams']
    exact Action.splitNames_eq_splitNames_iff.mp (by decide)
  exact ⟨hcat, r, r', _, hr, hr', haction, rfl, hresolves,
    hsame (fun _ => nofun) _ _ r' hcat hr' hapi hspaced⟩

end ClusterGate
