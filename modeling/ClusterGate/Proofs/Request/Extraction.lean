import ClusterGate.Proofs.Request.Params
import ClusterGate.Proofs.Verdict

/-!
# Taking parameters out of a path

Parameters that are put behind the beginning of a route, in front of its end and
between slashes are the parameters that are taken out again, and so are
parameters that are given apart with slashes around them.

Which text is considered is said without the steps that find it
(`Route.Considers`), and what is made of that text is decided by the first
thing that is wrong with it (`ParamsFault`).
-/

namespace ClusterGate

variable {route : Route} {api : Api} {path given params before after : String}
  {rest : List Char}

/-! ## The text that is considered -/

/-- There is nothing but slashes in the text. -/
def OnlySlashes (text : String) : Prop := ∀ c ∈ text.toList, c = '/'

/-- What is left of a path without the beginning that names the API and without
the end of the route, as far as it has them. The whole canonical path names an
API without parameters. -/
def Route.Leaves (route : Route) (path : String) (rest : List Char) : Prop :=
  ∃ middle,
    Text.WithoutPrefix (if route.params = .unsupported then route.path
      else route.lead).toList
      path.toList middle ∧
    Text.WithoutSuffix route.trail.toList middle rest

/-- The parameters that are considered: the given ones, or else what is left of
the path, without the slashes around them. -/
def Route.Considers (route : Route) (path given params : String) : Prop :=
  ∃ text, (if given = "" then route.Leaves path text else text = given.toList) ∧
    Text.TrimsTo (· == '/') text params.toList

theorem Route.remainder_eq_iff :
    route.remainder path = rest ↔ route.Leaves path rest := by
  have hlead : (if route.params.allows = true then route.lead else route.path) =
      if route.params = .unsupported then route.path else route.lead := by
    cases route.params <;> rfl
  rw [remainder, hlead, Text.stripSuffix_eq_iff, Leaves]
  simp only [← Text.stripPrefix_eq_iff, exists_eq_left']

theorem Route.considers_iff : route.Considers path given params ↔
    params = String.ofList (trimSlashes
      (if given.isEmpty then route.remainder path else given.toList)) := by
  have htext (text : List Char) :
      (if given = "" then route.Leaves path text else text = given.toList) ↔
        (if given.isEmpty then route.remainder path else given.toList) =
          text := by
    by_cases hgiven : given = ""
    · rw [if_pos hgiven, if_pos (by simpa using hgiven), remainder_eq_iff]
    · rw [if_neg hgiven, if_neg (by simpa using hgiven), eq_comm]
  simp only [Considers, htext, exists_eq_left', trimSlashes]
  rw [← Text.trim_eq_iff, ← String.toList_inj, String.toList_ofList, eq_comm]

/-! ## What is wrong with parameters -/

/-- What is wrong with parameters; of several things the first one counts. -/
inductive ParamsFault (route : Route) (name params : String) : Rejection → Prop
  | banned (h : ∃ c ∈ params.toList, c ∈ bannedCharacters) :
      ParamsFault route name params (.bannedParams params)
  | missing (hfree : ∀ c ∈ params.toList, c ∉ bannedCharacters)
      (hrule : route.params = .required) (h : params = "") :
      ParamsFault route name params (.missingParams name)
  | unsupported (hfree : ∀ c ∈ params.toList, c ∉ bannedCharacters)
      (hrule : route.params = .unsupported) (h : params ≠ "") :
      ParamsFault route name params (.unsupportedParams name params)

/-- A route accepts the parameters, or it has its reason not to. -/
theorem Route.verdict_admitParams (route : Route) (name params : String) :
    Verdict (route.admitParams name params)
      ((∀ c ∈ params.toList, c ∉ bannedCharacters) ∧
        (route.params = .required → params ≠ "") ∧
        (route.params = .unsupported → params = ""))
      params (ParamsFault route name params) where
  succeeds h := admitParams_eq_ok_iff.mpr ⟨rfl, h⟩
  fails h := by
    unfold admitParams
    cases h with
    | banned h => rw [if_pos (by simpa using h)]
    | missing hfree hrule h =>
        rw [if_neg (by simpa using hfree),
          if_pos (by simp [hrule, ParamRule.demands, h])]
    | unsupported hfree hrule h =>
        rw [if_neg (by simpa using hfree), if_neg (by simp [h]),
          if_pos (by simp [hrule, ParamRule.allows, h])]
  settled := by
    by_cases hfree : ∀ c ∈ params.toList, c ∉ bannedCharacters
    · by_cases hmissing : route.params = .required ∧ params = ""
      · exact .inr ⟨_, .missing hfree hmissing.1 hmissing.2⟩
      by_cases hunsupported : route.params = .unsupported ∧ params ≠ ""
      · exact .inr ⟨_, .unsupported hfree hunsupported.1 hunsupported.2⟩
      exact .inl ⟨hfree, fun hrule h => hmissing ⟨hrule, h⟩,
        fun hrule => by_contra fun h => hunsupported ⟨hrule, h⟩⟩
    · exact .inr ⟨_, .banned (by simpa using hfree)⟩

theorem Api.verdict_extractParams (hroute : api.route = some route)
    (h : route.Considers path given params) :
    Verdict (api.extractParams path given)
      ((∀ c ∈ params.toList, c ∉ bannedCharacters) ∧
        (route.params = .required → params ≠ "") ∧
        (route.params = .unsupported → params = ""))
      params (ParamsFault route api.name params) := by
  have hextract :
      api.extractParams path given = route.admitParams api.name params := by
    rw [Route.considers_iff.mp h, extractParams, hroute]
  rw [hextract]
  exact route.verdict_admitParams api.name params

theorem Api.extractParams_of_considers (hroute : api.route = some route)
    (h : route.Considers path given params) (hsuit : SuitParams route params) :
    api.extractParams path given = .ok params :=
  (verdict_extractParams hroute h).succeeds ⟨hsuit.noBanned, hsuit.required,
    hsuit.unsupported⟩

/-! ## Parameters between slashes -/

/-- Parameters that are not empty, without slashes at their ends and without the
characters that parameters never contain. -/
structure ProperParams (params : String) : Prop where
  nonempty : params ≠ ""
  first : params.toList.head? ≠ some '/'
  last : params.toList.getLast? ≠ some '/'
  noBanned : ∀ c ∈ params.toList, c ∉ bannedCharacters

theorem ProperParams.suit (h : ProperParams params)
    (hrule : route.params ≠ .unsupported) :
    SuitParams route params :=
  ⟨h.first, h.last, h.noBanned, fun _ => h.nonempty, fun hnone =>
    absurd hnone hrule⟩

theorem SuitParams.proper (h : SuitParams route params) (hne : params ≠ "") :
    ProperParams params :=
  ⟨hne, h.noLeadingSlash, h.noTrailingSlash, h.noBanned⟩

theorem ProperParams.trimsTo (h : ProperParams params)
    (hbefore : OnlySlashes before) (hafter : OnlySlashes after) :
    Text.TrimsTo (· == '/') (before ++ params ++ after).toList
      params.toList where
  around := by
    refine ⟨before.toList, after.toList, ?_, fun c hc => ?_, fun c hc => ?_⟩
    · rw [String.toList_append, String.toList_append, List.append_assoc]
    · exact beq_iff_eq.mpr (hbefore c hc)
    · exact beq_iff_eq.mpr (hafter c hc)
  first c hc := beq_eq_false_iff_ne.mpr fun heq => h.first (heq ▸ hc)
  last c hc := beq_eq_false_iff_ne.mpr fun heq => h.last (heq ▸ hc)

theorem Route.considers_composed (h : ProperParams params)
    (hrule : route.params ≠ .unsupported) (hbefore : OnlySlashes before)
    (hafter : OnlySlashes after) :
    route.Considers (route.lead ++ before ++ params ++ after ++ route.trail)
      "" params := by
  refine ⟨(before ++ params ++ after).toList, ?_, h.trimsTo hbefore hafter⟩
  rw [if_pos rfl]
  refine ⟨(before ++ params ++ after ++ route.trail).toList, .inl ?_, .inl ?_⟩
  · rw [if_neg hrule]
    simp only [String.toList_append, List.append_assoc]
  · rw [String.toList_append]

theorem Route.considers_given (h : ProperParams params)
    (hbefore : OnlySlashes before) (hafter : OnlySlashes after) (route : Route)
    (path : String) :
    route.Considers path (before ++ params ++ after) params := by
  have hne : before ++ params ++ after ≠ "" :=
    fun heq => h.nonempty (by simp_all)
  exact ⟨_, by rw [if_neg hne], h.trimsTo hbefore hafter⟩

/-! ## Extraction -/

/-- How the parameters of an API with a route are taken from a path, or from
what is given apart from it. -/
structure Api.Extraction (api : Api) (route : Route) : Prop where
  /-- Parameters between the beginning and the end of the route. -/
  composed : route.params ≠ .unsupported →
    ∀ params before after, ProperParams params →
    OnlySlashes before → OnlySlashes after →
      api.extractParams (route.lead ++ before ++ params ++ after ++ route.trail)
        "" = .ok params
  /-- Parameters that are given apart from the path. -/
  given : route.params ≠ .unsupported →
    ∀ params before after, ProperParams params →
    OnlySlashes before → OnlySlashes after → ∀ path,
      api.extractParams path (before ++ params ++ after) = .ok params
  /-- Parameters that were taken once. -/
  again : ∀ path given params, api.extractParams path given = .ok params →
    params ≠ "" →
    ∀ other, api.extractParams other params = .ok params
  /-- There is just one text that is considered, -/
  considered : ∀ path given, ∃! params, route.Considers path given params
  /-- which is rejected for the first thing that is wrong with it -/
  rejected : ∀ path given params, route.Considers path given params → ∀ e,
    api.extractParams path given = .error e ↔
      ParamsFault route api.name params e
  /-- and taken if there is none. -/
  taken : ∀ path given params, route.Considers path given params → ∀ accepted,
    api.extractParams path given = .ok accepted ↔
      (∀ e, ¬ ParamsFault route api.name params e) ∧ accepted = params

/-- **Extraction.** Taking parameters out of a path undoes putting them in, for
every API with a route. -/
theorem extraction_of_route (hroute : api.route = some route) :
    api.Extraction route where
  composed hrule _ _ _ hproper hbefore hafter :=
    Api.extractParams_of_considers hroute
      (Route.considers_composed hproper hrule hbefore hafter)
      (hproper.suit hrule)
  given hrule _ _ _ hproper hbefore hafter path :=
    Api.extractParams_of_considers hroute
      (Route.considers_given hproper hbefore hafter route path)
      (hproper.suit hrule)
  again path given params h hne other := by
    obtain ⟨-, hsuit⟩ := (Api.extractParams_eq_ok_iff hroute).mp h
    have hnone : OnlySlashes "" := List.forall_mem_nil _
    have hconsiders :=
      Route.considers_given (hsuit.proper hne) hnone hnone route other
    rw [String.empty_append, String.append_empty] at hconsiders
    exact Api.extractParams_of_considers hroute hconsiders hsuit
  considered path given :=
    ⟨_, Route.considers_iff.mpr rfl, fun _ => Route.considers_iff.mp⟩
  rejected _ _ _ h _ := (Api.verdict_extractParams hroute h).eq_error_iff
  taken _ _ _ h _ := by
    have hverdict := Api.verdict_extractParams hroute h
    rw [hverdict.eq_ok_iff, hverdict.good_iff]

/-- An API whose parameters stand in the middle of a path. -/
def nodeStats : Api where
  ident := "NodeStats"
  name := "NODE_STATS"
  route := some
    { path := "/_nodes/stats", lead := "/_nodes", trail := "/stats"
      params := .optional }

/-- The end of the route stands in the parameters as well. -/
theorem extraction_nodeStats :
    ∃ route, nodeStats.route = some route ∧ ProperParams "a/stats" ∧
      nodeStats.extractParams "/_nodes//a/stats//stats" "" = .ok "a/stats" ∧
      nodeStats.extractParams "/_cat/tasks" "/a/stats//" = .ok "a/stats" ∧
      nodeStats.extractParams "/_nodes/a=b/stats" "" =
        .error (.bannedParams "a=b") := by
  obtain ⟨route, hroute, hrule, hlead, htrail⟩ :
      ∃ route, nodeStats.route = some route ∧
      route.params = .optional ∧ route.lead = "/_nodes" ∧
      route.trail = "/stats" :=
    ⟨_, rfl, rfl, rfl, rfl⟩
  have hextraction := extraction_of_route hroute
  have hsupported : route.params ≠ .unsupported := by
    rw [hrule]
    decide
  have hproper : ProperParams "a/stats" :=
    ⟨by decide, by decide, by decide, by simp [bannedCharacters]⟩
  have hone : OnlySlashes "/" := List.forall_mem_singleton.mpr rfl
  have htwo : OnlySlashes "//" := List.forall_mem_cons.mpr ⟨rfl, hone⟩
  refine ⟨route, hroute, hproper, ?_, ?_, ?_⟩
  · have hcomposed :=
      hextraction.composed hsupported "a/stats" "//" "/" hproper htwo hone
    rw [hlead, htrail] at hcomposed
    exact hcomposed
  · exact hextraction.given hsupported "a/stats" "/" "//" hproper hone
      htwo "/_cat/tasks"
  · have hconsiders : route.Considers "/_nodes/a=b/stats" "" "a=b" := by
      obtain rfl := Option.some.inj hroute
      exact Route.considers_iff.mpr rfl
    exact (hextraction.rejected _ _ _ hconsiders _).mpr
      (.banned ⟨'=', by decide, by decide⟩)

end ClusterGate
