import ClusterGate.Proofs.Text.Affix
import ClusterGate.Request.Params

/-!
# Accepted parameters

What path parameters look like once a route has accepted them, and where
in a path they were found.
-/

namespace ClusterGate

theorem ParamRule.allows_iff {rule : ParamRule} :
    rule.allows = true ↔ rule ≠ .unsupported := by
  cases rule <;> simp [allows]

theorem ParamRule.demands_iff {rule : ParamRule} :
    rule.demands = true ↔ rule = .required := by
  cases rule <;> simp [demands]

/-- Parameters that suit a route. -/
structure SuitParams (route : Route) (params : String) : Prop where
  noLeadingSlash : params.toList.head? ≠ some '/'
  noTrailingSlash : params.toList.getLast? ≠ some '/'
  noBanned : ∀ c ∈ params.toList, c ∉ bannedCharacters
  required : route.params = .required → params ≠ ""
  unsupported : route.params = .unsupported → params = ""

variable {route : Route} {name params accepted : String}

theorem SuitParams.trimSlashes_eq (h : SuitParams route params) :
    trimSlashes params.toList = params.toList := by
  refine Text.trim_eq_self (fun c hc => ?_) fun c hc => ?_
  · refine beq_eq_false_iff_ne.mpr ?_
    rintro rfl
    exact h.noLeadingSlash hc
  · refine beq_eq_false_iff_ne.mpr ?_
    rintro rfl
    exact h.noTrailingSlash hc

theorem Route.admitParams_eq_ok_iff :
    route.admitParams name params = .ok accepted ↔
      params = accepted ∧ (∀ c ∈ params.toList, c ∉ bannedCharacters) ∧
        (route.params = .required → params ≠ "") ∧
        (route.params = .unsupported → params = "") := by
  unfold admitParams
  by_cases hbanned : (params.toList.any fun c => c ∈ bannedCharacters) = true
  · rw [if_pos hbanned]
    refine iff_of_false nofun fun h => ?_
    obtain ⟨c, hc, hban⟩ := List.any_eq_true.mp hbanned
    exact h.2.1 c hc (of_decide_eq_true hban)
  · have hfree : ∀ c ∈ params.toList, c ∉ bannedCharacters := by
      simpa using hbanned
    rw [if_neg hbanned, and_iff_right hfree]
    by_cases hempty : params = "" <;> cases hrule : route.params <;>
      simp [hempty, ParamRule.demands, ParamRule.allows]

/-- **Accepted parameters.** The parameters of a request are the trimmed
ones, and they suit the route. -/
theorem Api.extractParams_eq_ok_iff {api : Api} {path given : String}
    (hroute : api.route = some route) :
    api.extractParams path given = .ok params ↔
      params = String.ofList (trimSlashes
        (if given.isEmpty then route.remainder path else given.toList)) ∧
        SuitParams route params := by
  unfold Api.extractParams
  rw [hroute, Route.admitParams_eq_ok_iff]
  constructor
  · rintro ⟨rfl, hfree, hrequired, hunsupported⟩
    refine ⟨rfl, ⟨fun hfirst => ?_, fun hlast => ?_, hfree, hrequired,
      hunsupported⟩⟩
    · rw [String.toList_ofList] at hfirst
      exact absurd (Text.not_of_head?_trim hfirst) (by decide)
    · rw [String.toList_ofList] at hlast
      exact absurd (Text.not_of_getLast?_trim hlast) (by decide)
  · rintro ⟨rfl, h⟩
    exact ⟨rfl, h.noBanned, h.required, h.unsupported⟩

theorem Api.exists_route_of_extractParams {api : Api} {path given : String}
    (h : api.extractParams path given = .ok params) :
    ∃ route, api.route = some route := by
  unfold extractParams at h
  split at h
  · cases h
  · next route hroute => exact ⟨route, hroute⟩

/-- Given parameters are taken, whatever the path. -/
theorem Api.eq_trimSlashes_of_extractParams {api : Api} {path given : String}
    (h : api.extractParams path given = .ok params) (hgiven : given ≠ "") :
    params = String.ofList (trimSlashes given.toList) := by
  obtain ⟨route, hroute⟩ := exists_route_of_extractParams h
  obtain ⟨hparams, -⟩ := (extractParams_eq_ok_iff hroute).mp h
  rwa [if_neg (by simpa using hgiven)] at hparams

/-! ## What a path has beyond a route -/

theorem trimSlashes_eq_nil_iff {text : List Char} :
    trimSlashes text = [] ↔ ∃ n, text = List.replicate n '/' := by
  rw [trimSlashes, Text.trim_eq_nil_iff]
  constructor
  · intro h
    exact ⟨text.length,
      List.eq_replicate_iff.mpr ⟨rfl, fun c hc => eq_of_beq (h c hc)⟩⟩
  · rintro ⟨n, rfl⟩ c hc
    exact beq_iff_eq.mpr (List.eq_of_mem_replicate hc)

theorem Route.remainder_of_allows {path : String} {rest : List Char}
    (htrail : route.trail = "") (hallows : route.params.allows = true)
    (hpath : path.toList = route.lead.toList ++ rest) :
    route.remainder path = rest := by
  have hempty : "".toList = [] := rfl
  rw [remainder, hallows, htrail, hpath, hempty, if_pos rfl,
    Text.stripPrefix_append, Text.stripSuffix_nil]

/-- **Nothing beyond a route.** A path of a route without parameters has
nothing but slashes beyond it exactly if it is the canonical one with
slashes behind it. -/
theorem Route.trimSlashes_remainder_eq_nil_iff {path : String}
    (htrail : route.trail = "") (hnone : route.params.allows = false)
    (hlead : ∃ c ∈ route.lead.toList, c ≠ '/')
    (hcovers : route.lead.toList <+: path.toList) :
    trimSlashes (route.remainder path) = [] ↔
      ∃ n, path.toList = route.path.toList ++ List.replicate n '/' := by
  have hrest :
      route.remainder path =
        Text.stripPrefix route.path.toList path.toList := by
    have hempty : "".toList = [] := rfl
    rw [remainder, hnone, htrail, hempty, if_neg Bool.false_ne_true,
      Text.stripSuffix_nil]
  rw [hrest, trimSlashes_eq_nil_iff]
  by_cases hpath : route.path.toList <+: path.toList
  · obtain ⟨rest, hsplit⟩ := hpath
    rw [← hsplit, Text.stripPrefix_append]
    simp
  · rw [Text.stripPrefix_eq_self hpath]
    -- The beginning that is matched is in the path, and it is not all slashes.
    refine iff_of_false ?_ ?_
    · rintro ⟨n, hslashes⟩
      obtain ⟨c, hc, hne⟩ := hlead
      have hmem : c ∈ path.toList := hcovers.subset hc
      rw [hslashes] at hmem
      exact hne (List.eq_of_mem_replicate hmem)
    · rintro ⟨n, hcanonical⟩
      exact hpath (hcanonical ▸ List.prefix_append _ _)

end ClusterGate
