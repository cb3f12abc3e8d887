import ClusterGate.Proofs.Request.Agreement
import ClusterGate.Proofs.Request.Order

/-!
# The query of a request

The pairs that an input gives are written into the URI of its components and
read from there as the very same pairs, so that no key is ever found twice in
them. A request shows the query of the URI it goes to, except where a query is
given beside a URL and nothing compares the two (`keepsQuery`).
-/

namespace ClusterGate

section

variable {catalog : Catalog} {input : CallerInput} {field : InputField}
  {url key : String}

/-! ## Repeated keys -/

namespace CallerInput

theorem ComponentsFault.not_repeatedParameter :
    ¬ input.ComponentsFault
      (.invalidUrl field url (.repeatedParameter key)) := by
  intro h
  cases h with
  | unusable _ _ h => cases h

theorem TargetFault.not_repeatedParameter :
    ¬ input.TargetFault (.invalidUrl field url (.repeatedParameter key)) := by
  intro h
  cases h with
  | components _ h => exact ComponentsFault.not_repeatedParameter h
  | unusable _ _ h => cases h

/-- Only the check of the keys reports a repeated one. -/
theorem Violates.exists_repeatedKey {check : InputCheck}
    (h : input.Violates catalog check
      (.invalidUrl field url (.repeatedParameter key))) :
    ∃ uri, input.Reaches uri ∧ RepeatedKey uri.queryPairs key := by
  cases h with
  | resolution h => exact absurd h TargetFault.not_repeatedParameter
  | queryKeys huri h => exact ⟨_, huri, h⟩
  | componentResolution _ _ h =>
      exact absurd h ComponentsFault.not_repeatedParameter

end CallerInput

theorem Route.admitParams_ne_invalidUrl {route : Route} {name params : String}
    {fault : UriFault} :
    route.admitParams name params ≠ .error (.invalidUrl field url fault) := by
  unfold admitParams
  split
  · nofun
  split
  · nofun
  split <;> nofun

/-- Once the path is known, the URL is not at fault any more. -/
theorem Catalog.settle_ne_invalidUrl {found : Located} {fault : UriFault} :
    catalog.settle input found ≠ .error (.invalidUrl field url fault) := by
  unfold settle
  split
  · nofun
  · intro h
    have hparams := map_eq_error.mp h
    unfold Api.extractParams at hparams
    split at hparams
    · cases hparams
    · exact Route.admitParams_ne_invalidUrl hparams

theorem exists_repeatedKey_of_classify
    (h : catalog.classify input =
      .error (.invalidUrl field url (.repeatedParameter key))) :
    ∃ uri, input.Reaches uri ∧ RepeatedKey uri.queryPairs key := by
  rw [classify_eq_locate_bind] at h
  cases hlocate : input.locate with
  | error e =>
      rw [hlocate, error_bind] at h
      obtain rfl := Except.error.inj h
      obtain ⟨check, hviolates⟩ :=
        (reports_locate input catalog).exists_fault hlocate
      exact hviolates.exists_repeatedKey
  | ok found =>
      rw [hlocate, ok_bind] at h
      exact absurd h Catalog.settle_ne_invalidUrl

/-- The keys of components are distinct. -/
theorem Uri.not_repeatedKey {uri : Uri} {map : SortedMap String}
    (h : uri.queryMap field = .ok map) : ¬ RepeatedKey uri.queryPairs key := by
  intro hkey
  cases h.symm.trans (queryMap_eq_error_iff.mpr ⟨key, hkey, rfl⟩)

/-! ## The query that is shown -/

theorem CallerInput.queryMap_of_componentUri {uri : Uri}
    (h : input.componentUri = .ok uri) :
    uri.queryMap field = .ok input.queryParams :=
  Uri.queryMap_of_entries (queryPairs_of_componentUri h)

theorem not_repeatedParameter_of_no_url (hurl : input.url = "") :
    catalog.classify input ≠
      .error (.invalidUrl field url (.repeatedParameter key)) := by
  intro h
  obtain ⟨uri, huri, hkey⟩ := exists_repeatedKey_of_classify h
  have hcomponents : input.componentUri = .ok uri := by
    rw [← CallerInput.targetUri_of_no_url hurl]
    exact CallerInput.targetUri_eq_ok_iff.mpr huri
  have hmap : uri.queryMap field = .ok input.queryParams :=
    CallerInput.queryMap_of_componentUri hcomponents
  exact Uri.not_repeatedKey hmap hkey

/-- Where the components are looked at, their query is that of the URI. -/
theorem Accepted.queryMap_eq_given {r : Request} {query : SortedMap String}
    {path : String} {route : Route}
    (h : Accepted catalog input r query path route)
    (hlooked : input.url ≠ "" → input.path ≠ "") :
    r.uri.queryMap field = .ok input.queryParams := by
  by_cases hurl : input.url = ""
  · exact CallerInput.queryMap_of_componentUri (h.componentUri_eq hurl)
  · obtain ⟨components, hcomponents, hlike⟩ :=
      h.exists_components hurl (hlooked hurl)
    have hmap : components.queryMap field = .ok input.queryParams :=
      CallerInput.queryMap_of_componentUri hcomponents
    exact hlike.queryMap_iff.mp hmap

/-- A query is shown as the one of the URI, unless one is given beside a URL
that is not held to the components. -/
theorem queryMap_of_classify {r : Request} (h : catalog.classify input = .ok r)
    (hlooked : ¬ (input.url ≠ "" ∧ input.path = "" ∧ input.queryParams ≠ ∅)) :
    r.uri.queryMap field = .ok r.queryParams := by
  obtain ⟨query, path, route, hacc⟩ := classify_eq_ok_iff.mp h
  rw [hacc.queryParams]
  by_cases hnone : input.queryParams = ∅
  · rw [if_pos (SortedMap.isEmpty_iff.mpr hnone)]
    exact Uri.queryMap_eq_ok_iff.mpr (Uri.queryMap_eq_ok_iff.mp hacc.distinct)
  · rw [if_neg (mt SortedMap.isEmpty_iff.mp hnone)]
    exact hacc.queryMap_eq_given fun hurl hpath => hlooked ⟨hurl, hpath, hnone⟩

end

/-- What becomes of the query of an input. -/
structure Catalog.KeepsQuery (catalog : Catalog) (input : CallerInput) :
    Prop where
  /-- The URI of the components has the pairs that are given, in key order. -/
  pairs : ∀ uri, input.componentUri = .ok uri →
    uri.queryPairs = input.queryParams.entries
  /-- Its query is read as the map that is given. -/
  map : ∀ uri field, input.componentUri = .ok uri →
    uri.queryMap field = .ok input.queryParams
  /-- Without a URL no key is found to be repeated. -/
  distinct : input.url = "" → ∀ field url key,
    catalog.classify input ≠
      .error (.invalidUrl field url (.repeatedParameter key))
  /-- A request shows the query of its URI, unless a query is given beside a URL
  and no path. -/
  shown : ∀ r field, catalog.classify input = .ok r →
    ¬ (input.url ≠ "" ∧ input.path = "" ∧ input.queryParams ≠ ∅) →
      r.uri.queryMap field = .ok r.queryParams

/-- **Queries survive.** Whatever keys and values an input gives, they are what
is read from the URI it leads to. -/
theorem keepsQuery (catalog : Catalog) (input : CallerInput) :
    catalog.KeepsQuery input where
  pairs _ := CallerInput.queryPairs_of_componentUri
  map _ _ := CallerInput.queryMap_of_componentUri
  distinct hurl _ _ _ := not_repeatedParameter_of_no_url hurl
  shown _ _ := queryMap_of_classify

/-- Keys and values that are empty or full of what divides a query. -/
def separatingInput : CallerInput :=
  (((CallerInput.ofPath "/_cluster/health").withQueryParam "" "").withQueryParam
    "a&b" "c=d").withQueryParam "+ %" "#é"

set_option maxRecDepth 2000 in
theorem keepsQuery_separating :
    ∃ r, (Catalog.full clusterTable).classify separatingInput = .ok r ∧
      r.uri.query = some "=&%2B+%25=%23%C3%A9&a%26b=c%3Dd" ∧
      r.queryParams.entries = [("", ""), ("+ %", "#é"), ("a&b", "c=d")] ∧
      r.uri.queryMap .path = .ok r.queryParams := by
  obtain ⟨r, hr, hquery, hparams⟩ :
      ∃ r, (Catalog.full clusterTable).classify separatingInput = .ok r ∧
        r.uri.query = some "=&%2B+%25=%23%C3%A9&a%26b=c%3Dd" ∧
        r.queryParams.entries = [("", ""), ("+ %", "#é"), ("a&b", "c=d")] :=
    ⟨_, rfl, rfl, rfl⟩
  exact ⟨r, hr, hquery, hparams, (keepsQuery _ _).shown r .path hr
    fun h => h.1 rfl⟩

end ClusterGate
