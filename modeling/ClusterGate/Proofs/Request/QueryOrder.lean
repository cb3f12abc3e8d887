import ClusterGate.Proofs.Request.Faults
import ClusterGate.Proofs.Request.Located

/-!
# The order of the pairs in a URL

Two inputs whose URLs have the same target, with the pairs of the query in
another order, are classified alike: as requests that differ in URL and URI
only, or with rejections of one kind (`sameOutcome_classify`).

The two runs are compared step by step. Their outcomes are of one kind
(`SameOutcome`) if both succeed with values that are related or both fail for
the same reason, and this carries over from two steps to what follows on them
(`SameOutcome.bind`).
-/

namespace ClusterGate

/-! ## Outcomes of one kind -/

/-- Rejections that are the same but for the URL they quote and for which of
several repeated keys they name. -/
inductive Rejection.SameKind : Rejection → Rejection → Prop
  | same (e : Rejection) : SameKind e e
  | invalidUrl (field : InputField) (url other : String) (fault : UriFault) :
      SameKind (.invalidUrl field url fault) (.invalidUrl field other fault)
  | repeatedParameter (field : InputField) (url other key key' : String) :
      SameKind (.invalidUrl field url (.repeatedParameter key))
        (.invalidUrl field other (.repeatedParameter key'))
  | conflictingTarget (url other fromFields : String) :
      SameKind (.conflictingTarget url fromFields)
        (.conflictingTarget other fromFields)

/-- Both succeed, with values that are related, or both are rejected for the
same reason. -/
inductive SameOutcome {α β : Type} (R : α → β → Prop) :
    Except Rejection α → Except Rejection β → Prop
  | ok {a : α} {b : β} (h : R a b) : SameOutcome R (.ok a) (.ok b)
  | error {e e' : Rejection} (h : e.SameKind e') :
      SameOutcome R (.error e) (.error e')

namespace SameOutcome

variable {α β γ δ : Type} {R : α → β → Prop} {S : γ → δ → Prop}
  {x : Except Rejection α} {y : Except Rejection β}

theorem bind {f : α → Except Rejection γ} {g : β → Except Rejection δ}
    (h : SameOutcome R x y) (hf : ∀ a b, R a b → SameOutcome S (f a) (g b)) :
    SameOutcome S (x >>= f) (y >>= g) := by
  cases h with
  | ok hab => exact hf _ _ hab
  | error he => exact .error he

theorem map {f : α → γ} {g : β → δ} (h : SameOutcome R x y)
    (hf : ∀ a b, R a b → S (f a) (g b)) :
    SameOutcome S (x.map f) (y.map g) := by
  cases h with
  | ok hab => exact .ok (hf _ _ hab)
  | error he => exact .error he

theorem refl (x : Except Rejection α) : SameOutcome Eq x x := by
  cases x with
  | ok a => exact .ok rfl
  | error e => exact .error (.same e)

end SameOutcome

/-! ## Steps on URIs of one target -/

section

variable {input : CallerInput} {uri uri' : Uri} {field : InputField}

theorem Uri.ne_empty_of_parse {text : String} (h : parse text = .ok uri) :
    text ≠ "" := by
  rintro rfl
  cases h

/-- A URI of a supported scheme that was read has a host. -/
theorem Uri.host_ne_none_of_parse {text : String} (h : parse text = .ok uri)
    (hscheme : uri.scheme ∈ supportedSchemes) : uri.host.isNone = false := by
  obtain ⟨_, host, hhost, -⟩ :=
    parse_host_of_parse h (kind_of_supported hscheme)
  rw [hhost]
  rfl

namespace Uri.Alike

theorem sameOutcome_checked {text text' : String} (h : uri.Alike uri')
    (hread : parse text = .ok uri) (hread' : parse text' = .ok uri') :
    SameOutcome (fun a b => a = uri ∧ b = uri') (uri.checked field)
      (uri'.checked field) := by
  unfold checked
  rw [← h.scheme, ← h.path]
  by_cases hscheme : uri.scheme ∉ supportedSchemes
  · rw [if_pos hscheme, if_pos hscheme]
    exact .error (.invalidUrl ..)
  · have hsupported : uri.scheme ∈ supportedSchemes := not_not.mp hscheme
    rw [if_neg hscheme, if_neg hscheme, host_ne_none_of_parse hread hsupported,
      host_ne_none_of_parse hread' (h.scheme ▸ hsupported)]
    cases hasEmptySegment uri.path.toList with
    | true => exact .error (.invalidUrl ..)
    | false => exact .ok ⟨rfl, rfl⟩

/-- Both queries make the same map, or both have a repeated key. -/
theorem sameOutcome_queryMap (h : uri.Alike uri') :
    SameOutcome Eq (uri.queryMap field) (uri'.queryMap field) := by
  cases hmap : uri.queryMap field with
  | ok map =>
      rw [h.queryMap_iff.mp hmap]
      exact .ok rfl
  | error e =>
      cases hmap' : uri'.queryMap field with
      | ok map => cases hmap.symm.trans (h.queryMap_iff.mpr hmap')
      | error e' =>
          obtain ⟨key, -, rfl⟩ := queryMap_eq_error_iff.mp hmap
          obtain ⟨key', -, rfl⟩ := queryMap_eq_error_iff.mp hmap'
          exact .error (.repeatedParameter ..)

theorem sameTarget_eq (h : uri.Alike uri') (components : Uri) :
    components.sameTarget uri = components.sameTarget uri' := by
  rw [Bool.eq_iff_iff, sameTarget_iff, sameTarget_iff]
  exact ⟨fun hlike => hlike.trans h, fun hlike => hlike.trans h.symm⟩

theorem checkEndpoint_eq (h : uri.Alike uri') :
    uri.checkEndpoint = uri'.checkEndpoint := by
  rw [checkEndpoint, checkEndpoint, h.host, h.port]

theorem sameOutcome_decodedPath (h : uri.Alike uri') :
    SameOutcome Eq (uri.decodedPath field) (uri'.decodedPath field) := by
  unfold decodedPath
  rw [← h.path]
  cases Utf8.decode (Percent.decode uri.path.toList) with
  | ok path => exact .ok rfl
  | error cause => exact .error (.invalidUrl ..)

end Uri.Alike

/-! ## Steps on inputs that differ in the URL -/

variable {other : String}

theorem CallerInput.sameOutcome_targetUri
    (hread : Uri.parse input.url = .ok uri)
    (hread' : Uri.parse other = .ok uri') (hlike : uri.Alike uri') :
    SameOutcome (fun a b => a = uri ∧ b = uri') input.targetUri
      { input with url := other }.targetUri := by
  have hurl : input.url ≠ "" := Uri.ne_empty_of_parse hread
  have hother : { input with url := other }.url ≠ "" :=
    Uri.ne_empty_of_parse hread'
  rw [targetUri_of_url hurl, targetUri_of_url hother, urlUri, urlUri,
    hread, hread']
  exact hlike.sameOutcome_checked hread hread'

theorem CallerInput.sameOutcome_checkAgreement (hurl : input.url ≠ "")
    (hother : other ≠ "") (hlike : uri.Alike uri') :
    SameOutcome Eq (input.checkAgreement uri)
      ({ input with url := other }.checkAgreement uri') := by
  have hurl' : input.url.isEmpty = false := by simpa using hurl
  have hother' : other.isEmpty = false := by simpa using hother
  have hcomponents :
      { input with url := other }.componentUri = input.componentUri :=
    componentUri_withUrl other
  rw [checkAgreement, checkAgreement, hurl', hother',
    Bool.false_or, hcomponents]
  cases input.path.isEmpty with
  | true => exact .ok rfl
  | false =>
      rw [if_neg Bool.false_ne_true, if_neg Bool.false_ne_true]
      refine (SameOutcome.refl input.componentUri).bind
        fun components _ hsame => ?_
      subst hsame
      rw [hlike.sameTarget_eq]
      split
      · exact .ok rfl
      · exact .error (.conflictingTarget ..)

theorem CallerInput.sameOutcome_locate (hread : Uri.parse input.url = .ok uri)
    (hread' : Uri.parse other = .ok uri') (hlike : uri.Alike uri') :
    SameOutcome (fun found found' => found.uri = uri ∧
      found' = { found with uri := uri' })
      input.locate { input with url := other }.locate := by
  have hurl : input.url ≠ "" := Uri.ne_empty_of_parse hread
  have hother : other ≠ "" := Uri.ne_empty_of_parse hread'
  have htarget : input.namesTarget = true := by simp [namesTarget, hurl]
  have htarget' : { input with url := other }.namesTarget = true := by
    simp [namesTarget, hother]
  have hfield :
      { input with url := other }.targetField = input.targetField := by
    simp [targetField, hurl, hother]
  unfold locate
  rw [htarget, htarget', hfield]
  simp only [Bool.not_true, Bool.false_eq_true, if_false]
  refine (SameOutcome.refl _).bind fun _ _ _ =>
    (SameOutcome.refl _).bind fun _ _ _ =>
      (sameOutcome_targetUri hread hread' hlike).bind ?_
  rintro _ _ ⟨rfl, rfl⟩
  refine hlike.sameOutcome_queryMap.bind fun query _ hquery =>
    (sameOutcome_checkAgreement hurl hother hlike).bind fun _ _ _ => ?_
  subst hquery
  rw [← hlike.checkEndpoint_eq]
  refine (SameOutcome.refl _).bind fun _ _ _ =>
    hlike.sameOutcome_decodedPath.bind ?_
  rintro path _ rfl
  exact .ok ⟨rfl, rfl⟩

theorem Catalog.sameOutcome_settle (catalog : Catalog) {found : Located}
    (hother : other ≠ "") (hlike : found.uri.Alike uri') :
    SameOutcome (fun r r' => r' = { r with url := other, uri := uri' })
      (catalog.settle input found)
      (catalog.settle { input with url := other }
        { found with uri := uri' }) := by
  unfold settle
  dsimp only
  cases catalog.findEntry? found.path with
  | none => exact .error (.same _)
  | some e =>
      refine (SameOutcome.refl _).map ?_
      rintro params _ rfl
      have hother' : other.isEmpty = false := by simpa using hother
      rw [← hlike.scheme, ← hlike.host, ← hlike.port, hother']
      rfl

end

/-- **The order of the pairs does not matter.** Inputs that differ in the URL
only, with URLs of one target and their pairs in any order, are both accepted,
as requests that differ in URL and URI only, or both rejected for the same
reason. -/
theorem sameOutcome_classify (catalog : Catalog) {input : CallerInput}
    {other : String} {uri uri' : Uri} (hread : Uri.parse input.url = .ok uri)
    (hread' : Uri.parse other = .ok uri') (hlike : uri.Alike uri') :
    SameOutcome (fun r r' => r' = { r with url := other, uri := uri' })
      (catalog.classify input)
      (catalog.classify { input with url := other }) := by
  rw [classify_eq_locate_bind, classify_eq_locate_bind]
  refine (CallerInput.sameOutcome_locate hread hread' hlike).bind ?_
  rintro found _ ⟨rfl, rfl⟩
  exact catalog.sameOutcome_settle (Uri.ne_empty_of_parse hread') hlike

/-- A URL with credentials and a fragment, and two keys that are repeated. -/
def repeatingInput : CallerInput :=
  CallerInput.ofUrl "http://ops@localhost:9200/_cat/tasks?a=1&b=2&b=3&a=4#top"

/-- The same target with the pairs in another order, where the other key is the
first that is found again. -/
def repeatingUrl : String := "http://LOCALHOST:9200/_cat/tasks?a=1&a=4&b=2&b=3"

set_option maxRecDepth 2000 in
theorem sameOutcome_classify_repeating :
    ∃ uri uri', Uri.parse repeatingInput.url = .ok uri ∧
      Uri.parse repeatingUrl = .ok uri' ∧
      uri.Alike uri' ∧
      (Catalog.full clusterTable).classify repeatingInput =
        .error (.invalidUrl .url repeatingInput.url (.repeatedParameter "b")) ∧
      SameOutcome (fun r r' => r' = { r with url := repeatingUrl, uri := uri' })
        ((Catalog.full clusterTable).classify repeatingInput)
        ((Catalog.full clusterTable).classify
          { repeatingInput with url := repeatingUrl }) := by
  obtain ⟨uri, hread, hscheme, hhost, hport, hpath, hpairs⟩ :
      ∃ uri, Uri.parse repeatingInput.url = .ok uri ∧ uri.scheme = "http" ∧
        uri.hostText = "localhost" ∧ uri.effectivePort? = some 9200 ∧
          uri.path = "/_cat/tasks" ∧
        uri.queryPairs = [("a", "1"), ("b", "2"), ("b", "3"), ("a", "4")] :=
    ⟨_, rfl, rfl, rfl, rfl, rfl, rfl⟩
  obtain ⟨uri', hread', hscheme', hhost', hport', hpath', hpairs'⟩ :
      ∃ uri', Uri.parse repeatingUrl = .ok uri' ∧ uri'.scheme = "http" ∧
        uri'.hostText = "localhost" ∧ uri'.effectivePort? = some 9200 ∧
          uri'.path = "/_cat/tasks" ∧
        uri'.queryPairs = [("a", "1"), ("a", "4"), ("b", "2"), ("b", "3")] :=
    ⟨_, rfl, rfl, rfl, rfl, rfl, rfl⟩
  have hlike : uri.Alike uri' :=
    { scheme := hscheme.trans hscheme'.symm
      host := hhost.trans hhost'.symm
      port := hport.trans hport'.symm
      path := hpath.trans hpath'.symm
      query := by
        rw [hpairs, hpairs']
        decide }
  exact ⟨uri, uri', hread, hread', hlike, rfl,
    sameOutcome_classify _ hread hread' hlike⟩

end ClusterGate
