import ClusterGate.Proofs.Request.Canonical
import ClusterGate.Proofs.Request.Components
import ClusterGate.Proofs.Verdict

/-!
# What can be wrong with an input

For each step of classifying, when it fails and with what: reaching a URI by
the URL or by the components (`TargetFault`), reading its query as a map
(`RepeatedKey`), and taking endpoint and path from it. Together with what is
read if all is well, each step is described from both sides.
-/

namespace ClusterGate

variable {input : CallerInput} {uri other : Uri} {field : InputField}
  {e : Rejection}

/-! ## Timeouts -/

theorem CallerInput.checkTimeout_eq_error_iff {kind : TimeoutKind}
    {seconds : Int32} :
    CallerInput.checkTimeout kind seconds = .error e ↔
      ¬ (kind.least ≤ seconds ∧ seconds ≤ kind.greatest) ∧
        .timeoutOutOfRange kind seconds = e := by
  rw [← TimeoutKind.allows_iff, checkTimeout]
  split
  · next h => exact iff_of_false nofun fun hnot => hnot.1 h
  · next h => rw [Except.error.injEq, and_iff_right h]

/-! ## Reaching a URI -/

namespace Uri

/-- Requests may use the URI. -/
structure Usable (uri : Uri) : Prop where
  scheme : uri.scheme ∈ supportedSchemes
  host : uri.host ≠ none
  /-- No two slashes stand next to each other in the path. -/
  segments : ¬ "//".toList <:+: uri.path.toList

/-- Why requests may not use a URI. -/
inductive Unusable (uri : Uri) : UriFault → Prop
  | scheme (h : uri.scheme ∉ supportedSchemes) :
      Unusable uri (.unsupportedScheme uri.scheme)
  | host (hscheme : uri.scheme ∈ supportedSchemes) (h : uri.host = none) :
      Unusable uri .missingHost
  | segment (hscheme : uri.scheme ∈ supportedSchemes) (hhost : uri.host ≠ none)
      (h : "//".toList <:+: uri.path.toList) : Unusable uri .emptySegment

theorem usable_iff_checked : uri.Usable ↔ uri.checked field = .ok uri := by
  rw [checked_eq_ok_iff, and_iff_right rfl, Option.isSome_iff_ne_none,
    hasEmptySegment_eq_false_iff]
  exact ⟨fun h => ⟨h.scheme, h.host, h.segments⟩,
    fun ⟨hscheme, hhost, hsegments⟩ => ⟨hscheme, hhost, hsegments⟩⟩

theorem checked_eq_error_iff :
    uri.checked field = .error e ↔
      ∃ fault, uri.Unusable fault ∧ .invalidUrl field uri.render fault = e := by
  unfold checked
  constructor
  · intro h
    split at h
    · next hscheme => exact ⟨_, .scheme hscheme, Except.error.inj h⟩
    next hscheme =>
    split at h
    · next hhost =>
        exact ⟨_, .host (not_not.mp hscheme)
          (Option.isNone_iff_eq_none.mp hhost), Except.error.inj h⟩
    next hhost =>
    split at h
    · next hsegment =>
        exact ⟨_, .segment (not_not.mp hscheme)
          (mt Option.isNone_iff_eq_none.mpr hhost)
          (hasEmptySegment_iff.mp hsegment), Except.error.inj h⟩
    · cases h
  · rintro ⟨fault, hfault, rfl⟩
    cases hfault with
    | scheme h => rw [if_pos h]
    | host hscheme h =>
        rw [if_neg (not_not_intro hscheme),
          if_pos (Option.isNone_iff_eq_none.mpr h)]
    | segment hscheme hhost h =>
        rw [if_neg (not_not_intro hscheme),
          if_neg (mt Option.isNone_iff_eq_none.mp hhost),
          if_pos (hasEmptySegment_iff.mpr h)]

end Uri

namespace CallerInput

/-- The components make a URI that requests may use. -/
structure Describes (input : CallerInput) (uri : Uri) : Prop where
  scheme : input.wantedScheme ∈ supportedSchemes
  made : ∃ host, Host.parse input.wantedHost.toList = .ok host ∧
    input.assemble input.wantedScheme host = uri
  usable : uri.Usable

/-- Why the components make no URI that requests may use. -/
inductive ComponentsFault (input : CallerInput) : Rejection → Prop
  | scheme (h : input.wantedScheme ∉ supportedSchemes) :
      ComponentsFault input
        (.invalidUrl .scheme input.scheme
          (.unsupportedScheme input.wantedScheme))
  | host {cause : UriError} (hscheme : input.wantedScheme ∈ supportedSchemes)
      (h : Host.parse input.wantedHost.toList = .error cause) :
      ComponentsFault input
        (.invalidUrl .host input.wantedHost (.unreadable cause))
  | unusable {host : Host} {fault : UriFault}
      (hscheme : input.wantedScheme ∈ supportedSchemes)
      (hhost : Host.parse input.wantedHost.toList = .ok host)
      (h : (input.assemble input.wantedScheme host).Unusable fault) :
      ComponentsFault input
        (.invalidUrl .path (input.assemble input.wantedScheme host).render
          fault)

theorem componentUri_eq_ok_iff :
    input.componentUri = .ok uri ↔ input.Describes uri := by
  rw [componentUri_eq]
  constructor
  · intro h
    split at h
    · cases h
    next hscheme =>
    split at h
    · cases h
    · next host hhost =>
        obtain ⟨rfl, -⟩ := Uri.checked_eq_ok_iff.mp h
        exact ⟨not_not.mp hscheme, ⟨host, hhost, rfl⟩,
          Uri.usable_iff_checked.mpr h⟩
  · rintro ⟨hscheme, ⟨host, hhost, rfl⟩, husable⟩
    rw [if_neg (not_not_intro hscheme), hhost]
    exact Uri.usable_iff_checked.mp husable

theorem Describes.unique (h : input.Describes uri)
    (hother : input.Describes other) :
    uri = other :=
  Except.ok.inj ((componentUri_eq_ok_iff.mpr h).symm.trans
    (componentUri_eq_ok_iff.mpr hother))

theorem componentUri_eq_error_iff :
    input.componentUri = .error e ↔ input.ComponentsFault e := by
  rw [componentUri_eq]
  constructor
  · intro h
    split at h
    · next hscheme =>
        obtain rfl := Except.error.inj h
        exact .scheme hscheme
    next hscheme =>
    split at h
    · next cause hhost =>
        obtain rfl := Except.error.inj h
        exact .host (not_not.mp hscheme) hhost
    · next host hhost =>
        obtain ⟨fault, hfault, rfl⟩ := Uri.checked_eq_error_iff.mp h
        exact .unusable (not_not.mp hscheme) hhost hfault
  · intro h
    cases h with
    | scheme h => rw [if_pos h]
    | host hscheme h => rw [if_neg (not_not_intro hscheme), h]
    | unusable hscheme hhost h =>
        rw [if_neg (not_not_intro hscheme), hhost]
        exact Uri.checked_eq_error_iff.mpr ⟨_, h, rfl⟩

theorem ComponentsFault.exists_eq (h : input.ComponentsFault e) :
    ∃ field url fault, e = .invalidUrl field url fault := by
  cases h <;> exact ⟨_, _, _, rfl⟩

/-- An input leads to a URI that requests may use. -/
inductive Reaches (input : CallerInput) (uri : Uri) : Prop
  | components (hurl : input.url = "") (h : input.Describes uri)
  | url (hurl : input.url ≠ "") (hparse : Uri.parse input.url = .ok uri)
      (h : uri.Usable)

/-- Why an input leads to no URI that requests may use. -/
inductive TargetFault (input : CallerInput) : Rejection → Prop
  | components {e : Rejection} (hurl : input.url = "")
      (h : input.ComponentsFault e) :
      TargetFault input e
  | unreadable {cause : UriError} (hurl : input.url ≠ "")
      (h : Uri.parse input.url = .error cause) :
      TargetFault input (.invalidUrl .url input.url (.unreadable cause))
  | unusable {uri : Uri} {fault : UriFault} (hurl : input.url ≠ "")
      (hparse : Uri.parse input.url = .ok uri) (h : uri.Unusable fault) :
      TargetFault input (.invalidUrl .url uri.render fault)

theorem TargetFault.exists_eq (h : input.TargetFault e) :
    ∃ field url fault, e = .invalidUrl field url fault := by
  cases h with
  | components _ h => exact h.exists_eq
  | unreadable => exact ⟨_, _, _, rfl⟩
  | unusable => exact ⟨_, _, _, rfl⟩

theorem targetUri_of_no_url (hurl : input.url = "") :
    input.targetUri = input.componentUri := by
  rw [targetUri, if_pos (by simp [hurl])]

theorem targetUri_of_url (hurl : input.url ≠ "") :
    input.targetUri = input.urlUri := by
  rw [targetUri, if_neg (by simpa using hurl)]

theorem targetUri_eq_ok_iff :
    input.targetUri = .ok uri ↔ input.Reaches uri := by
  by_cases hurl : input.url = ""
  · rw [targetUri_of_no_url hurl, componentUri_eq_ok_iff]
    refine ⟨.components hurl, fun h => ?_⟩
    cases h with
    | components _ h => exact h
    | url hne => exact absurd hurl hne
  · rw [targetUri_eq_ok_iff_of_url hurl, ← Uri.usable_iff_checked]
    refine ⟨fun ⟨hparse, h⟩ => .url hurl hparse h, fun h => ?_⟩
    cases h with
    | components heq => exact absurd heq hurl
    | url _ hparse h => exact ⟨hparse, h⟩

theorem Reaches.unique (h : input.Reaches uri) (hother : input.Reaches other) :
    uri = other :=
  Except.ok.inj
    ((targetUri_eq_ok_iff.mpr h).symm.trans (targetUri_eq_ok_iff.mpr hother))

theorem targetUri_eq_error_iff :
    input.targetUri = .error e ↔ input.TargetFault e := by
  by_cases hurl : input.url = ""
  · rw [targetUri_of_no_url hurl, componentUri_eq_error_iff]
    refine ⟨.components hurl, fun h => ?_⟩
    cases h with
    | components _ h => exact h
    | unreadable hne => exact absurd hurl hne
    | unusable hne => exact absurd hurl hne
  · rw [targetUri_of_url hurl, urlUri]
    constructor
    · intro h
      split at h
      · next cause hparse =>
          obtain rfl := Except.error.inj h
          exact .unreadable hurl hparse
      · next uri hparse =>
          obtain ⟨fault, hfault, rfl⟩ := Uri.checked_eq_error_iff.mp h
          exact .unusable hurl hparse hfault
    · intro h
      cases h with
      | components heq => exact absurd heq hurl
      | unreadable _ h => rw [h]
      | unusable _ hparse h =>
          rw [hparse]
          exact Uri.checked_eq_error_iff.mpr ⟨_, h, rfl⟩

end CallerInput

/-! ## Queries -/

/-- The first key that stands before already. -/
def RepeatedKey (pairs : List (String × String)) (key : String) : Prop :=
  FirstFault (fun before e key => e.1 = key ∧
    key ∈ before.map Prod.fst) pairs key

/-- Adds one pair to a map that does not have its key. -/
def admitPair (known : SortedMap String) (e : String × String) :
    Except String (SortedMap String) :=
  if known.contains e.1 then .error e.1 else .ok (known.insert e.1 e.2)

theorem distinctKeys_eq_foldlM :
    ∀ (pairs : List (String × String)) (known : SortedMap String),
      distinctKeys known pairs = pairs.foldlM admitPair known
  | [], _ => rfl
  | e :: rest, known => by
      rw [distinctKeys, List.foldlM_cons, admitPair]
      split
      · rfl
      · exact distinctKeys_eq_foldlM rest _

theorem pass_admitPair :
    Pass admitPair SortedMap.ofList (fun l => (l.map Prod.fst).Nodup)
    (fun before e => e.1 ∉ before.map Prod.fst)
    (fun before e key => e.1 = key ∧ key ∈ before.map Prod.fst) where
  clean_nil := List.nodup_nil
  clean_snoc := nodup_map_snoc
  verdict_step := by
    intro l e _
    rw [admitPair]
    by_cases hkey : e.1 ∈ l.map Prod.fst
    · rw [if_pos (SortedMap.contains_ofList_iff.mpr hkey)]
      refine ⟨fun h => absurd hkey h, ?_, .inr ⟨e.1, rfl, hkey⟩⟩
      rintro _ ⟨rfl, -⟩
      rfl
    · rw [if_neg (mt SortedMap.contains_ofList_iff.mp hkey),
        ← SortedMap.ofList_snoc]
      refine ⟨fun _ => rfl, ?_, .inl hkey⟩
      rintro _ ⟨rfl, h⟩
      exact absurd h hkey

theorem Uri.queryMap_eq_error_iff :
    uri.queryMap field = .error e ↔
      ∃ key, RepeatedKey uri.queryPairs key ∧
        .invalidUrl field uri.render (.repeatedParameter key) = e := by
  rw [queryMap, mapError_eq_error, distinctKeys_eq_foldlM]
  exact exists_congr fun key => and_congr_left fun _ =>
    (pass_admitPair.verdict _).eq_error_iff

/-! ## Endpoint and path -/

theorem Uri.checkEndpoint_eq_error_iff :
    uri.checkEndpoint = .error e ↔
      ¬ (isSupportedHost uri.hostText = true ∧
        uri.effectivePort? = some supportedPort) ∧
        .unsupportedHostOrPort uri.hostText
          (uri.effectivePort?.getD 0) = e := by
  rw [← checkEndpoint_eq_ok_iff, checkEndpoint]
  split
  · exact iff_of_false nofun fun h => h.1 rfl
  · rw [Except.error.injEq, and_iff_right nofun]

theorem Uri.decodedPath_eq_error_iff :
    uri.decodedPath field = .error e ↔
      ∃ cause, Utf8.decode (Percent.decode uri.path.toList) = .error cause ∧
        .invalidUrl field uri.render (.undecodablePath cause) = e := by
  unfold decodedPath
  cases Utf8.decode (Percent.decode uri.path.toList) with
  | ok path => exact iff_of_false nofun nofun
  | error cause => simp

end ClusterGate
