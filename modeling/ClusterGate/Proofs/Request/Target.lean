import ClusterGate.Proofs.Outcome
import ClusterGate.Request.Classify

/-!
# What is known of a target

A URI that an input points at has passed the checks of `Uri.checked`, and
its query, when it can be read as a map, has every key once and is that
map (`distinctKeys_eq_ok_iff`). Two URIs that have the same target
(`Uri.Alike`) pass the same checks and are taken apart alike.
-/

namespace ClusterGate

/-! ## Queries as maps -/

/-- **Maps of pairs.** Pairs make a map if their keys differ from each other
and from those already there, and then the map has the pairs and nothing
else new. -/
theorem distinctKeys_eq_ok_iff {map : SortedMap String} :
    ∀ {pairs : List (String × String)}
    {known : SortedMap String}, distinctKeys known pairs = .ok map ↔
      (pairs.map Prod.fst).Nodup ∧ (∀ e ∈ pairs, known.get? e.1 = none) ∧
        ∀ k v, map.get? k = some v ↔ known.get? k = some v ∨ (k, v) ∈ pairs
  | [], known => by
      simp only [distinctKeys, List.not_mem_nil, or_false, Except.ok.injEq]
      constructor
      · rintro rfl
        exact ⟨.nil, nofun, fun _ _ => .rfl⟩
      · rintro ⟨-, -, h⟩
        exact SortedMap.ext_get? fun k => Option.ext fun v => (h k v).symm
  | (key, value) :: rest, known => by
      rw [distinctKeys]
      cases hkey : known.get? key with
      | some old =>
          rw [if_pos (by simp [SortedMap.contains, hkey])]
          refine iff_of_false nofun fun ⟨_, hfree, _⟩ => ?_
          have hnone := hfree (key, value) List.mem_cons_self
          rw [hkey] at hnone
          cases hnone
      | none =>
          rw [if_neg (by simp [SortedMap.contains, hkey]),
            distinctKeys_eq_ok_iff]
          have hinsert : ∀ k v, (known.insert key value).get? k = some v ↔
              known.get? k = some v ∨ (k, v) = (key, value) := by
            intro k v
            rw [SortedMap.get?_insert]
            by_cases hk : key = k
            · subst hk
              simp [hkey, eq_comm]
            · simp [hk, Ne.symm hk]
          have hfree : (∀ e ∈ rest, (known.insert key value).get? e.1 = none) ↔
              key ∉ rest.map Prod.fst ∧ ∀ e ∈ rest, known.get? e.1 = none := by
            constructor
            · intro h
              refine ⟨fun hmem => ?_, fun e he => ?_⟩
              · obtain ⟨e, he, rfl⟩ := List.mem_map.mp hmem
                have hnone := h e he
                rw [SortedMap.get?_insert, if_pos rfl] at hnone
                cases hnone
              · have hnone := h e he
                rw [SortedMap.get?_insert] at hnone
                split at hnone
                · cases hnone
                · exact hnone
            · rintro ⟨hnot, h⟩ e he
              have hne : key ≠ e.1 :=
                fun hk => hnot (hk ▸ List.mem_map_of_mem he)
              rw [SortedMap.get?_insert, if_neg hne, h e he]
          rw [hfree, List.forall_mem_cons, List.map_cons, List.nodup_cons]
          simp only [hinsert, hkey, true_and, List.mem_cons, or_assoc,
            and_assoc, and_left_comm]

theorem Uri.queryMap_eq_ok_iff {uri : Uri} {field : InputField}
    {map : SortedMap String} :
    uri.queryMap field = .ok map ↔
      (uri.queryPairs.map Prod.fst).Nodup ∧
        ∀ k v, map.get? k = some v ↔ (k, v) ∈ uri.queryPairs := by
  have hempty : ∀ k, SortedMap.get? (∅ : SortedMap String) k = none :=
    fun _ => rfl
  rw [queryMap, mapError_eq_ok, distinctKeys_eq_ok_iff]
  simp [hempty]

/-! ## Checked URIs -/

theorem hasEmptySegment_eq_false_iff {path : List Char} :
    hasEmptySegment path = false ↔ ¬ "//".toList <:+: path := by
  fun_induction hasEmptySegment path with
  | case1 rest =>
      exact iff_of_false nofun
        (not_not_intro (List.prefix_append _ rest).isInfix)
  | case2 c rest hslash ih =>
      rw [ih, List.infix_cons_iff, or_iff_right]
      rintro ⟨tail, htail⟩
      obtain ⟨rfl, rfl⟩ := List.cons_eq_cons.mp htail
      exact hslash tail rfl rfl
  | case3 => simp

theorem hasEmptySegment_iff {path : List Char} :
    hasEmptySegment path = true ↔ "//".toList <:+: path := by
  rw [← Bool.not_eq_false, hasEmptySegment_eq_false_iff, Classical.not_not]

theorem Uri.checked_eq_ok_iff {uri checked : Uri} {field : InputField} :
    uri.checked field = .ok checked ↔
      uri = checked ∧ uri.scheme ∈ supportedSchemes ∧ uri.host.isSome = true ∧
        hasEmptySegment uri.path.toList = false := by
  unfold Uri.checked
  by_cases hscheme :
    uri.scheme ∈ supportedSchemes <;> cases hhost : uri.host <;>
      cases hempty : hasEmptySegment uri.path.toList <;> simp [hscheme]

/-- Whichever way a URI is reached, it has been checked. -/
theorem CallerInput.checked_of_targetUri {input : CallerInput} {uri : Uri}
    (h : input.targetUri = .ok uri) : ∃ field, uri.checked field = .ok uri := by
  have hself : ∀ {u : Uri} {field : InputField}, u.checked field = .ok uri →
      uri.checked field = .ok uri := fun h => by
    obtain ⟨rfl, -⟩ := Uri.checked_eq_ok_iff.mp h
    exact h
  unfold targetUri at h
  split at h
  · unfold componentUri at h
    split at h
    · cases h
    split at h
    · cases h
    split at h
    · cases h
    · exact ⟨_, hself h⟩
  · unfold urlUri at h
    split at h
    · cases h
    · exact ⟨_, hself h⟩

theorem Uri.checkEndpoint_eq_ok_iff {uri : Uri} :
    uri.checkEndpoint = .ok () ↔
      isSupportedHost uri.hostText = true ∧
        uri.effectivePort? = some supportedPort := by
  unfold checkEndpoint
  cases hhost : isSupportedHost uri.hostText <;> cases hport :
    uri.effectivePort? with
  | none => simp [supportedPort]
  | some port => simp

theorem Uri.decodedPath_eq_ok_iff {uri : Uri} {field : InputField}
    {path : String} :
    uri.decodedPath field = .ok path ↔
      Utf8.decode (Percent.decode uri.path.toList) = .ok path.toList := by
  unfold decodedPath
  split
  · next decoded hdecoded =>
      rw [hdecoded, Except.ok.injEq, Except.ok.injEq, ← String.toList_inj,
        String.toList_ofList]
  · next hdecoded => simp [hdecoded]

/-! ## URIs of one target -/

/-- The same endpoint and path, and the same query in some order. Credentials
and fragment do not count. -/
structure Uri.Alike (a b : Uri) : Prop where
  scheme : a.scheme = b.scheme
  host : a.hostText = b.hostText
  port : a.effectivePort? = b.effectivePort?
  path : a.path = b.path
  query : a.queryPairs.Perm b.queryPairs

namespace Uri

variable {a b : Uri} {field other : InputField}

theorem sameTarget_iff : a.sameTarget b = true ↔ a.Alike b := by
  simp only [sameTarget, Bool.and_eq_true, beq_iff_eq, List.isPerm_iff]
  constructor
  · rintro ⟨⟨⟨⟨hscheme, hhost⟩, hport⟩, hpath⟩, hquery⟩
    exact ⟨hscheme, hhost, hport, hpath, hquery⟩
  · intro h
    exact ⟨⟨⟨⟨h.scheme, h.host⟩, h.port⟩, h.path⟩, h.query⟩

theorem Alike.symm (h : a.Alike b) : b.Alike a :=
  ⟨h.scheme.symm, h.host.symm, h.port.symm, h.path.symm, h.query.symm⟩

theorem Alike.trans {c : Uri} (h : a.Alike b) (h' : b.Alike c) : a.Alike c :=
  ⟨h.scheme.trans h'.scheme, h.host.trans h'.host, h.port.trans h'.port,
    h.path.trans h'.path, h.query.trans h'.query⟩

/-- The order of the pairs matters neither to the check of the keys nor to
the map. -/
theorem Alike.queryMap_iff (h : a.Alike b) {map : SortedMap String} :
    a.queryMap field = .ok map ↔ b.queryMap other = .ok map := by
  have hkeys : (a.queryPairs.map Prod.fst).Nodup ↔
      (b.queryPairs.map Prod.fst).Nodup :=
    (h.query.map Prod.fst).nodup_iff
  rw [queryMap_eq_ok_iff, queryMap_eq_ok_iff, hkeys]
  simp only [h.query.mem_iff]

theorem Alike.checkEndpoint_iff (h : a.Alike b) :
    a.checkEndpoint = .ok () ↔ b.checkEndpoint = .ok () := by
  rw [checkEndpoint_eq_ok_iff, checkEndpoint_eq_ok_iff, h.host, h.port]

theorem Alike.decodedPath_iff (h : a.Alike b) {path : String} :
    a.decodedPath field = .ok path ↔ b.decodedPath other = .ok path := by
  rw [decodedPath_eq_ok_iff, decodedPath_eq_ok_iff, h.path]

end Uri

end ClusterGate
