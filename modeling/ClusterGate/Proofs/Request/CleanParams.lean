import ClusterGate.Proofs.Request.Params
import ClusterGate.Proofs.Uri.CleanPath
import ClusterGate.Proofs.Uri.Query
import ClusterGate.Request.Target

/-!
# Clean parameters

Clean parameters are segments that stay what they are in a path: joined to
a clean path they make another one, which has no empty segment, and every
route that has parameters accepts them as they are.
-/

namespace ClusterGate

open UriPath (CleanSegment)

variable {route : Route} {params path : String} {segment text : List Char}
  {all : List (List Char)}

/-- A text that is a path of clean segments. -/
def IsCleanPath (text : List Char) : Prop :=
  ∃ all, all ≠ [] ∧ (∀ s ∈ all, CleanSegment s) ∧ text = UriPath.render all

/-- Clean segments with slashes between them, without the characters that
parameters never contain. -/
structure CleanParams (params : String) : Prop where
  segments : ∃ all, all ≠ [] ∧ (∀ s ∈ all, CleanSegment s) ∧
    params.toList = Text.joinWith '/' all
  noBanned : ∀ c ∈ params.toList, c ∉ bannedCharacters

/-! ## Ends of clean parameters -/

theorem render_eq_cons (h : all ≠ []) :
    UriPath.render all = '/' :: Text.joinWith '/' all := by
  induction all with
  | nil => exact absurd rfl h
  | cons s rest ih =>
      rw [UriPath.render_cons]
      cases rest with
      | nil =>
          rw [UriPath.render, List.flatMap_nil, List.append_nil, Text.joinWith]
      | cons t rest =>
          rw [ih (List.cons_ne_nil _ _),
            Text.joinWith_cons (List.cons_ne_nil _ _)]

theorem slash_notMem (h : CleanSegment segment) : '/' ∉ segment :=
  fun hmem => h.chars '/' hmem (by decide)

theorem joinWith_eq_cons (h : CleanSegment segment) (rest : List (List Char)) :
    ∃ c tail, Text.joinWith '/' (segment :: rest) = c :: tail ∧ c ≠ '/' := by
  cases segment with
  | nil => exact absurd rfl h.ne_nil
  | cons c s =>
      have hc : c ≠ '/' := fun heq => slash_notMem h (heq ▸ List.mem_cons_self)
      cases rest with
      | nil => exact ⟨c, s, rfl, hc⟩
      | cons t rest => exact ⟨c, _, rfl, hc⟩

theorem head?_joinWith (h : ∀ s ∈ all, CleanSegment s) :
    (Text.joinWith '/' all).head? ≠ some '/' := by
  cases all with
  | nil => exact nofun
  | cons s rest =>
      obtain ⟨c, tail, hcons, hc⟩ :=
        joinWith_eq_cons (h s List.mem_cons_self) rest
      rw [hcons]
      exact fun hfirst => hc (Option.some.inj hfirst)

theorem getLast?_joinWith :
    ∀ {all : List (List Char)}, (∀ s ∈ all, CleanSegment s) →
    (Text.joinWith '/' all).getLast? ≠ some '/'
  | [], _ => nofun
  | [s], h => fun hlast =>
      slash_notMem (h s List.mem_cons_self) (List.mem_of_getLast? hlast)
  | s :: t :: rest, h => by
      obtain ⟨-, hrest⟩ := List.forall_mem_cons.mp h
      obtain ⟨c, tail, hcons, -⟩ :=
        joinWith_eq_cons (hrest t List.mem_cons_self) rest
      have hlast := getLast?_joinWith hrest
      rw [Text.joinWith_cons (List.cons_ne_nil _ _)]
      rw [hcons] at hlast ⊢
      simpa [List.getLast?_append, List.getLast?_cons] using hlast

theorem CleanParams.ne_empty (h : CleanParams params) : params ≠ "" := by
  rintro rfl
  obtain ⟨all, hne, hall, hjoin⟩ := h.segments
  cases all with
  | nil => exact hne rfl
  | cons s rest =>
      obtain ⟨c, tail, hcons, -⟩ :=
        joinWith_eq_cons (hall s List.mem_cons_self) rest
      rw [hcons] at hjoin
      cases hjoin

/-- Clean parameters suit every route that has any. -/
theorem CleanParams.suit (h : CleanParams params)
    (hroute : route.params ≠ .unsupported) :
    SuitParams route params := by
  obtain ⟨all, -, hall, hjoin⟩ := h.segments
  exact
    { noLeadingSlash := hjoin ▸ head?_joinWith hall
      noTrailingSlash := hjoin ▸ getLast?_joinWith hall
      noBanned := h.noBanned
      required := fun _ => h.ne_empty
      unsupported := fun hnone => absurd hnone hroute }

/-! ## Paths with clean parameters -/

theorem IsCleanPath.getLast?_ne (h : IsCleanPath text) :
    text.getLast? ≠ some '/' := by
  obtain ⟨all, hne, hall, rfl⟩ := h
  cases all with
  | nil => exact absurd rfl hne
  | cons s rest =>
      obtain ⟨c, tail, hcons, -⟩ :=
        joinWith_eq_cons (hall s List.mem_cons_self) rest
      have hlast := getLast?_joinWith hall
      rw [render_eq_cons hne, hcons, List.getLast?_cons_cons]
      rwa [hcons] at hlast

/-- Clean parameters are put behind a clean path as they are. -/
theorem toList_joinPath (hpath : IsCleanPath path.toList)
    (hparams : CleanParams params) :
    (joinPath path params).toList = path.toList ++ '/' :: params.toList := by
  have hend : Text.dropWhileEnd (· == '/') path.toList = path.toList := by
    refine Text.dropWhileEnd_eq_self fun c hc => beq_eq_false_iff_ne.mpr ?_
    rintro rfl
    exact hpath.getLast?_ne hc
  have hstart : params.toList.dropWhile (· == '/') = params.toList := by
    obtain ⟨all, -, hall, hjoin⟩ := hparams.segments
    refine Text.dropWhile_eq_self fun c hc => beq_eq_false_iff_ne.mpr ?_
    rintro rfl
    exact head?_joinWith hall (hjoin ▸ hc)
  rw [joinPath, if_neg (by simpa using hparams.ne_empty),
    String.toList_ofList, hend, hstart]

theorem IsCleanPath.append (h : IsCleanPath text)
    (hparams : CleanParams params) :
    IsCleanPath (text ++ '/' :: params.toList) := by
  obtain ⟨all, hne, hall, rfl⟩ := h
  obtain ⟨more, hmore, hclean, hjoin⟩ := hparams.segments
  refine ⟨all ++ more, List.append_ne_nil_of_left_ne_nil hne more, ?_, ?_⟩
  · exact List.forall_mem_append.mpr ⟨hall, hclean⟩
  · rw [hjoin, ← render_eq_cons hmore]
    exact List.flatMap_append.symm

/-! ## URIs with clean paths -/

theorem hasEmptySegment_append (h : '/' ∉ segment) (rest : List Char) :
    hasEmptySegment (segment ++ rest) = hasEmptySegment rest := by
  induction segment with
  | nil => rfl
  | cons c s ih =>
      obtain ⟨hc, hs⟩ := List.ne_and_not_mem_of_not_mem_cons h
      rw [List.cons_append, hasEmptySegment, ih hs]
      exact fun _ heq => absurd heq.symm hc

theorem hasEmptySegment_render (h : ∀ s ∈ all, s ≠ [] ∧ '/' ∉ s) :
    hasEmptySegment (UriPath.render all) = false := by
  induction all with
  | nil => rfl
  | cons s rest ih =>
      obtain ⟨⟨hne, hslash⟩, hrest⟩ := List.forall_mem_cons.mp h
      have hfirst : ∀ tail, s ++ UriPath.render rest ≠ '/' :: tail := by
        cases s with
        | nil => exact absurd rfl hne
        | cons c s =>
            rintro tail heq
            exact hslash ((List.cons_eq_cons.mp heq).1 ▸ List.mem_cons_self)
      rw [UriPath.render_cons, hasEmptySegment, hasEmptySegment_append hslash,
        ih hrest]
      exact fun tail _ heq => hfirst tail heq

theorem IsCleanPath.filter_eq (h : IsCleanPath text) :
    (text.filter fun c => !(c == '\t' || c == '\n' || c == '\r')) = text := by
  obtain ⟨all, -, hall, rfl⟩ := h
  refine List.filter_eq_self.mpr fun c hc => ?_
  obtain ⟨s, hs, hc⟩ := List.mem_flatMap.mp hc
  rcases List.mem_cons.mp hc with rfl | hc
  · rfl
  · have hclean := (hall s hs).chars c hc
    simp [UriPath.uncleanCharacters] at hclean
    simp [hclean]

/-- **Clean paths in URIs.** The path of a URI that was set to a clean one has
no empty segment and is decoded to what was set. -/
theorem Uri.withPath_of_clean {uri : Uri} {path : String}
    (hkind : SchemeKind.of uri.scheme = .special)
    (h : IsCleanPath path.toList) :
    hasEmptySegment (uri.withPath path).path.toList = false ∧
      Utf8.decode (Percent.decode (uri.withPath path).path.toList) =
        .ok path.toList := by
  have hpath : (uri.withPath path).path = UriPath.ofText true path.toList := by
    rw [withPath, h.filter_eq, hkind]
    rfl
  obtain ⟨all, hne, hall, hrender⟩ := h
  rw [hpath, hrender]
  refine ⟨?_, UriPath.decode_ofText_of_clean hne hall⟩
  rw [UriPath.ofText_of_clean hne hall, String.toList_ofList,
    UriPath.encode_render]
  refine hasEmptySegment_render (List.forall_mem_map.mpr
    fun s hs => ⟨(hall s hs).encode_ne_nil, ?_⟩)
  intro hslash
  have hfree : UriPath.isSlash true '/' = false ∧ _ :=
    (hall s hs).resolved.escaped '/' hslash
  cases hfree.1

end ClusterGate
