import ClusterGate.Proofs.Text.Percent
import ClusterGate.Uri.Path

/-!
# Resolved paths

The path that a text describes is resolved: its segments hold no separator
and nothing that a path escapes, and none of them is a dot segment. Such a
path describes itself (`ofText_ofText`).
-/

namespace ClusterGate.UriPath

/-! ## Resolved segments -/

/-- A segment without separators in which nothing is to be escaped. -/
def Escaped (special : Bool) (segment : List Char) : Prop :=
  ∀ c ∈ segment, isSlash special c = false ∧ Percent.path c = false

/-- A segment that resolving leaves alone. -/
structure Resolved (special : Bool) (segment : List Char) : Prop where
  escaped : Escaped special segment
  noDot : isDot segment = false
  noDoubleDot : isDoubleDot segment = false

variable {special : Bool} {text segment : List Char}
  {done pieces : List (List Char)}

theorem resolved_nil : Resolved special [] := ⟨nofun, rfl, rfl⟩

theorem isSlash_of_mem_escapeChars {c : Char} (h : c ∈ Percent.escapeChars) :
    isSlash special c = false := by
  have hall : ∀ special, ∀ c ∈ Percent.escapeChars, isSlash special c = false :=
    fun special =>
      Percent.forall_mem_of_all (by decide +revert)
  exact hall special c h

theorem escaped_encode (h : ∀ c ∈ segment, isSlash special c = false) :
    Escaped special (Percent.encode Percent.path segment) := by
  intro c hc
  refine ⟨?_, Percent.not_set_of_mem_encode Percent.path_escapeChars hc⟩
  rcases Percent.mem_encode hc with ⟨hmem, -⟩ | hescape
  · exact h c hmem
  · exact isSlash_of_mem_escapeChars hescape

theorem mem_of_mem_pop (h : segment ∈ pop done) : segment ∈ done := by
  cases done with
  | nil => cases h
  | cons top rest =>
      rw [pop] at h
      split at h
      · exact h
      · exact List.mem_cons_of_mem top h

/-- What resolving puts down is resolved. -/
theorem resolved_of_mem_resolve (hdone : ∀ s ∈ done, Resolved special s)
    (hpieces : ∀ s ∈ pieces, Escaped special s) :
    ∀ s ∈ resolve done pieces, Resolved special s := by
  have hpop : ∀ {done}, (∀ s ∈ done, Resolved special s) →
      ∀ s ∈ pop done, Resolved special s :=
    fun h s hs => h s (mem_of_mem_pop hs)
  fun_induction resolve done pieces with
  | case1 done => exact hdone
  | case2 done last hdouble =>
      exact List.forall_mem_cons.mpr ⟨resolved_nil, hpop hdone⟩
  | case3 done last hdouble hdot =>
      exact List.forall_mem_cons.mpr ⟨resolved_nil, hdone⟩
  | case4 done last hdouble hdot =>
      have hlast : Resolved special last := ⟨hpieces last List.mem_cons_self,
        Bool.eq_false_iff.mpr hdot, Bool.eq_false_iff.mpr hdouble⟩
      exact List.forall_mem_cons.mpr ⟨hlast, hdone⟩
  | case5 done segment rest hne hdouble ih =>
      exact ih (hpop hdone) fun s hs => hpieces s (List.mem_cons_of_mem _ hs)
  | case6 done segment rest hne hdouble hdot ih =>
      exact ih hdone fun s hs => hpieces s (List.mem_cons_of_mem _ hs)
  | case7 done segment rest hne hdouble hdot ih =>
      have hsegment : Resolved special segment :=
        ⟨hpieces segment List.mem_cons_self,
          Bool.eq_false_iff.mpr hdot, Bool.eq_false_iff.mpr hdouble⟩
      exact ih (List.forall_mem_cons.mpr ⟨hsegment, hdone⟩) fun s hs =>
        hpieces s (List.mem_cons_of_mem _ hs)

/-- The last segment always puts something down. -/
theorem resolve_ne_nil (h : pieces ≠ []) : resolve done pieces ≠ [] := by
  fun_induction resolve done pieces with
  | case1 done => exact absurd rfl h
  | case2 done last hdouble => exact List.cons_ne_nil _ _
  | case3 done last hdouble hdot => exact List.cons_ne_nil _ _
  | case4 done last hdouble hdot => exact List.cons_ne_nil _ _
  | case5 done segment rest hne hdouble ih => exact ih hne
  | case6 done segment rest hne hdouble hdot ih => exact ih hne
  | case7 done segment rest hne hdouble hdot ih => exact ih hne

theorem resolve_of_resolved (h : ∀ s ∈ pieces, Resolved special s) :
    resolve done pieces = pieces.reverse ++ done := by
  fun_induction resolve done pieces with
  | case1 done => rfl
  | case2 done last hdouble =>
      exact absurd hdouble
        (Bool.eq_false_iff.mp (h last List.mem_cons_self).noDoubleDot)
  | case3 done last hdouble hdot =>
      exact absurd hdot (Bool.eq_false_iff.mp (h last List.mem_cons_self).noDot)
  | case4 done last hdouble hdot => rfl
  | case5 done segment rest hne hdouble ih =>
      exact absurd hdouble
        (Bool.eq_false_iff.mp (h segment List.mem_cons_self).noDoubleDot)
  | case6 done segment rest hne hdouble hdot ih =>
      exact absurd hdot
        (Bool.eq_false_iff.mp (h segment List.mem_cons_self).noDot)
  | case7 done segment rest hne hdouble hdot ih =>
      rw [ih fun s hs => h s (List.mem_cons_of_mem _ hs), List.reverse_cons,
        List.append_assoc]
      rfl

/-! ## Segments of a text -/

theorem resolved_of_mem_segments :
    ∀ s ∈ segments special text, Resolved special s := by
  intro s hs
  refine resolved_of_mem_resolve (List.forall_mem_nil _)
    (fun piece hpiece => ?_) s (List.mem_reverse.mp hs)
  obtain ⟨raw, hraw, rfl⟩ := List.mem_map.mp hpiece
  exact escaped_encode fun c hc => Text.not_sep_of_mem_splitWhen hraw hc

theorem segments_ne_nil : segments special text ≠ [] := by
  rw [segments, ne_eq, List.reverse_eq_nil_iff]
  refine resolve_ne_nil fun h => ?_
  exact Text.splitWhen_ne_nil _ _ (List.map_eq_nil_iff.mp h)

theorem isSlash_slash : isSlash special '/' = true := rfl

theorem render_cons (segment : List Char) (rest : List (List Char)) :
    render (segment :: rest) = '/' :: (segment ++ render rest) := rfl

/-- Cutting a rendered path gives the segments back. -/
theorem splitWhen_render : ∀ {rest : List (List Char)} {first : List Char},
    (∀ c ∈ first, isSlash special c = false) →
      (∀ s ∈ rest, ∀ c ∈ s, isSlash special c = false) →
        Text.splitWhen (isSlash special) (first ++ render rest) = first :: rest
  | [], first, hfirst, _ => by
      rw [render, List.flatMap_nil, List.append_nil]
      exact Text.splitWhen_eq_singleton hfirst
  | second :: rest, first, hfirst, hrest => by
      obtain ⟨hsecond, hrest⟩ := List.forall_mem_cons.mp hrest
      rw [render_cons, Text.splitWhen_append_cons hfirst isSlash_slash,
        splitWhen_render hsecond hrest]

/-- The segments of a rendered path are the escaped ones if these are
resolved. -/
theorem segments_render_eq_map {all : List (List Char)} (hne : all ≠ [])
    (hslash : ∀ s ∈ all, ∀ c ∈ s, isSlash special c = false)
    (h : ∀ s ∈ all, Resolved special (Percent.encode Percent.path s)) :
    segments special (render all) = all.map (Percent.encode Percent.path) := by
  have hsplit :
      Text.splitWhen (isSlash special) (dropSlash special (render all)) =
        all := by
    cases all with
    | nil => exact absurd rfl hne
    | cons first rest =>
        obtain ⟨hfirst, hrest⟩ := List.forall_mem_cons.mp hslash
        exact splitWhen_render hfirst hrest
  rw [segments, hsplit, resolve_of_resolved (List.forall_mem_map.mpr h),
    List.append_nil, List.reverse_reverse]

theorem segments_render {all : List (List Char)} (hne : all ≠ [])
    (h : ∀ s ∈ all, Resolved special s) :
    segments special (render all) = all := by
  have hencode : ∀ s ∈ all, Percent.encode Percent.path s = s := fun s hs =>
    Percent.encode_eq_self fun c hc => ((h s hs).escaped c hc).2
  rw [segments_render_eq_map hne (fun s hs c hc => ((h s hs).escaped c hc).1)
    fun s hs => (hencode s hs).symm ▸ h s hs]
  exact (List.map_congr_left hencode).trans (List.map_id _)

/-! ## Paths of texts -/

/-- **Resolved paths.** The path that a text describes describes itself. -/
theorem ofText_ofText :
    ofText special (ofText special text).toList = ofText special text := by
  rw [ofText, ofText, String.toList_ofList,
    segments_render segments_ne_nil resolved_of_mem_segments]

example : ofText true (ofText true "/a/../%2E%2e/c d/".toList).toList =
  "/c%20d/" := by
  decide

theorem ofText_eq_cons (special : Bool) (text : List Char) :
    ∃ rest, (ofText special text).toList = '/' :: rest := by
  rw [ofText, String.toList_ofList]
  cases hsegments : segments special text with
  | nil => exact absurd hsegments segments_ne_nil
  | cons first rest => exact ⟨_, rfl⟩

/-- Nothing in the path of a text is to be escaped. -/
theorem path_of_mem_ofText {c : Char} (h : c ∈ (ofText special text).toList) :
    Percent.path c = false := by
  rw [ofText, String.toList_ofList] at h
  obtain ⟨s, hs, hc⟩ := List.mem_flatMap.mp h
  rcases List.mem_cons.mp hc with rfl | hc
  · decide
  · exact ((resolved_of_mem_segments s hs).escaped c hc).2

end ClusterGate.UriPath
