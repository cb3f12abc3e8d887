import ClusterGate.Proofs.Text.Split
import ClusterGate.Redaction.FieldPath

/-!
# Texts of dotted paths

A dotted path that was read from a text is written as that text, so it is read
again from what is written (`parse_render_of_parse`).

What is read are just the texts that spell a path (`parse_eq_ok_iff`), which are
non-empty segments with a dot between neighbours; any other text is the error
(`parse_eq_error_iff`). Of the text alone it can be said as well which ones
these are (`dotted_texts`).
-/

namespace ClusterGate.FieldPath

variable {text : String} {path : FieldPath}

theorem render_map_ofList (pieces : List (List Char)) :
    (FieldPath.mk (pieces.map String.ofList)).render =
      String.ofList (Text.joinWith '.' pieces) := by
  have hpieces : (pieces.map String.ofList).map String.toList = pieces := by
    rw [List.map_map]
    exact List.map_id'' (fun _ => String.toList_ofList) pieces
  rw [render, hpieces]

theorem render_eq_intercalate (path : FieldPath) :
    path.render = ".".intercalate path.segments := by
  rw [render, Text.joinWith_eq_intercalate, ← String.toList_inj,
    String.toList_ofList, String.toList_intercalate]
  rfl

theorem parse_of_nil_mem (h : [] ∈ Text.splitAt '.' text.toList) :
    parse text = .error ⟨text⟩ := by
  have hany : (Text.splitAt '.' text.toList).any List.isEmpty = true := by
    simpa using h
  rw [parse, hany, if_pos rfl]

theorem parse_of_nil_notMem (h : [] ∉ Text.splitAt '.' text.toList) :
    parse text = .ok ⟨(Text.splitAt '.' text.toList).map String.ofList⟩ := by
  have hnone : (Text.splitAt '.' text.toList).any List.isEmpty = false :=
    List.any_eq_false.mpr fun _ hpiece hempty =>
      h (List.isEmpty_iff.mp hempty ▸ hpiece)
  rw [parse, hnone, if_neg Bool.false_ne_true]

/-! ## Texts that spell a path -/

/-- The text is the segments of the path, none of which is empty or has a dot in
it, with dots between them. -/
structure Spells (text : String) (path : FieldPath) : Prop where
  segments : path.segments ≠ []
  nonempty : ∀ segment ∈ path.segments, segment ≠ ""
  dotless : ∀ segment ∈ path.segments, '.' ∉ segment.toList
  render : path.render = text

/-- The text is a valid dotted path. -/
def IsDotted (text : String) : Prop := ∃ path, Spells text path

theorem Spells.cuts (h : Spells text path) :
    Text.Cuts '.' text.toList (path.segments.map String.toList) where
  nonempty := mt List.map_eq_nil_iff.mp h.segments
  free := List.forall_mem_map.mpr h.dotless
  joined := by
    rw [← h.render, render_eq_intercalate, String.toList_intercalate]
    rfl

theorem Spells.splitAt_eq (h : Spells text path) :
    Text.splitAt '.' text.toList = path.segments.map String.toList :=
  Text.splitAt_eq_iff.mpr h.cuts

theorem Spells.nil_notMem (h : Spells text path) :
    [] ∉ Text.splitAt '.' text.toList := by
  rw [h.splitAt_eq, List.mem_map]
  rintro ⟨segment, hsegment, hempty⟩
  exact h.nonempty segment hsegment (String.toList_eq_nil_iff.mp hempty)

theorem spells_splitAt (h : [] ∉ Text.splitAt '.' text.toList) :
    Spells text ⟨(Text.splitAt '.' text.toList).map String.ofList⟩ := by
  have hcuts : Text.Cuts '.' text.toList (Text.splitAt '.' text.toList) :=
    Text.splitAt_eq_iff.mp rfl
  refine ⟨mt List.map_eq_nil_iff.mp hcuts.nonempty, ?_, ?_, ?_⟩
  · refine List.forall_mem_map.mpr fun piece hpiece hempty => h ?_
    exact String.ofList_eq_empty_iff.mp hempty ▸ hpiece
  · refine List.forall_mem_map.mpr fun piece hpiece => ?_
    rw [String.toList_ofList]
    exact hcuts.free piece hpiece
  · rw [render_map_ofList, Text.joinWith_splitAt, String.ofList_toList]

theorem Spells.parse (h : Spells text path) : parse text = .ok path := by
  rw [parse_of_nil_notMem h.nil_notMem, h.splitAt_eq, List.map_map]
  exact congrArg (fun segments => Except.ok (FieldPath.mk segments))
    (List.map_id'' (fun _ => String.ofList_toList) path.segments)

theorem parse_eq_ok_iff : parse text = .ok path ↔ Spells text path := by
  refine ⟨fun h => ?_, Spells.parse⟩
  by_cases hnil : [] ∈ Text.splitAt '.' text.toList
  · cases (parse_of_nil_mem hnil).symm.trans h
  · obtain rfl := Except.ok.inj ((parse_of_nil_notMem hnil).symm.trans h)
    exact spells_splitAt hnil

theorem exists_parse_eq_ok_iff :
    (∃ path, parse text = .ok path) ↔ IsDotted text :=
  exists_congr fun _ => parse_eq_ok_iff

theorem render_of_parse (h : parse text = .ok path) : path.render = text :=
  (parse_eq_ok_iff.mp h).render

theorem parse_render_of_parse (h : parse text = .ok path) :
    parse path.render = .ok path := by
  rw [render_of_parse h, h]

/-- A text spells a path just if no piece of it is empty. -/
theorem isDotted_iff_nil_notMem :
    IsDotted text ↔ [] ∉ Text.splitAt '.' text.toList :=
  ⟨fun ⟨_, h⟩ => h.nil_notMem, fun h => ⟨_, spells_splitAt h⟩⟩

theorem parse_eq_error_iff {e : FieldPathError} :
    parse text = .error e ↔ ¬ IsDotted text ∧ e = ⟨text⟩ := by
  rw [isDotted_iff_nil_notMem, not_not]
  by_cases hnil : [] ∈ Text.splitAt '.' text.toList
  · rw [parse_of_nil_mem hnil, Except.error.injEq, and_iff_right hnil, eq_comm]
  · rw [parse_of_nil_notMem hnil]
    exact iff_of_false nofun fun h => hnil h.1

/-! ## Dots in a text -/

/-- A text that is not empty and whose dots each stand between two other
characters. -/
structure DotsApart (text : String) : Prop where
  nonempty : text ≠ ""
  first : text.toList.head? ≠ some '.'
  last : text.toList.getLast? ≠ some '.'
  single : ¬ "..".toList <:+: text.toList

theorem isDotted_iff_dotsApart : IsDotted text ↔ DotsApart text := by
  have hdots : "..".toList = ['.', '.'] := rfl
  rw [isDotted_iff_nil_notMem, Text.nil_mem_splitAt_iff, ← hdots,
    ← String.toList_empty, String.toList_inj]
  simp only [not_or]
  exact ⟨fun ⟨hne, hfirst, hlast, hsingle⟩ => ⟨hne, hfirst, hlast, hsingle⟩,
    fun h => ⟨h.nonempty, h.first, h.last, h.single⟩⟩

/-- **Dotted texts.** A path is read just from a text whose dots stand apart.
Its segments are then non-empty and without dots, and it is written as that
text; and such segments, joined with dots, are read as the path of just these
segments. -/
theorem dotted_texts :
    (∀ text, (∃ path, parse text = .ok path) ↔ DotsApart text) ∧
    (∀ text path, parse text = .ok path →
      path.segments ≠ [] ∧
        (∀ segment ∈ path.segments, segment ≠ "" ∧ '.' ∉ segment.toList) ∧
        path.render = text) ∧
    ∀ segments : List String, segments ≠ [] →
      (∀ segment ∈ segments, segment ≠ "" ∧ '.' ∉ segment.toList) →
        parse (".".intercalate segments) = .ok ⟨segments⟩ := by
  refine ⟨fun text => ?_, fun text path h => ?_,
    fun segments hne hsegments => ?_⟩
  · exact exists_parse_eq_ok_iff.trans isDotted_iff_dotsApart
  · have hspells : Spells text path := parse_eq_ok_iff.mp h
    refine ⟨hspells.segments, fun segment hsegment => ?_, hspells.render⟩
    exact ⟨hspells.nonempty segment hsegment, hspells.dotless segment hsegment⟩
  · refine parse_eq_ok_iff.mpr
      ⟨hne, fun segment hsegment => (hsegments segment hsegment).1,
        fun segment hsegment => (hsegments segment hsegment).2, ?_⟩
    exact render_eq_intercalate ⟨segments⟩

theorem dotted_texts_wildcard :
    (∃ path, parse "nodes.*.jvm" = .ok path) ∧
      (¬ ∃ path, parse "nodes..jvm" = .ok path) ∧
      (∀ segment ∈ ["nodes", "*", "jvm"], segment ≠ "" ∧ '.' ∉ segment.toList) ∧
      parse (".".intercalate ["nodes", "*", "jvm"]) =
        .ok ⟨["nodes", "*", "jvm"]⟩ := by
  obtain ⟨haccepts, -, hreads⟩ := dotted_texts
  have hsegments : ∀ segment ∈ ["nodes", "*", "jvm"], segment ≠ "" ∧
      '.' ∉ segment.toList := by
    decide
  refine ⟨(haccepts _).mpr ⟨by decide, by decide, by decide, by decide⟩,
    fun h => ?_, hsegments, hreads _ (List.cons_ne_nil _ _) hsegments⟩
  exact absurd ((haccepts _).mp h).single (by decide)

end ClusterGate.FieldPath
