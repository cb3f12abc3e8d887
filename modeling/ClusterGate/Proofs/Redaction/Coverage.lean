import ClusterGate.Proofs.Redaction.Widening

/-!
# What an allow-list permits

What an allow-list leaves of a response is settled by what its steps ask
for. Their order, how the paths are split between them, and repetitions do
not matter, and neither do paths that go on below one that is allowed
anyway: a path *covers* all those that it matches at their beginning.

Two filters are compared by the paths that their nodes hold. Each path that
one of them holds has to be covered in the other (`AllCovered`), and they
then agree on every value, at the nodes that are not yet terminal.
-/

namespace ClusterGate

open Json FieldPath PathTree Allowance

/-! ## Covering paths -/

namespace FieldPath

/-- Whether the segments of a path match the first ones of another path. -/
def Covers (cover path : List String) : Prop :=
  ∃ firsts, firsts <+: path ∧ List.Forall₂ Matches cover firsts

variable {segment key : String} {cover path rest : List String}

theorem Matches.trans {first : String} (h : Matches first segment)
    (hkey : Matches segment key) :
    Matches first key := by
  rcases h with rfl | rfl
  · exact hkey
  · exact .inr rfl

theorem covers_refl (path : List String) : Covers path path :=
  ⟨path, List.prefix_rfl, List.forall₂_same.mpr fun _ _ => .inl rfl⟩

theorem eq_nil_of_covers_nil (h : Covers cover []) : cover = [] := by
  obtain ⟨firsts, hpre, hmatch⟩ := h
  obtain rfl := List.prefix_nil.mp hpre
  exact List.forall₂_nil_right_iff.mp hmatch

/-- What covers a longer path is empty, or begins with a segment that matches
there and covers the rest. -/
theorem covers_cons (h : Covers cover (segment :: rest)) :
    cover = [] ∨ ∃ first tail, cover = first :: tail ∧ Matches first segment ∧
      Covers tail rest := by
  obtain ⟨firsts, hpre, hmatch⟩ := h
  cases hmatch with
  | nil => exact .inl rfl
  | @cons first s tail firsts hfirst htail =>
      obtain ⟨rfl, hrest⟩ := List.cons_prefix_cons.mp hpre
      exact .inr ⟨first, tail, rfl, hfirst, firsts, hrest, htail⟩

end FieldPath

/-! ## Two filters -/

/-- Every path that one of the first nodes holds is covered by one that the
second nodes hold. -/
def AllCovered (nodes others : List PathTree) : Prop :=
  ∀ path, AnyHolds nodes path →
    ∃ cover, AnyHolds others cover ∧ Covers cover path

section

variable {nodes others : List PathTree}

theorem AllCovered.terminal (h : AllCovered nodes others)
    (hterm : nodes.any PathTree.terminal = true) :
    others.any PathTree.terminal = true := by
  obtain ⟨cover, hcover, hcovers⟩ := h [] (anyHolds_nil.mpr hterm)
  obtain rfl := eq_nil_of_covers_nil hcovers
  exact anyHolds_nil.mp hcover

/-- Where nothing is kept whole yet, the nodes that a key leads to are
covered again. -/
theorem AllCovered.childrenFor (h : AllCovered nodes others)
    (hterm : others.any PathTree.terminal = false) (key : String) :
    AllCovered (nodes.flatMap (·.childrenFor key))
      (others.flatMap (·.childrenFor key)) := by
  intro path hpath
  obtain ⟨segment, hmatch, hsegment⟩ := anyHolds_childrenFor.mp hpath
  obtain ⟨cover, hcover, hcovers⟩ := h _ hsegment
  rcases covers_cons hcovers with rfl | ⟨first, tail, rfl, hfirst, htail⟩
  · rw [anyHolds_nil, hterm] at hcover
    cases hcover
  · exact ⟨tail, anyHolds_childrenFor.mpr ⟨first, hfirst.trans hmatch,
      hcover⟩, htail⟩

/-- Nodes that cover each other's paths, none of them terminal. -/
structure Interchangeable (nodes others : List PathTree) : Prop where
  covered : AllCovered nodes others
  covering : AllCovered others nodes
  open_left : nodes.any PathTree.terminal = false

theorem Interchangeable.open_right (h : Interchangeable nodes others) :
    others.any PathTree.terminal = false := by
  rw [Bool.eq_false_iff]
  intro hterm
  have hnodes := h.covering.terminal hterm
  rw [h.open_left] at hnodes
  cases hnodes

theorem Interchangeable.keepReached_eq (h : Interchangeable nodes others)
    (key : String) {v : Json}
    (hv : ∀ {nodes others}, Interchangeable nodes others →
      filterValue nodes v = filterValue others v) :
    keepReached (nodes.flatMap (·.childrenFor key)) v =
      keepReached (others.flatMap (·.childrenFor key)) v := by
  have hcovered := h.covered.childrenFor h.open_right key
  have hcovering := h.covering.childrenFor h.open_left key
  rw [keepReached, keepReached]
  cases hterm : (nodes.flatMap (·.childrenFor key)).any PathTree.terminal with
  | true => rw [hcovered.terminal hterm, if_pos rfl, if_pos rfl]
  | false =>
      have hreached : Interchangeable (nodes.flatMap (·.childrenFor key))
          (others.flatMap (·.childrenFor key)) := ⟨hcovered, hcovering, hterm⟩
      rw [hreached.open_right, hv hreached]

theorem Interchangeable.filterFields_eq {fields : List (String × Json)}
    (h : Interchangeable nodes others)
    (hfields : ∀ e ∈ fields, ∀ {nodes others}, Interchangeable nodes others →
      filterValue nodes e.2 = filterValue others e.2) :
    filterFields nodes fields = filterFields others fields := by
  rw [filterFields_eq_pickEntries, filterFields_eq_pickEntries]
  exact pickEntries_congr fun e he => h.keepReached_eq e.1 (hfields e he)

end

/-- **Interchangeable filters.** They leave the same of every value. -/
theorem Interchangeable.filterValue_eq {v : Json} :
    ∀ {nodes others : List PathTree},
      Interchangeable nodes others →
        filterValue nodes v = filterValue others v := by
  induction v using induction_members with
  | null => simp [filterValue]
  | bool b => simp [filterValue]
  | num n => simp [filterValue]
  | str s => simp [filterValue]
  | arr items ih =>
      intro nodes others h
      have hitems : filterItems nodes items = filterItems others items := by
        rw [filterItems_eq_filterMap, filterItems_eq_filterMap]
        refine List.filterMap_congr fun v hv => ?_
        cases v with
        | obj fields => exact ih (.obj fields) hv h
        | _ => rfl
      rw [filterValue, filterValue, hitems]
  | obj fields ih =>
      intro nodes others h
      rw [filterValue, filterValue, h.filterFields_eq ih]

/-! ## Rules of roots -/

theorem allCovered_ofPaths {paths others : List FieldPath}
    (h : ∀ path ∈ paths, ∃ cover ∈ others,
      Covers cover.segments path.segments) :
    AllCovered [PathTree.ofPaths paths] [PathTree.ofPaths others] := by
  intro segments hholds
  obtain ⟨path, hpath, rfl⟩ := anyHolds_ofPaths.mp hholds
  obtain ⟨cover, hcover, hcovers⟩ := h path hpath
  exact ⟨cover.segments, anyHolds_ofPaths.mpr ⟨cover, hcover, rfl⟩, hcovers⟩

theorem keep_along_eq {paths others : List FieldPath}
    (hne : ∀ path ∈ paths, path.segments ≠ [])
    (h : ∀ path ∈ paths, ∃ cover ∈ others, Covers cover.segments path.segments)
    (h' : ∀ path ∈ others, ∃ cover ∈ paths, Covers cover.segments path.segments)
    (value : Json) :
    (RootRule.along paths (PathTree.ofPaths paths)).keep value =
      (RootRule.along others (PathTree.ofPaths others)).keep value := by
  have hinter :
      Interchangeable [PathTree.ofPaths paths] [PathTree.ofPaths others] :=
    ⟨allCovered_ofPaths h, allCovered_ofPaths h', any_terminal_ofPaths hne⟩
  cases value with
  | obj fields =>
      exact congrArg Json.obj (hinter.filterFields_eq
        fun _ _ => Interchangeable.filterValue_eq)
  | _ => rfl

/-! ## Steps -/

namespace Allowance

/-- Each path that the first steps allow below a root is covered by one that
the second steps allow there. -/
def PathsCovered (steps others : List Allowance) (root : String) : Prop :=
  ∀ path, AllowPath steps root path →
    ∃ cover, AllowPath others root cover ∧ Covers cover.segments path.segments

/-- Steps that mention the same roots, allow the same of them whole, and
cover each other's paths below every other root. -/
structure PermitSame (steps others : List Allowance) : Prop where
  mentions : ∀ root, Mentions steps root ↔ Mentions others root
  whole : ∀ root, AllowWhole steps root ↔ AllowWhole others root
  covered : ∀ root, ¬ AllowWhole steps root → PathsCovered steps others root
  covering : ∀ root, ¬ AllowWhole steps root → PathsCovered others steps root

/-- Steps that mention the same roots, allow the same of them whole, and
allow the same paths below every other root. -/
structure AskAlike (steps others : List Allowance) : Prop where
  mentions : ∀ root, Mentions steps root ↔ Mentions others root
  whole : ∀ root, AllowWhole steps root ↔ AllowWhole others root
  paths : ∀ root, ¬ AllowWhole steps root →
    ∀ path, AllowPath steps root path ↔ AllowPath others root path

variable {steps others : List Allowance} {root : String}

theorem AskAlike.permitSame (h : AskAlike steps others) :
    PermitSame steps others where
  mentions := h.mentions
  whole := h.whole
  covered root hnot path hpath :=
    ⟨path, (h.paths root hnot path).mp hpath, covers_refl _⟩
  covering root hnot path hpath :=
    ⟨path, (h.paths root hnot path).mpr hpath, covers_refl _⟩

theorem AllowPath.segments_ne_nil {path : FieldPath}
    (h : AllowPath steps root path) :
    path.segments ≠ [] := by
  obtain ⟨s, -, -, text, -, htext⟩ := h
  exact segments_ne_nil_of_parse htext

/-- Further paths below a root permit nothing new if they are covered. -/
theorem permitSame_snoc {s : Allowance} (hne : s.texts ≠ [])
    (hcovered : ∀ text ∈ s.texts, ∀ path, FieldPath.parse text = .ok path →
      ∃ cover, AllowPath steps s.target cover ∧
        Covers cover.segments path.segments)
    (hmen : Mentions steps s.target) : PermitSame (steps ++ [s]) steps where
  mentions root := by
    rw [mentions_snoc]
    exact or_iff_left_of_imp fun htarget => htarget ▸ hmen
  whole root := by
    rw [allowWhole_snoc]
    exact or_iff_left fun hwhole => hne hwhole.2
  covered root _ path hpath := by
    rcases allowPath_snoc.mp hpath with hold | ⟨rfl, text, htext, hparse⟩
    · exact ⟨path, hold, covers_refl _⟩
    · exact hcovered text htext path hparse
  covering root _ path hpath :=
    ⟨path, allowPath_snoc.mpr (.inl hpath), covers_refl _⟩

end Allowance

/-- Two rules for a root that are asked for by steps which permit the same
keep the same. -/
theorem RootRule.AsksFor.bind_keep_eq {steps others : List Allowance}
    {root : String} {rule other : Option RootRule} (h : AsksFor steps root rule)
    (h' : AsksFor others root other) (hsame : PermitSame steps others)
    (found : Option Json) :
    (rule.bind fun r => found.map r.keep) = other.bind fun r =>
      found.map r.keep := by
  by_cases hmen : Mentions steps root
  · have hmen' : Mentions others root := (hsame.mentions root).mp hmen
    by_cases hwhole : AllowWhole steps root
    · rw [h.eq_whole hwhole, h'.eq_whole ((hsame.whole root).mp hwhole)]
    · obtain ⟨paths, rfl, hpaths⟩ := h.eq_along hmen hwhole
      obtain ⟨paths', rfl, hpaths'⟩ :=
        h'.eq_along hmen' (mt (hsame.whole root).mpr hwhole)
      refine congrArg found.map (funext (keep_along_eq (fun path hpath => ?_)
        (fun path hpath => ?_) fun path hpath => ?_))
      · exact ((hpaths path).mp hpath).segments_ne_nil
      · obtain ⟨cover, hcover, hcovers⟩ :=
          hsame.covered root hwhole path ((hpaths path).mp hpath)
        exact ⟨cover, (hpaths' cover).mpr hcover, hcovers⟩
      · obtain ⟨cover, hcover, hcovers⟩ :=
          hsame.covering root hwhole path ((hpaths' path).mp hpath)
        exact ⟨cover, (hpaths cover).mpr hcover, hcovers⟩
  · have hnone : rule = none := by
      rw [h.mentions_iff] at hmen
      simpa using hmen
    have hnone' : other = none := by
      rw [hsame.mentions root, h'.mentions_iff] at hmen
      simpa using hmen
    rw [hnone, hnone']

/-! ## Responses -/

theorem redact_eq_of_permitSame {steps others : List Allowance}
    {list other : AllowList} (hlist : AllowList.build steps = .ok list)
    (hother : AllowList.build others = .ok other)
    (hsame : PermitSame steps others) (raw : Json) :
    redact raw list = redact raw other := by
  have hempty : list.isEmpty = other.isEmpty := by
    rw [Bool.eq_iff_iff, AllowList.isEmpty_build_iff hlist,
      AllowList.isEmpty_build_iff hother]
    constructor
    · rintro rfl
      refine List.eq_nil_iff_forall_not_mem.mpr fun s hs => ?_
      obtain ⟨_, hmem, -⟩ := (hsame.mentions s.target).mpr ⟨s, hs, rfl⟩
      cases hmem
    · rintro rfl
      refine List.eq_nil_iff_forall_not_mem.mpr fun s hs => ?_
      obtain ⟨_, hmem, -⟩ := (hsame.mentions s.target).mp ⟨s, hs, rfl⟩
      cases hmem
  cases hne : list.isEmpty with
  | true =>
      have hne' : other.isEmpty = true := hempty ▸ hne
      rw [redact, redact, hne, hne', if_pos rfl, if_pos rfl]
  | false =>
      rw [redact_eq_obj hne, redact_eq_obj (hempty ▸ hne)]
      refine congrArg Json.obj
        ((keysAscend_keptRoots raw list).eq_of_lookupEntry
          (keysAscend_keptRoots raw other) fun root => ?_)
      rw [lookupEntry_keptRoots, lookupEntry_keptRoots]
      exact (AllowList.asksFor_build hlist root).bind_keep_eq
        (AllowList.asksFor_build hother root) hsame (raw.field? root)

/-- **What steps ask for is all that matters.** Two lists whose steps ask for
the same leave the same of every response, and paths that are covered by one
that is already allowed below their root change nothing. -/
theorem redact_build_eq {steps : List Allowance} {list : AllowList}
    (hlist : AllowList.build steps = .ok list) :
    (∀ others other, AllowList.build others = .ok other →
      AskAlike steps others →
      ∀ raw, redact raw list = redact raw other) ∧
    ∀ root texts, texts ≠ [] →
      (∀ text ∈ texts, ∃ path cover, FieldPath.parse text = .ok path ∧
        AllowPath steps root cover ∧ Covers cover.segments path.segments) →
      ∃ wider, (Allowance.paths root texts).extend list = .ok wider ∧
        ∀ raw, redact raw wider = redact raw list := by
  constructor
  · intro others other hother halike raw
    exact redact_eq_of_permitSame hlist hother halike.permitSame raw
  · intro root texts hne hcovered
    obtain ⟨paths, hpaths⟩ : ∃ paths, texts.mapM FieldPath.parse = .ok paths :=
      exists_mapM_eq_ok fun text htext => by
        obtain ⟨path, -, hparse, -⟩ := hcovered text htext
        exact ⟨path, hparse⟩
    have hextend : (Allowance.paths root texts).extend list =
        .ok (list.widen root (.ofPaths paths)) :=
      bind_eq_ok.mpr ⟨paths, hpaths, rfl⟩
    refine ⟨_, hextend,
      redact_eq_of_permitSame (AllowList.build_snoc hlist hextend) hlist ?_⟩
    refine permitSame_snoc hne (fun text htext path hparse => ?_) ?_
    · obtain ⟨path', cover, hparse', hcover⟩ := hcovered text htext
      obtain rfl : path = path' := Except.ok.inj (hparse.symm.trans hparse')
      exact ⟨cover, hcover⟩
    · obtain ⟨text, htext⟩ := List.exists_mem_of_ne_nil texts hne
      obtain ⟨-, cover, -, hcover, -⟩ := hcovered text htext
      exact hcover.mentions

/-- The paths of `nodeSteps` in another order, with some of them twice, and
with the whole of `took` only in the end. -/
def shuffledSteps : List Allowance :=
  [.paths "took" ["ms"], .paths "nodes" ["total", "total"],
    .paths "nodes" ["*.rows.id", "total"], .paths "took" []]

theorem redact_build_eq_shuffled :
    ∃ list other wider, AllowList.build nodeSteps = .ok list ∧
      AllowList.build shuffledSteps = .ok other ∧
      AskAlike nodeSteps shuffledSteps ∧
      list.listing ≠ other.listing ∧
      redact nodeResponse list = redact nodeResponse other ∧
      (Allowance.paths "nodes" ["a.rows.id.last"]).extend list = .ok wider ∧
      list.listing ≠ wider.listing ∧
      redact nodeResponse wider = redact nodeResponse list := by
  obtain ⟨list, hlist⟩ : ∃ list, AllowList.build nodeSteps = .ok list :=
    ⟨_, rfl⟩
  obtain ⟨other, hother⟩ : ∃ other, AllowList.build shuffledSteps = .ok other :=
    ⟨_, rfl⟩
  have halike : AskAlike nodeSteps shuffledSteps := by
    constructor
    · intro root
      simp [Mentions, nodeSteps, shuffledSteps, target]
      tauto
    · intro root
      simp [AllowWhole, nodeSteps, shuffledSteps, target, texts]
    · intro root hnot path
      simp [AllowPath, AllowWhole, nodeSteps, shuffledSteps, target, texts]
        at hnot ⊢
      tauto
  obtain ⟨hsame, hcovered⟩ := redact_build_eq hlist
  obtain ⟨wider, hwider, hkept⟩ :=
    hcovered "nodes" ["a.rows.id.last"] (List.cons_ne_nil _ _) <| by
      intro text htext
      obtain rfl := List.mem_singleton.mp htext
      refine ⟨⟨["a", "rows", "id", "last"]⟩, ⟨["*", "rows", "id"]⟩, rfl, ?_,
        ["a", "rows", "id"], ⟨["last"], rfl⟩,
        .cons (.inr rfl) (.cons (.inl rfl) (.cons (.inl rfl) .nil))⟩
      exact ⟨.paths "nodes" ["*.rows.id", "total"],
        by simp [nodeSteps], rfl, "*.rows.id", by simp [texts], rfl⟩
  refine ⟨list, other, wider, hlist, hother, halike, ?_,
    hsame _ _ hother halike _, hwider, ?_, hkept _⟩
  · obtain rfl := Except.ok.inj hlist
    obtain rfl := Except.ok.inj hother
    decide
  · obtain rfl := Except.ok.inj hlist
    obtain rfl := Except.ok.inj hwider
    decide

end ClusterGate
