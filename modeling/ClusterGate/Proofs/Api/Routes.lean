import ClusterGate.Proofs.Api.Options

/-!
# Options that go together

What options say together is a route, or none for a blank variant. Options
that can each be read may still not go together: a blank variant has no
route, and every other one has an absolute path that begins with its prefix
(`Fitting`). `RouteFault` says what is wrong with options that do not.
-/

namespace ClusterGate

/-- The route that options describe, if they give a path. -/
def routeOf (options : List OptionDecl) : Option Route :=
  (textOf? options "path").map fun path =>
    { path
      lead := (textOf? options "prefix").getD path
      trail := (textOf? options "suffix").getD ""
      params := ((textOf? options "path_params").bind fun mode =>
        (ParamRule.ofMode mode).toOption).getD .unsupported }

/-- Options that go together: `blank` with a name only, and otherwise an
absolute path, and a prefix, if any, that is one of it. -/
structure Fitting (options : List OptionDecl) : Prop where
  blank : "blank" ∈ options.map OptionDecl.name →
    ∀ o ∈ options, o.name = "blank" ∨ o.name = "name"
  path : "blank" ∉ options.map OptionDecl.name →
    ∃ path, textOf? options "path" = some path ∧ "/".toList <+: path.toList ∧
      ∀ lead, textOf? options "prefix" = some lead →
        "/".toList <+: lead.toList ∧ lead.toList <+: path.toList

/-- What is wrong with options that do not go together. -/
inductive RouteFault (options : List OptionDecl) : DeclError → Prop
  | blankWithRoute (hblank : "blank" ∈ options.map OptionDecl.name)
      (hother : ∃ o ∈ options, o.name ≠ "blank" ∧ o.name ≠ "name") :
      RouteFault options .blankWithRoute
  | missingPath (hblank : "blank" ∉ options.map OptionDecl.name)
      (hpath : textOf? options "path" = none) : RouteFault options .missingPath
  | relativePath {path : String}
      (hblank : "blank" ∉ options.map OptionDecl.name)
      (hpath : textOf? options "path" = some path)
      (hrel : ¬ "/".toList <+: path.toList) :
      RouteFault options (.relativePath "path")
  | relativeLead {path lead : String}
      (hblank : "blank" ∉ options.map OptionDecl.name)
      (hpath : textOf? options "path" = some path)
      (habs : "/".toList <+: path.toList)
      (hlead : textOf? options "prefix" = some lead)
      (hrel : ¬ "/".toList <+: lead.toList) :
      RouteFault options (.relativePath "prefix")
  | leadOutsidePath {path lead : String}
      (hblank : "blank" ∉ options.map OptionDecl.name)
      (hpath : textOf? options "path" = some path)
      (habs : "/".toList <+: path.toList)
      (hlead : textOf? options "prefix" = some lead)
      (hleadAbs : "/".toList <+: lead.toList)
      (hout : ¬ lead.toList <+: path.toList) :
      RouteFault options (.leadOutsidePath lead path)

theorem requireAbsolute_of_absolute {option path : String}
    (h : "/".toList <+: path.toList) :
    requireAbsolute option path = .ok () := by
  rw [requireAbsolute, if_pos (List.isPrefixOf_iff_prefix.mpr h)]

theorem requireAbsolute_of_relative {option path : String}
    (h : ¬ "/".toList <+: path.toList) :
    requireAbsolute option path = .error (.relativePath option) := by
  rw [requireAbsolute, if_neg (mt List.isPrefixOf_iff_prefix.mp h)]

section

variable {options : List OptionDecl} {e : DeclError}

/-- A blank variant has no path. -/
theorem Fitting.path_eq_none (h : Fitting options)
    (hblank : "blank" ∈ options.map OptionDecl.name) :
    textOf? options "path" = none := by
  cases hpath : textOf? options "path" with
  | none => rfl
  | some path =>
      obtain ⟨o, ho, hname, -⟩ := exists_of_textOf?_eq_some hpath
      rcases h.blank hblank o ho with hn | hn
      · exact absurd (hname.symm.trans hn) (by decide)
      · exact absurd (hname.symm.trans hn) (by decide)

theorem fitting_or_routeFault (options : List OptionDecl) :
    Fitting options ∨ ∃ e, RouteFault options e := by
  by_cases hblank : "blank" ∈ options.map OptionDecl.name
  · by_cases hother : ∃ o ∈ options, o.name ≠ "blank" ∧ o.name ≠ "name"
    · exact .inr ⟨_, .blankWithRoute hblank hother⟩
    · refine .inl ⟨fun _ o ho => ?_, fun h => absurd hblank h⟩
      by_contra hno
      exact hother ⟨o, ho, not_or.mp hno⟩
  · match hpath : textOf? options "path" with
    | none => exact .inr ⟨_, .missingPath hblank hpath⟩
    | some path =>
        by_cases habs : "/".toList <+: path.toList
        · match hlead : textOf? options "prefix" with
          | none =>
              refine .inl ⟨fun h => absurd h hblank,
                fun _ => ⟨path, hpath, habs, ?_⟩⟩
              rw [hlead]
              exact nofun
          | some lead =>
              by_cases hleadAbs : "/".toList <+: lead.toList
              · by_cases hcovers : lead.toList <+: path.toList
                · refine .inl ⟨fun h => absurd h hblank,
                    fun _ => ⟨path, hpath, habs, ?_⟩⟩
                  intro lead' hlead'
                  obtain rfl := Option.some.inj (hlead.symm.trans hlead')
                  exact ⟨hleadAbs, hcovers⟩
                · exact .inr ⟨_, .leadOutsidePath hblank hpath habs hlead
                    hleadAbs hcovers⟩
              · exact .inr ⟨_, .relativeLead hblank hpath habs hlead hleadAbs⟩
        · exact .inr ⟨_, .relativePath hblank hpath habs⟩

/-- Options beside `blank` and `name` that have been read. -/
theorem route_isSome_iff (h : ProperOptions options) :
    ((Options.ofDecls options).path.isSome ||
      (Options.ofDecls options).lead.isSome ||
      (Options.ofDecls options).trail.isSome ||
        (Options.ofDecls options).params.isSome) = true ↔
          ∃ o ∈ options, o.name ≠ "blank" ∧ o.name ≠ "name" := by
  have hpath : (Options.ofDecls options).path.isSome = true ↔ _ :=
    isSome_textOf?_iff h.proper (by decide)
  have hlead : (Options.ofDecls options).lead.isSome = true ↔ _ :=
    isSome_textOf?_iff h.proper (by decide)
  have htrail : (Options.ofDecls options).trail.isSome = true ↔ _ :=
    isSome_textOf?_iff h.proper (by decide)
  rw [Bool.or_eq_true, Bool.or_eq_true, Bool.or_eq_true, hpath, hlead, htrail,
    isSome_params_ofDecls_iff h.proper]
  constructor
  · rintro (((hmem | hmem) | hmem) | hmem)
    all_goals
      obtain ⟨o, ho, hname⟩ := List.mem_map.mp hmem
      exact ⟨o, ho, by rw [hname]; decide, by rw [hname]; decide⟩
  · rintro ⟨o, ho, hblank, hown⟩
    have hmem : o.name ∈ options.map OptionDecl.name := List.mem_map_of_mem ho
    rcases h.proper o ho with ⟨hname, -⟩ | ⟨hname, -⟩
    · exact absurd hname hblank
    · rcases OptionDecl.mem_textNames.mp hname with hn | ⟨slot, hn⟩
      · exact .inr (hn ▸ hmem)
      rw [hn] at hmem
      cases slot with
      | path => exact .inl (.inl (.inl hmem))
      | lead => exact .inl (.inl (.inr hmem))
      | trail => exact .inl (.inr hmem)
      | wireName => exact absurd hn hown

theorem route_of_fitting (h : ProperOptions options) (hfit : Fitting options) :
    (Options.ofDecls options).route = .ok (routeOf options) := by
  by_cases hblank : "blank" ∈ options.map OptionDecl.name
  · have hnone := mt (route_isSome_iff h).mp fun ⟨o, ho, hne, hown⟩ =>
      (hfit.blank hblank o ho).elim hne hown
    unfold Options.route
    rw [if_pos (blank_ofDecls_iff.mpr hblank), if_neg hnone, routeOf,
      hfit.path_eq_none hblank]
    rfl
  · obtain ⟨path, hpath, habs, hcovers⟩ := hfit.path hblank
    have hgiven : (Options.ofDecls options).path = some path := hpath
    unfold Options.route
    rw [if_neg (mt blank_ofDecls_iff.mp hblank), hgiven]
    simp only [requireAbsolute_of_absolute habs, ok_bind]
    match hlead : textOf? options "prefix" with
    | none =>
        have hslot : (Options.ofDecls options).lead = none := hlead
        simp only [hslot, routeOf, hpath, hlead]
        rfl
    | some lead =>
        obtain ⟨hleadAbs, hlead'⟩ := hcovers lead hlead
        have hslot : (Options.ofDecls options).lead = some lead := hlead
        simp only [hslot, routeOf, hpath, hlead,
          requireAbsolute_of_absolute hleadAbs, ok_bind,
          List.isPrefixOf_iff_prefix.mpr hlead']
        rfl

theorem verdict_route (h : ProperOptions options) :
    Verdict (Options.ofDecls options).route
    (Fitting options) (routeOf options) (RouteFault options) where
  succeeds := route_of_fitting h
  fails hfault := by
    cases hfault with
    | blankWithRoute hblank hother =>
        unfold Options.route
        rw [if_pos (blank_ofDecls_iff.mpr hblank),
          if_pos ((route_isSome_iff h).mpr hother)]
        rfl
    | missingPath hblank hpath =>
        have hgiven : (Options.ofDecls options).path = none := hpath
        unfold Options.route
        rw [if_neg (mt blank_ofDecls_iff.mp hblank), hgiven]
        rfl
    | relativePath hblank hpath hrel =>
        have hgiven : (Options.ofDecls options).path = some _ := hpath
        unfold Options.route
        rw [if_neg (mt blank_ofDecls_iff.mp hblank), hgiven]
        simp only [requireAbsolute_of_relative hrel, error_bind]
    | relativeLead hblank hpath habs hlead hrel =>
        have hgiven : (Options.ofDecls options).path = some _ := hpath
        have hslot : (Options.ofDecls options).lead = some _ := hlead
        unfold Options.route
        rw [if_neg (mt blank_ofDecls_iff.mp hblank), hgiven, hslot]
        simp only [requireAbsolute_of_absolute habs,
          requireAbsolute_of_relative hrel, ok_bind, error_bind]
    | @leadOutsidePath path lead hblank hpath habs hlead hleadAbs hout =>
        have hgiven : (Options.ofDecls options).path = some _ := hpath
        have hslot : (Options.ofDecls options).lead = some _ := hlead
        unfold Options.route
        rw [if_neg (mt blank_ofDecls_iff.mp hblank), hgiven, hslot]
        simp only [requireAbsolute_of_absolute habs,
          requireAbsolute_of_absolute hleadAbs, ok_bind]
        have hnot : (!lead.toList.isPrefixOf path.toList) = true := by
          rw [Bool.not_eq_true', Bool.eq_false_iff]
          exact mt List.isPrefixOf_iff_prefix.mp hout
        rw [if_pos hnot]
        rfl
  settled := fitting_or_routeFault options

end

end ClusterGate
