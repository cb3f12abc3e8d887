import Mathlib.Data.List.Pairwise
import ClusterGate.Proofs.Api.Variants

/-!
# Which declarations are accepted

A declared set is accepted exactly if it is an enumeration without generic
parameters whose variants are well-formed each by itself, go together
(`Compatible`), and are not all blank. Its table has the entry of each variant
in order. Any other declaration is refused with the fault that comes
first: that of the item, or of the first variant that is at fault by itself
or clashes with one before it (`ItemDecl.Fault`).
-/

namespace ClusterGate

/-! ## Unique elements -/

section

variable {α β : Type} {p : α → Bool} {f : α → Option β} {l : List α} {a b : α}

/-- A search finds the only element there is to be found. -/
theorem find?_eq_some_of_unique (ha : a ∈ l) (hp : p a = true)
    (hunique : ∀ b ∈ l, p b = true → b = a) : l.find? p = some a := by
  cases hfound : l.find? p with
  | none => exact absurd hp (List.find?_eq_none.mp hfound a ha)
  | some b =>
      rw [hunique b (List.mem_of_find?_eq_some hfound) (List.find?_some hfound)]

theorem eq_of_nodup_filterMap {x : β} (h : (l.filterMap f).Nodup)
    (ha : a ∈ l) (hb : b ∈ l) (hfa : f a = some x) (hfb : f b = some x) :
    a = b := by
  by_contra hne
  rw [List.Nodup, List.pairwise_filterMap] at h
  have : Std.Symm fun a b : α =>
      ∀ x, f a = some x → ∀ y, f b = some y → x ≠ y :=
    ⟨fun a b hab y hy x hx => (hab x hx y hy).symm⟩
  exact h.forall ha hb hne x hfa x hfb rfl

theorem eq_of_length_filter_le_one (h : (l.filter p).length ≤ 1)
    (ha : a ∈ l) (hb : b ∈ l) (hpa : p a = true) (hpb : p b = true) :
    a = b := by
  have hmema := List.mem_filter.mpr ⟨ha, hpa⟩
  have hmemb := List.mem_filter.mpr ⟨hb, hpb⟩
  match hl : l.filter p with
  | [] => simp [hl] at hmema
  | [c] =>
      rw [hl, List.mem_singleton] at hmema hmemb
      rw [hmema, hmemb]
  | _ :: _ :: _ => simp [hl] at h

theorem length_filter_snoc_le_one :
    ((l ++ [a]).filter p).length ≤ 1 ↔
      (l.filter p).length ≤ 1 ∧ (p a = true → ∀ b ∈ l, ¬ p b = true) := by
  rw [List.filter_append, List.length_append, List.filter_singleton]
  cases p a with
  | false => simp
  | true =>
      simp only [cond_true, List.length_singleton, forall_const]
      rw [← List.filter_eq_nil_iff, ← List.length_eq_zero_iff]
      omega

theorem nodup_filterMap_snoc :
    ((l ++ [a]).filterMap f).Nodup ↔
      (l.filterMap f).Nodup ∧ ∀ x, f a = some x → ∀ b ∈ l, f b ≠ some x := by
  rw [List.filterMap_append]
  cases hx : f a with
  | none => simp [hx]
  | some x =>
      rw [List.filterMap_cons_some hx, List.filterMap_nil,
        ← List.concat_eq_append, List.nodup_concat, and_comm]
      simp [List.mem_filterMap]

end

/-! ## Variants that go together -/

/-- Variants with names and paths of their own, at most one of them blank. -/
structure Compatible (variants : List VariantDecl) : Prop where
  names : (variants.map VariantDecl.wireName).Nodup
  blank : (variants.filter fun v => v.IsBlank).length ≤ 1
  paths : (variants.filterMap VariantDecl.path?).Nodup

namespace VariantDecl

/-- A variant that goes with those before it. -/
structure Free (before : List VariantDecl) (v : VariantDecl) : Prop where
  name : ∀ w ∈ before, w.wireName ≠ v.wireName
  blank : v.IsBlank → ∀ w ∈ before, ¬ w.IsBlank
  path : ∀ path, v.path? = some path → ∀ w ∈ before, w.path? ≠ some path

/-- How a variant clashes with one before it. -/
inductive Clash (before : List VariantDecl) (v : VariantDecl) : DeclError → Prop
  | name {w : VariantDecl} (hw : w ∈ before) (hsame : w.wireName = v.wireName) :
      Clash before v (.nameTaken v.wireName w.ident)
  | blank {w : VariantDecl} (hname : ∀ w ∈ before, w.wireName ≠ v.wireName)
      (hw : w ∈ before) (hv : v.IsBlank) (hblank : w.IsBlank) :
      Clash before v (.secondBlank w.ident)
  | path {w : VariantDecl} {path : String}
      (hname : ∀ w ∈ before, w.wireName ≠ v.wireName) (hw : w ∈ before)
      (hv : v.path? = some path) (hsame : w.path? = some path) :
      Clash before v (.pathTaken path w.ident)

/-- What is wrong with a variant, given those before it. -/
inductive Fault (before : List VariantDecl) (v : VariantDecl) : DeclError → Prop
  | own {e : DeclError} (hfault : v.OwnFault e) : Fault before v e
  | clash {e : DeclError} (hv : v.WellFormed) (hclash : Clash before v e) :
      Fault before v e

end VariantDecl

theorem compatible_nil : Compatible [] :=
  ⟨List.nodup_nil, Nat.zero_le 1, List.nodup_nil⟩

theorem compatible_snoc {before : List VariantDecl} {v : VariantDecl} :
    Compatible (before ++ [v]) ↔
      Compatible before ∧ VariantDecl.Free before v := by
  have hnames : ((before ++ [v]).map VariantDecl.wireName).Nodup ↔
      (before.map VariantDecl.wireName).Nodup ∧
        ∀ w ∈ before, w.wireName ≠ v.wireName := by
    rw [nodup_map_snoc, List.mem_map]
    simp
  have hblank : ((before ++ [v]).filter fun v => v.IsBlank).length ≤ 1 ↔
      (before.filter fun v => v.IsBlank).length ≤ 1 ∧
        (v.IsBlank → ∀ w ∈ before, ¬ w.IsBlank) := by
    rw [length_filter_snoc_le_one]
    simp
  constructor
  · rintro ⟨h1, h2, h3⟩
    obtain ⟨hold, hname⟩ := hnames.mp h1
    obtain ⟨hone, hfirst⟩ := hblank.mp h2
    obtain ⟨hpaths, hpath⟩ := nodup_filterMap_snoc.mp h3
    exact ⟨⟨hold, hone, hpaths⟩, hname, hfirst, hpath⟩
  · rintro ⟨⟨hold, hone, hpaths⟩, hname, hfirst, hpath⟩
    exact ⟨hnames.mpr ⟨hold, hname⟩, hblank.mpr ⟨hone, hfirst⟩,
      nodup_filterMap_snoc.mpr ⟨hpaths, hpath⟩⟩

/-- Variants that are well-formed each by itself and go together. -/
structure SoundVariants (variants : List VariantDecl) : Prop where
  wellFormed : ∀ v ∈ variants, v.WellFormed
  compatible : Compatible variants

namespace VariantDecl

variable {before : List VariantDecl} {v : VariantDecl}

theorem free_or_clash (before : List VariantDecl) (v : VariantDecl) :
    Free before v ∨ ∃ e, Clash before v e := by
  by_cases hname : ∃ w ∈ before, w.wireName = v.wireName
  · obtain ⟨w, hw, hsame⟩ := hname
    exact .inr ⟨_, .name hw hsame⟩
  · have hfree : ∀ w ∈ before, w.wireName ≠ v.wireName := by simpa using hname
    by_cases hblank : v.IsBlank ∧ ∃ w ∈ before, w.IsBlank
    · obtain ⟨hv, w, hw, hholder⟩ := hblank
      exact .inr ⟨_, .blank hfree hw hv hholder⟩
    · by_cases hpath : ∃ path, v.path? = some path ∧
        ∃ w ∈ before, w.path? = some path
      · obtain ⟨path, hv, w, hw, hsame⟩ := hpath
        exact .inr ⟨_, .path hfree hw hv hsame⟩
      · refine .inl ⟨hfree, fun hv w hw hholder => hblank
          ⟨hv, w, hw, hholder⟩, ?_⟩
        exact fun path hv w hw hsame => hpath ⟨path, hv, w, hw, hsame⟩

/-- The entry of the only variant there is to be found. -/
theorem find?_described {p : Api → Bool} {w : VariantDecl} (hw : w ∈ before)
    (hp : p w.described = true)
    (hunique : ∀ u ∈ before, p u.described = true → u = w) :
    (before.map described).find? p = some w.described := by
  refine find?_eq_some_of_unique (List.mem_map_of_mem hw) hp fun b hb hpb => ?_
  obtain ⟨u, hu, rfl⟩ := List.mem_map.mp hb
  rw [hunique u hu hpb]

theorem find?_described_eq_none {p : Api → Bool}
    (h : ∀ w ∈ before, ¬ p w.described = true) :
    (before.map described).find? p = none := by
  rw [List.find?_eq_none]
  exact List.forall_mem_map.mpr h

theorem any_path_iff {path : String} :
    (v.described.route.any fun route => route.path == path) = true ↔
      v.path? = some path := by
  rw [← v.described_route_path, Option.any_eq_true, Option.map_eq_some_iff]
  simp

/-! Each of the three searches for a clash finds the only variant before that
there is to be found. -/

theorem find?_name (hbefore : SoundVariants before) {w : VariantDecl}
    (hw : w ∈ before) (hsame : w.wireName = v.wireName) :
    (before.map described).find? (fun b => b.name == v.described.name) =
      some w.described := by
  refine find?_described hw (beq_iff_eq.mpr hsame) fun u hu hu' => ?_
  exact List.inj_on_of_nodup_map hbefore.compatible.names hu hw
    ((beq_iff_eq.mp hu').trans hsame.symm)

theorem find?_name_eq_none (h : ∀ w ∈ before, w.wireName ≠ v.wireName) :
    (before.map described).find? (fun b => b.name == v.described.name) =
      none :=
  find?_described_eq_none fun w hw hsame => h w hw (beq_iff_eq.mp hsame)

theorem find?_isSentinel (hbefore : SoundVariants before) {w : VariantDecl}
    (hw : w ∈ before) (hblank : w.IsBlank) :
    (before.map described).find? Api.isSentinel = some w.described := by
  refine find?_described hw
    ((hbefore.wellFormed w hw).isSentinel_described.mpr hblank)
    fun u hu hu' => ?_
  have hublank := (hbefore.wellFormed u hu).isSentinel_described.mp hu'
  exact eq_of_length_filter_le_one hbefore.compatible.blank hu hw
    (decide_eq_true hublank) (decide_eq_true hblank)

theorem find?_isSentinel_eq_none (hbefore : SoundVariants before)
    (h : ∀ w ∈ before, ¬ w.IsBlank) :
    (before.map described).find? Api.isSentinel = none :=
  find?_described_eq_none fun w hw hsentinel =>
    h w hw ((hbefore.wellFormed w hw).isSentinel_described.mp hsentinel)

theorem find?_path (hbefore : SoundVariants before) {w : VariantDecl}
    {path : String} (hw : w ∈ before) (hpath : w.path? = some path) :
    (before.map described).find?
        (fun b => b.route.any fun route => route.path == path) =
      some w.described := by
  refine find?_described hw (any_path_iff.mpr hpath) fun u hu hu' => ?_
  exact eq_of_nodup_filterMap hbefore.compatible.paths hu hw
    (any_path_iff.mp hu') hpath

theorem find?_path_eq_none {path : String}
    (h : ∀ w ∈ before, w.path? ≠ some path) :
    (before.map described).find?
        (fun b => b.route.any fun route => route.path == path) =
      none :=
  find?_described_eq_none fun w hw hpath => h w hw (any_path_iff.mp hpath)

/-- A described entry is admitted if it goes with those before it. -/
theorem verdict_checkAgainst (hbefore : SoundVariants before)
    (hv : v.WellFormed) :
    Verdict (v.described.checkAgainst (before.map described)) (Free before v) ()
      (Clash before v) where
  succeeds hfree := by
    rw [Api.checkAgainst, find?_name_eq_none hfree.name]
    match hroute : v.described.route with
    | none =>
        have hblank : v.IsBlank :=
          hv.isSentinel_described.mp (Option.isNone_iff_eq_none.mpr hroute)
        simp only [find?_isSentinel_eq_none hbefore (hfree.blank hblank)]
    | some route =>
        have hpath : v.path? = some route.path := by
          rw [← v.described_route_path, hroute, Option.map_some]
        simp only [find?_path_eq_none (hfree.path _ hpath)]
  fails hclash := by
    cases hclash with
    | name hw hsame =>
        rw [Api.checkAgainst, find?_name hbefore hw hsame]
        rfl
    | blank hname hw hv' hblank =>
        have hroute : v.described.route = none :=
          Option.isNone_iff_eq_none.mp (hv.isSentinel_described.mpr hv')
        rw [Api.checkAgainst, find?_name_eq_none hname, hroute]
        simp only [find?_isSentinel hbefore hw hblank]
        rfl
    | @path w path hname hw hpath hsame =>
        obtain ⟨route, hroute, rfl⟩ :
            ∃ route, v.described.route = some route ∧ route.path = path :=
          Option.map_eq_some_iff.mp (v.described_route_path.trans hpath)
        rw [Api.checkAgainst, find?_name_eq_none hname, hroute]
        simp only [find?_path hbefore hw hsame]
        rfl
  settled := free_or_clash before v

end VariantDecl

/-! ## The variants in order -/

/-- Reading one more variant. -/
def readVariant (before : List Api) (variant : VariantDecl) :
    Except DeclError (List Api) := do
  let api ← variant.entry
  api.checkAgainst before
  return before ++ [api]

theorem readVariants_eq (variants : List VariantDecl) :
    readVariants variants = variants.foldlM readVariant [] := rfl

theorem pass_readVariant :
    Pass readVariant (List.map VariantDecl.described) SoundVariants
    (fun before v => v.WellFormed ∧ VariantDecl.Free before v)
      VariantDecl.Fault where
  clean_nil := ⟨List.forall_mem_nil _, compatible_nil⟩
  clean_snoc {before v} := by
    constructor
    · rintro ⟨hwf, hcompat⟩
      obtain ⟨hbefore, hv⟩ := List.forall_mem_append.mp hwf
      obtain ⟨hold, hfree⟩ := compatible_snoc.mp hcompat
      exact ⟨⟨hbefore, hold⟩, List.forall_mem_singleton.mp hv, hfree⟩
    · rintro ⟨⟨hbefore, hold⟩, hv, hfree⟩
      exact ⟨List.forall_mem_append.mpr
        ⟨hbefore, List.forall_mem_singleton.mpr hv⟩,
          compatible_snoc.mpr ⟨hold, hfree⟩⟩
  verdict_step {before v} hbefore := by
    have hadmit : v.WellFormed → Verdict (do
        v.described.checkAgainst (before.map VariantDecl.described)
        return before.map VariantDecl.described ++ [v.described])
          (VariantDecl.Free before v)
        ((before ++ [v]).map VariantDecl.described)
          (VariantDecl.Clash before v) :=
      fun hv => (VariantDecl.verdict_checkAgainst hbefore hv).map (by
        rw [List.map_append, List.map_singleton]
        rfl)
    refine (v.verdict_entry.bind hadmit).congr Iff.rfl fun e => ?_
    constructor
    · rintro (hfault | ⟨hv, hclash⟩)
      · exact .own hfault
      · exact .clash hv hclash
    · intro hfault
      cases hfault with
      | own hfault => exact .inl hfault
      | clash hv hclash => exact .inr ⟨hv, hclash⟩

theorem verdict_readVariants (variants : List VariantDecl) :
    Verdict (readVariants variants) (SoundVariants variants)
      (variants.map VariantDecl.described)
      (FirstFault VariantDecl.Fault variants) :=
  readVariants_eq variants ▸ pass_readVariant.verdict variants

/-! ## The whole declaration -/

namespace ItemDecl

/-- A declaration that is accepted. -/
structure WellFormed (item : ItemDecl) : Prop where
  generics : item.generics = []
  kind : item.kind = .enumeration
  variants : ∀ v ∈ item.variants, v.WellFormed
  compatible : Compatible item.variants
  routable : ∃ v ∈ item.variants, ¬ v.IsBlank

/-- The fault that a declaration is refused for: the first one there is. -/
inductive Fault (item : ItemDecl) : DeclError → Prop
  | generic (hgeneric : item.generics ≠ []) : Fault item .genericItem
  | kind (hplain : item.generics = []) (hkind : item.kind ≠ .enumeration) :
      Fault item .notAnEnumeration
  | variant {e : DeclError} (hplain : item.generics = [])
      (hkind : item.kind = .enumeration)
      (hfault : FirstFault VariantDecl.Fault item.variants e) : Fault item e
  | nothingRoutable (hplain : item.generics = [])
      (hkind : item.kind = .enumeration)
      (hsound : Sound VariantDecl.Fault item.variants)
      (hblank : ∀ v ∈ item.variants, v.IsBlank) :
      Fault item .nothingRoutable

/-- The table that a declaration describes. -/
def described (item : ItemDecl) : ApiTable :=
  ⟨item.variants.map VariantDecl.described⟩

theorem all_isSentinel_iff {variants : List VariantDecl}
    (h : ∀ v ∈ variants, v.WellFormed) :
    (variants.map VariantDecl.described).all Api.isSentinel = true ↔
      ∀ v ∈ variants, v.IsBlank := by
  rw [List.all_eq_true, List.forall_mem_map]
  exact forall₂_congr fun v hv => (h v hv).isSentinel_described

/-- The table of entries, unless none of them has a route. -/
def tableOf (apis : List Api) : Except DeclError ApiTable :=
  if apis.all Api.isSentinel then .error .nothingRoutable else .ok ⟨apis⟩

theorem verdict_tableOf {variants : List VariantDecl}
    (h : ∀ v ∈ variants, v.WellFormed) :
    Verdict (tableOf (variants.map VariantDecl.described))
      (∃ v ∈ variants, ¬ v.IsBlank) ⟨variants.map VariantDecl.described⟩
      fun e => (∀ v ∈ variants, v.IsBlank) ∧ e = .nothingRoutable := by
  rw [tableOf]
  by_cases hall : ∀ v ∈ variants, v.IsBlank
  · rw [if_pos ((all_isSentinel_iff h).mpr hall)]
    refine ⟨fun ⟨v, hv, hroute⟩ => absurd (hall v hv) hroute, ?_,
      .inr ⟨_, hall, rfl⟩⟩
    rintro _ ⟨-, rfl⟩
    rfl
  · rw [if_neg (mt (all_isSentinel_iff h).mp hall)]
    exact ⟨fun _ => rfl, fun hfault => absurd hfault.1 hall,
      .inl (by simpa using hall)⟩

theorem derive_of_plain {item : ItemDecl} (hplain : item.generics = [])
    (hkind : item.kind = .enumeration) :
    item.derive = readVariants item.variants >>= tableOf := by
  unfold ItemDecl.derive
  rw [hplain, hkind]
  rfl

theorem verdict_derive (item : ItemDecl) :
    Verdict item.derive item.WellFormed item.described item.Fault := by
  by_cases hplain : item.generics = []
  · by_cases hkind : item.kind = .enumeration
    · have hvariants := (verdict_readVariants item.variants).bind
        fun hsound => verdict_tableOf hsound.wellFormed
      rw [derive_of_plain hplain hkind]
      refine hvariants.congr ?_ fun e => ?_
      · exact ⟨fun ⟨hsound, hroute⟩ => ⟨hplain, hkind, hsound.wellFormed,
          hsound.compatible, hroute⟩,
          fun h => ⟨⟨h.variants, h.compatible⟩, h.routable⟩⟩
      · constructor
        · rintro (hfault | ⟨hsound, hblank, rfl⟩)
          · exact .variant hplain hkind hfault
          · exact .nothingRoutable hplain hkind
              (pass_readVariant.sound_iff.mpr hsound) hblank
        · intro hfault
          cases hfault with
          | generic h => exact absurd hplain h
          | kind _ h => exact absurd hkind h
          | variant _ _ hfault => exact .inl hfault
          | nothingRoutable _ _ hsound hblank =>
              exact .inr ⟨pass_readVariant.sound_iff.mp hsound, hblank, rfl⟩
    · refine ⟨fun h => absurd h.kind hkind, ?_, .inr ⟨_, .kind hplain hkind⟩⟩
      intro e he
      cases he with
      | generic h => exact absurd hplain h
      | kind =>
          unfold ItemDecl.derive
          rw [hplain]
          simp [hkind]
          rfl
      | variant _ h => exact absurd h hkind
      | nothingRoutable _ h => exact absurd h hkind
  · refine ⟨fun h => absurd h.generics hplain, ?_, .inr ⟨_, .generic hplain⟩⟩
    intro e he
    cases he with
    | generic =>
        unfold ItemDecl.derive
        simp [hplain]
        rfl
    | kind h => exact absurd h hplain
    | variant h => exact absurd h hplain
    | nothingRoutable h => exact absurd h hplain

/-- **Accepted declarations.** A declaration is accepted exactly if it is
well-formed, and otherwise it is refused with its first fault. -/
theorem derive_iff_wellFormed (item : ItemDecl) :
    ((∃ table, item.derive = .ok table) ↔ item.WellFormed) ∧
      ∀ e, item.derive = .error e ↔ item.Fault e :=
  ⟨item.verdict_derive.exists_eq_ok_iff,
    fun _ => item.verdict_derive.eq_error_iff⟩

end ItemDecl

end ClusterGate
