import Mathlib.Data.List.Forall2
import ClusterGate.Proofs.Text.Affix
import ClusterGate.Proofs.Text.Split
import ClusterGate.Request.Action

/-!
# Lists of names

The names that a text lists are what stands between its commas, without the
blanks around it, unless nothing else is there (`Action.Lists`). They are what
splitting the text gives (`splitNames_eq_iff`), and joined with commas they are
listed again (`lists_intercalate`).

Two texts list the same names just if they differ in nothing but blanks around
their pieces and pieces without a name (`splitNames_eq_splitNames_iff`).
-/

namespace ClusterGate.Action

open Text (isBlank)

variable {params other : String} {names : List String}
  {ps qs cores : List (List Char)} {piece : List Char}

/-! ## Listed names -/

/-- A text lists names: they are what its pieces have between blanks, one after
the other, where there is anything. -/
def Lists (params : String) (names : List String) : Prop :=
  ∃ pieces cores, Text.Cuts ',' params.toList pieces ∧
    List.Forall₂ (Text.TrimsTo isBlank) pieces cores ∧
    names.map String.toList = cores.filter fun core => !core.isEmpty

/-- The names in some pieces. -/
def namesIn (pieces : List (List Char)) : List (List Char) :=
  (pieces.map Text.trimBlanks).filter fun core => !core.isEmpty

theorem toList_splitNames (params : String) :
    (splitNames params).map String.toList =
      namesIn (Text.splitAt ',' params.toList) := by
  rw [splitNames, List.map_map]
  exact List.map_id'' (fun _ => String.toList_ofList) _

theorem forall₂_trimsTo_iff :
    List.Forall₂ (Text.TrimsTo isBlank) ps cores ↔
      ps.map Text.trimBlanks = cores := by
  have hrel :
      Text.TrimsTo isBlank =
        fun piece core => Text.trimBlanks piece = core := by
    ext piece core
    exact Text.trim_eq_iff.symm
  rw [hrel, ← List.forall₂_map_left_iff (f := Text.trimBlanks) (R := Eq),
    List.forall₂_eq_eq_eq]

theorem map_toList_inj {names others : List String} :
    names.map String.toList = others.map String.toList ↔ names = others :=
  List.map_inj_right fun _ _ => String.toList_injective

/-- **Split names.** Splitting gives the names that are listed. -/
theorem splitNames_eq_iff : splitNames params = names ↔ Lists params names := by
  rw [← map_toList_inj, toList_splitNames, eq_comm, namesIn, Lists]
  simp only [forall₂_trimsTo_iff, ← Text.splitAt_eq_iff, exists_and_left,
    exists_eq_left']

/-! ## Joined names -/

/-- A text that can stand in a list as a name. -/
structure IsName (name : String) : Prop where
  nonempty : name ≠ ""
  noComma : ',' ∉ name.toList
  first : ∀ c, name.toList.head? = some c → isBlank c = false
  last : ∀ c, name.toList.getLast? = some c → isBlank c = false

theorem Lists.isName (h : Lists params names) :
    ∀ name ∈ names, IsName name := by
  obtain ⟨pieces, cores, hcuts, hcores, hnames⟩ := h
  obtain rfl := forall₂_trimsTo_iff.mp hcores
  intro name hname
  have hmem : name.toList ∈ (pieces.map Text.trimBlanks).filter fun core =>
      !core.isEmpty :=
    hnames ▸ List.mem_map_of_mem hname
  obtain ⟨hcore, hne⟩ := List.mem_filter.mp hmem
  obtain ⟨piece, hpiece, htrim⟩ := List.mem_map.mp hcore
  obtain ⟨⟨before, after, hsplit, -⟩, hfirst, hlast⟩ :=
    Text.trim_eq_iff.mp htrim
  refine ⟨?_, fun hcomma => hcuts.free piece hpiece ?_, hfirst, hlast⟩
  · rintro rfl
    simp at hne
  · rw [hsplit]
    exact List.mem_append_right _ (List.mem_append_left _ hcomma)

theorem trimsTo_self {core : List Char}
    (hfirst : ∀ c, core.head? = some c → isBlank c = false)
    (hlast : ∀ c, core.getLast? = some c → isBlank c = false) :
    Text.TrimsTo isBlank core core :=
  Text.trim_eq_iff.mp (Text.trim_eq_self hfirst hlast)

/-- **Joined names.** Names that are joined with commas are listed. -/
theorem lists_intercalate (h : ∀ name ∈ names, IsName name) :
    Lists (",".intercalate names) names := by
  cases names with
  | nil =>
      refine ⟨[[]], [[]], ⟨List.cons_ne_nil _ _, ?_, rfl⟩, ?_, rfl⟩
      · exact List.forall_mem_singleton.mpr List.not_mem_nil
      · exact .cons (trimsTo_self nofun nofun) .nil
  | cons name rest =>
      have hcuts : Text.Cuts ',' (",".intercalate (name :: rest)).toList
          ((name :: rest).map String.toList) := by
        refine ⟨List.cons_ne_nil _ _, List.forall_mem_map.mpr
          fun n hn => (h n hn).noComma, ?_⟩
        rw [String.toList_intercalate]
        rfl
      refine ⟨_, (name :: rest).map String.toList, hcuts, ?_, ?_⟩
      · exact List.forall₂_same.mpr
          (List.forall_mem_map.mpr fun n hn =>
            trimsTo_self (h n hn).first (h n hn).last)
      · refine (List.filter_eq_self.mpr (List.forall_mem_map.mpr
          fun n hn => ?_)).symm
        simpa using (h n hn).nonempty

/-! ## Texts that list the same names -/

/-- Pieces that differ in nothing but the blanks around them and in pieces of
nothing but blanks. -/
inductive PiecesAlike : List (List Char) → List (List Char) → Prop
  | nil : PiecesAlike [] []
  | left {piece : List Char} {ps qs : List (List Char)}
      (hblank : ∀ c ∈ piece, isBlank c = true) (h : PiecesAlike ps qs) :
      PiecesAlike (piece :: ps) qs
  | right {piece : List Char} {ps qs : List (List Char)}
      (hblank : ∀ c ∈ piece, isBlank c = true) (h : PiecesAlike ps qs) :
      PiecesAlike ps (piece :: qs)
  | both {before after before' after' core : List Char}
      {ps qs : List (List Char)}
      (hbefore : ∀ c ∈ before ++ before', isBlank c = true)
      (hafter : ∀ c ∈ after ++ after', isBlank c = true)
      (h : PiecesAlike ps qs) :
      PiecesAlike ((before ++ (core ++ after)) :: ps)
        ((before' ++ (core ++ after')) :: qs)

/-- Texts that differ in nothing but the blanks around their pieces and in
pieces of nothing but blanks. -/
def Respaced (params other : String) : Prop :=
  ∃ ps qs, Text.Cuts ',' params.toList ps ∧ Text.Cuts ',' other.toList qs ∧
    PiecesAlike ps qs

theorem namesIn_cons_of_blank (h : ∀ c ∈ piece, isBlank c = true) :
    namesIn (piece :: ps) = namesIn ps := by
  have htrim : Text.trimBlanks piece = [] := Text.trim_eq_nil_iff.mpr h
  simp [namesIn, htrim]

theorem namesIn_cons_of_trim (h : Text.trimBlanks piece ≠ []) :
    namesIn (piece :: ps) = Text.trimBlanks piece :: namesIn ps := by
  simp [namesIn, h]

theorem PiecesAlike.namesIn_eq (h : PiecesAlike ps qs) :
    namesIn ps = namesIn qs := by
  induction h with
  | nil => rfl
  | left hblank _ ih => rw [namesIn_cons_of_blank hblank, ih]
  | right hblank _ ih => rw [namesIn_cons_of_blank hblank, ih]
  | @both before after before' after' core ps qs hbefore hafter _ ih =>
      obtain ⟨hbefore, hbefore'⟩ := List.forall_mem_append.mp hbefore
      obtain ⟨hafter, hafter'⟩ := List.forall_mem_append.mp hafter
      have htrim : Text.trimBlanks (before ++ (core ++ after)) =
          Text.trimBlanks (before' ++ (core ++ after')) := by
        rw [Text.trimBlanks, Text.trim_around hbefore hafter, Text.trimBlanks,
          Text.trim_around hbefore' hafter']
      simp only [namesIn, List.map_cons, htrim, List.filter_cons] at ih ⊢
      rw [ih]

/-- Pieces with no names in them are alike to none. -/
theorem piecesAlike_nil_of_namesIn_eq (h : namesIn qs = []) :
    PiecesAlike [] qs := by
  induction qs with
  | nil => exact .nil
  | cons q qs ih =>
      by_cases hq : Text.trimBlanks q = []
      · have hblank := Text.trim_eq_nil_iff.mp hq
        exact .right hblank (ih ((namesIn_cons_of_blank hblank).symm.trans h))
      · rw [namesIn_cons_of_trim hq] at h
        cases h

theorem PiecesAlike.of_trim_eq {p q : List Char}
    (h : Text.trimBlanks p = Text.trimBlanks q) (hrest : PiecesAlike ps qs) :
    PiecesAlike (p :: ps) (q :: qs) := by
  have hcore : Text.trim isBlank p = Text.trim isBlank q := h
  obtain ⟨before, after, hp, hbefore, hafter⟩ :=
    Text.exists_append_trim isBlank p
  obtain ⟨before', after', hq, hbefore', hafter'⟩ :=
    Text.exists_append_trim isBlank q
  rw [hp, hq, hcore]
  exact .both (List.forall_mem_append.mpr ⟨hbefore, hbefore'⟩)
    (List.forall_mem_append.mpr ⟨hafter, hafter'⟩) hrest

/-- The name in a first piece is that of the first piece with a name on the
other side. -/
theorem piecesAlike_cons_of_namesIn_eq {p : List Char}
    (hp : Text.trimBlanks p ≠ [])
    (hrest : ∀ qs, namesIn ps = namesIn qs → PiecesAlike ps qs)
    (h : namesIn (p :: ps) = namesIn qs) : PiecesAlike (p :: ps) qs := by
  induction qs with
  | nil =>
      rw [namesIn_cons_of_trim hp] at h
      cases h
  | cons q qs ih =>
      by_cases hq : Text.trimBlanks q = []
      · have hblank := Text.trim_eq_nil_iff.mp hq
        exact .right hblank (ih (h.trans (namesIn_cons_of_blank hblank)))
      · rw [namesIn_cons_of_trim hp, namesIn_cons_of_trim hq] at h
        obtain ⟨hcore, hnames⟩ := List.cons.inj h
        exact .of_trim_eq hcore (hrest qs hnames)

/-- Pieces with the same names in them are alike. -/
theorem piecesAlike_of_namesIn_eq (h : namesIn ps = namesIn qs) :
    PiecesAlike ps qs := by
  induction ps generalizing qs with
  | nil => exact piecesAlike_nil_of_namesIn_eq h.symm
  | cons p ps ih =>
      by_cases hp : Text.trimBlanks p = []
      · have hblank := Text.trim_eq_nil_iff.mp hp
        exact .left hblank (ih ((namesIn_cons_of_blank hblank).symm.trans h))
      · exact piecesAlike_cons_of_namesIn_eq hp (fun _ => ih) h

/-- **The same names.** -/
theorem splitNames_eq_splitNames_iff :
    splitNames params = splitNames other ↔ Respaced params other := by
  rw [← map_toList_inj, toList_splitNames, toList_splitNames]
  simp only [Respaced, ← Text.splitAt_eq_iff, exists_and_left, exists_eq_left']
  exact ⟨piecesAlike_of_namesIn_eq, PiecesAlike.namesIn_eq⟩

end ClusterGate.Action
