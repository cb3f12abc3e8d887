import ClusterGate.Proofs.Outcome
import ClusterGate.Proofs.Redaction.FieldPath
import ClusterGate.Proofs.Redaction.PathTree
import ClusterGate.Redaction.AllowList

/-!
# How an allow-list is built

An allow-list is built from the empty one by allowing roots and paths, one
after the other. What a sequence of such steps asks for is said of the
steps alone: which roots they mention, which of those they allow whole,
and which paths they allow below the others.

`asksFor_build` ties the two together: the rule that a built list has for a
root is the one its steps ask for, and the tree of the rule is the tree of
exactly the allowed paths.
-/

namespace ClusterGate

/-- One step of building an allow-list. -/
inductive Allowance where
  /-- Allows the whole value under a root. -/
  | root (root : String)
  /-- Allows dotted paths below a root, or all of it if there are none. -/
  | paths (root : String) (texts : List String)
  deriving DecidableEq, Repr

namespace Allowance

/-- The root that a step is about. -/
def target : Allowance → String
  | root r => r
  | paths r _ => r

/-- The dotted paths of a step; none if it allows the whole root. -/
def texts : Allowance → List String
  | root _ => []
  | paths _ texts => texts

/-- Takes one step. -/
def extend (list : AllowList) : Allowance → Except FieldPathError AllowList
  | root r => .ok (list.allowRoot r)
  | paths r texts => list.allowPaths r texts

/-! ## What steps ask for -/

/-- Some step is about the root. -/
def Mentions (steps : List Allowance) (root : String) : Prop :=
  ∃ s ∈ steps, s.target = root

/-- Some step allows the whole root. -/
def AllowWhole (steps : List Allowance) (root : String) : Prop :=
  ∃ s ∈ steps, s.target = root ∧ s.texts = []

/-- Some step allows the path below the root. -/
def AllowPath (steps : List Allowance) (root : String)
    (path : FieldPath) : Prop :=
  ∃ s ∈ steps, s.target = root ∧
    ∃ text ∈ s.texts, FieldPath.parse text = .ok path

theorem AllowWhole.mentions {steps : List Allowance} {root : String}
    (h : AllowWhole steps root) :
    Mentions steps root := by
  obtain ⟨s, hs, htarget, -⟩ := h
  exact ⟨s, hs, htarget⟩

theorem AllowPath.mentions {steps : List Allowance} {root : String}
    {path : FieldPath} (h : AllowPath steps root path) :
    Mentions steps root := by
  obtain ⟨s, hs, htarget, -⟩ := h
  exact ⟨s, hs, htarget⟩

theorem mentions_snoc {steps : List Allowance} {s : Allowance} {root : String} :
    Mentions (steps ++ [s]) root ↔ Mentions steps root ∨ s.target = root := by
  simp [Mentions, or_and_right, exists_or]

theorem allowWhole_snoc {steps : List Allowance} {s : Allowance}
    {root : String} :
    AllowWhole (steps ++ [s]) root ↔
      AllowWhole steps root ∨ s.target = root ∧ s.texts = [] := by
  simp [AllowWhole, or_and_right, exists_or]

theorem allowPath_snoc {steps : List Allowance} {s : Allowance} {root : String}
    {path : FieldPath} :
    AllowPath (steps ++ [s]) root path ↔
      AllowPath steps root path ∨
        s.target = root ∧ ∃ text ∈ s.texts, FieldPath.parse text =
          .ok path := by
  simp [AllowPath, or_and_right, exists_or]

end Allowance

open Allowance

/-- The allow-list that steps build, or the first text that is no path. -/
def AllowList.build (steps : List Allowance) :
    Except FieldPathError AllowList :=
  steps.foldlM Allowance.extend AllowList.empty

/-! ## Rules -/

theorem FieldPath.segments_ne_nil_of_parse {text : String} {path : FieldPath}
    (h : FieldPath.parse text = .ok path) : path.segments ≠ [] :=
  (FieldPath.parse_eq_ok_iff.mp h).segments

namespace RootRule

theorem mem_addPaths {path : FieldPath} {more : List FieldPath} :
    ∀ {known : List FieldPath},
      path ∈ addPaths known more ↔ path ∈ known ∨ path ∈ more := by
  unfold addPaths
  induction more with
  | nil => simp
  | cons p rest ih =>
      intro known
      rw [List.foldl_cons, ih, List.mem_cons]
      split
      · next hp =>
          constructor
          · exact Or.imp_right .inr
          · rintro (h | rfl | h)
            · exact .inl h
            · exact .inl hp
            · exact .inr h
      · rw [List.mem_append, List.mem_singleton, or_assoc]

/-- What the rule for a root is, given the steps that led to it. -/
def AsksFor (steps : List Allowance) (root : String) : Option RootRule → Prop
  | none => ¬ Mentions steps root
  | some whole => AllowWhole steps root
  | some (along paths tree) =>
    ¬ AllowWhole steps root ∧ paths ≠ [] ∧ (∀ path, path ∈ paths ↔
      AllowPath steps root path) ∧
      tree = PathTree.ofPaths paths

theorem AsksFor.mentions_iff {steps : List Allowance} {root : String}
    {rule : Option RootRule} (h : AsksFor steps root rule) :
    Mentions steps root ↔ rule.isSome = true := by
  match rule, h with
  | none, h => exact ⟨fun hm => absurd hm h, nofun⟩
  | some whole, h => exact iff_of_true (AllowWhole.mentions h) rfl
  | some (along paths tree), ⟨_, hne, hpaths, _⟩ =>
      obtain ⟨path, hpath⟩ := List.exists_mem_of_ne_nil paths hne
      exact iff_of_true ((hpaths path).mp hpath).mentions rfl

theorem AsksFor.eq_whole {steps : List Allowance} {root : String}
    {rule : Option RootRule} (h : AsksFor steps root rule)
    (hwhole : AllowWhole steps root) : rule = some whole := by
  match rule, h with
  | none, h => exact absurd hwhole.mentions h
  | some whole, _ => rfl
  | some (along paths tree), ⟨hnot, _⟩ => exact absurd hwhole hnot

theorem AsksFor.eq_along {steps : List Allowance} {root : String}
    {rule : Option RootRule} (h : AsksFor steps root rule)
    (hmen : Mentions steps root) (hnot : ¬ AllowWhole steps root) :
    ∃ paths, rule = some (along paths (PathTree.ofPaths paths)) ∧
      ∀ path, path ∈ paths ↔ AllowPath steps root path := by
  match rule, h with
  | none, h => exact absurd hmen h
  | some whole, h => exact absurd h hnot
  | some (along paths tree), ⟨_, _, hpaths, htree⟩ =>
      exact ⟨paths, by rw [htree], hpaths⟩

theorem asksFor_ofPaths {steps : List Allowance} {root : String}
    {paths : List FieldPath} (hnil : paths = [] → AllowWhole steps root)
    (hcons : paths ≠ [] → ¬ AllowWhole steps root ∧
      ∀ path, path ∈ paths ↔ AllowPath steps root path) :
    AsksFor steps root (some (ofPaths paths)) := by
  cases paths with
  | nil => exact hnil rfl
  | cons p rest =>
      obtain ⟨hwhole, hpaths⟩ := hcons (List.cons_ne_nil p rest)
      exact ⟨hwhole, List.cons_ne_nil p rest, hpaths, rfl⟩

/-- The rule that stands when `paths` are allowed where `known` was the
rule. -/
def extended (known : Option RootRule) (paths : List FieldPath) : RootRule :=
  match known with
  | none => ofPaths paths
  | some rule => rule.merge (ofPaths paths)

/-- A step about another root asks for nothing new. -/
theorem AsksFor.snoc_of_ne {steps : List Allowance} {s : Allowance}
    {root : String} {rule : Option RootRule} (h : AsksFor steps root rule)
    (hne : s.target ≠ root) :
    AsksFor (steps ++ [s]) root rule := by
  match rule, h with
  | none, h => exact fun hm => (mentions_snoc.mp hm).elim h hne
  | some whole, h => exact allowWhole_snoc.mpr (.inl h)
  | some (along paths tree), ⟨hwhole, hpaths, hmem, htree⟩ =>
      refine ⟨fun hw => ?_, hpaths, fun path => ?_, htree⟩
      · exact (allowWhole_snoc.mp hw).elim hwhole fun h => hne h.1
      · rw [allowPath_snoc, hmem]
        exact (or_iff_left fun h => hne h.1).symm

/-- A step about the root itself asks for its paths besides those already
allowed. -/
theorem AsksFor.snoc_self {steps : List Allowance} {s : Allowance}
    {rule : Option RootRule} {paths : List FieldPath}
    (h : AsksFor steps s.target rule)
    (hread : s.texts.mapM FieldPath.parse = .ok paths) :
    AsksFor (steps ++ [s]) s.target (some (extended rule paths)) := by
  have hmem : ∀ path, path ∈ paths ↔
      ∃ text ∈ s.texts, FieldPath.parse text = .ok path :=
    fun path => mem_of_mapM_eq_ok hread
  have hwhole : paths = [] → AllowWhole (steps ++ [s]) s.target := by
    rintro rfl
    exact allowWhole_snoc.mpr (.inr ⟨rfl, eq_nil_of_mapM_eq_ok_nil hread⟩)
  have hnotWhole : paths ≠ [] → ¬ AllowWhole steps s.target →
      ¬ AllowWhole (steps ++ [s]) s.target := by
    intro hne hnot hw
    refine (allowWhole_snoc.mp hw).elim hnot fun ⟨_, htexts⟩ => hne ?_
    rw [htexts] at hread
    exact (Except.ok.inj hread).symm
  match rule, h with
  | none, h =>
      refine asksFor_ofPaths hwhole fun hne =>
        ⟨hnotWhole hne fun hw => h hw.mentions, fun path => ?_⟩
      rw [allowPath_snoc, or_iff_right fun hp => h hp.mentions, hmem]
      exact ⟨fun ht => ⟨rfl, ht⟩, And.right⟩
  | some whole, h => exact allowWhole_snoc.mpr (.inl h)
  | some (along known tree), ⟨hnot, hknown, hpaths, _⟩ =>
      by_cases hnil : paths = []
      · subst hnil
        exact hwhole rfl
      · obtain ⟨p, hp⟩ := List.exists_mem_of_ne_nil known hknown
        have hne : addPaths known paths ≠ [] :=
          List.ne_nil_of_mem (mem_addPaths.mpr (.inl hp))
        have hmerge : extended (some (along known tree)) paths =
            ofPaths (addPaths known paths) := by
          simp [extended, merge, ofPaths, hnil]
        rw [hmerge]
        refine asksFor_ofPaths (fun h => absurd h hne) fun _ =>
          ⟨hnotWhole hnil hnot, fun path => ?_⟩
        rw [mem_addPaths, allowPath_snoc, hpaths, hmem]
        simp

end RootRule

/-! ## Built lists -/

namespace AllowList

theorem get?_widen {list : AllowList} {root : String} {paths : List FieldPath}
    {r : String} :
    (list.widen root (.ofPaths paths)).roots.get? r =
      if root = r then some (RootRule.extended (list.roots.get? root) paths)
      else list.roots.get? r := by
  unfold widen
  cases h :
    list.roots.get? root <;> simp [SortedMap.get?_insert, RootRule.extended]

theorem extend_eq_ok {list list' : AllowList} {s : Allowance}
    (h : s.extend list = .ok list') :
    ∃ paths, s.texts.mapM FieldPath.parse = .ok paths ∧
      list' = list.widen s.target (.ofPaths paths) := by
  cases s with
  | root r => exact ⟨[], rfl, (Except.ok.inj h).symm⟩
  | paths r texts =>
      obtain ⟨paths, hread, hlist⟩ := bind_eq_ok.mp h
      exact ⟨paths, hread, (Except.ok.inj hlist).symm⟩

/-- **Rules of a built list.** The rule for a root is the one that the
steps ask for. -/
theorem asksFor_build {steps : List Allowance} {list : AllowList}
    (h : build steps = .ok list) (root : String) :
    RootRule.AsksFor steps root (list.roots.get? root) := by
  have hstep : ∀ done list s list',
      (∀ root, RootRule.AsksFor done root (list.roots.get? root)) →
        s.extend list = .ok list' →
        ∀ root, RootRule.AsksFor (done ++ [s]) root
          (list'.roots.get? root) := by
    intro done list s list' hinv hs root
    obtain ⟨paths, hread, rfl⟩ := extend_eq_ok hs
    rw [get?_widen]
    split
    · next htarget =>
        subst htarget
        exact (hinv s.target).snoc_self hread
    · next hne => exact (hinv root).snoc_of_ne hne
  have hstart :
      ∀ root, RootRule.AsksFor [] root (AllowList.empty.roots.get? root) := by
    rintro root ⟨s, hs, -⟩
    cases hs
  exact foldlM_invariant hstep [] hstart h root

end AllowList

end ClusterGate
