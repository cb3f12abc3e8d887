import ClusterGate.Proofs.Redaction.Loading

/-!
# A resource loads as a whole or not at all

Three passes are nested in loading: over the canonical paths of a resource, over
the roots below each, and over the texts below each of those. The outer two make
the values of a map anew, since no key comes twice and so no rule is ever merged
with another one (`ofRoots_eq_map_remake`, `ofResource_eq_map_remake`).

If every text is a dotted path, the collection stands for the resource entry by
entry (`AllowLists.MadeOf`). Otherwise a pass ends at the least key below which
there is a text that is none, and the innermost one at the first such text
(`Resource.FirstFault`). For a text that is read as a resource all of this is in
`loadsWhole_ofText`.
-/

namespace ClusterGate

open Allowance

/-! ## Texts -/

/-- All texts are dotted paths. -/
def AllDotted (texts : List String) : Prop :=
  ∀ text ∈ texts, FieldPath.IsDotted text

/-- The first of the texts that is no dotted path. -/
def FirstUndotted (texts : List String) (text : String) : Prop :=
  ∃ before after, texts = before ++ text :: after ∧ AllDotted before ∧
    ¬ FieldPath.IsDotted text

theorem exists_mapM_parse_iff {texts : List String} :
    (∃ paths, texts.mapM FieldPath.parse = .ok paths) ↔ AllDotted texts := by
  rw [exists_mapM_eq_ok_iff]
  exact forall₂_congr fun _ _ => FieldPath.exists_parse_eq_ok_iff

theorem mapM_parse_eq_error_iff {texts : List String} {cause : FieldPathError} :
    texts.mapM FieldPath.parse = .error cause ↔
      FirstUndotted texts cause.path := by
  simp only [mapM_eq_error_iff, FieldPath.exists_parse_eq_ok_iff,
    FieldPath.parse_eq_error_iff]
  constructor
  · rintro ⟨before, text, after, hsplit, hbefore, hnot, rfl⟩
    exact ⟨before, after, hsplit, hbefore, hnot⟩
  · rintro ⟨before, after, hsplit, hbefore, hnot⟩
    exact ⟨before, cause.path, after, hsplit, hbefore, hnot, rfl⟩

/-! ## Roots -/

namespace RootRule

/-- A rule for just the paths that the texts spell, in the same order. No text
allows the whole root. -/
inductive MadeOf : List String → RootRule → Prop
  | whole : MadeOf [] whole
  | along {texts : List String} {paths : List FieldPath} (hne : texts ≠ [])
      (hpaths : List.Forall₂ FieldPath.Spells texts paths) :
      MadeOf texts (along paths (PathTree.ofPaths paths))

theorem madeOf_iff {texts : List String} {rule : RootRule} :
    MadeOf texts rule ↔ ∃ paths, texts.mapM FieldPath.parse = .ok paths ∧
      ofPaths paths = rule := by
  simp only [mapM_eq_ok_iff, FieldPath.parse_eq_ok_iff]
  constructor
  · intro h
    cases h with
    | whole => exact ⟨[], .nil, rfl⟩
    | along hne hpaths =>
        refine ⟨_, hpaths, if_neg fun hnil => hne ?_⟩
        rwa [List.isEmpty_iff.mp hnil, List.forall₂_nil_right_iff] at hpaths
  · rintro ⟨paths, hpaths, rfl⟩
    cases hpaths with
    | nil => exact .whole
    | cons htext htexts =>
        exact .along (List.cons_ne_nil _ _) (.cons htext htexts)

/-- The rule for the texts below a root. -/
def ofTexts (texts : List String) : Except FieldPathError RootRule :=
  (texts.mapM FieldPath.parse).map ofPaths

theorem ofTexts_eq_ok_iff {texts : List String} {rule : RootRule} :
    ofTexts texts = .ok rule ↔ MadeOf texts rule := by
  rw [ofTexts, map_eq_ok, madeOf_iff]

theorem exists_ofTexts_iff (texts : List String) :
    (∃ rule, ofTexts texts = .ok rule) ↔ AllDotted texts := by
  rw [ofTexts, exists_map_eq_ok_iff, exists_mapM_parse_iff]

theorem ofTexts_eq_error_iff {texts : List String} {cause : FieldPathError} :
    ofTexts texts = .error cause ↔ FirstUndotted texts cause.path := by
  rw [ofTexts, map_eq_error, mapM_parse_eq_error_iff]

end RootRule

namespace AllowList

variable {roots : SortedMap (List String)} {list : AllowList}

/-- A list with just these roots, each with the rule that is made of its
texts. -/
def MadeOf (roots : SortedMap (List String)) (list : AllowList) : Prop :=
  List.Forall₂ (fun d e => e.1 = d.1 ∧ RootRule.MadeOf d.2 e.2) roots.entries
    list.roots.entries

/-- Every root is new when its texts are allowed, so the rules stay as they
are. -/
theorem ofRoots_eq_map_remake (roots : SortedMap (List String)) :
    ofRoots roots = (roots.remake Prod.mk RootRule.ofTexts).map mk := by
  have hstep : (fun (list : AllowList) (d : String × List String) =>
      (list.allowPaths d.1 d.2).mapError fun cause => (d.1, cause)) =
        fun list d =>
          (SortedMap.remakeEntry Prod.mk RootRule.ofTexts d).map fun e =>
            list.widen e.1 e.2 := by
    funext list d
    rw [allowPaths, SortedMap.remakeEntry, RootRule.ofTexts]
    cases d.2.mapM FieldPath.parse <;> rfl
  rw [ofRoots, hstep]
  exact SortedMap.foldlM_eq_map_remake foldl_widen_empty

theorem ofRoots_eq_ok_iff_madeOf :
    ofRoots roots = .ok list ↔ MadeOf roots list := by
  rw [ofRoots_eq_map_remake, map_eq_ok]
  simp only [SortedMap.remake_eq_ok_iff, RootRule.ofTexts_eq_ok_iff]
  exact ⟨fun ⟨_, h, hlist⟩ => hlist ▸ h, fun h => ⟨list.roots, h, rfl⟩⟩

theorem exists_ofRoots_iff (roots : SortedMap (List String)) :
    (∃ list, ofRoots roots = .ok list) ↔ roots.All AllDotted := by
  rw [ofRoots_eq_map_remake, exists_map_eq_ok_iff,
    SortedMap.exists_remake_iff RootRule.exists_ofTexts_iff]

theorem ofRoots_eq_error_iff {cause : String × FieldPathError} :
    ofRoots roots = .error cause ↔
      ∃ texts, roots.FoundAfter AllDotted cause.1 texts ∧
        FirstUndotted texts cause.2.path := by
  rw [ofRoots_eq_map_remake, map_eq_error,
    SortedMap.remake_eq_error_iff RootRule.exists_ofTexts_iff]
  simp only [RootRule.ofTexts_eq_error_iff]
  constructor
  · rintro ⟨_, texts, _, hfound, hfirst, rfl⟩
    exact ⟨texts, hfound, hfirst⟩
  · rintro ⟨texts, hfound, hfirst⟩
    exact ⟨cause.1, texts, cause.2, hfound, hfirst, rfl⟩

end AllowList

/-! ## Canonical paths -/

namespace Resource

/-- Every text in the resource is a dotted path. -/
def Dotted (resource : Resource) : Prop :=
  resource.All fun roots => roots.All AllDotted

/-- The text at fault that loading comes to: the first one of its list that is
no dotted path, below the least root that has any, below the least canonical
path that has any. -/
def FirstFault (resource : Resource) (path root text : String) : Prop :=
  ∃ roots texts, resource.FoundAfter (fun roots => roots.All AllDotted)
    path roots ∧
      roots.FoundAfter AllDotted root texts ∧ FirstUndotted texts text

/-- The steps that allow what the resource says, by canonical path. -/
def steps (resource : Resource) : List (String × List Allowance) :=
  resource.entries.map fun d => (d.1, d.2.entries.map fun e => .paths e.1 e.2)

end Resource

namespace AllowLists

variable {resource : Resource} {lists : AllowLists}

/-- A collection with just the canonical paths of the resource, each with the
list that is made of its roots. -/
def MadeOf (resource : Resource) (lists : AllowLists) : Prop :=
  List.Forall₂ (fun d e => e.1 = d.1 ∧ AllowList.MadeOf d.2 e.2)
    resource.entries lists.entries.entries

/-- The collection to which the built lists are added one after the other. -/
def ofSteps (parts : List (String × List Allowance)) :
    Except FieldPathError AllowLists :=
  parts.foldlM (fun lists part => (AllowList.build part.2).map
    (lists.withEntry part.1)) empty

theorem ofResource_eq_map_remake (resource : Resource) :
    ofResource resource =
      (resource.remake (fun path cause => .invalidPath path cause.1 cause.2)
      AllowList.ofRoots).map mk := by
  have hstep : loadEntry = fun lists d =>
      (SortedMap.remakeEntry
        (fun path cause => .invalidPath path cause.1 cause.2)
        AllowList.ofRoots d).map fun e => lists.withEntry e.1 e.2 := by
    funext lists d
    rw [loadEntry, SortedMap.remakeEntry]
    cases AllowList.ofRoots d.2 <;> rfl
  rw [ofResource_eq_foldlM, hstep]
  exact SortedMap.foldlM_eq_map_remake foldl_withEntry

theorem ofResource_eq_ok_iff :
    ofResource resource = .ok lists ↔ MadeOf resource lists := by
  rw [ofResource_eq_map_remake, map_eq_ok]
  simp only [SortedMap.remake_eq_ok_iff, AllowList.ofRoots_eq_ok_iff_madeOf]
  exact ⟨fun ⟨_, h, hlists⟩ => hlists ▸ h, fun h => ⟨lists.entries, h, rfl⟩⟩

theorem exists_ofResource_iff :
    (∃ lists, ofResource resource = .ok lists) ↔ resource.Dotted := by
  rw [ofResource_eq_map_remake, exists_map_eq_ok_iff,
    SortedMap.exists_remake_iff AllowList.exists_ofRoots_iff, Resource.Dotted]

theorem ofResource_eq_error_iff {e : AllowListsError} :
    ofResource resource = .error e ↔
      ∃ path root text, resource.FirstFault path root text ∧
        e = .invalidPath path root ⟨text⟩ := by
  rw [ofResource_eq_map_remake, map_eq_error,
    SortedMap.remake_eq_error_iff AllowList.exists_ofRoots_iff]
  simp only [AllowList.ofRoots_eq_error_iff]
  constructor
  · rintro ⟨path, roots, ⟨root, cause⟩, hfound, ⟨texts, hroot, hfirst⟩, rfl⟩
    exact ⟨path, root, cause.path, ⟨roots, texts, hfound, hroot, hfirst⟩, rfl⟩
  · rintro ⟨path, root, text, ⟨roots, texts, hfound, hroot, hfirst⟩, rfl⟩
    exact ⟨path, roots, (root, ⟨text⟩), hfound, ⟨texts, hroot, hfirst⟩, rfl⟩

/-- Loading a resource is adding the lists that its steps build. -/
theorem ofSteps_eq_ok_iff :
    ofSteps resource.steps = .ok lists ↔ ofResource resource = .ok lists := by
  rw [ofSteps, Resource.steps, List.foldlM_map, ofResource_eq_foldlM]
  refine foldlM_eq_ok_congr fun known d loaded => ?_
  rw [loadEntry_eq_ok_iff, map_eq_ok]
  exact exists_congr fun list =>
    and_congr_left' AllowList.ofRoots_eq_ok_iff.symm

end AllowLists

/-! ## Texts of resources -/

namespace Resource

/-- The lookups of the resource are those of the last ones among the written
entries that have the key, at both levels. -/
def TakesLast (resource : Resource)
    (entries : List (String × List (String × List String))) : Prop :=
  ∀ path, (resource.get? path).map SortedMap.get? =
    (lookupEntry path entries.reverse).map fun roots root =>
      lookupEntry root roots.reverse

theorem takesLast_ofWritten
    (entries : List (String × List (String × List String))) :
    (ofWritten entries).TakesLast entries := by
  intro path
  rw [ofWritten, SortedMap.get?_ofList, ← List.map_reverse, lookupEntry_map,
    Option.map_map]
  refine congrArg (fun f => Option.map f _) (funext fun roots => funext
    fun root => ?_)
  exact SortedMap.get?_ofList roots root

theorem ofText_written (entries : List (String × List (String × List String))) :
    ofText (written entries).render = .ok (ofWritten entries) := by
  rw [ofText, (reads_written entries).read_render]
  exact congrArg Except.ok (ofShaped_toJson _)

/-- What comes of loading a resource. -/
structure LoadsWhole (resource : Resource)
    (loaded : Except AllowListsError AllowLists) : Prop where
  /-- It goes well if every text is a dotted path. -/
  succeeds : (∃ lists, loaded = .ok lists) ↔ resource.Dotted
  /-- Then the collection stands for the resource, entry by entry. -/
  entries : ∀ lists, loaded = .ok lists ↔ AllowLists.MadeOf resource lists
  /-- It is the one that is built step by step. -/
  built : ∀ lists, loaded = .ok lists ↔
    AllowLists.ofSteps resource.steps = .ok lists
  /-- Otherwise the first fault is the error. -/
  fails : ∀ e, loaded = .error e ↔
    ∃ path root text, resource.FirstFault path root text ∧
      e = .invalidPath path root ⟨text⟩

end Resource

/-- **All or nothing.** In the text of a resource the last of repeated keys
counts, and the resource that is read loads as a whole or fails with its first
fault. -/
theorem loadsWhole_ofText :
    (∀ entries, ∃ resource, Resource.ofText (Resource.written entries).render =
      .ok resource ∧
      resource.TakesLast entries) ∧
    ∀ {text : String} {resource : Resource}, Resource.ofText text =
      .ok resource →
      resource.LoadsWhole (AllowLists.ofText text) := by
  refine ⟨fun entries => ⟨_, Resource.ofText_written entries,
    Resource.takesLast_ofWritten entries⟩, fun {text resource} h => ?_⟩
  have hload : AllowLists.ofText text = AllowLists.ofResource resource := by
    rw [AllowLists.ofText, h]
    rfl
  rw [hload]
  exact {
    succeeds := AllowLists.exists_ofResource_iff
    entries := fun _ => AllowLists.ofResource_eq_ok_iff
    built := fun _ => AllowLists.ofSteps_eq_ok_iff.symm
    fails := fun _ => AllowLists.ofResource_eq_error_iff }

/-- The canonical path that is repeated has a bad text below each of its roots,
and so has the one before it in the text. -/
theorem loadsWhole_ofText_repeated :
    ∃ resource, Resource.ofText
        ("\x7b\"/b\":\x7b\"x\":[\".\"]\x7d,\"/a\":\x7b\"w\":[\".\"]\x7d,"
          ++ "\"/a\":\x7b\"y\":[\"\"],\"x\":[\"c.d\",\"c.\",\".d\"]\x7d\x7d") =
        .ok resource ∧
      resource.FirstFault "/a" "x" "c." := by
  obtain ⟨entries, htext, hload⟩ :
      ∃ entries, (Resource.written entries).render =
        "\x7b\"/b\":\x7b\"x\":[\".\"]\x7d,\"/a\":\x7b\"w\":[\".\"]\x7d,"
          ++ "\"/a\":\x7b\"y\":[\"\"],\"x\":[\"c.d\",\"c.\",\".d\"]\x7d\x7d" ∧
      AllowLists.ofResource (Resource.ofWritten entries) =
        .error (.invalidPath "/a" "x" ⟨"c."⟩) :=
    ⟨[("/b", [("x", ["."])]), ("/a", [("w", ["."])]),
      ("/a", [("y", [""]), ("x", ["c.d", "c.", ".d"])])],
      by decide +kernel, rfl⟩
  rw [← htext]
  have hread := Resource.ofText_written entries
  have herror : AllowLists.ofText (Resource.written entries).render =
      .error (.invalidPath "/a" "x" ⟨"c."⟩) := by
    rw [AllowLists.ofText, hread]
    exact hload
  obtain ⟨path, root, text, hfault, he⟩ :=
    ((loadsWhole_ofText.2 hread).fails _).mp herror
  obtain ⟨rfl, rfl, htext⟩ := AllowListsError.invalidPath.inj he
  exact ⟨_, hread, FieldPathError.mk.inj htext ▸ hfault⟩

end ClusterGate
