import ClusterGate.Proofs.Json.Printed
import ClusterGate.Proofs.Redaction.Allowance
import ClusterGate.Proofs.Redaction.FieldPath
import ClusterGate.Proofs.SortedMap
import ClusterGate.Redaction.Bundled

/-!
# Loading what was written

Allow-lists are written as a document: an object from canonical paths to
objects from roots to the texts of the dotted paths below them. Loading what is
written gives the same allow-lists again (`ofText_document`), however they came
about: by loading resources and by adding lists that were built.

A built list shows enough of itself to be built again (`build_restated`). Its
rules are those that their paths make, and each path is read from its text; the
rest is that a map is made again from its entries in order.
-/

namespace ClusterGate

open Allowance

/-! ## Rules and lists -/

/-- A rule that can be made again from the texts of its paths. -/
structure RootRule.Shown (rule : RootRule) : Prop where
  made : rule = ofPaths rule.paths
  read : ∀ path ∈ rule.paths, FieldPath.parse path.render = .ok path

theorem RootRule.AsksFor.shown {steps : List Allowance} {root : String}
    {rule : RootRule} (h : AsksFor steps root (some rule)) : rule.Shown := by
  match rule, h with
  | whole, _ => exact ⟨rfl, List.forall_mem_nil _⟩
  | along paths tree, ⟨_, hne, hpaths, htree⟩ =>
      refine ⟨?_, fun path hpath => ?_⟩
      · rw [ofPaths, RootRule.paths, if_neg (by simpa using hne), htree]
      · obtain ⟨_, -, -, text, -, htext⟩ := (hpaths path).mp hpath
        exact FieldPath.parse_render_of_parse htext

namespace AllowList

variable {steps : List Allowance} {list : AllowList}

theorem shown_of_build (h : build steps = .ok list) :
    ∀ e ∈ list.roots.entries, e.2.Shown := by
  intro e he
  have hrule : list.roots.get? e.1 = some e.2 :=
    (lookupEntry_eq_some_iff list.roots.ascending).mpr he
  exact (hrule ▸ asksFor_build h e.1).shown

/-- The steps that allow what a list shows. -/
def restated (list : AllowList) : List Allowance :=
  list.listing.map fun d => .paths d.1 (d.2.map FieldPath.render)

theorem extend_of_shown {rule : RootRule} (h : rule.Shown) (list : AllowList)
    (root : String) :
    (Allowance.paths root (rule.paths.map FieldPath.render)).extend list =
      .ok (list.widen root rule) :=
  bind_eq_ok.mpr ⟨rule.paths, mapM_map_eq_ok h.read, by rw [← h.made]; rfl⟩

/-- Allowing one new root after the other adds an entry for each. -/
theorem foldl_widen : ∀ {entries : List (String × RootRule)} {list : AllowList},
    KeysAscend entries → (∀ e ∈ entries, list.roots.get? e.1 = none) →
      entries.foldl (fun list e => list.widen e.1 e.2) list =
        ⟨entries.foldl (fun m e => m.insert e.1 e.2) list.roots⟩
  | [], _, _, _ => rfl
  | e :: rest, list, hasc, hnew => by
      obtain ⟨he, hrest⟩ := List.forall_mem_cons.mp hnew
      have hwiden : list.widen e.1 e.2 = ⟨list.roots.insert e.1 e.2⟩ := by
        rw [widen, he]
      have hlt : ∀ d ∈ rest, e.1 < d.1 :=
        fun _ => List.rel_of_pairwise_cons hasc
      rw [List.foldl_cons, List.foldl_cons, hwiden]
      refine foldl_widen hasc.of_cons fun d hd => ?_
      have hne : e.1 ≠ d.1 := fun hsame => String.lt_irrefl _ (hsame ▸ hlt d hd)
      rw [SortedMap.get?_insert, if_neg hne, hrest d hd]

theorem foldl_widen_empty (roots : SortedMap RootRule) :
    roots.entries.foldl (fun list e => list.widen e.1 e.2) empty = ⟨roots⟩ := by
  rw [foldl_widen roots.ascending fun _ _ => rfl]
  exact congrArg mk (SortedMap.ofList_entries roots)

/-- **Built again.** A built list is built by the steps that allow what it
shows. -/
theorem build_restated (h : build steps = .ok list) :
    build list.restated = .ok list := by
  have hstep : ∀ (known : AllowList), ∀ e ∈ list.roots.entries,
      (Allowance.paths e.1 (e.2.paths.map FieldPath.render)).extend known =
        .ok (known.widen e.1 e.2) :=
    fun known e he => extend_of_shown (shown_of_build h e he) known e.1
  rw [build, restated, listing, List.map_map, List.foldlM_map]
  exact (foldlM_eq_ok_foldl hstep).trans
    (congrArg _ (foldl_widen_empty list.roots))

/-- Loading the roots of a list is building it with a step for each. -/
theorem ofRoots_eq_ok_iff {roots : SortedMap (List String)} :
    ofRoots roots = .ok list ↔
      build (roots.entries.map fun d => .paths d.1 d.2) = .ok list := by
  rw [ofRoots, foldlM_mapError_eq_ok_iff, build, List.foldlM_map]
  rfl

/-- The texts of the paths below each root. -/
def texts (list : AllowList) : SortedMap (List String) :=
  .ofList (list.listing.map fun d => (d.1, d.2.map FieldPath.render))

theorem entries_texts (list : AllowList) :
    list.texts.entries = list.listing.map fun d =>
      (d.1, d.2.map FieldPath.render) := by
  have hlisting : KeysAscend list.listing := list.roots.ascending.map_values
  rw [texts, SortedMap.ofList_eq_mk (hlisting.map_values)]

theorem ofRoots_texts (h : build steps = .ok list) :
    ofRoots list.texts = .ok list := by
  rw [ofRoots_eq_ok_iff, entries_texts, List.map_map]
  exact build_restated h

end AllowList

/-! ## Documents -/

namespace Resource

theorem textsOf_map : ∀ texts : List String, textsOf (texts.map .str) = texts
  | [] => rfl
  | text :: rest => congrArg (text :: ·) (textsOf_map rest)

theorem rootsOf_map : ∀ roots : List (String × List String),
    rootsOf (roots.map fun d => (d.1, .arr (d.2.map .str))) = roots
  | [] => rfl
  | d :: rest => by
      rw [List.map_cons, rootsOf, textsOf_map, rootsOf_map rest]

theorem pathsOf_map : ∀ entries : List (String × SortedMap (List String)),
    pathsOf (entries.map fun e =>
      (e.1, .obj (e.2.entries.map fun d => (d.1, .arr (d.2.map .str))))) =
        entries
  | [] => rfl
  | e :: rest => by
      rw [List.map_cons, pathsOf, rootsOf_map, SortedMap.ofList_entries,
        pathsOf_map rest]

/-- A resource is what its document describes. -/
theorem ofShaped_toJson (resource : Resource) :
    ofShaped resource.toJson = resource := by
  rw [toJson, ofShaped, pathsOf_map, SortedMap.ofList_entries]

/-- A root with the texts below it. -/
def rootEntry (d : String × List String) : String × Json :=
  (d.1, .arr (d.2.map .str))

/-- What is written for canonical paths with their roots, where both may be
repeated and in any order. -/
def written (entries : List (String × List (String × List String))) : Json :=
  .obj (entries.map fun e => (e.1, .obj (e.2.map rootEntry)))

/-- The resource that is written so; of equal keys the last one counts. -/
def ofWritten (entries : List (String × List (String × List String))) :
    Resource :=
  .ofList (entries.map fun e => (e.1, .ofList e.2))

theorem toJson_ofWritten
    (entries : List (String × List (String × List String))) :
    (ofWritten entries).toJson =
      .ofFields (entries.map
        fun e => (e.1, .ofFields (e.2.map rootEntry))) := by
  have hroots (roots : List (String × List String)) :
      Json.ofFields (roots.map rootEntry) =
        .obj ((SortedMap.ofList roots).entries.map rootEntry) :=
    Json.ofFields_map (fun texts : List String => .arr (texts.map .str)) roots
  rw [ofWritten, toJson, SortedMap.ofList_map, List.map_map]
  simp only [hroots]
  exact (Json.ofFields_map (fun roots : List (String × List String) =>
    .obj ((SortedMap.ofList roots).entries.map rootEntry)) entries).symm

theorem reads_written (entries : List (String × List (String × List String))) :
    shape.Reads (written entries) (ofWritten entries).toJson := by
  have hroots (roots : List (String × List String)) :
      (Shape.map (.list .text)).Reads
        (.obj (roots.map rootEntry)) (.ofFields (roots.map rootEntry)) := by
    refine .map rfl (List.forall₂_same.mpr (List.forall_mem_map.mpr
      fun d _ => ⟨rfl, ?_⟩))
    exact .list (List.forall₂_same.mpr (List.forall_mem_map.mpr
      fun text _ => Shape.reads_text text))
  rw [toJson_ofWritten]
  refine .map rfl ?_
  rw [List.forall₂_map_left_iff, List.forall₂_map_right_iff, List.forall₂_same]
  exact fun e _ => ⟨rfl, hroots e.2⟩

/-- A resource is written as the document that is read again. -/
theorem reads_toJson (resource : Resource) :
    shape.Reads resource.toJson resource.toJson := by
  have hwritten : ofWritten (resource.entries.map fun e => (e.1, e.2.entries)) =
      resource := by
    rw [ofWritten, List.map_map]
    simp [Function.comp_def, SortedMap.ofList_entries]
  have hread := reads_written (resource.entries.map fun e => (e.1, e.2.entries))
  rw [hwritten, written, List.map_map] at hread
  exact hread

end Resource

namespace AllowLists

variable {lists : AllowLists} {path : String} {list : AllowList}

/-- The collection as a document: each canonical path with its roots, and each
root with the texts of the paths below it. -/
def document (lists : AllowLists) : Json :=
  .obj (lists.entries.entries.map fun e =>
    (e.1,
      .obj (e.2.listing.map
        fun d => (d.1, .arr (d.2.map fun path => .str path.render)))))

theorem entries_toResource (lists : AllowLists) :
    lists.toResource.entries = lists.entries.entries.map fun e =>
      (e.1, e.2.texts) := by
  have hasc :
      KeysAscend (lists.entries.entries.map fun e => (e.1, e.2.texts)) :=
    lists.entries.ascending.map_values
  exact congrArg SortedMap.entries (SortedMap.ofList_eq_mk hasc)

theorem toJson_toResource (lists : AllowLists) :
    lists.toResource.toJson = lists.document := by
  rw [Resource.toJson, entries_toResource, List.map_map, document]
  refine congrArg Json.obj (List.map_congr_left fun e _ => ?_)
  simp [AllowList.entries_texts, Function.comp_def]

/-! ## Collections -/

/-- Every list was built from the empty one. -/
def AllBuilt (lists : AllowLists) : Prop :=
  ∀ e ∈ lists.entries.entries, ∃ steps, AllowList.build steps = .ok e.2

theorem AllBuilt.withEntry {steps : List Allowance} (h : lists.AllBuilt)
    (hlist : AllowList.build steps = .ok list) :
    (lists.withEntry path list).AllBuilt := by
  intro e he
  rcases mem_insertEntry he with rfl | he
  · exact ⟨steps, hlist⟩
  · exact h e he

/-- Loads one more canonical path with its roots. -/
def loadEntry (lists : AllowLists) (e : String × SortedMap (List String)) :
    Except AllowListsError AllowLists :=
  ((AllowList.ofRoots e.2).mapError fun cause =>
    .invalidPath e.1 cause.1 cause.2).map
      (lists.withEntry e.1)

theorem ofResource_eq_foldlM (resource : Resource) :
    ofResource resource = resource.entries.foldlM loadEntry empty := by
  unfold ofResource
  congr
  funext lists e
  unfold loadEntry
  cases AllowList.ofRoots e.2 <;> rfl

theorem loadEntry_eq_ok_iff {e : String × SortedMap (List String)}
    {loaded : AllowLists} :
    loadEntry lists e = .ok loaded ↔
      ∃ list, AllowList.ofRoots e.2 = .ok list ∧
        lists.withEntry e.1 list = loaded := by
  unfold loadEntry
  cases AllowList.ofRoots e.2 with
  | error cause => exact ⟨nofun, nofun⟩
  | ok list =>
      exact ⟨fun h => ⟨list, rfl, Except.ok.inj h⟩, fun ⟨_, hlist, h⟩ => by
        obtain rfl := Except.ok.inj hlist
        exact congrArg Except.ok h⟩

theorem allBuilt_of_ofResource {resource : Resource}
    (h : ofResource resource = .ok lists) :
    lists.AllBuilt := by
  have hstep : ∀ (_ : List (String × SortedMap (List String))) known e loaded,
      known.AllBuilt → loadEntry known e = .ok loaded → loaded.AllBuilt := by
    intro _ known e loaded hknown hloaded
    obtain ⟨list, hlist, rfl⟩ := loadEntry_eq_ok_iff.mp hloaded
    exact hknown.withEntry (AllowList.ofRoots_eq_ok_iff.mp hlist)
  have hempty : empty.AllBuilt := List.forall_mem_nil _
  rw [ofResource_eq_foldlM] at h
  exact foldlM_invariant hstep [] hempty h

/-- Collections that come about by loading the text of a resource and by adding
lists that were built. -/
inductive Reachable : AllowLists → Prop
  | empty : Reachable empty
  | load {text : String} {lists : AllowLists} (h : ofText text = .ok lists) :
      Reachable lists
  | withEntry {lists : AllowLists} {steps : List Allowance} {list : AllowList}
      (path : String) (hlists : Reachable lists)
      (hlist : AllowList.build steps = .ok list) :
      Reachable (lists.withEntry path list)

theorem ofText_eq_ok {text : String} (h : ofText text = .ok lists) :
    ∃ resource, Resource.ofText text = .ok resource ∧
      ofResource resource = .ok lists := by
  obtain ⟨resource, hread, hresource⟩ := bind_eq_ok.mp h
  exact ⟨resource, mapError_eq_ok.mp hread, hresource⟩

theorem Reachable.allBuilt (h : lists.Reachable) : lists.AllBuilt := by
  induction h with
  | empty => exact List.forall_mem_nil _
  | load h =>
      obtain ⟨resource, -, hresource⟩ := ofText_eq_ok h
      exact allBuilt_of_ofResource hresource
  | withEntry path _ hlist ih => exact ih.withEntry hlist

theorem foldl_withEntry (entries : SortedMap AllowList) :
    entries.entries.foldl (fun lists e => lists.withEntry e.1 e.2) empty =
      ⟨entries⟩ :=
  calc entries.entries.foldl (fun lists e => lists.withEntry e.1 e.2) empty
      = ⟨.ofList entries.entries⟩ := List.foldl_hom mk fun _ _ => rfl
    _ = ⟨entries⟩ := by rw [SortedMap.ofList_entries]

theorem ofResource_toResource (h : lists.AllBuilt) :
    ofResource lists.toResource = .ok lists := by
  have hstep : ∀ known : AllowLists, ∀ e ∈ lists.entries.entries,
      known.loadEntry (e.1, e.2.texts) = .ok (known.withEntry e.1 e.2) := by
    intro known e he
    obtain ⟨steps, hsteps⟩ := h e he
    exact loadEntry_eq_ok_iff.mpr ⟨e.2, AllowList.ofRoots_texts hsteps, rfl⟩
  rw [ofResource_eq_foldlM, entries_toResource, List.foldlM_map]
  exact (foldlM_eq_ok_foldl hstep).trans
    (congrArg _ (foldl_withEntry lists.entries))

/-- A collection is written as a document that the shape of resources reads. -/
theorem reads_document (lists : AllowLists) :
    Resource.shape.Reads lists.document lists.document :=
  toJson_toResource lists ▸ lists.toResource.reads_toJson

theorem ofText_of_read {lists : AllowLists} {text : String} (h : lists.AllBuilt)
    (hread : Resource.shape.read text = .ok lists.document) :
    ofText text = .ok lists := by
  have hresource : Resource.ofText text = .ok lists.toResource := by
    rw [Resource.ofText, hread, ← toJson_toResource]
    exact congrArg Except.ok (Resource.ofShaped_toJson _)
  rw [ofText, hresource]
  exact ofResource_toResource h

end AllowLists

/-- **Loading undoes writing.** What is written for a collection loads as the
very collection, and so does every other text that reads as the same
document. -/
theorem ofText_document {lists : AllowLists} (h : lists.Reachable) :
    AllowLists.ofText lists.document.render = .ok lists ∧
      ∀ text, Resource.shape.read text = .ok lists.document →
        AllowLists.ofText text = .ok lists :=
  ⟨AllowLists.ofText_of_read h.allBuilt lists.reads_document.read_render,
    fun _ => AllowLists.ofText_of_read h.allBuilt⟩

/-- A list with a whole root and a root whose paths came in two steps, one of
them twice. -/
theorem ofText_document_repeated :
    ∃ list, AllowList.build [.paths "a" ["b", "b"], .root "c",
      .paths "a" ["d.*", "b"]] =
        .ok list ∧
      AllowLists.ofText
          "\x7b\"/_x\":\x7b\"a\":[\"b\",\"b\",\"d.*\"],\"c\":[]\x7d\x7d" =
        .ok (AllowLists.empty.withEntry "/_x" list) := by
  have hbuilt : ∃ list,
      AllowList.build [.paths "a" ["b", "b"], .root "c",
        .paths "a" ["d.*", "b"]] = .ok list ∧
        (AllowLists.empty.withEntry "/_x" list).document.render =
          "\x7b\"/_x\":\x7b\"a\":[\"b\",\"b\",\"d.*\"],\"c\":[]\x7d\x7d" :=
    ⟨_, rfl, by decide +kernel⟩
  obtain ⟨list, hlist, htext⟩ := hbuilt
  exact ⟨list, hlist, htext ▸
    (ofText_document (.withEntry "/_x" .empty hlist)).1⟩

end ClusterGate
