import ClusterGate.Proofs.Redaction.Allowance

/-!
# Trees that follow their paths

A rule that allows a root along some paths has the paths twice: as a list, which
is what the allow-list shows, and as a tree, which is what filters. Both say the
same (`PathTree.Mirrors`), in whatever order roots and paths were allowed
(`mirrors_of_build`), because a rule is only ever made from its list.
-/

namespace ClusterGate

open Allowance

namespace PathTree

/-- A tree says what a list of paths says. -/
structure Mirrors (tree : PathTree) (paths : List FieldPath) : Prop where
  /-- There is a path, since no paths allow the whole root. -/
  listed : paths ≠ []
  /-- A node stands where a path passes. -/
  leads : ∀ s, (∃ node, tree.descend? s = some node) ↔
    ∃ path ∈ paths, s <+: path.segments
  /-- A node is terminal where a path ends. -/
  terminal : ∀ s node, tree.descend? s = some node →
    (node.terminal = true ↔ ∃ path ∈ paths, path.segments = s)
  /-- A key leads from some positions to those whose last segment it matches. -/
  gathered : ∀ (starts : List (List String)) (key : String) (node : PathTree),
    node ∈ (starts.filterMap tree.descend?).flatMap (·.childrenFor key) ↔
      ∃ start ∈ starts, ∃ segment, (segment = key ∨ segment = "*") ∧
        tree.descend? (start ++ [segment]) = some node
  /-- Position by position, these are the one with the key and the one with the
  wildcard, as far as they are there. -/
  inOrder : ∀ (starts : List (List String)) (key : String),
    (starts.filterMap tree.descend?).flatMap (·.childrenFor key) =
      (starts.flatMap fun start => [start ++ [key], start ++ ["*"]]).filterMap
        tree.descend?

theorem mirrors_ofPaths {paths : List FieldPath} (h : paths ≠ []) :
    (ofPaths paths).Mirrors paths where
  listed := h
  leads _ := leads_ofPaths h
  terminal s node hnode := by
    rw [← holds_ofPaths, Holds, hnode]
    simp
  gathered _ _ _ := mem_flatMap_childrenFor_iff
  inOrder _ _ := flatMap_childrenFor

end PathTree

theorem RootRule.AsksFor.mirrors {steps : List Allowance} {root : String}
    {paths : List FieldPath} {tree : PathTree}
    (h : AsksFor steps root (some (along paths tree))) :
    tree.Mirrors paths := by
  obtain ⟨-, hne, -, rfl⟩ := h
  exact PathTree.mirrors_ofPaths hne

/-- **Trees follow their paths.** Whatever steps built an allow-list, the tree
of each of its rules says what the paths of the rule say. -/
theorem mirrors_of_build {steps : List Allowance} {list : AllowList}
    {root : String} {paths : List FieldPath} {tree : PathTree}
    (h : AllowList.build steps = .ok list)
    (hrule : list.roots.get? root = some (.along paths tree)) :
    tree.Mirrors paths :=
  RootRule.AsksFor.mirrors (hrule ▸ AllowList.asksFor_build h root)

/-- Paths that begin each other, a wildcard beside a key, and one path twice. -/
def overlappingSteps : List Allowance :=
  [.paths "nodes" ["*.jvm", "node-1"], .root "status",
    .paths "nodes" ["node-1.os", "*.jvm"]]

theorem mirrors_overlapping :
    ∃ list paths tree, AllowList.build overlappingSteps = .ok list ∧
      list.roots.get? "nodes" = some (.along paths tree) ∧
      paths = [⟨["*", "jvm"]⟩, ⟨["node-1"]⟩, ⟨["node-1", "os"]⟩] ∧
      tree.Mirrors paths := by
  obtain ⟨list, paths, tree, hbuild, hrule, hpaths⟩ :
      ∃ list paths tree, AllowList.build overlappingSteps = .ok list ∧
        list.roots.get? "nodes" = some (.along paths tree) ∧
        paths = [⟨["*", "jvm"]⟩, ⟨["node-1"]⟩, ⟨["node-1", "os"]⟩] :=
    ⟨_, _, _, rfl, rfl, rfl⟩
  exact ⟨list, paths, tree, hbuild, hrule, hpaths,
    mirrors_of_build hbuild hrule⟩

end ClusterGate
