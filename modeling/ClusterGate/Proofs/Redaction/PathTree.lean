import ClusterGate.Redaction.PathTree

/-!
# Paths in a tree

Which segment sequences a tree of allowed paths holds (`Holds`), and how
the operations on trees change that: inserting a path adds exactly that
path, so the tree of a list holds exactly the paths of the list
(`holds_ofPaths`).

Which sequences lead to any node at all (`Leads`) changes in the same way: the
nodes of the tree of a list stand where its paths pass (`leads_ofPaths`).

A filter follows several nodes at once. What it may still find below them
is what one of the nodes holds (`AnyHolds`), and descending along a key
takes away one segment that matches the key (`anyHolds_childrenFor`). Said of
positions, a key leads from each of them to at most two others (`next`).
-/

namespace ClusterGate

/-- Whether a segment of an allowed path matches a key. -/
def FieldPath.Matches (segment key : String) : Prop :=
  segment = key ∨ segment = FieldPath.wildcard

namespace PathTree

/-! ## One tree -/

/-- Whether a sequence of segments leads to a terminal node. -/
def Holds (tree : PathTree) (path : List String) : Prop :=
  ∃ node, tree.descend? path = some node ∧ node.terminal = true

theorem holds_nil {tree : PathTree} : tree.Holds [] ↔ tree.terminal = true := by
  simp [Holds, descend?]

theorem holds_cons {tree : PathTree} {segment : String} {rest : List String} :
    tree.Holds (segment :: rest) ↔
      ∃ child, tree.child? segment = some child ∧ child.Holds rest := by
  simp only [Holds, descend?, Option.bind_eq_some_iff]
  constructor
  · rintro ⟨node, ⟨child, hchild, hnode⟩, hterm⟩
    exact ⟨child, hchild, node, hnode, hterm⟩
  · rintro ⟨child, hchild, node, hnode, hterm⟩
    exact ⟨node, ⟨child, hchild, hnode⟩, hterm⟩

theorem not_holds_empty {path : List String} : ¬ empty.Holds path := by
  cases path with
  | nil => simp [holds_nil, empty, terminal]
  | cons segment rest => simp [holds_cons, empty, child?, children, lookupEntry]

/-- A missing child holds no path. -/
theorem holds_getD_child? {tree : PathTree} {segment : String}
    {path : List String} :
    ((tree.child? segment).getD empty).Holds path ↔
      tree.Holds (segment :: path) := by
  rw [holds_cons]
  cases tree.child? segment with
  | none => simp [not_holds_empty]
  | some child => simp

theorem child?_insert_cons {tree : PathTree} {segment s : String}
    {rest : List String} :
    (tree.insert (segment :: rest)).child? s =
      if segment = s then some (((tree.child? segment).getD empty).insert rest)
      else tree.child? s := by
  simp [insert, child?, children, lookupEntry_insertEntry]

/-- Inserting a path adds that path and no other. -/
theorem holds_insert {path : List String} :
    ∀ {tree : PathTree} {q : List String},
      (tree.insert path).Holds q ↔ q = path ∨ tree.Holds q := by
  induction path with
  | nil =>
      intro tree q
      cases q with
      | nil => simp [holds_nil, insert, terminal]
      | cons s rest => simp [holds_cons, insert, child?, children]
  | cons segment path ih =>
      intro tree q
      cases q with
      | nil => simp [holds_nil, insert, terminal]
      | cons s rest =>
          rw [holds_cons, child?_insert_cons]
          by_cases h : segment = s
          · subst h
            simp [ih, holds_getD_child?]
          · rw [if_neg h, ← holds_cons]
            simp [Ne.symm h]

/-- What inserting one path adds to a property of trees, inserting some paths
adds for each of them. -/
theorem foldl_insert_iff {P : PathTree → Prop} {Q : FieldPath → Prop}
    (h : ∀ tree path, P (tree.insert path.segments) ↔ Q path ∨ P tree)
    {paths : List FieldPath} : ∀ {tree : PathTree},
      P (paths.foldl (fun tree path => tree.insert path.segments) tree) ↔
        P tree ∨ ∃ path ∈ paths, Q path := by
  induction paths with
  | nil => simp
  | cons path rest ih =>
      intro tree
      rw [List.foldl_cons, ih, h]
      simp only [List.mem_cons, exists_eq_or_imp, or_assoc, or_left_comm]

/-- The tree of a list of paths holds the paths of the list. -/
theorem holds_ofPaths {paths : List FieldPath} {q : List String} :
    (ofPaths paths).Holds q ↔ ∃ path ∈ paths, path.segments = q := by
  have hinsert (tree : PathTree) (path : FieldPath) :
      (tree.insert path.segments).Holds q ↔
        path.segments = q ∨ tree.Holds q := by
    rw [holds_insert, eq_comm]
  exact (foldl_insert_iff (P := (Holds · q)) hinsert).trans
    (or_iff_right not_holds_empty)

/-! ## Nodes -/

/-- Whether a sequence of segments leads to a node. -/
def Leads (tree : PathTree) (path : List String) : Prop :=
  ∃ node, tree.descend? path = some node

theorem leads_nil {tree : PathTree} : tree.Leads [] := ⟨tree, rfl⟩

theorem leads_cons {tree : PathTree} {segment : String} {rest : List String} :
    tree.Leads (segment :: rest) ↔
      ∃ child, tree.child? segment = some child ∧ child.Leads rest := by
  simp only [Leads, descend?, Option.bind_eq_some_iff]
  exact exists_comm.trans (exists_congr fun child => exists_and_left)

theorem leads_empty_iff {path : List String} :
    empty.Leads path ↔ path = [] := by
  cases path with
  | nil => exact iff_of_true leads_nil rfl
  | cons segment rest => simp [leads_cons, empty, child?, children, lookupEntry]

/-- Inserting a path makes the nodes along it and no others. -/
theorem leads_insert {path : List String} :
    ∀ {tree : PathTree} {q : List String},
      (tree.insert path).Leads q ↔ q <+: path ∨ tree.Leads q := by
  induction path with
  | nil =>
      intro tree q
      cases q with
      | nil => exact iff_of_true leads_nil (.inr leads_nil)
      | cons s rest => simp [leads_cons, insert, child?, children]
  | cons segment path ih =>
      intro tree q
      cases q with
      | nil => exact iff_of_true leads_nil (.inr leads_nil)
      | cons s rest =>
          rw [leads_cons, child?_insert_cons, List.cons_prefix_cons]
          by_cases h : segment = s
          · subst h
            rw [if_pos rfl, leads_cons]
            cases tree.child? segment with
            | none =>
                -- The new node itself is where no segment is left.
                have hnew : rest <+: path ∨ rest = [] ↔ rest <+: path :=
                  or_iff_left_of_imp fun hnil => hnil ▸ List.nil_prefix
                simp [ih, leads_empty_iff, hnew]
            | some child => simp [ih]
          · rw [if_neg h, ← leads_cons]
            simp [Ne.symm h]

/-- The nodes of the tree of some paths stand where the paths pass. -/
theorem leads_ofPaths {paths : List FieldPath} (h : paths ≠ [])
    {q : List String} :
    (ofPaths paths).Leads q ↔ ∃ path ∈ paths, q <+: path.segments := by
  have hinsert (tree : PathTree) (path : FieldPath) :
      (tree.insert path.segments).Leads q ↔
        q <+: path.segments ∨ tree.Leads q := leads_insert
  refine (foldl_insert_iff (P := (Leads · q)) hinsert).trans ?_
  rw [leads_empty_iff]
  refine or_iff_right_of_imp ?_
  rintro rfl
  obtain ⟨path, hpath⟩ := List.exists_mem_of_ne_nil paths h
  exact ⟨path, hpath, List.nil_prefix⟩

theorem descend?_append {rest : List String} :
    ∀ {path : List String} {tree : PathTree},
      tree.descend? (path ++ rest) = (tree.descend? path).bind (·.descend? rest)
  | [], _ => rfl
  | segment :: path, tree => by
      rw [List.cons_append, descend?, descend?, Option.bind_assoc]
      exact congrArg _ (funext fun _ => descend?_append)

theorem descend?_snoc {tree node : PathTree} {start : List String}
    (h : tree.descend? start = some node) (segment : String) :
    tree.descend? (start ++ [segment]) = node.child? segment := by
  rw [descend?_append, h, Option.bind_some, descend?]
  exact Option.bind_fun_some _

/-! ## Several nodes at once -/

/-- Whether one of the nodes holds a path. -/
def AnyHolds (nodes : List PathTree) (path : List String) : Prop :=
  ∃ node ∈ nodes, node.Holds path

theorem anyHolds_singleton {tree : PathTree} {path : List String} :
    AnyHolds [tree] path ↔ tree.Holds path := by
  simp [AnyHolds]

theorem anyHolds_nil {nodes : List PathTree} :
    AnyHolds nodes [] ↔ nodes.any PathTree.terminal = true := by
  simp [AnyHolds, holds_nil]

theorem anyHolds_ofPaths {paths : List FieldPath} {segments : List String} :
    AnyHolds [ofPaths paths] segments ↔
      ∃ path ∈ paths, path.segments = segments :=
  anyHolds_singleton.trans holds_ofPaths

/-- The tree of paths that are not empty does not end at its root. -/
theorem any_terminal_ofPaths {paths : List FieldPath}
    (h : ∀ path ∈ paths, path.segments ≠ []) :
    [ofPaths paths].any PathTree.terminal = false := by
  rw [Bool.eq_false_iff]
  intro hterm
  obtain ⟨path, hpath, hnil⟩ := anyHolds_ofPaths.mp (anyHolds_nil.mpr hterm)
  exact h path hpath hnil

/-- The nodes that a key leads to hold what follows a matching segment. -/
theorem anyHolds_childrenFor {nodes : List PathTree} {key : String}
    {rest : List String} :
    AnyHolds (nodes.flatMap (·.childrenFor key)) rest ↔
      ∃ segment, FieldPath.Matches segment key ∧
        AnyHolds nodes (segment :: rest) := by
  constructor
  · rintro ⟨child, hchild, hrest⟩
    obtain ⟨node, hnode, hin⟩ := List.mem_flatMap.mp hchild
    rcases List.mem_append.mp hin with hin | hin
    · exact ⟨key, .inl rfl, node, hnode,
        holds_cons.mpr ⟨child, Option.mem_toList.mp hin, hrest⟩⟩
    · exact ⟨FieldPath.wildcard, .inr rfl, node, hnode,
        holds_cons.mpr ⟨child, Option.mem_toList.mp hin, hrest⟩⟩
  · rintro ⟨segment, hmatch, node, hnode, hholds⟩
    obtain ⟨child, hchild, hrest⟩ := holds_cons.mp hholds
    refine ⟨child,
      List.mem_flatMap.mpr ⟨node, hnode, List.mem_append.mpr ?_⟩, hrest⟩
    rcases hmatch with rfl | rfl
    · exact .inl (Option.mem_toList.mpr hchild)
    · exact .inr (Option.mem_toList.mpr hchild)

/-! ## Where a key leads -/

/-- The positions that a key may lead to from a position. -/
def next (key : String) (start : List String) : List (List String) :=
  [start ++ [key], start ++ [FieldPath.wildcard]]

theorem mem_next_iff {start position : List String} {key : String} :
    position ∈ next key start ↔
      ∃ segment, FieldPath.Matches segment key ∧
        start ++ [segment] = position := by
  simp [next, FieldPath.Matches, or_and_right, exists_or, eq_comm]

theorem childrenFor_eq {tree node : PathTree} {start : List String}
    (h : tree.descend? start = some node) (key : String) :
    node.childrenFor key = (next key start).filterMap tree.descend? := by
  rw [childrenFor, ← descend?_snoc h key,
    ← descend?_snoc h FieldPath.wildcard, next]
  simp only [List.filterMap_cons]
  cases tree.descend? (start ++ [key]) <;>
    cases tree.descend? (start ++ [FieldPath.wildcard]) <;> rfl

/-- The nodes that a key leads to from some positions are those at the next
positions, in the same order. -/
theorem flatMap_childrenFor {tree : PathTree} {key : String} :
    ∀ {starts : List (List String)},
      (starts.filterMap tree.descend?).flatMap (·.childrenFor key) =
        (starts.flatMap (next key)).filterMap tree.descend?
  | [] => rfl
  | start :: starts => by
      rw [List.flatMap_cons, List.filterMap_append, ← flatMap_childrenFor]
      cases h : tree.descend? start with
      | none =>
          have hnone (segment : String) :
              tree.descend? (start ++ [segment]) = none := by
            rw [descend?_append, h, Option.bind_none]
          rw [List.filterMap_cons_none h, next,
            List.filterMap_cons_none (hnone key),
            List.filterMap_cons_none (hnone FieldPath.wildcard),
            List.filterMap_nil, List.nil_append]
      | some node =>
          rw [List.filterMap_cons_some h, List.flatMap_cons, childrenFor_eq h]

/-- A key leads from some positions to the nodes one segment further on whose
last segment matches it. -/
theorem mem_flatMap_childrenFor_iff {tree node : PathTree} {key : String}
    {starts : List (List String)} :
    node ∈ (starts.filterMap tree.descend?).flatMap (·.childrenFor key) ↔
      ∃ start ∈ starts, ∃ segment, FieldPath.Matches segment key ∧
        tree.descend? (start ++ [segment]) = some node := by
  rw [flatMap_childrenFor, List.mem_filterMap]
  simp only [List.mem_flatMap, mem_next_iff]
  constructor
  · rintro ⟨_, ⟨start, hstart, segment, hmatch, rfl⟩, hnode⟩
    exact ⟨start, hstart, segment, hmatch, hnode⟩
  · rintro ⟨start, hstart, segment, hmatch, hnode⟩
    exact ⟨_, ⟨start, hstart, segment, hmatch, rfl⟩, hnode⟩

end PathTree

end ClusterGate
