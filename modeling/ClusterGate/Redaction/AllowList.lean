import ClusterGate.Redaction.PathTree

/-!
# Allow-lists

Which fields of one API's response may reach the caller, by response
root. A root is allowed whole, or only along some dotted paths below it.
An allow-list without roots lets the whole response through.

Allowing a root again only widens it: paths are added to those already
there, and a root that has once been allowed whole stays whole.
-/

namespace ClusterGate

/-- What is allowed under one response root. -/
inductive RootRule where
  /-- Keep the whole value. -/
  | whole
  /-- Keep what these paths reach; `tree` is the tree of the paths. -/
  | along (paths : List FieldPath) (tree : PathTree)
  deriving Repr

namespace RootRule

/-- The rule for a list of paths; no path allows the whole root. -/
def ofPaths (paths : List FieldPath) : RootRule :=
  if paths.isEmpty then whole else along paths (PathTree.ofPaths paths)

/-- The paths of a rule; none for a whole root. -/
def paths : RootRule → List FieldPath
  | whole => []
  | along paths _ => paths

/-- Adds the paths that are not there yet, in order. -/
def addPaths (known : List FieldPath) (more : List FieldPath) :
    List FieldPath :=
  more.foldl (fun acc path => if path ∈ acc then acc else acc ++ [path]) known

/-- Both rules at once. -/
def merge : RootRule → RootRule → RootRule
  | along known _, along more _ => ofPaths (addPaths known more)
  | _, _ => whole

end RootRule

/-- The response fields one API may return, by response root. -/
structure AllowList where
  roots : SortedMap RootRule
  deriving Repr

namespace AllowList

def empty : AllowList := ⟨∅⟩

instance : Inhabited AllowList := ⟨empty⟩

def isEmpty (list : AllowList) : Bool := list.roots.isEmpty

/-- The number of roots. -/
def size (list : AllowList) : Nat := list.roots.size

/-- Adds a rule to what is already allowed under `root`. -/
def widen (list : AllowList) (root : String) (rule : RootRule) : AllowList :=
  match list.roots.get? root with
  | none => ⟨list.roots.insert root rule⟩
  | some known => ⟨list.roots.insert root (known.merge rule)⟩

/-- Allows the whole value under `root`. -/
def allowRoot (list : AllowList) (root : String) : AllowList :=
  list.widen root .whole

/-- Allows the given dotted paths below `root`, or the whole root if there
are none. The first text that is no path is the error. -/
def allowPaths (list : AllowList) (root : String) (texts : List String) :
    Except FieldPathError AllowList := do
  let paths ← texts.mapM FieldPath.parse
  return list.widen root (.ofPaths paths)

/-- Each root with its paths, in root order; a whole root has none. -/
def listing (list : AllowList) : List (String × List FieldPath) :=
  list.roots.entries.map fun e => (e.1, e.2.paths)

end AllowList

end ClusterGate
