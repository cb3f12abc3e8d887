import ClusterGate.SortedMap
import ClusterGate.Redaction.FieldPath

/-!
# The tree of allowed paths

The paths allowed under one response root, merged along their common
beginnings. A node is *terminal* where a path ends: everything below it is
allowed, so nothing inserted there changes what is kept.

A response key leads from a node to at most two children, the one with
that very key and the wildcard child.
-/

namespace ClusterGate

/-- A node with its children in key order. -/
inductive PathTree where
  | node (terminal : Bool) (children : List (String × PathTree))
  deriving Repr

namespace PathTree

instance : Inhabited PathTree := ⟨node false []⟩

/-- The tree of no path. -/
def empty : PathTree := node false []

def terminal : PathTree → Bool
  | node t _ => t

def children : PathTree → List (String × PathTree)
  | node _ cs => cs

/-- The child for exactly this segment. -/
def child? (tree : PathTree) (segment : String) : Option PathTree :=
  lookupEntry segment tree.children

/-- Adds a path, creating the nodes it needs and making its last one
terminal. -/
def insert (tree : PathTree) : List String → PathTree
  | [] => node true tree.children
  | segment :: rest =>
    node tree.terminal
      (insertEntry segment (((tree.child? segment).getD empty).insert rest)
        tree.children)

/-- The tree of a list of paths. -/
def ofPaths (paths : List FieldPath) : PathTree :=
  paths.foldl (fun tree path => tree.insert path.segments) empty

/-- The nodes a response key leads to: its own child and the wildcard
child, whichever exist. -/
def childrenFor (tree : PathTree) (key : String) : List PathTree :=
  (tree.child? key).toList ++ (tree.child? FieldPath.wildcard).toList

/-- The node at the end of a sequence of exact segments. -/
def descend? (tree : PathTree) : List String → Option PathTree
  | [] => some tree
  | segment :: rest => (tree.child? segment).bind (·.descend? rest)

end PathTree

end ClusterGate
