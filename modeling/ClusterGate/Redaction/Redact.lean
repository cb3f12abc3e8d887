import ClusterGate.Json.Basic
import ClusterGate.Redaction.AllowList

/-!
# Filtering a response

`redact` keeps what an allow-list permits and drops everything else. Roots
that are not listed go, and so do roots that are listed but missing. Below
a root with paths the filter walks the response and the path tree
together, holding every tree node the current position has reached:

- at a terminal node the value is kept as it is;
- an object is filtered field by field and an array object by object, and
  either is dropped if nothing is left of it;
- anything else cannot hold the rest of a path and is dropped.

Only the value of a root itself survives empty, and only there is a value
that is no object kept although a path goes on below it.
-/

namespace ClusterGate

mutual

/-- What is left of a value below the given nodes, none of them
terminal. -/
def filterValue (nodes : List PathTree) : Json → Option Json
  | .obj fields =>
    let kept := filterFields nodes fields
    if kept.isEmpty then none else some (.obj kept)
  | .arr items =>
    let kept := filterItems nodes items
    if kept.isEmpty then none else some (.arr kept)
  | _ => none

/-- The fields left of an object. -/
def filterFields (nodes : List PathTree) :
    List (String × Json) → List (String × Json)
  | [] => []
  | (key, value) :: rest =>
    let reached := nodes.flatMap (·.childrenFor key)
    if reached.any PathTree.terminal then
      (key, value) :: filterFields nodes rest
    else
      match filterValue reached value with
      | some kept => (key, kept) :: filterFields nodes rest
      | none => filterFields nodes rest

/-- The objects left of an array. -/
def filterItems (nodes : List PathTree) : List Json → List Json
  | [] => []
  | .obj fields :: rest =>
    let kept := filterFields nodes fields
    if kept.isEmpty then filterItems nodes rest
    else .obj kept :: filterItems nodes rest
  | _ :: rest => filterItems nodes rest

end

/-- What a rule keeps of the value of its root. -/
def RootRule.keep : RootRule → Json → Json
  | .along _ tree, .obj fields => .obj (filterFields [tree] fields)
  | _, value => value

/-- The part of a response that an allow-list permits. -/
def redact (raw : Json) (list : AllowList) : Json :=
  if list.isEmpty then raw
  else
    .obj (list.roots.entries.filterMap fun e =>
      (raw.field? e.1).map fun value => (e.1, e.2.keep value))

end ClusterGate
