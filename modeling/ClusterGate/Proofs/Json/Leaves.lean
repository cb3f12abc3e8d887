import ClusterGate.Json.Basic

/-!
# Leaves of a document

A document as the list of its leaves in document order, each with its
position: the keys and indices on the way down to it. A leaf is a scalar
or an empty container.
-/

namespace ClusterGate

namespace Json

/-! ## Positions -/

/-- A step from a value to one of its parts. -/
inductive Step where
  | key (key : String)
  | item (index : Nat)
  deriving DecidableEq, Repr

/-- The steps from a value down to a part of it. -/
abbrev Position := List Step

/-- The part of a value that one step leads to. -/
def part? : Json → Step → Option Json
  | .obj fields, .key key => lookupEntry key fields
  | .arr items, .item index => items[index]?
  | _, _ => none

/-- The part of a value at a position. -/
def at? (value : Json) : Position → Option Json
  | [] => some value
  | step :: rest => (value.part? step).bind (·.at? rest)

/-- What stands at position `p` of a part stands one step further down in
the whole. -/
def under (step : Step) (e : Position × Json) : Position × Json :=
  (step :: e.1, e.2)

/-! ## Leaves -/

mutual

/-- The scalars and empty containers of a value with their positions, in
document order. -/
def leaves : Json → List (Position × Json)
  | .obj fields =>
      if fields.isEmpty then [([], .obj [])] else leavesOfFields fields
  | .arr items =>
      if items.isEmpty then [([], .arr [])] else leavesOfItems 0 items
  | value => [([], value)]

def leavesOfFields : List (String × Json) → List (Position × Json)
  | [] => []
  | (key, value) :: rest =>
      (leaves value).map (under (.key key)) ++ leavesOfFields rest

/-- The leaves of items of which the first has index `i`. -/
def leavesOfItems (i : Nat) : List Json → List (Position × Json)
  | [] => []
  | value :: rest =>
      (leaves value).map (under (.item i)) ++ leavesOfItems (i + 1) rest

end

end Json

end ClusterGate
