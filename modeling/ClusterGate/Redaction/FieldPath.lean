import ClusterGate.Text.Split

/-!
# Dotted field paths

A path below a response root, such as `shards.index.shards.min`. Its
segments are the non-empty pieces between the dots; the segment `*`
matches every key. Reading (`FieldPath.parse`) refuses a text with an
empty segment, and `FieldPath.render` writes the dots back.
-/

namespace ClusterGate

/-- A dotted path below a response root. -/
structure FieldPath where
  segments : List String
  deriving DecidableEq, Repr

/-- A text that is no field path because a segment is empty. -/
structure FieldPathError where
  path : String
  deriving DecidableEq, Repr

def FieldPathError.message (e : FieldPathError) : String :=
  "field path `" ++ e.path ++ "` is empty or has an empty segment"

namespace FieldPath

/-- The segment that matches every key. -/
def wildcard : String := "*"

/-- Reads a dotted path; every segment must be non-empty. -/
def parse (text : String) : Except FieldPathError FieldPath :=
  let pieces := Text.splitAt '.' text.toList
  if pieces.any List.isEmpty then .error ⟨text⟩
  else .ok ⟨pieces.map String.ofList⟩

/-- The segments with dots between them. -/
def render (path : FieldPath) : String :=
  String.ofList (Text.joinWith '.' (path.segments.map String.toList))

end FieldPath

end ClusterGate
