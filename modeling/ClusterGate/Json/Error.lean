import ClusterGate.Json.Printer
import ClusterGate.Text.Quoted

/-!
# Why a document is refused

A text may fail to be a document at all, or be one of another shape than
the wanted one. A message on the shape says what was found and what was
expected.
-/

namespace ClusterGate

/-- A value as messages name it. -/
inductive Found where
  | null
  | bool (value : Bool)
  | num (value : Number)
  | str (value : String)
  | list
  | object
  deriving DecidableEq, Repr

def Found.text : Found → String
  | null => "null"
  | bool value => "boolean `" ++ (if value then "true" else "false") ++ "`"
  | num (.int value) => "integer `" ++ Number.render (.int value) ++ "`"
  | num (.real value) =>
    "floating point `" ++ Number.render (.real value) ++ "`"
  | str value => "string " ++ Text.quote value
  | list => "sequence"
  | object => "map"

/-- How messages name a value. -/
def Json.found : Json → Found
  | .null => .null
  | .bool value => .bool value
  | .num value => .num value
  | .str value => .str value
  | .arr _ => .list
  | .obj _ => .object

/-- Why a document does not have the wanted shape. -/
inductive ShapeError where
  | wrongType (found : Found) (expected : String)
  | wrongValue (found : Found) (expected : String)
  | wrongLength (length : Nat) (expected : String)
  | missingField (name : String)
  | repeatedField (name : String)
  | unknownVariant (name : String) (known : List String)
  deriving DecidableEq, Repr

def ShapeError.message : ShapeError → String
  | wrongType found expected =>
    "invalid type: " ++ found.text ++ ", expected " ++ expected
  | wrongValue found expected =>
    "invalid value: " ++ found.text ++ ", expected " ++ expected
  | wrongLength length expected =>
    "invalid length " ++ toString length ++ ", expected " ++ expected
  | missingField name => "missing field `" ++ name ++ "`"
  | repeatedField name => "duplicate field `" ++ name ++ "`"
  | unknownVariant name known =>
    "unknown variant `" ++ name ++ "`, expected one of " ++
      String.intercalate ", " (known.map fun k => "`" ++ k ++ "`")

/-- Why a text is no document of the wanted shape. -/
inductive ReadError where
  /-- No document goes on like this. -/
  | malformed
  /-- The text ends inside a document. -/
  | truncated
  /-- What has been read so far is a document of another shape. -/
  | mismatch (cause : ShapeError)
  deriving DecidableEq, Repr

end ClusterGate
