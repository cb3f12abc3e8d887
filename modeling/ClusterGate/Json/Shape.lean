import ClusterGate.Json.Error

/-!
# Shapes of documents

What a document has to look like before anything is made of it. A record
is written as an object, in which unknown keys are ignored and every field
may be missing, or as a list of its first fields in order.

`Shape.check` tells whether a document has a shape; of several faults it
reports the one that comes first when lists are visited in order and
objects by key.
-/

namespace ClusterGate

/-- A shape that a document is to have. -/
inductive Shape where
  /-- Every document. -/
  | any
  /-- Every document, of which nothing is kept. -/
  | skipped
  /-- A value other than a list or object. Of those `accepts` is only told
  that they are there. -/
  | scalar (accepts : Json → Except ShapeError Unit)
  | list (item : Shape)
  | map (value : Shape)
  /-- The fields in order, under the name that messages use. -/
  | record (name : String) (fields : List (String × Shape))

namespace Shape

/-! ## Scalars -/

/-- Accepts texts. -/
def acceptText : Json → Except ShapeError Unit
  | .str _ => .ok ()
  | value => .error (.wrongType value.found "a string")

/-- Accepts signed integers of a number of bits. -/
def acceptInteger (bits : Nat) : Json → Except ShapeError Unit
  | .num (.int n) =>
    if -(Int.pow 2 (bits - 1)) ≤ n ∧ n < Int.pow 2 (bits - 1) then .ok ()
    else .error (.wrongValue (.num (.int n)) ("i" ++ toString bits))
  | value => .error (.wrongType value.found ("i" ++ toString bits))

def text : Shape := scalar acceptText

/-! ## What a shape says about lists and objects -/

/-- The shapes of list items: those of the first ones, and the one that all
others share, if there may be others. -/
structure Items where
  leading : List Shape
  others : Option Shape

/-- The shape of the next item, and what is said about those after it. -/
def Items.next? (items : Items) : Option (Shape × Items) :=
  match items.leading with
  | shape :: rest => some (shape, { items with leading := rest })
  | [] => items.others.map fun shape => (shape, items)

/-- The shapes of the items if this is to be a list. -/
def items : Shape → Except ShapeError Items
  | any => .ok ⟨[], some any⟩
  | skipped => .ok ⟨[], some skipped⟩
  | scalar accepts => (accepts (.arr [])).map fun _ => ⟨[], some skipped⟩
  | list item => .ok ⟨[], some item⟩
  | map _ => .error (.wrongType .list "a map")
  | record _ fields => .ok ⟨fields.map (·.2), none⟩

/-- The shapes of the fields of an object: known ones, and the one that all
others share. -/
structure Fields where
  known : List (String × Shape)
  others : Shape

def Fields.shapeOf (fields : Fields) (key : String) : Shape :=
  (lookupEntry key fields.known).getD fields.others

def Fields.knows (fields : Fields) (key : String) : Bool :=
  (lookupEntry key fields.known).isSome

/-- The shapes of the fields if this is to be an object. -/
def fields : Shape → Except ShapeError Fields
  | any => .ok ⟨[], any⟩
  | skipped => .ok ⟨[], skipped⟩
  | scalar accepts => (accepts (.obj [])).map fun _ => ⟨[], skipped⟩
  | list _ => .error (.wrongType .object "a sequence")
  | map value => .ok ⟨[], value⟩
  | record _ fields => .ok ⟨fields, skipped⟩

/-- Whether a value that is neither list nor object fits. -/
def acceptsScalar : Shape → Json → Except ShapeError Unit
  | any, _ => .ok ()
  | skipped, _ => .ok ()
  | scalar accepts, value => accepts value
  | list _, value => .error (.wrongType value.found "a sequence")
  | map _, value => .error (.wrongType value.found "a map")
  | record name _, value => .error (.wrongType value.found ("struct " ++ name))

/-! ## Checking a document -/

mutual

/-- Whether a document has a shape. -/
def check (shape : Shape) : Json → Except ShapeError Unit
  | .arr values => do
    let items ← shape.items
    checkItems values.length items values
  | .obj entries => do
    let fields ← shape.fields
    checkFields fields entries
  | value => shape.acceptsScalar value

/-- Whether the items of a list fit, which is `length` long in all. -/
def checkItems (length : Nat) (items : Items) :
    List Json → Except ShapeError Unit
  | [] => .ok ()
  | value :: rest =>
    match items.next? with
    | none => .error (.wrongLength length "fewer elements in array")
    | some (shape, items) => do
      shape.check value
      checkItems length items rest

/-- Whether the fields of an object fit. -/
def checkFields (fields : Fields) :
    List (String × Json) → Except ShapeError Unit
  | [] => .ok ()
  | (key, value) :: rest => do
    (fields.shapeOf key).check value
    checkFields fields rest

end

end Shape

end ClusterGate
