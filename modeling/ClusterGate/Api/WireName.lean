import ClusterGate.Text.Case

/-!
# Wire names of identifiers

The name an identifier in `CamelCase` has on the wire unless it is given
another one: upper case, with an underscore before each capital that
follows a small letter or a digit. `CatPendingTasks` becomes
`CAT_PENDING_TASKS`, and `HTTPServer` stays one word.
-/

namespace ClusterGate.WireName

/-- Whether a capital after this character starts a new word. -/
def endsWord (c : Char) : Bool := Text.isLowercase c || c.isDigit

/-- The name of the rest of an identifier; `afterWord` tells whether the
character before it ends a word. -/
def ofChars (afterWord : Bool) : List Char → List Char
  | [] => []
  | c :: rest =>
    let name := Text.uppercase c ++ ofChars (endsWord c) rest
    if Text.isUppercase c && afterWord then '_' :: name else name

/-- The default wire name of an identifier. -/
def ofIdent (ident : String) : String :=
  String.ofList (ofChars false ident.toList)

end ClusterGate.WireName
