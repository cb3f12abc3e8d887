import ClusterGate.Api.Catalog
import ClusterGate.Json.Error
import ClusterGate.Redaction.AllowList

/-!
# The allow-lists of a set of APIs

One allow-list for each API, kept under the canonical path of the API.
Before they are used they are held against a catalog (`ensureCovers`),
every API of which has to have one; further allow-lists do no harm.
-/

namespace ClusterGate

/-- A fault in a collection of allow-lists. -/
inductive AllowListsError where
  /-- The resource is no document of the wanted shape. -/
  | invalidDocument (cause : ReadError)
  /-- There is no file at this path. -/
  | missingFile (path : String)
  /-- The file at this path cannot be read as text. -/
  | unreadableFile (path : String)
  | invalidPath (api root : String) (cause : FieldPathError)
  | unknownApi (path : String)
  | uncovered (paths : List String)
  deriving DecidableEq, Repr

namespace AllowListsError

/-- What is wrong with a document. -/
def documentText : ReadError → String
  | .malformed => "malformed document"
  | .truncated => "the document ends too early"
  | .mismatch cause => cause.message

def message : AllowListsError → String
  | invalidDocument cause =>
    "allow-list resource is not valid: " ++ documentText cause
  | missingFile path =>
    "failed to read allow-list resource `" ++ path ++
      "`: No such file or directory (os error 2)"
  | unreadableFile path =>
    "failed to read allow-list resource `" ++ path ++ "`: not a text file"
  | invalidPath api root cause =>
    "allow-list for `" ++ api ++ "` root `" ++ root ++ "` is invalid: " ++
      cause.message
  | unknownApi path =>
    "api path `" ++ path ++ "` is not in the allow-list catalog"
  | uncovered paths =>
    "allow-list catalog has no entry for: " ++ String.intercalate ", " paths

end AllowListsError

/-- Allow-lists by canonical path. -/
structure AllowLists where
  entries : SortedMap AllowList
  deriving Repr

namespace AllowLists

def empty : AllowLists := ⟨∅⟩

instance : Inhabited AllowLists := ⟨empty⟩

/-- Adds or replaces the allow-list for a path. -/
def withEntry (lists : AllowLists) (path : String) (list : AllowList) :
    AllowLists :=
  ⟨lists.entries.insert path list⟩

/-- The allow-list for a canonical path. -/
def get (lists : AllowLists) (path : String) :
    Except AllowListsError AllowList :=
  match lists.entries.get? path with
  | some list => .ok list
  | none => .error (.unknownApi path)

/-- The allow-list for an API; the sentinel has none. -/
def forApi (lists : AllowLists) (api : Api) :
    Except AllowListsError AllowList :=
  match api.route with
  | some route => lists.get route.path
  | none => .error (.unknownApi api.name)

def contains (lists : AllowLists) (path : String) : Bool :=
  lists.entries.contains path

def size (lists : AllowLists) : Nat := lists.entries.size

def isEmpty (lists : AllowLists) : Bool := lists.entries.isEmpty

/-- The canonical paths of a catalog that have no allow-list. -/
def missingPaths (lists : AllowLists) (catalog : Catalog) : List String :=
  catalog.paths.filter fun path => !lists.contains path

/-- Refuses a catalog with an API that has no allow-list. -/
def ensureCovers (lists : AllowLists) (catalog : Catalog) :
    Except AllowListsError Unit :=
  match lists.missingPaths catalog with
  | [] => .ok ()
  | paths => .error (.uncovered paths)

end AllowLists

end ClusterGate
