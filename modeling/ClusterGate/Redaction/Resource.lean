import ClusterGate.Json.Reader
import ClusterGate.Redaction.AllowLists
import ClusterGate.Text.Utf8

/-!
# Allow-lists as a resource

The written form of a collection of allow-lists: an object from canonical
paths to objects from roots to lists of dotted paths. An empty object
allows the whole response, an empty list the whole root.

Loading goes through the paths in order, through the roots of each in
order, and through the texts of each in the order given. The first text
that is no dotted path is the error, and then nothing is loaded.
-/

namespace ClusterGate

/-- Dotted paths by canonical path and root. -/
abbrev Resource := SortedMap (SortedMap (List String))

namespace Resource

/-! ## From a document -/

def shape : Shape := .map (.map (.list .text))

/-- The texts in a list. -/
def textsOf : List Json → List String
  | [] => []
  | .str text :: rest => text :: textsOf rest
  | _ :: rest => textsOf rest

/-- The roots in an object. -/
def rootsOf : List (String × Json) → List (String × List String)
  | [] => []
  | (root, .arr values) :: rest => (root, textsOf values) :: rootsOf rest
  | _ :: rest => rootsOf rest

/-- The canonical paths in an object. -/
def pathsOf : List (String × Json) → List (String × SortedMap (List String))
  | [] => []
  | (path, .obj roots) :: rest =>
    (path, .ofList (rootsOf roots)) :: pathsOf rest
  | _ :: rest => pathsOf rest

/-- The resource that a document of the right shape describes. -/
def ofShaped : Json → Resource
  | .obj fields => .ofList (pathsOf fields)
  | _ => ∅

def ofJson (document : Json) : Except ShapeError Resource :=
  (shape.check document).map fun _ => ofShaped document

def ofText (text : String) : Except ReadError Resource :=
  (shape.read text).map ofShaped

/-! ## As a document -/

def toJson (resource : Resource) : Json :=
  .obj (resource.entries.map fun e =>
    (e.1, .obj (e.2.entries.map fun d => (d.1, .arr (d.2.map .str)))))

end Resource

/-- The allow-list with these roots. -/
def AllowList.ofRoots (roots : SortedMap (List String)) :
    Except (String × FieldPathError) AllowList :=
  roots.entries.foldlM (fun list e => (list.allowPaths e.1 e.2).mapError
    fun cause => (e.1, cause)) AllowList.empty

namespace AllowLists

/-- Loads a resource. -/
def ofResource (resource : Resource) : Except AllowListsError AllowLists :=
  resource.entries.foldlM
    (fun lists e =>
      match AllowList.ofRoots e.2 with
      | .ok list => .ok (lists.withEntry e.1 list)
      | .error (root, cause) => .error (.invalidPath e.1 root cause))
    empty

/-- Loads the text of a resource. -/
def ofText (text : String) : Except AllowListsError AllowLists :=
  ((Resource.ofText text).mapError .invalidDocument).bind ofResource

/-- The resource that loads as these allow-lists. -/
def toResource (lists : AllowLists) : Resource :=
  .ofList (lists.entries.entries.map fun e =>
    (e.1, .ofList (e.2.listing.map fun d => (d.1, d.2.map FieldPath.render))))

/-! ## From a file -/

/-- What stands where a file is looked for. -/
inductive FileContent where
  | missing
  | unreadable
  | bytes (content : List UInt8)
  deriving DecidableEq, Repr

/-- Loads the file at a path, given what stands there. -/
def ofFile (path : String) (content : FileContent) :
    Except AllowListsError AllowLists :=
  match content with
  | .missing => .error (.missingFile path)
  | .unreadable => .error (.unreadableFile path)
  | .bytes content =>
    match Utf8.decode content with
    | .ok text => ofText (String.ofList text)
    | .error _ => .error (.unreadableFile path)

end AllowLists

end ClusterGate
