import ClusterGate.Request.Input
import ClusterGate.Request.Rejection
import ClusterGate.Text.Affix
import ClusterGate.Uri.Parser

/-!
# The URI an input points at

An input leads to a URI either through its URL or through its components.
Both have to pass the same checks (`checked`): a supported scheme, a host,
and no empty segment in the path.

Scheme and host are read as the text of a URI, once the host has been read
on its own; port, path and query are then put into what was read. That URI
has a host and a scheme with authorities (`Uri.parse_scheme_host`), so it
takes every port, and no rejection is about a port that cannot be put in.
-/

namespace ClusterGate

/-! ## Building and checking -/

/-- A path and its parameters with exactly one `/` between them. -/
def joinPath (path params : String) : String :=
  if params.isEmpty then path
  else
    String.ofList
      (Text.dropWhileEnd (· == '/') path.toList ++
        '/' :: params.toList.dropWhile (· == '/'))

/-- Whether two slashes stand next to each other in a path, with an empty
segment between them. -/
def hasEmptySegment : List Char → Bool
  | '/' :: '/' :: _ => true
  | _ :: rest => hasEmptySegment rest
  | [] => false

/-- The URI itself if requests may use it. -/
def Uri.checked (uri : Uri) (field : InputField) : Except Rejection Uri :=
  if uri.scheme ∉ supportedSchemes then
    .error (.invalidUrl field uri.render (.unsupportedScheme uri.scheme))
  else if uri.host.isNone then
    .error (.invalidUrl field uri.render .missingHost)
  else if hasEmptySegment uri.path.toList then
    .error (.invalidUrl field uri.render .emptySegment)
  else .ok uri

namespace CallerInput

/-- The scheme that the components ask for, in lower case. -/
def wantedScheme (input : CallerInput) : String :=
  if input.scheme.isEmpty then defaultScheme
  else String.ofList (input.scheme.toList.map Char.toLower)

/-- The host that the components ask for. -/
def wantedHost (input : CallerInput) : String :=
  if input.host.isEmpty then supportedHost else input.host

/-- The text that the URI of the components begins with. -/
def wantedBase (input : CallerInput) : String :=
  input.wantedScheme ++ "://" ++ input.wantedHost

/-- The URI of scheme and host with the remaining components put into it. -/
def complete (input : CallerInput) (base : Uri) : Uri :=
  let uri := (base.withPort (input.port.getD supportedPort)).withPath
    (joinPath input.path input.pathParams)
  if input.queryParams.isEmpty then uri
  else uri.withQuery input.queryParams.entries

/-- The URI that the components describe. -/
def componentUri (input : CallerInput) : Except Rejection Uri :=
  if input.wantedScheme ∉ supportedSchemes then
    .error (.invalidUrl .scheme input.scheme
      (.unsupportedScheme input.wantedScheme))
  else
    match Host.parse input.wantedHost.toList with
    | .error e => .error (.invalidUrl .host input.wantedHost (.unreadable e))
    | .ok _ =>
      match Uri.parse input.wantedBase with
      | .error e => .error (.invalidUrl .host input.wantedBase (.unreadable e))
      | .ok base => (input.complete base).checked .path

/-- The URI that the URL describes. -/
def urlUri (input : CallerInput) : Except Rejection Uri :=
  match Uri.parse input.url with
  | .error e => .error (.invalidUrl .url input.url (.unreadable e))
  | .ok uri => uri.checked .url

/-- The field that the target is taken from: the URL if there is one. -/
def targetField (input : CallerInput) : InputField :=
  if input.url.isEmpty then .path else .url

/-- The URI that an input points at. -/
def targetUri (input : CallerInput) : Except Rejection Uri :=
  if input.url.isEmpty then input.componentUri else input.urlUri

end CallerInput

/-! ## Taking a URI apart -/

/-- The pairs as a map, or the first key that comes a second time. -/
def distinctKeys (known : SortedMap String) :
    List (String × String) → Except String (SortedMap String)
  | [] => .ok known
  | (key, value) :: rest =>
    if known.contains key then .error key
    else distinctKeys (known.insert key value) rest

/-- The query as a map. -/
def Uri.queryMap (uri : Uri) (field : InputField) :
    Except Rejection (SortedMap String) :=
  (distinctKeys ∅ uri.queryPairs).mapError fun key =>
    .invalidUrl field uri.render (.repeatedParameter key)

/-- The path with its escapes undone. -/
def Uri.decodedPath (uri : Uri) (field : InputField) :
    Except Rejection String :=
  match Utf8.decode (Percent.decode uri.path.toList) with
  | .ok path => .ok (String.ofList path)
  | .error e => .error (.invalidUrl field uri.render (.undecodablePath e))

/-- Whether two URIs address the same resource with the same query, whose
pairs may come in any order. -/
def Uri.sameTarget (a b : Uri) : Bool :=
  a.scheme == b.scheme && a.hostText == b.hostText &&
    a.effectivePort? == b.effectivePort? &&
    a.path == b.path && a.queryPairs.isPerm b.queryPairs

end ClusterGate
