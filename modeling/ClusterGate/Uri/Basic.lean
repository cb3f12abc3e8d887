import ClusterGate.Uri.Host
import ClusterGate.Uri.Path
import ClusterGate.Uri.Query

/-!
# Absolute URIs

A URI in resolved form: every part is escaped as it will be sent, the
scheme and a domain name are in lower case, the path has no dot segments,
and the default port of the scheme is left out. Two URIs that differ only
in such spelling are equal.
-/

namespace ClusterGate

/-- How the authority and path of a scheme are read. -/
inductive SchemeKind where
  | file
  | special
  | other
  deriving DecidableEq, Repr

/-- The kind of a scheme in lower case. -/
def SchemeKind.of (scheme : String) : SchemeKind :=
  if scheme = "file" then .file
  else if ["http", "https", "ws", "wss", "ftp"].contains scheme then .special
  else .other

/-- An absolute URI. An empty user name or password is absent; a host that
is the empty domain stands for an authority with nothing in it. -/
structure Uri where
  scheme : String
  username : String
  password : String
  host : Option Host
  port : Option UInt16
  path : String
  query : Option String
  fragment : Option String
  deriving DecidableEq, Repr

namespace Uri

/-- The port a scheme uses when none is given. -/
def defaultPort? (scheme : String) : Option UInt16 :=
  match scheme with
  | "http" => some 80
  | "ws" => some 80
  | "https" => some 443
  | "wss" => some 443
  | "ftp" => some 21
  | _ => none

/-- The port that requests go to. -/
def effectivePort? (uri : Uri) : Option UInt16 :=
  uri.port.or (defaultPort? uri.scheme)

def hostText (uri : Uri) : String :=
  match uri.host with
  | some host => host.render
  | none => ""

/-- The decoded pairs of the query. -/
def queryPairs (uri : Uri) : List (String × String) :=
  Query.parse (uri.query.getD "").toList

/-- User name and password with the `@` after them. -/
def credentials (uri : Uri) : String :=
  if uri.username.isEmpty && uri.password.isEmpty then ""
  else if uri.password.isEmpty then uri.username ++ "@"
  else uri.username ++ ":" ++ uri.password ++ "@"

/-- What stands between the scheme and the path. Without an authority a
path that begins with two slashes is kept apart by a dot. -/
def authority (uri : Uri) : String :=
  match uri.host with
  | some host =>
    "//" ++ uri.credentials ++ host.render ++
      match uri.port with
      | some port => ":" ++ toString port.toNat
      | none => ""
  | none => if "//".toList.isPrefixOf uri.path.toList then "/." else ""

/-- The URI as text. -/
def render (uri : Uri) : String :=
  uri.scheme ++ ":" ++ uri.authority ++ uri.path ++
    (match uri.query with
      | some query => "?" ++ query
      | none => "") ++
    (match uri.fragment with
      | some fragment => "#" ++ fragment
      | none => "")

/-- The same URI with another port; the default port of the scheme is left
out. Only a URI with a host is given a port. -/
def withPort (uri : Uri) (port : UInt16) : Uri :=
  { uri with
    port := if defaultPort? uri.scheme = some port then none else some port }

/-- The same URI with the path that a text describes. A question mark or
number sign in it belongs to the path. -/
def withPath (uri : Uri) (text : String) : Uri :=
  let kept := text.toList.filter fun c => !(c == '\t' || c == '\n' || c == '\r')
  { uri with path := UriPath.ofText (SchemeKind.of uri.scheme != .other) kept }

/-- The same URI with a query of these pairs. -/
def withQuery (uri : Uri) (pairs : List (String × String)) : Uri :=
  { uri with query := some (String.ofList (Query.render pairs)) }

end Uri

end ClusterGate
