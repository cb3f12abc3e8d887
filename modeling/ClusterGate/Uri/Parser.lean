import ClusterGate.Text.Affix
import ClusterGate.Uri.Basic

/-!
# Reading a URI

`Uri.parse` reads an absolute URI the lenient way browsers do. Spaces and
controls around the text and line breaks and tabs anywhere in it are
ignored, any number of slashes may follow a special scheme, and whatever
may not stand in a part is escaped rather than refused. What remains
refused is a missing scheme, a host that is none, and a port that is no
number.

The text is cut from the outside in: scheme, fragment, query, authority
and path, and the authority into credentials, host and port.
-/

namespace ClusterGate.Uri

/-! ## Cutting the text -/

/-- Spaces and controls. -/
def isSpaceOrControl (c : Char) : Bool := c.toNat ≤ 0x20

/-- Characters that are ignored wherever they stand. -/
def isIgnored (c : Char) : Bool := c == '\t' || c == '\n' || c == '\r'

/-- The text that is read. -/
def clean (text : List Char) : List Char :=
  (Text.trim isSpaceOrControl text).filter fun c => !isIgnored c

/-- Characters of a scheme after its first letter. -/
def isSchemeChar (c : Char) : Bool :=
  c.isAlphanum || c == '+' || c == '-' || c == '.'

/-- The scheme in lower case, and the text after its colon. -/
def splitScheme? (text : List Char) : Option (String × List Char) :=
  let scheme := text.takeWhile isSchemeChar
  match scheme, text.drop scheme.length with
  | first :: _, ':' :: rest =>
    if first.isAlpha then some (String.ofList (scheme.map Char.toLower), rest)
    else none
  | _, _ => none

/-- The text before the first character that `stop` holds of, and what
follows it. -/
def splitAtFirst (stop : Char → Bool) (text : List Char) :
    List Char × List Char :=
  let before := text.takeWhile fun c => !stop c
  (before, text.drop before.length)

/-- What follows the authority: path, query and fragment as they are
written. -/
structure Tail where
  path : List Char
  query : Option (List Char)
  fragment : Option (List Char)
  deriving Repr

/-- Cuts off the fragment and then the query. -/
def splitTail (text : List Char) : Tail :=
  let (body, fragment) := splitAtFirst (· == '#') text
  let (path, query) := splitAtFirst (· == '?') body
  { path
    query := if query.isEmpty then none else some (query.drop 1)
    fragment := if fragment.isEmpty then none else some (fragment.drop 1) }

/-- The query in escaped form. -/
def Tail.queryText (tail : Tail) (kind : SchemeKind) : Option String :=
  tail.query.map fun q =>
    String.ofList
      (Percent.encode
        (if kind = .other then Percent.query else Percent.specialQuery) q)

/-- The fragment in escaped form. -/
def Tail.fragmentText (tail : Tail) : Option String :=
  tail.fragment.map fun f => String.ofList (Percent.encode Percent.fragment f)

/-! ## Authority -/

/-- Whether a character ends the authority. -/
def endsAuthority (special : Bool) (c : Char) : Bool :=
  c == '/' || c == '?' || c == '#' || (special && c == '\\')

/-- What stands before the last `@`, and what stands after it. -/
def splitUserinfo (authority : List Char) : Option (List Char) × List Char :=
  let after := (authority.reverse.takeWhile (· != '@')).reverse
  if after.length = authority.length then (none, authority)
  else (some (authority.take (authority.length - after.length - 1)), after)

/-- User name and password in escaped form. -/
def readUserinfo (text : List Char) : String × String :=
  let (name, password) := splitAtFirst (· == ':') text
  (String.ofList (Percent.encode Percent.userinfo name),
    String.ofList (Percent.encode Percent.userinfo (password.drop 1)))

/-- The host as it is written, up to a colon that is in no brackets. -/
def takeHost (inBrackets : Bool) : List Char → List Char
  | [] => []
  | c :: rest =>
    if c == ':' && !inBrackets then []
    else
      c :: takeHost
        (if c == '[' then true else if c == ']' then false else inBrackets) rest

/-- The number that decimal digits write, if it is a port. -/
def readPort? (digits : List Char) : Option UInt16 :=
  let n := digits.foldl (fun n c => 10 * n + (c.toNat - 0x30)) 0
  if n < 65536 then some (UInt16.ofNat n) else none

/-- Credentials, host and port. -/
structure Authority where
  username : String
  password : String
  host : Host
  port : Option UInt16
  deriving Repr

/-- The empty authority. -/
def Authority.none : Authority := ⟨"", "", .domain "", .none⟩

/-- Reads host and port, and gives back the text after them, of which only
a backslash can be left. -/
def readHostPort (scheme : String) (text : List Char) :
    Except UriError (Host × Option UInt16 × List Char) := do
  let special := SchemeKind.of scheme == .special
  let hostText := takeHost false text
  let portText := text.drop hostText.length
  let host ←
    if special then
      if hostText.isEmpty then throw .emptyHost else Host.parse hostText
    else Host.parseOpaque hostText
  match portText with
  | [] => return (host, none, [])
  | _ :: rest =>
    if host = .domain "" then throw .emptyHost
    let digits := rest.takeWhile Char.isDigit
    let after := rest.drop digits.length
    if !(after.isEmpty || after.head? == some '\\') then throw .invalidPort
    match readPort? digits with
    | none => throw .invalidPort
    | some port =>
      if digits.isEmpty || defaultPort? scheme == some port then
        return (host, none, after)
      else return (host, some port, after)

/-- Reads an authority, and gives back the text after it. -/
def readAuthority (scheme : String) (text : List Char) :
    Except UriError (Authority × List Char) := do
  let (authority, tail) :=
    splitAtFirst (endsAuthority (SchemeKind.of scheme == .special)) text
  let (userinfo, hostPort) := splitUserinfo authority
  if userinfo == some [] && hostPort.isEmpty && !tail.isEmpty then
    throw .emptyHost
  let (username, password) := readUserinfo (userinfo.getD [])
  let (host, port, after) ← readHostPort scheme hostPort
  if host = .domain "" && !(username.isEmpty && password.isEmpty) then
    throw .emptyHost
  return ({ username, password, host, port }, after ++ tail)

/-! ## The whole URI -/

/-- Puts a URI together whose path is given. -/
def assemble (scheme : String) (authority : Option Authority) (path : String)
    (tail : Tail) : Uri :=
  let a := authority.getD .none
  { scheme
    username := a.username
    password := a.password
    host := authority.map (·.host)
    port := a.port
    path
    query := tail.queryText (SchemeKind.of scheme)
    fragment := tail.fragmentText }

/-- Reads what follows the slashes of a URI with an authority. A special
URI has a path even when none is written. -/
def parseWithAuthority (scheme : String) (text : List Char) :
    Except UriError Uri := do
  let (authority, rest) ← readAuthority scheme text
  let tail := splitTail rest
  let special := SchemeKind.of scheme == .special
  let path :=
    if !special && tail.path.isEmpty then ""
    else UriPath.ofText special tail.path
  return assemble scheme (some authority) path tail

/-- Reads what follows the scheme of a URI that needs no authority. -/
def parseOther (scheme : String) (text : List Char) : Except UriError Uri :=
  match text with
  | '/' :: '/' :: rest => parseWithAuthority scheme rest
  | '/' :: _ =>
    let tail := splitTail text
    .ok (assemble scheme none (UriPath.ofText false tail.path) tail)
  | _ =>
    let tail := splitTail text
    .ok (assemble scheme none
      (String.ofList (Percent.encode Percent.controls tail.path)) tail)

/-- Reads the host of a `file` URI; `localhost` and a drive letter count
as none. -/
def readFileHost (text : List Char) : Except UriError (Host × List Char) :=
  let (hostText, rest) := splitAtFirst (endsAuthority true) text
  if hostText.isEmpty then .ok (.domain "", rest)
  else if UriPath.isDriveLetter hostText then .ok (.domain "", text)
  else
    (Host.parse hostText).map fun host =>
      (if host = .domain "localhost" then .domain "" else host, rest)

/-- Reads what follows the scheme of a `file` URI. -/
def parseFile (text : List Char) : Except UriError Uri := do
  let (host, rest) ←
    match text with
    | a :: b :: rest =>
      if UriPath.isSlash true a && UriPath.isSlash true b then readFileHost rest
      else pure (.domain "", text)
    | _ => pure (.domain "", text)
  let tail := splitTail rest
  let (path, onDrive) := UriPath.ofFileText tail.path
  let authority :=
    { Authority.none with host := if onDrive then .domain "" else host }
  return assemble "file" (some authority) path tail

/-- Reads an absolute URI. -/
def parse (text : String) : Except UriError Uri :=
  match splitScheme? (clean text.toList) with
  | none => .error .noScheme
  | some (scheme, rest) =>
    match SchemeKind.of scheme with
    | .file => parseFile rest
    | .special =>
      parseWithAuthority scheme (rest.dropWhile (UriPath.isSlash true))
    | .other => parseOther scheme rest

end ClusterGate.Uri
