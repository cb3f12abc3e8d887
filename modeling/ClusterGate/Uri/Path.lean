import ClusterGate.Text.Percent
import ClusterGate.Text.Split

/-!
# Paths of URIs

The path of a URI is resolved when it is read: its characters are escaped
where needed, a segment `.` is dropped, and a segment `..` takes the one
before it away. Both may be written with escaped dots. Special schemes
also accept a backslash as separator.

A drive letter is never taken away by `..`.
-/

namespace ClusterGate.UriPath

/-- Whether a character separates segments. -/
def isSlash (special : Bool) (c : Char) : Bool :=
  c == '/' || (special && c == '\\')

def isDot (segment : List Char) : Bool :=
  [".", "%2e"].contains (String.ofList (segment.map Char.toLower))

def isDoubleDot (segment : List Char) : Bool :=
  ["..", ".%2e", "%2e.", "%2e%2e"].contains
    (String.ofList (segment.map Char.toLower))

/-- A letter and a colon or bar. -/
def isDriveLetter : List Char → Bool
  | [a, b] => a.isAlpha && (b == ':' || b == '|')
  | _ => false

/-- The segments, last first, after `..`. -/
def pop : List (List Char) → List (List Char)
  | [] => []
  | top :: rest => if isDriveLetter top then top :: rest else rest

/-- Puts segments behind those already resolved, which stand last first.
A dot segment at the end leaves an empty segment, so that the path ends in
a slash. -/
def resolve (done : List (List Char)) : List (List Char) → List (List Char)
  | [] => done
  | [last] =>
    if isDoubleDot last then [] :: pop done
    else if isDot last then [] :: done
    else last :: done
  | segment :: rest =>
    if isDoubleDot segment then resolve (pop done) rest
    else if isDot segment then resolve done rest
    else resolve (segment :: done) rest

/-- Each segment with a slash in front. -/
def render (segments : List (List Char)) : List Char :=
  segments.flatMap fun s => '/' :: s

/-- The text without one leading separator. -/
def dropSlash (special : Bool) : List Char → List Char
  | [] => []
  | c :: rest => if isSlash special c then rest else c :: rest

/-- The resolved segments of a path. -/
def segments (special : Bool) (text : List Char) : List (List Char) :=
  let pieces := Text.splitWhen (isSlash special) (dropSlash special text)
  (resolve [] (pieces.map (Percent.encode Percent.path))).reverse

/-- The path that a text describes. -/
def ofText (special : Bool) (text : List Char) : String :=
  String.ofList (render (segments special text))

/-- Without empty segments at the front, the last one apart. -/
def dropEmpty : List (List Char) → List (List Char)
  | [] :: rest => if rest.isEmpty then [[]] else dropEmpty rest
  | all => all

/-- The path of a `file` URI, and whether its first segment is a drive
letter, which is then written with a colon. -/
def ofFileText (text : List Char) : String × Bool :=
  match segments true text with
  | [a, b] :: rest =>
    if isDriveLetter [a, b] then
      (String.ofList (render ([a, ':'] :: rest)), true)
    else (String.ofList (render ([a, b] :: rest)), false)
  | all => (String.ofList (render (dropEmpty all)), false)

end ClusterGate.UriPath
