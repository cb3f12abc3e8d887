import ClusterGate.Api.Basic
import ClusterGate.Request.Rejection
import ClusterGate.Text.Affix

/-!
# Path parameters

What stands in a path behind the part that names the API. Parameters that
are given apart from the path count instead of those in it. Slashes around
them are dropped before anything is checked.

An API without parameters drops its whole canonical path and not just the
matched beginning, so that whatever goes on behind it counts as a
parameter.
-/

namespace ClusterGate

/-- What a path has beyond the route. -/
def Route.remainder (route : Route) (path : String) : List Char :=
  let lead := if route.params.allows then route.lead else route.path
  Text.stripSuffix route.trail.toList (Text.stripPrefix lead.toList path.toList)

/-- The text between the slashes at both ends. -/
def trimSlashes (text : List Char) : List Char := Text.trim (· == '/') text

/-- Accepts parameters that a route allows. -/
def Route.admitParams (route : Route) (name params : String) :
    Except Rejection String :=
  if params.toList.any fun c => c ∈ bannedCharacters then
    .error (.bannedParams params)
  else if route.params.demands && params.isEmpty then
    .error (.missingParams name)
  else if !route.params.allows && !params.isEmpty then
    .error (.unsupportedParams name params)
  else .ok params

/-- The parameters of a request to an API: the given ones, or else those in
the path. -/
def Api.extractParams (api : Api) (path given : String) :
    Except Rejection String :=
  match api.route with
  | none => .error (.unsupportedApi path)
  | some route =>
    let text := if given.isEmpty then route.remainder path else given.toList
    route.admitParams api.name (String.ofList (trimSlashes text))

end ClusterGate
