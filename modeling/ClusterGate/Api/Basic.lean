/-!
# APIs and how their paths are matched

A set of APIs is a table of entries in declaration order, which is also
the order in which they are matched. An entry has an identifier, the name
it goes by on the wire and in logs, and a route: the canonical path, the
beginning of a request path that is matched, the end that is dropped to
find path parameters, and whether there may or must be any.

An entry without route is the sentinel for requests that have not been
classified; it is never matched.
-/

namespace ClusterGate

/-- Whether path parameters may follow a path. -/
inductive ParamRule where
  | unsupported
  | optional
  | required
  deriving DecidableEq, Repr

namespace ParamRule

/-- Whether a request may have path parameters. -/
def allows : ParamRule → Bool
  | unsupported => false
  | _ => true

/-- Whether a request without path parameters is rejected. -/
def demands : ParamRule → Bool
  | required => true
  | _ => false

end ParamRule

/-- How requests to one API are recognised. -/
structure Route where
  /-- The canonical path, under which the allow-list of the API is kept. -/
  path : String
  /-- The beginning of every matched path. -/
  lead : String
  /-- The end that is dropped from a path to find its parameters. -/
  trail : String
  params : ParamRule
  deriving DecidableEq, Repr

/-- Whether a request path falls under a route. -/
def Route.covers (route : Route) (path : String) : Bool :=
  route.lead.toList.isPrefixOf path.toList

/-- One API of a set. -/
structure Api where
  ident : String
  name : String
  route : Option Route
  deriving DecidableEq, Repr

/-- Whether an entry is the sentinel. -/
def Api.isSentinel (api : Api) : Bool := api.route.isNone

/-- A set of APIs in declaration order. -/
structure ApiTable where
  apis : List Api
  deriving DecidableEq, Repr

namespace ApiTable

/-- The entries that requests can be matched to, with their routes. -/
def routable (table : ApiTable) : List (Api × Route) :=
  table.apis.filterMap fun api => api.route.map fun route => (api, route)

/-- The entry with a wire name. -/
def ofName? (table : ApiTable) (name : String) : Option Api :=
  table.apis.find? fun api => api.name == name

end ApiTable

end ClusterGate
