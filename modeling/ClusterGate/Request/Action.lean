import ClusterGate.Api.Cluster
import ClusterGate.Request.Basic
import ClusterGate.Request.Rejection
import ClusterGate.Text.Blank
import ClusterGate.Text.Split

/-!
# Typed actions

What a request to a cluster API asks for, with its path parameters taken
apart. A list of names is separated by commas; blanks around a name and
empty names are dropped, and an empty list stands for all.

As a document an action is an object with the tag of the action under
`action` and its parameter under its own name. A list of tag and parameter
is read as well.
-/

namespace ClusterGate

/-- A request to a cluster API. -/
inductive Action where
  | catPendingTasks
  | catRecovery (indices : List String)
  | catRepositories
  | catSnapshots (repository : String)
  | catTasks
  | clusterHealth (indices : List String)
  | clusterSettings
  | clusterStats (nodes : List String)
  | nodesStats
  deriving DecidableEq, Repr

namespace Action

def api : Action → ClusterApi
  | catPendingTasks => .catPendingTasks
  | catRecovery _ => .catRecovery
  | catRepositories => .catRepositories
  | catSnapshots _ => .catSnapshots
  | catTasks => .catTasks
  | clusterHealth _ => .clusterHealth
  | clusterSettings => .clusterSettings
  | clusterStats _ => .clusterStats
  | nodesStats => .nodesStats

/-! ## From a request -/

/-- The names in a list of path parameters. -/
def splitNames (params : String) : List String :=
  (((Text.splitAt ',' params.toList).map Text.trimBlanks).filter fun n =>
    !n.isEmpty).map
      String.ofList

/-- The action on an API with the given path parameters; none for the
sentinel. -/
def ofParams? (params : String) : ClusterApi → Option Action
  | .blank => none
  | .catPendingTasks => some catPendingTasks
  | .catRecovery => some (catRecovery (splitNames params))
  | .catRepositories => some catRepositories
  | .catSnapshots => some (catSnapshots params)
  | .catTasks => some catTasks
  | .clusterHealth => some (clusterHealth (splitNames params))
  | .clusterSettings => some clusterSettings
  | .clusterStats => some (clusterStats (splitNames params))
  | .nodesStats => some nodesStats

end Action

/-- The action that a request to a cluster API asks for. -/
def Request.action (request : Request) : Except Rejection Action :=
  match (ClusterApi.ofName? request.api.name).bind
    (Action.ofParams? request.pathParams) with
  | some action => .ok action
  | none => .error (.unsupportedApi request.path)

namespace Action

/-! ## As a document -/

def tag : Action → String
  | catPendingTasks => "cat_pending_tasks"
  | catRecovery _ => "cat_recovery"
  | catRepositories => "cat_repositories"
  | catSnapshots _ => "cat_snapshots"
  | catTasks => "cat_tasks"
  | clusterHealth _ => "cluster_health"
  | clusterSettings => "cluster_settings"
  | clusterStats _ => "cluster_stats"
  | nodesStats => "nodes_stats"

/-- All tags. -/
def tags : List String :=
  ["cat_pending_tasks", "cat_recovery", "cat_repositories",
    "cat_snapshots", "cat_tasks", "cluster_health", "cluster_settings",
    "cluster_stats", "nodes_stats"]

def ofNames (names : List String) : Json := .arr (names.map .str)

def toJson (action : Action) : Json :=
  match action with
  | catRecovery indices =>
    .obj [("action", .str action.tag), ("indices", ofNames indices)]
  | catSnapshots repository =>
    .obj [("action", .str action.tag), ("repository", .str repository)]
  | clusterHealth indices =>
    .obj [("action", .str action.tag), ("indices", ofNames indices)]
  | clusterStats nodes =>
    .obj [("action", .str action.tag), ("node_ids", ofNames nodes)]
  | _ => .obj [("action", .str action.tag)]

/-! ## From a document -/

/-- What a document gives beside the tag. -/
inductive Arguments where
  | named (fields : List (String × Json))
  | listed (values : List Json)
  deriving Repr

/-- Reads a text. -/
def readName : Json → Except ShapeError String
  | .str value => .ok value
  | value => .error (.wrongType value.found "a string")

/-- Reads a list of texts. -/
def readNames : Json → Except ShapeError (List String)
  | .arr values => values.mapM readName
  | value => .error (.wrongType value.found "a sequence")

namespace Arguments

/-- An action without parameter. -/
def none (arguments : Arguments) (action : Action) : Except ShapeError Action :=
  match arguments with
  | listed (value :: rest) =>
    .error (.wrongLength (value :: rest).length "0 elements in sequence")
  | _ => .ok action

/-- The parameter of an action that has one. -/
def one {α : Type} (arguments : Arguments) (variant field : String)
    (read : Json → Except ShapeError α) : Except ShapeError α :=
  match arguments with
  | named fields =>
    match lookupEntry field fields with
    | some value => read value
    | .none => .error (.missingField field)
  | listed [] =>
    .error (.wrongLength 0 ("struct variant ApiRequest::" ++ variant ++
      " with 1 element"))
  | listed (value :: rest) =>
    (read value).bind fun parameter =>
      if rest.isEmpty then .ok parameter
      else .error (.wrongLength (value :: rest).length "1 element in sequence")

end Arguments

/-- The action with a tag. -/
def ofTag (tag : String) (arguments : Arguments) : Except ShapeError Action :=
  match tag with
  | "cat_pending_tasks" => arguments.none catPendingTasks
  | "cat_recovery" =>
    (arguments.one "CatRecovery" "indices" readNames).map catRecovery
  | "cat_repositories" => arguments.none catRepositories
  | "cat_snapshots" =>
    (arguments.one "CatSnapshots" "repository" readName).map catSnapshots
  | "cat_tasks" => arguments.none catTasks
  | "cluster_health" =>
    (arguments.one "ClusterHealth" "indices" readNames).map clusterHealth
  | "cluster_settings" => arguments.none clusterSettings
  | "cluster_stats" =>
    (arguments.one "ClusterStats" "node_ids" readNames).map clusterStats
  | "nodes_stats" => arguments.none nodesStats
  | _ => .error (.unknownVariant tag tags)

/-- The action of a tag that is given as a document. -/
def ofTagged (tag : Json) (arguments : Arguments) : Except ShapeError Action :=
  match tag with
  | .str tag => ofTag tag arguments
  | value => .error (.wrongType value.found "variant identifier")

/-- Reads an action from a document. -/
def ofJson : Json → Except ShapeError Action
  | .obj fields =>
    match lookupEntry "action" fields with
    | some tag => ofTagged tag (.named fields)
    | none => .error (.missingField "action")
  | .arr (tag :: values) => ofTagged tag (.listed values)
  | .arr [] => .error (.missingField "action")
  | value => .error (.wrongType value.found "internally tagged enum ApiRequest")

end Action

end ClusterGate
