import ClusterGate.Api.Catalog
import ClusterGate.Api.Declaration
import ClusterGate.Json.Error

/-!
# The cluster APIs

The administrative APIs of a local cluster that can be called, as an
enumeration and as the table declared by it (`clusterItem_derive`). The
first one is the sentinel.
-/

namespace ClusterGate

/-- A supported cluster API, or the sentinel for none. -/
inductive ClusterApi where
  | blank
  | catPendingTasks
  | catRecovery
  | catRepositories
  | catSnapshots
  | catTasks
  | clusterHealth
  | clusterSettings
  | clusterStats
  | nodesStats
  deriving DecidableEq, Repr

namespace ClusterApi

/-- All of them in declaration order. -/
def all : List ClusterApi :=
  [blank, catPendingTasks, catRecovery, catRepositories, catSnapshots, catTasks,
    clusterHealth, clusterSettings, clusterStats, nodesStats]

/-- What a caller has who has chosen nothing. -/
instance : Inhabited ClusterApi := ⟨blank⟩

def ident : ClusterApi → String
  | blank => "Blank"
  | catPendingTasks => "CatPendingTasks"
  | catRecovery => "CatRecovery"
  | catRepositories => "CatRepositories"
  | catSnapshots => "CatSnapshots"
  | catTasks => "CatTasks"
  | clusterHealth => "ClusterHealth"
  | clusterSettings => "ClusterSettings"
  | clusterStats => "ClusterStats"
  | nodesStats => "NodesStats"

/-- The options each variant is declared with. -/
def options : ClusterApi → List OptionDecl
  | blank => [⟨"blank", none⟩]
  | catPendingTasks => [⟨"path", some (.text "/_cat/pending_tasks")⟩]
  | catRecovery =>
    [⟨"path", some (.text "/_cat/recovery")⟩,
      ⟨"path_params", some (.text "optional")⟩]
  | catRepositories => [⟨"path", some (.text "/_cat/repositories")⟩]
  | catSnapshots =>
    [⟨"path", some (.text "/_cat/snapshots")⟩,
      ⟨"path_params", some (.text "required")⟩]
  | catTasks => [⟨"path", some (.text "/_cat/tasks")⟩]
  | clusterHealth =>
    [⟨"path", some (.text "/_cluster/health")⟩,
      ⟨"path_params", some (.text "optional")⟩]
  | clusterSettings => [⟨"path", some (.text "/_cluster/settings")⟩]
  | clusterStats =>
    [⟨"path", some (.text "/_cluster/stats")⟩,
      ⟨"path_params", some (.text "optional")⟩]
  | nodesStats =>
    [⟨"path", some (.text "/_nodes/stats")⟩, ⟨"prefix", some (.text "/_nodes")⟩]

/-- A route matched by its whole canonical path. -/
def plainRoute (path : String) (params : ParamRule) : Route :=
  { path, lead := path, trail := "", params }

def route : ClusterApi → Option Route
  | blank => none
  | catPendingTasks => some (plainRoute "/_cat/pending_tasks" .unsupported)
  | catRecovery => some (plainRoute "/_cat/recovery" .optional)
  | catRepositories => some (plainRoute "/_cat/repositories" .unsupported)
  | catSnapshots => some (plainRoute "/_cat/snapshots" .required)
  | catTasks => some (plainRoute "/_cat/tasks" .unsupported)
  | clusterHealth => some (plainRoute "/_cluster/health" .optional)
  | clusterSettings => some (plainRoute "/_cluster/settings" .unsupported)
  | clusterStats => some (plainRoute "/_cluster/stats" .optional)
  | nodesStats =>
    some
      { path := "/_nodes/stats", lead := "/_nodes", trail := ""
        params := .unsupported }

/-- The name on the wire. -/
def name (api : ClusterApi) : String := WireName.ofIdent api.ident

/-- The entry of the table. -/
def entry (api : ClusterApi) : Api := ⟨api.ident, api.name, api.route⟩

def ofName? (name : String) : Option ClusterApi :=
  all.find? fun api => api.name == name

/-! ## Names in documents -/

/-- Reads the name of an API from a document; the empty name is the
sentinel. -/
def ofJson : Json → Except ShapeError ClusterApi
  | .str "" => .ok blank
  | .str name =>
    match ofName? name with
    | some api => .ok api
    | none => .error (.unknownVariant name (all.map ClusterApi.name))
  | value =>
    .error (.wrongType value.found "an api type name such as CLUSTER_HEALTH")

def toJson (api : ClusterApi) : Json := .str api.name

end ClusterApi

/-! ## The table -/

/-- The declaration of the cluster APIs. -/
def clusterItem : ItemDecl where
  kind := .enumeration
  generics := []
  variants := ClusterApi.all.map fun api =>
    ⟨api.ident, .unit, [⟨"api", .list api.options⟩]⟩

/-- The table of the cluster APIs. -/
def clusterTable : ApiTable := ⟨ClusterApi.all.map ClusterApi.entry⟩

theorem clusterItem_derive : clusterItem.derive = .ok clusterTable := by rfl

end ClusterGate
