import ClusterGate.Api.Cluster
import ClusterGate.Log
import ClusterGate.Redaction.Bundled
import ClusterGate.Redaction.Redact
import ClusterGate.Request.Classify

/-!
# The gate

A catalog and the allow-lists of its APIs, which are held against each
other once, when the gate is made. After that the gate classifies inputs
and filters responses and reports both.

What a report says about a response is the number of its roots, nothing
of their content.
-/

namespace ClusterGate

/-- A catalog together with allow-lists for it. -/
structure Gate where
  apis : Catalog
  allowLists : AllowLists
  deriving Repr

namespace Gate

/-! ## Reports -/

/-- A record of the gate. -/
def entry (level : LogLevel) (message : String)
    (fields : List (String × LogValue)) : LogRecord :=
  ⟨level, message, fields ++ [("component", .text "api_gate")]⟩

def shadowedRecord (pair : Api × Api) : LogRecord :=
  entry .warning "api can never be matched"
    [("api_type", .text pair.2.name), ("shadowed_by", .text pair.1.name)]

def readyRecord (apis : Catalog) (lists : AllowLists) : LogRecord :=
  entry .info "api gate ready"
    [("apis", .count apis.size), ("allow_lists", .count lists.size)]

def acceptedRecord (request : Request) : LogRecord :=
  entry .debug "request accepted"
    [("api_type", .text request.api.name), ("url", .text request.url)]

def rejectedRecord (reason : Rejection) : LogRecord :=
  entry .debug "request rejected"
    [("error", .text reason.message), ("field", .text reason.field.name)]

def redactedRecord (api : Api) (filtered : Json) : LogRecord :=
  entry .debug "response redacted"
    [("api_type", .text api.name), ("roots", .count filtered.rootCount)]

/-! ## Operations -/

/-- Makes a gate if every API has an allow-list. APIs that no path can reach
are reported. -/
def create (apis : Catalog) (lists : AllowLists) :
    Logged (Except AllowListsError Gate) :=
  match lists.ensureCovers apis with
  | .error e =>
    ⟨.error e,
      [entry .error "allow-list catalog is incomplete"
        [("error", .text e.message)]]⟩
  | .ok _ =>
    ⟨.ok ⟨apis, lists⟩, apis.shadowed.map shadowedRecord ++
      [readyRecord apis lists]⟩

/-- The request that an input describes. -/
def classify (gate : Gate) (input : CallerInput) :
    Logged (Except Rejection Request) :=
  match gate.apis.classify input with
  | .ok request => ⟨.ok request, [acceptedRecord request]⟩
  | .error reason => ⟨.error reason, [rejectedRecord reason]⟩

/-- The part of a response of an API that its allow-list permits. -/
def redact (gate : Gate) (api : Api) (raw : Json) :
    Logged (Except AllowListsError Json) :=
  match gate.allowLists.forApi api with
  | .ok list =>
    let filtered := ClusterGate.redact raw list
    ⟨.ok filtered, [redactedRecord api filtered]⟩
  | .error e =>
    ⟨.error e,
      [entry .error "no allow-list for api"
        [("api_type", .text api.name), ("error", .text e.message)]]⟩

/-- Why a response cannot be served. -/
inductive ServeError where
  | rejected (reason : Rejection)
  | unfilterable (cause : AllowListsError)
  deriving DecidableEq, Repr

/-- Classifies an input and filters the response to it. -/
def serve (gate : Gate) (input : CallerInput) (raw : Json) :
    Logged (Except ServeError Json) :=
  let classified := gate.classify input
  match classified.result with
  | .error reason => ⟨.error (.rejected reason), classified.records⟩
  | .ok request =>
    let filtered := gate.redact request.api raw
    ⟨filtered.result.mapError .unfilterable,
      classified.records ++ filtered.records⟩

/-! ## The bundled gate -/

/-- The gate to all cluster APIs with the allow-lists of an environment. The
error of a load is reported by no record. -/
def forCluster (lists : Except AllowListsError AllowLists) :
    Logged (Except AllowListsError Gate) :=
  match lists with
  | .ok lists => create (.full clusterTable) lists
  | .error e => ⟨.error e, []⟩

end Gate

end ClusterGate
