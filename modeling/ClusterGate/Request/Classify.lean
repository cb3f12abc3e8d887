import ClusterGate.Api.Catalog
import ClusterGate.Request.Basic
import ClusterGate.Request.Params
import ClusterGate.Request.Target

/-!
# Classifying an input

Validation of an input against a catalog. The checks run in a fixed order
and the first one that fails is the rejection: required fields, timeouts,
the URI and its query, agreement of URL and components, host and port, the
API, and last the path parameters.

Fields that the caller left empty are filled in from the URI.
-/

namespace ClusterGate

namespace CallerInput

/-- Whether the input names a target at all. -/
def namesTarget (input : CallerInput) : Bool :=
  !(input.url.isEmpty && input.path.isEmpty && input.scheme.isEmpty)

/-- Rejects a timeout that is out of range. -/
def checkTimeout (kind : TimeoutKind) (seconds : Int32) :
    Except Rejection Unit :=
  if kind.allows seconds then .ok ()
  else .error (.timeoutOutOfRange kind seconds)

/-- Rejects components that describe another target than the URL, if both
are given. -/
def checkAgreement (input : CallerInput) (uri : Uri) : Except Rejection Unit :=
  if input.url.isEmpty || input.path.isEmpty then .ok ()
  else do
    let components ← input.componentUri
    if components.sameTarget uri then return ()
    else throw (.conflictingTarget input.url components.render)

/-- The path that a request shows: the caller's, or else the beginning of
the one that parameters follow. -/
def shownPath (input : CallerInput) (route : Route) (params : String) :
    String :=
  if !input.path.isEmpty then input.path
  else if params.isEmpty then route.path
  else route.lead

end CallerInput

/-- Rejects every host and port but the supported ones. -/
def Uri.checkEndpoint (uri : Uri) : Except Rejection Unit :=
  let port := uri.effectivePort?.getD 0
  if isSupportedHost uri.hostText && port == supportedPort then .ok ()
  else .error (.unsupportedHostOrPort uri.hostText port)

namespace Catalog

/-- The request that an input describes. -/
def classify (catalog : Catalog) (input : CallerInput) :
    Except Rejection Request := do
  if !input.namesTarget then throw .missingFields
  CallerInput.checkTimeout .connection input.connectionTimeout
  CallerInput.checkTimeout .socket input.socketTimeout
  let uri ← input.targetUri
  let query ← uri.queryMap input.targetField
  input.checkAgreement uri
  uri.checkEndpoint
  let path ← uri.decodedPath input.targetField
  match catalog.findEntry? path with
  | none => throw (.unsupportedApi path)
  | some (api, route) =>
    let params ← api.extractParams path input.pathParams
    return {
      api
      scheme := uri.scheme
      host := String.ofList (uri.hostText.toList.map Char.toLower)
      port := uri.effectivePort?.getD 0
      path := input.shownPath route params
      pathParams := params
      queryParams :=
        if input.queryParams.isEmpty then query else input.queryParams
      url := if input.url.isEmpty then uri.render else input.url
      connectionTimeout := input.connectionTimeout
      socketTimeout := input.socketTimeout
      uri }

/-- The API that a bare path belongs to. -/
def classifyPath (catalog : Catalog) (path : String) : Except Rejection Api :=
  match catalog.find? path with
  | some api => .ok api
  | none => .error (.unsupportedApi path)

end Catalog

end ClusterGate
