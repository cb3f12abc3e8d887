import ClusterGate.Api.Basic
import ClusterGate.Request.Input
import ClusterGate.Uri.Basic

/-!
# Canonical requests

What is left to do after validation: a request to exactly one API, with
every field filled in. It can be given back as an input (`toInput`), which
describes the same request.
-/

namespace ClusterGate

/-- A validated request. -/
structure Request where
  api : Api
  scheme : String
  host : String
  port : UInt16
  path : String
  pathParams : String
  queryParams : SortedMap String
  url : String
  connectionTimeout : Int32
  socketTimeout : Int32
  /-- The URI that the request goes to. -/
  uri : Uri
  deriving DecidableEq, Repr

namespace Request

/-- The request as an input with every field filled in. -/
def toInput (request : Request) : CallerInput where
  apiType := request.api.name
  scheme := request.scheme
  host := request.host
  port := some request.port
  path := request.path
  pathParams := request.pathParams
  queryParams := request.queryParams
  url := request.url
  connectionTimeout := request.connectionTimeout
  socketTimeout := request.socketTimeout

def toJson (request : Request) : Json :=
  .obj
    [("api_type", .str request.api.name),
     ("connection_timeout", CallerInput.ofSeconds request.connectionTimeout),
     ("host", .str request.host),
     ("path", .str request.path),
     ("path_params", .str request.pathParams),
     ("port", .ofNat request.port.toNat),
     ("query_params", CallerInput.ofTextMap request.queryParams),
     ("scheme", .str request.scheme),
     ("socket_timeout", CallerInput.ofSeconds request.socketTimeout),
     ("url", .str request.url)]

end Request

end ClusterGate
