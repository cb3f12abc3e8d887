import ClusterGate.Json.Reader
import ClusterGate.Request.Limits

/-!
# What a caller asks for

A caller names the API to call by a URL, by the components of one, or by
both. As a document the input is an object, in which every field may be
missing, or the list of its first fields in order. A port that is not
set is written as `-1`, and `null` and negative numbers are read as
such.
-/

namespace ClusterGate

/-- A caller's input, not yet validated. -/
structure CallerInput where
  /-- Accepted and ignored; the API always follows from the path. -/
  apiType : String
  scheme : String
  host : String
  port : Option UInt16
  path : String
  pathParams : String
  queryParams : SortedMap String
  url : String
  connectionTimeout : Int32
  socketTimeout : Int32
  deriving DecidableEq, Repr

namespace CallerInput

/-! ## Building an input -/

/-- The input that asks for nothing, with the longest timeouts. -/
def empty : CallerInput where
  apiType := ""
  scheme := ""
  host := ""
  port := none
  path := ""
  pathParams := ""
  queryParams := ∅
  url := ""
  connectionTimeout := TimeoutKind.connection.greatest
  socketTimeout := TimeoutKind.socket.greatest

instance : Inhabited CallerInput := ⟨empty⟩

def ofUrl (url : String) : CallerInput := { empty with url }

def ofPath (path : String) : CallerInput := { empty with path }

def withScheme (input : CallerInput) (scheme : String) : CallerInput :=
  { input with scheme }

def withHost (input : CallerInput) (host : String) : CallerInput :=
  { input with host }

def withPort (input : CallerInput) (port : UInt16) : CallerInput :=
  { input with port := some port }

def withPath (input : CallerInput) (path : String) : CallerInput :=
  { input with path }

def withPathParams (input : CallerInput) (pathParams : String) : CallerInput :=
  { input with pathParams }

def withQueryParam (input : CallerInput) (key value : String) : CallerInput :=
  { input with queryParams := input.queryParams.insert key value }

def withTimeouts (input : CallerInput)
    (connectionTimeout socketTimeout : Int32) : CallerInput :=
  { input with connectionTimeout, socketTimeout }

/-! ## As a document -/

/-- A map of texts as a document. -/
def ofTextMap (map : SortedMap String) : Json :=
  .obj (map.entries.map fun e => (e.1, .str e.2))

/-- A number of seconds as a document. -/
def ofSeconds (seconds : Int32) : Json := .num (.int seconds.toInt)

/-- The port as a document. -/
def ofPort (port : Option UInt16) : Json :=
  .num (.int (match port with
    | some port => Int.ofNat port.toNat
    | none => -1))

def toJson (input : CallerInput) : Json :=
  .obj
    [("api_type", .str input.apiType),
     ("connection_timeout", ofSeconds input.connectionTimeout),
     ("host", .str input.host),
     ("path", .str input.path),
     ("path_params", .str input.pathParams),
     ("port", ofPort input.port),
     ("query_params", ofTextMap input.queryParams),
     ("scheme", .str input.scheme),
     ("socket_timeout", ofSeconds input.socketTimeout),
     ("url", .str input.url)]

/-! ## From a document -/

/-- Accepts ports: nothing, or a 64-bit integer that is no number above the
last port. -/
def acceptPort : Json → Except ShapeError Unit
  | .null => .ok ()
  | .num (.int n) =>
    (Shape.acceptInteger 64 (.num (.int n))).bind fun _ =>
      if n < 65536 then .ok ()
      else .error (.wrongValue (.num (.int n)) "a port between 0 and 65535")
  | value => Shape.acceptInteger 64 value

/-- The fields in the order in which a list gives them. -/
def fields : List (String × Shape) :=
  [("api_type", .text), ("scheme", .text), ("host", .text),
   ("port", .scalar acceptPort), ("path", .text), ("path_params", .text),
   ("query_params", .map .text), ("url", .text),
   ("connection_timeout", .scalar (Shape.acceptInteger 32)),
   ("socket_timeout", .scalar (Shape.acceptInteger 32))]

/-- The shape of an input. -/
def shape : Shape := .record "UriInput" fields

/-- The fields that a document gives. -/
def entries : Json → List (String × Json)
  | .obj entries => entries
  | .arr values => (fields.map (·.1)).zip values
  | _ => []

/-- The text under a key; empty when there is none. -/
def textUnder (key : String) (entries : List (String × Json)) : String :=
  match lookupEntry key entries with
  | some (.str value) => value
  | _ => ""

def secondsUnder (key : String) (kind : TimeoutKind)
    (entries : List (String × Json)) : Int32 :=
  match lookupEntry key entries with
  | some (.num (.int n)) => Int32.ofInt n
  | _ => kind.greatest

def portUnder (key : String) (entries : List (String × Json)) : Option UInt16 :=
  match lookupEntry key entries with
  | some (.num (.int n)) => if n < 0 then none else some (UInt16.ofNat n.toNat)
  | _ => none

/-- The texts of an object. -/
def textMap : List (String × Json) → List (String × String)
  | [] => []
  | (key, .str value) :: rest => (key, value) :: textMap rest
  | _ :: rest => textMap rest

def textMapUnder (key : String) (entries : List (String × Json)) :
    SortedMap String :=
  match lookupEntry key entries with
  | some (.obj fields) => .ofList (textMap fields)
  | _ => ∅

/-- The input that a document of the right shape describes; a missing field
is as in the empty input. -/
def ofEntries (entries : List (String × Json)) : CallerInput where
  apiType := textUnder "api_type" entries
  scheme := textUnder "scheme" entries
  host := textUnder "host" entries
  port := portUnder "port" entries
  path := textUnder "path" entries
  pathParams := textUnder "path_params" entries
  queryParams := textMapUnder "query_params" entries
  url := textUnder "url" entries
  connectionTimeout := secondsUnder "connection_timeout" .connection entries
  socketTimeout := secondsUnder "socket_timeout" .socket entries

/-- Reads an input from a document. -/
def ofJson (document : Json) : Except ShapeError CallerInput :=
  (shape.check document).map fun _ => ofEntries (entries document)

/-- Reads an input from a text. -/
def ofText (text : String) : Except ReadError CallerInput :=
  (shape.read text).map fun document => ofEntries (entries document)

end CallerInput

end ClusterGate
