import ClusterGate.Request.Limits
import ClusterGate.Text.Utf8
import ClusterGate.Uri.Error

/-!
# Why an input is rejected

A rejection has a message for the caller and names the input field that is
to be corrected.
-/

namespace ClusterGate

/-- A field of the input. -/
inductive InputField where
  | scheme
  | host
  | port
  | path
  | pathParams
  | url
  | connectionTimeout
  | socketTimeout
  deriving DecidableEq, Repr

def InputField.name : InputField → String
  | scheme => "scheme"
  | host => "host"
  | port => "port"
  | path => "path"
  | pathParams => "path_params"
  | url => "url"
  | connectionTimeout => "connection_timeout"
  | socketTimeout => "socket_timeout"

/-- Why a URI cannot be used. -/
inductive UriFault where
  | unreadable (cause : UriError)
  | unsupportedScheme (scheme : String)
  | missingHost
  | emptySegment
  | repeatedParameter (key : String)
  | undecodablePath (cause : Utf8.DecodeError)
  deriving DecidableEq, Repr

def UriFault.message : UriFault → String
  | unreadable cause => cause.message
  | unsupportedScheme scheme =>
    "scheme `" ++ scheme ++ "` is not one of " ++
      String.intercalate ", " supportedSchemes
  | missingHost => "missing host"
  | emptySegment => "path contains an empty segment"
  | repeatedParameter key => "query parameter `" ++ key ++ "` is repeated"
  | undecodablePath cause => cause.message

/-- Why an input is rejected. -/
inductive Rejection where
  | missingFields
  | timeoutOutOfRange (kind : TimeoutKind) (seconds : Int32)
  | invalidUrl (field : InputField) (url : String) (fault : UriFault)
  | conflictingTarget (url fromFields : String)
  | unsupportedHostOrPort (host : String) (port : UInt16)
  | unsupportedApi (path : String)
  | bannedParams (params : String)
  | missingParams (api : String)
  | unsupportedParams (api params : String)
  deriving DecidableEq, Repr

/-- Whether a host is the supported one; the case of ASCII letters does not
matter. -/
def isSupportedHost (host : String) : Bool :=
  host.toList.map Char.toLower == supportedHost.toList

namespace Rejection

/-- The banned characters in quotes. -/
def bannedText : String :=
  String.intercalate " " (bannedCharacters.map
    fun c => String.ofList ['\'', c, '\''])

def message : Rejection → String
  | missingFields => "the url field or the path field must be defined"
  | timeoutOutOfRange kind seconds =>
    kind.name ++ " timeout " ++ toString seconds.toInt ++
      " is not in the range of " ++
      toString kind.least.toInt ++ " - " ++ toString kind.greatest.toInt
  | invalidUrl _ url fault => "invalid url `" ++ url ++ "`: " ++ fault.message
  | conflictingTarget url fromFields =>
    "the url field `" ++ url ++ "` and the uri fields `" ++ fromFields ++
      "` form different urls"
  | unsupportedHostOrPort host port =>
    "only host `" ++ supportedHost ++ "` and port `" ++
      toString supportedPort.toNat ++
      "` are supported, got host `" ++ host ++ "` and port `" ++
        toString port.toNat ++ "`"
  | unsupportedApi path =>
    "the api could not be determined from the path `" ++ path ++ "`"
  | bannedParams params =>
    "the path parameters `" ++ params ++
      "` contain invalid characters or spaces; please omit: " ++ bannedText
  | missingParams api => "the " ++ api ++ " api requires path parameters"
  | unsupportedParams api params =>
    "the " ++ api ++ " api does not use path parameters, got `" ++ params ++ "`"

/-- The field that the caller has to correct. -/
def field : Rejection → InputField
  | missingFields => .url
  | timeoutOutOfRange .connection _ => .connectionTimeout
  | timeoutOutOfRange .socket _ => .socketTimeout
  | invalidUrl field _ _ => field
  | conflictingTarget _ _ => .url
  | unsupportedHostOrPort host _ =>
    if isSupportedHost host then .port else .host
  | unsupportedApi _ => .path
  | bannedParams _ => .pathParams
  | missingParams _ => .pathParams
  | unsupportedParams _ _ => .pathParams

end Rejection

end ClusterGate
