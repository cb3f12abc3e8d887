/-!
# What a request may ask for

The one host and port that requests may go to, the schemes and timeouts
they may use, and the characters that path parameters may not contain.
-/

namespace ClusterGate

def supportedHost : String := "localhost"

def supportedPort : UInt16 := 9200

def supportedSchemes : List String := ["http", "https"]

/-- The scheme of a request that names none. -/
def defaultScheme : String := "http"

/-- The two timeouts of a request. -/
inductive TimeoutKind where
  | connection
  | socket
  deriving DecidableEq, Repr

namespace TimeoutKind

def name : TimeoutKind → String
  | connection => "connection"
  | socket => "socket"

/-- The least number of seconds. -/
def least : TimeoutKind → Int32
  | connection => 1
  | socket => 1

/-- The greatest number of seconds, which is also what is used when none is
given. -/
def greatest : TimeoutKind → Int32
  | connection => 5
  | socket => 60

/-- Whether a timeout is in range. -/
def allows (kind : TimeoutKind) (seconds : Int32) : Bool :=
  kind.least ≤ seconds && seconds ≤ kind.greatest

end TimeoutKind

/-- Characters that path parameters never contain. -/
def bannedCharacters : List Char := ['=', '?', '"', ' ']

end ClusterGate
