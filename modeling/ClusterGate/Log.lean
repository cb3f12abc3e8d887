import ClusterGate.Request.Basic

/-!
# Log records

What the gate reports about its work: a level, a message, and fields that
are texts or whole documents. An operation that reports gives back its
result together with its records in order (`Logged`).
-/

namespace ClusterGate

inductive LogLevel where
  | error
  | warning
  | info
  | debug
  deriving DecidableEq, Repr

def LogLevel.name : LogLevel → String
  | error => "ERROR"
  | warning => "WARNING"
  | info => "INFO"
  | debug => "DEBUG"

/-- The value of a field. -/
inductive LogValue where
  | text (value : String)
  | document (value : Json)
  deriving DecidableEq, Repr

structure LogRecord where
  level : LogLevel
  message : String
  fields : List (String × LogValue)
  deriving DecidableEq, Repr

/-- A result and the records that were made on the way to it. -/
structure Logged (α : Type) where
  result : α
  records : List LogRecord
  deriving Repr

/-- A count as the value of a field. -/
def LogValue.count (n : Nat) : LogValue := .text (toString n)

/-! ## Values that are logged whole -/

/-- Stands in for a value that has no form as a document. -/
def unloggable : Json := .str "Failed to serialize value"

/-- The document that is logged for a value. -/
def loggedDocument (document : Option Json) : Json := document.getD unloggable

/-- A request as the value of a field. -/
def Request.logValue (request : Request) : LogValue := .document request.toJson

end ClusterGate
