import ClusterGate.Text.Utf8

/-!
# Percent-encoding

A byte written as `%` and two hexadecimal digits. Encoding writes each
byte of a character that belongs to a set in this form and every other
character as it is; decoding turns each complete escape into its byte and
leaves a `%` without two digits after it alone.
-/

namespace ClusterGate.Percent

/-! ## Hexadecimal digits -/

/-- The upper-case digit for a number below sixteen. -/
def hexDigit (n : Nat) : Char :=
  if n < 10 then Char.ofNat (0x30 + n) else Char.ofNat (0x37 + n)

/-- The value of a hexadecimal digit of either case. -/
def hexValue? (c : Char) : Option Nat :=
  if '0' ≤ c ∧ c ≤ '9' then some (c.toNat - 0x30)
  else if 'A' ≤ c ∧ c ≤ 'F' then some (c.toNat - 0x37)
  else if 'a' ≤ c ∧ c ≤ 'f' then some (c.toNat - 0x57)
  else none

/-! ## Encoding -/

/-- One byte as an escape. -/
def escapeByte (b : UInt8) : List Char :=
  ['%', hexDigit (b.toNat / 16), hexDigit (b.toNat % 16)]

/-- All bytes of a character as escapes. -/
def escapeChar (c : Char) : List Char := (Utf8.encodeChar c).flatMap escapeByte

/-- The text with the characters of a set escaped. -/
def encode (set : Char → Bool) (text : List Char) : List Char :=
  text.flatMap fun c => if set c then escapeChar c else [c]

/-! ## Decoding -/

/-- The bytes of a text, with each complete escape read as its byte. -/
def decode : List Char → List UInt8
  | [] => []
  | '%' :: a :: b :: rest =>
    match hexValue? a, hexValue? b with
    | some x, some y => UInt8.ofNat (16 * x + y) :: decode rest
    | _, _ => 0x25 :: decode (a :: b :: rest)
  | c :: rest => Utf8.encodeChar c ++ decode rest

/-! ## Sets of characters to escape

Each set contains the controls and everything outside ASCII. -/

/-- Controls and everything outside ASCII. -/
def controls (c : Char) : Bool := c.toNat < 0x20 || 0x7E < c.toNat

/-- Escaped in a fragment. -/
def fragment (c : Char) : Bool := controls c || " \"<>`".toList.contains c

/-- Escaped in a query. -/
def query (c : Char) : Bool := controls c || " \"#<>".toList.contains c

/-- Escaped in the query of a special scheme. -/
def specialQuery (c : Char) : Bool := query c || c == '\''

/-- Escaped in a path. -/
def path (c : Char) : Bool := fragment c || "#?\x7b\x7d".toList.contains c

/-- Escaped in a user name or password. -/
def userinfo (c : Char) : Bool := path c || "/:;=@[\\]^|".toList.contains c

end ClusterGate.Percent
