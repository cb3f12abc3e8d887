import ClusterGate.Text.Percent
import ClusterGate.Text.Split

/-!
# IPv4 addresses in hosts

A host whose last part is a number is an IPv4 address or an error. Each
part may be decimal, octal after a leading `0`, or hexadecimal after
`0x`; with fewer than four parts the last one fills the remaining bytes,
so that `127.1` is `127.0.0.1`.
-/

namespace ClusterGate.Ipv4

/-- The number that digits below `base` write. -/
def readDigits? (base : Nat) (digits : List Char) : Option Nat :=
  digits.foldlM (fun n c =>
    match Percent.hexValue? c with
    | some d => if d < base then some (base * n + d) else none
    | none => none) 0

/-- Reads one part. The digits after a radix mark may be missing and then
count as zero. -/
def readPart? : List Char → Option Nat
  | [] => none
  | '0' :: 'x' :: digits => readDigits? 16 digits
  | '0' :: 'X' :: digits => readDigits? 16 digits
  | '0' :: digits => readDigits? 8 digits
  | digits => readDigits? 10 digits

/-- The parts between the dots, without an empty one at the end. -/
def parts (host : List Char) : List (List Char) :=
  let all := Text.splitAt '.' host
  if all.getLast? = some [] then all.dropLast else all

/-- Whether the last part is written as a number. -/
def endsInNumber (host : List Char) : Bool :=
  match (parts host).getLast? with
  | none => false
  | some part =>
    (!part.isEmpty && part.all Char.isDigit) || (readPart? part).isSome

/-- The value of the parts: the last number fills the bytes that the ones
before it leave. -/
def combine? (numbers : List Nat) : Option Nat :=
  match numbers.reverse with
  | [] => none
  | last :: leading =>
    if numbers.length > 4 ∨ last ≥ Nat.pow 256 (5 - numbers.length) ∨
      leading.any (255 < ·) then
      none
    else
      let places :=
        leading.reverse.zipIdx.map fun p => p.1 * Nat.pow 256 (3 - p.2)
      some (last + places.foldr (· + ·) 0)

/-- Reads an address. -/
def read? (host : List Char) : Option Nat := do
  let numbers ← (parts host).mapM readPart?
  combine? numbers

/-- The four bytes in decimal with dots between them. -/
def render (address : Nat) : String :=
  let byte (i : Nat) : String := toString (address / Nat.pow 256 i % 256)
  byte 3 ++ "." ++ byte 2 ++ "." ++ byte 1 ++ "." ++ byte 0

end ClusterGate.Ipv4
