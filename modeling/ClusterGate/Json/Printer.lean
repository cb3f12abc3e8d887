import ClusterGate.Json.Basic
import ClusterGate.Text.Split

/-!
# Writing JSON

A document on one line without blanks. A double is written with the fewest
digits that read back as the same number.
-/

namespace ClusterGate

/-! ## Numbers -/

namespace Binary64

/-- Leading exponents from here on are written without an exponent … -/
def leastPositional : Int := -5

/-- … up to this one. -/
def greatestPositional : Int := 15

/-- An exponent with its sign and at least two digits. -/
def exponentText (e : Int) : List Char :=
  let digits := Nat.toDigits 10 e.natAbs
  (if e < 0 then '-' else '+') ::
    (if digits.length < 2 then '0' :: digits else digits)

/-- Digits with a point after the first `n` of them, filled up with
zeros. -/
def withPoint (digits : List Char) (n : Nat) : List Char :=
  let whole := digits.take n ++ List.replicate (n - digits.length) '0'
  let fraction := digits.drop n
  whole ++ '.' :: (if fraction.isEmpty then ['0'] else fraction)

/-- A number given by its digits and the exponent of the first one. -/
def layout (digits : List Char) (e : Int) : List Char :=
  if leastPositional ≤ e ∧ e < 0 then
    withPoint ('0' :: List.replicate (e.natAbs - 1) '0' ++ digits) 1
  else if 0 ≤ e ∧ e ≤ greatestPositional then withPoint digits (e.natAbs + 1)
  else
    (match digits with
      | first :: second :: rest => first :: '.' :: second :: rest
      | _ => digits) ++ 'e' :: exponentText e

def render (x : Binary64) : String :=
  let d := x.shortestDigits
  let digits := Nat.toDigits 10 d.digits
  String.ofList ((if x.negative then ['-'] else []) ++
    layout digits (d.exponent + (digits.length - 1)))

end Binary64

def Number.render : Number → String
  | int value =>
    String.ofList ((if value < 0 then ['-'] else []) ++
      Nat.toDigits 10 value.natAbs)
  | real value => value.render

/-! ## Texts -/

namespace Json

/-- Four lower-case hexadecimal digits. -/
def hexFour (n : Nat) : List Char :=
  let digits := Nat.toDigits 16 n
  List.replicate (4 - digits.length) '0' ++ digits

/-- One character inside quotes. -/
def escapeChar (c : Char) : List Char :=
  match c with
  | '"' => ['\\', '"']
  | '\\' => ['\\', '\\']
  | '\x08' => ['\\', 'b']
  | '\x0c' => ['\\', 'f']
  | '\n' => ['\\', 'n']
  | '\r' => ['\\', 'r']
  | '\t' => ['\\', 't']
  | _ => if c.toNat < 0x20 then '\\' :: 'u' :: hexFour c.toNat else [c]

/-- A text in quotes. -/
def quoted (text : String) : List Char :=
  '"' :: text.toList.flatMap escapeChar ++ ['"']

/-! ## Documents -/

mutual

/-- A document as text. -/
def print : Json → List Char
  | .null => "null".toList
  | .bool true => "true".toList
  | .bool false => "false".toList
  | .num value => value.render.toList
  | .str value => quoted value
  | .arr items => '[' :: Text.joinWith ',' (printItems items) ++ [']']
  | .obj fields => '\x7b' :: Text.joinWith ',' (printFields fields) ++ ['\x7d']

def printItems : List Json → List (List Char)
  | [] => []
  | item :: rest => item.print :: printItems rest

def printFields : List (String × Json) → List (List Char)
  | [] => []
  | (key, value) :: rest =>
    (quoted key ++ ':' :: value.print) :: printFields rest

end

/-- A document as text. -/
def render (document : Json) : String := String.ofList document.print

end Json

end ClusterGate
