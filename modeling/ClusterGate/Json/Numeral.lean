import ClusterGate.Json.Error

/-!
# Numbers as they are written

The parts of a numeral, read off a text, and the number it stands for. A
numeral without fraction and exponent is an integer if it fits 64 bits;
every other one is a double, made from as many leading digits as fit 64
bits and a power of ten.
-/

namespace ClusterGate

/-- An exponent as it is written. -/
structure WrittenExponent where
  negative : Bool
  digits : List Char
  deriving DecidableEq, Repr

/-- A number as it is written; a part that is not there is empty. -/
structure Numeral where
  negative : Bool
  whole : List Char
  fraction : List Char
  exponent : Option WrittenExponent
  deriving DecidableEq, Repr

namespace Numeral

/-! ## Reading -/

/-- Reads one or more digits; `cut` is the error for the end of the text. -/
def readDigits (cut : ReadError) (text : List Char) :
    Except ReadError (List Char × List Char) :=
  match text with
  | [] => .error cut
  | c :: _ =>
    if c.isDigit then
      let digits := text.takeWhile Char.isDigit
      .ok (digits, text.drop digits.length)
    else .error .malformed

/-- Reads the digits before the point, which have no leading zero. -/
def readWhole (cut : ReadError) (text : List Char) :
    Except ReadError (List Char × List Char) := do
  let (digits, rest) ← readDigits cut text
  if digits.head? == some '0' && digits.length != 1 then throw .malformed
  return (digits, rest)

def readFraction (cut : ReadError) (text : List Char) :
    Except ReadError (List Char × List Char) :=
  match text with
  | '.' :: rest => readDigits cut rest
  | _ => .ok ([], text)

/-- A sign, and whether it is a minus. -/
def takeSign (text : List Char) : Bool × List Char :=
  match text with
  | '-' :: rest => (true, rest)
  | '+' :: rest => (false, rest)
  | _ => (false, text)

def readExponent (cut : ReadError) (text : List Char) :
    Except ReadError (Option WrittenExponent × List Char) :=
  match text with
  | c :: rest =>
    if c == 'e' || c == 'E' then
      let (negative, rest) := takeSign rest
      (readDigits cut rest).map fun (digits, rest) =>
        (some ⟨negative, digits⟩, rest)
    else .ok (none, text)
  | [] => .ok (none, text)

/-- Reads a numeral; `cut` is the error for the end of the text inside
it. -/
def read (cut : ReadError) (text : List Char) :
    Except ReadError (Numeral × List Char) := do
  let (negative, text) :=
    match text with
    | '-' :: rest => (true, rest)
    | _ => (false, text)
  let (whole, text) ← readWhole cut text
  let (fraction, text) ← readFraction cut text
  let (exponent, text) ← readExponent cut text
  return ({ negative, whole, fraction, exponent }, text)

/-! ## Value -/

/-- Puts digits behind a number as long as it fits 64 bits, and gives back
the digits that are left. -/
def appendDigits (n : Nat) : List Char → Nat × List Char
  | [] => (n, [])
  | d :: rest =>
    let m := 10 * n + (d.toNat - 0x30)
    if m < Nat.pow 2 64 then appendDigits m rest else (n, d :: rest)

def digitsValue (digits : List Char) : Nat :=
  digits.foldl (fun n d => 10 * n + (d.toNat - 0x30)) 0

def WrittenExponent.value (e : WrittenExponent) : Int :=
  let n : Int := digitsValue e.digits
  if e.negative then -n else n

/-- The integer of a sign and a magnitude. Zero with a sign and what does
not fit a signed 64-bit integer are doubles. -/
def signed? (negative : Bool) (magnitude : Nat) : Option Number :=
  if !negative then some (.int magnitude)
  else if magnitude = 0 ∨ Nat.pow 2 63 < magnitude then
    (Binary64.ofDecimal true magnitude 0).map .real
  else some (.int (-magnitude))

/-- The number that a numeral stands for; none when it is too large. -/
def value? (x : Numeral) : Option Number :=
  let (n, dropped) := appendDigits 0 x.whole
  if dropped.isEmpty && x.fraction.isEmpty && x.exponent.isNone then
    signed? x.negative n
  else
    let (m, unused) := appendDigits n x.fraction
    let taken : Int := x.fraction.length - unused.length
    let exponent := (x.exponent.map WrittenExponent.value).getD 0
    (Binary64.ofDecimal x.negative m (dropped.length - taken + exponent)).map
      .real

end Numeral

end ClusterGate
