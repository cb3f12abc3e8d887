import ClusterGate.Json.Numeral
import ClusterGate.Json.Shape

/-!
# Reading JSON

`Shape.read` reads a text as a document of a shape. It goes through the
text once and stops at the first thing that is wrong, be it that no
document goes on like this, that the text ends, or that the document has
another shape: whichever shows first is the error. A scalar is read before
its shape is judged, a list or object is judged by its opening bracket.

In an object the last of equal keys counts, except that a record names
each of its fields once. What a shape skips is read leniently: numbers may
be out of range there and escapes need not be characters.
-/

namespace ClusterGate

namespace Json

/-! ## Texts in quotes -/

/-- The number of four hexadecimal digits. -/
def hexFour? : List Char → Option Nat
  | [a, b, c, d] => do
    let a ← Percent.hexValue? a
    let b ← Percent.hexValue? b
    let c ← Percent.hexValue? c
    let d ← Percent.hexValue? d
    return 0x1000 * a + 0x100 * b + 0x10 * c + d
  | _ => none

/-- Reads the four digits of an escape. Without four bytes left the text
counts as cut off. -/
def readHexFour (text : List Char) : Except ReadError (Nat × List Char) :=
  match hexFour? (text.take 4) with
  | some n => .ok (n, text.drop 4)
  | none =>
    .error (if (Utf8.encode (text.take 4)).length < 4 then .truncated
      else .malformed)

/-- The character a one-letter escape stands for. -/
def shortEscape? : Char → Option Char
  | '"' => some '"'
  | '\\' => some '\\'
  | '/' => some '/'
  | 'b' => some '\x08'
  | 'f' => some '\x0c'
  | 'n' => some '\n'
  | 'r' => some '\r'
  | 't' => some '\t'
  | _ => none

/-- Reads the second half of a character outside the basic plane, given the
first one. -/
def readLowHalf (high : Nat) (text : List Char) :
    Except ReadError (Char × List Char) :=
  match text with
  | [] => .error .truncated
  | ['\\'] => .error .truncated
  | '\\' :: 'u' :: rest => do
    let (low, rest) ← readHexFour rest
    if 0xDC00 ≤ low ∧ low ≤ 0xDFFF then
      return (Char.ofNat
        (0x10000 + (high - 0xD800) * 0x400 + (low - 0xDC00)), rest)
    else throw .malformed
  | _ => .error .malformed

/-- Reads an escape after its backslash. Only a strict reader asks that it
is a character. -/
def readEscape (strict : Bool) (text : List Char) :
    Except ReadError (Char × List Char) :=
  match text with
  | [] => .error .truncated
  | 'u' :: rest => do
    let (n, rest) ← readHexFour rest
    if !strict then return ('\uFFFD', rest)
    else if 0xDC00 ≤ n ∧ n ≤ 0xDFFF then throw .malformed
    else if 0xD800 ≤ n ∧ n ≤ 0xDBFF then readLowHalf n rest
    else return (Char.ofNat n, rest)
  | c :: rest =>
    match shortEscape? c with
    | some d => .ok (d, rest)
    | none => .error .malformed

/-- Reads at most `fuel` characters up to the closing quote. -/
def readCharacters (strict : Bool) :
    Nat → List Char → Except ReadError (List Char × List Char)
  | 0, _ => .error .truncated
  | _ + 1, [] => .error .truncated
  | _ + 1, '"' :: rest => .ok ([], rest)
  | fuel + 1, '\\' :: rest => do
    let (c, rest) ← readEscape strict rest
    let (cs, rest) ← readCharacters strict fuel rest
    return (c :: cs, rest)
  | fuel + 1, c :: rest => do
    if c.toNat < 0x20 then throw .malformed
    let (cs, rest) ← readCharacters strict fuel rest
    return (c :: cs, rest)

/-- Reads a text after its opening quote. -/
def readQuoted (strict : Bool) (text : List Char) :
    Except ReadError (String × List Char) :=
  (readCharacters strict (text.length + 1) text).map fun (cs, rest) =>
    (String.ofList cs, rest)

/-! ## Scalars -/

/-- Without blanks at the front. -/
def skipBlanks (text : List Char) : List Char :=
  text.dropWhile fun c => c == ' ' || c == '\n' || c == '\t' || c == '\r'

/-- Reads the given characters. -/
def expectWord : List Char → List Char → Except ReadError (List Char)
  | [], text => .ok text
  | _ :: _, [] => .error .truncated
  | w :: word, c :: rest =>
    if w = c then expectWord word rest else .error .malformed

/-- Reads a number. -/
def readNumber (strict : Bool) (text : List Char) :
    Except ReadError (Json × List Char) := do
  let (numeral, rest) ← Numeral.read
    (if strict then .truncated else .malformed) text
  if !strict then return (.null, rest)
  match numeral.value? with
  | some value => return (.num value, rest)
  | none => throw .malformed

/-- Reads a value that is neither list nor object. -/
def readScalar (strict : Bool) (text : List Char) :
    Except ReadError (Json × List Char) :=
  match text with
  | [] => .error .truncated
  | '"' :: rest => (readQuoted strict rest).map fun (s, rest) => (.str s, rest)
  | 'n' :: rest => (expectWord "ull".toList rest).map fun rest => (.null, rest)
  | 't' :: rest =>
    (expectWord "rue".toList rest).map fun rest => (.bool true, rest)
  | 'f' :: rest =>
    (expectWord "alse".toList rest).map fun rest => (.bool false, rest)
  | c :: _ =>
    if c == '-' || c.isDigit then readNumber strict text else .error .malformed

/-! ## Inside lists and objects -/

/-- Goes to the next item of a list; none at its end. -/
def nextItem (first : Bool) (text : List Char) :
    Except ReadError (Option Unit × List Char) :=
  match skipBlanks text with
  | [] => .error .truncated
  | ']' :: rest => .ok (none, rest)
  | c :: rest =>
    if first then .ok (some (), c :: rest)
    else if c == ',' then
      match skipBlanks rest with
      | [] => .error .truncated
      | ']' :: _ => .error .malformed
      | rest => .ok (some (), rest)
    else .error .malformed

/-- Reads the end of a list that may have no further items. -/
def endItems (text : List Char) : Except ReadError (List Char) :=
  match skipBlanks text with
  | [] => .error .truncated
  | ']' :: rest => .ok rest
  | _ => .error .malformed

/-- Reads the next key of an object; none at its end. -/
def nextKey (strict first : Bool) (text : List Char) :
    Except ReadError (Option String × List Char) :=
  match skipBlanks text with
  | [] => .error .truncated
  | '\x7d' :: rest => .ok (none, rest)
  | c :: rest =>
    let atKey := if first then c :: rest else skipBlanks rest
    if !first && c != ',' then .error .malformed
    else
      match atKey with
      | [] => .error .truncated
      | '"' :: rest => (readQuoted strict rest).map fun (key, rest) =>
        (some key, rest)
      | _ => .error .malformed

/-- Reads the colon after a key. -/
def expectColon (text : List Char) : Except ReadError (List Char) :=
  match skipBlanks text with
  | [] => .error .truncated
  | ':' :: rest => .ok rest
  | _ => .error .malformed

end Json

namespace Shape

open Json

/-! ## Documents -/

/-- Whether what has this shape is read strictly. -/
def isStrict : Shape → Bool
  | skipped => false
  | _ => true

/-- A verdict on the shape as an error of reading. -/
def judge {α : Type} (verdict : Except ShapeError α) : Except ReadError α :=
  verdict.mapError ReadError.mismatch

mutual

/-- Reads a document in at most `fuel` steps. -/
def readValue : Nat → Shape → List Char → Except ReadError (Json × List Char)
  | 0, _, _ => .error .truncated
  | fuel + 1, shape, text =>
    match skipBlanks text with
    | '[' :: rest => do
      let items ← judge shape.items
      let (values, rest) ← readItems fuel items true rest
      return (.arr values, rest)
    | '\x7b' :: rest => do
      let fields ← judge shape.fields
      let (entries, rest) ← readFields fuel fields shape.isStrict [] true rest
      return (ofFields entries, rest)
    | text => do
      let (value, rest) ← readScalar shape.isStrict text
      judge (shape.acceptsScalar value)
      return (value, rest)

/-- Reads the items of a list up to its end. -/
def readItems :
    Nat → Items → Bool → List Char → Except ReadError (List Json × List Char)
  | 0, _, _, _ => .error .truncated
  | fuel + 1, items, first, text =>
    match items.next? with
    | none => do
      let rest ← endItems text
      return ([], rest)
    | some (shape, items) => do
      match ← nextItem first text with
      | (none, rest) => return ([], rest)
      | (some _, rest) =>
        let (value, rest) ← readValue fuel shape rest
        let (values, rest) ← readItems fuel items false rest
        return (value :: values, rest)

/-- Reads the fields of an object up to its end, given those read
before. -/
def readFields : Nat → Fields → Bool → List (String × Json) → Bool → List Char →
    Except ReadError (List (String × Json) × List Char)
  | 0, _, _, _, _, _ => .error .truncated
  | fuel + 1, fields, strict, before, first, text => do
    match ← nextKey strict first text with
    | (none, rest) => return (before, rest)
    | (some key, rest) =>
      if fields.knows key && before.any (·.1 == key) then
        throw (.mismatch (.repeatedField key))
      let shape := fields.shapeOf key
      let (value, rest) ← readValue fuel shape (← expectColon rest)
      let kept := if shape.isStrict then before ++ [(key, value)] else before
      readFields fuel fields strict kept false rest

end

/-- Reads a text as a document of a shape. -/
def read (shape : Shape) (text : String) : Except ReadError Json := do
  let (value, rest) ← shape.readValue (2 * text.length + 2) text.toList
  if (skipBlanks rest).isEmpty then return value else throw .malformed

end Shape

end ClusterGate
