import ClusterGate.Text.Percent
import ClusterGate.Text.Split

/-!
# Form-encoded queries

A query as a list of pairs: each pair is a key and a value with `=`
between them, and `&` stands between pairs. A space is written `+`, and
every byte other than a letter, a digit or one of `*-._` is escaped.

Reading is lenient: empty pieces are skipped, a piece without `=` is a key
with an empty value, and bytes that are no UTF-8 become replacement
characters.
-/

namespace ClusterGate.Query

/-! ## Writing -/

/-- Bytes that stand for themselves. -/
def isPlain (b : UInt8) : Bool :=
  let n := b.toNat
  (0x30 ≤ n && n ≤ 0x39) || (0x41 ≤ n && n ≤ 0x5A) || (0x61 ≤ n && n ≤ 0x7A) ||
    n == 0x2A || n == 0x2D || n == 0x2E || n == 0x5F

def encodeByte (b : UInt8) : List Char :=
  if isPlain b then [Char.ofNat b.toNat]
  else if b = 0x20 then ['+']
  else Percent.escapeByte b

/-- A key or value in encoded form. -/
def encode (text : List Char) : List Char :=
  (Utf8.encode text).flatMap encodeByte

def encodePair (pair : String × String) : List Char :=
  encode pair.1.toList ++ '=' :: encode pair.2.toList

/-- The query of a list of pairs. -/
def render (pairs : List (String × String)) : List Char :=
  Text.joinWith '&' (pairs.map encodePair)

/-! ## Reading -/

/-- The text of an encoded key or value. -/
def decode (text : List Char) : String :=
  String.ofList (Utf8.decodeLossy
    (Percent.decode (text.map fun c => if c = '+' then ' ' else c)))

/-- Splits a piece at its first `=`. -/
def decodePair (piece : List Char) : String × String :=
  let key := piece.takeWhile (· != '=')
  (decode key, decode (piece.drop (key.length + 1)))

/-- The pairs of a query. -/
def parse (query : List Char) : List (String × String) :=
  ((Text.splitAt '&' query).filter fun piece => !piece.isEmpty).map decodePair

end ClusterGate.Query
