import ClusterGate.Text.Percent
import ClusterGate.Text.Split

/-!
# Tables over code points

Data of a character property, written as a text of entries between
blanks. An entry is `first`, `first-last` or `first-last/step`, all in
hexadecimal, and after a colon the value it gives to the code points it
covers. With a step only every `step`-th code point from `first` on is
covered.
-/

namespace ClusterGate.Text

/-- A run of code points with one value. -/
structure TableEntry where
  first : Nat
  last : Nat
  step : Nat
  value : List Char
  deriving Repr

namespace TableEntry

/-- Whether the entry covers a code point. -/
def covers (e : TableEntry) (n : Nat) : Bool :=
  e.first ≤ n && n ≤ e.last && (n - e.first) % e.step == 0

/-- The number written in hexadecimal. -/
def readHex (digits : List Char) : Nat :=
  digits.foldl (fun n c => 16 * n + (Percent.hexValue? c).getD 0) 0

/-- Reads one entry. -/
def read (text : List Char) : TableEntry :=
  let key := text.takeWhile (· != ':')
  let value := text.drop (key.length + 1)
  let bounds := key.takeWhile (· != '/')
  let step := key.drop (bounds.length + 1)
  let first := bounds.takeWhile (· != '-')
  let last := bounds.drop (first.length + 1)
  { first := readHex first
    last := if last.isEmpty then readHex first else readHex last
    step := if step.isEmpty then 1 else readHex step
    value }

end TableEntry

/-- Reads a table. -/
def readTable (text : String) : List TableEntry :=
  ((splitWhen (fun c => c == ' ' || c == '\n') text.toList).filter fun t =>
    !t.isEmpty).map
      TableEntry.read

/-- Reads a table that is written in several parts. -/
def readTables (texts : List String) : List TableEntry :=
  texts.flatMap readTable

/-- Whether some entry covers a code point. -/
def covered (table : List TableEntry) (n : Nat) : Bool := table.any (·.covers n)

/-- The value a table gives to a code point. -/
def valueOf? (table : List TableEntry) (n : Nat) : Option (List Char) :=
  (table.find? (·.covers n)).map (·.value)

/-- The text that an entry puts in place of a code point it covers: after
`>` the code point that `first` goes to, the others being shifted as far,
and otherwise a list of code points. -/
def TableEntry.replacement (e : TableEntry) (n : Nat) : List Char :=
  match e.value with
  | '>' :: target => [Char.ofNat (TableEntry.readHex target + (n - e.first))]
  | [] => []
  | codes => (splitAt ',' codes).map fun code =>
    Char.ofNat (TableEntry.readHex code)

end ClusterGate.Text
