import ClusterGate.Domain.CompositionTable

/-!
# Canonical composition

Texts that look the same can be written with composed characters or with
a base character and marks. `compose` gives the composed form of a text:
characters are taken apart into base and marks, marks are put in the order
of their combining classes, and each mark is joined to its base where
there is a character for the two. A text is *composed* when that changes
nothing.
-/

namespace ClusterGate.Domain

/-! ## Data of one character -/

/-- The combining class; zero for every character that is no mark. -/
def combiningClass (n : Nat) : Nat :=
  match Text.valueOf? combiningClassTable n with
  | some value => Text.TableEntry.readHex value
  | none => 0

/-- Whether a code point is a combining mark. -/
def isMark (n : Nat) : Bool := Text.covered markTable n

/-- All pairs as second character, first character and composition. -/
def pairs : List (Nat × Nat × Nat) :=
  pairTable.flatMap fun e =>
    (Text.splitAt ',' e.value).map fun pair =>
      let first := pair.takeWhile (· != '>')
      (e.first, Text.TableEntry.readHex first,
        Text.TableEntry.readHex (pair.drop (first.length + 1)))

/-! ## Hangul syllables

A syllable is a leading consonant, a vowel and perhaps a trailing
consonant; its code point is computed from theirs. -/

def hangulBase : Nat := 0xAC00
def leadBase : Nat := 0x1100
def vowelBase : Nat := 0x1161
def tailBase : Nat := 0x11A7
def leadCount : Nat := 19
def vowelCount : Nat := 21
def tailCount : Nat := 28

def isHangul (n : Nat) : Bool :=
  hangulBase ≤ n && n < hangulBase + leadCount * vowelCount * tailCount

/-- The parts of a syllable. -/
def hangulParts (n : Nat) : List Nat :=
  let i := n - hangulBase
  let tail := i % tailCount
  let lead := leadBase + i / (vowelCount * tailCount)
  let vowel := vowelBase + i / tailCount % vowelCount
  if tail = 0 then [lead, vowel] else [lead, vowel, tailBase + tail]

/-- The syllable of a lead and a vowel, or of an open syllable and a
tail. -/
def composeHangul? (a b : Nat) : Option Nat :=
  if leadBase ≤ a ∧ a < leadBase + leadCount ∧ vowelBase ≤ b ∧
    b < vowelBase + vowelCount then
    some (hangulBase + ((a - leadBase) * vowelCount + (b - vowelBase)) *
      tailCount)
  else if isHangul a ∧ (a - hangulBase) % tailCount = 0 ∧ tailBase < b ∧
    b < tailBase + tailCount then
    some (a + (b - tailBase))
  else none

/-! ## Taking apart and putting together -/

/-- The character two others compose to. -/
def composePair? (a b : Nat) : Option Nat :=
  match composeHangul? a b with
  | some n => some n
  | none => (pairs.find? fun p => p.1 == b && p.2.1 == a).map (·.2.2)

/-- Takes a character apart, to a depth that covers every chain of
pairs. -/
def decomposeChar : Nat → Nat → List Nat
  | 0, n => [n]
  | depth + 1, n =>
    if isHangul n then hangulParts n
    else
      (pairs.find? fun p => p.2.2 == n).elim [n] fun p =>
        decomposeChar depth p.2.1 ++ [p.1]

/-- Puts a code point behind those whose class is not greater; a starter
stays where it is. -/
def insertMark (n : Nat) : List Nat → List Nat
  | [] => [n]
  | m :: rest =>
    if combiningClass n != 0 && combiningClass n < combiningClass m then
      m :: insertMark n rest
    else n :: m :: rest

/-- The text in canonical order, reversed. -/
def orderReversed (codes : List Nat) : List Nat :=
  codes.foldl (fun acc n => insertMark n acc) []

/-- Joins marks to the starter before them. `held` are the marks that did
not join, the last one first. -/
def joinMarks (starter : Option Nat) (held : List Nat) : List Nat → List Nat
  | [] => starter.toList ++ held.reverse
  | n :: rest =>
    let free :=
      match held with
      | [] => true
      | last :: _ => combiningClass last < combiningClass n
    match starter.bind fun s => if free then composePair? s n else none with
    | some joined => joinMarks (some joined) held rest
    | none =>
      if combiningClass n = 0 then
        starter.toList ++ held.reverse ++ joinMarks (some n) [] rest
      else joinMarks starter (n :: held) rest

/-- The composed form of a text. -/
def compose (text : List Char) : List Char :=
  let codes := text.flatMap fun c => decomposeChar 4 c.toNat
  (joinMarks none [] (orderReversed codes).reverse).map Char.ofNat

end ClusterGate.Domain
