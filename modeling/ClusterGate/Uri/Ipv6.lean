import ClusterGate.Text.Percent
import ClusterGate.Text.Split

/-!
# IPv6 addresses in hosts

Eight groups of up to four hexadecimal digits, of which one run may be
left out as `::` and the last two may be written as an IPv4 address.
Rendering leaves out the first longest run of at least two zero groups.
-/

namespace ClusterGate.Ipv6

/-! ## Reading -/

/-- Groups read so far, and after how many of them the left-out run
stands. -/
structure Partial where
  groups : List Nat
  gap : Option Nat
  deriving Repr

def Partial.push (p : Partial) (group : Nat) : Partial :=
  { p with groups := p.groups ++ [group] }

/-- Up to `limit` hexadecimal digits: their value, and the text after
them. -/
def readGroup : Nat → Nat → List Char → Nat × List Char
  | 0, value, rest => (value, rest)
  | limit + 1, value, c :: rest =>
    match Percent.hexValue? c with
    | some d => readGroup limit (16 * value + d) rest
    | none => (value, c :: rest)
  | _ + 1, value, [] => (value, [])

/-- A decimal byte without leading zero. -/
def readByte? (digits : List Char) : Option Nat :=
  match digits with
  | [] => none
  | '0' :: _ :: _ => none
  | _ =>
    if digits.length ≤ 3 ∧ digits.all Char.isDigit then
      let n := digits.foldl (fun n c => 10 * n + (c.toNat - 0x30)) 0
      if n ≤ 255 then some n else none
    else none

/-- The two groups of an embedded IPv4 address. -/
def readEmbedded? (text : List Char) : Option (Nat × Nat) := do
  match ← (Text.splitAt '.' text).mapM readByte? with
  | [a, b, c, d] => some (256 * a + b, 256 * c + d)
  | _ => none

/-- Reads groups to the end of the text, at most `fuel` of them. -/
def readGroups? : Nat → Partial → List Char → Option Partial
  | _, p, [] => some p
  | 0, _, _ => none
  | fuel + 1, p, ':' :: rest =>
    if p.groups.length = 8 ∨ p.gap.isSome then none
    else
      readGroups? fuel
        { groups := p.groups ++ [0], gap := some (p.groups.length + 1) } rest
  | fuel + 1, p, text =>
    if p.groups.length = 8 then none
    else
      let (value, rest) := readGroup 4 0 text
      match rest with
      | [] => some (p.push value)
      | ':' :: [] => none
      | ':' :: rest => readGroups? fuel (p.push value) rest
      | '.' :: _ =>
        if rest.length = text.length ∨ p.groups.length > 6 then none
        else (readEmbedded? text).map fun pair => (p.push pair.1).push pair.2
      | _ => none

/-- All eight groups: the gap is filled with zeros. -/
def Partial.fill? (p : Partial) : Option (List Nat) :=
  match p.gap with
  | some n =>
    some (p.groups.take n ++ List.replicate (8 - p.groups.length) 0 ++
      p.groups.drop n)
  | none => if p.groups.length = 8 then some p.groups else none

/-- Reads an address, without the brackets around it. -/
def read? (text : List Char) : Option (List Nat) :=
  match text with
  | [] | [_] => none
  | ':' :: ':' :: rest => (readGroups? 9 ⟨[0], some 1⟩ rest).bind Partial.fill?
  | ':' :: _ => none
  | _ => (readGroups? 9 ⟨[], none⟩ text).bind Partial.fill?

/-! ## Rendering -/

/-- A group in lower-case hexadecimal. -/
def renderGroup (n : Nat) : String := String.ofList (Nat.toDigits 16 n)

/-- How many zero groups stand at the front. -/
def zeroRun (groups : List Nat) : Nat := (groups.takeWhile (· = 0)).length

/-- Start and length of the first longest run of at least two zero
groups. -/
def longestZeroRun (groups : List Nat) : Option (Nat × Nat) :=
  (List.range groups.length).foldl (fun best i =>
    let n := zeroRun (groups.drop i)
    match best with
    | some (_, m) => if n > m then some (i, n) else best
    | none => if n ≥ 2 then some (i, n) else none) none

/-- The address without brackets. -/
def render (groups : List Nat) : String :=
  let text (gs : List Nat) : String := ":".intercalate (gs.map renderGroup)
  match longestZeroRun groups with
  | some (start, n) =>
    text (groups.take start) ++ "::" ++ text (groups.drop (start + n))
  | none => text groups

end ClusterGate.Ipv6
