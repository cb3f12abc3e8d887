import ClusterGate.Domain.Composition
import ClusterGate.Domain.DirectionTable
import ClusterGate.Domain.JoiningTable

/-!
# Labels of a domain name

The rules a label obeys beyond the characters it may hold: it does not
begin with a combining mark, its joiners stand where they have an effect,
and, in a name with right-to-left characters, its characters run in one
direction.
-/

namespace ClusterGate.Domain

/-! ## Joiners -/

def nonJoiner : Nat := 0x200C
def joiner : Nat := 0x200D

/-- The combining class of signs that suppress a vowel. -/
def viramaClass : Nat := 9

def joiningType (n : Nat) : List Char := (Text.valueOf? joiningTable n).getD []

/-- Whether the nearest letter that is not transparent joins on one of the
given sides. -/
def joins (sides : List (List Char)) (codes : List Nat) : Bool :=
  match codes.dropWhile fun n => joiningType n == ['T'] with
  | [] => false
  | n :: _ => sides.contains (joiningType n)

/-- Whether the joiners of a text are in place, given what stands before
it, nearest first. Either joiner may follow a virama; the non-joiner may
also break a cursive connection. -/
def joinersInPlace (before : List Nat) : List Nat → Bool
  | [] => true
  | n :: rest =>
    let afterVirama := before.head?.any fun m => combiningClass m == viramaClass
    let fine :=
      if n = nonJoiner then
        afterVirama ||
          (joins [['L'], ['D']] before && joins [['R'], ['D']] rest)
      else if n = joiner then afterVirama
      else true
    fine && joinersInPlace (n :: before) rest

/-! ## Direction -/

def direction (n : Nat) : String :=
  match Text.valueOf? directionTable n with
  | some value => String.ofList value
  | none => "L"

/-- Whether a code point makes a name a right-to-left one. -/
def isRightToLeft (n : Nat) : Bool := ["R", "AL", "AN"].contains (direction n)

/-- Whether a label runs in one direction: its first character fixes the
direction, and all others and the last one but for marks must suit it. -/
def runsOneWay (label : List Nat) : Bool :=
  let classes := label.map direction
  let last := (classes.reverse.dropWhile (· == "NSM")).head?
  let neutral := ["ES", "CS", "ET", "ON", "BN", "NSM"]
  match classes.head? with
  | none => true
  | some "L" =>
    classes.all (fun c => ("L" :: "EN" :: neutral).contains c) &&
      last.any (["L", "EN"].contains ·)
  | some first =>
    (first == "R" || first == "AL") &&
      classes.all
        (fun c => ("R" :: "AL" :: "AN" :: "EN" :: neutral).contains c) &&
      last.any (["R", "AL", "EN", "AN"].contains ·) &&
      !(classes.contains "EN" && classes.contains "AN")

/-! ## All labels of a name -/

/-- Whether a label obeys the rules that concern it alone. -/
def isLabel (label : List Char) : Bool :=
  let codes := label.map Char.toNat
  !(codes.head?.any isMark) && joinersInPlace [] codes

/-- Whether the labels of a name obey the rules. -/
def areLabels (labels : List (List Char)) : Bool :=
  labels.all isLabel &&
    (!(labels.any fun l => l.any fun c => isRightToLeft c.toNat) ||
      labels.all fun l => runsOneWay (l.map Char.toNat))

end ClusterGate.Domain
