/-!
# Beginnings and ends of a text

Stripping a fixed beginning or end where it is there, and trimming all
elements of a kind from an end. Stripping leaves a text without the affix
as it is.
-/

namespace ClusterGate.Text

variable {α : Type}

/-- The list without the beginning `p`, if it has it. -/
def stripPrefix [BEq α] (p l : List α) : List α :=
  if p.isPrefixOf l then l.drop p.length else l

/-- The list without the end `s`, if it has it. -/
def stripSuffix [BEq α] (s l : List α) : List α :=
  if s.isSuffixOf l then l.take (l.length - s.length) else l

/-- Drops the longest end whose elements all satisfy `p`. -/
def dropWhileEnd (p : α → Bool) (l : List α) : List α :=
  (l.reverse.dropWhile p).reverse

/-- Drops the elements that satisfy `p` at both ends. -/
def trim (p : α → Bool) (l : List α) : List α :=
  dropWhileEnd p (l.dropWhile p)

end ClusterGate.Text
