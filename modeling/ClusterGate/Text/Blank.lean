import ClusterGate.Text.Affix

/-!
# Blank characters

The characters with the Unicode property White_Space, and trimming them
from both ends of a text.
-/

namespace ClusterGate.Text

/-- Whether a character has the property White_Space. -/
def isBlank (c : Char) : Bool :=
  let n := c.toNat
  (0x9 ≤ n && n ≤ 0xD) || n == 0x20 || n == 0x85 || n == 0xA0 || n == 0x1680 ||
    (0x2000 ≤ n && n ≤ 0x200A) || n == 0x2028 || n == 0x2029 || n == 0x202F ||
    n == 0x205F || n == 0x3000

/-- The text without blanks at its ends. -/
def trimBlanks (l : List Char) : List Char := trim isBlank l

end ClusterGate.Text
