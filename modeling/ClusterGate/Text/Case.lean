import ClusterGate.Text.CaseTable

/-!
# Upper and lower case

The case of a character and its upper-case form. ASCII is decided by
range; other characters are looked up. The upper-case form of one
character may be several (`ß` becomes `SS`).
-/

namespace ClusterGate.Text

/-- Whether a character has the property Uppercase. -/
def isUppercase (c : Char) : Bool :=
  if c.toNat < 0x80 then 'A' ≤ c && c ≤ 'Z' else covered uppercaseTable c.toNat

/-- Whether a character has the property Lowercase. -/
def isLowercase (c : Char) : Bool :=
  if c.toNat < 0x80 then 'a' ≤ c && c ≤ 'z' else covered lowercaseTable c.toNat

/-- The upper-case form of a character. -/
def uppercase (c : Char) : List Char :=
  if c.toNat < 0x80 then [c.toUpper]
  else
    match toUpperTable.find? (·.covers c.toNat) with
    | some e => e.replacement c.toNat
    | none => [c]

end ClusterGate.Text
