import ClusterGate.Domain.Label
import ClusterGate.Domain.MappingTable
import ClusterGate.Domain.Punycode

/-!
# The ASCII form of a domain name

A domain name is compared in one ASCII form. Upper-case letters and
compatibility forms are mapped to the characters they stand for, the
result is composed, and a label that is still not ASCII is written in
Punycode after `xn--`. A label that already has that mark must decode to a
label which these steps leave as it is.

A name in ASCII without the mark is only put in lower case (`toAscii?`),
which is the case every supported host falls under; the tables are
consulted for other names only.
-/

namespace ClusterGate.Domain

/-! ## ASCII names -/

/-- Characters that separate the parts of a URI or are controls, and so
never belong to a domain name. -/
def forbidden (c : Char) : Bool :=
  c.toNat ≤ 0x20 || c.toNat == 0x7F || "#/:<>?@[\\]^|%".toList.contains c

/-- The two forbidden characters that a mark can join into another
character. -/
def joinable (c : Char) : Bool := c == '<' || c == '>'

/-- The mark of a label in Punycode. -/
def punycodeMark : List Char := "xn--".toList

def isAscii (c : Char) : Bool := c.toNat < 0x80

def lower (name : List Char) : List Char := name.map Char.toLower

/-- Whether a name is ASCII and has no label in Punycode. -/
def isPlain (name : List Char) : Bool :=
  name.all isAscii &&
    !(Text.splitAt '.' (lower name)).any fun label =>
      punycodeMark.isPrefixOf label

/-! ## Other names -/

/-- What stands for a character; none if no domain name contains it. -/
def mapChar? (c : Char) : Option (List Char) :=
  if Text.covered disallowedTable c.toNat then none
  else
    match mappingTable.find? (·.covers c.toNat) with
    | some e => some (e.replacement c.toNat)
    | none => some [c]

/-- The mapped and composed name. -/
def mapName? (name : List Char) : Option (List Char) :=
  (name.mapM mapChar?).map fun parts => compose parts.flatten

/-- The longest label that is encoded. -/
def longestEncoded : Nat := 1000

/-- The longest text after the mark that is decoded. -/
def longestDecoded : Nat := 2000

/-- The text that a marked label stands for, if it is its own mapped and
composed form. -/
def decodeLabel? (label : List Char) : Option (List Char) :=
  let form := label.drop punycodeMark.length
  if form.getLast? = some '-' ∨ form.isEmpty ∨ form.length > longestDecoded then
    none
  else
    (Punycode.decode? form).bind fun text =>
      if mapName? text = some text then some text else none

/-- A label as text and in ASCII. -/
def labelForms? (label : List Char) : Option (List Char × List Char) :=
  if punycodeMark.isPrefixOf label then
    (decodeLabel? label).map fun text => (text, label)
  else if label.all isAscii then some (label, label)
  else if label.length > longestEncoded then none
  else some (label, punycodeMark ++ Punycode.encode label)

/-- The ASCII form by way of the tables. -/
def toAsciiByTables? (name : List Char) : Option (List Char) := do
  let mapped ← mapName? name
  let forms ← (Text.splitAt '.' mapped).mapM labelForms?
  if (forms.any fun f => f.1.any forbidden) || !areLabels (forms.map (·.1)) then
    none
  else some (Text.joinWith '.' (forms.map (·.2)))

/-- The ASCII form of a domain name; none for a text that is no domain
name. -/
def toAscii? (name : List Char) : Option (List Char) :=
  if name.any fun c => forbidden c && !joinable c then none
  else if isPlain name then
    if name.any joinable then none else some (lower name)
  else toAsciiByTables? name

end ClusterGate.Domain
