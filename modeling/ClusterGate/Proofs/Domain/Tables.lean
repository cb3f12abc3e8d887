import ClusterGate.Domain.Ascii

/-!
# What the tables keep out of names

No code point is mapped to a capital letter of ASCII, and neither the
composed characters nor the marks they are composed with are ASCII. Each
part of a table is checked on its own, character by character.
-/

namespace ClusterGate.Domain

open Text (TableEntry)

/-- Whether a code point is an upper-case ASCII letter. -/
def isCapital (n : Nat) : Bool := 0x41 ≤ n && n ≤ 0x5A

/-! ## Reading a part of a table -/

variable {text : List Char} {texts : List String} {p : TableEntry → Bool}

/-- The entries of a text in characters. -/
def readEntries (text : List Char) : List TableEntry :=
  ((Text.splitWhen (fun c => c == ' ' || c == '\n') text).filter fun t =>
    !t.isEmpty).map
      TableEntry.read

theorem readTables_cons :
    Text.readTables (String.ofList text :: texts) = readEntries text ++
      Text.readTables texts := by
  rw [Text.readTables, List.flatMap_cons, Text.readTable, String.toList_ofList]
  rfl

/-- What every entry has to obey is checked on the characters of each part. -/
theorem all_readTables_cons (hfirst : (readEntries text).all p = true)
    (hrest : (Text.readTables texts).all p = true) :
    (Text.readTables (String.ofList text :: texts)).all p = true := by
  rw [readTables_cons, List.all_append, hfirst, hrest]
  rfl

theorem any_readTables_cons (hfirst : (readEntries text).any p = true) :
    (Text.readTables (String.ofList text :: texts)).any p = true := by
  rw [readTables_cons, List.any_append, hfirst]
  rfl

/-! ## What an entry obeys -/

/-- Whether an entry puts no capital in place of a code point. -/
def sparesCapitals (e : TableEntry) : Bool :=
  match e.value with
  | '>' :: target =>
    let n := TableEntry.readHex target
    0x5A < n || n + (e.last - e.first) < 0x41
  | [] => true
  | codes => (Text.splitAt ',' codes).all fun code =>
      !isCapital (TableEntry.readHex code)

/-- Whether an entry covers all capitals. -/
def coversCapitals (e : TableEntry) : Bool :=
  e.first ≤ 0x41 && 0x5A ≤ e.last && e.step == 1

/-- Whether the mark of an entry and all its compositions lie outside
ASCII. -/
def pairsOutsideAscii (e : TableEntry) : Bool :=
  0x80 ≤ e.first && (Text.splitAt ',' e.value).all fun pair =>
    0x80 ≤ TableEntry.readHex
      (pair.drop ((pair.takeWhile (· != '>')).length + 1))

/-! ## Whole tables -/

section Parts

set_option maxRecDepth 8000

theorem sparesCapitals_letterMappings :
    letterMappings.all sparesCapitals = true := by
  rw [letterMappings]
  repeat refine all_readTables_cons (by decide +kernel) ?_
  rfl

theorem coversCapitals_letterMappings :
    letterMappings.any coversCapitals = true := by
  rw [letterMappings]
  exact any_readTables_cons (by decide +kernel)

theorem sparesCapitals_symbolMappings :
    symbolMappings.all sparesCapitals = true := by
  rw [symbolMappings]
  repeat refine all_readTables_cons (by decide +kernel) ?_
  rfl

theorem sparesCapitals_planeMappings :
    planeMappings.all sparesCapitals = true := by
  rw [planeMappings]
  repeat refine all_readTables_cons (by decide +kernel) ?_
  rfl

theorem sparesCapitals_supplementMappings :
    supplementMappings.all sparesCapitals = true := by
  rw [supplementMappings]
  repeat refine all_readTables_cons (by decide +kernel) ?_
  rfl

theorem sparesCapitals_ideographMappings :
    ideographMappings.all sparesCapitals = true := by
  rw [ideographMappings]
  repeat refine all_readTables_cons (by decide +kernel) ?_
  rfl

theorem outsideAscii_pairTable : pairTable.all pairsOutsideAscii = true := by
  rw [pairTable]
  repeat refine all_readTables_cons (by decide +kernel) ?_
  rfl

end Parts

theorem sparesCapitals_mappingTable :
    ∀ e ∈ mappingTable, sparesCapitals e = true := by
  simp only [mappingTable, List.forall_mem_append, ← List.all_eq_true]
  exact ⟨⟨⟨⟨sparesCapitals_letterMappings, sparesCapitals_symbolMappings⟩,
    sparesCapitals_planeMappings⟩, sparesCapitals_supplementMappings⟩,
    sparesCapitals_ideographMappings⟩

end ClusterGate.Domain
