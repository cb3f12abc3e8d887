import ClusterGate.Proofs.Api.Variants
import ClusterGate.Proofs.Text.Split

/-!
# Wire names of identifiers in camel case

An identifier in camel case is made of words, each of them a capital with small
letters and digits behind it (`CamelCase`). Its wire name is these words in
upper case with an underscore between neighbours (`CamelCase.ofIdent_eq`). The
pieces of the name therefore tell the words (`CamelCase.wordsOf_ofIdent`), and
with them the identifier.

Only the character before a capital decides on the underscore, and behind a
whole word that is a small letter or a digit. So the words can be named one
after the other (`ofChars_word_append`), the first one without an underscore
before it.
-/

namespace ClusterGate.WireName

variable {c : Char} {small word : List Char} {words : List (List Char)}

/-! ## Letters and digits -/

/-- What holds of ASCII characters is decided for one after the other. -/
theorem forall_ascii {P : Char → Prop} (h : ∀ n < 0x80, P (Char.ofNat n))
    (hc : c.toNat < 0x80) : P c := by
  have hP := h c.toNat hc
  rwa [Char.ofNat_toNat] at hP

/-- Small letters and digits, with which a word goes on. -/
def isSmall (c : Char) : Bool := c.isLower || c.isDigit

theorem ascii_of_letter (h : c.isUpper = true ∨ isSmall c = true) :
    c.toNat < 0x80 := by
  have hmax : c.val ≤ 'z'.val := by
    obtain hupper | hsmall := h
    · have hrange : c.val ≥ 'A'.val ∧ c.val ≤ 'Z'.val :=
        of_decide_eq_true hupper
      exact UInt32.le_trans hrange.2 (by decide)
    · obtain hlower | hdigit := Bool.or_eq_true_iff.mp hsmall
      · exact of_decide_eq_true (Bool.and_eq_true_iff.mp hlower).2
      · have hnine : c.val ≤ '9'.val :=
          of_decide_eq_true (Bool.and_eq_true_iff.mp hdigit).2
        exact UInt32.le_trans hnine (by decide)
  exact Nat.lt_of_le_of_lt (UInt32.le_iff_toNat_le.mp hmax) (by decide)

theorem isUppercase_of_ascii (h : c.toNat < 0x80) :
    Text.isUppercase c = c.isUpper :=
  forall_ascii (P := fun c => Text.isUppercase c = c.isUpper) (by decide) h

theorem endsWord_of_ascii (h : c.toNat < 0x80) : endsWord c = isSmall c :=
  forall_ascii (P := fun c => endsWord c = isSmall c) (by decide) h

theorem uppercase_of_ascii (h : c.toNat < 0x80) :
    Text.uppercase c = [c.toUpper] := if_pos h

theorem not_isUpper_of_isSmall (h : isSmall c = true) : c.isUpper = false :=
  forall_ascii (P := fun c => isSmall c = true → c.isUpper = false) (by decide)
    (ascii_of_letter (.inr h)) h

theorem toUpper_of_isUpper (h : c.isUpper = true) : c.toUpper = c :=
  forall_ascii (P := fun c => c.isUpper = true → c.toUpper = c) (by decide)
    (ascii_of_letter (.inl h)) h

theorem toLower_toUpper_of_isSmall (h : isSmall c = true) :
    c.toUpper.toLower = c :=
  forall_ascii (P := fun c => isSmall c = true → c.toUpper.toLower = c)
    (by decide) (ascii_of_letter (.inr h)) h

/-- No letter or digit has the underscore as its upper-case form. -/
theorem toUpper_ne_underscore (h : c.isUpper = true ∨ isSmall c = true) :
    c.toUpper ≠ '_' :=
  forall_ascii (P := fun c => c.isUpper = true ∨ isSmall c = true →
    c.toUpper ≠ '_')
    (by decide) (ascii_of_letter h) h

/-! ## One character -/

/-- A capital is named with an underscore before it just behind the end of a
word, and ends no word itself. -/
theorem ofChars_capital (h : c.isUpper = true) (afterWord : Bool)
    (rest : List Char) :
    ofChars afterWord (c :: rest) =
      (if afterWord then ['_'] else []) ++ c.toUpper :: ofChars false rest := by
  have hascii : c.toNat < 0x80 := ascii_of_letter (.inl h)
  have hends : endsWord c = false := by
    rw [endsWord_of_ascii hascii, Bool.eq_false_iff]
    intro hsmall
    cases h.symm.trans (not_isUpper_of_isSmall hsmall)
  rw [ofChars, isUppercase_of_ascii hascii, uppercase_of_ascii hascii, hends, h]
  cases afterWord <;> rfl

/-- A small letter or digit is named without an underscore, and may end a
word. -/
theorem ofChars_small (h : isSmall c = true) (afterWord : Bool)
    (rest : List Char) :
    ofChars afterWord (c :: rest) = c.toUpper :: ofChars true rest := by
  have hascii : c.toNat < 0x80 := ascii_of_letter (.inr h)
  rw [ofChars, isUppercase_of_ascii hascii, uppercase_of_ascii hascii,
    endsWord_of_ascii hascii, not_isUpper_of_isSmall h, h]
  rfl

/-! ## Words -/

/-- A capital and behind it small letters and digits, at least one. -/
def IsWord : List Char → Prop
  | [] => False
  | capital :: small =>
      capital.isUpper = true ∧ small ≠ [] ∧ small.all isSmall = true

instance : DecidablePred IsWord
  | [] => inferInstanceAs (Decidable False)
  | _ :: _ => inferInstanceAs (Decidable (_ ∧ _ ∧ _))

theorem IsWord.letters (h : IsWord word) :
    ∀ c ∈ word, c.isUpper = true ∨ isSmall c = true := by
  match word, h with
  | capital :: small, ⟨hcapital, _, hsmall⟩ =>
      refine List.forall_mem_cons.mpr ⟨.inl hcapital, fun c hc => .inr ?_⟩
      exact List.all_eq_true.mp hsmall c hc

theorem IsWord.underscore_notMem (h : IsWord word) :
    '_' ∉ word.map Char.toUpper := by
  rw [List.mem_map]
  rintro ⟨c, hc, hunderscore⟩
  exact toUpper_ne_underscore (h.letters c hc) hunderscore

theorem ofChars_small_append (h : ∀ c ∈ small, isSmall c = true)
    (rest : List Char) :
    ofChars true (small ++ rest) = small.map Char.toUpper ++
      ofChars true rest := by
  induction small with
  | nil => rfl
  | cons c small ih =>
      rw [List.cons_append, ofChars_small (h c List.mem_cons_self),
        ih fun d hd => h d (List.mem_cons_of_mem c hd)]
      rfl

/-- A word is named in upper case whatever is around it. The next capital comes
after the end of a word, as there is a small letter or digit in each. -/
theorem ofChars_word_append (h : IsWord word) (afterWord : Bool)
    (rest : List Char) :
    ofChars afterWord (word ++ rest) =
      (if afterWord then ['_'] else []) ++
        (word.map Char.toUpper ++ ofChars true rest) := by
  match word, h with
  | capital :: first :: small, ⟨hcapital, _, hsmall⟩ =>
      obtain ⟨hfirst, hrest⟩ :=
        List.forall_mem_cons.mp (List.all_eq_true.mp hsmall)
      rw [List.cons_append, ofChars_capital hcapital, List.cons_append,
        ofChars_small hfirst, ofChars_small_append hrest]
      rfl

/-- Words one after the other are named with underscores between them. -/
theorem ofChars_words (hne : words ≠ []) (hwords : ∀ word ∈ words, IsWord word)
    (afterWord : Bool) :
    ofChars afterWord words.flatten = (if afterWord then ['_'] else []) ++
      ['_'].intercalate (words.map (List.map Char.toUpper)) := by
  induction words generalizing afterWord with
  | nil => exact absurd rfl hne
  | cons word words ih =>
      obtain ⟨hword, hrest⟩ := List.forall_mem_cons.mp hwords
      rw [List.flatten_cons, ofChars_word_append hword]
      cases words with
      | nil => simp [ofChars]
      | cons next words =>
          rw [ih (List.cons_ne_nil next words) hrest true, List.map_cons,
            List.map_cons, List.map_cons, List.intercalate_cons_cons,
            List.append_assoc]
          rfl

/-! ## Identifiers -/

/-- The identifier is made of these words, one after the other. -/
structure CamelCase (ident : String) (words : List String) : Prop where
  nonempty : words ≠ []
  isWord : ∀ word ∈ words, IsWord word.toList
  joined : String.join words = ident

/-- The identifier is in camel case. -/
def IsCamelCase (ident : String) : Prop := ∃ words, CamelCase ident words

/-- The word that a piece of a wire name stands for: a capital, and all the rest
small. -/
def wordOf : List Char → List Char
  | [] => []
  | c :: rest => c.toUpper :: rest.map Char.toLower

/-- The words that the pieces of a wire name stand for. -/
def wordsOf (name : String) : List String :=
  (Text.splitAt '_' name.toList).map fun piece => String.ofList (wordOf piece)

/-- The identifier in camel case that a wire name stands for. -/
def identOf (name : String) : String := String.join (wordsOf name)

theorem wordOf_map_toUpper (h : IsWord word) :
    wordOf (word.map Char.toUpper) = word := by
  match word, h with
  | capital :: small, ⟨hcapital, _, hsmall⟩ =>
      have hlower : (small.map Char.toUpper).map Char.toLower = small := by
        rw [List.map_map]
        refine (List.map_congr_left fun c hc => ?_).trans (List.map_id small)
        exact toLower_toUpper_of_isSmall (List.all_eq_true.mp hsmall c hc)
      rw [List.map_cons, wordOf, toUpper_of_isUpper hcapital,
        toUpper_of_isUpper hcapital, hlower]

theorem map_toList_toUpper (words : List String) :
    (words.map String.toUpper).map String.toList =
      (words.map String.toList).map (List.map Char.toUpper) := by
  rw [List.map_map, List.map_map]
  exact List.map_congr_left fun word _ => String.toList_map

namespace CamelCase

variable {ident : String} {words : List String}

/-- The name is the words of the identifier in upper case, with an underscore
between neighbours. -/
theorem ofIdent_eq (h : CamelCase ident words) :
    ofIdent ident = "_".intercalate (words.map String.toUpper) := by
  have hne : words.map String.toList ≠ [] :=
    mt List.map_eq_nil_iff.mp h.nonempty
  have hwords : ∀ word ∈ words.map String.toList, IsWord word :=
    List.forall_mem_map.mpr h.isWord
  rw [ofIdent, ← h.joined, String.toList_join, List.flatMap_def,
    ofChars_words hne hwords, ← map_toList_toUpper, ← String.toList_inj,
    String.toList_ofList, String.toList_intercalate]
  rfl

example : ofIdent "CatPendingTasks" = "CAT_PENDING_TASKS" := by decide
example : ofIdent "V2Health" = "V2_HEALTH" := by decide

/-- The pieces of the name are the words of the identifier in upper case, as no
word has an underscore in it. -/
theorem splitAt_ofIdent (h : CamelCase ident words) :
    Text.splitAt '_' (ofIdent ident).toList =
      (words.map String.toUpper).map String.toList := by
  rw [Text.splitAt_eq_iff, h.ofIdent_eq, String.toList_intercalate,
    map_toList_toUpper, List.map_map]
  exact
    { nonempty := mt List.map_eq_nil_iff.mp h.nonempty
      free := List.forall_mem_map.mpr fun word hword =>
        (h.isWord word hword).underscore_notMem
      joined := rfl }

theorem wordsOf_ofIdent (h : CamelCase ident words) :
    wordsOf (ofIdent ident) = words := by
  rw [wordsOf, h.splitAt_ofIdent, map_toList_toUpper,
    List.map_map, List.map_map]
  refine (List.map_congr_left fun word hword => ?_).trans (List.map_id words)
  rw [Function.comp_apply, Function.comp_apply,
    wordOf_map_toUpper (h.isWord word hword), String.ofList_toList, id]

theorem identOf_ofIdent (h : CamelCase ident words) :
    identOf (ofIdent ident) = ident := by
  rw [identOf, h.wordsOf_ofIdent, h.joined]

end CamelCase

theorem ofIdent_inj {ident ident' : String} (h : IsCamelCase ident)
    (h' : IsCamelCase ident') (hname : ofIdent ident = ofIdent ident') :
    ident = ident' := by
  obtain ⟨words, h⟩ := h
  obtain ⟨words', h'⟩ := h'
  calc ident = identOf (ofIdent ident) := h.identOf_ofIdent.symm
    _ = identOf (ofIdent ident') := by rw [hname]
    _ = ident' := h'.identOf_ofIdent

/-! ## Variants -/

/-- A variant without a name of its own has the one of its identifier. -/
theorem name_of_entry {variant : VariantDecl} {api : Api}
    (h : variant.entry = .ok api)
    (hname : "name" ∉ variant.given.map OptionDecl.name) :
    api.name = ofIdent variant.ident := by
  obtain ⟨-, rfl⟩ := variant.verdict_entry.eq_ok_iff.mp h
  have hnone : textOf? variant.given "name" = none := by
    refine Option.eq_none_iff_forall_ne_some.mpr fun text htext => hname ?_
    obtain ⟨o, ho, hsame, -⟩ := exists_of_textOf?_eq_some htext
    exact List.mem_map.mpr ⟨o, ho, hsame⟩
  rw [VariantDecl.described, VariantDecl.wireName, hnone, Option.getD_none]

/-- **Wire names of identifiers in camel case.** Such a name is the words of the
identifier in upper case with an underscore between neighbours. Its pieces tell
these words and so the identifier, for a variant as well that has no name of its
own, and identifiers that differ have names that differ. -/
theorem camelCase_reversible :
    (∀ ident words, CamelCase ident words →
      ofIdent ident = "_".intercalate (words.map String.toUpper) ∧
        wordsOf (ofIdent ident) = words ∧ identOf (ofIdent ident) = ident) ∧
    (∀ ident ident', IsCamelCase ident → IsCamelCase ident' → ident ≠ ident' →
      ofIdent ident ≠ ofIdent ident') ∧
    ∀ (variant : VariantDecl) (api : Api), variant.entry = .ok api →
      "name" ∉ variant.given.map OptionDecl.name → IsCamelCase variant.ident →
        identOf api.name = variant.ident := by
  refine ⟨fun ident words h => ?_, fun ident ident' h h' hne => ?_, ?_⟩
  · exact ⟨h.ofIdent_eq, h.wordsOf_ofIdent, h.identOf_ofIdent⟩
  · exact mt (ofIdent_inj h h') hne
  · rintro variant api hentry hname ⟨words, h⟩
    rw [name_of_entry hentry hname]
    exact h.identOf_ofIdent

/-- A variant that has only a path. -/
def tasksVariant : VariantDecl :=
  ⟨"CatTasks", .unit, [⟨"api", .list [⟨"path", some (.text "/_cat/tasks")⟩]⟩]⟩

theorem camelCase_reversible_stats :
    CamelCase "V2NodesStats2" ["V2", "Nodes", "Stats2"] ∧
      CamelCase "V2NodesStats" ["V2", "Nodes", "Stats"] ∧
      ofIdent "V2NodesStats2" = "V2_NODES_STATS2" ∧
      identOf "V2_NODES_STATS2" = "V2NodesStats2" ∧
      ofIdent "V2NodesStats2" ≠ ofIdent "V2NodesStats" ∧
      ∃ api, tasksVariant.entry = .ok api ∧
        api.name = "CAT_TASKS" ∧ identOf api.name = "CatTasks" := by
  obtain ⟨hnames, hdiffer, hvariants⟩ := camelCase_reversible
  have hnumbered : CamelCase "V2NodesStats2" ["V2", "Nodes", "Stats2"] :=
    ⟨by decide, by decide, by decide⟩
  have hplain : CamelCase "V2NodesStats" ["V2", "Nodes", "Stats"] :=
    ⟨by decide, by decide, by decide⟩
  have htasks : CamelCase "CatTasks" ["Cat", "Tasks"] :=
    ⟨by decide, by decide, by decide⟩
  have hname : ofIdent "V2NodesStats2" = "V2_NODES_STATS2" := by
    rw [(hnames _ _ hnumbered).1, ← String.toList_inj,
      String.toList_intercalate, map_toList_toUpper]
    decide
  refine ⟨hnumbered, hplain, hname, ?_, ?_, _, rfl, rfl, ?_⟩
  · rw [← hname]
    exact (hnames _ _ hnumbered).2.2
  · exact hdiffer _ _ ⟨_, hnumbered⟩ ⟨_, hplain⟩ (by decide)
  · exact hvariants tasksVariant _ rfl (by decide) ⟨_, htasks⟩

end ClusterGate.WireName
