import Mathlib.Data.List.Forall2
import ClusterGate.Json.Reader
import ClusterGate.Proofs.Outcome
import ClusterGate.Proofs.SortedMap

/-!
# Reading what was printed

A text in quotes is read as the text that was quoted, whatever its characters
and whatever follows (`unquotes_self`). From there on a list is read from
what is printed for its items, and an object from what is printed for its
fields (`Shape.Reads`), so that a document which is all of texts, lists and
objects is read from its printed form (`Shape.Reads.read_render`).

The reader counts its steps. Each value takes at most as many as it has
characters, which is the measure that all inductions here go by.
-/

namespace ClusterGate

namespace Json

/-! ## Texts in quotes -/

theorem hexFour?_hexFour :
    ∀ n < 0x20, hexFour? (hexFour n) = some n ∧ (hexFour n).length = 4 := by
  decide

/-- The three ways in which a character stands inside quotes. -/
theorem escapeChar_cases (c : Char) :
    (∃ d, escapeChar c = ['\\', d] ∧ d ≠ 'u' ∧ shortEscape? d = some c) ∨
      (escapeChar c = '\\' :: 'u' :: hexFour c.toNat ∧ c.toNat < 0x20) ∨
      (escapeChar c = [c] ∧ c ≠ '"' ∧ c ≠ '\\' ∧ ¬ c.toNat < 0x20) := by
  unfold escapeChar
  split
  · exact .inl ⟨_, rfl, by decide, rfl⟩
  · exact .inl ⟨_, rfl, by decide, rfl⟩
  · exact .inl ⟨_, rfl, by decide, rfl⟩
  · exact .inl ⟨_, rfl, by decide, rfl⟩
  · exact .inl ⟨_, rfl, by decide, rfl⟩
  · exact .inl ⟨_, rfl, by decide, rfl⟩
  · exact .inl ⟨_, rfl, by decide, rfl⟩
  · next hquote hslash _ _ _ _ _ =>
      split
      · next hlow => exact .inr (.inl ⟨rfl, hlow⟩)
      · next hlow => exact .inr (.inr ⟨rfl, hquote, hslash, hlow⟩)

theorem readEscape_short {c d : Char} (hd : d ≠ 'u')
    (h : shortEscape? d = some c) (strict : Bool) (rest : List Char) :
    readEscape strict (d :: rest) = .ok (c, rest) := by
  unfold readEscape
  split
  · next hnil => cases hnil
  · next heq => exact absurd (List.cons.inj heq).1 hd
  · next heq =>
      obtain ⟨rfl, rfl⟩ := List.cons.inj heq
      rw [h]

/-- A lenient reader does not ask which character an escape of four digits
is. -/
theorem readEscape_hexFour {c : Char} (h : c.toNat < 0x20) (strict : Bool)
    (rest : List Char) :
    readEscape strict ('u' :: (hexFour c.toNat ++ rest)) =
      .ok (if strict then c else '\uFFFD', rest) := by
  obtain ⟨hread, hlength⟩ := hexFour?_hexFour c.toNat h
  have htake : (hexFour c.toNat ++ rest).take 4 = hexFour c.toNat :=
    List.take_left' hlength
  have hdrop : (hexFour c.toNat ++ rest).drop 4 = rest :=
    List.drop_left' hlength
  have hfour : readHexFour (hexFour c.toNat ++ rest) = .ok (c.toNat, rest) := by
    rw [readHexFour, htake, hread, hdrop]
  rw [readEscape, hfour, ok_bind]
  cases strict with
  | false => rfl
  | true =>
      have hlow : ¬ (0xDC00 ≤ c.toNat ∧ c.toNat ≤ 0xDFFF) := by omega
      have hhigh : ¬ (0xD800 ≤ c.toNat ∧ c.toNat ≤ 0xDBFF) := by omega
      simp only [Bool.not_true, Bool.false_eq_true, if_false, hlow, hhigh,
        Char.ofNat_toNat, if_true]
      rfl

/-- One more character inside quotes. -/
theorem exists_readCharacters_escapeChar (strict : Bool) (c : Char) :
    ∃ d, (strict = true → d = c) ∧ ∀ {fuel : Nat} {text rest rest' : List Char},
      readCharacters strict fuel rest = .ok (text, rest') →
        readCharacters strict (fuel + 1) (escapeChar c ++ rest) = .ok
        (d :: text, rest') := by
  rcases escapeChar_cases c with ⟨d, hc, hd, hshort⟩ | ⟨hc, hlow⟩ |
    ⟨hc, hquote, hslash, hlow⟩
  · refine ⟨c, fun _ => rfl, fun h => ?_⟩
    rw [hc, List.cons_append, List.cons_append, readCharacters, List.nil_append,
      readEscape_short hd hshort, ok_bind]
    dsimp only
    rw [h]
    rfl
  · refine ⟨if strict then c else '\uFFFD', fun hstrict => if_pos hstrict,
      fun h => ?_⟩
    rw [hc, List.cons_append, List.cons_append, readCharacters,
      readEscape_hexFour hlow, ok_bind]
    dsimp only
    rw [h]
    rfl
  · refine ⟨c, fun _ => rfl, fun h => ?_⟩
    rw [hc, List.cons_append, List.nil_append,
      readCharacters.eq_5 _ _ _ _ hquote hslash, if_neg hlow, h]
    rfl

theorem exists_readCharacters_escaped (strict : Bool) : ∀ text : List Char,
    ∃ read, (strict = true → read = text) ∧
      ∀ {fuel : Nat} (rest : List Char), text.length < fuel →
      readCharacters strict fuel (text.flatMap escapeChar ++ '"' :: rest) =
        .ok (read, rest)
  | [] => by
      refine ⟨[], fun _ => rfl, fun {fuel} rest h => ?_⟩
      obtain ⟨fuel, rfl⟩ :=
        Nat.exists_eq_add_one_of_ne_zero (Nat.ne_zero_of_lt h)
      rfl
  | c :: text => by
      obtain ⟨d, hd, hc⟩ := exists_readCharacters_escapeChar strict c
      obtain ⟨read, hread, htext⟩ := exists_readCharacters_escaped strict text
      refine ⟨d :: read,
        fun hstrict => by
          rw [hd hstrict, hread hstrict], fun {fuel} rest h => ?_⟩
      obtain ⟨fuel, rfl⟩ :=
        Nat.exists_eq_add_one_of_ne_zero (Nat.ne_zero_of_lt h)
      rw [List.flatMap_cons, List.append_assoc]
      exact hc (htext rest (Nat.lt_of_succ_lt_succ h))

theorem length_le_length_escaped (text : List Char) :
    text.length ≤ (text.flatMap escapeChar).length := by
  induction text with
  | nil => exact Nat.zero_le _
  | cons c text ih =>
      have hc : 0 < (escapeChar c).length := by
        rcases escapeChar_cases c with ⟨d, hc, -⟩ | ⟨hc, -⟩ |
          ⟨hc, -⟩ <;> simp [hc]
      rw [List.flatMap_cons, List.length_append, List.length_cons]
      omega

/-- What is read for a text in quotes, whatever follows the closing quote. -/
def Unquotes (strict : Bool) (text read : String) : Prop :=
  ∀ rest, readQuoted strict (text.toList.flatMap escapeChar ++ '"' :: rest) =
    .ok (read, rest)

theorem exists_unquotes (strict : Bool) (text : String) :
    ∃ read, (strict = true → read = text) ∧ Unquotes strict text read := by
  obtain ⟨read, hread, htext⟩ :=
    exists_readCharacters_escaped strict text.toList
  refine ⟨String.ofList read, fun hstrict => ?_, fun rest => ?_⟩
  · rw [hread hstrict, String.ofList_toList]
  · have hlength := length_le_length_escaped text.toList
    have hfuel : text.toList.length <
        (text.toList.flatMap escapeChar ++ '"' :: rest).length + 1 := by
      rw [List.length_append]
      omega
    rw [readQuoted, htext rest hfuel]
    rfl

/-- **Texts in quotes.** A quoted text is read as that text, up to the closing
quote. -/
theorem unquotes_self (text : String) : Unquotes true text text := by
  obtain ⟨read, hread, h⟩ := exists_unquotes true text
  rwa [hread rfl] at h

theorem quoted_append (text : String) (rest : List Char) :
    quoted text ++ rest =
      '"' :: (text.toList.flatMap escapeChar ++ '"' :: rest) := by
  simp [quoted]

/-! ## What is printed for lists and objects -/

/-- What is printed for a field. -/
def fieldText (e : String × Json) : List Char := quoted e.1 ++ ':' :: e.2.print

theorem printItems_eq_map (items : List Json) :
    printItems items = items.map print := by
  induction items with
  | nil => rfl
  | cons item rest ih => rw [printItems, ih, List.map_cons]

theorem printFields_eq_map (fields : List (String × Json)) :
    printFields fields = fields.map fieldText := by
  induction fields with
  | nil => rfl
  | cons e rest ih =>
      rw [printFields, ih, List.map_cons]
      rfl

theorem joinWith_cons_eq {α : Type} (sep : α) (piece : List α) :
    ∀ pieces : List (List α),
      Text.joinWith sep (piece :: pieces) = piece ++ pieces.flatMap (sep :: ·)
  | [] => (List.append_nil piece).symm
  | next :: rest => by
      rw [Text.joinWith_cons (List.cons_ne_nil next rest),
        joinWith_cons_eq sep next rest]
      rfl

/-- A value may begin with the character, which is neither blank nor the end of
a list. -/
def IsOpening (c : Char) : Prop :=
  (c == ' ' || c == '\n' || c == '\t' || c == '\r') = false ∧ c ≠ ']'

/-- What may stand behind a value: nothing, or what divides or closes lists and
objects. -/
def Follows (rest : List Char) : Prop :=
  ∀ c ∈ rest.head?, c = ',' ∨ c = ']' ∨ c = '\x7d'

theorem follows_nil : Follows [] := nofun

theorem follows_cons {c : Char} (h : c = ',' ∨ c = ']' ∨ c = '\x7d')
    (rest : List Char) :
    Follows (c :: rest) := by
  intro d hd
  obtain rfl := Option.some.inj hd
  exact h

theorem skipBlanks_of_opening {c : Char} (h : IsOpening c) (rest : List Char) :
    skipBlanks (c :: rest) = c :: rest :=
  List.dropWhile_cons_of_neg (by simpa using h.1)

theorem nextItem_of_opening {c : Char} (h : IsOpening c) (rest : List Char) :
    nextItem true (c :: rest) = .ok (some (), c :: rest) ∧
      nextItem false (',' :: c :: rest) = .ok (some (), c :: rest) := by
  constructor
  · rw [nextItem, skipBlanks_of_opening h]
    split
    · next hnil => cases hnil
    · next hend => exact absurd (List.cons.inj hend).1 h.2
    · next hcons =>
        obtain ⟨rfl, rfl⟩ := List.cons.inj hcons
        rfl
  · have hcomma : skipBlanks (',' :: c :: rest) = ',' :: c :: rest := rfl
    unfold nextItem
    rw [hcomma]
    split
    · next hnil => cases hnil
    · next hend => exact absurd (List.cons.inj hend).1 (by decide)
    · next hcons =>
        obtain ⟨rfl, rfl⟩ := List.cons.inj hcons
        rw [if_neg Bool.false_ne_true, if_pos (beq_self_eq_true _),
          skipBlanks_of_opening h]
        split
        · next hnil => cases hnil
        · next hend => exact absurd (List.cons.inj hend).1 h.2
        · rfl

/-- A key in quotes is the next key, after a comma unless it is the first. -/
theorem nextKey_quoted {strict : Bool} {written key : String}
    (h : Unquotes strict written key) (rest : List Char) :
    nextKey strict true (quoted written ++ rest) = .ok (some key, rest) ∧
      nextKey strict false (',' :: (quoted written ++ rest)) =
        .ok (some key, rest) := by
  have hkey :
      (readQuoted strict (written.toList.flatMap escapeChar ++ '"' :: rest)).map
        (fun r => (some r.1, r.2)) = .ok (some key, rest) := by
    rw [h]
    rfl
  rw [quoted_append]
  exact ⟨hkey, hkey⟩

theorem ofFields_eq (fields : List (String × Json)) :
    ofFields fields = .obj (SortedMap.ofList fields).entries := by
  have hentries : (SortedMap.ofList fields).entries =
      fields.foldl (fun acc f => insertEntry f.1 f.2 acc) [] :=
    (List.foldl_hom SortedMap.entries fun _ _ => rfl).symm
  rw [ofFields, hentries]

theorem ofFields_map {α : Type} (f : α → Json) (fields : List (String × α)) :
    ofFields (fields.map fun e => (e.1, f e.2)) =
      .obj ((SortedMap.ofList fields).entries.map fun e => (e.1, f e.2)) := by
  rw [ofFields_eq, SortedMap.ofList_map]

end Json

namespace Shape

open Json

variable {shape : Shape} {value : Json}

/-- The shape reads a value from what is printed for a document. Both are the
same unless keys are repeated or out of order in it. -/
structure Reads (shape : Shape) (written value : Json) : Prop where
  opens : ∃ c rest, written.print = c :: rest ∧ IsOpening c
  reads : ∀ {fuel : Nat} {rest : List Char}, Follows rest →
    written.print.length ≤ fuel →
    shape.readValue fuel (written.print ++ rest) = .ok (value, rest)

theorem readValue_scalar {c : Char} (h : IsOpening c) (hlist : c ≠ '[')
    (hobject : c ≠ '\x7b') (shape : Shape) (fuel : Nat) (rest : List Char) :
    shape.readValue (fuel + 1) (c :: rest) =
      readScalar shape.isStrict (c :: rest) >>= fun r =>
        judge (shape.acceptsScalar r.1) >>= fun _ => .ok r := by
  rw [readValue, skipBlanks_of_opening h]
  split
  · next heq => exact absurd (List.cons.inj heq).1 hlist
  · next heq => exact absurd (List.cons.inj heq).1 hobject
  · rfl

/-- A value other than a list or object is read if the shape accepts it. -/
theorem reads_scalar {written : Json}
    (hopens : ∃ c rest, written.print = c :: rest ∧ IsOpening c ∧ c ≠ '[' ∧
      c ≠ '\x7b')
    (hscalar : ∀ rest, Follows rest →
      readScalar shape.isStrict (written.print ++ rest) = .ok (value, rest))
    (haccepts : shape.acceptsScalar value = .ok ()) :
    shape.Reads written value := by
  obtain ⟨c, cs, hprint, hc, hlist, hobject⟩ := hopens
  refine ⟨⟨c, cs, hprint, hc⟩, fun {fuel rest} hrest hfuel => ?_⟩
  have hjudge : judge (shape.acceptsScalar value) = .ok () := by
    rw [haccepts]
    rfl
  have hread := hscalar rest hrest
  rw [hprint] at hfuel
  obtain ⟨fuel, rfl⟩ :=
    Nat.exists_eq_add_one_of_ne_zero (Nat.ne_zero_of_lt hfuel)
  rw [hprint, List.cons_append] at hread ⊢
  rw [readValue_scalar hc hlist hobject, hread, ok_bind, hjudge, ok_bind]

theorem reads_null (haccepts : shape.acceptsScalar .null = .ok ()) :
    shape.Reads .null .null :=
  reads_scalar ⟨'n', _, rfl, ⟨by decide, by decide⟩, by decide, by decide⟩
    (fun _ _ => rfl) haccepts

theorem reads_bool (b : Bool)
    (haccepts : shape.acceptsScalar (.bool b) = .ok ()) :
    shape.Reads (.bool b) (.bool b) := by
  cases b with
  | false =>
      exact reads_scalar ⟨'f', _, rfl, ⟨by decide, by decide⟩,
        by decide, by decide⟩ (fun _ _ => rfl) haccepts
  | true =>
      exact reads_scalar ⟨'t', _, rfl, ⟨by decide, by decide⟩,
        by decide, by decide⟩ (fun _ _ => rfl) haccepts

theorem reads_quoted {text read : String}
    (h : Unquotes shape.isStrict text read)
    (haccepts : shape.acceptsScalar (.str read) = .ok ()) :
    shape.Reads (.str text) (.str read) := by
  have hopens : IsOpening '"' := ⟨by decide, by decide⟩
  refine reads_scalar ⟨'"', _, rfl, hopens, by decide, by decide⟩
    (fun rest _ => ?_) haccepts
  rw [print, quoted_append, readScalar, h]
  rfl

theorem reads_text (text : String) : Shape.text.Reads (.str text) (.str text) :=
  reads_quoted (unquotes_self text) rfl

/-! ## Lists -/

/-- Values are read from others by the shapes of the items, one after the
other. -/
inductive Items.Reads : Items → List Json → List Json → Prop
  | nil {items : Items} : Reads items [] []
  | cons {items later : Items} {shape : Shape} {item value : Json}
      {written values : List Json} (hnext : items.next? = some (shape, later))
      (hvalue : shape.Reads item value) (hvalues : Reads later written values) :
      Reads items (item :: written) (value :: values)

theorem Items.reads_of_forall₂ {written values : List Json}
    (h : List.Forall₂ shape.Reads written values) :
    (Items.mk [] (some shape)).Reads written values := by
  induction h with
  | nil => exact .nil
  | cons hvalue _ ih => exact .cons rfl hvalue ih

/-- No more items. -/
theorem readItems_nil (items : Items) (first : Bool) (fuel : Nat)
    (rest : List Char) :
    readItems (fuel + 1) items first (']' :: rest) = .ok ([], rest) := by
  rw [readItems]
  cases items.next? <;> rfl

/-- One more item of a list. -/
theorem readItems_cons {items later : Items} {fuel : Nat} {first : Bool}
    {text rest rest' rest'' : List Char} {values : List Json}
    (hshape : items.next? = some (shape, later))
    (hnext : nextItem first text = .ok (some (), rest))
    (hvalue : shape.readValue fuel rest = .ok (value, rest'))
    (hvalues : readItems fuel later false rest' = .ok (values, rest'')) :
    readItems (fuel + 1) items first text = .ok (value :: values, rest'') := by
  rw [readItems, hshape]
  dsimp only
  rw [hnext, ok_bind]
  dsimp only
  rw [hvalue, ok_bind]
  dsimp only
  rw [hvalues]
  rfl

/-- What stands behind an item: the next one, or the end of the list. -/
theorem follows_items (written : List Json) (rest : List Char) :
    Follows ((written.flatMap fun value => ',' :: value.print) ++
      ']' :: rest) := by
  cases written with
  | nil => exact follows_cons (.inr (.inl rfl)) _
  | cons value written => exact follows_cons (.inl rfl) _

/-- The items after the first. -/
theorem readItems_later {items : Items} {written values : List Json}
    (h : items.Reads written values) (rest : List Char) : ∀ {fuel : Nat},
      (written.flatMap fun value => ',' :: value.print).length < fuel →
        readItems fuel items false
          ((written.flatMap fun value => ',' :: value.print) ++ ']' :: rest) =
            .ok (values, rest) := by
  induction h with
  | nil =>
      intro fuel hfuel
      obtain ⟨fuel, rfl⟩ :=
        Nat.exists_eq_add_one_of_ne_zero (Nat.ne_zero_of_lt hfuel)
      exact readItems_nil _ false fuel rest
  | @cons items later shape item value written values hshape
    hvalue hvalues ih =>
      intro fuel hfuel
      obtain ⟨fuel, rfl⟩ :=
        Nat.exists_eq_add_one_of_ne_zero (Nat.ne_zero_of_lt hfuel)
      obtain ⟨c, cs, hprint, hc⟩ := hvalue.opens
      rw [List.flatMap_cons, List.length_append, List.length_cons] at hfuel
      rw [List.flatMap_cons, List.append_assoc, List.cons_append]
      refine readItems_cons hshape ?_
        (hvalue.reads (follows_items written rest) (by omega)) (ih (by omega))
      rw [hprint]
      exact (nextItem_of_opening hc _).2

theorem readItems_printed {items : Items} {written values : List Json}
    {fuel : Nat} (rest : List Char) (h : items.Reads written values)
    (hfuel : (Text.joinWith ',' (printItems written)).length < fuel) :
    readItems fuel items true (Text.joinWith ',' (printItems written) ++
      ']' :: rest) =
        .ok (values, rest) := by
  obtain ⟨fuel, rfl⟩ :=
    Nat.exists_eq_add_one_of_ne_zero (Nat.ne_zero_of_lt hfuel)
  cases h with
  | nil => exact readItems_nil items true fuel rest
  | @cons _ later shape item value written values hshape hvalue hvalues =>
      obtain ⟨c, cs, hprint, hc⟩ := hvalue.opens
      have hlength : 0 < item.print.length := by simp [hprint]
      rw [printItems_eq_map, List.map_cons, joinWith_cons_eq, List.flatMap_map]
        at hfuel ⊢
      rw [List.length_append] at hfuel
      rw [List.append_assoc]
      refine readItems_cons hshape ?_
        (hvalue.reads (follows_items written rest) (by omega))
        (readItems_later hvalues rest (by omega))
      rw [hprint]
      exact (nextItem_of_opening hc _).1

/-- A list is read from the items that are written for it. -/
theorem Reads.arr {items : Items} {written values : List Json}
    (hitems : shape.items = .ok items) (h : items.Reads written values) :
    shape.Reads (.arr written) (.arr values) where
  opens := ⟨'[', _, rfl, by decide, by decide⟩
  reads := by
    intro fuel rest _ hfuel
    cases fuel with
    | zero => exact absurd hfuel (Nat.not_succ_le_zero _)
    | succ fuel =>
        have hbody : (Text.joinWith ',' (printItems written)).length <
            fuel := by
          simpa [print, Nat.succ_le_iff] using hfuel
        have hread (body : List Char) :
            readValue (fuel + 1) shape ('[' :: body) =
              judge shape.items >>= fun items =>
                readItems fuel items true body >>=
                  fun r => .ok (.arr r.1, r.2) := rfl
        have hjudge : judge shape.items = .ok items := by
          rw [hitems]
          rfl
        rw [print, List.cons_append, List.cons_append, List.append_assoc, hread,
          hjudge, ok_bind]
        exact bind_eq_ok.mpr
          ⟨(values, rest), readItems_printed rest h hbody, rfl⟩

theorem Reads.list {written values : List Json}
    (h : List.Forall₂ shape.Reads written values) :
    (Shape.list shape).Reads (.arr written) (.arr values) :=
  .arr rfl (Items.reads_of_forall₂ h)

/-! ## Objects -/

/-- One field of an object is read from what is written for another one. -/
structure Fields.ReadsEntry (fields : Fields) (strict : Bool)
    (written entry : String × Json) : Prop where
  key : Unquotes strict written.1 entry.1
  value : (fields.shapeOf entry.1).Reads written.2 entry.2

/-- The field is kept, which it is unless its shape is to skip it. -/
def Fields.keeps (fields : Fields) (entry : String × Json) : Bool :=
  (fields.shapeOf entry.1).isStrict

/-- No known key is repeated. -/
def Fields.Distinct (fields : Fields) (entries : List (String × Json)) : Prop :=
  entries.Pairwise fun a b => fields.knows b.1 = true → a.1 ≠ b.1

variable {fields : Fields} {strict : Bool}

/-- One more field of an object. -/
theorem readFields_cons {fuel : Nat} {first : Bool} {entry : String × Json}
    {before : List (String × Json)} {text rest rest' : List Char}
    (hnew : fields.knows entry.1 = true → ∀ e ∈ before, e.1 ≠ entry.1)
    (hnext : nextKey strict first text = .ok (some entry.1, ':' :: rest))
    (hvalue : (fields.shapeOf entry.1).readValue fuel rest =
      .ok (entry.2, rest')) :
    readFields (fuel + 1) fields strict before first text =
      readFields fuel fields strict (before ++ [entry].filter fields.keeps)
        false rest' := by
  have hcolon : expectColon (':' :: rest) = .ok rest := rfl
  have hrepeated : (fields.knows entry.1 && before.any (·.1 == entry.1)) =
      false := by
    rw [Bool.and_eq_false_iff, ← Bool.not_eq_true, or_iff_not_imp_left, not_not]
    simpa using hnew
  rw [readFields, hnext, ok_bind]
  dsimp only
  rw [hrepeated, if_neg Bool.false_ne_true, hcolon, ok_bind, hvalue, ok_bind]
  dsimp only
  have hkeeps : (fields.shapeOf entry.1).isStrict = fields.keeps entry := rfl
  rw [hkeeps]
  by_cases hkept : fields.keeps entry = true
  · rw [if_pos hkept, List.filter_cons_of_pos hkept, List.filter_nil]
  · rw [if_neg hkept, List.filter_cons_of_neg hkept, List.filter_nil,
      List.append_nil]

/-- What stands behind a field: the next one, or the end of the object. -/
theorem follows_fields (written : List (String × Json)) (rest : List Char) :
    Follows ((written.flatMap fun e => ',' :: fieldText e) ++
      '\x7d' :: rest) := by
  cases written with
  | nil => exact follows_cons (.inr (.inr rfl)) _
  | cons e written => exact follows_cons (.inl rfl) _

theorem length_fieldText (e : String × Json) :
    (fieldText e).length = (quoted e.1).length + 1 + e.2.print.length := by
  rw [fieldText, List.length_append, List.length_cons]
  omega

/-- The fields after the first. -/
theorem readFields_later {written entries : List (String × Json)}
    (h : List.Forall₂ (fields.ReadsEntry strict) written entries)
    (rest : List Char) :
    ∀ {before : List (String × Json)} {fuel : Nat},
      fields.Distinct (before ++ entries) →
      (written.flatMap fun e => ',' :: fieldText e).length < fuel →
        readFields fuel fields strict before false
          ((written.flatMap fun e => ',' :: fieldText e) ++ '\x7d' :: rest) =
            .ok (before ++ entries.filter fields.keeps, rest) := by
  induction h with
  | nil =>
      intro before fuel _ hfuel
      obtain ⟨fuel, rfl⟩ :=
        Nat.exists_eq_add_one_of_ne_zero (Nat.ne_zero_of_lt hfuel)
      exact congrArg (fun entries => Except.ok (entries, rest))
        (List.append_nil before).symm
  | @cons item entry written entries hentry hentries ih =>
      intro before fuel hdistinct hfuel
      obtain ⟨fuel, rfl⟩ :=
        Nat.exists_eq_add_one_of_ne_zero (Nat.ne_zero_of_lt hfuel)
      have hnew : fields.knows entry.1 = true → ∀ e ∈ before, e.1 ≠ entry.1 :=
        fun hknows e he =>
          (List.pairwise_append.mp hdistinct).2.2 e he entry
            List.mem_cons_self hknows
      have hlater :
          fields.Distinct ((before ++ [entry].filter fields.keeps) ++
            entries) := by
        rw [List.append_cons] at hdistinct
        exact hdistinct.sublist
          ((List.filter_sublist.append_left before).append_right entries)
      rw [List.flatMap_cons, List.length_append, List.length_cons,
        length_fieldText] at hfuel
      rw [List.flatMap_cons, List.append_assoc, List.cons_append, fieldText,
        List.append_assoc, List.cons_append,
        readFields_cons hnew (nextKey_quoted hentry.key _).2
          (hentry.value.reads (follows_fields written rest) (by omega)),
          ih hlater (by omega),
        List.append_assoc, ← List.filter_append, List.singleton_append]

theorem readFields_printed {written entries : List (String × Json)} {fuel : Nat}
    (rest : List Char)
    (h : List.Forall₂ (fields.ReadsEntry strict) written entries)
    (hdistinct : fields.Distinct entries)
    (hfuel : (Text.joinWith ',' (printFields written)).length < fuel) :
    readFields fuel fields strict [] true
      (Text.joinWith ',' (printFields written) ++ '\x7d' :: rest) =
        .ok (entries.filter fields.keeps, rest) := by
  obtain ⟨fuel, rfl⟩ :=
    Nat.exists_eq_add_one_of_ne_zero (Nat.ne_zero_of_lt hfuel)
  cases h with
  | nil => rfl
  | @cons item entry written entries hentry hentries =>
      have hlater : fields.Distinct ([entry].filter fields.keeps ++ entries) :=
        hdistinct.sublist (List.filter_sublist.append_right entries)
      rw [printFields_eq_map, List.map_cons, joinWith_cons_eq, List.flatMap_map]
        at hfuel ⊢
      rw [List.length_append, length_fieldText] at hfuel
      rw [List.append_assoc, fieldText, List.append_assoc, List.cons_append,
        readFields_cons (fun _ => List.forall_mem_nil _)
          (nextKey_quoted hentry.key _).1
          (hentry.value.reads (follows_fields written rest) (by omega)),
          List.nil_append,
        readFields_later hentries rest hlater (by omega), ← List.filter_append,
        List.singleton_append]

/-- An object is read from the fields that are written for it; of repeated keys
the last one counts. -/
theorem Reads.obj {written entries : List (String × Json)}
    (hfields : shape.fields = .ok fields)
    (h : List.Forall₂ (fields.ReadsEntry shape.isStrict) written entries)
    (hdistinct : fields.Distinct entries) :
    shape.Reads (.obj written) (ofFields (entries.filter fields.keeps)) where
  opens := ⟨'\x7b', _, rfl, by decide, by decide⟩
  reads := by
    intro fuel rest _ hfuel
    cases fuel with
    | zero => exact absurd hfuel (Nat.not_succ_le_zero _)
    | succ fuel =>
        have hbody : (Text.joinWith ',' (printFields written)).length <
            fuel := by
          simpa [print, Nat.succ_le_iff] using hfuel
        have hread (body : List Char) :
            readValue (fuel + 1) shape ('\x7b' :: body) =
              judge shape.fields >>= fun fields =>
                readFields fuel fields shape.isStrict [] true body >>= fun r =>
                  .ok (ofFields r.1, r.2) := rfl
        have hjudge : judge shape.fields = .ok fields := by
          rw [hfields]
          rfl
        rw [print, List.cons_append, List.cons_append, List.append_assoc, hread,
          hjudge, ok_bind]
        exact bind_eq_ok.mpr ⟨_, readFields_printed rest h hdistinct hbody, rfl⟩

/-- Where all fields are of one shape, none is known. -/
theorem distinct_of_unknown (entries : List (String × Json)) :
    (Fields.mk [] shape).Distinct entries :=
  List.pairwise_of_forall fun _ _ => nofun

theorem Reads.map {written entries : List (String × Json)}
    (hstrict : shape.isStrict = true)
    (h : List.Forall₂ (fun w e => w.1 = e.1 ∧ shape.Reads w.2 e.2)
      written entries) :
    (Shape.map shape).Reads (.obj written) (ofFields entries) := by
  have hentries :
      List.Forall₂ ((Fields.mk [] shape).ReadsEntry true) written entries :=
    h.imp fun w _ he => ⟨he.1 ▸ unquotes_self w.1, he.2⟩
  have hkept : entries.filter (Fields.mk [] shape).keeps = entries :=
    List.filter_eq_self.mpr fun _ _ => hstrict
  have hread : (Shape.map shape).Reads (.obj written)
      (ofFields (entries.filter (Fields.mk [] shape).keeps)) :=
    .obj rfl hentries (distinct_of_unknown entries)
  rwa [hkept] at hread

/-! ## Values that are kept as they are -/

theorem reads_any_text (text : String) : any.Reads (.str text) (.str text) :=
  reads_quoted (unquotes_self text) rfl

theorem reads_any_list {values : List Json} (h : ∀ v ∈ values, any.Reads v v) :
    any.Reads (.arr values) (.arr values) :=
  .arr rfl (Items.reads_of_forall₂ (List.forall₂_same.mpr h))

theorem reads_any_object {entries : List (String × Json)}
    (hasc : KeysAscend entries) (h : ∀ e ∈ entries, any.Reads e.2 e.2) :
    any.Reads (.obj entries) (.obj entries) := by
  have hkept : entries.filter (Fields.mk [] any).keeps = entries :=
    List.filter_eq_self.mpr fun _ _ => rfl
  have hread :
      any.Reads (.obj entries)
        (ofFields (entries.filter (Fields.mk [] any).keeps)) :=
    .obj rfl (List.forall₂_same.mpr fun e he => ⟨unquotes_self e.1, h e he⟩)
      (distinct_of_unknown entries)
  rwa [hkept, ofFields_eq, SortedMap.ofList_eq_mk hasc] at hread

/-! ## Documents -/

/-- **Reading undoes printing.** What a shape reads from a printed document, it
reads from the whole text. -/
theorem Reads.read_render {written : Json} (h : shape.Reads written value) :
    shape.read written.render = .ok value := by
  have htext : written.render.toList = written.print := String.toList_ofList
  have hlength : written.render.length = written.print.length := by
    rw [← String.length_toList, htext]
  have hvalue :
      shape.readValue (2 * written.print.length + 2) (written.print ++ []) =
        .ok (value, []) := h.reads follows_nil (by omega)
  rw [List.append_nil] at hvalue
  rw [read, hlength, htext, hvalue]
  rfl

end Shape

end ClusterGate
