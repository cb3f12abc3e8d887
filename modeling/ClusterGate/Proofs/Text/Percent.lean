import ClusterGate.Proofs.Text.Utf8
import ClusterGate.Text.Percent

/-!
# Escapes and what is left of them

The characters of an escape are a percent sign and upper-case hexadecimal
digits. A set that contains none of them is gone from every text encoded
with it, and encoding such a text again changes nothing. Decoding reads an
escape back as its byte.
-/

namespace ClusterGate.Percent

variable {set : Char → Bool} {text rest : List Char} {c : Char}

/-- What holds of each of a few characters is decided for these alone, and
not for all characters there are. -/
theorem forall_mem_of_all {α : Type} {l : List α} {P : α → Prop}
    [DecidablePred P] (h : (l.all fun a => decide (P a)) = true) :
    ∀ a ∈ l, P a := fun a ha =>
  of_decide_eq_true (List.all_eq_true.mp h a ha)

/-- The characters that escapes are written with. -/
def escapeChars : List Char := "%0123456789ABCDEF".toList

theorem hexDigit_mem {n : Nat} (h : n < 16) : hexDigit n ∈ escapeChars := by
  have hall : ∀ n < 16, hexDigit n ∈ escapeChars := by decide
  exact hall n h

theorem hexValue?_hexDigit {n : Nat} (h : n < 16) :
    hexValue? (hexDigit n) = some n := by
  have hall : ∀ n < 16, hexValue? (hexDigit n) = some n := by decide
  exact hall n h

theorem mem_escapeByte {b : UInt8} (h : c ∈ escapeByte b) :
    c ∈ escapeChars := by
  have hb := b.toNat_lt
  rcases List.mem_cons.mp h with rfl | h
  · decide
  rcases List.mem_cons.mp h with rfl | h
  · exact hexDigit_mem (by omega)
  · obtain rfl := List.mem_singleton.mp h
    exact hexDigit_mem (by omega)

theorem mem_escapeChar {d : Char} (h : c ∈ escapeChar d) : c ∈ escapeChars := by
  obtain ⟨b, -, hb⟩ := List.mem_flatMap.mp h
  exact mem_escapeByte hb

/-! ## Encoding -/

theorem encode_eq_self (h : ∀ c ∈ text, set c = false) :
    encode set text = text := by
  induction text with
  | nil => rfl
  | cons c text ih =>
      rw [encode, List.flatMap_cons, h c List.mem_cons_self,
        if_neg Bool.false_ne_true]
      exact congrArg (c :: ·) (ih fun d hd => h d (List.mem_cons_of_mem c hd))

/-- A character of an encoded text was there before or belongs to an
escape. -/
theorem mem_encode (h : c ∈ encode set text) :
    c ∈ text ∧ set c = false ∨ c ∈ escapeChars := by
  obtain ⟨d, hd, hc⟩ := List.mem_flatMap.mp h
  split at hc
  · exact .inr (mem_escapeChar hc)
  · next hset =>
      obtain rfl := List.mem_singleton.mp hc
      exact .inl ⟨hd, Bool.eq_false_iff.mpr hset⟩

theorem not_set_of_mem_encode (hset : ∀ c ∈ escapeChars, set c = false)
    (h : c ∈ encode set text) :
    set c = false := by
  rcases mem_encode h with ⟨-, hc⟩ | hc
  · exact hc
  · exact hset c hc

theorem path_escapeChars : ∀ c ∈ escapeChars, path c = false :=
  forall_mem_of_all (by decide)

/-! ## Decoding -/

theorem decode_cons (h : c ≠ '%') :
    decode (c :: rest) = Utf8.encodeChar c ++ decode rest := by
  rw [decode]
  rintro a b rest rfl
  exact absurd rfl h

theorem decode_escapeByte (b : UInt8) :
    decode (escapeByte b ++ rest) = b :: decode rest := by
  have hb := b.toNat_lt
  have hbyte : UInt8.ofNat (16 * (b.toNat / 16) + b.toNat % 16) = b := by
    rw [Nat.div_add_mod, UInt8.ofNat_toNat]
  simp only [escapeByte, List.cons_append, List.nil_append, decode,
    hexValue?_hexDigit (show b.toNat / 16 < 16 by omega),
    hexValue?_hexDigit (show b.toNat % 16 < 16 by omega), hbyte]

theorem decode_escapeBytes (bytes : List UInt8) :
    decode (bytes.flatMap escapeByte ++ rest) = bytes ++ decode rest := by
  induction bytes with
  | nil => rfl
  | cons b bytes ih =>
      rw [List.flatMap_cons, List.append_assoc, decode_escapeByte, ih,
        List.cons_append]

/-- **Escapes come back.** A text without a percent sign of its own is decoded
to its bytes, whatever was escaped in it. -/
theorem decode_encode (h : '%' ∉ text) :
    decode (encode set text) = Utf8.encode text := by
  induction text with
  | nil => rfl
  | cons c text ih =>
      obtain ⟨hc, hrest⟩ := List.ne_and_not_mem_of_not_mem_cons h
      have hcons : encode set (c :: text) =
          (if set c then escapeChar c else [c]) ++ encode set text :=
        List.flatMap_cons
      rw [hcons, Utf8.encode_cons, ← ih hrest]
      split
      · exact decode_escapeBytes _
      · exact decode_cons (Ne.symm hc)

example : decode "a%20%C3%A9".toList = Utf8.encode "a é".toList := by decide

/-- A character that is no part of an escape keeps its bytes. -/
theorem mem_decode (hc : c ∈ text) (hpercent : c ≠ '%')
    (hdigit : hexValue? c = none) :
    ∀ b ∈ Utf8.encodeChar c, b ∈ decode text := by
  fun_induction decode text with
  | case1 => cases hc
  | case2 a d rest x y hd ha ih =>
      have hmem : c ∈ rest := by
        rcases List.mem_cons.mp hc with rfl | hc
        · exact absurd rfl hpercent
        rcases List.mem_cons.mp hc with rfl | hc
        · rw [ha] at hdigit
          cases hdigit
        rcases List.mem_cons.mp hc with rfl | hc
        · rw [hd] at hdigit
          cases hdigit
        · exact hc
      exact fun b hb => List.mem_cons_of_mem _ (ih hmem b hb)
  | case3 a d rest hnone ih =>
      have hmem : c ∈ a :: d :: rest :=
        (List.mem_cons.mp hc).resolve_left hpercent
      exact fun b hb => List.mem_cons_of_mem _ (ih hmem b hb)
  | case4 d rest hshape ih =>
      intro b hb
      rcases List.mem_cons.mp hc with rfl | hmem
      · exact List.mem_append_left _ hb
      · exact List.mem_append_right _ (ih hmem b hb)

end ClusterGate.Percent
