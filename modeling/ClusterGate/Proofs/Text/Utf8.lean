import ClusterGate.Text.Utf8

/-!
# Decoding what was encoded

The bytes of a character start that character, whatever follows them
(`decodeChar_encodeChar`), so both decoders read an encoded text back. In
the other direction, a decoded text has all the ASCII characters that are
among its bytes (`mem_of_decode`).
-/

namespace ClusterGate.Utf8

/-! ## Continuation bytes -/

theorem toNat_ofNat {n : Nat} (h : n < 0x100) : (UInt8.ofNat n).toNat = n := by
  rw [UInt8.toNat_ofNat', Nat.mod_eq_of_lt h]

theorem ofNat_eq_iff {n : Nat} {b : UInt8} (h : n < 0x100) :
    UInt8.ofNat n = b ↔ n = b.toNat := by
  rw [← UInt8.toNat_inj, toNat_ofNat h]

theorem isTail_ofNat (n : Nat) :
    isTail (UInt8.ofNat (0x80 + n % 0x40)) = true := by
  rw [isTail, toNat_ofNat (by omega), Bool.and_eq_true, decide_eq_true_iff,
    decide_eq_true_iff]
  omega

theorem payload_ofNat (n : Nat) :
    payload (UInt8.ofNat (0x80 + n % 0x40)) = n % 0x40 := by
  rw [payload, toNat_ofNat (by omega)]
  omega

/-! ## One character -/

theorem toNat_lt_or (c : Char) :
    c.toNat < 0xD800 ∨ 0xDFFF < c.toNat ∧ c.toNat < 0x110000 :=
  c.valid

theorem isSecond_ofNat {a b : Nat} (ha : a < 0x100) (hb : b < 0x100) :
    isSecond (UInt8.ofNat a) (UInt8.ofNat b) = true ↔
      (0x80 ≤ b ∧ b ≤ 0xBF) ∧ (a = 0xE0 → 0xA0 ≤ b) ∧ (a = 0xED → b ≤ 0x9F) ∧
        (a = 0xF0 → 0x90 ≤ b) ∧ (a = 0xF4 → b ≤ 0x8F) := by
  have hfirst : ∀ c : UInt8, UInt8.ofNat a = c ↔ a = c.toNat :=
    fun _ => ofNat_eq_iff ha
  simp only [isSecond, secondRange, hfirst, toNat_ofNat hb, UInt8.reduceToNat,
    Bool.and_eq_true, decide_eq_true_iff]
  split
  · omega
  split
  · omega
  split
  · omega
  split <;> omega

/-- **Characters come back.** The bytes of a character start it. -/
theorem decodeChar_encodeChar (c : Char) (rest : List UInt8) :
    ∃ first tail, encodeChar c = first :: tail ∧
      decodeChar first (tail ++ rest) = .char c rest := by
  have hvalid := toNat_lt_or c
  have hback : ∀ n, n = c.toNat → Char.ofNat n = c := by
    rintro n rfl
    exact Char.ofNat_toNat c
  unfold encodeChar
  by_cases h1 : c.toNat < 0x80
  · rw [if_pos h1]
    refine ⟨_, _, rfl, ?_⟩
    simp only [decodeChar, toNat_ofNat (show c.toNat < 0x100 by omega),
      List.nil_append]
    rw [if_pos h1, hback _ rfl]
  rw [if_neg h1]
  by_cases h2 : c.toNat < 0x800
  · rw [if_pos h2]
    refine ⟨_, _, rfl, ?_⟩
    simp only [decodeChar,
      toNat_ofNat (show 0xC0 + c.toNat / 0x40 < 0x100 by omega),
      List.cons_append, List.nil_append, isTail_ofNat, payload_ofNat, if_true]
    rw [if_neg (by omega), if_pos (by omega), hback _ (by omega)]
  rw [if_neg h2]
  by_cases h3 : c.toNat < 0x10000
  · rw [if_pos h3]
    refine ⟨_, _, rfl, ?_⟩
    have hsecond : isSecond (UInt8.ofNat (0xE0 + c.toNat / 0x1000))
        (UInt8.ofNat (0x80 + c.toNat / 0x40 % 0x40)) = true := by
      rw [isSecond_ofNat (by omega) (by omega)]
      omega
    simp only [decodeChar,
      toNat_ofNat (show 0xE0 + c.toNat / 0x1000 < 0x100 by omega),
      List.cons_append, List.nil_append, hsecond, isTail_ofNat,
      payload_ofNat, if_true]
    rw [if_neg (by omega), if_neg (by omega), if_pos (by omega),
      hback _ (by omega)]
  · rw [if_neg h3]
    refine ⟨_, _, rfl, ?_⟩
    have hsecond : isSecond (UInt8.ofNat (0xF0 + c.toNat / 0x40000))
        (UInt8.ofNat (0x80 + c.toNat / 0x1000 % 0x40)) = true := by
      rw [isSecond_ofNat (by omega) (by omega)]
      omega
    simp only [decodeChar,
      toNat_ofNat (show 0xF0 + c.toNat / 0x40000 < 0x100 by omega),
      List.cons_append, List.nil_append, hsecond, isTail_ofNat,
      payload_ofNat, if_true]
    rw [if_neg (by omega), if_neg (by omega), if_neg (by omega),
      if_pos (by omega), hback _ (by omega)]

/-! ## Whole texts -/

theorem encode_cons (c : Char) (text : List Char) :
    encode (c :: text) = encodeChar c ++ encode text :=
  List.flatMap_cons

/-- Enough fuel for a text is one unit for each of its characters. -/
theorem decodeLossyFrom_encode :
    ∀ {text : List Char} {fuel : Nat}, text.length ≤ fuel →
    decodeLossyFrom fuel (encode text) = text
  | [], 0, _ => rfl
  | [], _ + 1, _ => rfl
  | c :: text, fuel + 1, h => by
      obtain ⟨first, tail, hbytes, hchar⟩ :=
        decodeChar_encodeChar c (encode text)
      rw [encode_cons, hbytes, List.cons_append, decodeLossyFrom, hchar]
      exact congrArg
        (c :: ·) (decodeLossyFrom_encode (Nat.le_of_succ_le_succ h))

theorem length_le_length_encode (text : List Char) :
    text.length ≤ (encode text).length := by
  induction text with
  | nil => exact Nat.le_refl 0
  | cons c text ih =>
      obtain ⟨first, tail, hbytes, -⟩ := decodeChar_encodeChar c []
      rw [encode_cons, hbytes, List.length_cons, List.length_append,
        List.length_cons]
      omega

theorem decodeFrom_encode :
    ∀ {text : List Char} {fuel done : Nat}, text.length ≤ fuel →
    decodeFrom fuel done (encode text) = .ok text
  | [], 0, _, _ => rfl
  | [], _ + 1, _, _ => rfl
  | c :: text, fuel + 1, done, h => by
      obtain ⟨first, tail, hbytes, hchar⟩ :=
        decodeChar_encodeChar c (encode text)
      rw [encode_cons, hbytes, List.cons_append, decodeFrom, hchar]
      dsimp only
      rw [decodeFrom_encode (Nat.le_of_succ_le_succ h)]
      rfl

/-- **Texts come back.** -/
theorem decodeLossy_encode (text : List Char) :
    decodeLossy (encode text) = text :=
  decodeLossyFrom_encode (length_le_length_encode text)

theorem decode_encode (text : List Char) : decode (encode text) = .ok text :=
  decodeFrom_encode (length_le_length_encode text)

example : decode [0x61, 0xC3, 0xA9, 0xF0, 0x9F, 0x98, 0x80] =
  .ok "aé😀".toList := by
  rfl

theorem encode_injective {text other : List Char}
    (h : encode text = encode other) :
    text = other := by
  have hdecode := decode_encode text
  rw [h, decode_encode] at hdecode
  exact (Except.ok.inj hdecode).symm

/-! ## Bytes that are characters -/

theorem le_of_isTail {b : UInt8} (h : isTail b = true) : 0x80 ≤ b.toNat := by
  rw [isTail, Bool.and_eq_true] at h
  exact of_decide_eq_true h.1

theorem le_of_isSecond {first b : UInt8} (h : isSecond first b = true) :
    0x80 ≤ b.toNat := by
  have hleast : 0x80 ≤ (secondRange first).1 := by
    unfold secondRange
    split
    · decide
    split
    · decide
    split
    · decide
    split <;> decide
  rw [isSecond, Bool.and_eq_true] at h
  exact Nat.le_trans hleast (of_decide_eq_true h.1)

/-- A byte below 0x80 is read as a character of its own. -/
theorem decodeChar_eq_char {first : UInt8} {rest after : List UInt8} {c : Char}
    (h : decodeChar first rest = .char c after) :
    ∃ tail, rest = tail ++ after ∧
      ∀ b ∈ first :: tail, b.toNat < 0x80 → c = Char.ofNat b.toNat := by
  have hhigh : ∀ {tail : List UInt8}, (∀ b ∈ tail, 0x80 ≤ b.toNat) → ∀ b ∈ tail,
      b.toNat < 0x80 → c = Char.ofNat b.toNat :=
    fun h b hb hlt => absurd hlt (Nat.not_lt.mpr (h b hb))
  unfold decodeChar at h
  dsimp only at h
  split at h
  · obtain ⟨rfl, rfl⟩ := Start.char.inj h
    exact ⟨[], rfl, fun b hb _ => by rw [List.mem_singleton.mp hb]⟩
  next hfirst =>
  have hfirst : 0x80 ≤ first.toNat := Nat.not_lt.mp hfirst
  split at h
  · split at h
    · cases h
    split at h
    · next hb =>
        obtain ⟨-, rfl⟩ := Start.char.inj h
        exact ⟨[_], rfl, hhigh (by simp [hfirst, le_of_isTail hb])⟩
    · cases h
  split at h
  · split at h
    · cases h
    split at h
    · next hb =>
        split at h
        · cases h
        split at h
        · next hc =>
            obtain ⟨-, rfl⟩ := Start.char.inj h
            exact ⟨[_, _], rfl,
              hhigh (by simp [hfirst, le_of_isSecond hb, le_of_isTail hc])⟩
        · cases h
    · cases h
  split at h
  · split at h
    · cases h
    split at h
    · next hb =>
        split at h
        · cases h
        split at h
        · next hc =>
            split at h
            · cases h
            split at h
            · next hd =>
                obtain ⟨-, rfl⟩ := Start.char.inj h
                exact ⟨[_, _, _], rfl,
                  hhigh
                    (by simp [hfirst, le_of_isSecond hb, le_of_isTail hc,
                      le_of_isTail hd])⟩
            · cases h
        · cases h
    · cases h
  · cases h

theorem mem_of_decodeFrom {fuel done : Nat} {bytes : List UInt8}
    {text : List Char} (hfuel : bytes.length ≤ fuel)
    (h : decodeFrom fuel done bytes = .ok text) :
    ∀ b ∈ bytes, b.toNat < 0x80 → Char.ofNat b.toNat ∈ text := by
  fun_induction decodeFrom fuel done bytes generalizing text with
  | case1 => exact fun b hb => nomatch hb
  | case2 => exact absurd hfuel (Nat.not_succ_le_zero _)
  | case3 fuel done first rest c after hchar ih =>
      obtain ⟨tail, rfl, htail⟩ := decodeChar_eq_char hchar
      cases hrest : decodeFrom fuel (done + (encodeChar c).length) after with
      | error e =>
          rw [hrest] at h
          cases h
      | ok more =>
          rw [hrest] at h
          obtain rfl := Except.ok.inj h
          have hshort : after.length ≤ fuel := by
            rw [List.length_cons, List.length_append] at hfuel
            omega
          intro b hb hascii
          rw [← List.cons_append] at hb
          rcases List.mem_append.mp hb with hb | hb
          · exact htail b hb hascii ▸ List.mem_cons_self
          · exact List.mem_cons_of_mem c (ih hshort hrest b hb hascii)
  | case4 => cases h
  | case5 => cases h

/-- Every byte below 0x80 is a character of the decoded text. -/
theorem mem_of_decode {bytes : List UInt8} {text : List Char}
    (h : decode bytes = .ok text) {b : UInt8} (hb : b ∈ bytes)
    (hascii : b.toNat < 0x80) : Char.ofNat b.toNat ∈ text :=
  mem_of_decodeFrom (Nat.le_refl _) h b hb hascii

end ClusterGate.Utf8
