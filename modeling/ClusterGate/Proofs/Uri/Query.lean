import ClusterGate.Proofs.Text.Percent
import ClusterGate.Uri.Query

/-!
# Queries come back

Reading the query that was written for a list of pairs gives the pairs
back (`parse_render`), whatever their keys and values hold. What is
written consists of characters that no URI has to escape in its query.
-/

namespace ClusterGate.Query

/-! ## Bytes -/

/-- What a byte that stands for itself looks like as a character. -/
theorem plain_char {b : UInt8} (h : isPlain b = true) :
    (Char.ofNat b.toNat ≠ '%' ∧ Char.ofNat b.toNat ≠ '+') ∧
      (Char.ofNat b.toNat ≠ '&' ∧ Char.ofNat b.toNat ≠ '=') ∧
      Percent.specialQuery (Char.ofNat b.toNat) = false ∧
      Utf8.encodeChar (Char.ofNat b.toNat) = [b] := by
  have hall : ∀ n < 128, isPlain (UInt8.ofNat n) = true →
      (Char.ofNat n ≠ '%' ∧ Char.ofNat n ≠ '+') ∧
        (Char.ofNat n ≠ '&' ∧ Char.ofNat n ≠ '=') ∧
        Percent.specialQuery (Char.ofNat n) = false ∧
        Utf8.encodeChar (Char.ofNat n) = [UInt8.ofNat n] := by decide
  have hlt : b.toNat < 128 := by
    simp only [isPlain, Bool.or_eq_true, Bool.and_eq_true, decide_eq_true_iff,
      beq_iff_eq] at h
    omega
  have hb := hall b.toNat hlt
  rw [UInt8.ofNat_toNat] at hb
  exact hb h

/-- The characters that bytes are written with. -/
theorem mem_encodeByte {b : UInt8} {c : Char} (h : c ∈ encodeByte b) :
    (c ≠ '&' ∧ c ≠ '=') ∧ Percent.specialQuery c = false := by
  have hescape : ∀ c ∈ Percent.escapeChars,
      (c ≠ '&' ∧ c ≠ '=') ∧ Percent.specialQuery c = false :=
    Percent.forall_mem_of_all (by decide)
  rw [encodeByte] at h
  split at h
  · next hplain =>
      obtain rfl := List.mem_singleton.mp h
      obtain ⟨-, hne, hset, -⟩ := plain_char hplain
      exact ⟨hne, hset⟩
  · split at h
    · obtain rfl := List.mem_singleton.mp h
      decide
    · exact hescape c (Percent.mem_escapeByte h)

/-- A character as it is read, with the plus sign for a space. -/
def unplus (c : Char) : Char := if c = '+' then ' ' else c

theorem map_unplus_escapeByte (b : UInt8) :
    (Percent.escapeByte b).map unplus = Percent.escapeByte b := by
  have hall : ∀ c ∈ Percent.escapeChars, unplus c = c :=
    Percent.forall_mem_of_all (by decide)
  exact (List.map_congr_left
    fun c hc => hall c (Percent.mem_escapeByte hc)).trans (List.map_id _)

theorem decode_encodeByte (b : UInt8) (rest : List Char) :
    Percent.decode ((encodeByte b).map unplus ++ rest) =
      b :: Percent.decode rest := by
  rw [encodeByte]
  split
  · next hplain =>
      obtain ⟨⟨hpercent, hplus⟩, -, -, hbytes⟩ := plain_char hplain
      rw [List.map_singleton, unplus, if_neg hplus, List.singleton_append,
        Percent.decode_cons hpercent, hbytes]
      rfl
  · split
    · next hspace =>
        subst hspace
        exact Percent.decode_cons (by decide)
    · rw [map_unplus_escapeByte, Percent.decode_escapeByte]

/-! ## Texts -/

theorem decode_encode (text : List Char) :
    decode (encode text) = String.ofList text := by
  have hbytes : ∀ bytes : List UInt8,
      Percent.decode ((bytes.flatMap encodeByte).map unplus) = bytes := by
    intro bytes
    induction bytes with
    | nil => rfl
    | cons b bytes ih =>
        rw [List.flatMap_cons, List.map_append, decode_encodeByte, ih]
  have hread : decode (encode text) = String.ofList (Utf8.decodeLossy
      (Percent.decode
        (((Utf8.encode text).flatMap encodeByte).map unplus))) := rfl
  rw [hread, hbytes, Utf8.decodeLossy_encode]

theorem mem_encode {text : List Char} {c : Char} (h : c ∈ encode text) :
    (c ≠ '&' ∧ c ≠ '=') ∧ Percent.specialQuery c = false := by
  obtain ⟨b, -, hb⟩ := List.mem_flatMap.mp h
  exact mem_encodeByte hb

/-! ## Pairs -/

theorem decodePair_encodePair (pair : String × String) :
    decodePair (encodePair pair) = pair := by
  have hkey : (encodePair pair).takeWhile (· != '=') =
      encode pair.1.toList := by
    rw [encodePair, List.takeWhile_append_of_pos
        fun c hc => bne_iff_ne.mpr (mem_encode hc).1.2]
    simp
  have hvalue : (encodePair pair).drop ((encode pair.1.toList).length + 1) =
      encode pair.2.toList := by
    rw [encodePair, List.drop_append]
    simp
  rw [decodePair, hkey, hvalue, decode_encode, decode_encode,
    String.ofList_toList, String.ofList_toList]

theorem not_amp_of_mem_encodePair {pair : String × String} {c : Char}
    (h : c ∈ encodePair pair) :
    c ≠ '&' ∧ Percent.specialQuery c = false := by
  rcases List.mem_append.mp h with h | h
  · exact ⟨(mem_encode h).1.1, (mem_encode h).2⟩
  rcases List.mem_cons.mp h with rfl | h
  · decide
  · exact ⟨(mem_encode h).1.1, (mem_encode h).2⟩

/-- **Queries come back.** -/
theorem parse_render (pairs : List (String × String)) :
    parse (render pairs) = pairs := by
  cases pairs with
  | nil => rfl
  | cons pair rest =>
      have hsplit : Text.splitAt '&' (render (pair :: rest)) =
          (pair :: rest).map encodePair :=
        Text.splitAt_joinWith '&' (List.cons_ne_nil _ _)
          fun piece hpiece hamp => by
            obtain ⟨p, -, rfl⟩ := List.mem_map.mp hpiece
            exact (not_amp_of_mem_encodePair hamp).1 rfl
      have hpieces :
          ((pair :: rest).map encodePair).filter (fun piece => !piece.isEmpty) =
            (pair :: rest).map encodePair :=
        List.filter_eq_self.mpr fun piece hpiece => by
          obtain ⟨p, -, rfl⟩ := List.mem_map.mp hpiece
          simp [encodePair]
      rw [parse, hsplit, hpieces, List.map_map]
      exact (List.map_congr_left fun p _ => decodePair_encodePair p).trans
        (List.map_id _)

example : parse "a+b=%26&%C3%A9=".toList = [("a b", "&"), ("é", "")] := by
  decide

theorem mem_joinWith {sep c : Char} : ∀ {pieces : List (List Char)},
    c ∈ Text.joinWith sep pieces → c = sep ∨ ∃ piece ∈ pieces, c ∈ piece
  | [], h => by cases h
  | [piece], h => .inr ⟨piece, List.mem_singleton_self _, h⟩
  | piece :: second :: rest, h => by
      rw [Text.joinWith_cons (List.cons_ne_nil _ _), List.mem_append,
        List.mem_cons] at h
      rcases h with h | rfl | h
      · exact .inr ⟨piece, List.mem_cons_self, h⟩
      · exact .inl rfl
      · obtain h | ⟨p, hp, hc⟩ := mem_joinWith h
        · exact .inl h
        · exact .inr ⟨p, List.mem_cons_of_mem _ hp, hc⟩

/-- Nothing in a written query has to be escaped. -/
theorem specialQuery_of_mem_render {pairs : List (String × String)} {c : Char}
    (h : c ∈ render pairs) : Percent.specialQuery c = false := by
  obtain rfl | ⟨piece, hpiece, hc⟩ := mem_joinWith h
  · decide
  · obtain ⟨p, -, rfl⟩ := List.mem_map.mp hpiece
    exact (not_amp_of_mem_encodePair hc).2

end ClusterGate.Query
