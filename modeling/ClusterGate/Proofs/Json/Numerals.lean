import ClusterGate.Proofs.Json.Printed

/-!
# Numbers as they are written

A numeral is proper if its parts are digits and only a whole part that is zero
begins with a zero. From the text of a proper numeral its parts are read again,
whatever it stands for (`Numeral.read_text`), and what is printed for a number
is always such a text (`Number.exists_render`).

An integer is put together again from its digits as long as it fits 64 bits, so
it is read as it was printed (`Shape.reads_int`).
-/

namespace ClusterGate

open Json

namespace Numeral

/-! ## Digits -/

theorem appendDigits_append : ∀ {digits more : List Char} {n m : Nat},
    appendDigits n digits = (m, []) →
      appendDigits n (digits ++ more) = appendDigits m more
  | [], _, _, _, h => by
      obtain ⟨rfl, -⟩ := Prod.mk.inj h
      rfl
  | d :: digits, more, n, m, h => by
      rw [appendDigits] at h
      split at h
      · next hfits => rw [List.cons_append, appendDigits, if_pos hfits,
          appendDigits_append h]
      · exact absurd (Prod.mk.inj h).2 (List.cons_ne_nil _ _)

theorem appendDigits_digitChar {n d : Nat} (hd : d < 10)
    (h : 10 * n + d < Nat.pow 2 64) :
    appendDigits n [d.digitChar] = (10 * n + d, []) := by
  have hvalue : 10 * n + (d.digitChar.toNat - 0x30) = 10 * n + d := by
    rw [Nat.toNat_digitChar_of_lt_ten hd]
    omega
  rw [appendDigits, hvalue, if_pos h, appendDigits]

theorem appendDigits_toDigits {n : Nat} (h : n < Nat.pow 2 64) :
    appendDigits 0 (Nat.toDigits 10 n) = (n, []) := by
  induction n using Nat.strongRecOn with
  | ind n ih =>
      rcases Nat.lt_or_ge n 10 with hlt | hge
      · have hone := appendDigits_digitChar (n := 0) hlt (by omega)
        rwa [Nat.mul_zero, Nat.zero_add, ← Nat.toDigits_of_lt_base hlt] at hone
      · have hsplit : 10 * (n / 10) + n % 10 = n := Nat.div_add_mod n 10
        rw [Nat.toDigits_of_base_le (by decide) hge,
          appendDigits_append (ih (n / 10) (by omega) (by omega)),
          appendDigits_digitChar (Nat.mod_lt n (by decide)) (by omega), hsplit]

theorem head?_toDigits {n : Nat} (h : 0 < n) :
    (Nat.toDigits 10 n).head? ≠ some '0' := by
  induction n using Nat.strongRecOn with
  | ind n ih =>
      rcases Nat.lt_or_ge n 10 with hlt | hge
      · rw [Nat.toDigits_of_lt_base hlt]
        intro hzero
        have hvalue := congrArg Char.toNat (Option.some.inj hzero)
        rw [Nat.toNat_digitChar_of_lt_ten hlt] at hvalue
        exact absurd hvalue (by simp; omega)
      · rw [Nat.toDigits_of_base_le (by decide) hge,
          List.head?_append_of_ne_nil _ Nat.toDigits_ne_nil]
        exact ih (n / 10) (by omega) (by omega)

theorem length_toDigits_of_head? {n : Nat}
    (h : (Nat.toDigits 10 n).head? = some '0') :
    (Nat.toDigits 10 n).length = 1 := by
  rcases Nat.eq_zero_or_pos n with rfl | hpos
  · rfl
  · exact absurd h (head?_toDigits hpos)

/-! ## Texts of numerals -/

/-- One or more digits. -/
def Digits (digits : List Char) : Prop :=
  digits ≠ [] ∧ ∀ c ∈ digits, c.isDigit = true

theorem digits_toDigits (n : Nat) : Digits (Nat.toDigits 10 n) :=
  ⟨Nat.toDigits_ne_nil, fun _ hc => Nat.isDigit_of_mem_toDigits (by decide)
    (by decide) hc⟩

/-- The parts are ones that a numeral can have. -/
structure Proper (x : Numeral) : Prop where
  whole : Digits x.whole
  leading : x.whole.head? = some '0' → x.whole.length = 1
  fraction : ∀ c ∈ x.fraction, c.isDigit = true
  exponent : ∀ e ∈ x.exponent, Digits e.digits

def fractionText (fraction : List Char) : List Char :=
  if fraction.isEmpty then [] else '.' :: fraction

def exponentText : Option WrittenExponent → List Char
  | none => []
  | some e => 'e' :: (if e.negative then '-' else '+') :: e.digits

/-- The numeral as text but for its sign. -/
def magnitudeText (x : Numeral) : List Char :=
  x.whole ++ (fractionText x.fraction ++ exponentText x.exponent)

def text (x : Numeral) : List Char :=
  (if x.negative then ['-'] else []) ++ x.magnitudeText

/-! ## Reading -/

/-- The text does not go on with a digit. -/
def Stops (rest : List Char) : Prop := ∀ c ∈ rest.head?, c.isDigit = false

theorem stops_of_follows {rest : List Char} (h : Follows rest) :
    Stops rest := by
  intro c hc
  rcases h c hc with rfl | rfl | rfl <;> decide

theorem head?_exponentText (e : Option WrittenExponent) {rest : List Char}
    (h : Follows rest) :
    ∀ c ∈ (exponentText e ++ rest).head?, c.isDigit = false ∧ c ≠ '.' := by
  intro c hc
  cases e with
  | none => rcases h c hc with rfl | rfl | rfl <;> decide
  | some e =>
      obtain rfl := Option.some.inj hc
      decide

theorem stops_fractionText (fraction : List Char) {rest : List Char}
    (h : Stops rest) :
    Stops (fractionText fraction ++ rest) := by
  intro c hc
  unfold fractionText at hc
  split at hc
  · exact h c hc
  · obtain rfl := Option.some.inj hc
    rfl

theorem readDigits_append (cut : ReadError) {digits rest : List Char}
    (h : Digits digits) (hrest : Stops rest) :
    readDigits cut (digits ++ rest) = .ok (digits, rest) := by
  have htake : (digits ++ rest).takeWhile Char.isDigit = digits := by
    rw [List.takeWhile_append_of_pos h.2]
    cases rest with
    | nil => exact List.append_nil _
    | cons c rest =>
        rw [List.takeWhile_cons_of_neg, List.append_nil]
        simp [hrest c rfl]
  obtain ⟨d, later, rfl⟩ := List.exists_cons_of_ne_nil h.1
  rw [List.cons_append] at htake ⊢
  rw [readDigits, if_pos (h.2 d List.mem_cons_self)]
  dsimp only
  rw [htake, ← List.cons_append, List.drop_left]

theorem readWhole_append (cut : ReadError) {digits rest : List Char}
    (h : Digits digits) (hleading : digits.head? = some '0' → digits.length = 1)
    (hrest : Stops rest) :
    readWhole cut (digits ++ rest) = .ok (digits, rest) := by
  have hnone : (digits.head? == some '0' && digits.length != 1) = false := by
    rw [Bool.and_eq_false_iff, ← Bool.not_eq_true, or_iff_not_imp_left, not_not]
    simpa using hleading
  rw [readWhole, readDigits_append cut h hrest, ok_bind]
  dsimp only
  rw [hnone]
  rfl

theorem readFraction_append (cut : ReadError) {fraction rest : List Char}
    (h : ∀ c ∈ fraction, c.isDigit = true)
    (hrest : ∀ c ∈ rest.head?, c.isDigit = false ∧ c ≠ '.') :
    readFraction cut (fractionText fraction ++ rest) =
      .ok (fraction, rest) := by
  cases fraction with
  | nil =>
      rw [fractionText, List.isEmpty_nil, if_pos rfl, List.nil_append]
      unfold readFraction
      split
      · exact absurd rfl (hrest _ rfl).2
      · rfl
  | cons d fraction =>
      exact readDigits_append cut ⟨List.cons_ne_nil d fraction, h⟩ fun c hc =>
        (hrest c hc).1

theorem readExponent_append (cut : ReadError) {e : Option WrittenExponent}
    {rest : List Char} (h : ∀ w ∈ e, Digits w.digits) (hrest : Follows rest) :
    readExponent cut (exponentText e ++ rest) = .ok (e, rest) := by
  cases e with
  | none =>
      rw [exponentText, List.nil_append]
      unfold readExponent
      split
      · next c rest =>
          have hmark : (c == 'e' || c == 'E') = false := by
            rcases hrest c rfl with rfl | rfl | rfl <;> decide
          rw [hmark]
          rfl
      · rfl
  | some e =>
      have hsign :
          takeSign ((if e.negative then '-' else '+') :: (e.digits ++ rest)) =
            (e.negative, e.digits ++ rest) := by
        cases e.negative <;> rfl
      have hmark : ('e' == 'e' || 'e' == 'E') = true := rfl
      rw [exponentText, List.cons_append, List.cons_append, readExponent,
        if_pos hmark, hsign]
      dsimp only
      rw [readDigits_append cut (h e rfl) (stops_of_follows hrest)]
      rfl

/-- **Numerals.** The parts of a numeral are read from its text. -/
theorem read_text (cut : ReadError) {x : Numeral} (h : x.Proper)
    {rest : List Char} (hrest : Follows rest) :
    read cut (x.text ++ rest) = .ok (x, rest) := by
  have hexponent := head?_exponentText x.exponent hrest
  have hparts : (readWhole cut (x.magnitudeText ++ rest) >>= fun w =>
      readFraction cut w.2 >>= fun f => readExponent cut f.2 >>= fun e =>
        .ok ((⟨x.negative, w.1, f.1, e.1⟩ : Numeral), e.2)) =
          .ok (x, rest) := by
    rw [magnitudeText, List.append_assoc, List.append_assoc,
      readWhole_append cut h.whole h.leading (stops_fractionText _
        fun c hc => (hexponent c hc).1),
      ok_bind, readFraction_append cut h.fraction hexponent, ok_bind,
      readExponent_append cut h.exponent hrest, ok_bind]
  rw [text]
  cases hsign : x.negative with
  | true =>
      rw [hsign] at hparts
      exact hparts
  | false =>
      have hminus : ∀ tail, x.magnitudeText ++ rest ≠ '-' :: tail := by
        intro tail htail
        obtain ⟨d, later, hcons⟩ := List.exists_cons_of_ne_nil h.whole.1
        rw [magnitudeText, hcons, List.cons_append, List.cons_append] at htail
        obtain rfl := (List.cons.inj htail).1
        exact absurd (h.whole.2 '-' (hcons ▸ List.mem_cons_self)) (by decide)
      rw [hsign] at hparts
      rw [if_neg Bool.false_ne_true, List.nil_append,
        read.eq_2 _ _ hminus, ← hparts]
      rfl

/-! ## Integers -/

/-- What is read for an integer. -/
def ofInt (n : Int) : Numeral :=
  ⟨decide (n < 0), Nat.toDigits 10 n.natAbs, [], none⟩

theorem proper_ofInt (n : Int) : (ofInt n).Proper where
  whole := digits_toDigits n.natAbs
  leading := length_toDigits_of_head?
  fraction := List.forall_mem_nil _
  exponent _ he := absurd he (Option.not_mem_none _)

theorem text_ofInt (n : Int) :
    (ofInt n).text = (Number.int n).render.toList := by
  rw [text, Number.render, String.toList_ofList, ofInt]
  simp [magnitudeText, fractionText, exponentText]

theorem value?_ofInt {n : Int} (hlow : -(Int.pow 2 63) ≤ n)
    (hhigh : n < Int.pow 2 64) :
    (ofInt n).value? = some (.int n) := by
  have hlow' : -9223372036854775808 ≤ n := hlow
  have hhigh' : n < 18446744073709551616 := hhigh
  have hfits : n.natAbs < Nat.pow 2 64 := by
    show n.natAbs < 18446744073709551616
    omega
  have hvalue : (ofInt n).value? = signed? (decide (n < 0)) n.natAbs := by
    rw [value?, ofInt, appendDigits_toDigits hfits]
    rfl
  rw [hvalue, signed?]
  by_cases hneg : n < 0
  · have hrange : ¬ (n.natAbs = 0 ∨ Nat.pow 2 63 < n.natAbs) := by
      show ¬ (n.natAbs = 0 ∨ 9223372036854775808 < n.natAbs)
      omega
    have hsign : -(n.natAbs : Int) = n := by omega
    simp only [hneg, decide_true, Bool.not_true, Bool.false_eq_true, if_false,
      hrange, hsign]
  · have hsign : (n.natAbs : Int) = n := by omega
    simp only [hneg, decide_false, Bool.not_false, if_true, hsign]

end Numeral

namespace Binary64

open Numeral

/-! ## Doubles -/

theorem ratio_pos {x : Binary64} (h : 0 < x.mantissa) : 0 < x.ratio.1 := by
  unfold ratio
  split
  · exact h
  · exact Nat.mul_pos h (Nat.pow_pos (by decide))

theorem Decimal.ratio_of_zero {d : Decimal} (h : d.digits = 0) :
    d.ratio.1 = 0 ∧ 0 < d.ratio.2 := by
  unfold Decimal.ratio
  split
  · exact ⟨h, Nat.pow_pos (by decide)⟩
  · exact ⟨by rw [h, Nat.zero_mul], Nat.one_pos⟩

/-- No other number rounds from zero. -/
theorem digits_ne_zero_of_roundsFrom {x : Binary64} {d : Decimal}
    (hx : x.mantissa ≠ 0) (h : x.roundsFrom d = true) : d.digits ≠ 0 := by
  intro hzero
  obtain ⟨hratio, hden⟩ := Decimal.ratio_of_zero hzero
  have hlow : 0 < x.neighbourhood.1.1 := by
    rw [neighbourhood]
    refine ratio_pos ?_
    dsimp only
    split <;> omega
  have hpos : 0 < x.neighbourhood.1.1 * d.ratio.2 := Nat.mul_pos hlow hden
  rw [roundsFrom] at h
  split at h
  · simp only [ratioLe, Bool.and_eq_true, decide_eq_true_eq, hratio,
      Nat.zero_mul] at h
    omega
  · simp only [ratioLt, Bool.and_eq_true, decide_eq_true_eq, hratio,
      Nat.zero_mul] at h
    omega

theorem digits_ne_zero_of_withDigits {x : Binary64} {n : Nat} {d : Decimal}
    (hx : x.mantissa ≠ 0) (h : x.withDigits n = some d) : d.digits ≠ 0 := by
  obtain ⟨nearer, low, high, hcandidates⟩ :
      ∃ (nearer : Bool) (low high : Decimal),
        x.withDigits n = if nearer && x.roundsFrom low then some low
          else if x.roundsFrom high then some high
          else if x.roundsFrom low then some low else none := ⟨_, _, _, rfl⟩
  rw [hcandidates] at h
  refine digits_ne_zero_of_roundsFrom hx ?_
  split at h
  · next hlow => exact Option.some.inj h ▸ (Bool.and_eq_true_iff.mp hlow).2
  · split at h
    · next hhigh => exact Option.some.inj h ▸ hhigh
    · split at h
      · next hlow => exact Option.some.inj h ▸ hlow
      · cases h

theorem Decimal.digits_dropZeros_ne_zero :
    ∀ {fuel : Nat} {d : Decimal}, d.digits ≠ 0 →
    (d.dropZeros fuel).digits ≠ 0
  | 0, _, h => h
  | fuel + 1, d, h => by
      unfold dropZeros
      split
      · exact digits_dropZeros_ne_zero (by dsimp only; omega)
      · exact h

/-- Zero is written without an exponent. -/
theorem exponent_shortestDigits {x : Binary64}
    (h : x.shortestDigits.digits = 0) :
    x.shortestDigits.exponent = 0 := by
  rw [shortestDigits] at h ⊢
  split
  · rfl
  · next hx =>
      rw [if_neg hx] at h
      refine absurd h (Decimal.digits_dropZeros_ne_zero ?_)
      cases hfound :
        (List.range 17).findSome? fun n => x.withDigits (n + 1) with
      | none => exact hx
      | some d =>
          obtain ⟨n, -, hn⟩ := List.exists_of_findSome?_eq_some hfound
          exact digits_ne_zero_of_withDigits hx hn

theorem isDigit_zeros (n : Nat) :
    ∀ c ∈ List.replicate n '0', c.isDigit = true := by
  intro c hc
  rw [List.eq_of_mem_replicate hc]
  rfl

/-- A point behind the first digits makes a proper numeral, unless zeros come
first. -/
theorem exists_withPoint {digits : List Char} {n : Nat}
    (h : Digits digits) (hn : 0 < n)
    (hleading : digits.head? = some '0' → n = 1) :
    ∃ y : Numeral, y.Proper ∧ y.magnitudeText = withPoint digits n := by
  obtain ⟨d, later, rfl⟩ := List.exists_cons_of_ne_nil h.1
  obtain ⟨n, rfl⟩ := Nat.exists_eq_add_one_of_ne_zero (Nat.ne_of_gt hn)
  obtain ⟨f, fraction, hfraction, hdigits⟩ : ∃ f fraction,
      (if (later.drop n).isEmpty then ['0'] else later.drop n) = f :: fraction ∧
        ∀ c ∈ f :: fraction, c.isDigit = true := by
    cases hdrop : later.drop n with
    | nil => exact ⟨'0', [], rfl, List.forall_mem_singleton.mpr rfl⟩
    | cons f fraction =>
        refine ⟨f, fraction, rfl, fun c hc => h.2 c (List.mem_cons_of_mem d ?_)⟩
        exact List.mem_of_mem_drop (hdrop ▸ hc)
  refine ⟨⟨false,
    d :: (later.take n ++ List.replicate (n + 1 - (d :: later).length) '0'),
    f :: fraction, none⟩, ⟨⟨List.cons_ne_nil _ _, ?_⟩, ?_, hdigits, ?_⟩, ?_⟩
  · rw [← List.cons_append]
    refine List.forall_mem_append.mpr ⟨fun c hc => h.2 c ?_, isDigit_zeros _⟩
    exact List.cons_subset_cons d (List.take_subset n later) hc
  · intro hzero
    obtain rfl := Nat.succ.inj (hleading hzero)
    simp
  · exact fun _ he => absurd he (Option.not_mem_none _)
  · rw [withPoint, List.take_succ_cons, List.drop_succ_cons, hfraction,
      magnitudeText, Numeral.exponentText, List.append_nil]
    rfl

theorem exists_exponentText (e : Int) :
    ∃ w : WrittenExponent, Digits w.digits ∧
      Numeral.exponentText (some w) = 'e' :: exponentText e := by
  have hdigits := digits_toDigits e.natAbs
  refine ⟨⟨decide (e < 0), if (Nat.toDigits 10 e.natAbs).length < 2
    then '0' :: Nat.toDigits 10 e.natAbs else Nat.toDigits 10 e.natAbs⟩, ?_, ?_⟩
  · dsimp only
    split
    · exact ⟨List.cons_ne_nil _ _, List.forall_mem_cons.mpr ⟨rfl, hdigits.2⟩⟩
    · exact hdigits
  · simp only [Numeral.exponentText, exponentText, decide_eq_true_eq]

/-- The digits of a number make a proper numeral, at whatever exponent they
stand. -/
theorem exists_layout {digits : List Char} {e : Int} (h : Digits digits)
    (hleading : digits.head? = some '0' → e = 0) :
    ∃ y : Numeral, y.Proper ∧ y.magnitudeText = layout digits e := by
  unfold layout
  split
  · refine exists_withPoint ⟨List.cons_ne_nil _ _, ?_⟩ (by decide) fun _ => rfl
    refine List.forall_mem_append.mpr ⟨?_, h.2⟩
    exact List.forall_mem_cons.mpr ⟨rfl, isDigit_zeros _⟩
  · split
    · refine exists_withPoint h (Nat.succ_pos _) fun hzero => ?_
      rw [hleading hzero]
      rfl
    · obtain ⟨w, hw, hexponent⟩ := exists_exponentText e
      obtain ⟨first, later, rfl⟩ := List.exists_cons_of_ne_nil h.1
      have hwhole : Digits [first] := ⟨List.cons_ne_nil _ _, fun c hc =>
        h.2 c (List.mem_singleton.mp hc ▸ List.mem_cons_self)⟩
      have hfraction : ∀ c ∈ later, c.isDigit = true :=
        fun c hc => h.2 c (List.mem_cons_of_mem first hc)
      refine ⟨⟨false, [first], later, some w⟩,
        ⟨hwhole, fun _ => rfl, hfraction, ?_⟩, ?_⟩
      · intro e he
        exact Option.some.inj he ▸ hw
      · rw [magnitudeText, hexponent]
        cases later <;> rfl

theorem exists_render (x : Binary64) :
    ∃ y : Numeral, y.Proper ∧ y.text = x.render.toList := by
  have hzero (h : (Nat.toDigits 10 x.shortestDigits.digits).head? = some '0') :
      x.shortestDigits.exponent +
        ((Nat.toDigits 10 x.shortestDigits.digits).length - 1 : Int) =
          0 := by
    have hnone : x.shortestDigits.digits = 0 :=
      Nat.eq_zero_of_not_pos fun hpos => head?_toDigits hpos h
    rw [exponent_shortestDigits hnone, hnone]
    rfl
  obtain ⟨y, hy, hlayout⟩ :=
    exists_layout (digits_toDigits x.shortestDigits.digits) hzero
  refine ⟨⟨x.negative, y.whole, y.fraction, y.exponent⟩,
    ⟨hy.whole, hy.leading, hy.fraction, hy.exponent⟩, ?_⟩
  rw [render, String.toList_ofList, ← hlayout]
  rfl

end Binary64

/-- What is printed for a number is the text of a proper numeral. -/
theorem Number.exists_render (number : Number) :
    ∃ x : Numeral, x.Proper ∧ x.text = number.render.toList := by
  cases number with
  | int n =>
      exact ⟨Numeral.ofInt n, Numeral.proper_ofInt n, Numeral.text_ofInt n⟩
  | real x => exact x.exists_render

namespace Json

/-- A character that numbers begin with. -/
def OpensNumber (c : Char) : Prop := (c == '-' || c.isDigit) = true

/-- It begins nothing else. -/
theorem OpensNumber.ne {c d : Char} (h : OpensNumber c)
    (hd : (d == '-' || d.isDigit) = false) :
    c ≠ d := by
  rintro rfl
  exact Bool.false_ne_true (hd.symm.trans h)

theorem OpensNumber.isOpening {c : Char} (h : OpensNumber c) : IsOpening c := by
  refine ⟨?_, h.ne rfl⟩
  simp only [Bool.or_eq_false_iff, beq_eq_false_iff_ne]
  exact ⟨⟨⟨h.ne rfl, h.ne rfl⟩, h.ne rfl⟩, h.ne rfl⟩

theorem readScalar_of_opensNumber {c : Char} (h : OpensNumber c) (strict : Bool)
    (rest : List Char) :
    readScalar strict (c :: rest) = readNumber strict (c :: rest) := by
  unfold readScalar
  split
  · next hnil => cases hnil
  · next heq => exact absurd (List.cons.inj heq).1 (h.ne rfl)
  · next heq => exact absurd (List.cons.inj heq).1 (h.ne rfl)
  · next heq => exact absurd (List.cons.inj heq).1 (h.ne rfl)
  · next heq => exact absurd (List.cons.inj heq).1 (h.ne rfl)
  · next heq =>
      obtain ⟨rfl, rfl⟩ := List.cons.inj heq
      exact if_pos h

theorem opensNumber_text {x : Numeral} (h : x.Proper) :
    ∃ c rest, x.text = c :: rest ∧ OpensNumber c := by
  rw [Numeral.text]
  split
  · exact ⟨'-', _, rfl, rfl⟩
  · obtain ⟨d, later, hcons⟩ := List.exists_cons_of_ne_nil h.whole.1
    have hd : d.isDigit = true := h.whole.2 d (hcons ▸ List.mem_cons_self)
    rw [Numeral.magnitudeText, hcons]
    exact ⟨d, _, rfl, by rw [OpensNumber, hd, Bool.or_true]⟩

end Json

namespace Shape

variable {shape : Shape} {value : Json}

theorem reads_number {number : Number} {x : Numeral} (h : x.Proper)
    (htext : x.text = number.render.toList)
    (hread : ∀ rest, Follows rest →
      readNumber shape.isStrict (x.text ++ rest) = .ok (value, rest))
    (haccepts : shape.acceptsScalar value = .ok ()) :
    shape.Reads (.num number) value := by
  obtain ⟨c, digits, hcons, hc⟩ := opensNumber_text h
  have hprint : (Json.num number).print = x.text := htext.symm
  rw [hcons] at hprint hread
  refine reads_scalar ⟨c, digits, hprint, hc.isOpening, hc.ne rfl, hc.ne rfl⟩
    (fun rest hrest => ?_) haccepts
  rw [hprint, List.cons_append, readScalar_of_opensNumber hc,
    ← List.cons_append, hread rest hrest]

/-- **Integers.** Where a shape accepts an integer, it is read as it was
printed. -/
theorem reads_int {accepts : Json → Except ShapeError Unit} {n : Int}
    (hlow : -(Int.pow 2 63) ≤ n) (hhigh : n < Int.pow 2 64)
    (haccepts : accepts (.num (.int n)) = .ok ()) :
    (scalar accepts).Reads (.num (.int n)) (.num (.int n)) := by
  refine reads_number (Numeral.proper_ofInt n) (Numeral.text_ofInt n)
    (fun rest hrest => ?_) haccepts
  have hstrict : (scalar accepts).isStrict = true := rfl
  rw [readNumber, hstrict, if_pos rfl,
    Numeral.read_text _ (Numeral.proper_ofInt n) hrest, ok_bind]
  dsimp only
  rw [Numeral.value?_ofInt hlow hhigh]
  rfl

end Shape

end ClusterGate
