import ClusterGate.Text.Affix
import Mathlib.Data.List.TakeWhile

/-!
# Trimmed texts

A trimmed text neither begins nor ends with what was trimmed, and a text
that does not is left alone. Around it there is nothing but what was
trimmed. These facts determine it (`trim_eq_iff`).

What is left of a text without a beginning or an end is said in the same way
(`stripPrefix_eq_iff`, `stripSuffix_eq_iff`).
-/

namespace ClusterGate.Text

variable {α : Type} {p : α → Bool} {l : List α} {c : α}

theorem dropWhileEnd_prefix : dropWhileEnd p l <+: l := by
  obtain ⟨t, ht⟩ := List.dropWhile_suffix (l := l.reverse) p
  exact ⟨t.reverse,
    by rw [dropWhileEnd, ← List.reverse_append, ht, List.reverse_reverse]⟩

theorem not_of_head?_dropWhile (h : (l.dropWhile p).head? = some c) :
    p c = false := by
  have := List.head?_dropWhile_not p l
  rw [h] at this
  exact this

theorem not_of_getLast?_dropWhileEnd
    (h : (dropWhileEnd p l).getLast? = some c) :
    p c = false := by
  rw [dropWhileEnd, List.getLast?_reverse] at h
  exact not_of_head?_dropWhile h

theorem not_of_head?_trim (h : (trim p l).head? = some c) : p c = false := by
  obtain ⟨t, ht⟩ : trim p l <+: l.dropWhile p := dropWhileEnd_prefix
  refine not_of_head?_dropWhile (l := l) ?_
  rw [← ht, List.head?_append, h, Option.some_or]

theorem not_of_getLast?_trim (h : (trim p l).getLast? = some c) : p c = false :=
  not_of_getLast?_dropWhileEnd h

theorem dropWhile_eq_self (h : ∀ c, l.head? = some c → p c = false) :
    l.dropWhile p = l := by
  cases l with
  | nil => rfl
  | cons c rest => rw [List.dropWhile_cons, h c rfl, if_neg Bool.false_ne_true]

theorem dropWhileEnd_eq_self (h : ∀ c, l.getLast? = some c → p c = false) :
    dropWhileEnd p l = l := by
  have hend : ∀ c, l.reverse.head? = some c → p c = false := fun c hc => by
    rw [List.head?_reverse] at hc
    exact h c hc
  rw [dropWhileEnd, dropWhile_eq_self hend, List.reverse_reverse]

theorem trim_eq_self (hfirst : ∀ c, l.head? = some c → p c = false)
    (hlast : ∀ c, l.getLast? = some c → p c = false) : trim p l = l := by
  rw [trim, dropWhile_eq_self hfirst, dropWhileEnd_eq_self hlast]

/-- Only what is trimmed stands around a trimmed text. -/
theorem exists_append_trim (p : α → Bool) (l : List α) :
    ∃ before after, l = before ++ (trim p l ++ after) ∧
      (∀ c ∈ before, p c = true) ∧
      ∀ c ∈ after, p c = true := by
  have hend : ∀ m : List α, m = dropWhileEnd p m ++
      (m.reverse.takeWhile p).reverse := by
    intro m
    rw [dropWhileEnd, ← List.reverse_append, List.takeWhile_append_dropWhile,
      List.reverse_reverse]
  refine ⟨l.takeWhile p, ((l.dropWhile p).reverse.takeWhile p).reverse,
    ?_, ?_, ?_⟩
  · rw [trim, ← hend, List.takeWhile_append_dropWhile]
  · intro c hc
    exact List.mem_takeWhile_imp hc
  · intro c hc
    exact List.mem_takeWhile_imp (List.mem_reverse.mp hc)

theorem trim_eq_nil_iff : trim p l = [] ↔ ∀ c ∈ l, p c = true := by
  constructor
  · intro h
    obtain ⟨before, after, hl, hbefore, hafter⟩ := exists_append_trim p l
    rw [h, List.nil_append] at hl
    intro c hc
    rw [hl] at hc
    rcases List.mem_append.mp hc with hc | hc
    · exact hbefore c hc
    · exact hafter c hc
  · intro h
    have hnil : l.dropWhile p = [] := List.dropWhile_eq_nil_iff.mpr h
    rw [trim, hnil]
    rfl

/-- What trimming leaves stands at the very beginning exactly if nothing was
trimmed in front. -/
theorem trim_ne_nil_and_prefix_iff :
    trim p l ≠ [] ∧ trim p l <+: l ↔ ∃ c rest, l = c :: rest ∧ p c = false := by
  constructor
  · rintro ⟨hne, t, ht⟩
    cases htrim : trim p l with
    | nil => exact absurd htrim hne
    | cons d rest =>
        have hd : p d = false := not_of_head?_trim (l := l) (by rw [htrim]; rfl)
        rw [htrim, List.cons_append] at ht
        exact ⟨d, rest ++ t, ht.symm, hd⟩
  · rintro ⟨c, rest, rfl, hc⟩
    constructor
    · intro hnil
      have htrue : p c = true := trim_eq_nil_iff.mp hnil c List.mem_cons_self
      rw [hc] at htrue
      cases htrue
    · have hfirst : (c :: rest).dropWhile p = c :: rest := by
        rw [List.dropWhile_cons, hc, if_neg Bool.false_ne_true]
      rw [trim, hfirst]
      exact dropWhileEnd_prefix

/-- A list is `core` with nothing but what is trimmed around it, and `core`
neither begins nor ends with that. -/
structure TrimsTo (p : α → Bool) (l core : List α) : Prop where
  around : ∃ before after, l = before ++ (core ++ after) ∧
    (∀ c ∈ before, p c = true) ∧
    ∀ c ∈ after, p c = true
  first : ∀ c, core.head? = some c → p c = false
  last : ∀ c, core.getLast? = some c → p c = false

theorem dropWhileEnd_append {after : List α} (h : ∀ c ∈ after, p c = true) :
    dropWhileEnd p (l ++ after) = dropWhileEnd p l := by
  have hafter : ∀ c ∈ after.reverse, p c = true :=
    fun c hc => h c (List.mem_reverse.mp hc)
  rw [dropWhileEnd, List.reverse_append, List.dropWhile_append_of_pos hafter,
    dropWhileEnd]

/-- **What trimming leaves.** -/
theorem trim_eq_iff {core : List α} : trim p l = core ↔ TrimsTo p l core := by
  constructor
  · rintro rfl
    exact ⟨exists_append_trim p l, fun _ => not_of_head?_trim,
      fun _ => not_of_getLast?_trim⟩
  · rintro ⟨⟨before, after, rfl, hbefore, hafter⟩, hfirst, hlast⟩
    cases core with
    | nil =>
        refine trim_eq_nil_iff.mpr fun c hc => ?_
        rw [List.nil_append] at hc
        exact (List.mem_append.mp hc).elim (hbefore c) (hafter c)
    | cons d core =>
        have hstart : (d :: core ++ after).dropWhile p = d :: core ++ after :=
          dropWhile_eq_self fun c hc => hfirst c hc
        rw [trim, List.dropWhile_append_of_pos hbefore, hstart,
          dropWhileEnd_append hafter, dropWhileEnd_eq_self hlast]

/-- More of what is trimmed makes no difference around a list. -/
theorem trim_around {before after : List α} (hbefore : ∀ c ∈ before, p c = true)
    (hafter : ∀ c ∈ after, p c = true) :
    trim p (before ++ (l ++ after)) = trim p l := by
  obtain ⟨start, rest, hl, hstart, hrest⟩ := exists_append_trim p l
  refine trim_eq_iff.mpr ⟨⟨before ++ start, rest ++ after, ?_, ?_, ?_⟩, ?_, ?_⟩
  · calc before ++ (l ++ after) = before ++
      (start ++ (trim p l ++ rest) ++ after) := by rw [← hl]
      _ = before ++ start ++ (trim p l ++ (rest ++ after)) := by
        simp only [List.append_assoc]
  · exact List.forall_mem_append.mpr ⟨hbefore, hstart⟩
  · exact List.forall_mem_append.mpr ⟨hrest, hafter⟩
  · exact fun _ => not_of_head?_trim
  · exact fun _ => not_of_getLast?_trim

/-! ## Stripped affixes -/

section

variable [BEq α] {affix : List α}

theorem stripPrefix_append [LawfulBEq α] :
    stripPrefix affix (affix ++ l) = l := by
  rw [stripPrefix, List.isPrefixOf_iff_prefix.mpr (List.prefix_append affix l),
    if_pos rfl, List.drop_left]

theorem stripPrefix_eq_self [LawfulBEq α] (h : ¬ affix <+: l) :
    stripPrefix affix l = l :=
  if_neg (mt List.isPrefixOf_iff_prefix.mp h)

theorem stripSuffix_nil : stripSuffix [] l = l := by
  rw [stripSuffix, List.length_nil, Nat.sub_zero, List.take_length, ite_self]

theorem stripSuffix_append [LawfulBEq α] :
    stripSuffix affix (l ++ affix) = l := by
  rw [stripSuffix, List.isSuffixOf_iff_suffix.mpr (List.suffix_append l affix),
    if_pos rfl, List.length_append, Nat.add_sub_cancel, List.take_left]

theorem stripSuffix_eq_self [LawfulBEq α] (h : ¬ affix <:+ l) :
    stripSuffix affix l = l :=
  if_neg (mt List.isSuffixOf_iff_suffix.mp h)

end

/-- What is left of a list without a beginning; a list that begins otherwise is
left whole. -/
def WithoutPrefix (affix l rest : List α) : Prop :=
  l = affix ++ rest ∨ ¬ affix <+: l ∧ rest = l

/-- What is left of a list without an end; a list that ends otherwise is left
whole. -/
def WithoutSuffix (affix l rest : List α) : Prop :=
  l = rest ++ affix ∨ ¬ affix <:+ l ∧ rest = l

section

variable [BEq α] [LawfulBEq α] {affix rest : List α}

theorem stripPrefix_eq_iff :
    stripPrefix affix l = rest ↔ WithoutPrefix affix l rest := by
  by_cases h : affix <+: l
  · obtain ⟨tail, rfl⟩ := h
    rw [stripPrefix_append, WithoutPrefix, List.append_cancel_left_eq,
      or_iff_left fun hno => hno.1 (List.prefix_append affix tail)]
  · rw [stripPrefix_eq_self h, WithoutPrefix, and_iff_right h,
      or_iff_right, eq_comm]
    rintro rfl
    exact h (List.prefix_append affix rest)

theorem stripSuffix_eq_iff :
    stripSuffix affix l = rest ↔ WithoutSuffix affix l rest := by
  by_cases h : affix <:+ l
  · obtain ⟨start, rfl⟩ := h
    rw [stripSuffix_append, WithoutSuffix, List.append_cancel_right_eq,
      or_iff_left fun hno => hno.1 (List.suffix_append start affix)]
  · rw [stripSuffix_eq_self h, WithoutSuffix, and_iff_right h,
      or_iff_right, eq_comm]
    rintro rfl
    exact h (List.suffix_append rest affix)

end

end ClusterGate.Text
