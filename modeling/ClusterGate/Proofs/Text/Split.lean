import ClusterGate.Text.Split
import Mathlib.Data.List.Infix

/-!
# Pieces

The pieces of a text are free of the separator, and joined with it they are
the text again. There is only one such list of pieces (`splitAt_eq_iff`).

A piece is empty just where a separator has nothing before or behind it, or
another separator (`nil_mem_splitAt_iff`).
-/

namespace ClusterGate.Text

variable {α : Type} {sep c : α} {l rest : List α} {pieces : List (List α)}

theorem joinWith_eq_intercalate (sep : α) : ∀ pieces : List (List α),
    joinWith sep pieces = [sep].intercalate pieces
  | [] => rfl
  | [piece] => by rw [joinWith, List.intercalate_singleton]
  | piece :: next :: pieces => by
      rw [joinWith_cons (List.cons_ne_nil next pieces),
        List.intercalate_cons_cons,
        joinWith_eq_intercalate sep (next :: pieces), List.append_assoc,
        List.singleton_append]

/-- The pieces that separators cut a list into. -/
structure Cuts (sep : α) (l : List α) (pieces : List (List α)) : Prop where
  nonempty : pieces ≠ []
  free : ∀ piece ∈ pieces, sep ∉ piece
  joined : [sep].intercalate pieces = l

theorem twice_prefix_cons_iff :
    [sep, sep] <+: c :: rest ↔ sep = c ∧ rest.head? = some sep := by
  rw [List.cons_prefix_cons]
  cases rest <;> simp [eq_comm]

section

variable [DecidableEq α]

/-- **Pieces.** Splitting gives the pieces. -/
theorem splitAt_eq_iff : splitAt sep l = pieces ↔ Cuts sep l pieces := by
  constructor
  · rintro rfl
    refine ⟨splitWhen_ne_nil _ _, fun piece hpiece hsep => ?_, ?_⟩
    · simpa using not_sep_of_mem_splitWhen hpiece hsep
    · rw [← joinWith_eq_intercalate, joinWith_splitAt]
  · rintro ⟨hne, hfree, rfl⟩
    rw [← joinWith_eq_intercalate]
    exact splitAt_joinWith sep hne hfree

theorem splitAt_sep (sep : α) (rest : List α) :
    splitAt sep (sep :: rest) = [] :: splitAt sep rest := by
  rw [splitAt, splitWhen, if_pos (decide_eq_true rfl)]
  rfl

theorem splitAt_cons (h : c ≠ sep) (rest : List α) :
    ∃ piece pieces, splitAt sep rest = piece :: pieces ∧
      splitAt sep (c :: rest) = (c :: piece) :: pieces := by
  obtain ⟨piece, pieces, hrest⟩ :=
    List.exists_cons_of_ne_nil (splitWhen_ne_nil (· = sep) rest)
  refine ⟨piece, pieces, hrest, ?_⟩
  rw [splitAt, splitWhen, if_neg (by simpa using h), hrest]

/-! ## Empty pieces -/

/-- The first piece is empty if nothing stands before the first separator. -/
theorem head?_splitAt_eq_nil_iff :
    (splitAt sep l).head? = some [] ↔ l = [] ∨ l.head? = some sep := by
  cases l with
  | nil => exact iff_of_true rfl (.inl rfl)
  | cons c rest =>
      by_cases hc : c = sep
      · subst hc
        rw [splitAt_sep]
        exact iff_of_true rfl (.inr rfl)
      · obtain ⟨piece, pieces, -, hsplit⟩ := splitAt_cons hc rest
        rw [hsplit]
        simp [hc]

/-- A later piece is empty if nothing stands between two separators, or behind
the last one. -/
theorem nil_mem_tail_splitAt_iff :
    [] ∈ (splitAt sep l).tail ↔ l.getLast? = some sep ∨ [sep, sep] <:+: l := by
  induction l with
  | nil => exact iff_of_false nofun (by simp)
  | cons c rest ih =>
      by_cases hc : c = sep
      · -- All pieces of the rest are later ones here, its first one included.
        subst hc
        have hsplit : [] ∈ splitAt c rest ↔
            (splitAt c rest).head? = some [] ∨ [] ∈ (splitAt c rest).tail := by
          cases splitAt c rest <;> simp [eq_comm]
        have hlast : (c :: rest).getLast? = some c ↔
            rest = [] ∨ rest.getLast? = some c := by
          cases rest <;> simp [List.getLast?_cons]
        rw [splitAt_sep, List.tail_cons, hsplit, ih,
          head?_splitAt_eq_nil_iff, hlast, List.infix_cons_iff,
          twice_prefix_cons_iff, and_iff_right rfl]
        tauto
      · obtain ⟨piece, pieces, hrest, hsplit⟩ := splitAt_cons hc rest
        have hlast : (c :: rest).getLast? = some sep ↔
            rest.getLast? = some sep := by
          cases rest <;> simp [hc]
        have hprefix : ¬ [sep, sep] <+: c :: rest :=
          fun h => hc (twice_prefix_cons_iff.mp h).1.symm
        rw [hrest] at ih
        rw [hsplit, List.tail_cons, hlast, List.infix_cons_iff,
          or_iff_right hprefix, ← ih, List.tail_cons]

/-- **Empty pieces.** Some piece is empty exactly if a separator stands at an
end or next to another one, or there is nothing at all. -/
theorem nil_mem_splitAt_iff : [] ∈ splitAt sep l ↔
    l = [] ∨ l.head? = some sep ∨ l.getLast? = some sep ∨
      [sep, sep] <:+: l := by
  rw [← or_assoc, ← nil_mem_tail_splitAt_iff, ← head?_splitAt_eq_nil_iff]
  cases splitAt sep l <;> simp [eq_comm]

end

end ClusterGate.Text
