/-!
# Splitting and joining

Cutting a list at every separator and putting the pieces back together.
Splitting never yields an empty list of pieces: a text without separator
is one piece, and each separator starts a new one, which may be empty.

`joinWith_splitAt` and `splitAt_joinWith` say that the two undo each
other, the second for pieces that are free of the separator.
-/

namespace ClusterGate.Text

variable {α : Type}

/-- The pieces of a list between the elements that are separators. -/
def splitWhen (sep : α → Bool) : List α → List (List α)
  | [] => [[]]
  | c :: rest =>
    if sep c then [] :: splitWhen sep rest
    else
      match splitWhen sep rest with
      | [] => [[c]]
      | piece :: pieces => (c :: piece) :: pieces

/-- The pieces of a list between occurrences of one element. -/
def splitAt [DecidableEq α] (sep : α) (l : List α) : List (List α) :=
  splitWhen (· = sep) l

/-- The pieces one after the other with `sep` between neighbours. -/
def joinWith (sep : α) : List (List α) → List α
  | [] => []
  | [piece] => piece
  | piece :: pieces => piece ++ sep :: joinWith sep pieces

theorem splitWhen_ne_nil (sep : α → Bool) (l : List α) :
    splitWhen sep l ≠ [] := by
  cases l with
  | nil => simp [splitWhen]
  | cons c rest =>
    simp only [splitWhen]
    split
    · simp
    · split <;> simp

theorem joinWith_cons {sep : α} {piece : List α} {pieces : List (List α)}
    (h : pieces ≠ []) :
    joinWith sep (piece :: pieces) = piece ++ sep :: joinWith sep pieces := by
  cases pieces with
  | nil => exact absurd rfl h
  | cons _ _ => rfl

/-- Joining the pieces restores the list. -/
theorem joinWith_splitAt [DecidableEq α] (sep : α) (l : List α) :
    joinWith sep (splitAt sep l) = l := by
  unfold splitAt
  induction l with
  | nil => rfl
  | cons c rest ih =>
    simp only [splitWhen]
    split
    · next h =>
      rw [joinWith_cons (splitWhen_ne_nil _ _), ih]
      simpa using (of_decide_eq_true h).symm
    · cases hs : splitWhen (· = sep) rest with
      | nil => exact absurd hs (splitWhen_ne_nil _ _)
      | cons piece pieces =>
        rw [hs] at ih
        cases pieces with
        | nil => simpa [joinWith] using ih
        | cons q qs => simpa [joinWith] using ih

/-- No piece contains a separator. -/
theorem not_sep_of_mem_splitWhen {sep : α → Bool} {l : List α} {piece : List α}
    (h : piece ∈ splitWhen sep l) {c : α} (hc : c ∈ piece) : sep c = false := by
  induction l generalizing piece with
  | nil => simp [splitWhen] at h; simp [h] at hc
  | cons d rest ih =>
    simp only [splitWhen] at h
    split at h
    · rcases List.mem_cons.mp h with h | h
      · simp [h] at hc
      · exact ih h hc
    · next hd =>
      cases hs : splitWhen sep rest with
      | nil => exact absurd hs (splitWhen_ne_nil _ _)
      | cons q qs =>
        rw [hs] at h ih
        rcases List.mem_cons.mp h with h | h
        · subst h
          rcases List.mem_cons.mp hc with hc | hc
          · simpa [hc] using hd
          · exact ih List.mem_cons_self hc
        · exact ih (List.mem_cons_of_mem _ h) hc

theorem splitWhen_eq_singleton {sep : α → Bool} {l : List α}
    (h : ∀ c ∈ l, sep c = false) :
    splitWhen sep l = [l] := by
  induction l with
  | nil => rfl
  | cons c rest ih =>
    simp [splitWhen, h c List.mem_cons_self,
      ih fun d hd => h d (List.mem_cons_of_mem _ hd)]

theorem splitWhen_append_cons {sep : α → Bool} {l : List α}
    (h : ∀ c ∈ l, sep c = false) {d : α} (hd : sep d = true) (rest : List α) :
    splitWhen sep (l ++ d :: rest) = l :: splitWhen sep rest := by
  induction l with
  | nil => simp [splitWhen, hd]
  | cons c l ih =>
    simp [splitWhen, h c List.mem_cons_self,
      ih fun d hd => h d (List.mem_cons_of_mem _ hd)]

/-- Splitting restores pieces that are free of the separator. -/
theorem splitAt_joinWith [DecidableEq α] (sep : α) {pieces : List (List α)}
    (hne : pieces ≠ []) (h : ∀ piece ∈ pieces, sep ∉ piece) :
    splitAt sep (joinWith sep pieces) = pieces := by
  unfold splitAt
  induction pieces with
  | nil => exact absurd rfl hne
  | cons piece rest ih =>
    have hp : ∀ c ∈ piece, decide (c = sep) = false := fun c hc =>
      decide_eq_false fun hcs => h piece List.mem_cons_self (hcs ▸ hc)
    cases rest with
    | nil => exact splitWhen_eq_singleton hp
    | cons q qs =>
      rw [joinWith_cons (by simp), splitWhen_append_cons hp (by simp),
        ih (by simp) fun p hp => h p (List.mem_cons_of_mem _ hp)]

end ClusterGate.Text
