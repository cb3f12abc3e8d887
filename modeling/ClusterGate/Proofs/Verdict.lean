import Mathlib.Data.List.Induction
import Mathlib.Data.List.Nodup
import ClusterGate.Proofs.Outcome

/-!
# Checks and their first fault

A check has a verdict: it succeeds with a value if all is well, and it fails
with its fault otherwise (`Verdict`). Two checks in a row fail with a fault of
the second one only if there is none of the first (`Verdict.bind`).

A pass over a list checks its elements one after the other and stops at the
first one that is at fault. Which elements are at fault, given those
before them, is said by a relation, and what has been read of sound elements
by a function of their list. Where each step has its verdict (`Pass`), so
has the whole pass (`Pass.verdict`).

Checks of different kinds that are made in a row are listed by name, and what
is at fault is said for each name. A computation that makes them fails just
with the fault of the first one that has one (`Reports`).
-/

namespace ClusterGate

variable {ε α β σ : Type}

/-! ## Verdicts -/

/-- How a check ends: with a value if all is well, else with its fault. -/
structure Verdict (x : Except ε α) (good : Prop) (value : α)
    (fault : ε → Prop) : Prop where
  succeeds : good → x = .ok value
  fails : ∀ {e}, fault e → x = .error e
  settled : good ∨ ∃ e, fault e

namespace Verdict

variable {x : Except ε α} {good good' : Prop} {value a : α}
  {fault fault' : ε → Prop} {e : ε}

theorem eq_ok_iff (h : Verdict x good value fault) :
    x = .ok a ↔ good ∧ a = value := by
  rcases h.settled with hgood | ⟨e, hfault⟩
  · rw [h.succeeds hgood, and_iff_right hgood, Except.ok.injEq, eq_comm]
  · refine iff_of_false ?_ fun hgood => ?_
    · rw [h.fails hfault]
      exact nofun
    · cases (h.succeeds hgood.1).symm.trans (h.fails hfault)

theorem eq_error_iff (h : Verdict x good value fault) :
    x = .error e ↔ fault e := by
  refine ⟨fun he => ?_, h.fails⟩
  rcases h.settled with hgood | ⟨e', hfault⟩
  · cases he.symm.trans (h.succeeds hgood)
  · obtain rfl := Except.error.inj (he.symm.trans (h.fails hfault))
    exact hfault

theorem exists_eq_ok_iff (h : Verdict x good value fault) :
    (∃ a, x = .ok a) ↔ good :=
  ⟨fun ⟨_, ha⟩ => (h.eq_ok_iff.mp ha).1, fun hgood => ⟨value, h.succeeds hgood⟩⟩

theorem good_iff (h : Verdict x good value fault) : good ↔ ∀ e, ¬ fault e := by
  refine ⟨fun hgood e hfault => ?_, fun hnone => h.settled.resolve_right
    (not_exists.mpr hnone)⟩
  cases (h.succeeds hgood).symm.trans (h.fails hfault)

theorem congr (h : Verdict x good value fault) (hgood : good ↔ good')
    (hfault : ∀ e, fault e ↔ fault' e) : Verdict x good' value fault' where
  succeeds hg := h.succeeds (hgood.mpr hg)
  fails he := h.fails ((hfault _).mpr he)
  settled := h.settled.imp hgood.mp fun ⟨e, he⟩ => ⟨e, (hfault e).mp he⟩

/-- A check that follows on one that goes well. -/
theorem bind {f : α → Except ε β} {next : Prop} {result : β} {later : ε → Prop}
    (h : Verdict x good value fault)
    (hf : good → Verdict (f value) next result later) :
    Verdict (x >>= f) (good ∧ next) result
      fun e => fault e ∨ good ∧ later e where
  succeeds hgood := by
    rw [h.succeeds hgood.1, ok_bind, (hf hgood.1).succeeds hgood.2]
  fails hfault := by
    rcases hfault with hfault | ⟨hgood, hlater⟩
    · rw [h.fails hfault, error_bind]
    · rw [h.succeeds hgood, ok_bind, (hf hgood).fails hlater]
  settled := by
    rcases h.settled with hgood | ⟨e, hfault⟩
    · rcases (hf hgood).settled with hnext | ⟨e, hlater⟩
      · exact .inl ⟨hgood, hnext⟩
      · exact .inr ⟨e, .inr ⟨hgood, hlater⟩⟩
    · exact .inr ⟨e, .inl hfault⟩

/-- What is made of the value of a check that goes well. -/
theorem map {f : α → Except ε β} {result : β} (h : Verdict x good value fault)
    (hf : f value = .ok result) : Verdict (x >>= f) good result fault where
  succeeds hgood := by rw [h.succeeds hgood, ok_bind, hf]
  fails hfault := by rw [h.fails hfault, error_bind]
  settled := h.settled

end Verdict

/-! ## Passes -/

section

variable {fault : List α → α → ε → Prop} {l : List α} {a : α} {e : ε}

/-- No element is at fault, given those before it. -/
def Sound (fault : List α → α → ε → Prop) (l : List α) : Prop :=
  ∀ before a after, l = before ++ a :: after → ∀ e, ¬ fault before a e

/-- The fault of the first element that is at fault. -/
def FirstFault (fault : List α → α → ε → Prop) (l : List α) (e : ε) : Prop :=
  ∃ before a after,
    l = before ++ a :: after ∧ Sound fault before ∧ fault before a e

/-- An element of a list with one more at the end is that one or stands
before it. -/
theorem append_singleton_eq_iff {before after : List α} {b : α} :
    l ++ [a] = before ++ b :: after ↔
      (l = before ∧ a = b ∧ after = []) ∨ ∃ rest, l = before ++ b :: rest ∧
        after = rest ++ [a] := by
  constructor
  · intro h
    rcases List.eq_nil_or_concat after with rfl | ⟨rest, last, rfl⟩
    · obtain ⟨rfl, hsame⟩ := List.append_inj' h rfl
      exact .inl ⟨rfl, List.singleton_inj.mp hsame, rfl⟩
    · rw [List.concat_eq_append, ← List.cons_append, ← List.append_assoc] at h
      obtain ⟨rfl, hsame⟩ := List.append_inj' h rfl
      obtain rfl := List.singleton_inj.mp hsame
      exact .inr ⟨rest, rfl, List.concat_eq_append⟩
  · rintro (⟨rfl, rfl, rfl⟩ | ⟨rest, rfl, rfl⟩)
    · rfl
    · rw [List.append_assoc, List.cons_append]

theorem sound_nil : Sound fault [] := by
  intro before a after h
  simp at h

theorem not_firstFault_nil : ¬ FirstFault fault [] e := by
  rintro ⟨before, a, after, h, -⟩
  simp at h

theorem sound_snoc :
    Sound fault (l ++ [a]) ↔ Sound fault l ∧ ∀ e, ¬ fault l a e := by
  constructor
  · intro h
    refine ⟨fun before b rest hl => ?_, h l a [] rfl⟩
    exact h before b (rest ++ [a])
      (append_singleton_eq_iff.mpr (.inr ⟨rest, hl, rfl⟩))
  · rintro ⟨hl, ha⟩ before b after h
    rcases append_singleton_eq_iff.mp h with ⟨rfl, rfl, -⟩ | ⟨rest, hrest, -⟩
    · exact ha
    · exact hl before b rest hrest

theorem firstFault_snoc :
    FirstFault fault (l ++ [a]) e ↔
      FirstFault fault l e ∨ Sound fault l ∧ fault l a e := by
  constructor
  · rintro ⟨before, b, after, h, hsound, hfault⟩
    rcases append_singleton_eq_iff.mp h with ⟨rfl, rfl, -⟩ | ⟨rest, hrest, -⟩
    · exact .inr ⟨hsound, hfault⟩
    · exact .inl ⟨before, b, rest, hrest, hsound, hfault⟩
  · rintro (⟨before, b, rest, hrest, hfault⟩ | ⟨hsound, hfault⟩)
    · exact ⟨before, b, rest ++ [a],
        append_singleton_eq_iff.mpr (.inr ⟨rest, hrest, rfl⟩), hfault⟩
    · exact ⟨l, a, [], rfl, hsound, hfault⟩

/-- Keys are distinct if no element has a key that stands before it. -/
theorem nodup_map_snoc {f : α → β} :
    ((l ++ [a]).map f).Nodup ↔ (l.map f).Nodup ∧ f a ∉ l.map f := by
  rw [List.map_append, List.map_singleton, ← List.concat_eq_append,
    List.nodup_concat, and_comm]

/-- A pass whose steps have their verdicts: over clean elements one is good if
they stay clean with it, and then what is read is read of one more. -/
structure Pass (step : σ → α → Except ε σ) (state : List α → σ)
    (clean : List α → Prop) (good : List α → α → Prop)
    (fault : List α → α → ε → Prop) : Prop where
  clean_nil : clean []
  clean_snoc : ∀ {l a}, clean (l ++ [a]) ↔ clean l ∧ good l a
  verdict_step : ∀ {l a}, clean l →
    Verdict (step (state l) a) (good l a) (state (l ++ [a])) (fault l a)

namespace Pass

variable {step : σ → α → Except ε σ} {state : List α → σ}
  {clean : List α → Prop} {good : List α → α → Prop}

theorem sound_iff (h : Pass step state clean good fault) :
    Sound fault l ↔ clean l := by
  induction l using List.reverseRecOn with
  | nil => exact iff_of_true sound_nil h.clean_nil
  | append_singleton l a ih =>
      rw [sound_snoc, ih, h.clean_snoc]
      exact and_congr_right fun hclean => (h.verdict_step hclean).good_iff.symm

/-- **The verdict of a pass.** It reads clean elements, and it fails with the
first fault of others. -/
theorem verdict (h : Pass step state clean good fault) (l : List α) :
    Verdict (l.foldlM step (state [])) (clean l) (state l)
      (FirstFault fault l) := by
  -- From the end, since an element is judged by those before it.
  induction l using List.reverseRecOn with
  | nil =>
      exact ⟨fun _ => rfl, fun he => absurd he not_firstFault_nil,
        .inl h.clean_nil⟩
  | append_singleton l a ih =>
      have hlast : clean l →
          Verdict ([a].foldlM step (state l)) (good l a) (state (l ++ [a]))
          (fault l a) := by
        intro hclean
        rw [List.foldlM_cons]
        exact (h.verdict_step hclean).map rfl
      rw [List.foldlM_append]
      exact (ih.bind hlast).congr h.clean_snoc.symm fun e => by
        rw [firstFault_snoc, h.sound_iff]

end Pass

theorem sound_iff_not_firstFault :
    Sound fault l ↔ ∀ e, ¬ FirstFault fault l e := by
  induction l using List.reverseRecOn with
  | nil => exact iff_of_true sound_nil fun _ => not_firstFault_nil
  | append_singleton l a ih =>
      simp only [sound_snoc, firstFault_snoc, not_or, not_and]
      exact ⟨fun ⟨hsound, ha⟩ e => ⟨ih.mp hsound e, fun _ => ha e⟩,
        fun h => ⟨ih.mpr fun e => (h e).1,
          fun e => (h e).2 (ih.mpr fun e => (h e).1)⟩⟩

end

/-! ## Checks in a row -/

section

variable {fault : α → ε → Prop} {checks later : List α} {a : α} {e : ε}
  {x : Except ε β} {b : β}

theorem sound_const_iff :
    Sound (fun _ => fault) checks ↔ ∀ a ∈ checks, ∀ e, ¬ fault a e := by
  constructor
  · intro h a ha
    obtain ⟨before, after, hsplit⟩ := List.append_of_mem ha
    exact h before a after hsplit
  · rintro h before a after rfl
    exact h a (List.mem_append_right before List.mem_cons_self)

theorem sound_append : Sound (fun _ => fault) (checks ++ later) ↔
    Sound (fun _ => fault) checks ∧ Sound (fun _ => fault) later := by
  simp only [sound_const_iff, List.forall_mem_append]

/-- Checks follow on others: their faults count where there are none of the
others. -/
theorem firstFault_append : FirstFault (fun _ => fault) (checks ++ later) e ↔
    FirstFault (fun _ => fault) checks e ∨
      Sound (fun _ => fault) checks ∧ FirstFault (fun _ => fault) later e := by
  induction later using List.reverseRecOn with
  | nil => rw [List.append_nil, or_iff_left fun h => not_firstFault_nil h.2]
  | append_singleton later a ih =>
      rw [← List.append_assoc, firstFault_snoc, firstFault_snoc, ih,
        sound_append, or_assoc, and_assoc, ← and_or_left]

theorem firstFault_singleton :
    FirstFault (fun _ => fault) [a] e ↔ fault a e := by
  rw [← List.nil_append [a], firstFault_snoc, or_iff_right not_firstFault_nil,
    and_iff_right sound_nil]

/-- A computation fails just with the fault of the first of the checks that has
one. -/
def Reports (fault : α → ε → Prop) (checks : List α) (x : Except ε β) : Prop :=
  ∀ e, x = .error e ↔ FirstFault (fun _ => fault) checks e

namespace Reports

/-- A fault is reported if the checks before have none. -/
theorem eq_error (h : Reports fault checks x) {before after : List α}
    (hsplit : checks = before ++ a :: after)
    (hnone : ∀ b ∈ before, ∀ e, ¬ fault b e) (hfault : fault a e) :
    x = .error e :=
  (h e).mpr ⟨before, a, after, hsplit, sound_const_iff.mpr hnone, hfault⟩

/-- What is reported is the fault of some check. -/
theorem exists_fault (h : Reports fault checks x) (he : x = .error e) :
    ∃ a, fault a e := by
  obtain ⟨_, a, _, -, -, hfault⟩ := (h e).mp he
  exact ⟨a, hfault⟩

theorem exists_eq_ok_iff (h : Reports fault checks x) :
    (∃ b, x = .ok b) ↔ ∀ a ∈ checks, ∀ e, ¬ fault a e := by
  rw [← sound_const_iff, sound_iff_not_firstFault]
  cases x with
  | error e => exact iff_of_false nofun fun hnone => hnone e ((h e).mp rfl)
  | ok b => exact iff_of_true ⟨b, rfl⟩ fun e hfault => nomatch (h e).mpr hfault

theorem ok (b : β) : Reports fault [] (.ok b) :=
  fun _ => iff_of_false nofun not_firstFault_nil

theorem singleton (h : ∀ e, x = .error e ↔ fault a e) :
    Reports fault [a] x := fun e => by
  rw [firstFault_singleton, h e]

/-- Nothing is found by the checks that come first. -/
theorem skip (hnone : ∀ a ∈ checks, ∀ e, ¬ fault a e)
    (h : Reports fault later x) :
    Reports fault (checks ++ later) x := fun e => by
  have hsound : Sound (fun _ => fault) checks := sound_const_iff.mpr hnone
  rw [firstFault_append, or_iff_right (sound_iff_not_firstFault.mp hsound e),
    and_iff_right hsound, h e]

theorem skip_cons (hnone : ∀ e, ¬ fault a e) (h : Reports fault later x) :
    Reports fault (a :: later) x :=
  skip (List.forall_mem_singleton.mpr hnone) h

theorem map {f : β → σ} (h : Reports fault checks x) :
    Reports fault checks (x.map f) := by
  intro e
  rw [← h e, map_eq_error]

/-- A computation that goes on with the value of another one. -/
theorem bind {f : β → Except ε σ} (h : Reports fault checks x)
    (hf : ∀ b, x = .ok b → Reports fault later (f b)) :
    Reports fault (checks ++ later) (x >>= f) := by
  cases x with
  | error e =>
      have hfirst : FirstFault (fun _ => fault) checks e := (h e).mp rfl
      have hnot : ¬ Sound (fun _ => fault) checks := fun hsound =>
        sound_iff_not_firstFault.mp hsound e hfirst
      intro e'
      rw [firstFault_append, or_iff_left fun hlater => hnot hlater.1, ← h e']
      exact ⟨fun h => congrArg _ (Except.error.inj h),
        fun h => congrArg _ (Except.error.inj h)⟩
  | ok b => exact skip (h.exists_eq_ok_iff.mp ⟨b, rfl⟩) (hf b rfl)

/-- One check, and then others with its value. -/
theorem bind_cons {f : β → Except ε σ} (h : ∀ e, x = .error e ↔ fault a e)
    (hf : ∀ b, x = .ok b → Reports fault later (f b)) :
    Reports fault (a :: later) (x >>= f) :=
  (singleton h).bind hf

/-- A check that has found its fault. -/
theorem error_cons {e₀ : ε} (h : ∀ e, fault a e ↔ e₀ = e) :
    Reports fault (a :: later) (.error e₀ : Except ε β) := by
  have hone : ∀ e, (.error e₀ : Except ε β) = .error e ↔
      fault a e := fun e => by
    rw [h e, Except.error.injEq]
  have hbind :
      Reports fault ([a] ++ later) ((.error e₀ : Except ε β) >>= Except.ok) :=
    (singleton hone).bind fun _ hb => nomatch hb
  exact hbind

/-- A condition that is one of the checks. -/
theorem ite_cons {c : Prop} [Decidable c] {e₀ : ε}
    (h : ∀ e, fault a e ↔ c ∧ e₀ = e) (hx : ¬ c → Reports fault later x) :
    Reports fault (a :: later) (if c then .error e₀ else x) := by
  split
  · next hc => exact error_cons fun e => (h e).trans (and_iff_right hc)
  · next hc => exact skip_cons (fun e hfault => hc ((h e).mp hfault).1) (hx hc)

end Reports

end

end ClusterGate
