import Mathlib.Data.List.Forall2
import ClusterGate.Proofs.Json.Leaves
import ClusterGate.Proofs.Redaction.PathTree

/-!
# Approved positions

Which positions of a document an allowed path approves. Its segments have
to match the first keys on the way to the position, one after the other,
and every array that is entered before the last segment is used up has to
be entered at an object. What stands below the end of the path is approved
with it.

The definition speaks of the position as a whole; the lemmas after it say
what it comes to step by step.
-/

namespace ClusterGate

open Json

/-- The keys on the way to a position. -/
def keysOf (p : Position) : List String :=
  p.filterMap fun
    | .key key => some key
    | .item _ => none

/-- Whether an allowed path approves a position of a value. -/
def FieldPath.Approves (path : List String) (v : Json) (p : Position) : Prop :=
  (∃ firsts, firsts <+: keysOf p ∧ List.Forall₂ FieldPath.Matches path firsts) ∧
    ∀ q i rest, p = q ++ .item i :: rest → (keysOf q).length < path.length →
      ∃ fields, v.at? (q ++ [.item i]) = some (.obj fields)

namespace FieldPath

variable {v w : Json} {p : Position} {segment key : String}
  {path : List String} {i : Nat}

theorem approves_nil : Approves [] v p :=
  ⟨⟨[], List.nil_prefix, .nil⟩, nofun⟩

theorem not_approves_cons_nil : ¬ Approves (segment :: path) v [] := by
  rintro ⟨⟨firsts, hpre, hmatch⟩, -⟩
  obtain rfl := List.prefix_nil.mp hpre
  cases hmatch

/-- A key uses up one segment. -/
theorem approves_key (hw : v.part? (.key key) = some w) :
    Approves (segment :: path) v (.key key :: p) ↔
      Matches segment key ∧ Approves path w p := by
  have hkeys : ∀ q : Position, keysOf (.key key :: q) = key :: keysOf q :=
    fun _ => rfl
  have hat : ∀ q, v.at? (.key key :: q) = w.at? q := fun q => by simp [at?, hw]
  constructor
  · rintro ⟨⟨firsts, hpre, hmatch⟩, hitems⟩
    cases hmatch with
    | @cons _ first _ firsts hseg hrest =>
        rw [hkeys, List.cons_prefix_cons] at hpre
        obtain ⟨rfl, hpre⟩ := hpre
        refine ⟨hseg, ⟨firsts, hpre, hrest⟩, fun q i rest hp hlen => ?_⟩
        subst hp
        obtain ⟨fields, hfields⟩ :=
          hitems (.key first :: q) i rest rfl (Nat.succ_lt_succ hlen)
        exact ⟨fields, by rwa [List.cons_append, hat] at hfields⟩
  · rintro ⟨hseg, ⟨firsts, hpre, hmatch⟩, hitems⟩
    refine ⟨⟨key :: firsts, List.cons_prefix_cons.mpr ⟨rfl, hpre⟩,
      .cons hseg hmatch⟩, ?_⟩
    intro q i rest hp hlen
    cases q with
    | nil => cases hp
    | cons step q =>
        obtain ⟨rfl, htail⟩ := List.cons_eq_cons.mp hp
        rw [List.cons_append, hat]
        exact hitems q i rest htail (Nat.lt_of_succ_lt_succ hlen)

/-- An index uses up no segment, but must lead to an object. -/
theorem approves_item (hw : v.part? (.item i) = some w) :
    Approves (segment :: path) v (.item i :: p) ↔
      (∃ fields, w = .obj fields) ∧ Approves (segment :: path) w p := by
  have hkeys : ∀ q : Position, keysOf (.item i :: q) = keysOf q := fun _ => rfl
  have hat : ∀ q, v.at? (.item i :: q) = w.at? q := fun q => by simp [at?, hw]
  constructor
  · rintro ⟨hfirsts, hitems⟩
    refine ⟨?_, hfirsts, fun q j rest hp hlen => ?_⟩
    · obtain ⟨fields, hfields⟩ := hitems [] i p rfl (Nat.zero_lt_succ _)
      exact ⟨fields, by simpa [hat, at?] using hfields⟩
    · subst hp
      obtain ⟨fields, hfields⟩ :=
        hitems (.item i :: q) j rest rfl (hkeys q ▸ hlen)
      exact ⟨fields, by rwa [List.cons_append, hat] at hfields⟩
  · rintro ⟨⟨fields, rfl⟩, hfirsts, hitems⟩
    refine ⟨hfirsts, fun q j rest hp hlen => ?_⟩
    cases q with
    | nil =>
        obtain ⟨hi, -⟩ := List.cons_eq_cons.mp hp
        obtain rfl := Step.item.inj hi
        exact ⟨fields, by simp [hat, at?]⟩
    | cons step q =>
        obtain ⟨rfl, htail⟩ := List.cons_eq_cons.mp hp
        rw [List.cons_append, hat]
        exact hitems q j rest htail (hkeys q ▸ hlen)

end FieldPath

end ClusterGate
