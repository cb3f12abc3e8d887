import ClusterGate.Proofs.Json.Members
import ClusterGate.Proofs.Json.Numerals

/-!
# What is skipped

Where nothing of a document is kept it is still read up to its end, so that what
follows can be found. No printed document is refused there
(`Shape.exists_reads_skipped`): the reader does not ask what a number stands for
or which character an escape is. What it takes a skipped document for is left
open, as it is thrown away.
-/

namespace ClusterGate

open Json

theorem exists_forall₂ {α β : Type} {R : α → β → Prop} : ∀ {as : List α},
    (∀ a ∈ as, ∃ b, R a b) → ∃ bs, List.Forall₂ R as bs
  | [], _ => ⟨[], .nil⟩
  | a :: as, h => by
      obtain ⟨⟨b, hb⟩, hrest⟩ := List.forall_mem_cons.mp h
      obtain ⟨bs, hbs⟩ := exists_forall₂ hrest
      exact ⟨b :: bs, .cons hb hbs⟩

namespace Shape

theorem readNumber_skipped {x : Numeral} (h : x.Proper) {rest : List Char}
    (hrest : Follows rest) :
    readNumber false (x.text ++ rest) = .ok (.null, rest) := by
  rw [readNumber, Numeral.read_text _ h hrest]
  rfl

/-- **Skipping.** A printed document is skipped, whatever it is. -/
theorem exists_reads_skipped (document : Json) :
    ∃ read, skipped.Reads document read := by
  induction document using induction_members with
  | null => exact ⟨.null, reads_null rfl⟩
  | bool b => exact ⟨.bool b, reads_bool b rfl⟩
  | num number =>
      obtain ⟨x, hx, htext⟩ := number.exists_render
      exact ⟨.null,
        reads_number hx htext (fun _ hrest => readNumber_skipped hx hrest) rfl⟩
  | str text =>
      obtain ⟨read, -, htext⟩ := exists_unquotes false text
      exact ⟨.str read, reads_quoted htext rfl⟩
  | arr items ih =>
      obtain ⟨values, hvalues⟩ := exists_forall₂ ih
      exact ⟨.arr values, .arr rfl (Items.reads_of_forall₂ hvalues)⟩
  | obj entries ih =>
      have hentry : ∀ e ∈ entries, ∃ entry, (Fields.mk [] skipped).ReadsEntry
          false e entry := by
        intro e he
        obtain ⟨key, -, hkey⟩ := exists_unquotes false e.1
        obtain ⟨value, hvalue⟩ := ih e he
        exact ⟨(key, value), hkey, hvalue⟩
      obtain ⟨read, hread⟩ := exists_forall₂ hentry
      exact ⟨_, .obj rfl hread (distinct_of_unknown read)⟩

end Shape

end ClusterGate
