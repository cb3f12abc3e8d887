import ClusterGate.Json.Shape
import ClusterGate.Proofs.Json.Members
import ClusterGate.Proofs.SortedMap

/-!
# Documents of a shape

Which documents have a shape. An object has the shape of a record if what it
has under the name of each field has the shape of the field
(`check_record_obj_iff`); the order of its keys does not matter then, nor do
unknown keys. A list that is not too long has the shape of a record just as the
object in which its values stand under the first names (`check_record_arr`).
-/

namespace ClusterGate

namespace Shape

variable {fields : Fields} {shape : Shape} {known : List (String × Shape)}
  {entries : List (String × Json)} {values : List Json} {value : Json}

/-! ## Members -/

theorem checkFields_eq_ok_iff : checkFields fields entries = .ok () ↔
    ∀ e ∈ entries, (fields.shapeOf e.1).check e.2 = .ok () := by
  induction entries with
  | nil => exact iff_of_true rfl (List.forall_mem_nil _)
  | cons e rest ih =>
      rw [checkFields, List.forall_mem_cons, bind_eq_ok, ih]
      exact ⟨fun ⟨_, h⟩ => h, fun h => ⟨(), h⟩⟩

theorem checkItems_eq_ok_iff {length : Nat} :
    checkItems length ⟨[], some shape⟩ values = .ok () ↔
      ∀ v ∈ values, shape.check v = .ok () := by
  induction values with
  | nil => exact iff_of_true rfl (List.forall_mem_nil _)
  | cons v rest ih =>
      have hnext : (Items.mk [] (some shape)).next? =
          some (shape, ⟨[], some shape⟩) := rfl
      rw [checkItems, hnext, List.forall_mem_cons, ← ih]
      dsimp only
      rw [bind_eq_ok]
      exact ⟨fun ⟨_, h⟩ => h, fun h => ⟨(), h⟩⟩

theorem check_skipped (value : Json) : skipped.check value = .ok () := by
  induction value using Json.induction_members with
  | null | bool | num | str => rfl
  | arr items ih =>
      have hitems : checkItems items.length ⟨[], some skipped⟩ items = .ok () :=
        checkItems_eq_ok_iff.mpr ih
      rw [check]
      exact hitems
  | obj fields ih =>
      have hfields : checkFields ⟨[], skipped⟩ fields = .ok () :=
        checkFields_eq_ok_iff.mpr ih
      rw [check]
      exact hfields

/-! ## Scalars and maps of texts -/

/-- A shape of scalars that accepts neither lists nor objects. -/
theorem check_scalar_eq_ok_iff {accepts : Json → Except ShapeError Unit}
    (hlist : ∀ values, accepts (.arr values) ≠ .ok ())
    (hobject : ∀ entries, accepts (.obj entries) ≠ .ok ()) :
    (scalar accepts).check value = .ok () ↔ accepts value = .ok () := by
  cases value with
  | null | bool | num | str => exact Iff.rfl
  | arr values =>
      refine iff_of_false (fun h => ?_) (hlist values)
      rw [check, bind_eq_ok] at h
      obtain ⟨items, hitems, -⟩ := h
      obtain ⟨⟨⟩, haccepts, -⟩ := map_eq_ok.mp hitems
      exact hlist [] haccepts
  | obj entries =>
      refine iff_of_false (fun h => ?_) (hobject entries)
      rw [check, bind_eq_ok] at h
      obtain ⟨fields, hfields, -⟩ := h
      obtain ⟨⟨⟩, haccepts, -⟩ := map_eq_ok.mp hfields
      exact hobject [] haccepts

theorem check_text_eq_ok_iff :
    text.check value = .ok () ↔ ∃ t, value = .str t := by
  rw [text, check_scalar_eq_ok_iff (by simp [acceptText])
      (by simp [acceptText])]
  cases value <;> simp [acceptText]

theorem acceptInteger_eq_ok_iff {bits : Nat} {n : Int} {u : Unit} :
    acceptInteger bits (.num (.int n)) = .ok u ↔
      -(Int.pow 2 (bits - 1)) ≤ n ∧ n < Int.pow 2 (bits - 1) := by
  simp [acceptInteger]

theorem check_integer_eq_ok_iff {bits : Nat} :
    (scalar (acceptInteger bits)).check value = .ok () ↔
      ∃ n, value = .num (.int n) ∧ -(Int.pow 2 (bits - 1)) ≤ n ∧
        n < Int.pow 2 (bits - 1) := by
  rw [check_scalar_eq_ok_iff (by simp [acceptInteger])
    (by simp [acceptInteger])]
  cases value with
  | null | bool | str | arr | obj => simp [acceptInteger]
  | num x =>
      cases x with
      | real => simp [acceptInteger]
      | int n => simp [acceptInteger_eq_ok_iff]

theorem exists_eq_map_str_iff : (∀ e ∈ entries, ∃ t, e.2 = .str t) ↔
    ∃ texts : List (String × String), entries = texts.map fun e =>
      (e.1, .str e.2) := by
  constructor
  · intro h
    induction entries with
    | nil => exact ⟨[], rfl⟩
    | cons e rest ih =>
        obtain ⟨⟨t, ht⟩, hrest⟩ := List.forall_mem_cons.mp h
        obtain ⟨texts, rfl⟩ := ih hrest
        exact ⟨(e.1, t) :: texts, congrArg (· :: _) (Prod.ext rfl ht)⟩
  · rintro ⟨texts, rfl⟩
    exact List.forall_mem_map.mpr fun e _ => ⟨e.2, rfl⟩

theorem check_map_text_eq_ok_iff : (map text).check value = .ok () ↔
    ∃ texts : List (String × String), value =
      .obj (texts.map fun e => (e.1, .str e.2)) := by
  cases value with
  | null | bool | num | str | arr => exact iff_of_false nofun nofun
  | obj entries =>
      have hcheck :
          (map text).check (.obj entries) = checkFields ⟨[], text⟩ entries := by
        rw [check]
        rfl
      simp only [hcheck, checkFields_eq_ok_iff, Json.obj.injEq,
        ← exists_eq_map_str_iff]
      exact forall₂_congr fun _ _ => check_text_eq_ok_iff

/-! ## Records -/

theorem check_record_obj (name : String) :
    (record name known).check (.obj entries) =
      checkFields ⟨known, skipped⟩ entries := by
  rw [check]
  rfl

/-- An object has the shape of a record if it has it field by field. -/
theorem check_record_obj_iff (name : String)
    (hknown : (known.map Prod.fst).Nodup) (h : (entries.map Prod.fst).Nodup) :
    (record name known).check (.obj entries) = .ok () ↔
      ∀ f ∈ known, ∀ v, lookupEntry f.1 entries = some v →
        f.2.check v = .ok () := by
  rw [check_record_obj, checkFields_eq_ok_iff]
  constructor
  · intro hall f hf v hv
    have hshape : Fields.shapeOf ⟨known, skipped⟩ f.1 = f.2 := by
      rw [Fields.shapeOf, (lookupEntry_eq_some_iff_of_nodup hknown).mpr hf]
      rfl
    exact hshape ▸ hall (f.1, v) (mem_of_lookupEntry hv)
  · intro hall e he
    rw [Fields.shapeOf]
    cases hf : lookupEntry e.1 known with
    | none => exact check_skipped e.2
    | some shape =>
        exact hall (e.1, shape) (mem_of_lookupEntry hf) e.2
          ((lookupEntry_eq_some_iff_of_nodup h).mpr he)

theorem checkItems_eq_checkFields {length : Nat} :
    ∀ {later : List (String × Shape)}
    {values : List Json}, (∀ f ∈ later, fields.shapeOf f.1 = f.2) →
      values.length ≤ later.length →
      checkItems length ⟨later.map (·.2), none⟩ values =
        checkFields fields ((later.map (·.1)).zip values)
  | _, [], _, _ => by
      rw [List.zip_nil_right]
      rfl
  | [], _ :: _, _, h => absurd h (Nat.not_succ_le_zero _)
  | f :: later, v :: values, hshape, h => by
      obtain ⟨hf, hlater⟩ := List.forall_mem_cons.mp hshape
      have hnext : (Items.mk ((f :: later).map (·.2)) none).next? =
          some (f.2, ⟨later.map (·.2), none⟩) := rfl
      rw [checkItems, hnext, List.map_cons, List.zip_cons_cons, checkFields, hf]
      dsimp only
      rw [checkItems_eq_checkFields hlater (Nat.le_of_succ_le_succ h)]

/-- A list has the shape of a record as the object of its values has. -/
theorem check_record_arr (name : String) (hknown : (known.map Prod.fst).Nodup)
    (h : values.length ≤ known.length) :
    (record name known).check (.arr values) =
      (record name known).check (.obj ((known.map Prod.fst).zip values)) := by
  have hshape : ∀ f ∈ known, Fields.shapeOf ⟨known, skipped⟩ f.1 = f.2 :=
    fun f hf => by
      rw [Fields.shapeOf, (lookupEntry_eq_some_iff_of_nodup hknown).mpr hf]
      rfl
  rw [check_record_obj, check, ← checkItems_eq_checkFields hshape h]
  rfl

end Shape

end ClusterGate
