import Mathlib.Data.List.Forall2

/-!
# Results of checks

How a computation that may fail comes to succeed: a sequence of two
succeeds if both do, and a pass over a list if every step does. An
invariant that each step of a pass preserves holds at its end
(`foldlM_invariant`).
-/

namespace ClusterGate

variable {ε α β σ : Type}

theorem bind_eq_ok {x : Except ε α} {f : α → Except ε β} {b : β} :
    (x >>= f) = .ok b ↔ ∃ a, x = .ok a ∧ f a = .ok b := by
  cases x with
  | error e => exact ⟨nofun, nofun⟩
  | ok a =>
      exact ⟨fun h => ⟨a, rfl, h⟩, fun ⟨_, ha, hb⟩ => Except.ok.inj ha ▸ hb⟩

theorem bind_eq_error {x : Except ε α} {f : α → Except ε β} {e : ε} :
    (x >>= f) = .error e ↔ x = .error e ∨ ∃ a, x = .ok a ∧ f a = .error e := by
  cases x with
  | error c =>
      refine ⟨fun h => .inl (congrArg _ (Except.error.inj h)), ?_⟩
      rintro (h | ⟨a, ha, -⟩)
      · exact congrArg _ (Except.error.inj h)
      · cases ha
  | ok a =>
      refine ⟨fun h => .inr ⟨a, rfl, h⟩, ?_⟩
      rintro (h | ⟨_, ha, h⟩)
      · cases h
      · exact Except.ok.inj ha ▸ h

theorem ok_bind (a : α) (f : α → Except ε β) : (.ok a >>= f) = f a := rfl

theorem error_bind (e : ε) (f : α → Except ε β) :
    (.error e >>= f) = .error e := rfl

theorem map_eq_ok {x : Except ε α} {f : α → β} {b : β} :
    x.map f = .ok b ↔ ∃ a, x = .ok a ∧ f a = b := by
  cases x with
  | error e => exact ⟨nofun, nofun⟩
  | ok a => exact ⟨fun h => ⟨a, rfl, Except.ok.inj h⟩, fun ⟨_, ha, hb⟩ => by
      obtain rfl := Except.ok.inj ha
      exact congrArg Except.ok hb⟩

theorem exists_map_eq_ok_iff {x : Except ε α} {f : α → β} :
    (∃ b, x.map f = .ok b) ↔ ∃ a, x = .ok a := by
  simp only [map_eq_ok]
  exact ⟨fun ⟨_, a, ha, _⟩ => ⟨a, ha⟩, fun ⟨a, ha⟩ => ⟨f a, a, ha, rfl⟩⟩

theorem map_eq_error {x : Except ε α} {f : α → β} {e : ε} :
    x.map f = .error e ↔ x = .error e := by
  cases x with
  | error _ =>
      exact ⟨fun h => congrArg _ (Except.error.inj h),
        fun h => congrArg _ (Except.error.inj h)⟩
  | ok _ => exact ⟨nofun, nofun⟩

theorem mapError_eq_ok {ε' : Type} {x : Except ε α} {f : ε → ε'} {a : α} :
    x.mapError f = .ok a ↔ x = .ok a := by
  cases x with
  | error e => exact ⟨nofun, nofun⟩
  | ok b =>
      exact ⟨fun h => congrArg _ (Except.ok.inj h),
        fun h => congrArg _ (Except.ok.inj h)⟩

theorem mapError_eq_error {ε' : Type} {x : Except ε α} {f : ε → ε'} {e : ε'} :
    x.mapError f = .error e ↔ ∃ cause, x = .error cause ∧ f cause = e := by
  cases x with
  | error cause =>
      exact ⟨fun h => ⟨cause, rfl, Except.error.inj h⟩, fun ⟨_, hcause, h⟩ => by
        obtain rfl := Except.error.inj hcause
        exact congrArg Except.error h⟩
  | ok a => exact ⟨nofun, nofun⟩

/-- What each step of a pass preserves, the whole pass preserves. -/
theorem foldlM_invariant {step : σ → α → Except ε σ} {Inv : List α → σ → Prop}
    (hstep : ∀ done s a s', Inv done s → step s a = .ok s' →
      Inv (done ++ [a]) s') :
    ∀ {rest : List α} (done : List α) {s s' : σ}, Inv done s →
      rest.foldlM step s = .ok s' →
      Inv (done ++ rest) s'
  | [], done, s, s', hinv, h => by
      obtain rfl := Except.ok.inj h
      rwa [List.append_nil]
  | a :: rest, done, s, s', hinv, h => by
      rw [List.foldlM_cons] at h
      obtain ⟨mid, ha, hrest⟩ := bind_eq_ok.mp h
      rw [List.append_cons]
      exact foldlM_invariant hstep (done ++ [a])
        (hstep done s a mid hinv ha) hrest

/-- A pass all of whose steps succeed, whatever the state, is a fold. -/
theorem foldlM_eq_ok_foldl {step : σ → α → Except ε σ} {next : σ → α → σ} :
    ∀ {as : List α} {s : σ}, (∀ s, ∀ a ∈ as, step s a = .ok (next s a)) →
      as.foldlM step s = .ok (as.foldl next s)
  | [], _, _ => rfl
  | a :: as, s, h => by
      obtain ⟨ha, hrest⟩ : step s a = .ok (next s a) ∧
          ∀ s, ∀ a ∈ as, step s a = .ok (next s a) :=
        ⟨h s a List.mem_cons_self, fun s a ha =>
          h s a (List.mem_cons_of_mem _ ha)⟩
      rw [List.foldlM_cons, ha, ok_bind, List.foldl_cons]
      exact foldlM_eq_ok_foldl hrest

/-- Passes whose steps succeed alike succeed alike, whatever their errors
are. -/
theorem foldlM_eq_ok_congr {ε' : Type} {step : σ → α → Except ε σ}
    {other : σ → α → Except ε' σ}
    (h : ∀ s a t, step s a = .ok t ↔ other s a = .ok t) {t : σ} :
    ∀ {as : List α} {s : σ},
      as.foldlM step s = .ok t ↔ as.foldlM other s = .ok t
  | [], _ => by
      rw [List.foldlM_nil, List.foldlM_nil]
      exact ⟨fun h => congrArg _ (Except.ok.inj h),
        fun h => congrArg _ (Except.ok.inj h)⟩
  | a :: as, s => by
      rw [List.foldlM_cons, List.foldlM_cons, bind_eq_ok, bind_eq_ok]
      simp only [h, foldlM_eq_ok_congr h]

/-- Naming the element in an error changes nothing about success. -/
theorem foldlM_mapError_eq_ok_iff {ε' : Type} {step : σ → α → Except ε σ}
    {name : α → ε → ε'} {t : σ} {as : List α} {s : σ} :
    as.foldlM (fun s a => (step s a).mapError (name a)) s = .ok t ↔
      as.foldlM step s = .ok t :=
  foldlM_eq_ok_congr fun _ _ _ => mapError_eq_ok

/-- The results of a pass are the results of its elements. -/
theorem mem_of_mapM_eq_ok {f : α → Except ε β} {b : β} :
    ∀ {as : List α} {bs : List β},
      as.mapM f = .ok bs → (b ∈ bs ↔ ∃ a ∈ as, f a = .ok b)
  | [], bs, h => by
      obtain rfl := Except.ok.inj h
      simp
  | a :: as, bs, h => by
      rw [List.mapM_cons] at h
      obtain ⟨c, hc, hrest⟩ := bind_eq_ok.mp h
      obtain ⟨cs, hcs, hbs⟩ := bind_eq_ok.mp hrest
      obtain rfl := Except.ok.inj hbs
      simp [mem_of_mapM_eq_ok hcs, hc, eq_comm]

theorem exists_mapM_eq_ok {f : α → Except ε β} : ∀ {as : List α},
    (∀ a ∈ as, ∃ b, f a = .ok b) → ∃ bs, as.mapM f = .ok bs
  | [], _ => ⟨[], rfl⟩
  | a :: as, h => by
      obtain ⟨⟨b, hb⟩, hrest⟩ := List.forall_mem_cons.mp h
      obtain ⟨bs, hbs⟩ := exists_mapM_eq_ok hrest
      refine ⟨b :: bs, ?_⟩
      rw [List.mapM_cons]
      exact bind_eq_ok.mpr ⟨b, hb, bind_eq_ok.mpr ⟨bs, hbs, rfl⟩⟩

theorem mapM_eq_ok_iff {f : α → Except ε β} : ∀ {as : List α} {bs : List β},
    as.mapM f = .ok bs ↔ List.Forall₂ (fun a b => f a = .ok b) as bs
  | [], bs => by
      rw [List.forall₂_nil_left_iff]
      exact ⟨fun h => (Except.ok.inj h).symm,
        fun h => congrArg Except.ok h.symm⟩
  | a :: as, bs => by
      rw [List.mapM_cons, bind_eq_ok, List.forall₂_cons_left_iff]
      constructor
      · rintro ⟨b, hb, hrest⟩
        obtain ⟨cs, hcs, hbs⟩ := bind_eq_ok.mp hrest
        exact ⟨b, cs, hb, mapM_eq_ok_iff.mp hcs, (Except.ok.inj hbs).symm⟩
      · rintro ⟨b, cs, hb, hcs, rfl⟩
        exact ⟨b, hb, bind_eq_ok.mpr ⟨cs, mapM_eq_ok_iff.mpr hcs, rfl⟩⟩

/-- A pass fails as its first failing element does. -/
theorem mapM_eq_error_iff {f : α → Except ε β} {e : ε} : ∀ {as : List α},
    as.mapM f = .error e ↔ ∃ before a after, as = before ++ a :: after ∧
      (∀ b ∈ before, ∃ c, f b = .ok c) ∧ f a = .error e
  | [] => by
      refine iff_of_false nofun ?_
      rintro ⟨before, a, after, h, -⟩
      simp at h
  | a :: as => by
      rw [List.mapM_cons, bind_eq_error]
      constructor
      · rintro (ha | ⟨b, hb, hrest⟩)
        · exact ⟨[], a, as, rfl, List.forall_mem_nil _, ha⟩
        · obtain has | ⟨_, -, hok⟩ := bind_eq_error.mp hrest
          · obtain ⟨before, c, after, rfl, hbefore, hc⟩ :=
              mapM_eq_error_iff.mp has
            exact ⟨a :: before, c, after, rfl,
              List.forall_mem_cons.mpr ⟨⟨b, hb⟩, hbefore⟩, hc⟩
          · cases hok
      · rintro ⟨before, c, after, hsplit, hbefore, hc⟩
        cases before with
        | nil =>
            obtain ⟨rfl, rfl⟩ := List.cons.inj hsplit
            exact .inl hc
        | cons d before =>
            obtain ⟨rfl, rfl⟩ := List.cons.inj hsplit
            obtain ⟨⟨b, hb⟩, hbefore⟩ := List.forall_mem_cons.mp hbefore
            have has :=
              mapM_eq_error_iff.mpr ⟨before, c, after, rfl, hbefore, hc⟩
            exact .inr ⟨b, hb, bind_eq_error.mpr (.inl has)⟩

theorem exists_of_mapM_eq_ok {f : α → Except ε β} :
    ∀ {as : List α} {bs : List β},
      as.mapM f = .ok bs → ∀ a ∈ as, ∃ b, f a = .ok b
  | [], _, _ => List.forall_mem_nil _
  | a :: as, bs, h => by
      rw [List.mapM_cons] at h
      obtain ⟨b, hb, hrest⟩ := bind_eq_ok.mp h
      obtain ⟨bs, hbs, -⟩ := bind_eq_ok.mp hrest
      exact List.forall_mem_cons.mpr ⟨⟨b, hb⟩, exists_of_mapM_eq_ok hbs⟩

theorem exists_mapM_eq_ok_iff {f : α → Except ε β} {as : List α} :
    (∃ bs, as.mapM f = .ok bs) ↔ ∀ a ∈ as, ∃ b, f a = .ok b :=
  ⟨fun ⟨_, hbs⟩ => exists_of_mapM_eq_ok hbs, exists_mapM_eq_ok⟩

/-- A pass whose steps take in one result each is a fold over these results. -/
theorem foldlM_eq_map_mapM {f : α → Except ε β} {g : σ → β → σ} :
    ∀ {as : List α} {s : σ},
      as.foldlM (fun s a => (f a).map (g s)) s =
        (as.mapM f).map fun bs => bs.foldl g s
  | [], _ => rfl
  | a :: as, s => by
      rw [List.foldlM_cons, List.mapM_cons]
      cases f a with
      | error e => rfl
      | ok b =>
          have hrest : as.foldlM (fun s a => (f a).map (g s)) (g s b) =
              (as.mapM f).map fun bs => bs.foldl g (g s b) := foldlM_eq_map_mapM
          refine hrest.trans ?_
          cases as.mapM f <;> rfl

theorem mem_of_mapM_eq_some {f : α → Option β} {b : β} :
    ∀ {as : List α} {bs : List β},
      as.mapM f = some bs → (b ∈ bs ↔ ∃ a ∈ as, f a = some b)
  | [], bs, h => by
      obtain rfl := Option.some.inj h
      simp
  | a :: as, bs, h => by
      rw [List.mapM_cons] at h
      obtain ⟨c, hc, hrest⟩ := Option.bind_eq_some_iff.mp h
      obtain ⟨cs, hcs, hbs⟩ := Option.bind_eq_some_iff.mp hrest
      obtain rfl := Option.some.inj hbs
      simp [mem_of_mapM_eq_some hcs, hc, eq_comm]

theorem exists_of_mapM_eq_some {f : α → Option β} :
    ∀ {as : List α} {bs : List β},
      as.mapM f = some bs → ∀ a ∈ as, ∃ b, f a = some b
  | [], _, _ => List.forall_mem_nil _
  | a :: as, bs, h => by
      rw [List.mapM_cons] at h
      obtain ⟨b, hb, hrest⟩ := Option.bind_eq_some_iff.mp h
      obtain ⟨bs, hbs, -⟩ := Option.bind_eq_some_iff.mp hrest
      exact List.forall_mem_cons.mpr ⟨⟨b, hb⟩, exists_of_mapM_eq_some hbs⟩

/-- Elements that are each got back from what is made of them. -/
theorem mapM_map_eq_ok {f : β → Except ε α} {g : α → β} : ∀ {as : List α},
    (∀ a ∈ as, f (g a) = .ok a) → (as.map g).mapM f = .ok as
  | [], _ => rfl
  | a :: as, h => by
      obtain ⟨ha, hrest⟩ := List.forall_mem_cons.mp h
      rw [List.map_cons, List.mapM_cons, ha, ok_bind,
        mapM_map_eq_ok hrest, ok_bind]
      rfl

theorem eq_nil_of_mapM_eq_ok_nil {f : α → Except ε β} {as : List α}
    (h : as.mapM f = .ok []) :
    as = [] := by
  cases as with
  | nil => rfl
  | cons a as =>
      rw [List.mapM_cons] at h
      obtain ⟨b, -, hrest⟩ := bind_eq_ok.mp h
      obtain ⟨bs, -, hbs⟩ := bind_eq_ok.mp hrest
      cases hbs

end ClusterGate
