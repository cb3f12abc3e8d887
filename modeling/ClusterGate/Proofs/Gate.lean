import ClusterGate.Gate
import ClusterGate.Proofs.Request.Canonical

/-!
# What a gate serves

A gate can be made exactly if its allow-lists cover its catalog, and then
it can filter the response to every request it accepts: the path decides
on an entry of the catalog, the entry on the canonical path, and the
canonical path has an allow-list since the gate was made.

A session is any sequence of classifying inputs and filtering responses to
requests that were accepted before. In no session does a redaction fail or
an error get reported.
-/

namespace ClusterGate

/-! ## Making a gate -/

/-- Every canonical path of the catalog has an allow-list. -/
def AllowLists.Cover (lists : AllowLists) (catalog : Catalog) : Prop :=
  ∀ e ∈ catalog.entries, lists.contains e.2.path = true

variable {catalog : Catalog} {lists : AllowLists} {gate : Gate}

theorem AllowLists.missingPaths_eq_nil_iff :
    lists.missingPaths catalog = [] ↔ lists.Cover catalog := by
  rw [missingPaths, Catalog.paths, List.filter_eq_nil_iff, List.forall_mem_map]
  simp [Cover]

theorem AllowLists.ensureCovers_of_not_cover (h : ¬ lists.Cover catalog) :
    lists.ensureCovers catalog =
      .error (.uncovered (lists.missingPaths catalog)) := by
  have hne := mt missingPaths_eq_nil_iff.mp h
  unfold ensureCovers
  split
  · next hnil => exact absurd hnil hne
  · rfl

theorem AllowLists.get_of_contains {path : String}
    (h : lists.contains path = true) :
    ∃ list, lists.get path = .ok list := by
  obtain ⟨list, hlist⟩ := Option.isSome_iff_exists.mp h
  exact ⟨list, by rw [get, hlist]⟩

theorem AllowLists.forApi_of_route {api : Api} {route : Route}
    (h : api.route = some route) :
    lists.forApi api = lists.get route.path := by
  rw [forApi, h]

namespace Gate

theorem create_of_cover (h : lists.Cover catalog) :
    create catalog lists =
      ⟨.ok ⟨catalog, lists⟩, catalog.shadowed.map shadowedRecord ++
        [readyRecord catalog lists]⟩ := by
  rw [create, AllowLists.ensureCovers, AllowLists.missingPaths_eq_nil_iff.mpr h]

theorem create_of_not_cover (h : ¬ lists.Cover catalog) :
    ∃ record, create catalog lists =
      ⟨.error (.uncovered (lists.missingPaths catalog)), [record]⟩ ∧
        record.level = .error := by
  rw [create, AllowLists.ensureCovers_of_not_cover h]
  exact ⟨_, rfl, rfl⟩

/-- A gate that was made is the catalog and the allow-lists, and these cover
the catalog. -/
theorem create_eq_ok (h : (create catalog lists).result = .ok gate) :
    gate = ⟨catalog, lists⟩ ∧ lists.Cover catalog := by
  by_cases hcover : lists.Cover catalog
  · rw [create_of_cover hcover] at h
    exact ⟨(Except.ok.inj h).symm, hcover⟩
  · obtain ⟨record, hcreate, -⟩ := create_of_not_cover hcover
    rw [hcreate] at h
    cases h

theorem level_of_mem_create {record : LogRecord} (h : lists.Cover catalog)
    (hrecord : record ∈ (create catalog lists).records) :
    record.level ≠ .error := by
  rw [create_of_cover h] at hrecord
  rcases List.mem_append.mp hrecord with hrecord | hrecord
  · obtain ⟨pair, -, rfl⟩ := List.mem_map.mp hrecord
    exact nofun
  · obtain rfl := List.mem_singleton.mp hrecord
    exact nofun

/-! ## Serving a request -/

theorem classify_result {input : CallerInput} :
    (gate.classify input).result = gate.apis.classify input := by
  unfold classify
  split
  · next h => exact h.symm
  · next h => exact h.symm

theorem level_of_mem_classify {input : CallerInput} {record : LogRecord}
    (h : record ∈ (gate.classify input).records) : record.level ≠ .error := by
  unfold classify at h
  split at h
  · obtain rfl := List.mem_singleton.mp h
    exact nofun
  · obtain rfl := List.mem_singleton.mp h
    exact nofun

/-- The response to an accepted request is filtered by the allow-list of
the first entry that covers its path. -/
theorem redact_of_classify (hcat : gate.apis.Declared)
    (hcover : gate.allowLists.Cover gate.apis) {input : CallerInput}
    {r : Request} (h : (gate.classify input).result = .ok r) (raw : Json) :
    ∃ path route list, Utf8.decode (Percent.decode r.uri.path.toList) =
      .ok path.toList ∧
      gate.apis.FirstMatch path r.api route ∧
      gate.allowLists.get route.path = .ok list ∧
      gate.redact r.api raw =
        ⟨.ok (ClusterGate.redact raw list),
          [redactedRecord r.api (ClusterGate.redact raw list)]⟩ := by
  rw [classify_result] at h
  obtain ⟨query, path, route, hacc⟩ := classify_eq_ok_iff.mp h
  have hpath := Uri.decodedPath_eq_ok_iff.mp hacc.decoded
  have hcontains : gate.allowLists.contains route.path = true :=
    hcover _ hacc.firstMatch.mem
  obtain ⟨list, hlist⟩ := AllowLists.get_of_contains hcontains
  refine ⟨path, route, list, hpath, hacc.firstMatch, hlist, ?_⟩
  rw [redact, AllowLists.forApi_of_route (hacc.route_eq hcat), hlist]

end Gate

/-! ## Sessions -/

/-- What has happened at a gate: the requests that were accepted, what came
of filtering responses, and the records. -/
structure Session where
  accepted : List Request
  redactions : List (Except AllowListsError Json)
  records : List LogRecord

namespace Session

/-- A gate classifies an input, or filters a response to a request that it
accepted before. -/
inductive Step (gate : Gate) : Session → Session → Prop where
  | accept {s : Session} {input : CallerInput} {r : Request}
      (h : (gate.classify input).result = .ok r) :
      Step gate s ⟨r :: s.accepted, s.redactions, s.records ++
        (gate.classify input).records⟩
  | reject {s : Session} {input : CallerInput} {reason : Rejection}
      (h : (gate.classify input).result = .error reason) :
      Step gate s ⟨s.accepted, s.redactions, s.records ++
        (gate.classify input).records⟩
  | redact {s : Session} {r : Request} {raw : Json} (h : r ∈ s.accepted) :
      Step gate s ⟨s.accepted, (gate.redact r.api raw).result :: s.redactions,
        s.records ++ (gate.redact r.api raw).records⟩

/-- The sessions that begin with `start`. -/
inductive Reachable (gate : Gate) (start : Session) : Session → Prop where
  | start : Reachable gate start start
  | step {s t : Session} :
      Reachable gate start s → Step gate s t → Reachable gate start t

/-- Whatever was accepted was classified, no redaction failed, and no error
was reported. -/
structure Sound (gate : Gate) (s : Session) : Prop where
  classified : ∀ r ∈ s.accepted, ∃ input, (gate.classify input).result = .ok r
  redacted : ∀ outcome ∈ s.redactions, ∃ filtered, outcome = .ok filtered
  quiet : ∀ record ∈ s.records, record.level ≠ .error

theorem Sound.step (hcat : gate.apis.Declared)
    (hcover : gate.allowLists.Cover gate.apis) {s t : Session}
    (hs : s.Sound gate) (hstep : Step gate s t) : t.Sound gate := by
  cases hstep with
  | @accept input r h =>
      exact ⟨List.forall_mem_cons.mpr ⟨⟨input, h⟩, hs.classified⟩, hs.redacted,
        List.forall_mem_append.mpr
          ⟨hs.quiet, fun _ => Gate.level_of_mem_classify⟩⟩
  | reject h =>
      exact ⟨hs.classified, hs.redacted,
        List.forall_mem_append.mpr
          ⟨hs.quiet, fun _ => Gate.level_of_mem_classify⟩⟩
  | @redact r raw h =>
      obtain ⟨input, hinput⟩ := hs.classified r h
      obtain ⟨path, route, list, -, -, -, hredact⟩ :=
        Gate.redact_of_classify hcat hcover hinput raw
      rw [hredact]
      refine ⟨hs.classified, List.forall_mem_cons.mpr ⟨⟨_, rfl⟩, hs.redacted⟩,
        List.forall_mem_append.mpr ⟨hs.quiet, fun record hrecord => ?_⟩⟩
      obtain rfl := List.mem_singleton.mp hrecord
      exact nofun

theorem Sound.of_reachable (hcat : gate.apis.Declared)
    (hcover : gate.allowLists.Cover gate.apis) {start s : Session}
    (hstart : start.Sound gate) (h : Reachable gate start s) :
    s.Sound gate := by
  induction h with
  | start => exact hstart
  | step _ hstep ih => exact ih.step hcat hcover hstep

end Session

/-- **A gate serves what it accepts.** It is made exactly if every canonical
path has an allow-list, and reports the others if not. Once made it filters
the response to every request it accepts, by the allow-list of the first
entry that covers the path, and no session with it fails. -/
theorem create_serves (hcat : catalog.Declared) :
    ((∃ gate, (Gate.create catalog lists).result = .ok gate) ↔
      lists.Cover catalog) ∧
      (¬ lists.Cover catalog →
        (Gate.create catalog lists).result =
            .error (.uncovered (catalog.paths.filter
              fun path => !lists.contains path)) ∧
          ∃ record, (Gate.create catalog lists).records = [record] ∧
            record.level = .error) ∧
      ∀ gate, (Gate.create catalog lists).result = .ok gate →
        (∀ input r raw, (gate.classify input).result = .ok r →
          ∃ path route list, Utf8.decode (Percent.decode r.uri.path.toList) =
            .ok path.toList ∧
            catalog.FirstMatch path r.api route ∧
            lists.get route.path = .ok list ∧
            (gate.redact r.api raw).result =
              .ok (ClusterGate.redact raw list)) ∧
        ∀ session, Session.Reachable gate
          ⟨[], [], (Gate.create catalog lists).records⟩ session →
          (∀ outcome ∈ session.redactions, ∃ filtered, outcome = .ok filtered) ∧
            ∀ record ∈ session.records, record.level ≠ .error := by
  refine ⟨⟨?_,
    fun hcover => ⟨_, congrArg Logged.result (Gate.create_of_cover hcover)⟩⟩,
    fun hnot => ?_, fun gate hgate => ?_⟩
  · rintro ⟨gate, hgate⟩
    exact (Gate.create_eq_ok hgate).2
  · obtain ⟨record, hcreate, hlevel⟩ := Gate.create_of_not_cover hnot
    rw [hcreate]
    exact ⟨rfl, record, rfl, hlevel⟩
  · obtain ⟨rfl, hcover⟩ := Gate.create_eq_ok hgate
    refine ⟨fun input r raw h => ?_, fun session hsession => ?_⟩
    · obtain ⟨path, route, list, hpath, hmatch, hlist, hredact⟩ :=
        Gate.redact_of_classify hcat hcover h raw
      exact ⟨path, route, list, hpath, hmatch, hlist,
        congrArg Logged.result hredact⟩
    · have hstart :
          Session.Sound ⟨catalog, lists⟩
            ⟨[], [], (Gate.create catalog lists).records⟩ :=
        ⟨List.forall_mem_nil _, List.forall_mem_nil _,
          fun _ => Gate.level_of_mem_create hcover⟩
      have hsound := hstart.of_reachable hcat hcover hsession
      exact ⟨hsound.redacted, hsound.quiet⟩

set_option maxRecDepth 2000 in
/-- The gate with the bundled allow-lists accepts a request and serves it. -/
theorem create_serves_recovery :
    ∃ lists gate r, AllowLists.bundled = .ok lists ∧
      (Catalog.full clusterTable).Declared ∧
      (Gate.create (.full clusterTable) lists).result = .ok gate ∧
      (gate.classify recoveryInput).result = .ok r ∧
      (∀ raw, ∃ filtered, (gate.redact r.api raw).result = .ok filtered) ∧
      ∀ session, Session.Reachable gate
          ⟨[], [], (Gate.create (.full clusterTable) lists).records⟩ session →
        ∀ record ∈ session.records, record.level ≠ .error := by
  obtain ⟨lists, hlists⟩ : ∃ lists, AllowLists.bundled = .ok lists := ⟨_, rfl⟩
  obtain ⟨gate, hgate⟩ :
      ∃ gate, (Gate.create (.full clusterTable) lists).result = .ok gate := by
    obtain rfl := Except.ok.inj hlists
    exact ⟨_, rfl⟩
  obtain ⟨r, hr⟩ : ∃ r, (gate.classify recoveryInput).result = .ok r := by
    rw [Gate.classify_result, (Gate.create_eq_ok hgate).1]
    exact ⟨_, rfl⟩
  obtain ⟨hserves, hsessions⟩ :=
    (create_serves Catalog.declared_cluster).2.2 gate hgate
  refine ⟨lists, gate, r, hlists, Catalog.declared_cluster, hgate, hr,
    fun raw => ?_, fun session hsession => (hsessions session hsession).2⟩
  obtain ⟨path, route, list, -, -, -, hredact⟩ := hserves recoveryInput r raw hr
  exact ⟨_, hredact⟩

end ClusterGate
