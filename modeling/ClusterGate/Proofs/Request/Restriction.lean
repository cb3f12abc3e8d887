import ClusterGate.Api.Cluster
import ClusterGate.Proofs.Request.Canonical
import ClusterGate.Proofs.Request.Located

/-!
# APIs that are switched off

A catalog may be limited to some of the APIs of a set. Requests to these
are answered as by the whole set, and so is whatever fails before an API is
looked for or belongs to none.

A request to another API is not always refused. Where the beginning that is
matched for one API begins that of another one, switching the first off
uncovers the second. In a set without such pairs (`ApiTable.PrefixFree`), as
the cluster APIs are one, nothing is uncovered.
-/

namespace ClusterGate

/-- No beginning that is matched for an API begins that of another one. -/
def ApiTable.PrefixFree (table : ApiTable) : Prop :=
  ∀ e ∈ table.routable, ∀ d ∈ table.routable, e.1 ≠ d.1 →
    ¬ e.2.lead.toList <+: d.2.lead.toList

theorem prefixFree_clusterTable : clusterTable.PrefixFree := by
  unfold ApiTable.PrefixFree
  decide

namespace Catalog

variable {table : ApiTable} {wanted others : List Api} {path : String}
  {e : Api × Route}

/-- Of a restricted catalog the first wanted entry is found. -/
theorem findEntry?_restrictedTo (table : ApiTable) (wanted : List Api)
    (path : String) :
    Catalog.findEntry? (restrictedTo table wanted) path =
      table.routable.find? fun e => e.1 ∈ wanted ∧ e.2.covers path = true := by
  unfold findEntry?
  rw [restrictedTo, List.find?_filter]
  simp only [decide_eq_true_eq]

theorem findEntry?_restrictedTo_of_none
    (h : Catalog.findEntry? (full table) path = none) :
    Catalog.findEntry? (restrictedTo table wanted) path = none := by
  rw [findEntry?_restrictedTo, List.find?_eq_none]
  intro d hd hmatch
  exact List.find?_eq_none.mp h d hd (of_decide_eq_true hmatch).2

/-- The first entry stays the first one. -/
theorem findEntry?_restrictedTo_of_mem
    (h : Catalog.findEntry? (full table) path = some e) (hmem : e.1 ∈ wanted) :
    Catalog.findEntry? (restrictedTo table wanted) path = some e := by
  obtain ⟨hcovers, before, after, hentries, hbefore⟩ :=
    List.find?_eq_some_iff_append.mp h
  rw [findEntry?_restrictedTo, List.find?_eq_some_iff_append]
  refine ⟨decide_eq_true ⟨hmem, hcovers⟩, before, after, hentries,
    fun d hd => ?_⟩
  have hnot : d.2.covers path = false := by simpa using hbefore d hd
  simp [hnot]

/-- Where nothing is uncovered, no other entry is found in the place of one
that is switched off: of two entries that cover a path, the beginning of one
begins that of the other. -/
theorem findEntry?_restrictedTo_of_notMem (hfree : table.PrefixFree)
    (h : Catalog.findEntry? (full table) path = some e) (hnot : e.1 ∉ wanted) :
    Catalog.findEntry? (restrictedTo table wanted) path = none := by
  rw [findEntry?_restrictedTo, List.find?_eq_none]
  intro d hd hmatch
  obtain ⟨hwanted, hcovers⟩ := of_decide_eq_true hmatch
  have hne : e.1 ≠ d.1 := fun heq => hnot (heq ▸ hwanted)
  have hfirst : (full table).FirstMatch path e.1 e.2 :=
    findEntry?_eq_some_iff.mp h
  have he : e ∈ table.routable := hfirst.mem
  obtain ⟨-, -, -, hlead, -⟩ := hfirst
  have hlead' : d.2.lead.toList <+: path.toList :=
    List.isPrefixOf_iff_prefix.mp hcovers
  rcases List.prefix_or_prefix_of_prefix hlead hlead' with hpre | hpre
  · exact hfree e he d hd hne hpre
  · exact hfree d hd e he hne.symm hpre

theorem restrictedTo_congr
    (h : ∀ api ∈ table.apis, api ∈ wanted ↔ api ∈ others) :
    restrictedTo table wanted = restrictedTo table others := by
  refine congrArg Catalog.mk (List.filter_congr fun d hd => ?_)
  obtain ⟨api, route⟩ := d
  exact decide_eq_decide.mpr (h api (ApiTable.mem_routable_iff.mp hd).1)

end Catalog

/-- **Switching APIs off.** Whatever fails before an API is looked for,
belongs to no API, or belongs to one that is still on, is answered as by the
whole set. Whatever belongs to another one is refused if no beginning begins
another. Order and repetitions of the wanted APIs do not matter. -/
theorem classify_restrictedTo (table : ApiTable) (wanted : List Api)
    (input : CallerInput) :
    (∀ reason, input.locate = .error reason →
      (Catalog.full table).classify input = .error reason ∧
        (Catalog.restrictedTo table wanted).classify input = .error reason) ∧
    (∀ found, input.locate = .ok found →
      (input.targetUri = .ok found.uri ∧
        Utf8.decode (Percent.decode found.uri.path.toList) =
          .ok found.path.toList) ∧
      ((Catalog.full table).find? found.path = none →
        (Catalog.full table).classify input =
          .error (.unsupportedApi found.path) ∧
          (Catalog.restrictedTo table wanted).classify input =
            .error (.unsupportedApi found.path)) ∧
      ∀ api, (Catalog.full table).find? found.path = some api →
        (api ∈ wanted → (Catalog.restrictedTo table wanted).classify input =
          (Catalog.full table).classify input) ∧
        (table.PrefixFree → api ∉ wanted →
          (Catalog.restrictedTo table wanted).classify input =
            .error (.unsupportedApi found.path))) ∧
    (∀ others, (∀ api ∈ table.apis, api ∈ wanted ↔ api ∈ others) →
      (Catalog.restrictedTo table wanted).classify input =
        (Catalog.restrictedTo table others).classify input) ∧
    clusterTable.PrefixFree := by
  refine ⟨fun reason h => ⟨classify_of_locate_error h _,
    classify_of_locate_error h _⟩,
    fun found h =>
      ⟨CallerInput.locate_eq_ok h, fun hnone => ?_, fun api hapi => ?_⟩,
    fun others hothers => by
      rw [Catalog.restrictedTo_congr hothers], prefixFree_clusterTable⟩
  · have hfull : Catalog.findEntry? (Catalog.full table) found.path = none :=
      Option.map_eq_none_iff.mp hnone
    rw [classify_of_locate_ok h, classify_of_locate_ok h]
    exact ⟨Catalog.settle_of_none hfull,
      Catalog.settle_of_none (Catalog.findEntry?_restrictedTo_of_none hfull)⟩
  · obtain ⟨e, he, rfl⟩ := Option.map_eq_some_iff.mp hapi
    rw [classify_of_locate_ok h, classify_of_locate_ok h]
    constructor
    · intro hmem
      exact Catalog.settle_congr
        ((Catalog.findEntry?_restrictedTo_of_mem he hmem).trans he.symm)
    · intro hfree hnot
      exact Catalog.settle_of_none
        (Catalog.findEntry?_restrictedTo_of_notMem hfree he hnot)

set_option maxRecDepth 2000 in
/-- A request for recoveries, where only these are on, with the sentinel and a
repetition, and where only node statistics are. -/
theorem classify_restrictedTo_recovery :
    ∃ found r, recoveryInput.locate = .ok found ∧
      found.path = "/_cat/recovery/a,b/" ∧
      (Catalog.full clusterTable).find? found.path =
        some ClusterApi.catRecovery.entry ∧
      (Catalog.full clusterTable).classify recoveryInput = .ok r ∧
      (Catalog.restrictedTo clusterTable [ClusterApi.catRecovery.entry,
        ClusterApi.blank.entry, ClusterApi.catRecovery.entry]).classify
          recoveryInput = .ok r ∧
      (Catalog.restrictedTo clusterTable [ClusterApi.nodesStats.entry]).classify
        recoveryInput = .error (.unsupportedApi "/_cat/recovery/a,b/") := by
  obtain ⟨found, hfound, hpath, hapi⟩ :
      ∃ found, recoveryInput.locate = .ok found ∧
        found.path = "/_cat/recovery/a,b/" ∧
        (Catalog.full clusterTable).find? found.path =
          some ClusterApi.catRecovery.entry :=
    ⟨_, rfl, rfl, rfl⟩
  obtain ⟨r, hr⟩ : ∃ r, (Catalog.full clusterTable).classify recoveryInput =
      .ok r := ⟨_, rfl⟩
  obtain ⟨-, hon, -⟩ := classify_restrictedTo clusterTable
    [ClusterApi.catRecovery.entry, ClusterApi.blank.entry,
      ClusterApi.catRecovery.entry]
    recoveryInput
  obtain ⟨-, hoff, -⟩ :=
    classify_restrictedTo clusterTable [ClusterApi.nodesStats.entry]
      recoveryInput
  obtain ⟨-, -, hsame⟩ := hon found hfound
  obtain ⟨-, -, hrefused⟩ := hoff found hfound
  refine ⟨found, r, hfound, hpath, hapi, hr, ?_, ?_⟩
  · rw [(hsame _ hapi).1 List.mem_cons_self, hr]
  · rw [(hrefused _ hapi).2 prefixFree_clusterTable (by decide), hpath]

end ClusterGate
