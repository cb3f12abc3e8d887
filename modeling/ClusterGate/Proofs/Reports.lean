import Mathlib.Data.List.Basic
import ClusterGate.Gate

/-!
# What the reports of a gate tell about responses

A report on a response holds the number of its roots that are left, and
nothing else of the response. So two responses are reported alike exactly if
they have as many roots left (`Gate.records_redact_eq_iff`), and the whole log
of two runs is the same if they go through the same inputs and APIs and have as
many roots left at each redaction (`log_eq_of_alike`).
-/

namespace ClusterGate

namespace Gate

variable {gate : Gate} {api : Api} {raw other : Json}

/-! ## One redaction -/

/-- How many roots a gate leaves of a response. An outcome that is no object
has none, and so has a redaction that fails. -/
def rootsLeft (gate : Gate) (api : Api) (raw : Json) : Nat :=
  match (gate.redact api raw).result with
  | .ok filtered => filtered.rootCount
  | .error _ => 0

theorem redactedRecord_eq_iff {filtered filtered' : Json} :
    redactedRecord api filtered = redactedRecord api filtered' ↔
      filtered.rootCount = filtered'.rootCount := by
  constructor
  · intro h
    have hcount :
        toString filtered.rootCount = toString filtered'.rootCount := by
      simpa [redactedRecord, entry, LogValue.count] using h
    rw [Nat.toString_eq_ofList_toDigits, Nat.toString_eq_ofList_toDigits,
      String.ofList_inj] at hcount
    rw [← Nat.ofDigitChars_ten_toDigits (n := filtered.rootCount), hcount,
      Nat.ofDigitChars_ten_toDigits]
  · intro h
    rw [redactedRecord, redactedRecord, h]

/-- **Reports on responses.** Two responses of one API are reported alike
exactly if they have as many roots left. -/
theorem records_redact_eq_iff :
    (gate.redact api raw).records = (gate.redact api other).records ↔
      gate.rootsLeft api raw = gate.rootsLeft api other := by
  unfold rootsLeft redact
  cases gate.allowLists.forApi api with
  | ok list =>
      rw [List.singleton_inj]
      exact redactedRecord_eq_iff
  | error e => exact iff_of_true rfl rfl

/-! ## Runs -/

/-- What a gate is asked to do. -/
inductive Task where
  | classify (input : CallerInput)
  | redact (api : Api) (raw : Json)

/-- The records that a task leads to. -/
def recordsOf (gate : Gate) : Task → List LogRecord
  | .classify input => (gate.classify input).records
  | .redact api raw => (gate.redact api raw).records

/-- The log after one more task. -/
def logTask (gate : Gate) (log : List LogRecord) (task : Task) :
    List LogRecord :=
  log ++ gate.recordsOf task

/-- The log after a sequence of tasks. -/
def logTasks (gate : Gate) (log : List LogRecord) (tasks : List Task) :
    List LogRecord :=
  tasks.foldl gate.logTask log

/-- Two tasks that differ at most in a response, of which as many roots are
left. -/
inductive Task.Alike (gate : Gate) : Task → Task → Prop
  | classify (input : CallerInput) :
      Alike gate (.classify input) (.classify input)
  | redact {api : Api} {raw other : Json}
      (h : gate.rootsLeft api raw = gate.rootsLeft api other) :
      Alike gate (.redact api raw) (.redact api other)

theorem logTask_eq_of_alike {task task' : Task} (log : List LogRecord)
    (h : task.Alike gate task') :
    gate.logTask log task = gate.logTask log task' := by
  cases h with
  | classify input => rfl
  | redact hroots =>
      exact congrArg (log ++ ·) (records_redact_eq_iff.mpr hroots)

theorem logTasks_eq_of_forall₂ {tasks tasks' : List Task}
    (h : List.Forall₂ (Task.Alike gate) tasks tasks') (log : List LogRecord) :
    gate.logTasks log tasks = gate.logTasks log tasks' := by
  induction h generalizing log with
  | nil => rfl
  | cons htask _ ih =>
      rw [logTasks, List.foldl_cons, logTask_eq_of_alike log htask]
      exact ih _

end Gate

/-- **Responses do not reach the log.** Of a response the records tell how many
roots are left and no more. Two runs of a gate that classify the same inputs
and redact responses of the same APIs, with as many roots left each time, have
the same log. -/
theorem log_eq_of_alike (gate : Gate) :
    (∀ api raw other, (gate.redact api raw).records =
      (gate.redact api other).records ↔
        gate.rootsLeft api raw = gate.rootsLeft api other) ∧
    ∀ log tasks tasks', List.Forall₂ (Gate.Task.Alike gate) tasks tasks' →
      gate.logTasks log tasks = gate.logTasks log tasks' :=
  ⟨fun _ _ _ => Gate.records_redact_eq_iff,
    fun log _ _ h => Gate.logTasks_eq_of_forall₂ h log⟩

/-- A gate that lets one root of the settings through and has no allow-list for
any other API. -/
def settingsGate : Gate :=
  ⟨.full clusterTable,
    AllowLists.empty.withEntry "/_cluster/settings"
      (AllowList.empty.allowRoot "persistent")⟩

def secretSettings : Json :=
  .obj [("persistent", .obj [("password", .str "secret")]),
    ("transient", .obj [])]

def bareSettings : Json := .obj [("persistent", .null)]

/-- Classifies a path and redacts the same response for two APIs. -/
def settingsTasks (raw : Json) : List Gate.Task :=
  [.classify (.ofPath "/_cluster/settings"),
    .redact ClusterApi.clusterSettings.entry raw,
    .redact ClusterApi.catTasks.entry raw]

theorem log_eq_of_alike_settings :
    (settingsGate.redact ClusterApi.clusterSettings.entry
      secretSettings).result ≠
        (settingsGate.redact ClusterApi.clusterSettings.entry
          bareSettings).result ∧
      settingsGate.rootsLeft ClusterApi.clusterSettings.entry
        secretSettings = 1 ∧
      settingsGate.rootsLeft ClusterApi.clusterSettings.entry bareSettings = 1 ∧
      settingsGate.rootsLeft ClusterApi.catTasks.entry secretSettings = 0 ∧
      settingsGate.logTasks [] (settingsTasks secretSettings) =
        settingsGate.logTasks [] (settingsTasks bareSettings) := by
  refine ⟨by decide, rfl, rfl, rfl, (log_eq_of_alike settingsGate).2 _ _ _ ?_⟩
  exact .cons (.classify _) (.cons (.redact rfl) (.cons (.redact rfl) .nil))

end ClusterGate
