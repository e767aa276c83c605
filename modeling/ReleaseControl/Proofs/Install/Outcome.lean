import ReleaseControl.Proofs.Install.Exit
import ReleaseControl.Storage.Records

/-!
# What an install records

* `HandedBack`, `CountedFailure`, `Accomplished`: the three records.
* **`reconcile_outcome`**: the record of a call, by the result of its engine and what was written.
-/

namespace ReleaseControl

namespace HelmRelease

/-- The condition of a type has a status and a reason, at the generation of the object. -/
def Says (o : HelmRelease) (type : ConditionType) (status : ConditionStatus) (reason : String) : Prop :=
  ∃ c, o.conditions.get? type = some c ∧ c.status = status ∧ c.reason = reason ∧
    c.observedGeneration = o.generation

/-- The conditions of a type are those of another object. -/
def Keeps (o p : HelmRelease) (type : ConditionType) : Prop :=
  o.conditions.ofType type = p.conditions.ofType type

theorem says_mark (o : HelmRelease) (now : Instant) (type : ConditionType) (status : ConditionStatus)
    (reason message : String) : (o.mark now type status reason message).Says type status reason := by
  obtain ⟨c, hc, hs, hr, -, hg⟩ := o.get?_conditions_mark now type status reason message
  exact ⟨c, hc, hs, hr, hg⟩

theorem Says.of_keeps {o p : HelmRelease} {type : ConditionType} {status : ConditionStatus}
    {reason : String} (h : p.Says type status reason) (hk : o.Keeps p type)
    (hd : o.SameDeclaration p) : o.Says type status reason := by
  obtain ⟨c, hc, hs, hr, hg⟩ := h
  exact ⟨c, (Conditions.get?_congr hk).trans hc, hs, hr, hg.trans hd.generation_eq.symm⟩

theorem keeps_summarize (o : HelmRelease) (now : Instant) {type : ConditionType} (h : type ≠ .ready) :
    (o.summarize now).Keeps o type := o.ofType_conditions_summarize h now

theorem keeps_mark (o : HelmRelease) (now : Instant) {type marked : ConditionType} (h : type ≠ marked)
    (status : ConditionStatus) (reason message : String) :
    (o.mark now marked status reason message).Keeps o type :=
  o.ofType_conditions_mark h now status reason message

theorem Keeps.trans {o p q : HelmRelease} {type : ConditionType} (h : o.Keeps p type)
    (k : p.Keeps q type) : o.Keeps q type := Eq.trans h k

end HelmRelease

namespace Install

variable {σ : Type}

/-! ## Records -/

/-- The error was handed back; counters and conditions are as before, readiness aside. -/
structure HandedBack (r : Request) (e : ActionError) (call : Call σ) : Prop where
  declared : call.object.SameDeclaration r.object
  outcome : call.outcome = .error e
  silent : call.emissions = []
  failures : call.object.statusOrNew.failures = r.object.statusOrNew.failures
  installFailures : call.object.statusOrNew.installFailures = r.object.statusOrNew.installFailures
  keeps : ∀ type, type ≠ .ready → call.object.Keeps r.object type

/-- The failure was counted once, marked, and told of in one warning. -/
structure CountedFailure (r : Request) (call : Call σ) : Prop where
  declared : call.object.SameDeclaration r.object
  outcome : call.outcome = .ok
  failures : call.object.statusOrNew.failures.toInt = r.object.statusOrNew.failures.toInt + 1
  installFailures :
    call.object.statusOrNew.installFailures.toInt = r.object.statusOrNew.installFailures.toInt + 1
  released : call.object.Says .released .false "InstallFailed"
  keepsTests : call.object.Keeps r.object .testSuccess
  keepsRemediation : call.object.Keeps r.object .remediated
  warned : ∃ e, call.emissions = [e] ∧ e.notice.severity = .warning

/-- Tests are awaited after a success: they are enabled, and the release has not been tested. -/
def Awaits (release : Release) (o : HelmRelease) : Prop :=
  o.test.enable = true ∧ (current release o).hasBeenTested = false

/-- The success was marked and told of once; tests are awaited if they are enabled and have not
run. -/
structure Accomplished (r : Request) (release : Release) (call : Call σ) : Prop where
  declared : call.object.SameDeclaration r.object
  outcome : call.outcome = .ok
  failures : call.object.statusOrNew.failures = r.object.statusOrNew.failures
  installFailures : call.object.statusOrNew.installFailures = r.object.statusOrNew.installFailures
  released : call.object.Says .released .true "InstallSucceeded"
  awaited : Awaits release call.object → call.object.Says .testSuccess .unknown "AwaitingTests"
  keepsTests : ¬ Awaits release call.object → call.object.Keeps r.object .testSuccess
  keepsRemediation : call.object.Keeps r.object .remediated
  told : ∃ e, call.emissions = [e] ∧ e.notice.severity = .normal

/-! ## Marking the outcome -/

section Marking

variable (t : Readings) (r : Request)

theorem keeps_merged (rs : List Release) (type : ConditionType) :
    (merged r rs).Keeps r.object type := by
  rw [HelmRelease.Keeps, conditions_merged]

theorem awaits_iff {release : Release} {o p : HelmRelease} (hd : o.SameDeclaration p)
    (hh : o.statusOrNew.history = p.statusOrNew.history) : Awaits release o ↔ Awaits release p := by
  rw [Awaits, Awaits, hd.test_eq, current, current, hh]

theorem statusOrNew_failed (log : LogBuffer) (e : ActionError) (o : HelmRelease) :
    (failed t r log e o).statusOrNew =
      { o.statusOrNew with
        failures := o.statusOrNew.failures + 1
        installFailures := o.statusOrNew.installFailures + 1
        conditions := ((counted o).mark t.released .released .false failedReason
          (failureMessage o r.chart e)).conditions } := rfl

/-! A failure is marked before its notice is given. -/

theorem sameDeclaration_told (log : LogBuffer) (e : ActionError) (o : HelmRelease) :
    (told t r log e o).object.SameDeclaration o := ⟨rfl, rfl⟩

theorem says_told (log : LogBuffer) (e : ActionError) (o : HelmRelease) :
    (told t r log e o).object.Says .released .false failedReason :=
  (counted o).says_mark t.released .released .false failedReason (failureMessage o r.chart e)

theorem keeps_told {type : ConditionType} (h : type ≠ .released) (log : LogBuffer)
    (e : ActionError) (o : HelmRelease) : (told t r log e o).object.Keeps o type :=
  (counted o).keeps_mark t.released h .false failedReason (failureMessage o r.chart e)

/-! It counts towards remediation afterwards, which changes no condition. -/

theorem sameDeclaration_failed (log : LogBuffer) (e : ActionError) (o : HelmRelease) :
    (failed t r log e o).SameDeclaration o := ⟨rfl, rfl⟩

theorem conditions_failed (log : LogBuffer) (e : ActionError) (o : HelmRelease) :
    (failed t r log e o).conditions = (told t r log e o).object.conditions := rfl

theorem keeps_failed_told (log : LogBuffer) (e : ActionError) (o : HelmRelease) (type : ConditionType) :
    (failed t r log e o).Keeps (told t r log e o).object type := by
  rw [HelmRelease.Keeps, conditions_failed]

theorem says_failed (log : LogBuffer) (e : ActionError) (o : HelmRelease) :
    (failed t r log e o).Says .released .false failedReason :=
  (says_told t r log e o).of_keeps (keeps_failed_told t r log e o .released) ⟨rfl, rfl⟩

theorem keeps_failed {type : ConditionType} (h : type ≠ .released) (log : LogBuffer)
    (e : ActionError) (o : HelmRelease) : (failed t r log e o).Keeps o type :=
  (keeps_failed_told t r log e o type).trans (keeps_told t r h log e o)

variable {release : Release} {o : HelmRelease}

theorem succeed_fst_of_awaits (h : Awaits release o) : (succeed t release o).1 =
    (o.mark t.released .released .true succeededReason (successMessage (current release o))).mark
      t.awaited .testSuccess .unknown awaitingReason (awaitingMessage (current release o)) := by
  have hc : (o.test.enable && !(current release o).hasBeenTested) = true := by rw [h.1, h.2]; rfl
  exact if_pos hc

theorem succeed_fst_of_not_awaits (h : ¬ Awaits release o) : (succeed t release o).1 =
    o.mark t.released .released .true succeededReason (successMessage (current release o)) := by
  refine if_neg fun hc => h ?_
  rw [Bool.and_eq_true, Bool.not_eq_true'] at hc
  exact hc

theorem sameDeclaration_succeed (release : Release) (o : HelmRelease) :
    (succeed t release o).1.SameDeclaration o := by
  by_cases h : Awaits release o
  · rw [succeed_fst_of_awaits t h]
    exact ⟨rfl, rfl⟩
  · rw [succeed_fst_of_not_awaits t h]
    exact ⟨rfl, rfl⟩

theorem statusOrNew_succeed (release : Release) (o : HelmRelease) :
    (succeed t release o).1.statusOrNew =
      { o.statusOrNew with conditions := (succeed t release o).1.conditions } := by
  by_cases h : Awaits release o
  · rw [succeed_fst_of_awaits t h]
    rfl
  · rw [succeed_fst_of_not_awaits t h]
    rfl

/-- **The outcome that a success notes**, at the generation of the object. -/
theorem get?_released_succeed (release : Release) (o : HelmRelease) :
    ∃ c, (succeed t release o).1.conditions.get? .released = some c ∧ c.status = .true ∧
      c.reason = succeededReason ∧ c.message = successMessage (current release o) ∧
      c.observedGeneration = o.generation := by
  obtain ⟨c, found, noted⟩ := o.get?_conditions_mark t.released .released .true succeededReason
    (successMessage (current release o))
  refine ⟨c, ?_, noted⟩
  by_cases h : Awaits release o
  · -- noting that tests are awaited leaves the outcome alone
    rw [succeed_fst_of_awaits t h,
      Conditions.get?_congr (HelmRelease.keeps_mark _ _ (by decide) _ _ _), found]
  · rw [succeed_fst_of_not_awaits t h, found]

/-- **The tests that a success awaits**, at the generation of the object. -/
theorem get?_testSuccess_succeed (h : Awaits release o) :
    ∃ c, (succeed t release o).1.conditions.get? .testSuccess = some c ∧ c.status = .unknown ∧
      c.reason = awaitingReason ∧ c.message = awaitingMessage (current release o) ∧
      c.observedGeneration = o.generation := by
  rw [succeed_fst_of_awaits t h]
  exact HelmRelease.get?_conditions_mark _ _ _ _ _ _

theorem says_succeed (release : Release) (o : HelmRelease) :
    (succeed t release o).1.Says .released .true succeededReason := by
  obtain ⟨c, found, status, reason, -, generation⟩ := get?_released_succeed t release o
  have same := (sameDeclaration_succeed t release o).generation_eq
  exact ⟨c, found, status, reason, generation.trans same.symm⟩

theorem says_succeed_of_awaits (h : Awaits release o) :
    (succeed t release o).1.Says .testSuccess .unknown awaitingReason := by
  obtain ⟨c, found, status, reason, -, generation⟩ := get?_testSuccess_succeed t h
  have same := (sameDeclaration_succeed t release o).generation_eq
  exact ⟨c, found, status, reason, generation.trans same.symm⟩

theorem keeps_succeed_of_not_awaits {type : ConditionType} (h : type ≠ .released)
    (hw : ¬ Awaits release o) : (succeed t release o).1.Keeps o type := by
  rw [succeed_fst_of_not_awaits t hw]
  exact HelmRelease.keeps_mark _ _ h _ _ _

theorem keeps_succeed {type : ConditionType} (h₁ : type ≠ .released) (h₂ : type ≠ .testSuccess)
    (release : Release) (o : HelmRelease) : (succeed t release o).1.Keeps o type := by
  by_cases hw : Awaits release o
  · rw [succeed_fst_of_awaits t hw]
    exact (HelmRelease.keeps_mark _ _ h₂ _ _ _).trans (HelmRelease.keeps_mark _ _ h₁ _ _ _)
  · exact keeps_succeed_of_not_awaits t h₁ hw

end Marking

/-! ## The outcome of a call -/

section Call

variable {s : Settings} {engine : Engine} {d : Driver σ} {t : Readings} {token : CancelToken}
  {r : Request} {state : σ} (counters : Counters)

theorem handedBack {e : ActionError} (h : (trace s engine d t token r state).result? = some (.error e))
    (hw : written (journal s engine d t token r state) = []) :
    HandedBack r e (reconcile s engine d t token r counters state) := by
  have hr := (trace_reports s engine d t token r state).trans hw
  rw [reconcile_eq, settle_of_error_nil t r counters h hr]
  generalize (trace s engine d t token r state).reports = rs
  exact {
    declared := ((merged r rs).sameDeclaration_summarize _).trans (sameDeclaration_merged r rs)
    outcome := rfl
    silent := rfl
    failures := by rw [HelmRelease.statusOrNew_summarize, statusOrNew_merged]
    installFailures := by rw [HelmRelease.statusOrNew_summarize, statusOrNew_merged]
    keeps := fun type ht => ((merged r rs).keeps_summarize _ ht).trans (keeps_merged r rs type) }

theorem countedFailure {e : ActionError}
    (room : r.object.statusOrNew.failures ≠ Int64.maxValue)
    (roomInstall : r.object.statusOrNew.installFailures ≠ Int64.maxValue)
    (h : (trace s engine d t token r state).result? = some (.error e))
    (hw : written (journal s engine d t token r state) ≠ []) :
    CountedFailure r (reconcile s engine d t token r counters state) := by
  have hr : (trace s engine d t token r state).reports ≠ [] := by rwa [trace_reports]
  rw [reconcile_eq, settle_failed t r counters h hr room roomInstall]
  generalize (trace s engine d t token r state).reports = rs
  generalize (trace s engine d t token r state).log = log
  have hd : ((failed t r log e (merged r rs)).summarize t.summarized).SameDeclaration r.object :=
    ((HelmRelease.sameDeclaration_summarize _ _).trans (sameDeclaration_failed t r log e _)).trans
      (sameDeclaration_merged r rs)
  have keeps : ∀ type, type ≠ .ready → type ≠ .released →
      ((failed t r log e (merged r rs)).summarize t.summarized).Keeps r.object type := fun type h₁ h₂ =>
    ((HelmRelease.keeps_summarize _ _ h₁).trans (keeps_failed t r h₂ log e _)).trans
      (keeps_merged r rs type)
  exact {
    declared := hd
    outcome := rfl
    failures := by
      rw [HelmRelease.statusOrNew_summarize, statusOrNew_failed, statusOrNew_merged]
      exact toInt_add_one room
    installFailures := by
      rw [HelmRelease.statusOrNew_summarize, statusOrNew_failed, statusOrNew_merged]
      exact toInt_add_one roomInstall
    released := (says_failed t r log e (merged r rs)).of_keeps
      (HelmRelease.keeps_summarize _ _ (by decide)) (HelmRelease.sameDeclaration_summarize _ _)
    keepsTests := keeps _ (by decide) (by decide)
    keepsRemediation := keeps _ (by decide) (by decide)
    warned := ⟨_, rfl, rfl⟩ }

theorem accomplished {release : Release}
    (h : (trace s engine d t token r state).result? = some (.ok release)) :
    Accomplished r release (reconcile s engine d t token r counters state) := by
  rw [reconcile_eq, settle_of_ok t r counters h]
  generalize (trace s engine d t token r state).reports = rs
  have hd := sameDeclaration_succeed t release (merged r rs)
  have hs := statusOrNew_succeed t release (merged r rs)
  have ha : Awaits release ((succeed t release (merged r rs)).1.summarize t.summarized) ↔
      Awaits release (merged r rs) := by
    refine awaits_iff ((HelmRelease.sameDeclaration_summarize _ _).trans hd) ?_
    rw [HelmRelease.statusOrNew_summarize, hs]
  have hsum : ∀ type, type ≠ .ready →
      ((succeed t release (merged r rs)).1.summarize t.summarized).Keeps
        (succeed t release (merged r rs)).1 type := fun _ ht => HelmRelease.keeps_summarize _ _ ht
  exact {
    declared := ((HelmRelease.sameDeclaration_summarize _ _).trans hd).trans (sameDeclaration_merged r rs)
    outcome := rfl
    failures := by rw [HelmRelease.statusOrNew_summarize, hs, statusOrNew_merged]
    installFailures := by rw [HelmRelease.statusOrNew_summarize, hs, statusOrNew_merged]
    released := (says_succeed t release _).of_keeps (hsum .released (by decide))
      (HelmRelease.sameDeclaration_summarize _ _)
    awaited := fun hw => (says_succeed_of_awaits t (ha.1 hw)).of_keeps (hsum .testSuccess (by decide))
      (HelmRelease.sameDeclaration_summarize _ _)
    keepsTests := fun hw => ((hsum .testSuccess (by decide)).trans
      (keeps_succeed_of_not_awaits t (by decide) fun hm => hw (ha.2 hm))).trans (keeps_merged r rs _)
    keepsRemediation := ((hsum .remediated (by decide)).trans
      (keeps_succeed t (by decide) (by decide) release _)).trans (keeps_merged r rs _)
    told := ⟨_, rfl, rfl⟩ }

end Call

/-- **The record of a call.** An error without a write is handed back, an error after a write is
counted, and a success is noted; what any other step of the engine got for an answer does not
matter. -/
theorem reconcile_outcome (s : Settings) (engine : Engine) (d : Driver σ) (t : Readings)
    (token : CancelToken) (r : Request) (counters : Counters) (state : σ)
    (below : r.object.statusOrNew.failures < Int64.maxValue)
    (belowInstall : r.object.statusOrNew.installFailures < Int64.maxValue) :
    (∀ e, (trace s engine d t token r state).result? = some (.error e) →
      (∀ x ∈ journal s engine d t token r state, ¬ x.Wrote) →
        HandedBack r e (reconcile s engine d t token r counters state)) ∧
    (∀ e, (trace s engine d t token r state).result? = some (.error e) →
      (∃ x ∈ journal s engine d t token r state, x.Wrote) →
        CountedFailure r (reconcile s engine d t token r counters state)) ∧
    (∀ release, (trace s engine d t token r state).result? = some (.ok release) →
      Accomplished r release (reconcile s engine d t token r counters state)) :=
  ⟨fun _ h hw => handedBack counters h (written_eq_nil.2 hw),
    fun _ h hw => countedFailure counters (Int64.ne_of_lt below) (Int64.ne_of_lt belowInstall) h
      (written_ne_nil.2 hw),
    fun _ h => accomplished counters h⟩

/-! ### A call that times out

The object already failed twice, has a test result from before and lists `Released` a second time.
The engine deletes what is not there, stores a record and then fails. -/

namespace Sample

def chart : Chart := ⟨{ name := "podinfo", version := "6.5.4" }⟩

def pending : Release where
  name := "podinfo"
  ns := "apps"
  version := 1
  chart := chart.metadata
  config := .null
  status := .pendingInstall

/-- A status with a test result from before and two outcomes of release actions. -/
def status : HelmReleaseStatus where
  failures := 2
  installFailures := 1
  conditions :=
    [{ type := .released, status := .true }, { type := .testSuccess, status := .true },
      { type := .released, status := .unknown }]

def request : Request where
  object :=
    { metadata := { name := some "podinfo", ns := some "apps", generation := some 3 }
      spec := { chart := { name := "podinfo" }, test := some { enable := true } }
      status := some status }
  chart := chart
  values := .null

def readings : Readings := ⟨fun _ => default, default, default, default⟩

def timeout : ActionError := .failed "timed out waiting for the condition"

/-- Deletes what is not there, stores a record and fails. -/
def engine : Engine := fun _ =>
  .log "creating 1 resource(s)" (.storage (.delete "absent") fun _ =>
    .storage (.create pending.key pending) fun _ => .finish (.error timeout))

end Sample

theorem reconcile_outcome_timeout :
    Sample.status.failures < Int64.maxValue ∧ Sample.status.installFailures < Int64.maxValue ∧
      CountedFailure Sample.request
        (reconcile {} Sample.engine Records.driver Sample.readings {} Sample.request {} Table.empty) :=
  ⟨by decide, by decide,
    (reconcile_outcome {} Sample.engine Records.driver Sample.readings {} Sample.request {} Table.empty
      (by decide) (by decide)).2.1 Sample.timeout rfl
        ⟨.performed default (.create Sample.pending.key Sample.pending) (.ok ()),
          .tail _ (.tail _ (.head _)), Option.some_ne_none _⟩⟩

end Install

end ReleaseControl
