import JanusGate.Daemon.PolicyStatsCollector

/-!
# Policy generations of the daemon runtime

The part of `daemon_runtime.c` that publishes policy generations.  The
generation is kept by the runtime, by the snapshot in the policy store and by
the statistics collector, which accepts events of one generation only.
-/

namespace JanusGate

open Runs

/-- The published generation, the generation of the stored snapshot and the
collector. -/
structure DaemonRuntime where
  policyGeneration : Nat
  storeGeneration : Nat
  collector : PolicyStatsCollector

/-- The results of what one operation calls outside this model.  `begins` and
`finishes` are the ends of a reconciliation, `load` reads the candidate from
the database, `dnsUpdate` and `dnsRestore` change the responses of the workers
when `dnsChanged`, `replace` exchanges the snapshot of the store, and
`storage` refreshes the collector's storage counters. -/
structure RuntimeCalls where
  begins : Int := 0
  finishes : Int := 0
  load : Int := 0
  dnsChanged : Bool := false
  dnsUpdate : Int := 0
  dnsRestore : Int := 0
  replace : Int := 0
  storage : Int := 0
  deriving DecidableEq

variable (runtime : DaemonRuntime)

namespace DaemonRuntime

open PolicyStats

/-- `JG_POLICY_STATS_QUEUE_DEFAULT`. -/
def queueDefault : Nat := 4096

def started (collector : PolicyStatsCollector) : DaemonRuntime where
  policyGeneration := 1
  storeGeneration := 1
  collector := (policyStatsCollectorStart collector).1

def publish (generation : Nat) : DaemonRuntime :=
  { runtime with
    policyGeneration := generation
    storeGeneration := generation }

def publishNext (calls : RuntimeCalls) : DaemonRuntime × Int :=
  if runtime.policyGeneration = uint64Max then (runtime, eOverflow)
  else if calls.load ≠ 0 then (runtime, calls.load)
  else if calls.replace ≠ 0 then (runtime, calls.replace)
  else (publish runtime (runtime.policyGeneration + 1), 0)

def finishReconciliation (operationResult : Int) (calls : RuntimeCalls) : Int :=
  if operationResult ≠ 0 then operationResult else calls.finishes

end DaemonRuntime

open PolicyStats DaemonRuntime

/-- Publish policy read through one caller-selected database connection. -/
def runtimeReloadPolicyFromDatabase (calls : RuntimeCalls) : DaemonRuntime × Int :=
  let (collector, paused) := policyStatsCollectorPause runtime.collector false
  let runtime := { runtime with collector := collector }
  if paused ≠ 0 ∧ paused ≠ eAlready ∧ paused ≠ eCanceled then (runtime, paused)
  else
    let (runtime, result) := publishNext runtime calls
    if paused = 0 then
      let (collector, resumed) :=
        policyStatsCollectorResume runtime.collector runtime.policyGeneration calls.storage
      ({ runtime with collector := collector }, if result = 0 then resumed else result)
    else (runtime, result)

def runtimeReloadPolicy (calls : RuntimeCalls) : DaemonRuntime × Int :=
  if calls.begins ≠ 0 then (runtime, calls.begins)
  else
    let (runtime, result) := runtimeReloadPolicyFromDatabase runtime calls
    (runtime, finishReconciliation result calls)

/-- Publish persistent policy and DNS response settings, without the collector. -/
def runtimeReloadConfiguration (calls : RuntimeCalls) : DaemonRuntime × Int :=
  if calls.begins ≠ 0 then (runtime, calls.begins)
  else if runtime.policyGeneration = uint64Max then (runtime, finishReconciliation eOverflow calls)
  else if calls.load ≠ 0 then (runtime, finishReconciliation calls.load calls)
  else if calls.dnsChanged ∧ calls.dnsUpdate ≠ 0 then
    (runtime, finishReconciliation (if calls.dnsRestore ≠ 0 then eIo else calls.dnsUpdate) calls)
  else if calls.replace ≠ 0 then
    (runtime, finishReconciliation (if calls.dnsChanged ∧ calls.dnsRestore ≠ 0 then eIo
        else calls.replace) calls)
  else (publish runtime (runtime.policyGeneration + 1), finishReconciliation 0 calls)

def runtimePausePolicyStatistics : DaemonRuntime × Int :=
  let (collector, result) := policyStatsCollectorPause runtime.collector true
  ({ runtime with collector := collector }, if result = eCanceled then 0 else result)

def runtimeResumePolicyStatistics (storage : Int) : DaemonRuntime × Int :=
  let (collector, result) :=
    policyStatsCollectorResume runtime.collector runtime.policyGeneration storage
  ({ runtime with collector := collector },
    if result = eAlready ∨ result = eCanceled then 0 else result)

namespace DaemonRuntime

/-! ## Runs of the runtime -/

/-- One operation of the runtime, one submission of a worker or one round of
the statistics writer. -/
inductive RuntimeInput where
  | reloadPolicyFromDatabase (calls : RuntimeCalls)
  | reloadPolicy (calls : RuntimeCalls)
  | reloadConfiguration (calls : RuntimeCalls)
  | pauseStatistics
  | resumeStatistics (storage : Int)
  | submit (event : PolicyStatsEvent) (trylock : Int)
  | write (written storage : Int)

def runtimeStep : RuntimeInput → DaemonRuntime × Int
  | .reloadPolicyFromDatabase calls => runtimeReloadPolicyFromDatabase runtime calls
  | .reloadPolicy calls => runtimeReloadPolicy runtime calls
  | .reloadConfiguration calls => runtimeReloadConfiguration runtime calls
  | .pauseStatistics => runtimePausePolicyStatistics runtime
  | .resumeStatistics storage => runtimeResumePolicyStatistics runtime storage
  | .submit event trylock =>
    let (collector, result) := policyStatsCollectorSubmit runtime.collector event trylock
    ({ runtime with collector := collector }, result)
  | .write written storage =>
    ({ runtime with collector := writerRound runtime.collector (fun _ _ => written) storage }, 0)

abbrev RuntimeEvent := Event DaemonRuntime RuntimeInput Int

/-- Operations of the runtime succeed; a submission may be refused. -/
def Succeeds (event : RuntimeEvent) : Prop :=
  match event.input with
  | .submit _ _ | .write _ _ => True
  | _ => event.answer = 0

instance : ∀ event : RuntimeEvent, Decidable (Succeeds event)
  | ⟨_, .reloadPolicyFromDatabase _, answer, _⟩
  | ⟨_, .reloadPolicy _, answer, _⟩
  | ⟨_, .reloadConfiguration _, answer, _⟩
  | ⟨_, .pauseStatistics, answer, _⟩
  | ⟨_, .resumeStatistics _, answer, _⟩ => inferInstanceAs (Decidable (answer = 0))
  | ⟨_, .submit _ _, _, _⟩ | ⟨_, .write _ _, _, _⟩ => .isTrue trivial

def restoring : Bool := runtime.collector.paused && runtime.collector.restorePause

/-- The collector runs and accepts the published generation. -/
structure Follows (runtime : DaemonRuntime) : Prop where
  running : runtime.collector.started = true ∧
    runtime.collector.stopping = false ∧ runtime.collector.paused = false
  published : runtime.collector.generation = runtime.policyGeneration
  stored : runtime.storeGeneration = runtime.policyGeneration

/-- A configuration is reloaded only while the collector is paused for a
restore. -/
def ReloadsWhileRestoring (runtime : DaemonRuntime) (input : RuntimeInput) : Prop :=
  match input with
  | .reloadConfiguration _ => restoring runtime = true
  | _ => True

instance : ∀ runtime input, Decidable (ReloadsWhileRestoring runtime input)
  | runtime, .reloadConfiguration _ => inferInstanceAs (Decidable (restoring runtime = true))
  | _, .reloadPolicyFromDatabase _ | _, .reloadPolicy _
  | _, .pauseStatistics | _, .resumeStatistics _
  | _, .submit _ _ | _, .write _ _ => .isTrue trivial

/-! ## One operation -/

/-- What the runtime keeps between its operations. -/
structure Steady (runtime : DaemonRuntime) : Prop where
  started : runtime.collector.started = true
  stopping : runtime.collector.stopping = false
  positive : runtime.policyGeneration ≠ 0
  stored : runtime.storeGeneration = runtime.policyGeneration
  restore : runtime.collector.paused = true → runtime.collector.restorePause = true
  followed : runtime.collector.paused = false →
    runtime.collector.generation = runtime.policyGeneration

variable {runtime : DaemonRuntime} {collector : PolicyStatsCollector} {calls : RuntimeCalls}

theorem Steady.follows (steady : Steady runtime) (collecting : restoring runtime = false) :
    Follows runtime := by
  have running : runtime.collector.paused = false := by
    cases paused : runtime.collector.paused with
    | false => rfl
    | true => simp [restoring, paused, steady.restore paused] at collecting
  exact ⟨⟨steady.started, steady.stopping, running⟩, steady.followed running, steady.stored⟩

theorem Steady.started_runtime (created : policyStatsCollectorCreate capacity 1 = .ok collector) :
    Steady (DaemonRuntime.started collector) := by
  unfold policyStatsCollectorCreate at created
  split at created
  · cases created
  · obtain rfl := Except.ok.inj created
    constructor <;> simp [DaemonRuntime.started, policyStatsCollectorStart]

theorem pause_running (started : collector.started = true) (stopping : collector.stopping = false)
    (running : collector.paused = false) :
    (policyStatsCollectorPause collector restore).2 = 0 ∧
      (policyStatsCollectorPause collector restore).1.started = true ∧
      (policyStatsCollectorPause collector restore).1.stopping = false ∧
      (policyStatsCollectorPause collector restore).1.paused = true ∧
      (policyStatsCollectorPause collector restore).1.restorePause = restore := by
  cases restore <;> simp [policyStatsCollectorPause, started, stopping, running]

theorem pause_paused (started : collector.started = true) (stopping : collector.stopping = false)
    (paused : collector.paused = true) :
    policyStatsCollectorPause collector restore = (collector, eAlready) := by
  simp [policyStatsCollectorPause, started, stopping, paused]

theorem resume_paused (started : collector.started = true) (stopping : collector.stopping = false)
    (paused : collector.paused = true) (positive : generation ≠ 0)
    (succeeded : (policyStatsCollectorResume collector generation storage).2 = 0) :
    (policyStatsCollectorResume collector generation storage).1 =
      { collector with generation := generation, paused := false, restorePause := false } := by
  by_cases refreshed : storage = 0
  · simp [policyStatsCollectorResume, started, stopping, paused, positive, refreshed]
  · simp [policyStatsCollectorResume, started, stopping, paused, positive, refreshed] at succeeded

theorem publishNext_ok (succeeded : (publishNext runtime calls).2 = 0) :
    (publishNext runtime calls).1 = publish runtime (runtime.policyGeneration + 1) := by
  by_cases full : runtime.policyGeneration = uint64Max
  · simp [publishNext, full, eOverflow] at succeeded
  by_cases loaded : calls.load = 0
  · by_cases replaced : calls.replace = 0
    · simp [publishNext, full, loaded, replaced]
    · simp [publishNext, full, loaded, replaced] at succeeded
  · simp [publishNext, full, loaded] at succeeded

theorem Steady.publish (steady : Steady runtime) (paused : runtime.collector.paused = true) :
    Steady (publish runtime (runtime.policyGeneration + 1)) where
  started := steady.started
  stopping := steady.stopping
  positive := Nat.succ_ne_zero _
  stored := rfl
  restore := steady.restore
  followed := by
    intro running
    exact absurd (paused.symm.trans running) (by decide)

theorem Steady.reloadPolicyFromDatabase (steady : Steady runtime)
    (succeeded : (runtimeReloadPolicyFromDatabase runtime calls).2 = 0) :
    Steady (runtimeReloadPolicyFromDatabase runtime calls).1 := by
  cases paused : runtime.collector.paused with
  | true =>
    have already := @pause_paused _ false steady.started steady.stopping paused
    have reload : runtimeReloadPolicyFromDatabase runtime calls = publishNext runtime calls := by
      simp [runtimeReloadPolicyFromDatabase, already, eAlready]
    rw [reload] at succeeded ⊢
    rw [publishNext_ok succeeded]
    exact steady.publish paused
  | false =>
    obtain ⟨done, started, stopping, nowPaused, _⟩ :=
      @pause_running _ false steady.started steady.stopping paused
    rcases pauses : policyStatsCollectorPause runtime.collector false with ⟨collector, result⟩
    rw [pauses] at done started stopping nowPaused
    subst done
    simp only [runtimeReloadPolicyFromDatabase, pauses, ne_eq,
      not_true_eq_false, false_and, if_false, if_true] at succeeded ⊢
    by_cases published : (publishNext { runtime with collector := collector } calls).2 = 0
    · have next := publishNext_ok published
      simp only [published, if_true, next, DaemonRuntime.publish] at succeeded ⊢
      rw [resume_paused started stopping nowPaused (Nat.succ_ne_zero _) succeeded]
      constructor
      · exact started
      · exact stopping
      · exact Nat.succ_ne_zero _
      · rfl
      · intro stillPaused
        cases stillPaused
      · intro _
        rfl
    · simp only [published, if_false] at succeeded

theorem Steady.reloadPolicy (steady : Steady runtime)
    (succeeded : (runtimeReloadPolicy runtime calls).2 = 0) :
    Steady (runtimeReloadPolicy runtime calls).1 := by
  by_cases begun : calls.begins = 0
  · by_cases reloaded : (runtimeReloadPolicyFromDatabase runtime calls).2 = 0
    · simp only [runtimeReloadPolicy, begun, ne_eq, not_true_eq_false, if_false]
      exact steady.reloadPolicyFromDatabase reloaded
    · simp [runtimeReloadPolicy, begun, finishReconciliation, reloaded] at succeeded
  · simp [runtimeReloadPolicy, begun] at succeeded

theorem reloadConfiguration_ok (succeeded : (runtimeReloadConfiguration runtime calls).2 = 0) :
    (runtimeReloadConfiguration runtime calls).1 =
      publish runtime (runtime.policyGeneration + 1) := by
  unfold runtimeReloadConfiguration finishReconciliation at succeeded ⊢
  split_ifs at succeeded ⊢ <;> simp_all [eOverflow, eIo]

theorem Steady.pauseStatistics (steady : Steady runtime) :
    Steady (runtimePausePolicyStatistics runtime).1 := by
  cases paused : runtime.collector.paused with
  | true =>
    have already := @pause_paused _ true steady.started steady.stopping paused
    simpa [runtimePausePolicyStatistics, already] using steady
  | false =>
    obtain ⟨_, started, stopping, nowPaused, restore⟩ :=
      @pause_running _ true steady.started steady.stopping paused
    refine ⟨started, stopping, steady.positive, steady.stored, ?_, ?_⟩
    · intro _
      exact restore
    · intro running
      exact absurd (nowPaused.symm.trans running) (by decide)

theorem Steady.resumeStatistics (steady : Steady runtime) (storage : Int) :
    Steady (runtimeResumePolicyStatistics runtime storage).1 := by
  cases paused : runtime.collector.paused with
  | false =>
    simpa [runtimeResumePolicyStatistics, policyStatsCollectorResume,
      steady.started, steady.stopping, steady.positive, paused] using steady
  | true =>
    by_cases refreshed : storage = 0
    · have resumed : (policyStatsCollectorResume runtime.collector
          runtime.policyGeneration storage).2 = 0 := by
        simp [policyStatsCollectorResume, steady.started, steady.stopping,
          steady.positive, paused, refreshed]
      have collector := resume_paused steady.started steady.stopping paused steady.positive resumed
      simp only [runtimeResumePolicyStatistics, collector]
      refine ⟨steady.started, steady.stopping, steady.positive, steady.stored, ?_, fun _ => rfl⟩
      intro stillPaused
      cases stillPaused
    · simpa [runtimeResumePolicyStatistics, policyStatsCollectorResume,
        steady.started, steady.stopping, steady.positive, paused, refreshed] using steady

/-- The fields that decide whether an event is stale. -/
def control (collector : PolicyStatsCollector) : (Bool × Bool × Bool × Bool) × Nat :=
  ((collector.started, collector.stopping, collector.paused,
    collector.restorePause), collector.generation)

theorem Steady.of_control (steady : Steady runtime)
    (same : control collector = control runtime.collector) :
    Steady { runtime with collector := collector } := by
  simp only [control, Prod.mk.injEq] at same
  obtain ⟨⟨started, stopping, paused, restore⟩, generation⟩ := same
  constructor
  · exact started.trans steady.started
  · exact stopping.trans steady.stopping
  · exact steady.positive
  · exact steady.stored
  · intro nowPaused
    exact restore.trans (steady.restore (paused.symm.trans nowPaused))
  · intro running
    exact generation.trans (steady.followed (paused.symm.trans running))

theorem control_submit (collector : PolicyStatsCollector) (event : PolicyStatsEvent)
    (trylock : Int) :
    control (policyStatsCollectorSubmit collector event trylock).1 = control collector := by
  unfold policyStatsCollectorSubmit
  repeat' split
  all_goals rfl

theorem control_writerRound (collector : PolicyStatsCollector)
    (write : List PolicyTrafficSample → List PolicyRuleSample → Int) (storage : Int) :
    control (writerRound collector write storage) = control collector := by
  rcases writerRound_frame collector write storage with same | ⟨requests, rules, failures, round⟩
  · rw [same]
  · rw [round]
    rfl

/-- Every successful operation keeps the runtime steady. -/
theorem Steady.step (steady : Steady runtime) (input : RuntimeInput)
    (succeeds : Succeeds (eventOf runtimeStep runtime input))
    (reloads : ReloadsWhileRestoring runtime input) :
    Steady (runtimeStep runtime input).1 := by
  cases input with
  | reloadPolicyFromDatabase calls => exact steady.reloadPolicyFromDatabase succeeds
  | reloadPolicy calls => exact steady.reloadPolicy succeeds
  | reloadConfiguration calls =>
    have published := reloadConfiguration_ok succeeds
    simp only [runtimeStep, published]
    simp only [ReloadsWhileRestoring, restoring, Bool.and_eq_true] at reloads
    exact steady.publish reloads.1
  | pauseStatistics => exact steady.pauseStatistics
  | resumeStatistics storage => exact steady.resumeStatistics storage
  | submit event trylock => exact steady.of_control (control_submit runtime.collector event trylock)
  | write written storage =>
    exact steady.of_control (control_writerRound runtime.collector (fun _ _ => written) storage)

/-! ## Whole runs -/

theorem submit_not_stale (running : collector.paused = false)
    (current : event.policyGeneration = collector.generation) (trylock : Int) :
    (policyStatsCollectorSubmit collector event
      trylock).1.staleGenerationDropped = collector.staleGenerationDropped := by
  unfold policyStatsCollectorSubmit
  simp only [running, current, ne_eq, not_true_eq_false, if_false, Bool.false_eq_true]
  repeat' split
  all_goals rfl

/-- When configuration reloads all happen while a restore holds the collector, it runs with the
published generation whenever it is not held. -/
theorem collector_follows_publication {collector : PolicyStatsCollector}
    (created : policyStatsCollectorCreate queueDefault 1 = .ok collector)
    (inputs : List RuntimeInput)
    (succeeds : ∀ event ∈ run runtimeStep (started collector) inputs, Succeeds event)
    (reloads : Meets (fun _ => ReloadsWhileRestoring)
      (run runtimeStep (started collector) inputs)) :
    ∀ event ∈ run runtimeStep (started collector) inputs,
      ∀ runtime ∈ [event.before, event.after], restoring runtime = false → Follows runtime ∧
          ∀ sample : PolicyStatsEvent, sample.policyGeneration = runtime.storeGeneration →
              ∀ trylock, (policyStatsCollectorSubmit runtime.collector sample
                  trylock).1.staleGenerationDropped =
                runtime.collector.staleGenerationDropped := by
  intro event member runtime around collecting
  obtain ⟨past, future, split⟩ := List.append_of_mem member
  have met : Meets (fun _ state input =>
        Succeeds (eventOf runtimeStep state input) ∧ ReloadsWhileRestoring state input)
      (run runtimeStep (started collector) inputs) := by
    intro earlier step later splitHere
    have stepMember : step ∈ run runtimeStep (DaemonRuntime.started collector) inputs := by
      rw [splitHere]
      simp
    rw [← event_eq stepMember]
    exact ⟨succeeds step stepMember, reloads earlier step later splitHere⟩
  have steady := invariant_run (fun _ state => Steady state)
    (fun _ _ input holds meets => holds.step input meets.1 meets.2)
    (Steady.started_runtime created) met split
  have here : Steady runtime := by
    rcases List.mem_cons.mp around with rfl | atEnd
    · exact steady.1
    · rw [List.mem_singleton.mp atEnd]
      exact steady.2
  have follows := here.follows collecting
  refine ⟨follows, ?_⟩
  intro sample current trylock
  apply submit_not_stale follows.running.2.2
  rw [current, follows.stored, follows.published]

def freshCollector : PolicyStatsCollector where
  queue := RingBuffer.empty queueDefault {} (by decide)
  batchCapacity := min queueDefault writeBatchMax
  generation := 1

def unmatchedSample (generation : Nat) : PolicyStatsEvent where
  policyGeneration := generation
  occurredAt := 1000
  path := .networkDestination
  domain := [0]

def restoredInputs : List RuntimeInput :=
  [.reloadPolicy {}, .submit (unmatchedSample 2) 0, .pauseStatistics,
    .reloadConfiguration {}, .resumeStatistics 0, .submit (unmatchedSample 3) 0]

theorem collector_follows_restore : policyStatsCollectorCreate queueDefault 1 = .ok freshCollector ∧
      ∀ event ∈ run runtimeStep (started freshCollector) restoredInputs,
        ∀ runtime ∈ [event.before, event.after], restoring runtime = false → Follows runtime ∧
            ∀ sample : PolicyStatsEvent, sample.policyGeneration = runtime.storeGeneration →
                ∀ trylock, (policyStatsCollectorSubmit runtime.collector sample
                    trylock).1.staleGenerationDropped =
                  runtime.collector.staleGenerationDropped := by
  have created : policyStatsCollectorCreate queueDefault 1 = .ok freshCollector := rfl
  refine ⟨created, ?_⟩
  apply collector_follows_publication created restoredInputs
  · decide +kernel
  · exact meets_of_meetsFrom (by decide +kernel)

/-- After a configuration reload the running collector still expects the generation before it. -/
theorem configuration_reload_leaves_collector :
    policyStatsCollectorCreate queueDefault 1 = .ok freshCollector ∧
      (∀ event ∈ run runtimeStep (started freshCollector)
        [.reloadConfiguration {}], Succeeds event) ∧
      ∃ event ∈ run runtimeStep (started freshCollector) [.reloadConfiguration {}],
        restoring event.after = false ∧ event.after.storeGeneration = 2 ∧
          event.after.collector.generation = 1 ∧
          (policyStatsCollectorSubmit event.after.collector (unmatchedSample 2) 0).2 = eStale := by
  refine ⟨rfl, ?_⟩
  decide +kernel

end DaemonRuntime

end JanusGate
