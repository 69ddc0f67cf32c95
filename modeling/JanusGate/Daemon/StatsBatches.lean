import JanusGate.Daemon.PolicyStatsCollector

/-!
# Batches of the statistics writer

Two validators guard the statistics: `event_valid` before an event enters the
queue, and the sample checks of the database before a batch is written.  The
queue holds valid events only, so that a batch is refused exactly when one of
its events combines a destination path with a domain rule.
-/

namespace JanusGate.PolicyStats

open Runs List

/-! ## One event -/

structure ValidEvent (event : PolicyStatsEvent) : Prop where
  occurredAt : event.occurredAt ≤ counterMax
  ruleCount : event.rules.length ≤ eventRuleMax
  path : eventPathValid event = true
  client : clientValid event.client = true
  matched : event.wouldBlock = true → event.matched = true
  wouldBlock : event.enforcedBlock = true → event.wouldBlock = true
  rules : ∀ rule ∈ event.rules, eventRuleValid rule = true

theorem eventValid_valid (valid : eventValid event = true) : ValidEvent event := by
  simp only [eventValid, eventClientValid, Bool.and_eq_true,
    decide_eq_true_eq, all_eq_true, Bool.or_eq_true, Bool.not_eq_true'] at valid
  obtain ⟨⟨⟨⟨⟨⟨⟨_, occurredAt⟩, ruleCount⟩, path⟩, client⟩, matched⟩, wouldBlock⟩, rules⟩ := valid
  refine ⟨occurredAt, ruleCount, path, client, ?_, ?_, rules⟩
  · intro blocks
    simpa [blocks] using matched
  · intro enforced
    simpa [enforced] using wouldBlock

theorem trafficSample_valid (valid : ValidEvent event) :
    trafficSampleValid (trafficSample event) = true := by
  simp only [trafficSampleValid, trafficSample, Bool.and_eq_true,
    Bool.or_eq_true, Bool.not_eq_true']
  refine ⟨⟨decide_eq_true valid.occurredAt, ?_⟩, ?_⟩
  · cases blocks : event.wouldBlock with
    | false => exact Or.inl rfl
    | true => exact Or.inr (valid.matched blocks)
  · cases enforced : event.enforcedBlock with
    | false => exact Or.inl rfl
    | true => exact Or.inr (valid.wouldBlock enforced)

/-- An event reports domain rules only for a path that inspects a domain. -/
def Coherent (event : PolicyStatsEvent) : Prop :=
  event.path = .networkDestination → ∀ rule ∈ event.rules, rule.dimension = .destination
  deriving Decidable

structure ValidRule (rule : PolicyStatsEventRule) : Prop where
  positive : rule.ruleId ≠ 0
  bounded : rule.ruleId ≤ counterMax
  identity : identityEmpty rule.statisticsId = false
  decision : rule.decision ≠ rule.shadowed
  enforced : ¬ (rule.enforcedBlock = true ∧ rule.wouldBlock = false)
  allow : ¬ (rule.allowDecision = true ∧ (rule.wouldBlock = true ∨ rule.enforcedBlock = true))

theorem eventRuleValid_iff : eventRuleValid rule = true ↔ ValidRule rule := by
  constructor
  · intro valid
    simp only [eventRuleValid, Bool.and_eq_true, decide_eq_true_eq,
      Bool.not_eq_true', bne_iff_ne] at valid
    obtain ⟨⟨⟨⟨⟨positive, bounded⟩, identity⟩, decision⟩, enforced⟩, allow⟩ := valid
    refine ⟨positive, bounded, identity, decision, ?_, ?_⟩
    · rintro ⟨enforces, passes⟩
      simp [enforces, passes] at enforced
    · rintro ⟨allows, blocks⟩
      rcases blocks with blocks | blocks <;> simp [allows, blocks] at allow
  · rintro ⟨positive, bounded, identity, decision, enforced, allow⟩
    simp only [eventRuleValid, Bool.and_eq_true, decide_eq_true_eq, Bool.not_eq_true', bne_iff_ne]
    refine ⟨⟨⟨⟨⟨positive, bounded⟩, identity⟩, decision⟩, ?_⟩, ?_⟩
    · cases blocks : rule.wouldBlock <;> cases enforces : rule.enforcedBlock <;>
        simp [blocks, enforces] at enforced ⊢
    · cases allows : rule.allowDecision <;> cases blocks : rule.wouldBlock <;>
        cases enforces : rule.enforcedBlock <;>
        simp [allows, blocks, enforces] at allow ⊢

/-- The database refuses the sample exactly when a domain rule comes with a destination path. -/
theorem ruleSample_valid_iff (valid : ValidEvent event) (ruleValid : eventRuleValid rule = true) :
    ruleSampleValid (ruleSample event rule) = true ↔
      (event.path = .networkDestination → rule.dimension = .destination) := by
  have checked := eventRuleValid_iff.mp ruleValid
  have passes : ¬ ((ruleSample event rule).ruleId = 0 ∨
      (ruleSample event rule).ruleId > counterMax ∨
      identityEmpty (ruleSample event rule).statisticsId = true ∨
      (ruleSample event rule).occurredAt > counterMax ∨
      clientValid (ruleSample event rule).client = false ∨
      (ruleSample event rule).decision = (ruleSample event rule).shadowed ∨
      ((ruleSample event rule).enforcedBlock = true ∧ (ruleSample event rule).wouldBlock = false) ∨
      ((ruleSample event rule).allowDecision = true ∧ ((ruleSample event rule).wouldBlock = true ∨
          (ruleSample event rule).enforcedBlock = true))) := by
    simp only [ruleSample, not_or]
    refine ⟨checked.positive, Nat.not_lt.mpr checked.bounded,
      by simp [checked.identity], Nat.not_lt.mpr valid.occurredAt,
      by simp [valid.client], checked.decision, checked.enforced, checked.allow⟩
  rw [ruleSampleValid, if_neg passes]
  have path := valid.path
  unfold eventPathValid at path
  split at path
  · cases path
  cases dimension : rule.dimension with
  | destination => simp [ruleSample, dimension]
  | domain => cases inspected : event.path <;> simp_all [ruleSample]

/-! ## One batch -/

theorem ruleSamples_length (bounded : ∀ event ∈ events, event.rules.length ≤ eventRuleMax) :
    (prepareDatabaseBatch events).2.length ≤ eventRuleMax * events.length := by
  induction events with
  | nil => simp [prepareDatabaseBatch]
  | cons event events ih =>
    have head := bounded event (mem_cons_self ..)
    have tail := ih (fun later member => bounded later (mem_cons_of_mem _ member))
    simp only [prepareDatabaseBatch, flatMap_cons, length_append, length_map, length_cons] at tail ⊢
    rw [Nat.mul_succ]
    omega

theorem samplesAccepted_iff (nonempty : events ≠ []) (bounded : events.length ≤ writeBatchMax)
    (valid : ∀ event ∈ events, eventValid event = true) :
    samplesAccepted (prepareDatabaseBatch events).1 (prepareDatabaseBatch events).2 = true ↔
      ∀ event ∈ events, Coherent event := by
  have holds : ∀ event ∈ events, ValidEvent event :=
    fun event member => eventValid_valid (valid event member)
  have ruleCount := ruleSamples_length (fun event member => (holds event member).ruleCount)
  have rulesBounded : (prepareDatabaseBatch events).2.length ≤ batchMax := by
    have product : eventRuleMax * events.length ≤
        eventRuleMax * writeBatchMax := Nat.mul_le_mul_left _ bounded
    exact ruleCount.trans (product.trans (by decide))
  have trafficBounded : (prepareDatabaseBatch events).1.length ≤ batchMax := by
    rw [prepareDatabaseBatch, length_map]
    exact bounded.trans (by decide)
  have something : (prepareDatabaseBatch events).1.isEmpty = false := by
    simpa [prepareDatabaseBatch] using nonempty
  have trafficValid : (prepareDatabaseBatch events).1.all trafficSampleValid = true := by
    simp only [prepareDatabaseBatch, all_map, all_eq_true]
    intro event member
    exact trafficSample_valid (holds event member)
  simp only [samplesAccepted, rulesBounded, trafficBounded, something,
    trafficValid, decide_true, Bool.true_and, Bool.not_false, Bool.true_or]
  simp only [prepareDatabaseBatch, all_flatMap, all_map, all_eq_true, Function.comp_apply]
  constructor
  · intro accepted event member destination rule reported
    exact (ruleSample_valid_iff (holds event member) ((holds event member).rules rule reported)).mp
      (accepted event member rule reported) destination
  · intro coherent event member rule reported
    exact (ruleSample_valid_iff (holds event member) ((holds event member).rules rule reported)).mpr
      (fun destination => coherent event member destination rule reported)

/-! ## Runs of the collector -/

/-- One call of a collector function or one round of its writer, with the
results it meets. -/
inductive CollectorInput where
  | start
  | submit (event : PolicyStatsEvent) (trylock : Int)
  | pause (restore : Bool)
  | resume (generation : Nat) (storage : Int)
  | requestStop
  | join
  | write (written storage : Int)

def collectorStep (collector : PolicyStatsCollector) : CollectorInput → PolicyStatsCollector × Int
  | .start => policyStatsCollectorStart collector
  | .submit event trylock => policyStatsCollectorSubmit collector event trylock
  | .pause restore => policyStatsCollectorPause collector restore
  | .resume generation storage => policyStatsCollectorResume collector generation storage
  | .requestStop => policyStatsCollectorRequestStop collector
  | .join => policyStatsCollectorJoin collector
  | .write written storage => (writerRound collector (fun _ _ => written) storage, 0)

/-- The queue holds accepted events only, and the writer's batch is bounded. -/
structure QueueValid (collector : PolicyStatsCollector) : Prop where
  events : ∀ event ∈ collector.queue.contents, eventValid event = true
  batch : collector.batchCapacity ≤ writeBatchMax

theorem QueueValid.create
    (created : policyStatsCollectorCreate capacity generation = .ok collector) :
    QueueValid collector := by
  unfold policyStatsCollectorCreate at created
  split at created
  · cases created
  · obtain rfl := Except.ok.inj created
    exact ⟨by simp, Nat.min_le_right _ _⟩

section

variable (valid : QueueValid collector)

include valid

theorem QueueValid.of_same (queue : later.queue = collector.queue)
    (batch : later.batchCapacity = collector.batchCapacity) : QueueValid later := by
  constructor
  · rw [queue]
    exact valid.events
  · rw [batch]
    exact valid.batch

theorem QueueValid.submit (event : PolicyStatsEvent) (trylock : Int) :
    QueueValid (policyStatsCollectorSubmit collector event trylock).1 := by
  cases accepted : eventValid event with
  | false =>
    rw [submit_invalid accepted]
    exact valid
  | true =>
    rcases submit_valid accepted with refused | ⟨room, pushed⟩
    · exact valid.of_same refused.queue refused.batchCapacity
    rw [pushed]
    refine ⟨?_, valid.batch⟩
    intro queued member
    rw [RingBuffer.contents_push, mem_append, mem_singleton] at member
    rcases member with older | rfl
    · exact valid.events queued older
    · exact accepted

theorem QueueValid.pause (restore : Bool) :
    QueueValid (policyStatsCollectorPause collector restore).1 := by
  unfold policyStatsCollectorPause
  split
  · exact valid
  split
  · exact valid
  · cases restore <;> exact ⟨by simp, valid.batch⟩

theorem QueueValid.write (write : List PolicyTrafficSample → List PolicyRuleSample → Int)
    (storage : Int) : QueueValid (writerRound collector write storage) := by
  have drained : QueueValid (drainBatch collector).2 := by
    refine ⟨?_, valid.batch⟩
    intro event member
    rw [drainBatch, (RingBuffer.contents_drain _ _).2] at member
    exact valid.events event (mem_of_mem_drop member)
  rcases writerRound_frame collector write storage with same | ⟨requests, rules, failures, round⟩
  · rw [same]
    exact valid
  · rw [round]
    exact drained.of_same rfl rfl

theorem QueueValid.step (input : CollectorInput) :
    QueueValid (collectorStep collector input).1 := by
  cases input with
  | submit event trylock => exact valid.submit event trylock
  | pause restore => exact valid.pause restore
  | write written storage => exact valid.write _ storage
  | start =>
    apply valid.of_same <;>
      simp only [collectorStep, policyStatsCollectorStart] <;>
      split <;> (try split) <;> rfl
  | resume generation storage =>
    apply valid.of_same <;>
      simp only [collectorStep, policyStatsCollectorResume] <;>
      repeat' split
    all_goals rfl
  | requestStop =>
    apply valid.of_same <;>
      simp only [collectorStep, policyStatsCollectorRequestStop] <;>
      split <;> rfl
  | join =>
    apply valid.of_same <;>
      simp only [collectorStep, policyStatsCollectorJoin] <;>
      split <;> rfl

theorem writerBatch_valid : (writerBatch collector).length ≤ writeBatchMax ∧
      ∀ event ∈ writerBatch collector, eventValid event = true := by
  unfold writerBatch
  split
  · simp
  rw [drainBatch, (RingBuffer.contents_drain _ _).1]
  refine ⟨?_, ?_⟩
  · exact (length_take_le _ _).trans valid.batch
  · intro event member
    exact valid.events event (mem_of_mem_take member)

end

/-- A batch passes the checks of the database exactly when its events report domain rules only for a
path that inspects a domain. -/
theorem batch_accepted_iff_coherent {capacity generation : Nat} {collector : PolicyStatsCollector}
    (created : policyStatsCollectorCreate capacity generation = .ok collector)
    (inputs : List CollectorInput) :
    ∀ event ∈ run collectorStep collector inputs, writerBatch event.before ≠ [] →
        (samplesAccepted (prepareDatabaseBatch (writerBatch event.before)).1
            (prepareDatabaseBatch (writerBatch event.before)).2 = true ↔
          ∀ queued ∈ writerBatch event.before, Coherent queued) := by
  intro event member nonempty
  have around := invariant_always QueueValid
    (fun _ input valid => valid.step input) (QueueValid.create created) member
  obtain ⟨bounded, valid⟩ := writerBatch_valid around.1
  exact samplesAccepted_iff nonempty bounded valid

def sampleRule (dimension : PolicyStatsDimension) : PolicyStatsEventRule where
  dimension := dimension
  ruleId := 7
  statisticsId := [1]
  decision := true
  wouldBlock := true
  enforcedBlock := true
  allowDecision := false
  shadowed := false

/-- A blocked request of one path with one matching rule. -/
def sampleEvent (path : PolicyStatsPath) (dimension : PolicyStatsDimension) : PolicyStatsEvent where
  policyGeneration := 1
  occurredAt := 1000
  path := path
  domain := if path = .networkDestination then [0] else [0x61, 0]
  queryType := if path = .dns then 1 else 0
  matched := true
  wouldBlock := true
  enforcedBlock := true
  rules := [sampleRule dimension]

def sampleCollector : PolicyStatsCollector where
  queue := RingBuffer.empty 4 {} (by decide)
  batchCapacity := 4
  generation := 1

def coherentInputs : List CollectorInput :=
  [.start, .submit (sampleEvent .dns .domain) 0,
    .submit (sampleEvent .networkDestination .destination) 0, .write 0 0]

theorem batch_accepted_coherent : policyStatsCollectorCreate 4 1 = .ok sampleCollector ∧
      ∃ event ∈ run collectorStep sampleCollector coherentInputs,
        (writerBatch event.before).length = 2 ∧
          (samplesAccepted (prepareDatabaseBatch (writerBatch event.before)).1
              (prepareDatabaseBatch (writerBatch event.before)).2 = true ↔
            ∀ queued ∈ writerBatch event.before, Coherent queued) := by
  have created : policyStatsCollectorCreate 4 1 = .ok sampleCollector := rfl
  have batched : ∃ event ∈ run collectorStep sampleCollector
      coherentInputs, (writerBatch event.before).length = 2 := by
    decide +kernel
  obtain ⟨event, member, length⟩ := batched
  refine ⟨created, event, member, length, ?_⟩
  apply batch_accepted_iff_coherent created coherentInputs event member
  intro nothing
  simp [nothing] at length

/-- A domain rule reported for a destination path. -/
def incoherentInputs : List CollectorInput :=
  [.start, .submit (sampleEvent .dns .domain) 0,
    .submit (sampleEvent .networkDestination .domain) 0, .write 0 0]

/-- Both events are accepted, and then the database refuses them together. -/
theorem incoherent_event_refuses_batch : policyStatsCollectorCreate 4 1 = .ok sampleCollector ∧
      (∀ event ∈ run collectorStep sampleCollector incoherentInputs, event.answer = 0) ∧
      ∃ event ∈ run collectorStep sampleCollector incoherentInputs,
        (writerBatch event.before).length = 2 ∧
          samplesAccepted (prepareDatabaseBatch (writerBatch event.before)).1
            (prepareDatabaseBatch (writerBatch event.before)).2 = false ∧
          event.after.writeFailures = 1 ∧
          event.after.recordedRequests = 0 := by
  refine ⟨rfl, ?_⟩
  decide +kernel

end JanusGate.PolicyStats
