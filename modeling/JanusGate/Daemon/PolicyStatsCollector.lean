import JanusGate.Common.PolicyStats
import JanusGate.Foundation.RingBuffer
import JanusGate.Foundation.Runs

/-!
# The policy statistics collector

The bounded queue of `policy_stats_collector.c` between the packet workers and
one database writer.  Every function of the source is one critical section of
the collector's mutex, so each is one step here.  `trylock` is the status with
which a submission finds the mutex; the blocking locks succeed.
-/

namespace JanusGate

structure PolicyStatsEventRule where
  dimension : PolicyStatsDimension
  ruleId : Nat
  statisticsId : Bytes
  decision : Bool
  wouldBlock : Bool
  enforcedBlock : Bool
  allowDecision : Bool
  shadowed : Bool
  deriving DecidableEq

/-- Statistic event of one packet worker; `domain` is the whole array. -/
structure PolicyStatsEvent where
  policyGeneration : Nat := 0
  occurredAt : Nat := 0
  path : PolicyStatsPath := .dns
  client : PolicyClient := {}
  domain : Bytes := []
  queryType : UInt16 := 0
  matched : Bool := false
  wouldBlock : Bool := false
  enforcedBlock : Bool := false
  rules : List PolicyStatsEventRule := []
  deriving DecidableEq

/-- The bounded collector with the counters of its submissions and writes. -/
structure PolicyStatsCollector where
  queue : RingBuffer PolicyStatsEvent
  batchCapacity : Nat
  generation : Nat
  started : Bool := false
  stopping : Bool := false
  paused : Bool := false
  restorePause : Bool := false
  submitted : Nat := 0
  dropped : Nat := 0
  restoreDropped : Nat := 0
  staleGenerationDropped : Nat := 0
  recordedRequests : Nat := 0
  recordedRules : Nat := 0
  writeFailures : Nat := 0

variable (collector : PolicyStatsCollector)
  (write : List PolicyTrafficSample → List PolicyRuleSample → Int) (storage : Int)
  (events : List PolicyStatsEvent)

namespace PolicyStats

def writeBatchMax : Nat := 128
def queueMin : Nat := 2
def queueMax : Nat := 65536
def eventRuleMax : Nat := 4

/-- Status of a mutex that another thread holds. -/
def mutexBusy : Int := 16

def saturatingAdd (counter value : Nat) : Nat :=
  if value > uint64Max - counter then uint64Max else counter + value

/-! ## Events -/

def PolicyStatsEvent.domainText (event : PolicyStatsEvent) : Bytes :=
  event.domain.takeWhile (· != 0)

def eventPathValid (event : PolicyStatsEvent) : Bool :=
  if !event.domain.contains 0 then false
  else
    let domain := PolicyStatsEvent.domainText event
    match event.path with
    | .dns => decide (event.queryType ≠ 0) && domainIsNormalized domain
    | .tlsSni => decide (event.queryType = 0) && domainIsNormalized domain
    | .networkDestination => decide (event.queryType = 0) && decide (domain = [])

def eventClientValid (client : PolicyClient) : Bool := clientValid client

def eventRuleValid (rule : PolicyStatsEventRule) : Bool :=
  decide (rule.ruleId ≠ 0) && decide (rule.ruleId ≤ counterMax) &&
    !identityEmpty rule.statisticsId && (rule.decision != rule.shadowed) &&
    (!rule.enforcedBlock || rule.wouldBlock) &&
    (!rule.allowDecision || (!rule.wouldBlock && !rule.enforcedBlock))

def eventValid (event : PolicyStatsEvent) : Bool :=
  decide (event.policyGeneration ≠ 0) &&
    decide (event.occurredAt ≤ counterMax) &&
    decide (event.rules.length ≤ eventRuleMax) && eventPathValid event &&
    eventClientValid event.client && (!event.wouldBlock || event.matched) &&
    (!event.enforcedBlock || event.wouldBlock) &&
    event.rules.all eventRuleValid

/-! ## The writer's batch -/

def drainBatch : List PolicyStatsEvent × PolicyStatsCollector :=
  let (batch, queue) := RingBuffer.drain collector.batchCapacity collector.queue
  (batch, { collector with queue := queue })

def trafficSample (event : PolicyStatsEvent) : PolicyTrafficSample where
  occurredAt := event.occurredAt
  path := event.path
  matched := event.matched
  wouldBlock := event.wouldBlock
  enforcedBlock := event.enforcedBlock

def ruleSample (event : PolicyStatsEvent) (rule : PolicyStatsEventRule) : PolicyRuleSample :=
  let domain := decide (rule.dimension = .domain)
  { occurredAt := event.occurredAt
    dimension := rule.dimension
    ruleId := rule.ruleId
    statisticsId := rule.statisticsId
    path := if domain then event.path else .networkDestination
    client := event.client
    domain := if domain then PolicyStatsEvent.domainText event else []
    queryType := if domain then event.queryType else 0
    decision := rule.decision
    wouldBlock := rule.wouldBlock
    enforcedBlock := rule.enforcedBlock
    allowDecision := rule.allowDecision
    shadowed := rule.shadowed }

def prepareDatabaseBatch : List PolicyTrafficSample × List PolicyRuleSample :=
  (events.map trafficSample, events.flatMap fun event => event.rules.map (ruleSample event))

def writeBatch : PolicyStatsCollector :=
  let (traffic, rules) := prepareDatabaseBatch events
  let collector :=
    if databaseRecordPolicyStats write traffic rules = 0 then
      { collector with
        recordedRequests := saturatingAdd collector.recordedRequests events.length
        recordedRules := saturatingAdd collector.recordedRules rules.length }
    else { collector with writeFailures := saturatingAdd collector.writeFailures 1 }
  if storage ≠ 0 then { collector with writeFailures := saturatingAdd collector.writeFailures 1 }
  else collector

end PolicyStats

open PolicyStats

/-! ## The collector's functions -/

def policyStatsCollectorCreate (capacity initialGeneration : Nat) :
    Except Int PolicyStatsCollector :=
  if bounds : capacity < queueMin ∨ initialGeneration = 0 ∨ capacity > queueMax then .error eInval
  else
    have positive : 0 < capacity := by
      simp only [queueMin] at bounds
      omega
    .ok {
      queue := RingBuffer.empty capacity {} positive
      batchCapacity := min capacity writeBatchMax
      generation := initialGeneration }

def policyStatsCollectorStart : PolicyStatsCollector × Int :=
  if collector.started then (collector, eAlready)
  else if collector.stopping then (collector, eCanceled)
  else ({ collector with started := true }, 0)

namespace PolicyStats

def countDropped : PolicyStatsCollector :=
  { collector with dropped := saturatingAdd collector.dropped 1 }

def countRestoreDropped : PolicyStatsCollector :=
  { collector with restoreDropped := saturatingAdd collector.restoreDropped 1 }

def countStaleDropped : PolicyStatsCollector :=
  { collector with staleGenerationDropped := saturatingAdd collector.staleGenerationDropped 1 }

end PolicyStats

/-- Try to enqueue one valid event without waiting on packet paths. -/
def policyStatsCollectorSubmit (event : PolicyStatsEvent) (trylock : Int) :
    PolicyStatsCollector × Int :=
  if !eventValid event then (collector, eInval)
  else if trylock = mutexBusy then (countDropped collector, eAgain)
  else if trylock ≠ 0 then (countDropped collector, -trylock)
  else if !collector.started || collector.stopping then (countDropped collector, eCanceled)
  else if collector.paused then
    if collector.restorePause then (countRestoreDropped (countDropped collector), eCanceled)
    else (countStaleDropped (countDropped collector), eCanceled)
  else if event.policyGeneration ≠ collector.generation then
    (countStaleDropped (countDropped collector), eStale)
  else if room : collector.queue.count < collector.queue.capacity then
    ({ collector with
        queue := collector.queue.push event room
        submitted := saturatingAdd collector.submitted 1 }, 0)
  else (countDropped collector, eAgain)

/-- Quiesce the writer and discard queued events at a policy boundary. -/
def policyStatsCollectorPause (restore : Bool) : PolicyStatsCollector × Int :=
  if !collector.started || collector.stopping then (collector, eCanceled)
  else if collector.paused then (collector, eAlready)
  else
    let discarded := collector.queue.count
    let collector := { collector with
      paused := true
      restorePause := restore
      queue := collector.queue.clear
      dropped := saturatingAdd collector.dropped discarded }
    if restore then
      ({ collector with restoreDropped := saturatingAdd collector.restoreDropped discarded }, 0)
    else
      ({ collector with
          staleGenerationDropped := saturatingAdd collector.staleGenerationDropped discarded }, 0)

/-- Resume collection for one published policy generation. -/
def policyStatsCollectorResume (generation : Nat) (storage : Int) : PolicyStatsCollector × Int :=
  if generation = 0 then (collector, eInval)
  else if !collector.started || collector.stopping then (collector, eCanceled)
  else if !collector.paused then (collector, eAlready)
  else if storage ≠ 0 then (collector, storage)
  else
    ({ collector with
        generation := generation
        paused := false
        restorePause := false }, 0)

def policyStatsCollectorRequestStop : PolicyStatsCollector × Int :=
  if !collector.started then (collector, eCanceled)
  else ({ collector with stopping := true }, 0)

def policyStatsCollectorJoin : PolicyStatsCollector × Int :=
  if !collector.started || !collector.stopping then (collector, eInval)
  else ({ collector with started := false }, 0)

namespace PolicyStats

/-- The events the writer takes in one round of `collector_main`. -/
def writerBatch : List PolicyStatsEvent := if collector.paused then [] else (drainBatch collector).1

/-- One round of `collector_main` without its retention cleanup. -/
def writerRound : PolicyStatsCollector :=
  if collector.paused then collector
  else
    let (batch, collector) := drainBatch collector
    if batch.isEmpty then collector else writeBatch collector write storage batch

/-! ## What the writer and a submission do -/

theorem writeBatch_frame : ∃ requests rules failures, writeBatch collector write storage events =
        { collector with
          recordedRequests := requests
          recordedRules := rules
          writeFailures := failures } := by
  by_cases recorded : databaseRecordPolicyStats write
      (prepareDatabaseBatch events).1 (prepareDatabaseBatch events).2 = 0 <;>
    by_cases refreshed : storage = 0 <;>
    simp only [writeBatch, recorded, refreshed, if_true, if_false, ne_eq,
      not_true_eq_false, not_false_eq_true] <;>
    exact ⟨_, _, _, rfl⟩

theorem writerRound_frame :
    writerRound collector write storage = collector ∨ ∃ requests rules failures,
        writerRound collector write storage =
          { (drainBatch collector).2 with
            recordedRequests := requests
            recordedRules := rules
            writeFailures := failures } := by
  have round : writerRound collector write storage = if collector.paused then collector
      else if (drainBatch collector).1.isEmpty then (drainBatch collector).2
      else writeBatch (drainBatch collector).2 write storage (drainBatch collector).1 := rfl
  rw [round]
  split
  · exact Or.inl rfl
  split
  · exact Or.inr ⟨_, _, _, rfl⟩
  · exact Or.inr (writeBatch_frame _ write storage _)

/-- A valid event is refused: only counters of refusals change. -/
structure Refused (collector later : PolicyStatsCollector) : Prop where
  queue : later.queue = collector.queue
  batchCapacity : later.batchCapacity = collector.batchCapacity
  submitted : later.submitted = collector.submitted
  dropped : later.dropped = saturatingAdd collector.dropped 1

section

variable (collector : PolicyStatsCollector)

theorem Refused.countDropped :
    Refused collector (countDropped collector) :=
  ⟨rfl, rfl, rfl, rfl⟩

theorem Refused.countRestoreDropped :
    Refused collector (countRestoreDropped (PolicyStats.countDropped collector)) :=
  ⟨rfl, rfl, rfl, rfl⟩

theorem Refused.countStaleDropped :
    Refused collector (countStaleDropped (PolicyStats.countDropped collector)) :=
  ⟨rfl, rfl, rfl, rfl⟩

end

theorem submit_invalid {collector : PolicyStatsCollector} {trylock : Int}
    (invalid : eventValid event = false) :
    policyStatsCollectorSubmit collector event trylock = (collector, eInval) := by
  simp [policyStatsCollectorSubmit, invalid]

theorem submit_valid {collector : PolicyStatsCollector} {trylock : Int}
    (valid : eventValid event = true) :
    Refused collector (policyStatsCollectorSubmit collector event trylock).1 ∨
      ∃ room : collector.queue.count < collector.queue.capacity,
        (policyStatsCollectorSubmit collector event trylock).1 =
          { collector with
            queue := collector.queue.push event room
            submitted := saturatingAdd collector.submitted 1 } := by
  unfold policyStatsCollectorSubmit
  rw [valid, if_neg (by decide)]
  split
  · exact Or.inl (Refused.countDropped collector)
  split
  · exact Or.inl (Refused.countDropped collector)
  split
  · exact Or.inl (Refused.countDropped collector)
  split
  · split
    · exact Or.inl (Refused.countRestoreDropped collector)
    · exact Or.inl (Refused.countStaleDropped collector)
  split
  · exact Or.inl (Refused.countStaleDropped collector)
  split
  · exact Or.inr ⟨by assumption, rfl⟩
  · exact Or.inl (Refused.countDropped collector)

end PolicyStats

end JanusGate
