import JanusGate.Common.PolicyDestination
import JanusGate.Daemon.DataplaneDns
import JanusGate.Daemon.PolicyStatsCollector

/-!
# Statistics of the packet worker

How `dataplane_worker.c` turns a decision into a statistics event, which
decisions one call reports, and which results of an evaluation give an event
that the collector accepts.
-/

namespace JanusGate

open Policy PolicyStats Dataplane Worker FirstBest List

namespace WorkerStats

/-! ## The event of one decision -/

variable (event : PolicyStatsEvent) (dimension : PolicyStatsDimension)

def appendStatsRule (ruleId : Nat) (statisticsId : Bytes)
    (effect : PolicyEffect) (decision enforced : Bool) : PolicyStatsEvent :=
  { event with
    rules := event.rules ++ [{
      dimension := dimension
      ruleId := ruleId
      statisticsId := statisticsId
      decision := decision
      wouldBlock := effect == .block
      enforcedBlock := enforced && effect == .block
      allowDecision := enforced && effect == .allow
      shadowed := !decision }] }

/-- What the statistics read of a domain or destination match. -/
structure StatsMatch where
  matched : Bool
  ruleId : Nat
  statisticsId : Bytes
  configuredEffect : PolicyEffect
  enforcingMatched : Bool
  enforcingRuleId : Nat
  enforcingStatisticsId : Bytes
  effect : PolicyEffect

def appendMatchStats (event : PolicyStatsEvent) (found : StatsMatch) : PolicyStatsEvent :=
  let sameRule := found.enforcingMatched && found.enforcingRuleId == found.ruleId
  if !found.matched then event
  else
    let event := appendStatsRule event dimension found.ruleId
      found.statisticsId found.configuredEffect true sameRule
    if found.enforcingMatched && !sameRule then
      appendStatsRule event dimension found.enforcingRuleId
        found.enforcingStatisticsId found.effect false true
    else event

def domainMatch (found : PolicyMatch) : StatsMatch where
  matched := found.matched
  ruleId := found.ruleId
  statisticsId := found.statisticsId
  configuredEffect := found.configuredEffect
  enforcingMatched := found.enforcingMatched
  enforcingRuleId := found.enforcingRuleId
  enforcingStatisticsId := found.enforcingStatisticsId
  effect := found.effect

def destinationMatch (found : PolicyDestinationMatch) : StatsMatch where
  matched := found.matched
  ruleId := found.ruleId
  statisticsId := found.statisticsId
  configuredEffect := found.configuredEffect
  enforcingMatched := found.enforcingMatched
  enforcingRuleId := found.enforcingRuleId
  enforcingStatisticsId := found.enforcingStatisticsId
  effect := found.effect

def appendDomainStats (found : PolicyMatch) : PolicyStatsEvent :=
  appendMatchStats .domain event (domainMatch found)

def appendDestinationStats (found : PolicyDestinationMatch) : PolicyStatsEvent :=
  appendMatchStats .destination event (destinationMatch found)

def statsEvent (result : DataplaneResult) (path : PolicyStatsPath)
    (occurredAt : Nat) : PolicyStatsEvent :=
  let event : PolicyStatsEvent := {
    occurredAt := occurredAt
    policyGeneration := result.policyGeneration
    path := path
    client := result.client
    queryType := result.queryType
    domain := result.inspectedDomain ++
      replicate (domainNameMax + 1 - result.inspectedDomain.length) 0 }
  let event := appendDomainStats event result.policy
  let event := appendDestinationStats event result.destinationPolicy
  { event with
    matched := !event.rules.isEmpty
    wouldBlock := event.rules.any PolicyStatsEventRule.wouldBlock
    enforcedBlock := event.rules.any PolicyStatsEventRule.enforcedBlock }

/-- A decision that is neither malformed nor pending. -/
def isDecided (result : DataplaneResult) : Bool :=
  result.reason != .malformed && result.reason != .fragmentPending &&
    result.reason != .streamPending

/-- Submit one complete policy decision; `occurredAt` is the value of `time(NULL)`. -/
def submitPolicyStats (collector : PolicyStatsCollector) (result : DataplaneResult)
    (occurredAt : Int64) (trylock : Int) : PolicyStatsCollector :=
  match result.policyPath with
  | none => collector
  | some path =>
    if !isDecided result then collector
    else if occurredAt < 0 then collector
    else
      (policyStatsCollectorSubmit collector
        (statsEvent result path occurredAt.toInt.toNat) trylock).1

/-! ## The decisions of one call -/

def messageDecisions (snapshot : PolicySnapshot) : List Bytes → PacketView → List DataplaneResult
  | [], _ => []
  | message :: messages, packet =>
    let (status, result) := dataplaneEvaluateTcpDns packet message snapshot
    if status ≠ 0 then []
    else if result.verdict = .drop then [result]
    else result :: messageDecisions snapshot messages result.packet

variable (worker : DataplaneWorker)

def streamMessages (input : WorkerInput) (result : DataplaneResult) : List Bytes :=
  match input.streamClock with
  | none => []
  | some nowMs =>
    match (tcpStreamTrackerAdd worker.streams result.packet nowMs
        worker.streams.limits.maxBufferedBytes
        worker.streams.limits.maxMessagesPerPacket).2 with
    | .ok (.messages messages) => messages
    | _ => []

def pendingMessages (snapshot : PolicySnapshot) (input : WorkerInput) : List Bytes :=
  match inspectFrame worker snapshot input with
  | (worker, 0, result) =>
    if result.reason = .streamPending ∧ result.packet.transport = .tcp ∧
        result.packet.destinationPort = 53 then
      streamMessages worker input result
    else []
  | _ => []

/-- The results that one call submits, in their order. -/
def decisions (snapshot : PolicySnapshot) (input : WorkerInput) : List DataplaneResult :=
  messageDecisions snapshot (pendingMessages worker snapshot input)
      (inspectFrame worker snapshot input).2.2.packet ++
    [(classify worker snapshot input).2.2]

/-! ## The call with its collector -/

section Reports

-- one call of `submit_policy_stats`
variable {κ : Type} (report : κ → DataplaneResult → κ) (snapshot : PolicySnapshot)

def reportMessages (nowMs : Nat) (resetStatus : Int) (tracker : TcpStreamTracker) :
    List Bytes → DataplaneResult → κ → κ × TcpStreamTracker × Int × DataplaneResult
  | [], result, stats => (stats, tracker, 0, result)
  | message :: messages, result, stats =>
    let (status, result) := dataplaneEvaluateTcpDns result.packet message snapshot
    if status ≠ 0 then (stats, tracker, status, result)
    else
      let stats := report stats result
      let result := { result with policyPath := none }
      if result.verdict = .drop then
        let (tracker, status) := resetBlockedStream tracker result nowMs resetStatus
        (stats, tracker, status, result)
      else reportMessages nowMs resetStatus tracker messages result stats

/-- `process_stream`, which reports nothing unless messages are complete. -/
def reportStream (input : WorkerInput) (result : DataplaneResult) (stats : κ) :
    κ × DataplaneWorker × Int × DataplaneResult :=
  match input.streamClock with
  | none => (stats, processStream worker snapshot input result)
  | some nowMs =>
    match tcpStreamTrackerAdd worker.streams result.packet nowMs
        worker.streams.limits.maxBufferedBytes worker.streams.limits.maxMessagesPerPacket with
    | (streams, .ok (.messages messages)) =>
      let (stats, streams, status, result) :=
        reportMessages report snapshot nowMs input.resetStatus streams messages result stats
      (stats, { worker with streams := streams }, status, result)
    | _ => (stats, processStream worker snapshot input result)

def reportStages (input : WorkerInput) (stats : κ) : κ × DataplaneWorker × Int × DataplaneResult :=
  match inspectFrame worker snapshot input with
  | (worker, 0, result) =>
    if respondsUdp result then (stats, worker, input.responseStatus, result)
    else if result.reason = .streamPending ∧ result.packet.transport = .tcp ∧
        result.packet.destinationPort = 53 then
      reportStream worker report snapshot input result stats
    else (stats, processStreams worker snapshot input result)
  | failed => (stats, failed)

/-- `jg_dataplane_worker_process` with the collector that it reports to. -/
def dataplaneWorkerReport (input : WorkerInput) (stats : κ) :
    κ × DataplaneWorker × NfqueueVerdict :=
  match input.snapshot with
  | none => (stats, worker, .drop)
  | some snapshot =>
    let (stats, worker, status, result) := reportStages worker report snapshot input stats
    (report stats result, worker, if status ≠ 0 then .drop else result.verdict)

theorem reportMessages_eq (nowMs : Nat) (resetStatus : Int) (tracker : TcpStreamTracker)
    (messages : List Bytes) (result : DataplaneResult) (stats : κ) :
    reportMessages report snapshot nowMs resetStatus tracker messages result stats =
      ((messageDecisions snapshot messages result.packet).foldl report stats,
        processMessages snapshot nowMs resetStatus tracker messages result) := by
  induction messages generalizing result stats with
  | nil => rfl
  | cons message messages ih =>
    simp only [reportMessages, messageDecisions, processMessages, ih]
    split_ifs <;> rfl

theorem reportStream_eq (input : WorkerInput) (result : DataplaneResult) (stats : κ) :
    reportStream worker report snapshot input result stats =
      ((messageDecisions snapshot (streamMessages worker input result) result.packet).foldl report
        stats, processStream worker snapshot input result) := by
  unfold reportStream streamMessages
  cases clock : input.streamClock with
  | none => rfl
  | some nowMs =>
    dsimp only
    split
    · next streams messages added =>
      simp only [added, reportMessages_eq, processStream, clock]
    · next other =>
      split
      · next messages added => exact (other _ messages (Prod.ext rfl added)).elim
      · rfl

theorem reportStages_eq (input : WorkerInput) (stats : κ) :
    reportStages worker report snapshot input stats =
      ((messageDecisions snapshot (pendingMessages worker snapshot input)
        (inspectFrame worker snapshot input).2.2.packet).foldl report stats,
        classify worker snapshot input) := by
  unfold reportStages pendingMessages classify
  rcases inspectFrame worker snapshot input with ⟨later, status, result⟩
  by_cases zero : status = 0
  · subst zero
    by_cases stream : result.reason = .streamPending ∧ result.packet.transport = .tcp ∧
        result.packet.destinationPort = 53
    · have notBlocked : respondsUdp result = false := by simp [respondsUdp, stream.1]
      simp [notBlocked, stream, reportStream_eq, processStreams]
    · simp only [if_neg stream]
      split_ifs <;> rfl
  · simp [zero, messageDecisions]

/-- The reports of a call are its decisions, in their order. -/
theorem dataplaneWorkerReport_eq (input : WorkerInput) (stats : κ) :
    dataplaneWorkerReport worker report input stats =
      (input.snapshot.elim stats fun snapshot =>
          (decisions worker snapshot input).foldl report stats,
        dataplaneWorkerProcess worker input) := by
  unfold dataplaneWorkerReport dataplaneWorkerProcess
  cases input.snapshot with
  | none => rfl
  | some snapshot => simp [reportStages_eq, decisions]

end Reports

/-! ## Valid events -/

/-- A rule number and identity that the statistics can store. -/
def Persistent (ruleId : Nat) (statisticsId : Bytes) : Prop :=
  ruleId ≠ 0 ∧ ruleId ≤ counterMax ∧ identityEmpty statisticsId = false

/-- Every rule that a match reports can be stored. -/
def ReportsPersistent (found : StatsMatch) : Prop :=
  (found.matched = true → Persistent found.ruleId found.statisticsId) ∧
    (found.enforcingMatched = true → Persistent found.enforcingRuleId found.enforcingStatisticsId)

theorem appendMatchStats_eq (event : PolicyStatsEvent) (found : StatsMatch) :
    ∃ added : List PolicyStatsEventRule, appendMatchStats dimension event found =
        { event with rules := event.rules ++ added } ∧
      added.length ≤ 2 ∧
      (ReportsPersistent found → ∀ rule ∈ added, eventRuleValid rule = true) := by
  have valid : ∀ {ruleId : Nat} {statisticsId : Bytes}, Persistent ruleId statisticsId →
      ∀ (effect : PolicyEffect) (decision enforced : Bool),
        eventRuleValid {
          dimension := dimension
          ruleId := ruleId
          statisticsId := statisticsId
          decision := decision
          wouldBlock := effect == .block
          enforcedBlock := enforced && effect == .block
          allowDecision := enforced && effect == .allow
          shadowed := !decision } = true := by
    rintro ruleId statisticsId ⟨nonzero, bounded, identity⟩ effect decision enforced
    simp only [eventRuleValid, decide_eq_true nonzero, decide_eq_true bounded, identity]
    cases effect <;> cases decision <;> cases enforced <;> rfl
  unfold appendMatchStats appendStatsRule
  dsimp only
  split
  · refine ⟨[], ?_, Nat.zero_le 2, ?_⟩
    · rw [append_nil]
    · intro _ rule member
      cases member
  case isFalse reported =>
    have matched : found.matched = true := by simpa using reported
    split
    case isTrue distinct =>
      rw [Bool.and_eq_true] at distinct
      refine ⟨[_, _], by rw [append_assoc]; rfl, le_rfl, ?_⟩
      intro persistent rule member
      rcases mem_pair.mp member with rfl | rfl
      · exact valid (persistent.1 matched) _ _ _
      · exact valid (persistent.2 distinct.1) _ _ _
    case isFalse =>
      refine ⟨[_], rfl, Nat.le_succ 1, ?_⟩
      intro persistent rule member
      rw [mem_singleton.mp member]
      exact valid (persistent.1 matched) _ _ _

def PathAgrees (result : DataplaneResult) : Prop :=
  match result.policyPath with
  | none => True
  | some .dns => domainIsNormalized result.inspectedDomain = true ∧ result.queryType ≠ 0
  | some .tlsSni => domainIsNormalized result.inspectedDomain = true ∧ result.queryType = 0
  | some .networkDestination => result.inspectedDomain = [] ∧ result.queryType = 0

/-- A result whose event the collector accepts. -/
structure Reportable (result : DataplaneResult) : Prop where
  generation : result.policyGeneration ≠ 0
  client : clientValid (some result.client) = true
  policy : ReportsPersistent (domainMatch result.policy)
  destination : ReportsPersistent (destinationMatch result.destinationPolicy)
  path : PathAgrees result

theorem domainText_padded {name : Bytes} (text : ∀ value ∈ name, value ≠ 0)
    (bounded : name.length ≤ domainNameMax) :
    (name ++ replicate (domainNameMax + 1 - name.length) 0).contains 0 = true ∧
      (name ++ replicate (domainNameMax + 1 - name.length) 0).takeWhile (· != 0) = name := by
  obtain ⟨count, room⟩ : ∃ count, domainNameMax + 1 - name.length =
      count + 1 := ⟨domainNameMax - name.length, by omega⟩
  rw [room, replicate_succ]
  constructor
  · simp
  · rw [takeWhile_append_of_pos (by simpa using text)]
    simp

theorem eventPathValid_of_agrees (reported : result.policyPath = some path)
    (agrees : PathAgrees result) {event : PolicyStatsEvent} (samePath : event.path = path)
    (sameType : event.queryType = result.queryType)
    (padded : event.domain = result.inspectedDomain ++ replicate
      (domainNameMax + 1 - result.inspectedDomain.length) 0) : eventPathValid event = true := by
  have text : (∀ value ∈ result.inspectedDomain, value ≠ 0) ∧
      result.inspectedDomain.length ≤ domainNameMax := by
    have normalized : domainIsNormalized result.inspectedDomain = true →
        (∀ value ∈ result.inspectedDomain, value ≠ 0) ∧
          result.inspectedDomain.length ≤ domainNameMax := by
      intro isNormalized
      obtain ⟨bounded, run⟩ := Domain.domainIsNormalized_iff.mp isNormalized
      exact ⟨fun value member => (run.ascii.1 value member).1, bounded⟩
    unfold PathAgrees at agrees
    rw [reported] at agrees
    cases path with
    | dns | tlsSni => exact normalized agrees.1
    | networkDestination =>
      rw [agrees.1]
      exact ⟨fun _ member => absurd member not_mem_nil, Nat.zero_le _⟩
  obtain ⟨terminated, read⟩ := domainText_padded text.1 text.2
  unfold PathAgrees at agrees
  rw [reported] at agrees
  unfold eventPathValid PolicyStatsEvent.domainText
  rw [padded, terminated, read, samePath, sameType]
  cases path <;> simpa [and_comm] using agrees

theorem statsEvent_valid (reportable : Reportable result) (reported : result.policyPath = some path)
    (bounded : occurredAt ≤ counterMax) :
    eventValid (statsEvent result path occurredAt) = true := by
  unfold statsEvent appendDomainStats appendDestinationStats
  dsimp only
  obtain ⟨domainRules, domainEvent, domainCount, domainValid⟩ :=
    appendMatchStats_eq .domain {
      occurredAt := occurredAt
      policyGeneration := result.policyGeneration
      path := path
      client := result.client
      queryType := result.queryType
      domain := result.inspectedDomain ++ replicate
        (domainNameMax + 1 - result.inspectedDomain.length) 0 }
      (domainMatch result.policy)
  rw [domainEvent]
  obtain ⟨destinationRules, destinationEvent, destinationCount,
    destinationValid⟩ := appendMatchStats_eq .destination _
      (destinationMatch result.destinationPolicy)
  rw [destinationEvent]
  generalize listed : [] ++ domainRules ++ destinationRules = rules
  have ruleValid : ∀ rule ∈ rules, eventRuleValid rule = true := by
    intro rule member
    rw [← listed, nil_append] at member
    rcases mem_append.mp member with inDomain | inDestination
    · exact domainValid reportable.policy rule inDomain
    · exact destinationValid reportable.destination rule inDestination
  have count : rules.length ≤ eventRuleMax := by
    rw [← listed, nil_append, length_append]
    exact Nat.add_le_add domainCount destinationCount
  have blocked : rules.any PolicyStatsEventRule.enforcedBlock = true →
      rules.any PolicyStatsEventRule.wouldBlock = true := by
    simp only [any_eq_true]
    rintro ⟨rule, member, enforced⟩
    refine ⟨rule, member, ?_⟩
    have valid := ruleValid rule member
    simp only [eventRuleValid, Bool.and_eq_true, enforced] at valid
    simpa using valid.1.2
  have matched : rules.any PolicyStatsEventRule.wouldBlock = true → rules.isEmpty = false := by
    cases rules with
    | nil => exact fun wouldBlock => absurd wouldBlock Bool.false_ne_true
    | cons rule others => exact fun _ => rfl
  unfold eventValid
  simp only [Bool.and_eq_true, Bool.or_eq_true, Bool.not_eq_true', decide_eq_true_eq, all_eq_true]
  refine ⟨⟨⟨⟨⟨⟨⟨reportable.generation, bounded⟩, count⟩, ?_⟩, ?_⟩, ?_⟩, ?_⟩, ruleValid⟩
  · exact eventPathValid_of_agrees reported reportable.path rfl rfl rfl
  · exact reportable.client
  · cases wouldBlock : rules.any PolicyStatsEventRule.wouldBlock with
    | false => exact Or.inl rfl
    | true => exact Or.inr (matched wouldBlock)
  · cases enforced : rules.any PolicyStatsEventRule.enforcedBlock with
    | false => exact Or.inl rfl
    | true => exact Or.inr (blocked enforced)

/-! ## Snapshots whose rules can be stored -/

def Built (snapshot : PolicySnapshot) : Prop :=
  ∃ idn2LookupU8 domainHash rules destinationRules enforcement generation,
    policySnapshotBuildConfigured idn2LookupU8 domainHash rules
      destinationRules enforcement generation = .ok snapshot

/-- The rules of a snapshot have numbers up to `INT64_MAX` and identities that
are not all zero. -/
def StorableRules (snapshot : PolicySnapshot) : Prop :=
  (∀ rule ∈ snapshot.rules, rule.id ≤ counterMax ∧ identityEmpty rule.statisticsId = false) ∧
    ∀ rule ∈ snapshot.destinationRules, rule.id ≤ counterMax ∧
      identityEmpty rule.statisticsId = false
  deriving Decidable

/-- Every match against a snapshot reports rules that can be stored. -/
structure ReportsStored (snapshot : PolicySnapshot) : Prop where
  generation : snapshot.generation ≠ 0
  domain : ∀ {name client target found}, matchDomainTarget snapshot name client target = .ok found →
      ReportsPersistent (domainMatch found)
  destination : ∀ {destination client found},
    policyMatchDestination snapshot destination client = .ok found →
      ReportsPersistent (destinationMatch found)

theorem reportScan_persistent (persistent : ∀ rule ∈ rules, Persistent rule.id rule.statisticsId)
    (client : Option PolicyClient) (target : PolicyDomainTarget) (name : Bytes) :
    ReportsPersistent (domainMatch (reportScan snapshot client target name rules)) := by
  have scanned : ∀ (chosen : StoredRule → Bool) rule, linearScan chosen rules = some rule →
        Persistent rule.id rule.statisticsId := by
    intro chosen rule found
    have member := scan_mem ruleBetter_ranking found
    exact persistent rule (mem_of_mem_filter member)
  unfold reportScan
  cases selected : linearScan (ruleMatches client target name) rules <;>
    cases enforcing : linearScan (fun rule =>
      ruleMatches client target name rule && ruleEnforced snapshot client rule) rules
  · exact ⟨nofun, nofun⟩
  · exact ⟨nofun, fun _ => scanned _ _ enforcing⟩
  · exact ⟨fun _ => scanned _ _ selected, nofun⟩
  · exact ⟨fun _ => scanned _ _ selected, fun _ => scanned _ _ enforcing⟩

theorem reportDestination_persistent
    (persistent : ∀ rule ∈ rules, Persistent rule.id rule.statisticsId)
    (destination : PolicyDestination) (client : Option PolicyClient) :
    ReportsPersistent (destinationMatch (reportDestination snapshot client
      (destinationWinners snapshot destination client rules))) := by
  have scanned : ∀ (chosen : StoredDestinationRule → Bool) rule,
      scan destinationBetter (rules.filter chosen) = some rule →
        Persistent rule.id rule.statisticsId := by
    intro chosen rule found
    have member := scan_mem destinationBetter_ranking found
    exact persistent rule (mem_of_mem_filter member)
  have selectedRule := fun rule => scanned (fun rule =>
    destinationRuleMatches rule destination client) rule
  have enforcingRule := fun rule => scanned (fun rule =>
    destinationRuleMatches rule destination client &&
      destinationRuleEnforced snapshot client rule) rule
  unfold destinationWinners reportDestination
  revert selectedRule enforcingRule
  cases scan destinationBetter (rules.filter fun rule =>
      destinationRuleMatches rule destination client) <;>
    cases scan destinationBetter (rules.filter fun rule =>
      destinationRuleMatches rule destination client &&
        destinationRuleEnforced snapshot client rule) <;>
    intro selectedRule enforcingRule
  · exact ⟨nofun, nofun⟩
  · exact ⟨nofun, fun _ => enforcingRule _ rfl⟩
  · exact ⟨fun _ => selectedRule _ rfl, nofun⟩
  · exact ⟨fun _ => selectedRule _ rfl, fun _ => enforcingRule _ rfl⟩

theorem Built.reports (built : Built snapshot) (storable : StorableRules snapshot) :
    ReportsStored snapshot := by
  obtain ⟨idn2LookupU8, domainHash, rules, destinationRules, enforcement,
    generation, success⟩ := built
  obtain ⟨prepared, preparedOk, stored, _⟩ := policySnapshotBuildConfigured_rules success
  obtain ⟨preparedDestinations, destinationsOk, storedDestinations⟩ :=
    policySnapshotBuildConfigured_destinations success
  have domainRules : ∀ rule ∈ snapshot.rules, Persistent rule.id rule.statisticsId := by
    intro rule member
    refine ⟨?_, storable.1 rule member⟩
    rw [stored] at member
    obtain ⟨kept, inKept, rfl⟩ := mem_map.mp member
    obtain ⟨input, _, inputOk⟩ := (mem_prepareRules_iff preparedOk).mp
      (domainCanon.mem_of_mem_retained inKept)
    change kept.id ≠ 0
    rw [(prepareRule_accepted inputOk).id]
    exact (prepareRule_eq inputOk).1
  have storedRules : ∀ rule ∈ snapshot.destinationRules, Persistent rule.id rule.statisticsId := by
    intro rule member
    refine ⟨?_, storable.2 rule member⟩
    rw [storedDestinations] at member
    obtain ⟨kept, inKept, rfl⟩ := mem_map.mp member
    obtain ⟨input, _, inputOk⟩ :=
      (Outcome.mem_forall₂_ok_iff (prepareDestinationRules_forall₂ destinationsOk)).mp
        (destinationCanon.mem_of_mem_retained inKept)
    change kept.id ≠ 0
    rw [(prepareDestinationRule_accepted inputOk).id]
    exact (prepareDestinationRule_eq inputOk).1
  refine ⟨?_, ?_, ?_⟩
  · intro zero
    unfold policySnapshotBuildConfigured at success
    simp only [Outcome.throw_bind, Outcome.guard_eq_ok, Outcome.bind_eq_ok] at success
    obtain ⟨nonzero, _, _, _, _, ⟨_, _⟩, _, _, _, result⟩ := success
    cases result
    exact nonzero zero
  · intro name client target found matched
    by_cases checks : domainIsNormalized name = true ∧ clientValid client = true
    · rw [matchDomainTarget_rules success checks.1 checks.2] at matched
      cases matched
      exact reportScan_persistent domainRules client target name
    · rw [matchDomainTarget_refuses snapshot checks] at matched
      cases matched
  · intro destination client found matched
    by_cases checks : destinationValid destination = true ∧ clientValid client = true
    · rw [policyMatchDestination_eq snapshot checks.1 checks.2] at matched
      cases matched
      exact reportDestination_persistent storedRules destination client
    · rw [policyMatchDestination_refuses snapshot checks] at matched
      cases matched

/-! ## Evaluations -/

/-- Every question of a query message asks for a nonzero type. -/
def TypedQuery (message : Bytes) : Prop :=
  ∀ dns ∈ (dnsParseQuery message).toOption, ∀ question ∈ dns.questions, question.type ≠ 0
  deriving Decidable

theorem reportable_parsed (stored : ReportsStored snapshot) (packet : PacketView) :
    Reportable (parsedResult snapshot packet) :=
  ⟨stored.generation, rfl, ⟨nofun, nofun⟩, ⟨nofun, nofun⟩, trivial⟩

theorem evaluateDestination_reportable (stored : ReportsStored snapshot)
    (built : buildClient packet = .ok client) (view : PacketView) :
    Reportable (evaluateDestination packet client snapshot (parsedResult snapshot view)).2 ∧
      (evaluateDestination packet client snapshot
        (parsedResult snapshot view)).2.questionIndex = none ∧
      (evaluateDestination packet client snapshot
        (parsedResult snapshot view)).2.queryType = 0 := by
  have valid := buildClient_valid built
  unfold evaluateDestination
  cases matched : policyMatchDestination snapshot (packetDestination packet) (some client) with
  | error status => exact ⟨reportable_parsed stored view, rfl, rfl⟩
  | ok found =>
    have reports := stored.destination matched
    dsimp only
    split <;> exact ⟨⟨stored.generation, valid, ⟨nofun, nofun⟩, reports, ⟨rfl, rfl⟩⟩, rfl, rfl⟩

theorem matchDomainTarget_normalized
    (matched : matchDomainTarget snapshot name client target = .ok found) :
    domainIsNormalized name = true := by
  by_contra other
  rw [matchDomainTarget_refuses snapshot (fun checks => other checks.1)] at matched
  cases matched

theorem evaluateDnsPayload_reportable (stored : ReportsStored snapshot) (typed : TypedQuery message)
    (client : PolicyClient) (reportable : Reportable result)
    (unasked : result.questionIndex = none) :
    Reportable (evaluateDnsPayload client snapshot message result).2 := by
  unfold evaluateDnsPayload
  cases parsed : dnsParseQuery message with
  | error dnsResult => exact { reportable with }
  | ok dns =>
    dsimp only
    obtain ⟨verdict, reason, questionIndex, policy, frame, _, reported⟩ :=
      evaluateDns_frame client snapshot dns.questions 0 { result with dnsResult := .ok }
    have kept : Reportable (evaluateDns client snapshot 0 dns.questions
          { result with dnsResult := .ok }).2 := by
      rw [frame]
      refine { reportable with policy := ?_ }
      rcases reported with ⟨_, rfl⟩ | ⟨_, _, _, _, matched⟩
      · exact reportable.policy
      · exact stored.domain matched
    split
    · unfold retainDnsQuestion
      split
      · exact kept
      case h_2 question asked =>
        refine { kept with path := ?_ }
        rw [frame] at asked
        rcases reported with ⟨rfl, _⟩ | ⟨offset, other, listed, rfl, matched⟩
        · rw [unasked] at asked
          cases asked
        rw [Nat.zero_add] at asked
        have same : question = other := Option.some.inj (asked.symm.trans listed)
        subst same
        refine ⟨matchDomainTarget_normalized matched, ?_⟩
        apply typed dns (by rw [parsed]; rfl)
        exact mem_of_getElem? listed
    · exact kept

/-- The verdict and the reason do not enter the event. -/
theorem Reportable.decide (reportable : Reportable result)
    (verdict : NfqueueVerdict) (reason : DataplaneReason) :
    Reportable { result with verdict := verdict, reason := reason } :=
  { reportable with }

theorem evaluateSelected_reportable (stored : ReportsStored snapshot)
    (client : PolicyClient) (reportable : Reportable result)
    (unasked : result.questionIndex = none)
    (typed : result.packet.fragmented = false →
      result.packet.transport = .udp → result.packet.destinationPort = 53 →
      result.packet.transportComplete = true →
        TypedQuery (slice result.packet.frame result.packet.payloadOffset
          result.packet.payloadSize)) :
    Reportable (evaluateSelected client snapshot result).2 := by
  unfold evaluateSelected
  dsimp only
  split
  · exact reportable.decide _ _
  case isFalse whole =>
    split
    · exact reportable.decide _ _
    split
    · exact reportable.decide _ _
    case isFalse query =>
      simp only [not_or, not_not] at query
      cases complete : result.packet.transportComplete with
      | false => exact reportable
      | true =>
        exact evaluateDnsPayload_reportable stored (typed
          (by simpa using whole) query.1 query.2 complete) client
          reportable unasked

def datagramMessage (limits : PacketLimits) (frame : Bytes) : Option Bytes :=
  match packetParse frame limits with
  | (.ok, view) =>
    if view.fragmented = false ∧ view.transport = .udp ∧
        view.destinationPort = 53 ∧ view.transportComplete = true then
      some (slice view.frame view.payloadOffset view.payloadSize)
    else none
  | _ => none

variable (stored : ReportsStored snapshot)

include stored

theorem dataplaneEvaluate_reportable
    (typed : ∀ message ∈ datagramMessage limits frame, TypedQuery message) :
    Reportable (dataplaneEvaluate frame limits snapshot).2 := by
  unfold dataplaneEvaluate
  unfold datagramMessage at typed
  split
  · exact ⟨stored.generation, rfl, ⟨nofun, nofun⟩, ⟨nofun, nofun⟩, trivial⟩
  case h_2 view parsed =>
    rw [parsed] at typed
    dsimp only at typed ⊢
    cases built : buildClient view with
    | error status => exact reportable_parsed stored view
    | ok client =>
      dsimp only
      obtain ⟨reportable, unasked, _⟩ := evaluateDestination_reportable stored built view
      have samePacket : (evaluateDestination view client snapshot
          (parsedResult snapshot view)).2.packet = view :=
        evaluateDestination_packet
      split
      case h_1 later destination =>
        rw [destination] at reportable unasked samePacket
        split
        · exact reportable
        apply evaluateSelected_reportable stored client reportable unasked
        rw [samePacket]
        intro whole udp port complete
        apply typed
        rw [if_pos ⟨whole, udp, port, complete⟩]
        rfl
      case h_2 later other destination =>
        rw [destination] at reportable
        exact reportable
  · exact ⟨stored.generation, rfl, ⟨nofun, nofun⟩, ⟨nofun, nofun⟩, trivial⟩

theorem dataplaneEvaluateTcpDns_reportable (packet : PacketView) (typed : TypedQuery message) :
    Reportable (dataplaneEvaluateTcpDns packet message snapshot).2 := by
  have initial : Reportable (parsedResult snapshot packet) := reportable_parsed stored packet
  unfold dataplaneEvaluateTcpDns
  split
  · exact ⟨stored.generation, rfl, ⟨nofun, nofun⟩, ⟨nofun, nofun⟩, trivial⟩
  unfold evaluateDnsMessage
  cases built : buildClient packet with
  | error status => exact initial
  | ok client =>
    obtain ⟨reportable, unasked, _⟩ := evaluateDestination_reportable stored built packet
    dsimp only
    split
    case h_1 later destination =>
      rw [destination] at reportable unasked
      split
      · exact reportable
      · exact evaluateDnsPayload_reportable stored typed client reportable unasked
    case h_2 later other destination =>
      rw [destination] at reportable
      exact reportable

theorem dataplaneEvaluateVisibleSni_reportable (packet : PacketView) (serverName : Bytes) :
    Reportable (dataplaneEvaluateVisibleSni packet serverName snapshot).2 := by
  have blank : Reportable (initializeResult snapshot) :=
    ⟨stored.generation, rfl, ⟨nofun, nofun⟩, ⟨nofun, nofun⟩, trivial⟩
  unfold dataplaneEvaluateVisibleSni
  split
  · exact blank
  cases built : buildClient packet with
  | error status => exact blank
  | ok client =>
    obtain ⟨reportable, _, untyped⟩ := evaluateDestination_reportable stored built packet
    dsimp only
    split
    case h_1 later destination =>
      rw [destination] at reportable untyped
      split
      · exact reportable
      cases matched : policyMatchVisibleSni snapshot serverName (some client) with
      | error status => exact reportable
      | ok found =>
        exact { reportable with
          policy := stored.domain matched
          path := ⟨matchDomainTarget_normalized matched, untyped⟩ }
    case h_2 later other destination =>
      rw [destination] at reportable
      exact reportable

end WorkerStats

end JanusGate
