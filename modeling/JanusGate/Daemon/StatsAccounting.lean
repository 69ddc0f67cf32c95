import JanusGate.Daemon.WorkerStats

/-!
# Accounting of decisions

Every result that one call of the worker submits passes the checks of the
collector when the rules of the snapshot can be stored and the DNS messages
inspected ask for nonzero types.  The collector then counts each decision
exactly once.
-/

namespace JanusGate

open Policy PolicyStats Dataplane Worker Runs List

namespace WorkerStats

/-! ## The stages of one call -/

/-- The frame that reassembly rebuilds when a fragment completes a
datagram. -/
def rebuiltFrame (worker : DataplaneWorker) (snapshot : PolicySnapshot)
    (input : WorkerInput) : Option Bytes :=
  let (status, result) := dataplaneEvaluate input.frame worker.limits snapshot
  match input.fragmentClock with
  | none => none
  | some nowMs =>
    let payloadSize := worker.fragments.limits.maxBytesPerDatagram
    if status = 0 ∧ result.reason = .fragmentPending then
      match (fragmentTrackerAdd worker.fragments result.packet nowMs payloadSize).2 with
      | .ok (.complete payload) =>
        (fragmentBuildFrame result.packet payload
          (payloadSize + Fragment.frameOverheadMax)).toOption
      | _ => none
    else none

/-- The DNS messages that one call inspects. -/
def inspectedMessages (worker : DataplaneWorker) (snapshot : PolicySnapshot)
    (input : WorkerInput) : List Bytes :=
  (input.frame :: (rebuiltFrame worker snapshot input).toList).filterMap
      (datagramMessage worker.limits) ++
    pendingMessages worker snapshot input

/-- A rebuilt frame takes the place of the fragment that completed it. -/
theorem inspectFrame_rebuilt :
    (∃ frame ∈ rebuiltFrame worker snapshot input, (inspectFrame worker snapshot input).2 =
      dataplaneEvaluate frame worker.limits snapshot) ∨
    (inspectFrame worker snapshot input).2.2 =
      (dataplaneEvaluate input.frame worker.limits snapshot).2 ∨
    (inspectFrame worker snapshot input).2.2 =
      { (dataplaneEvaluate input.frame worker.limits snapshot).2 with
        verdict := .drop, reason := .malformed } := by
  unfold inspectFrame
  dsimp only
  split
  case isFalse => exact .inr (.inl rfl)
  case isTrue fragment =>
    unfold processFragment
    cases clock : input.fragmentClock with
    | none => exact .inr (.inl rfl)
    | some nowMs =>
      dsimp only
      split
      · exact .inr (.inl rfl)
      case h_2 payload complete =>
        split
        · exact .inr (.inl rfl)
        case h_2 frame rebuilt =>
          exact .inl ⟨frame, by simp [rebuiltFrame, clock, fragment, complete, rebuilt,
            Except.toOption], rfl⟩
      all_goals first
        | exact .inr (.inl rfl)
        | exact .inr (.inr rfl)

theorem inspectFrame_reportable (stored : ReportsStored snapshot)
    (typed : ∀ message ∈ inspectedMessages worker snapshot input, TypedQuery message) :
    Reportable (inspectFrame worker snapshot input).2.2 := by
  have frameTyped : ∀ frame ∈ input.frame :: (rebuiltFrame worker snapshot input).toList,
      Reportable (dataplaneEvaluate frame worker.limits snapshot).2 := by
    intro frame member
    apply dataplaneEvaluate_reportable stored
    intro message found
    apply typed
    rw [inspectedMessages, mem_append]
    exact Or.inl (mem_filterMap.mpr ⟨frame, member, found⟩)
  have direct := frameTyped input.frame mem_cons_self
  rcases inspectFrame_rebuilt with ⟨frame, rebuilt, same⟩ | same | same
  · rw [same]
    exact frameTyped frame (mem_cons_of_mem _ (Option.mem_toList.mpr rebuilt))
  · rwa [same]
  · rw [same]
    exact direct.decide _ _

theorem Reportable.clear (reportable : Reportable result) :
    Reportable { result with policyPath := none } :=
  { reportable with path := trivial }

section

variable (stored : ReportsStored snapshot)

include stored

theorem processMessages_reportable (nowMs : Nat) (resetStatus : Int) (tracker : TcpStreamTracker)
    (typed : ∀ message ∈ messages, TypedQuery message) :
    ∀ {result : DataplaneResult}, Reportable result →
      Reportable (processMessages snapshot nowMs resetStatus tracker messages result).2.2 := by
  induction messages with
  | nil => exact fun reportable => reportable
  | cons message messages ih =>
    intro result _
    have evaluated := dataplaneEvaluateTcpDns_reportable stored
      result.packet (typed message mem_cons_self)
    unfold processMessages
    dsimp only
    split
    · exact evaluated
    split
    · exact evaluated.clear
    · exact ih (fun other member => typed other (mem_cons_of_mem _ member)) evaluated.clear

theorem messageDecisions_reportable (typed : ∀ message ∈ messages, TypedQuery message) :
    ∀ (packet : PacketView), ∀ result ∈ messageDecisions snapshot messages packet,
        Reportable result := by
  induction messages with
  | nil => exact fun _ _ member => absurd member not_mem_nil
  | cons message messages ih =>
    intro packet result member
    have evaluated := dataplaneEvaluateTcpDns_reportable stored packet (typed message mem_cons_self)
    unfold messageDecisions at member
    dsimp only at member
    split at member
    · exact absurd member not_mem_nil
    split at member
    · rw [mem_singleton.mp member]
      exact evaluated
    · rcases mem_cons.mp member with rfl | later
      · exact evaluated
      · exact ih (fun other member => typed other (mem_cons_of_mem _ member)) _ result later

theorem processStream_reportable (reportable : Reportable result)
    (typed : ∀ message ∈ streamMessages worker input result, TypedQuery message) :
    Reportable (processStream worker snapshot input result).2.2 := by
  unfold processStream
  unfold streamMessages at typed
  cases clock : input.streamClock with
  | none => exact reportable
  | some nowMs =>
    rw [clock] at typed
    dsimp only at typed ⊢
    split
    · exact reportable
    case h_2 messages answer =>
      rw [answer] at typed
      exact processMessages_reportable stored _ _ _ typed reportable
    all_goals exact reportable.decide _ _

theorem applyClientHello_reportable (tracker : TcpStreamTracker) (reportable : Reportable result)
    (hello : TlsClientHello) (helloResult : TlsClientHelloResult) (nowMs : Nat)
    (resetStatus : Int) :
    Reportable (applyClientHello tracker snapshot result hello helloResult
      nowMs resetStatus).2.2 := by
  have evaluated := dataplaneEvaluateVisibleSni_reportable stored result.packet hello.serverName
  unfold applyClientHello acceptUnavailableSni
  cases helloResult with
  | complete =>
    dsimp only
    split
    · split
      · exact evaluated
      split
      · exact evaluated
      split
      · exact evaluated.decide _ _
      · exact evaluated
    · exact reportable.decide _ _
  | notClientHello | malformed | tooLarge | more => exact reportable.decide _ _

theorem processTlsStream_reportable (worker : DataplaneWorker) (input : WorkerInput)
    (reportable : Reportable result) :
    Reportable (processTlsStream worker snapshot input result).2.2 := by
  unfold processTlsStream
  cases input.streamClock with
  | none => exact reportable
  | some nowMs =>
    dsimp only
    split
    · exact reportable
    split
    · exact reportable
    split
    · unfold feedTlsBytes
      dsimp only
      split
      · exact applyClientHello_reportable stored _ reportable _ _ _ _
      · exact reportable.decide _ _
    all_goals exact reportable.decide _ _

/-- Everything one call submits is reportable when the DNS messages it
inspects ask for nonzero types. -/
theorem decisions_reportable
    (typed : ∀ message ∈ inspectedMessages worker snapshot input, TypedQuery message) :
    ∀ result ∈ decisions worker snapshot input, Reportable result := by
  have pending : ∀ message ∈ pendingMessages worker snapshot input,
      TypedQuery message := fun message member =>
    typed message (mem_append_right _ member)
  have inspected := inspectFrame_reportable stored typed
  intro result member
  rcases mem_append.mp member with ofMessage | final
  · exact messageDecisions_reportable stored pending _ result ofMessage
  rw [mem_singleton.mp final]
  unfold pendingMessages at pending
  rcases found : inspectFrame worker snapshot input with ⟨later, status, evaluated⟩
  rw [found] at inspected pending
  rw [classify_eq found]
  split
  case isFalse => exact inspected
  case isTrue success =>
    subst success
    split
    · exact inspected
    unfold processStreams
    split
    case isFalse => exact inspected
    case isTrue stream =>
      split
      case isTrue port =>
        apply processStream_reportable stored inspected
        simpa only [stream, port, and_self, if_true] using pending
      case isFalse =>
        split
        · exact processTlsStream_reportable stored later input inspected
        · exact inspected

end

/-! ## No decision is submitted twice -/

theorem evaluateDns_failed (failed : (evaluateDns client snapshot index questions result).1 ≠ 0) :
    (evaluateDns client snapshot index questions result).2.reason = result.reason := by
  obtain ⟨_, _, _, _, frame, settles, _⟩ := evaluateDns_frame client snapshot questions index result
  rw [frame]
  exact settles.resolve_right fun done => failed done.1

theorem dataplaneEvaluateTcpDns_failed
    (failed : (dataplaneEvaluateTcpDns packet message snapshot).1 ≠ 0) :
    (dataplaneEvaluateTcpDns packet message snapshot).2.reason = .malformed := by
  unfold dataplaneEvaluateTcpDns at failed ⊢
  split
  · rfl
  case isFalse selected =>
    rw [if_neg selected] at failed
    unfold evaluateDnsMessage at failed ⊢
    cases built : buildClient packet with
    | error status => rfl
    | ok client =>
      rw [built] at failed
      obtain ⟨found, destination⟩ := evaluateDestination_eq built snapshot
        (parsedResult snapshot packet)
      dsimp only at failed ⊢
      rw [destination] at failed ⊢
      cases blocks : destinationBlocks packet client snapshot with
      | true =>
        rw [blocks] at failed
        exact absurd rfl failed
      | false =>
        rw [blocks] at failed
        simp only [Bool.false_eq_true, if_false, parsedResult_reason, reduceCtorEq] at failed ⊢
        unfold evaluateDnsPayload at failed ⊢
        cases parsed : dnsParseQuery message with
        | error dnsResult => rfl
        | ok dns =>
          rw [parsed] at failed
          dsimp only at failed ⊢
          split at failed
          · exact absurd rfl failed
          case isFalse nonzero =>
            rw [if_neg nonzero]
            exact evaluateDns_failed nonzero

theorem processMessages_submitted :
    ∀ {result : DataplaneResult}, messages ≠ [] ∨ result.policyPath = none →
        (processMessages snapshot nowMs resetStatus tracker messages result).2.2.policyPath = none ∨
          (processMessages snapshot nowMs resetStatus tracker messages
            result).2.2.reason = .malformed := by
  induction messages with
  | nil =>
    rintro result (nonempty | cleared)
    · exact absurd rfl nonempty
    · exact Or.inl cleared
  | cons message messages ih =>
    intro result _
    unfold processMessages
    dsimp only
    split
    case isTrue failed => exact Or.inr (dataplaneEvaluateTcpDns_failed failed)
    case isFalse =>
      split
      · exact Or.inl rfl
      · exact ih (Or.inr rfl)

/-- When messages were completed, their decisions are the only ones of the
call. -/
theorem completed_messages_submitted (completed : pendingMessages worker snapshot input ≠ []) :
    (classify worker snapshot input).2.2.policyPath = none ∨
      (classify worker snapshot input).2.2.reason = .malformed := by
  unfold pendingMessages at completed
  rcases found : inspectFrame worker snapshot input with ⟨later, status, result⟩
  rw [found] at completed
  rw [classify_eq found]
  by_cases zero : status = 0
  case neg => simp [zero] at completed
  case pos =>
    subst zero
    replace completed : (if result.reason = .streamPending ∧ result.packet.transport = .tcp ∧
        result.packet.destinationPort = 53 then streamMessages later input result
        else []) ≠ [] := completed
    split at completed
    case isFalse => exact absurd rfl completed
    case isTrue selected =>
      obtain ⟨pending, tcp, port⟩ := selected
      have notBlocked : respondsUdp result = false := by simp [respondsUdp, pending]
      rw [if_pos rfl, notBlocked, if_neg (by decide)]
      unfold processStreams
      rw [if_pos ⟨pending, tcp⟩, if_pos port]
      unfold streamMessages at completed
      unfold processStream
      cases clock : input.streamClock with
      | none =>
        rw [clock] at completed
        exact absurd rfl completed
      | some nowMs =>
        rw [clock] at completed
        dsimp only at completed ⊢
        split at completed
        case h_1 messages answer =>
          rw [answer]
          exact processMessages_submitted (Or.inl completed)
        case h_2 => exact absurd rfl completed

/-! ## Every decision is counted -/

/-- One of the two counters grows by one and the other keeps its value. -/
def CountedOnce (collector later : PolicyStatsCollector) : Prop :=
  (later.submitted = collector.submitted + 1 ∧ later.dropped = collector.dropped) ∨
    (later.submitted = collector.submitted ∧ later.dropped = collector.dropped + 1)
  deriving Decidable

theorem saturatingAdd_one (room : counter < uint64Max) : saturatingAdd counter 1 = counter + 1 := by
  unfold saturatingAdd
  rw [if_neg (by omega)]

theorem submitPolicyStats_counted (reportable : Reportable result)
    (reported : result.policyPath.isSome = true) (decided : isDecided result = true)
    (submittedRoom : collector.submitted < uint64Max) (droppedRoom : collector.dropped < uint64Max)
    (nonnegative : 0 ≤ occurredAt) (trylock : Int) :
    CountedOnce collector (submitPolicyStats collector result occurredAt trylock) := by
  obtain ⟨path, hasPath⟩ := Option.isSome_iff_exists.mp reported
  have bounded : occurredAt.toInt.toNat ≤ counterMax := by
    have range := Int64.toInt_lt occurredAt
    unfold counterMax
    omega
  have later : submitPolicyStats collector result occurredAt trylock =
      (policyStatsCollectorSubmit collector
        (statsEvent result path occurredAt.toInt.toNat) trylock).1 := by
    unfold submitPolicyStats
    rw [hasPath]
    dsimp only
    rw [decided, if_neg (by decide), if_neg (Int64.not_lt.mpr nonnegative)]
  rw [later]
  rcases @submit_valid _ collector trylock
    (statsEvent_valid reportable hasPath bounded) with refused | ⟨_, queued⟩
  · refine Or.inr ⟨refused.submitted, ?_⟩
    rw [refused.dropped, saturatingAdd_one droppedRoom]
  · rw [queued]
    exact Or.inl ⟨saturatingAdd_one submittedRoom, rfl⟩

theorem submitPolicyStats_unreported
    (unreported : result.policyPath = none ∨ result.reason = .malformed) :
    submitPolicyStats collector result occurredAt trylock = collector := by
  unfold submitPolicyStats
  rcases unreported with noPath | malformed
  · rw [noPath]
  · cases result.policyPath with
    | none => rfl
    | some path => simp [isDecided, malformed]

/-- Every rule of the snapshot can be stored, and every DNS message asks for nonzero types. -/
def StepStorable (worker : DataplaneWorker) (input : WorkerInput) : Prop :=
  ∀ snapshot ∈ input.snapshot, StorableRules snapshot ∧
    ∀ message ∈ inspectedMessages worker snapshot input, TypedQuery message
  deriving Decidable

/-- Each decision with a path makes exactly one of the two counters grow by one, when the steps meet
the condition. -/
theorem every_decision_counted (worker : DataplaneWorker) (inputs : List WorkerInput)
    (built : ∀ input ∈ inputs, ∀ snapshot ∈ input.snapshot, Built snapshot)
    (storable : Meets (fun _ => StepStorable) (run dataplaneWorkerProcess worker inputs)) :
    ∀ event ∈ run dataplaneWorkerProcess worker inputs, ∀ snapshot ∈ event.input.snapshot,
        (∀ result ∈ decisions event.before snapshot event.input,
          result.policyPath.isSome = true → isDecided result = true →
          ∀ collector : PolicyStatsCollector, collector.submitted < uint64Max →
            collector.dropped < uint64Max →
            ∀ occurredAt : Int64, 0 ≤ occurredAt → ∀ trylock : Int, CountedOnce collector
                (submitPolicyStats collector result occurredAt trylock)) ∧
        (pendingMessages event.before snapshot event.input ≠ [] → ∀ collector occurredAt trylock,
            submitPolicyStats collector (classify event.before snapshot event.input).2.2 occurredAt
                trylock = collector) := by
  intro event reached snapshot acquired
  refine ⟨?_, fun completed collector occurredAt trylock =>
    submitPolicyStats_unreported (completed_messages_submitted completed)⟩
  intro result decided
  obtain ⟨past, future, split⟩ := append_of_mem reached
  have step := storable past event future split snapshot acquired
  have used : event.input ∈ inputs := input_mem reached
  have stored := (built event.input used snapshot acquired).reports step.1
  have reportable := decisions_reportable stored step.2 result decided
  intro reported settled collector submittedRoom droppedRoom occurredAt nonnegative trylock
  exact submitPolicyStats_counted reportable reported settled submittedRoom
    droppedRoom nonnegative trylock

def startedCollector : Option PolicyStatsCollector :=
  (policyStatsCollectorCreate 4 1).toOption.map fun collector =>
    (policyStatsCollectorStart collector).1

/-- A query for the blocked domain "a" is reported and counted. -/
theorem every_decision_counted_blocked :
    blockingSnapshot.isSome = true ∧ startedCollector.isSome = true ∧
    ∀ snapshot ∈ blockingSnapshot, ∀ collector ∈ startedCollector,
      ∃ result ∈ decisions sampleWorker snapshot (fragmentInput (queryFrame 0x61) 0),
        result.reason = .policyBlock ∧
        CountedOnce collector (submitPolicyStats collector result 5 0) := by
  have facts : blockingSnapshot.isSome = true ∧ startedCollector.isSome = true ∧
      (∀ collector ∈ startedCollector, collector.submitted < uint64Max ∧
        collector.dropped < uint64Max) ∧
      (∀ snapshot ∈ blockingSnapshot, ∃ result ∈ decisions sampleWorker
        snapshot (fragmentInput (queryFrame 0x61) 0),
          result.reason = .policyBlock ∧ result.policyPath.isSome = true ∧
            isDecided result = true) ∧
      StepStorable sampleWorker (fragmentInput (queryFrame 0x61) 0) := by
    decide +kernel
  obtain ⟨snapshotOk, collectorOk, room, decided, storable⟩ := facts
  refine ⟨snapshotOk, collectorOk, fun snapshot acquired collector started => ?_⟩
  obtain ⟨result, member, blocked, reported, settled⟩ := decided snapshot acquired
  refine ⟨result, member, blocked, ?_⟩
  have built : ∀ input ∈ [fragmentInput (queryFrame 0x61) 0],
      ∀ snapshot ∈ input.snapshot, Built snapshot := by
    intro input only snapshot found
    rw [mem_singleton.mp only] at found
    exact ⟨some, fun _ => 0, [blockingRule], [], none, 1, Outcome.eq_ok_of_mem_toOption found⟩
  exact (every_decision_counted sampleWorker [fragmentInput (queryFrame 0x61) 0] built
    (meets_of_meetsFrom ⟨storable, trivial⟩) _ mem_cons_self
    snapshot acquired).1 result member reported settled collector
    (room collector started).1 (room collector started).2 5 (by decide) 0

def untypedQuery : Bytes :=
  Fragment.sampleFrame 0 false
    [0x10, 0, 0, 53, 0, 27, 0, 0, 0, 1, 1, 0, 0, 1, 0, 0, 0, 0, 0, 0, 1, 0x62, 0, 0, 0, 0, 1]

/-- The rule that `read_encrypted_endpoints` makes for an endpoint at port 853
of 10.0.0.2. -/
def endpointRule : PolicyDestinationRuleInput where
  id := 2 ^ 63 + 1
  statisticsId := replicate 16 0
  effect := .block
  enforcement := .enforce
  source := .blocklist
  transport := .udp
  hasAddress := true
  addressFamily := .ipv4
  address := [10, 0, 0, 2]
  prefixLength := 32
  hasPort := true
  port := 853
  scope := .global
  attribution := [0x61]

def endpointSnapshot : Option PolicySnapshot :=
  (policySnapshotBuildConfigured some (fun _ => 0) [] [endpointRule] none 1).toOption

def endpointInput : WorkerInput where
  frame := Fragment.sampleFrame 0 false [0x10, 0, 3, 0x55, 0, 8, 0, 0]
  snapshot := endpointSnapshot
  fragmentClock := some 0
  streamClock := some 0
  responseStatus := 0
  resetStatus := 0

/-- Two decisions that leave both counters as they were. -/
theorem decisions_uncounted : (∃ snapshot ∈ blockingSnapshot, ∃ collector ∈ startedCollector,
      ∃ result ∈ decisions sampleWorker snapshot (fragmentInput untypedQuery 0),
        result.policyPath = some .dns ∧ result.reason = .policyAllow ∧
        isDecided result = true ∧
        (submitPolicyStats collector result 5 0).submitted = collector.submitted ∧
        (submitPolicyStats collector result 5 0).dropped = collector.dropped ∧
        ¬ CountedOnce collector (submitPolicyStats collector result 5 0)) ∧
    ∃ snapshot ∈ endpointSnapshot, ∃ collector ∈ startedCollector,
      ∃ result ∈ decisions sampleWorker snapshot endpointInput,
        result.policyPath = some .networkDestination ∧
        result.reason = .policyBlock ∧ isDecided result = true ∧
        (submitPolicyStats collector result 5 0).submitted = collector.submitted ∧
        (submitPolicyStats collector result 5 0).dropped = collector.dropped ∧
        ¬ CountedOnce collector (submitPolicyStats collector result 5 0) := by
  decide +kernel

end WorkerStats

end JanusGate
