import JanusGate.Daemon.StreamInvariant
import JanusGate.Daemon.WorkerFragments

/-!
# DNS over TCP through the worker

The tracker consumes the bytes of a message before the message is evaluated.
A flow stays blocked afterwards only when the worker rejects it, which it does
for a message that policy refuses and for no other.
-/

namespace JanusGate

open Runs Packet TcpStream Dataplane Worker

namespace Dataplane

/-- A TCP packet to port 53 is dropped or left to the stream stage. -/
theorem dataplaneEvaluate_dnsStream
    (valid : packetValidForPort (dataplaneEvaluate frame limits snapshot).2.packet 53 = true) :
    (dataplaneEvaluate frame limits snapshot).2.verdict = .drop ∨
      (dataplaneEvaluate frame limits snapshot).2.reason = .streamPending := by
  rcases parsed : packetParse frame limits with ⟨outcome, view⟩
  cases outcome with
  | ok =>
    rcases @dataplaneEvaluate_parsed frame limits snapshot view parsed with
      ⟨dropped, _, _⟩ | ⟨client, result, _, _, _, packet, evaluated⟩
    · exact .inl dropped
    rw [evaluated, evaluateSelected_packet, packet] at valid
    simp only [packetValidForPort, Bool.and_eq_true,
      Bool.not_eq_eq_eq_not, Bool.not_true, beq_iff_eq] at valid
    obtain ⟨⟨⟨⟨⟨⟨⟨⟨whole, tcp⟩, _⟩, port⟩, _⟩, _⟩, _⟩, _⟩, _⟩ := valid
    right
    rw [evaluated, evaluateSelected]
    simp [packet, whole, tcp, port, isStreamPort]
  | nonIp =>
    have noIp := packetParse_nonIp parsed
    unfold dataplaneEvaluate at valid
    simp [parsed, packetValidForPort, noIp] at valid
  | _ =>
    left
    unfold dataplaneEvaluate
    simp [parsed, initializeResult]

theorem dataplaneEvaluateTcpDns_packet
    (zero : (dataplaneEvaluateTcpDns packet message snapshot).1 = 0) :
    (dataplaneEvaluateTcpDns packet message snapshot).2.packet = packet := by
  unfold dataplaneEvaluateTcpDns at zero ⊢
  split at zero
  · cases zero
  rw [if_neg (by assumption)]
  unfold evaluateDnsMessage at zero ⊢
  cases built : buildClient packet with
  | error status => simp [built, eInval] at zero
  | ok client =>
    simp only [built] at zero ⊢
    have kept := @evaluateDestination_packet (parsedResult snapshot packet) client snapshot packet
    split
    · split
      · simp_all
      · rw [evaluateDnsPayload_packet]
        simp_all
    · simp_all

end Dataplane

namespace Worker

/-! ## The DNS stream stage of a call -/

/-- What a call hands to the DNS stream stage. -/
structure StreamCall where
  snapshot : PolicySnapshot
  result : DataplaneResult
  nowMs : Nat

def StreamCall.packet (call : StreamCall) : PacketView := call.result.packet

def dnsStreamCall (worker : DataplaneWorker) (input : WorkerInput) : Option StreamCall :=
  match input.snapshot, input.streamClock with
  | some snapshot, some nowMs =>
    let inspected := inspectFrame worker snapshot input
    if inspected.2.1 = 0 ∧ inspected.2.2.reason = .streamPending ∧
        inspected.2.2.packet.transport = .tcp ∧
        inspected.2.2.packet.destinationPort = 53 then
      some ⟨snapshot, inspected.2.2, nowMs⟩
    else none
  | _, _ => none

/-- The tracker's answer to a call, with the buffer sizes of the worker. -/
def streamAnswer (streams : TcpStreamTracker) (call : StreamCall) :
    TcpStreamTracker × Except Int TcpStreamResult :=
  tcpStreamTrackerAdd streams call.packet call.nowMs
    streams.limits.maxBufferedBytes streams.limits.maxMessagesPerPacket

def streamStage (streams : TcpStreamTracker) (call : StreamCall)
    (resetStatus : Int) : TcpStreamTracker :=
  match (streamAnswer streams call).2 with
  | .ok (.messages messages) =>
    (processMessages call.snapshot call.nowMs resetStatus
      (streamAnswer streams call).1 messages call.result).1
  | _ => (streamAnswer streams call).1

variable {streams : TcpStreamTracker}

theorem respondsUdp_tcp (tcp : result.packet.transport = .tcp) : respondsUdp result = false := by
  simp [respondsUdp, tcp]

theorem processStream_streams (clock : input.streamClock = some nowMs) :
    (processStream worker snapshot input result).1.streams =
      streamStage worker.streams ⟨snapshot, result, nowMs⟩ input.resetStatus := by
  unfold processStream streamStage streamAnswer StreamCall.packet
  simp only [clock]
  split <;> rename_i answered <;> simp only [answered]

theorem processStream_conflict (clock : input.streamClock = some nowMs)
    (conflict : (streamAnswer worker.streams ⟨snapshot, result, nowMs⟩).2 = .ok .conflict) :
    (processStream worker snapshot input result).2.2.verdict = .drop := by
  unfold processStream
  unfold streamAnswer StreamCall.packet at conflict
  simp only [clock, conflict]

theorem process_streamStage (called : dnsStreamCall worker input = some call) :
    (dataplaneWorkerProcess worker input).1.streams =
        streamStage worker.streams call input.resetStatus ∧
      ((streamAnswer worker.streams call).2 = .ok .conflict →
        (dataplaneWorkerProcess worker input).2 = .drop) := by
  unfold dnsStreamCall at called
  split at called
  case h_1 snapshot nowMs acquired clock =>
    dsimp only at called
    split at called
    case isFalse => cases called
    case isTrue stage =>
      cases called
      have sameStreams := (inspectFrame_streams worker snapshot input).2.1
      unfold dataplaneWorkerProcess
      simp only [acquired]
      rcases found : inspectFrame worker snapshot input with ⟨inspected, status, result⟩
      rw [found] at stage sameStreams
      obtain ⟨zero, pending, tcp, port⟩ := stage
      dsimp only at zero pending tcp port sameStreams
      have staged : processStreams inspected snapshot input result =
          processStream inspected snapshot input result := by
        simp [processStreams, pending, tcp, port]
      rw [classify_eq found, if_pos zero,
        if_neg (by simp [respondsUdp_tcp tcp]), staged, ← sameStreams]
      refine ⟨processStream_streams clock, fun conflict => ?_⟩
      rw [processStream_conflict clock conflict]
      simp
  case h_2 => cases called

theorem processTlsStream_streams (worker : DataplaneWorker) (snapshot : PolicySnapshot)
    (input : WorkerInput) (result : DataplaneResult) :
    (processTlsStream worker snapshot input result).1.streams = worker.streams := by
  unfold processTlsStream
  cases input.streamClock with
  | none => rfl
  | some nowMs =>
    dsimp only
    split
    · rfl
    split
    · rfl
    split
    · unfold feedTlsBytes
      dsimp only
      split <;> rfl
    all_goals rfl

theorem process_streams_other (other : dnsStreamCall worker input = none) :
    (dataplaneWorkerProcess worker input).1.streams = worker.streams := by
  unfold dataplaneWorkerProcess
  cases acquired : input.snapshot with
  | none => rfl
  | some snapshot =>
    have sameStreams := (inspectFrame_streams worker snapshot input).2.1
    dsimp only
    rcases found : inspectFrame worker snapshot input with ⟨inspected, status, result⟩
    rw [found] at sameStreams
    rw [classify_eq found, ← sameStreams]
    by_cases zero : status = 0
    · rw [if_pos zero]
      split
      · rfl
      unfold processStreams
      split
      case isTrue stage =>
        split
        case isTrue port =>
          cases clock : input.streamClock with
          | none => simp [processStream, clock]
          | some nowMs => simp [dnsStreamCall, acquired, clock, found, zero, stage, port] at other
        case isFalse =>
          split
          · exact processTlsStream_streams _ _ _ _
          · rfl
      case isFalse => rfl
    · rw [if_neg zero]

/-! ## Messages that policy refuses -/

def refusedMessage (packet : PacketView) (snapshot : PolicySnapshot)
    (messages : List Bytes) : Option Bytes :=
  messages.find? fun message =>
    decide ((dataplaneEvaluateTcpDns packet message snapshot).1 ≠ 0) ||
      decide ((dataplaneEvaluateTcpDns packet message snapshot).2.verdict = .drop)

def BlockedByPolicy (packet : PacketView) (snapshot : PolicySnapshot) (message : Bytes) : Prop :=
  (dataplaneEvaluateTcpDns packet message snapshot).1 = 0 ∧
    (dataplaneEvaluateTcpDns packet message snapshot).2.reason = .policyBlock
  deriving Decidable

theorem processMessages_tracker (snapshot : PolicySnapshot) (nowMs : Nat) (resetStatus : Int)
    (tracker : TcpStreamTracker) (messages : List Bytes) (result : DataplaneResult) :
    (processMessages snapshot nowMs resetStatus tracker messages result).1 = tracker ∨
      (processMessages snapshot nowMs resetStatus tracker messages result).1 =
          (tcpStreamTrackerRejectFlow tracker result.packet nowMs).1 := by
  induction messages generalizing result with
  | nil => exact .inl rfl
  | cons message rest ih =>
    unfold processMessages
    dsimp only
    by_cases zero : (dataplaneEvaluateTcpDns result.packet message snapshot).1 = 0
    · rw [if_neg (by simpa using zero)]
      have packet := dataplaneEvaluateTcpDns_packet zero
      split
      · unfold resetBlockedStream
        split
        · exact .inl rfl
        · rw [packet]
          exact .inr rfl
      · have later := ih
          { (dataplaneEvaluateTcpDns result.packet message snapshot).2 with policyPath := none }
        rwa [packet] at later
    · rw [if_pos zero]
      exact .inl rfl

theorem processMessages_blocked
    (refused : refusedMessage result.packet snapshot messages = some message)
    (blocked : BlockedByPolicy result.packet snapshot message) :
    (processMessages snapshot nowMs resetStatus tracker messages result).1 =
      (tcpStreamTrackerRejectFlow tracker result.packet nowMs).1 := by
  induction messages generalizing result with
  | nil => cases refused
  | cons first rest ih =>
    unfold refusedMessage at refused
    rw [List.find?_cons] at refused
    unfold processMessages
    dsimp only
    split at refused
    case h_1 stops =>
      cases refused
      obtain ⟨zero, reason⟩ := blocked
      have packet := dataplaneEvaluateTcpDns_packet zero
      have dropped : (dataplaneEvaluateTcpDns result.packet message
          snapshot).2.verdict = .drop := by
        simpa [zero] using stops
      rw [if_neg (by simpa using zero), if_pos dropped]
      simp [resetBlockedStream, reason, packet]
    case h_2 passes =>
      have zero : (dataplaneEvaluateTcpDns result.packet first snapshot).1 = 0 := by
        simp only [Bool.or_eq_false_iff, decide_eq_false_iff_not, not_not] at passes
        exact passes.1
      have kept : ¬ (dataplaneEvaluateTcpDns result.packet first snapshot).2.verdict = .drop := by
        simp only [Bool.or_eq_false_iff, decide_eq_false_iff_not] at passes
        exact passes.2
      have packet := dataplaneEvaluateTcpDns_packet zero
      rw [if_neg (by simpa using zero), if_neg kept]
      have later := @ih
        { (dataplaneEvaluateTcpDns result.packet first snapshot).2 with policyPath := none }
      rw [packet] at later
      exact later refused blocked

/-! ## The stage along a run -/

theorem streamStage_writes (streams : TcpStreamTracker) (call : StreamCall) (resetStatus : Int) :
    ∃ between, TrackerWrite streams (buildKey call.packet) call.nowMs between ∧
      TrackerWrite between (buildKey call.packet) call.nowMs
        (streamStage streams call resetStatus) := by
  refine ⟨(streamAnswer streams call).1, tcpStreamTrackerAdd_write _ _ _ _ _, ?_⟩
  unfold streamStage
  split
  case h_1 messages _ =>
    rcases processMessages_tracker call.snapshot call.nowMs resetStatus
        (streamAnswer streams call).1 messages call.result with
      same | rejected
    · exact .inl same
    · rw [rejected]
      exact tcpStreamTrackerRejectFlow_write _ _ _
  case h_2 => exact .inl rfl

section

variable (wf : FlowsWf streams.limits streams.entries)

include wf

theorem streamStage_wf : FlowsWf (streamStage streams call resetStatus).limits
      (streamStage streams call resetStatus).entries := by
  obtain ⟨between, first, second⟩ := streamStage_writes streams call resetStatus
  exact second.wf (first.wf wf)

theorem streamAnswer_rejected (rejected : HoldsRejected streams (buildKey call.packet))
    (fresh : Unexpired streams (buildKey call.packet) call.nowMs)
    (noSyn : isSyn call.packet = false) (noRst : isRst call.packet = false)
    (valid : packetValidForPort call.packet 53 = true) :
    (streamAnswer streams call).2 = .ok .conflict ∧ HoldsRejected (streamAnswer streams call).1
        (buildKey call.packet) := by
  obtain ⟨index, entry, holds, sameKey, isRejected⟩ := rejected
  have live : SlotTable.At (liveFlows streams.entries call.nowMs) index
      entry :=
    SlotTable.at_expire_iff.mpr ⟨holds, fresh _ holds.mem entry rfl sameKey⟩
  have added := @addSegment_rejected call.packet streams.entries
    call.nowMs entry streams.limits index wf.unique live sameKey isRejected
    noSyn noRst
  unfold streamAnswer tcpStreamTrackerAdd
  rw [if_neg (by simp [valid]), if_neg (by simp), added]
  exact ⟨rfl, index, entry, live, sameKey, isRejected⟩

theorem streamStage_keeps_rejected (rejected : HoldsRejected streams key)
    (fresh : Unexpired streams key call.nowMs)
    (quiet : buildKey call.packet = key → isSyn call.packet = false ∧ isRst call.packet = false) :
    HoldsRejected (streamStage streams call resetStatus) key := by
  by_cases sameKey : buildKey call.packet = key
  · subst sameKey
    obtain ⟨noSyn, noRst⟩ := quiet rfl
    cases valid : packetValidForPort call.packet 53 with
    | true =>
      obtain ⟨conflict, kept⟩ := streamAnswer_rejected wf rejected fresh noSyn noRst valid
      unfold streamStage
      simpa only [conflict] using kept
    | false =>
      unfold streamStage streamAnswer tcpStreamTrackerAdd
      simpa [valid] using rejected
  · obtain ⟨index, entry, holds, entryKey, isRejected⟩ := rejected
    have different : entry.key ≠ buildKey call.packet := by
      rw [entryKey]
      exact fun same => sameKey same.symm
    have unexpired := fresh _ holds.mem entry rfl entryKey
    obtain ⟨between, first, second⟩ := streamStage_writes streams call resetStatus
    exact ⟨index, entry, second.keeps different
      (first.keeps different holds unexpired) unexpired, entryKey, isRejected⟩

theorem streamStage_blocked (completed : (streamAnswer streams call).2 = .ok (.messages messages))
    (refused : refusedMessage call.packet call.snapshot messages = some message)
    (blocked : BlockedByPolicy call.packet call.snapshot message) :
    HoldsRejected (streamStage streams call resetStatus) (buildKey call.packet) := by
  have stage : streamStage streams call resetStatus =
      (tcpStreamTrackerRejectFlow (streamAnswer streams call).1 call.packet call.nowMs).1 := by
    unfold streamStage
    simp only [completed]
    exact processMessages_blocked refused blocked
  have valid : packetValidForPort call.packet 53 = true := by
    by_contra invalid
    unfold streamAnswer tcpStreamTrackerAdd at completed
    rw [if_pos (by simpa using invalid)] at completed
    cases completed
  have answer : streamAnswer streams call =
      ({ streams with
          entries := (addSegment streams.limits streams.entries call.packet call.nowMs).1 },
        .ok (addSegment streams.limits streams.entries call.packet call.nowMs).2) := by
    unfold streamAnswer tcpStreamTrackerAdd
    rw [if_neg (by simp [valid]), if_neg (by simp)]
  rw [answer] at completed
  obtain ⟨index, inside, alone, room⟩ := addSegment_messages_room wf (by simpa using completed)
  rw [stage, answer]
  exact (tcpStreamTrackerRejectFlow_owned valid inside alone room).2

end

/-! ## Runs of the worker -/

/-- The TCP packet to port 53 that a frame carries, as it is or as the
fragment that completes it. -/
def dnsPacket (worker : DataplaneWorker) (input : WorkerInput) : Option PacketView :=
  match input.snapshot with
  | none => none
  | some snapshot =>
    let packet := (inspectFrame worker snapshot input).2.2.packet
    if packetValidForPort packet 53 then some packet else none

def KeepsFlow (key : StreamKey) (event : WorkerEvent) : Prop :=
  ∀ call ∈ dnsStreamCall event.before event.input, Unexpired event.before.streams key call.nowMs ∧
      (buildKey call.packet = key → isSyn call.packet = false ∧ isRst call.packet = false)

/-- Both conditions hold at a step of a run that keeps the flow. -/
structure FlowRejected (key : StreamKey) (worker : DataplaneWorker) : Prop where
  wellFormed : FlowsWf worker.streams.limits worker.streams.entries
  rejected : HoldsRejected worker.streams key

theorem process_flowsWf (input : WorkerInput)
    (wf : FlowsWf worker.streams.limits worker.streams.entries) :
    FlowsWf (dataplaneWorkerProcess worker input).1.streams.limits
      (dataplaneWorkerProcess worker input).1.streams.entries := by
  cases called : dnsStreamCall worker input with
  | none =>
    rw [process_streams_other called]
    exact wf
  | some call =>
    rw [(process_streamStage called).1]
    exact streamStage_wf wf

theorem flowRejected_step (held : FlowRejected key worker)
    (keeps : KeepsFlow key (eventOf dataplaneWorkerProcess worker input)) :
    FlowRejected key (dataplaneWorkerProcess worker input).1 := by
  refine ⟨process_flowsWf input held.wellFormed, ?_⟩
  cases called : dnsStreamCall worker input with
  | none =>
    rw [process_streams_other called]
    exact held.rejected
  | some call =>
    obtain ⟨fresh, quiet⟩ := keeps call called
    rw [(process_streamStage called).1]
    exact streamStage_keeps_rejected held.wellFormed held.rejected fresh quiet

theorem packetValidForPort_whole (valid : packetValidForPort packet port = true) :
    packet.fragmented = false ∧ packet.transport = .tcp ∧ packet.destinationPort = port := by
  simp only [packetValidForPort, Bool.and_eq_true, Bool.not_eq_eq_eq_not,
    Bool.not_true, beq_iff_eq] at valid
  obtain ⟨⟨⟨⟨⟨⟨⟨⟨whole, tcp⟩, _⟩, samePort⟩, _⟩, _⟩, _⟩, _⟩, _⟩ := valid
  exact ⟨whole, tcp, samePort⟩

theorem inspectFrame_dnsStream
    (valid : packetValidForPort (inspectFrame worker snapshot input).2.2.packet 53 = true) :
    (inspectFrame worker snapshot input).2.2.verdict = .drop ∨
      (inspectFrame worker snapshot input).2.2.reason = .streamPending := by
  obtain ⟨_, _, ⟨frame, evaluated⟩ | ⟨fragmented, _⟩⟩ := inspectFrame_cases worker snapshot input
  · rw [evaluated] at valid ⊢
    exact dataplaneEvaluate_dnsStream valid
  · rw [(packetValidForPort_whole valid).1] at fragmented
    cases fragmented

theorem rejected_packet_dropped (held : FlowRejected (buildKey packet) worker)
    (carried : dnsPacket worker input = some packet) (fresh : ∀ call ∈ dnsStreamCall worker input,
      Unexpired worker.streams (buildKey packet) call.nowMs) (noSyn : isSyn packet = false)
    (noRst : isRst packet = false) : (dataplaneWorkerProcess worker input).2 = .drop := by
  unfold dnsPacket at carried
  split at carried
  case h_1 => cases carried
  case h_2 snapshot acquired =>
    dsimp only at carried
    split at carried
    case isFalse => cases carried
    case isTrue valid =>
      cases carried
      obtain ⟨_, tcp, port⟩ := packetValidForPort_whole valid
      cases called : dnsStreamCall worker input with
      | some call =>
        have samePacket : call.packet = (inspectFrame worker snapshot input).2.2.packet := by
          unfold dnsStreamCall at called
          simp only [acquired] at called
          split at called
          case h_1 held clock =>
            cases held
            split at called
            · cases called
              rfl
            · cases called
          case h_2 => cases called
        rw [← samePacket] at held noSyn noRst fresh valid
        exact (process_streamStage called).2 (streamAnswer_rejected held.wellFormed held.rejected
            (fresh call called) noSyn noRst valid).1
      | none =>
        -- The stage was not reached: an earlier one refused the packet.
        have outcome := inspectFrame_dnsStream valid
        unfold dataplaneWorkerProcess
        simp only [acquired]
        rcases found : inspectFrame worker snapshot input with ⟨inspected, status, result⟩
        rw [found] at outcome tcp port
        dsimp only at outcome tcp port
        by_cases zero : status = 0
        · have staged : classify worker snapshot input =
              processStreams inspected snapshot input result := by
            rw [classify_eq found, if_pos zero, if_neg (by simp [respondsUdp_tcp tcp])]
          rw [staged]
          by_cases pending : result.reason = .streamPending
          · cases clock : input.streamClock with
            | none => simp [processStreams, pending, tcp, port, processStream, clock, eInval]
            | some nowMs =>
              simp [dnsStreamCall, acquired, clock, found, zero, pending, tcp, port] at called
          · have dropped : result.verdict = .drop := outcome.resolve_right pending
            simp [processStreams, pending, dropped]
        · rw [classify_eq found, if_neg zero]
          simp [zero]

/-- Once a packet completed a blocked message, every later packet of its flow without SYN and RST is
dropped, as long as no step expires the flow or restarts it. -/
theorem blocked_flow_stays_dropped {limits : PacketLimits} {fragmentLimits : FragmentLimits}
    {streamLimits : TcpStreamLimits} {worker : DataplaneWorker}
    (created : dataplaneWorkerCreate limits fragmentLimits streamLimits = .ok worker)
    (inputs : List WorkerInput) {past middle future : List WorkerEvent}
    {blocked later : WorkerEvent}
    (split : run dataplaneWorkerProcess worker inputs =
      past ++ blocked :: (middle ++ later :: future))
    {call : StreamCall}
    (called : dnsStreamCall blocked.before blocked.input = some call)
    {messages : List Bytes}
    (completed : (streamAnswer blocked.before.streams call).2 = .ok (.messages messages))
    {message : Bytes}
    (refused : refusedMessage call.packet call.snapshot messages = some message)
    (byPolicy : BlockedByPolicy call.packet call.snapshot message)
    (kept : ∀ event ∈ middle, KeepsFlow (buildKey call.packet) event)
    {packet : PacketView}
    (carried : dnsPacket later.before later.input = some packet)
    (sameFlow : buildKey packet = buildKey call.packet)
    (fresh : ∀ laterCall ∈ dnsStreamCall later.before later.input,
      Unexpired later.before.streams (buildKey packet) laterCall.nowMs)
    (noSyn : isSyn packet = false) (noRst : isRst packet = false) :
    later.answer = .drop := by
  have start : FlowsWf worker.streams.limits worker.streams.entries :=
    created_flowsWf (dataplaneWorkerCreate_ok created).2.1
  have blockedMember := mem_of_split split
  have wellFormed : FlowsWf blocked.before.streams.limits blocked.before.streams.entries :=
    (invariant_always (fun state => FlowsWf state.streams.limits state.streams.entries)
      (fun _ input wf => process_flowsWf input wf) start blockedMember).1
  have laterMember := mem_of_split_later split
  have afterBlocked : FlowRejected (buildKey call.packet) blocked.after := by
    rw [event_eq blockedMember]
    refine ⟨process_flowsWf _ wellFormed, ?_⟩
    dsimp only [eventOf]
    rw [(process_streamStage called).1]
    exact streamStage_blocked wellFormed completed refused byPolicy
  obtain ⟨laterInputs, suffix⟩ := run_after split
  have atLater : FlowRejected (buildKey call.packet) later.before :=
    carried_to (fun _ _ held keeps => flowRejected_step held keeps) suffix.symm afterBlocked kept
  rw [← sameFlow] at atLater
  have dropped := rejected_packet_dropped atLater carried fresh noSyn noRst
  rw [event_eq laterMember]
  exact dropped

/-! ## A message that cannot be parsed, sent again -/

/-- A TCP segment from 10.0.0.1 to 10.0.0.2 with the given port, sequence
number and flags. -/
def sampleSegment (port : UInt16) (sequence flags : UInt8) (payload : Bytes) : Bytes :=
  ([0, 0, 0, 0, 0, 1, 0, 0, 0, 0, 0, 2, 0x08, 0x00, 0x45, 0, 0,
    40 + UInt8.ofNat payload.length, 0, 7, 0, 0, 64, 6, 0, 0, 10, 0, 0, 1, 10, 0, 0, 2] : Bytes) ++
    ([0x10, 0, (port >>> 8).toUInt8, port.toUInt8, 0, 0, 0, sequence, 0, 0, 0,
      0, 0x50, flags, 0, 0, 0, 0, 0, 0] : Bytes) ++ payload

/-- A framed DNS message for the domain "a"; `flags` is its third octet. -/
def framedMessage (flags : UInt8) : Bytes :=
  [0, 19, 0, 1, flags, 0, 0, 1, 0, 0, 0, 0, 0, 0, 1, 0x61, 0, 0, 1, 0, 1]

def resentMessage (flags : UInt8) : List WorkerInput :=
  [fragmentInput (sampleSegment 53 0 0x02 []) 0,
    fragmentInput (sampleSegment 53 1 0x10 (framedMessage flags)) 1,
    fragmentInput (sampleSegment 53 1 0x10 (framedMessage flags)) 2]

def workerAfter (inputs : List WorkerInput) : DataplaneWorker :=
  inputs.foldl (fun worker input => (dataplaneWorkerProcess worker input).1) sampleWorker

theorem blocked_flow_stays_dropped_query : (dataplaneWorkerProcess
      (workerAfter ((resentMessage 1).take 2))
      (fragmentInput (sampleSegment 53 1 0x10 (framedMessage 1)) 2)).2 = .drop := by
  have facts : ∃ call ∈ dnsStreamCall (workerAfter ((resentMessage 1).take 1))
        (fragmentInput (sampleSegment 53 1 0x10 (framedMessage 1)) 1),
      ∃ packet ∈ dnsPacket (workerAfter ((resentMessage 1).take 2))
          (fragmentInput (sampleSegment 53 1 0x10 (framedMessage 1)) 2),
        (streamAnswer (workerAfter ((resentMessage 1).take 1)).streams
          call).2 = .ok (.messages [(framedMessage 1).drop 2]) ∧
        refusedMessage call.packet call.snapshot
          [(framedMessage 1).drop 2] = some ((framedMessage 1).drop 2) ∧
        BlockedByPolicy call.packet call.snapshot ((framedMessage 1).drop 2) ∧
        buildKey packet = buildKey call.packet ∧
        (∀ laterCall ∈ dnsStreamCall (workerAfter ((resentMessage 1).take 2))
            (fragmentInput (sampleSegment 53 1 0x10 (framedMessage 1)) 2),
          Unexpired (workerAfter ((resentMessage 1).take 2)).streams
            (buildKey packet) laterCall.nowMs) ∧
        isSyn packet = false ∧ isRst packet = false := by
    decide +kernel
  obtain ⟨call, called, packet, carried, completed, refused, byPolicy,
    sameFlow, fresh, noSyn, noRst⟩ := facts
  exact @blocked_flow_stays_dropped packetLimitsDefault Fragment.sampleLimits
    sampleStreamLimits sampleWorker rfl (resentMessage 1)
    [eventOf dataplaneWorkerProcess sampleWorker
      (fragmentInput (sampleSegment 53 0 0x02 []) 0)] [] []
    (eventOf dataplaneWorkerProcess (workerAfter ((resentMessage 1).take 1))
      (fragmentInput (sampleSegment 53 1 0x10 (framedMessage 1)) 1))
    (eventOf dataplaneWorkerProcess (workerAfter ((resentMessage 1).take 2))
      (fragmentInput (sampleSegment 53 1 0x10 (framedMessage 1)) 2))
    rfl call called _ completed _ refused byPolicy (by simp) packet carried
    sameFlow fresh noSyn noRst

/-- A dropped malformed message is consumed without a rejection, so that it is accepted when it is
sent again. -/
theorem resent_malformed_message_accepted : ((run dataplaneWorkerProcess sampleWorker
        (resentMessage 0x81)).map fun event => event.answer) =
      [.accept, .drop, .accept] ∧
    (∃ call ∈ dnsStreamCall (workerAfter ((resentMessage 0x81).take 1))
        (fragmentInput (sampleSegment 53 1 0x10 (framedMessage 0x81)) 1),
      (streamAnswer (workerAfter ((resentMessage 0x81).take 1)).streams
        call).2 = .ok (.messages [(framedMessage 0x81).drop 2]) ∧
      refusedMessage call.packet call.snapshot
        [(framedMessage 0x81).drop 2] = some ((framedMessage 0x81).drop 2)) ∧
    ∃ packet ∈ dnsPacket (workerAfter ((resentMessage 0x81).take 2))
        (fragmentInput (sampleSegment 53 1 0x10 (framedMessage 0x81)) 2),
      payloadBytes packet = framedMessage 0x81 ∧ isSyn packet = false ∧ isRst packet = false ∧
        Unexpired (workerAfter ((resentMessage 0x81).take 2)).streams (buildKey packet) 2 := by
  decide +kernel

end Worker

end JanusGate
