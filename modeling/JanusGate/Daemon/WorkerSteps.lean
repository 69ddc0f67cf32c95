import JanusGate.Common.ParsedPacket
import JanusGate.Daemon.DataplaneWorker

/-!
# The stages of one worker call

What each stage of `dataplaneWorkerProcess` can do to the worker and to its
verdict.  Reassembly changes only the fragment tracker, the stream stage only
the stream trackers and TLS parsers, and a frame is accepted only when the
reassembly stage already left it accepted.
-/

namespace JanusGate

open Dataplane Worker

variable {snapshot : PolicySnapshot} {result : DataplaneResult} {limits : PacketLimits}

namespace Dataplane

/-! ## The client of a packet -/

variable {client : PolicyClient} {frame : Bytes} {limits : PacketLimits} {snapshot : PolicySnapshot}
  {packet : PacketView}

theorem buildClient_vlan (built : buildClient packet = .ok client) :
    ∀ tci ∈ packet.vlanTci.getLast?, tci &&& 0x0fff ≤ vlanIdMax := by
  intro tci last
  unfold buildClient at built
  split at built
  · cases built
  rw [show packet.vlanTci.getLast? = some tci from last] at built
  dsimp only at built
  split at built
  · cases built
  case isFalse small => exact UInt16.not_lt.mp small

/-- A parsed packet has a client unless its innermost VLAN is reserved. -/
theorem buildClient_parsed (parsed : Packet.ParsedView frame limits packet)
    (vlan : ∀ tci ∈ packet.vlanTci.getLast?, tci &&& 0x0fff ≤ vlanIdMax) :
    ∃ client, buildClient packet = .ok client := by
  have ethernet := parsed.ethernet
  have vlanCount := parsed.vlanCount
  have vlanLimit : limits.maxVlanTags ≤ Packet.vlanLimit := by
    have valid := parsed.limitsValid
    simp only [packetLimitsValid, Bool.and_eq_true, decide_eq_true_eq] at valid
    exact valid.1.1
  have source : packet.sourceAddress.length ≠ 0 ∧
      packet.sourceAddress.length ≤ Packet.addressSize := by
    rw [parsed.source]
    have isIp := parsed.isIp
    cases version : packet.ipVersion with
    | v4 | v6 => decide
    | none => exact absurd version isIp
  unfold buildClient
  rw [if_neg (by
    rw [parsed.sameFrame]
    unfold ethernetSourceOffset ethernetAddressSize
    unfold Packet.ethernetHeaderSize at ethernet
    omega)]
  cases last : packet.vlanTci.getLast? with
  | none => exact ⟨_, rfl⟩
  | some tci =>
    dsimp only
    rw [if_neg (UInt16.not_lt.mpr (vlan tci last))]
    exact ⟨_, rfl⟩

/-! ## What evaluation decides -/

def isPending (reason : DataplaneReason) : Bool :=
  reason == .fragmentPending || reason == .streamPending

variable (questions : List DnsQuestion)

@[simp]
theorem retainDnsQuestion_reason (result : DataplaneResult) :
    (retainDnsQuestion questions result).reason = result.reason := by
  unfold retainDnsQuestion
  split <;> rfl

@[simp]
theorem retainDnsQuestion_verdict (result : DataplaneResult) :
    (retainDnsQuestion questions result).verdict = result.verdict := by
  unfold retainDnsQuestion
  split <;> rfl

@[simp]
theorem retainDnsQuestion_packet (result : DataplaneResult) :
    (retainDnsQuestion questions result).packet = result.packet := by
  unfold retainDnsQuestion
  split <;> rfl

/-- The question loop only sets the verdict, the reason and the question it reports. -/
theorem evaluateDns_frame (client : PolicyClient) (snapshot : PolicySnapshot)
    (questions : List DnsQuestion) (index : Nat) (result : DataplaneResult) :
    ∃ verdict reason questionIndex policy,
        (evaluateDns client snapshot index questions result).2 =
          { result with
            verdict := verdict
            reason := reason
            questionIndex := questionIndex
            policy := policy } ∧
        (reason = result.reason ∨
          (evaluateDns client snapshot index questions result).1 = 0 ∧ isPending reason = false) ∧
        ((questionIndex = result.questionIndex ∧ policy = result.policy) ∨
          ∃ offset question, questions[offset]? = some question ∧
            questionIndex = some (index + offset) ∧
            policyMatchDomain snapshot question.name (some client) = .ok policy) := by
  induction questions generalizing index result with
  | nil => exact ⟨_, _, _, _, rfl, .inr ⟨rfl, rfl⟩, .inl ⟨rfl, rfl⟩⟩
  | cons question questions ih =>
    unfold evaluateDns
    cases matched : policyMatchDomain snapshot question.name (some client) with
    | error status => exact ⟨_, _, _, _, rfl, .inl rfl, .inl ⟨rfl, rfl⟩⟩
    | ok found =>
      have first : ∃ offset asked, (question :: questions)[offset]? = some asked ∧
            some index = some (index + offset) ∧
            policyMatchDomain snapshot asked.name (some client) = .ok found :=
        ⟨0, question, rfl, rfl, matched⟩
      have later : ∀ {questionIndex : Option Nat} {policy : PolicyMatch},
          (∃ offset asked, questions[offset]? = some asked ∧
            questionIndex = some (index + 1 + offset) ∧
            policyMatchDomain snapshot asked.name (some client) = .ok policy) →
          ∃ offset asked, (question :: questions)[offset]? = some asked ∧
            questionIndex = some (index + offset) ∧
            policyMatchDomain snapshot asked.name (some client) = .ok policy := by
        rintro questionIndex policy ⟨offset, asked, listed, indexed, ok⟩
        refine ⟨offset + 1, asked, listed, ?_, ok⟩
        rw [indexed, Nat.add_assoc, Nat.add_comm 1 offset]
      dsimp only
      split
      · exact ⟨_, _, _, _, rfl, .inr ⟨rfl, rfl⟩, .inr first⟩
      split
      · obtain ⟨verdict, reason, questionIndex, policy, frame, settles, kept⟩ :=
          ih (index + 1) { result with questionIndex := some index, policy := found }
        refine ⟨verdict, reason, questionIndex, policy, frame, settles, .inr ?_⟩
        rcases kept with ⟨rfl, rfl⟩ | asked
        · exact first
        · exact later asked
      · obtain ⟨verdict, reason, questionIndex, policy, frame, settles, kept⟩ :=
          ih (index + 1) result
        exact ⟨verdict, reason, questionIndex, policy, frame, settles, kept.imp_right later⟩

theorem evaluateDns_not_pending {questions : List DnsQuestion}
    (settled : isPending result.reason = false) :
    isPending (evaluateDns client snapshot index questions result).2.reason = false := by
  obtain ⟨_, _, _, _, frame, settles, _⟩ := evaluateDns_frame client snapshot questions index result
  rw [frame]
  rcases settles with rfl | ⟨_, done⟩
  · exact settled
  · exact done

theorem evaluateDnsPayload_not_pending (settled : isPending result.reason = false) :
    isPending (evaluateDnsPayload client snapshot message result).2.reason = false := by
  unfold evaluateDnsPayload
  split
  · exact settled
  dsimp only
  split
  · rw [retainDnsQuestion_reason]
    exact evaluateDns_not_pending settled
  · exact evaluateDns_not_pending settled

/-- Evaluation starts from the malformed verdict, and destination policy
either keeps it or blocks. -/
theorem evaluateDestination_reason :
    (evaluateDestination packet client snapshot result).2.reason = result.reason ∨
      (evaluateDestination packet client snapshot result).2.reason = .policyBlock := by
  unfold evaluateDestination
  split
  · exact .inl rfl
  · split
    · exact .inr rfl
    · exact .inl rfl

theorem evaluateDestination_packet :
    (evaluateDestination packet client snapshot result).2.packet = result.packet := by
  unfold evaluateDestination
  split
  · rfl
  · split <;> rfl

theorem evaluateDestination_verdict (dropped : result.verdict = .drop) :
    (evaluateDestination packet client snapshot result).2.verdict = .drop := by
  unfold evaluateDestination
  split
  · exact dropped
  · split
    · rfl
    · exact dropped

theorem evaluateSelected_pending (settled : isPending result.reason = false)
    (pending : isPending (evaluateSelected client snapshot result).2.reason = true) :
    (evaluateSelected client snapshot result).2.verdict = .accept := by
  unfold evaluateSelected at pending ⊢
  dsimp only at pending ⊢
  split at pending
  · rw [if_pos (by assumption)]
  rw [if_neg (by assumption)]
  split at pending
  · rw [if_pos (by assumption)]
  rw [if_neg (by assumption)]
  split at pending
  · rw [if_pos (by assumption)]
  split at pending
  · rw [settled] at pending
    cases pending
  · rw [evaluateDnsPayload_not_pending settled] at pending
    cases pending

section

variable (client : PolicyClient) (snapshot : PolicySnapshot)

theorem evaluateDns_packet (index : Nat) (questions : List DnsQuestion) (result : DataplaneResult) :
    (evaluateDns client snapshot index questions result).2.packet = result.packet := by
  obtain ⟨_, _, _, _, frame, _⟩ := evaluateDns_frame client snapshot questions index result
  rw [frame]

theorem evaluateDnsPayload_packet (message : Bytes) (result : DataplaneResult) :
    (evaluateDnsPayload client snapshot message result).2.packet = result.packet := by
  unfold evaluateDnsPayload
  split
  · rfl
  dsimp only
  split
  · rw [retainDnsQuestion_packet]
    exact evaluateDns_packet _ _ _ _ _
  · exact evaluateDns_packet _ _ _ _ _

theorem evaluateSelected_packet (result : DataplaneResult) :
    (evaluateSelected client snapshot result).2.packet = result.packet := by
  unfold evaluateSelected
  dsimp only
  split
  · rfl
  split
  · rfl
  split
  · rfl
  · split
    · rfl
    · exact evaluateDnsPayload_packet _ _ _ _

end

variable {view : PacketView}

theorem dataplaneEvaluate_parsed (parsed : packetParse frame limits = (.ok, view)) :
    ((dataplaneEvaluate frame limits snapshot).2.verdict = .drop ∧
        (dataplaneEvaluate frame limits snapshot).2.packet = view ∧
        isPending (dataplaneEvaluate frame limits snapshot).2.reason = false) ∨
      ∃ client result, buildClient view = .ok client ∧ evaluateDestination view client snapshot
          (parsedResult snapshot view) = (0, result) ∧
        isPending result.reason = false ∧ result.packet = view ∧
        dataplaneEvaluate frame limits snapshot = evaluateSelected client snapshot result := by
  cases built : buildClient view with
  | error status =>
    refine .inl ?_
    simp [dataplaneEvaluate, parsed, built, isPending]
  | ok client =>
    have packet := @evaluateDestination_packet (parsedResult snapshot view) client snapshot view
    have reason := @evaluateDestination_reason (parsedResult snapshot view) client snapshot view
    have verdict := @evaluateDestination_verdict
      (parsedResult snapshot view) client snapshot view rfl
    rcases evaluated : evaluateDestination view client snapshot
      (parsedResult snapshot view) with ⟨status, result⟩
    rw [evaluated] at packet reason verdict
    have settled : isPending result.reason = false := by
      rcases reason with same | same <;>
        · rw [show result.reason = _ from same]
          rfl
    have evaluation : dataplaneEvaluate frame limits snapshot = if status = 0 then
          if result.reason = .policyBlock then (0, result)
          else evaluateSelected client snapshot result
        else (eInval, result) := by
      simp only [dataplaneEvaluate, parsed, built, evaluated]
      by_cases zero : status = 0
      · subst zero
        rfl
      · simp [zero]
    rw [evaluation]
    by_cases zero : status = 0
    · rw [if_pos zero]
      by_cases blocked : result.reason = .policyBlock
      · rw [if_pos blocked]
        exact .inl ⟨verdict, packet, settled⟩
      · rw [if_neg blocked]
        exact .inr ⟨client, result, rfl, by rw [evaluated, zero], settled, packet, rfl⟩
    · rw [if_neg zero]
      exact .inl ⟨verdict, packet, settled⟩

/-- A pending evaluation comes from the stage behind destination policy. -/
theorem dataplaneEvaluate_selected
    (pending : isPending (dataplaneEvaluate frame limits snapshot).2.reason = true) :
    ∃ client result, isPending result.reason = false ∧
      dataplaneEvaluate frame limits snapshot = evaluateSelected client snapshot result := by
  rcases parsed : packetParse frame limits with ⟨outcome, view⟩
  by_cases accepted : outcome = .ok
  · subst accepted
    rcases @dataplaneEvaluate_parsed frame limits snapshot view parsed with
      ⟨_, _, settled⟩ | ⟨client, result, _, _, settled, _, evaluated⟩
    · rw [settled] at pending
      cases pending
    · exact ⟨client, result, settled, evaluated⟩
  · unfold dataplaneEvaluate at pending
    rw [parsed] at pending
    cases outcome with
    | ok => exact absurd rfl accepted
    | _ => cases pending

theorem dataplaneEvaluate_pending
    (pending : isPending (dataplaneEvaluate frame limits snapshot).2.reason = true) :
    (dataplaneEvaluate frame limits snapshot).2.verdict = .accept := by
  obtain ⟨client, result, settled, evaluated⟩ := dataplaneEvaluate_selected pending
  rw [evaluated] at pending ⊢
  exact evaluateSelected_pending settled pending

theorem dataplaneEvaluate_packet (parsed : packetParse frame limits = (.ok, view)) :
    (dataplaneEvaluate frame limits snapshot).2.packet = view := by
  rcases @dataplaneEvaluate_parsed frame limits snapshot view parsed with
    ⟨_, packet, _⟩ | ⟨client, result, _, _, _, packet, evaluated⟩
  · exact packet
  · rw [evaluated, evaluateSelected_packet, packet]

theorem dataplaneEvaluate_fragment (parsed : packetParse frame limits = (.ok, view))
    (fragmented : view.fragmented = true)
    (accepted : (dataplaneEvaluate frame limits snapshot).2.verdict = .accept) :
    (dataplaneEvaluate frame limits snapshot).2.reason = .fragmentPending := by
  rcases @dataplaneEvaluate_parsed frame limits snapshot view parsed with
    ⟨dropped, _, _⟩ | ⟨client, result, _, _, _, packet, evaluated⟩
  · rw [dropped] at accepted
    cases accepted
  · rw [evaluated, evaluateSelected]
    simp [packet, fragmented]

theorem dataplaneEvaluate_fragmentPending
    (pending : (dataplaneEvaluate frame limits snapshot).2.reason = .fragmentPending) :
    (dataplaneEvaluate frame limits snapshot).2.packet.fragmented = true := by
  obtain ⟨client, result, settled, evaluated⟩ :=
    @dataplaneEvaluate_selected frame limits snapshot (by rw [pending]; rfl)
  rw [evaluated] at pending ⊢
  rw [evaluateSelected_packet]
  by_contra whole
  unfold evaluateSelected at pending
  rw [if_neg whole] at pending
  split at pending
  · cases pending
  split at pending
  · cases pending
  split at pending
  · rw [pending] at settled
    cases settled
  have notPending := @evaluateDnsPayload_not_pending result client snapshot
    (slice result.packet.frame result.packet.payloadOffset result.packet.payloadSize) settled
  rw [pending] at notPending
  cases notPending

end Dataplane

namespace Worker

variable {worker : DataplaneWorker}

theorem dataplaneWorkerCreate_ok
    (created : dataplaneWorkerCreate limits fragmentLimits streamLimits = .ok worker) :
    fragmentTrackerCreate fragmentLimits = .ok worker.fragments ∧
      tcpStreamTrackerCreate streamLimits = .ok worker.streams ∧
      tcpStreamTrackerCreate streamLimits = .ok worker.tlsStreams ∧
      worker.tlsParsers = List.replicate streamLimits.maxFlows {} := by
  unfold dataplaneWorkerCreate at created
  split at created
  · simp only [Outcome.bind_eq_ok, Outcome.pure_eq_ok] at created
    obtain ⟨_, fragments, _, streams, _, tlsStreams, made⟩ := created
    cases made
    exact ⟨fragments, streams, tlsStreams, rfl⟩
  · cases created

/-! ## Which state each stage changes -/

/-- Two workers that agree on everything but the stream state. -/
def SameFragments (left right : DataplaneWorker) : Prop :=
  left.limits = right.limits ∧ left.fragments = right.fragments

/-- Two workers that agree on everything but the fragment tracker. -/
def SameStreams (left right : DataplaneWorker) : Prop :=
  left.limits = right.limits ∧ left.streams = right.streams ∧
    left.tlsStreams = right.tlsStreams ∧ left.tlsParsers = right.tlsParsers

section

variable (worker : DataplaneWorker) (snapshot : PolicySnapshot) (input : WorkerInput)

theorem processStream_fragments (result : DataplaneResult) :
    SameFragments (processStream worker snapshot input result).1 worker := by
  unfold processStream
  cases input.streamClock with
  | none => exact ⟨rfl, rfl⟩
  | some nowMs =>
    dsimp only
    split <;> exact ⟨rfl, rfl⟩

theorem feedTlsBytes_fragments (resetStatus : Int) (nowMs index : Nat) (output : Bytes)
    (result : DataplaneResult) :
    SameFragments (feedTlsBytes worker snapshot resetStatus nowMs index output
      result).1 worker := by
  unfold feedTlsBytes
  dsimp only
  split <;> exact ⟨rfl, rfl⟩

theorem processTlsStream_fragments (result : DataplaneResult) :
    SameFragments (processTlsStream worker snapshot input result).1 worker := by
  unfold processTlsStream
  cases input.streamClock with
  | none => exact ⟨rfl, rfl⟩
  | some nowMs =>
    dsimp only
    split
    · exact ⟨rfl, rfl⟩
    split
    · exact ⟨rfl, rfl⟩
    · split
      · exact feedTlsBytes_fragments _ _ _ _ _ _ _
      all_goals exact ⟨rfl, rfl⟩

theorem processStreams_fragments (result : DataplaneResult) :
    SameFragments (processStreams worker snapshot input result).1 worker := by
  unfold processStreams
  split
  · split
    · exact processStream_fragments worker snapshot input result
    · split
      · exact processTlsStream_fragments worker snapshot input result
      · exact ⟨rfl, rfl⟩
  · exact ⟨rfl, rfl⟩

/-- The evaluation of a whole frame, or of a fragment, which no stream stage takes. -/
theorem inspectFrame_cases :
    ∃ fragments, (inspectFrame worker snapshot input).1 = { worker with fragments := fragments } ∧
      ((∃ frame, (inspectFrame worker snapshot input).2 =
          dataplaneEvaluate frame worker.limits snapshot) ∨
        (inspectFrame worker snapshot input).2.2.packet.fragmented = true ∧
          (inspectFrame worker snapshot input).2.2.reason ≠ .streamPending) := by
  unfold inspectFrame
  dsimp only
  split
  case isFalse => exact ⟨_, rfl, .inl ⟨input.frame, rfl⟩⟩
  case isTrue fragment =>
    have fragmented := dataplaneEvaluate_fragmentPending fragment.2
    have notStream : (dataplaneEvaluate input.frame worker.limits snapshot).2.reason ≠
        .streamPending := by simp [fragment.2]
    unfold processFragment
    cases input.fragmentClock with
    | none => exact ⟨_, rfl, .inr ⟨fragmented, notStream⟩⟩
    | some nowMs =>
      dsimp only
      split
      · exact ⟨_, rfl, .inr ⟨fragmented, notStream⟩⟩
      · split
        · exact ⟨_, rfl, .inr ⟨fragmented, notStream⟩⟩
        case h_2 frame _ => exact ⟨_, rfl, .inl ⟨frame, rfl⟩⟩
      all_goals exact ⟨_, rfl, .inr ⟨fragmented, by simp [notStream]⟩⟩

theorem inspectFrame_streams : SameStreams (inspectFrame worker snapshot input).1 worker := by
  obtain ⟨_, same, _⟩ := inspectFrame_cases worker snapshot input
  rw [same]
  exact ⟨rfl, rfl, rfl, rfl⟩

end

variable {input : WorkerInput}

theorem classify_eq (found : inspectFrame worker snapshot input = (inspected, status, result)) :
    classify worker snapshot input = if status = 0 then
        if respondsUdp result then (inspected, input.responseStatus, result)
        else processStreams inspected snapshot input result
      else (inspected, status, result) := by
  unfold classify
  rw [found]
  by_cases zero : status = 0
  · subst zero
    simp
  · simp [zero]

theorem classify_fragments (worker : DataplaneWorker) (snapshot : PolicySnapshot)
    (input : WorkerInput) :
    SameFragments (classify worker snapshot input).1 (inspectFrame worker snapshot input).1 := by
  rcases found : inspectFrame worker snapshot input with ⟨inspected, status, result⟩
  rw [classify_eq found]
  split
  · split
    · exact ⟨rfl, rfl⟩
    · exact processStreams_fragments inspected snapshot input result
  · exact ⟨rfl, rfl⟩

/-! ## Verdicts after reassembly -/

theorem inspectFrame_streamPending
    (pending : (inspectFrame worker snapshot input).2.2.reason = .streamPending) :
    (inspectFrame worker snapshot input).2.2.verdict = .accept := by
  obtain ⟨_, _, ⟨frame, evaluated⟩ | ⟨_, other⟩⟩ := inspectFrame_cases worker snapshot input
  · rw [evaluated] at pending ⊢
    apply dataplaneEvaluate_pending
    rw [pending]
    rfl
  · exact absurd pending other

theorem process_accept (acquired : input.snapshot = some snapshot)
    (accepted : (dataplaneWorkerProcess worker input).2 = .accept) :
    (inspectFrame worker snapshot input).2.1 = 0 ∧
      (inspectFrame worker snapshot input).2.2.verdict = .accept := by
  have pendingAccepted := @inspectFrame_streamPending snapshot worker input
  unfold dataplaneWorkerProcess at accepted
  simp only [acquired] at accepted
  rcases found : inspectFrame worker snapshot input with ⟨inspected, status, result⟩
  rw [found] at pendingAccepted
  rw [classify_eq found] at accepted
  by_cases zero : status = 0
  · refine ⟨zero, ?_⟩
    by_cases pending : result.reason = .streamPending
    · exact pendingAccepted pending
    rw [if_pos zero] at accepted
    by_cases responds : respondsUdp result = true
    · by_cases sent : input.responseStatus = 0
      · simpa [responds, sent] using accepted
      · simp [responds, sent] at accepted
    · simpa [responds, processStreams, pending] using accepted
  · simp [zero] at accepted

end Worker

end JanusGate
