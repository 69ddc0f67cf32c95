import JanusGate.Daemon.StreamWindow
import JanusGate.Daemon.WorkerDnsStream

/-!
# TLS flows after their ClientHello

The TLS stage keeps one parser for each slot of its tracker.  Once the parser
of a flow has decided, the stage accepts what the tracker yields; a flow that
the tracker has forgotten starts with a new parser.
-/

namespace JanusGate

open Runs SlotTable TcpStream Dataplane List

namespace Worker

/-! ## The TLS stage of a call -/

def tlsStreamCall (worker : DataplaneWorker) (input : WorkerInput) : Option StreamCall :=
  match input.snapshot, input.streamClock with
  | some snapshot, some nowMs =>
    let inspected := inspectFrame worker snapshot input
    if inspected.2.1 = 0 ∧ inspected.2.2.reason = .streamPending ∧
        inspected.2.2.packet.transport = .tcp ∧
        (inspected.2.2.packet.destinationPort = 443 ∨
          inspected.2.2.packet.destinationPort = 853) then
      some ⟨snapshot, inspected.2.2, nowMs⟩
    else none
  | _, _ => none

def tlsAnswer (streams : TcpStreamTracker) (call : StreamCall) :
    TcpStreamTracker × Except Int (TcpRawStreamChunk × TcpRawStreamResult) :=
  tcpStreamTrackerAddRaw streams call.packet call.nowMs streams.limits.maxBufferedBytes

def chunkParser (parsers : List TlsClientHelloParser)
    (chunk : TcpRawStreamChunk) : TlsClientHelloParser :=
  (resetParser parsers chunk.flowIndex chunk.newFlow).getD (chunk.flowIndex.getD 0) {}

section

variable (parsers : List TlsClientHelloParser) (flowIndex : Option Nat)

theorem resetParser_length (needed : Bool) :
    (resetParser parsers flowIndex needed).length = parsers.length := by
  unfold resetParser
  split
  · split <;> simp
  · rfl

theorem resetParser_kept : resetParser parsers flowIndex false = parsers := by
  cases flowIndex <;> rfl

end

variable {index : Nat} {worker : DataplaneWorker} {input : WorkerInput} {call : StreamCall}
  {packet known : PacketView} {snapshot : PolicySnapshot} {key : StreamKey} {next : UInt32}
  {limits : PacketLimits}

theorem resetParser_other (other : flowIndex ≠ some index) :
    (resetParser parsers flowIndex needed).getD index {} = parsers.getD index {} := by
  unfold resetParser
  split
  case h_1 position =>
    have apart : position ≠ index := fun same => other (by rw [same])
    split
    · simp [getElem?_set_ne apart]
    · rfl
  case h_2 => rfl

/-- A call is the whole effect of its frame on the TLS flows. -/
theorem classify_tlsStage (called : tlsStreamCall worker input = some call) :
    input.snapshot = some call.snapshot ∧ input.streamClock = some call.nowMs ∧
      call.result = (inspectFrame worker call.snapshot input).2.2 ∧
      call.result.reason = .streamPending ∧
      ∃ inspected, SameStreams inspected worker ∧ classify worker call.snapshot input =
          processTlsStream inspected call.snapshot input call.result := by
  unfold tlsStreamCall at called
  split at called
  case h_1 snapshot nowMs acquired clock =>
    dsimp only at called
    split at called
    case isFalse => cases called
    case isTrue stage =>
      cases called
      have same := inspectFrame_streams worker snapshot input
      rcases found : inspectFrame worker snapshot input with ⟨inspected, status, result⟩
      rw [found] at stage same
      obtain ⟨zero, pending, tcp, port⟩ := stage
      dsimp only at zero pending tcp port same
      refine ⟨acquired, clock, rfl, pending, inspected, same, ?_⟩
      have notDns : result.packet.destinationPort ≠ 53 := by
        rcases port with port | port <;> simp [port]
      rw [classify_eq found, if_pos zero, if_neg (by simp [respondsUdp_tcp tcp])]
      unfold processStreams
      rw [if_pos ⟨pending, tcp⟩, if_neg notDns, if_pos port]
  case h_2 => cases called

/-- A frame without a call leaves the TLS flows and their parsers alone. -/
theorem process_tls_other (other : tlsStreamCall worker input = none) :
    (dataplaneWorkerProcess worker input).1.tlsStreams = worker.tlsStreams ∧
      (dataplaneWorkerProcess worker input).1.tlsParsers = worker.tlsParsers := by
  unfold dataplaneWorkerProcess
  cases acquired : input.snapshot with
  | none => exact ⟨rfl, rfl⟩
  | some snapshot =>
    obtain ⟨_, _, sameStreams, sameParsers⟩ := inspectFrame_streams worker snapshot input
    dsimp only
    rcases found : inspectFrame worker snapshot input with ⟨inspected, status, result⟩
    rw [found] at sameStreams sameParsers
    rw [classify_eq found, ← sameStreams, ← sameParsers]
    by_cases zero : status = 0
    · rw [if_pos zero]
      split
      · exact ⟨rfl, rfl⟩
      unfold processStreams
      split
      case isTrue stage =>
        split
        · unfold processStream
          cases input.streamClock with
          | none => exact ⟨rfl, rfl⟩
          | some nowMs =>
            dsimp only
            split <;> exact ⟨rfl, rfl⟩
        · split
          case isTrue port =>
            cases clock : input.streamClock with
            | none => simp [processTlsStream, clock]
            | some nowMs => simp [tlsStreamCall, acquired, clock, found, zero, stage, port] at other
          case isFalse => exact ⟨rfl, rfl⟩
      case isFalse => exact ⟨rfl, rfl⟩
    · rw [if_neg zero]
      exact ⟨rfl, rfl⟩

theorem dataplaneEvaluateVisibleSni_packet
    (zero : (dataplaneEvaluateVisibleSni packet serverName snapshot).1 = 0) :
    (dataplaneEvaluateVisibleSni packet serverName snapshot).2.packet = packet := by
  unfold dataplaneEvaluateVisibleSni at zero ⊢
  split at zero
  · cases zero
  rw [if_neg (by assumption)]
  cases built : buildClient packet with
  | error status => simp [built, eInval] at zero
  | ok client =>
    simp only [built] at zero ⊢
    have kept := @evaluateDestination_packet (parsedResult snapshot packet) client snapshot packet
    split
    · split
      · simp_all
      · split <;> simp_all
    · simp_all

theorem applyClientHello_tracker (tracker : TcpStreamTracker) (snapshot : PolicySnapshot)
    (result : DataplaneResult) (hello : TlsClientHello) (helloResult : TlsClientHelloResult)
    (nowMs : Nat) (resetStatus : Int) :
    (applyClientHello tracker snapshot result hello helloResult nowMs resetStatus).1 = tracker ∨
      (applyClientHello tracker snapshot result hello helloResult nowMs resetStatus).1 =
          (tcpStreamTrackerRejectFlow tracker result.packet nowMs).1 := by
  cases helloResult with
  | complete =>
    unfold applyClientHello
    dsimp only
    split
    · by_cases zero : (dataplaneEvaluateVisibleSni result.packet hello.serverName snapshot).1 = 0
      · have packet := dataplaneEvaluateVisibleSni_packet zero
        rw [if_neg (by simpa using zero)]
        split
        · unfold resetBlockedStream
          split
          · exact .inl rfl
          · rw [packet]
            exact .inr rfl
        · split <;> exact .inl rfl
      · rw [if_pos zero]
        exact .inl rfl
    · exact .inl rfl
  | notClientHello => exact .inl rfl
  | malformed | tooLarge => exact .inr rfl
  | more => exact .inl rfl

variable {result : DataplaneResult} {nowMs : Nat}

theorem applyClientHello_accepted
    (accepted : (if (applyClientHello tracker snapshot result hello .complete
        nowMs resetStatus).2.1 ≠ 0 then NfqueueVerdict.drop
      else (applyClientHello tracker snapshot result hello .complete nowMs
        resetStatus).2.2.verdict) = .accept) :
    (applyClientHello tracker snapshot result hello .complete nowMs resetStatus).1 = tracker := by
  unfold applyClientHello at accepted ⊢
  dsimp only at accepted ⊢
  split
  case isTrue named =>
    rw [if_pos named] at accepted
    split
    · rfl
    case isFalse zero =>
      rw [if_neg zero] at accepted
      split
      case isTrue dropped =>
        rw [if_pos dropped] at accepted
        rw [dropped] at accepted
        simp at accepted
      case isFalse => split <;> rfl
  case isFalse => rfl

section

variable (worker : DataplaneWorker) (snapshot : PolicySnapshot) (resetStatus : Int)
  (nowMs index : Nat) (output : Bytes) (result : DataplaneResult)

theorem feedTlsBytes_tracker : (feedTlsBytes worker snapshot resetStatus nowMs index output
        result).1.tlsStreams = worker.tlsStreams ∨
      (feedTlsBytes worker snapshot resetStatus nowMs index output result).1.tlsStreams =
          (tcpStreamTrackerRejectFlow worker.tlsStreams result.packet nowMs).1 := by
  unfold feedTlsBytes
  dsimp only
  split
  · exact applyClientHello_tracker _ _ _ _ _ _ _
  · exact .inl rfl

theorem feedTlsBytes_parsers : (feedTlsBytes worker snapshot resetStatus nowMs index output
        result).1.tlsParsers.length = worker.tlsParsers.length ∧
      ∀ other, index ≠ other → (feedTlsBytes worker snapshot resetStatus nowMs index output
          result).1.tlsParsers.getD other {} = worker.tlsParsers.getD other {} := by
  unfold feedTlsBytes
  dsimp only
  split
  · refine ⟨by simp, fun other apart => ?_⟩
    simp [getElem?_set_ne apart]
  · exact ⟨rfl, fun _ _ => rfl⟩

end

variable {answer : TcpRawStreamResult} {streams : TcpStreamTracker}

theorem tlsAnswer_ok (answered : (tlsAnswer streams call).2 = .ok (chunk, answer)) :
    (packetValidForPort call.packet 443 = true ∨ packetValidForPort call.packet 853 = true) ∧
      (addRawSegment streams.limits streams.entries call.packet call.nowMs).2 = (chunk, answer) ∧
      (tlsAnswer streams call).1 =
        { streams with
          entries := (addRawSegment streams.limits streams.entries call.packet call.nowMs).1 } := by
  unfold tlsAnswer tcpStreamTrackerAddRaw at answered ⊢
  split at answered
  · cases answered
  case isFalse valid =>
    rw [if_neg valid, if_neg (by simp)]
    refine ⟨?_, by simpa using answered, rfl⟩
    simpa [Classical.or_iff_not_imp_left] using valid

theorem tlsAnswer_added (answered : (tlsAnswer streams ⟨snapshot, result, nowMs⟩).2 = given) :
    tcpStreamTrackerAddRaw streams result.packet nowMs streams.limits.maxBufferedBytes =
      ((tlsAnswer streams ⟨snapshot, result, nowMs⟩).1, given) :=
  Prod.ext rfl answered

theorem tlsAnswer_chunk (answered : (tlsAnswer streams call).2 = .ok (chunk, answer)) :
    (∀ index ∈ chunk.flowIndex, OwnsFlow streams.limits
        (liveFlows streams.entries call.nowMs) (buildKey call.packet)
        index) ∧
      (answer = .bytes → chunk.flowIndex ≠ none) := by
  obtain ⟨_, added, _⟩ := tlsAnswer_ok answered
  obtain ⟨after, admission, admits, result⟩ :=
    addRawSegment_eq streams.limits streams.entries call.packet call.nowMs
  rw [result] at added
  cases admission with
  | admitted index entry newFlow =>
    obtain ⟨rfl, rfl⟩ := Prod.mk.inj added
    refine ⟨?_, by simp⟩
    rintro index ⟨⟩
    exact (admits.admitted_slot none).1
  | reset flowIndex =>
    obtain ⟨rfl, rfl⟩ := Prod.mk.inj added
    refine ⟨?_, by simp⟩
    rintro index ⟨⟩
    cases admits with
    | resetFlow holds sameKey => exact .inl ⟨_, holds, sameKey⟩
  | noFlow =>
    obtain ⟨rfl, rfl⟩ := Prod.mk.inj added
    refine ⟨by simp, ?_⟩
    split <;> simp
  | _ =>
    obtain ⟨rfl, rfl⟩ := Prod.mk.inj added
    exact ⟨by simp, by simp⟩

variable {snapshot : PolicySnapshot}

theorem processTlsStream_effect {worker : DataplaneWorker} {input : WorkerInput}
    (clock : input.streamClock = some nowMs) :
    ((processTlsStream worker snapshot input result).1.tlsStreams =
        (tlsAnswer worker.tlsStreams ⟨snapshot, result, nowMs⟩).1 ∨
      (processTlsStream worker snapshot input result).1.tlsStreams = (tcpStreamTrackerRejectFlow
          (tlsAnswer worker.tlsStreams ⟨snapshot, result, nowMs⟩).1
          result.packet nowMs).1) ∧
      (processTlsStream worker snapshot input result).1.tlsParsers.length =
        worker.tlsParsers.length ∧
      ∀ other, (∀ chunk answer, (tlsAnswer worker.tlsStreams ⟨snapshot, result, nowMs⟩).2 =
            .ok (chunk, answer) → chunk.flowIndex ≠ some other) →
        (processTlsStream worker snapshot input result).1.tlsParsers.getD
            other {} = worker.tlsParsers.getD other {} := by
  unfold processTlsStream
  cases answered : (tlsAnswer worker.tlsStreams ⟨snapshot, result, nowMs⟩).2 with
  | error status => simp [clock, tlsAnswer_added answered]
  | ok answer =>
    obtain ⟨chunk, streamResult⟩ := answer
    simp only [clock, tlsAnswer_added answered]
    split
    · exact ⟨.inl rfl, rfl, fun _ _ => rfl⟩
    cases streamResult with
    | bytes =>
      obtain ⟨_, some⟩ := tlsAnswer_chunk answered
      obtain ⟨position, index⟩ := Option.ne_none_iff_exists'.mp (some rfl)
      obtain ⟨length, others⟩ := feedTlsBytes_parsers
        { worker with
          tlsStreams := (tlsAnswer worker.tlsStreams ⟨snapshot, result, nowMs⟩).1
          tlsParsers := resetParser worker.tlsParsers chunk.flowIndex chunk.newFlow }
        snapshot input.resetStatus nowMs (chunk.flowIndex.getD 0)
        chunk.output result
      refine ⟨feedTlsBytes_tracker .., ?_, ?_⟩
      · dsimp only
        rw [resetParser_length, length, resetParser_length]
      intro other apart
      have apart := apart chunk _ rfl
      have elsewhere : chunk.flowIndex.getD 0 ≠ other := by
        rw [index] at apart ⊢
        simpa using apart
      rw [resetParser_other apart, others other elsewhere, resetParser_other apart]
    | _ =>
      refine ⟨.inl rfl, by simp [resetParser_length], ?_⟩
      intro other apart
      have apart := apart chunk _ rfl
      rw [resetParser_other apart, resetParser_other apart]

/-! ## The TLS flows along a run -/

/-- The TLS flows of a worker, each with a parser. -/
structure TlsWf (worker : DataplaneWorker) : Prop where
  flows : FlowsWf worker.tlsStreams.limits worker.tlsStreams.entries
  drained : WindowsDrained worker.tlsStreams
  parsers : worker.tlsParsers.length = worker.tlsStreams.entries.length

section

variable (called : tlsStreamCall worker input = some call)

include called

theorem process_called :
    ∃ inspected, SameStreams inspected worker ∧ input.streamClock = some call.nowMs ∧
      (dataplaneWorkerProcess worker input).1 =
        (processTlsStream inspected call.snapshot input call.result).1 ∧
      (dataplaneWorkerProcess worker input).2 = if (processTlsStream inspected call.snapshot input
            call.result).2.1 ≠ 0 then .drop
        else (processTlsStream inspected call.snapshot input call.result).2.2.verdict := by
  obtain ⟨acquired, clock, _, _, inspected, same, classified⟩ := classify_tlsStage called
  refine ⟨inspected, same, clock, ?_, ?_⟩
  · simp only [dataplaneWorkerProcess, acquired, classified]
  · simp only [dataplaneWorkerProcess, acquired, classified]

theorem process_tls_refused (refused : (tlsAnswer worker.tlsStreams call).2 = .error status) :
    (dataplaneWorkerProcess worker input).1.tlsStreams = worker.tlsStreams ∧
      (dataplaneWorkerProcess worker input).1.tlsParsers = worker.tlsParsers := by
  have unchanged : tcpStreamTrackerAddRaw worker.tlsStreams call.packet
      call.nowMs worker.tlsStreams.limits.maxBufferedBytes =
        (worker.tlsStreams, .error status) := by
    unfold tlsAnswer tcpStreamTrackerAddRaw at refused
    unfold tcpStreamTrackerAddRaw
    split at refused
    case isTrue invalid =>
      cases refused
      rw [if_pos invalid]
    case isFalse valid =>
      rw [if_neg (by simp)] at refused
      cases refused
  obtain ⟨inspected, ⟨_, _, sameStreams, sameParsers⟩, clock, after, _⟩ := process_called called
  rw [after]
  unfold processTlsStream
  simp only [clock]
  rw [sameStreams]
  unfold StreamCall.packet at unchanged
  rw [unchanged]
  exact ⟨rfl, sameParsers⟩

theorem process_tlsWrites : TrackerWrite worker.tlsStreams (buildKey call.packet) call.nowMs
        (tlsAnswer worker.tlsStreams call).1 ∧
      ((dataplaneWorkerProcess worker input).1.tlsStreams = (tlsAnswer worker.tlsStreams call).1 ∨
        (dataplaneWorkerProcess worker input).1.tlsStreams =
          (tcpStreamTrackerRejectFlow (tlsAnswer worker.tlsStreams call).1
            call.packet call.nowMs).1) := by
  obtain ⟨inspected, same, clock, after, _⟩ := process_called called
  obtain ⟨writes, _, _⟩ := @processTlsStream_effect
      call.result call.nowMs call.snapshot inspected input clock
  rw [same.2.2.1] at writes
  rw [after]
  exact ⟨tcpStreamTrackerAddRaw_write _ _ _ _, writes⟩

end

theorem process_tlsWf (input : WorkerInput) (wf : TlsWf worker) :
    TlsWf (dataplaneWorkerProcess worker input).1 := by
  cases called : tlsStreamCall worker input with
  | none =>
    obtain ⟨sameStreams, sameParsers⟩ := process_tls_other called
    refine ⟨?_, ?_, ?_⟩
    · rw [sameStreams]
      exact wf.flows
    · rw [sameStreams]
      exact wf.drained
    · rw [sameStreams, sameParsers]
      exact wf.parsers
  | some call =>
    obtain ⟨first, second⟩ := process_tlsWrites called
    obtain ⟨inspected, same, clock, after, _⟩ := process_called called
    obtain ⟨_, length, _⟩ := @processTlsStream_effect
      call.result call.nowMs call.snapshot inspected input clock
    have drained : WindowsDrained (tlsAnswer worker.tlsStreams call).1 :=
      tcpStreamTrackerAddRaw_drained _ _ _ wf.drained
    rw [same.2.2.2, ← after, wf.parsers] at length
    rcases second with same | rejected
    · refine ⟨?_, ?_, ?_⟩
      · rw [same]
        exact first.wf wf.flows
      · rw [same]
        exact drained
      · rw [length, same, first.length_eq]
    · have write := tcpStreamTrackerRejectFlow_write
        (tlsAnswer worker.tlsStreams call).1 call.packet call.nowMs
      refine ⟨?_, ?_, ?_⟩
      · rw [rejected]
        exact write.wf (first.wf wf.flows)
      · rw [rejected]
        exact tcpStreamTrackerRejectFlow_drained _ _ drained
      · rw [length, rejected, write.length_eq, first.length_eq]

/-- The flow is not rejected, its parser has decided, and its base lies at or after `next`. -/
def FlowAccepted (key : StreamKey) (next : UInt32) (worker : DataplaneWorker) : Prop :=
  ∀ index entry, At worker.tlsStreams.entries index entry → entry.key = key →
      entry.rejected = false ∧
      (worker.tlsParsers.getD index {}).terminal = .complete ∧
      ∃ behind, behind ≤ bytesLimit ∧ entry.baseSequence = next + UInt32.ofNat behind

theorem flowAccepted_written (slot : Option StreamEntry)
    (entries : worker.tlsStreams.entries = live.set index slot) (inside : index < live.length)
    (alone : ∀ other entry, At live other entry → entry.key = key → other = index)
    (kept : ∀ left ∈ slot, left.rejected = false ∧
      (worker.tlsParsers.getD index {}).terminal = .complete ∧
      ∃ behind, behind ≤ bytesLimit ∧ left.baseSequence = next + UInt32.ofNat behind) :
    FlowAccepted key next worker := by
  intro position left there leftKey
  rw [entries, at_set_iff inside] at there
  rcases there with ⟨rfl, written⟩ | ⟨elsewhere, other⟩
  · exact kept left written
  · exact absurd (alone position left other leftKey) elsewhere

/-- A flow of another key that is there after a call was there before it, with
the same parser. -/
theorem process_tls_elsewhere (called : tlsStreamCall worker input = some call)
    (apart : entry.key ≠ buildKey call.packet)
    (holds : At (dataplaneWorkerProcess worker input).1.tlsStreams.entries index entry) :
    At worker.tlsStreams.entries index entry ∧
      (dataplaneWorkerProcess worker input).1.tlsParsers.getD index {} =
        worker.tlsParsers.getD index {} := by
  obtain ⟨first, second⟩ := process_tlsWrites called
  have between : At (tlsAnswer worker.tlsStreams call).1.entries index entry := by
    rcases second with same | rejected
    · rwa [same] at holds
    · rw [rejected] at holds
      exact (tcpStreamTrackerRejectFlow_write _ _ _).before apart holds
  obtain ⟨inspected, same, clock, after, _⟩ := process_called called
  obtain ⟨_, _, others⟩ := @processTlsStream_effect
      call.result call.nowMs call.snapshot inspected input clock
  rw [same.2.2.1, same.2.2.2, ← after] at others
  refine ⟨first.before apart between, others index ?_⟩
  intro chunk answer answered named
  obtain ⟨_, _, entries⟩ := tlsAnswer_ok answered
  rw [entries] at between
  have live := ((addRawSegment_write _ _ _ _).frame apart).mp between
  rcases (tlsAnswer_chunk answered).1 index named with ⟨own, holdsOwn, ownKey⟩ | ⟨free, _⟩
  · exact apart (live.functional holdsOwn ▸ ownKey)
  · rw [At, free] at live
    cases live

theorem flowAccepted_other (held : FlowAccepted key next worker)
    (called : tlsStreamCall worker input = some call) (different : buildKey call.packet ≠ key) :
    FlowAccepted key next (dataplaneWorkerProcess worker input).1 := by
  intro index entry holds sameKey
  have apart : entry.key ≠ buildKey call.packet := by
    rw [sameKey]
    exact fun same => different same.symm
  obtain ⟨before, parser⟩ := process_tls_elsewhere called apart holds
  rw [parser]
  exact held index entry before sameKey

/-- The stage accepts what the tracker yields for a decided flow. -/
theorem processTlsStream_decided {worker : DataplaneWorker} {input : WorkerInput} {index : Nat}
    {chunk : TcpRawStreamChunk} (clock : input.streamClock = some nowMs)
    (answered : (tlsAnswer worker.tlsStreams ⟨snapshot, result, nowMs⟩).2 = .ok (chunk, answer))
    (named : chunk.flowIndex = some index) (continued : chunk.newFlow = false)
    (inside : index < worker.tlsParsers.length)
    (decided : (worker.tlsParsers.getD index {}).terminal ≠ .more) (noConflict : answer ≠ .conflict)
    (noRefusal : answer ≠ .exhausted) :
    (processTlsStream worker snapshot input result).1.tlsStreams =
        (tlsAnswer worker.tlsStreams ⟨snapshot, result, nowMs⟩).1 ∧
      (processTlsStream worker snapshot input result).1.tlsParsers =
        resetParser worker.tlsParsers (some index) chunk.closed ∧
      (processTlsStream worker snapshot input result).2.1 = 0 ∧
      (processTlsStream worker snapshot input result).2.2.verdict = .accept := by
  simp only [processTlsStream, clock, tlsAnswer_added answered, named, Option.any_some,
    Option.getD_some]
  rw [if_neg (by simpa using inside)]
  simp only [resetParser, continued, Bool.false_eq_true, if_false]
  cases answer with
  | bytes =>
    simp only [feedTlsBytes]
    rw [if_neg decided]
    exact ⟨rfl, rfl, rfl, rfl⟩
  | buffered | duplicate | closed => exact ⟨rfl, rfl, rfl, rfl⟩
  | conflict => exact absurd rfl noConflict
  | exhausted => exact absurd rfl noRefusal

theorem tlsClientHelloParserFeed_decided (decided : parser.terminal ≠ .more) (data : Bytes) :
    tlsClientHelloParserFeed parser data = parser := by
  cases data with
  | nil => rfl
  | cons byte data => exact if_pos (.inr decided)

theorem feedTlsBytes_fed (worker : DataplaneWorker) (snapshot : PolicySnapshot) (resetStatus : Int)
    (nowMs : Nat) (output : Bytes) (result : DataplaneResult)
    (inside : index < worker.tlsParsers.length) :
    (feedTlsBytes worker snapshot resetStatus nowMs index output
        result).1.tlsParsers.getD index {} =
      tlsClientHelloParserFeed (worker.tlsParsers.getD index {}) output := by
  unfold feedTlsBytes
  dsimp only
  split
  · simp [getD_eq_getElem?_getD, inside]
  case isFalse decided => exact (tlsClientHelloParserFeed_decided decided output).symm

theorem processTlsStream_fed {worker : DataplaneWorker} {input : WorkerInput}
    {chunk : TcpRawStreamChunk} (clock : input.streamClock = some nowMs)
    (answered : (tlsAnswer worker.tlsStreams ⟨snapshot, result, nowMs⟩).2 = .ok (chunk, answer))
    (named : chunk.flowIndex = some index) (stays : chunk.closed = false)
    (inside : index < worker.tlsParsers.length) (silent : answer ≠ .bytes → chunk.output = []) :
    (processTlsStream worker snapshot input result).1.tlsParsers.getD index {} =
      tlsClientHelloParserFeed (chunkParser worker.tlsParsers chunk) chunk.output := by
  have parser : chunkParser worker.tlsParsers chunk =
      (resetParser worker.tlsParsers chunk.flowIndex chunk.newFlow).getD index {} := by
    rw [chunkParser, named]
    rfl
  have bound : index < (resetParser worker.tlsParsers chunk.flowIndex chunk.newFlow).length := by
    rwa [resetParser_length]
  have enough : ¬ chunk.flowIndex.any
      (fun index => decide (index ≥ worker.tlsParsers.length)) = true := by
    rw [named]
    simpa using inside
  simp only [processTlsStream, clock, tlsAnswer_added answered]
  rw [if_neg enough, stays]
  rw [resetParser_kept, parser]
  cases answer with
  | bytes =>
    rw [named] at bound ⊢
    exact feedTlsBytes_fed _ snapshot input.resetStatus nowMs chunk.output result bound
  | _ =>
    rw [silent (by simp)]
    rfl

/-- An accepted ClientHello leaves the tracker as it answered, and its parser
decided. -/
theorem processTlsStream_hello {worker : DataplaneWorker} {input : WorkerInput} {index : Nat}
    {chunk : TcpRawStreamChunk} (clock : input.streamClock = some nowMs)
    (answered : (tlsAnswer worker.tlsStreams ⟨snapshot, result, nowMs⟩).2 = .ok (chunk, .bytes))
    (named : chunk.flowIndex = some index) (stays : chunk.closed = false)
    (inside : index < worker.tlsParsers.length)
    (parsing : (chunkParser worker.tlsParsers chunk).terminal = .more)
    (complete : (tlsClientHelloParserFeed (chunkParser worker.tlsParsers
      chunk) chunk.output).terminal = .complete)
    (accepted : (if (processTlsStream worker snapshot input result).2.1 ≠ 0
      then NfqueueVerdict.drop
      else (processTlsStream worker snapshot input result).2.2.verdict) = .accept) :
    (processTlsStream worker snapshot input result).1.tlsStreams =
        (tlsAnswer worker.tlsStreams ⟨snapshot, result, nowMs⟩).1 ∧
      ((processTlsStream worker snapshot input result).1.tlsParsers.getD
        index {}).terminal = .complete := by
  refine ⟨?_, ?_⟩
  · unfold chunkParser at parsing complete
    simp only [named, Option.getD_some] at parsing complete
    have notBeyond : ¬ decide (index ≥ worker.tlsParsers.length) = true := by simpa using inside
    simp only [processTlsStream, clock, tlsAnswer_added answered, named, Option.any_some,
      Option.getD_some, notBeyond, Bool.false_eq_true, if_false, feedTlsBytes, parsing, if_true,
      complete, stays] at accepted ⊢
    exact applyClientHello_accepted accepted
  · rw [processTlsStream_fed clock answered named stays inside fun other => absurd rfl other]
    exact complete

/-! ## Data in order -/

def flowCall (key : StreamKey) (worker : DataplaneWorker)
    (input : WorkerInput) : Option StreamCall :=
  (tlsStreamCall worker input).filter fun call =>
    decide (buildKey call.packet = key) && (packetValidForPort call.packet 443 ||
        packetValidForPort call.packet 853)

/-- The tracker holds the flow with nothing buffered behind a gap, and the payload fits. -/
def FlowTracked (key : StreamKey) (worker : DataplaneWorker) (input : WorkerInput) : Prop :=
  ∀ call ∈ flowCall key worker input, (∃ slot ∈ worker.tlsStreams.entries, ∃ entry ∈ slot,
      entry.key = key ∧ flowExpired call.nowMs entry = false ∧ flowHasBytes entry.window = false) ∧
      call.packet.payloadSize ≤ worker.tlsStreams.limits.maxBufferedBytes
  deriving Decidable

theorem flowCall_some (called : flowCall key worker input = some call) :
    tlsStreamCall worker input = some call ∧ buildKey call.packet = key ∧
      (packetValidForPort call.packet 443 = true ∨ packetValidForPort call.packet 853 = true) := by
  obtain ⟨made, passes⟩ := Option.filter_eq_some_iff.mp called
  simpa using And.intro made passes

section

variable (valid : packetValidForPort packet 443 = true ∨ packetValidForPort packet 853 = true)

include valid

theorem payloadBytes_valid : (payloadBytes packet).length = packet.payloadSize := by
  have range : rangeValid packet.payloadOffset packet.payloadSize packet.frame.length = true := by
    rcases valid with valid | valid <;>
      · simp only [packetValidForPort, Bool.and_eq_true] at valid
        exact valid.2
  have bounds := (rangeValid_iff _ _ _).mp range
  rw [payloadBytes, slice_length]
  omega

theorem packetValidForPort_tls : packet.fragmented = false ∧ packet.transport = .tcp ∧
      isStreamPort packet.destinationPort = true ∧
      (packet.destinationPort = 443 ∨ packet.destinationPort = 853) := by
  rcases valid with valid | valid
  · obtain ⟨whole, tcp, port⟩ := packetValidForPort_whole valid
    exact ⟨whole, tcp, by rw [port]; rfl, .inl port⟩
  · obtain ⟨whole, tcp, port⟩ := packetValidForPort_whole valid
    exact ⟨whole, tcp, by rw [port]; rfl, .inr port⟩

end

theorem limits_window {limits : TcpStreamLimits} (valid : tcpStreamLimitsValidate limits = 0) :
    limits.maxOutOfOrderSegments ≠ 0 ∧ limits.maxBufferedBytes ≤ bytesLimit := by
  unfold tcpStreamLimitsValidate at valid
  split at valid
  · cases valid
  · split at valid
    · cases valid
    · omega

theorem addRawSegment_inOrder {limits : TcpStreamLimits} (unique : Unique StreamEntry.key entries)
    (holds : At (liveFlows entries nowMs) index entry) (sameKey : entry.key = buildKey packet)
    (alive : entry.rejected = false) (inOrder : InOrder limits packet entry behind)
    (noSyn : isSyn packet = false) (noRst : isRst packet = false) :
    ∃ slot chunk answer, addRawSegment limits entries packet nowMs =
          ((liveFlows entries nowMs).set index slot, chunk, answer) ∧
        chunk.flowIndex = some index ∧ chunk.newFlow = false ∧
        answer ≠ .conflict ∧ answer ≠ .exhausted ∧
        (chunk.closed = true → slot = none) ∧
        ∀ left ∈ slot, Continues packet left := by
  have admitted := @admitPacket_present packet nowMs limits _ _ (expireFlows entries nowMs)
    (unique.expire _) holds sameKey noSyn noRst
  rw [if_neg (by simp [alive])] at admitted
  have fresh : InOrder limits packet
      { entry with idleDeadline := deadline nowMs limits.idleTimeoutMs } behind :=
    { inOrder with }
  obtain ⟨slot, output, closed, answer, added, noConflict, noRefusal,
    ends, goesOn⟩ := @InOrder.addRawToFlow_spec _ _ nowMs _ _ fresh alive
  unfold addRawSegment
  rw [admitted]
  dsimp only
  rw [added]
  exact ⟨slot, _, answer, rfl, rfl, rfl, noConflict, noRefusal, ends, goesOn⟩

theorem flowAccepted_inOrder (wf : TlsWf worker) (held : FlowAccepted key next worker)
    (called : flowCall key worker input = some call) (tracked : FlowTracked key worker input)
    (noSyn : isSyn call.packet = false) (noRst : isRst call.packet = false)
    (start : payloadSequence call.packet = next) :
    (dataplaneWorkerProcess worker input).2 = .accept ∧
      FlowAccepted key (next + UInt32.ofNat call.packet.payloadSize)
        (dataplaneWorkerProcess worker input).1 := by
  obtain ⟨made, sameKey, valid⟩ := flowCall_some called
  obtain ⟨⟨slotHeld, member, entry, inSlot, entryKey, fresh, nothing⟩, fits⟩ := tracked call called
  obtain ⟨index, bound, atIndex⟩ := mem_iff_getElem.mp member
  have holds : At worker.tlsStreams.entries index entry := by
    rw [At, getElem?_eq_getElem bound, atIndex, inSlot]
  have live : At (liveFlows worker.tlsStreams.entries call.nowMs) index entry :=
    at_expire_iff.mpr ⟨holds, fresh⟩
  obtain ⟨alive, decided, behind, near, base⟩ := held index entry holds entryKey
  have inOrder : InOrder worker.tlsStreams.limits call.packet entry behind :=
    { window := (wf.drained index entry holds).length
      nothing := nothing
      base := by rw [start]; exact base
      near := near
      payload := payloadBytes_valid valid
      fits := fits
      segments := (limits_window worker.tlsStreams.limitsValid).1 }
  obtain ⟨slot, chunk, answer, added, named, continued, noConflict,
    noRefusal, ends, goesOn⟩ := addRawSegment_inOrder wf.flows.unique live
      (entryKey.trans sameKey.symm) alive inOrder noSyn noRst
  have answered : tlsAnswer worker.tlsStreams call =
      ({ worker.tlsStreams with
          entries := (liveFlows worker.tlsStreams.entries call.nowMs).set
            index slot }, .ok (chunk, answer)) := by
    unfold tlsAnswer tcpStreamTrackerAddRaw
    rw [if_neg (by simpa [Classical.or_iff_not_imp_left] using valid), if_neg (by simp), added]
  obtain ⟨inspected, same, clock, after, verdict⟩ := process_called made
  obtain ⟨_, _, sameStreams, sameParsers⟩ := same
  obtain ⟨streams, parsers, zero, accepted⟩ :=
    @processTlsStream_decided call.result call.nowMs answer
      call.snapshot inspected input index chunk clock
      (by rw [sameStreams]; exact congrArg Prod.snd answered) named continued
      (by rw [sameParsers, wf.parsers]; exact holds.lt_length)
      (by rw [sameParsers, decided]; simp) noConflict noRefusal
  refine ⟨by rw [verdict, zero]; simpa using accepted, ?_⟩
  rw [after]
  refine flowAccepted_written slot ?_ live.lt_length (fun _ _ other otherKey =>
    (wf.flows.live call.nowMs).unique _ _ _ _ other live (otherKey.trans entryKey.symm))
    fun left written => ?_
  · rw [streams, sameStreams]
    exact congrArg (fun pair => pair.1.entries) answered
  obtain ⟨leftAlive, further, leftNear, leftBase⟩ := goesOn left written
  have notClosed : chunk.closed = false := by
    cases closed : chunk.closed with
    | false => rfl
    | true =>
      rw [ends closed] at written
      cases written
  refine ⟨leftAlive, ?_, further, leftNear, by rw [leftBase, start]⟩
  rw [parsers, notClosed, resetParser_kept, sameParsers]
  exact decided

def DroppedAsMalformed (worker : DataplaneWorker) (input : WorkerInput) : Prop :=
  ∃ snapshot ∈ input.snapshot, (classify worker snapshot input).2.1 = 0 ∧
      (classify worker snapshot input).2.2.verdict = .drop ∧
      (classify worker snapshot input).2.2.reason = .malformed
  deriving Decidable

/-- The TCP packet to port 443 or 853 that a frame carries or completes. -/
def tlsPacket (worker : DataplaneWorker) (input : WorkerInput) : Option PacketView :=
  match input.snapshot with
  | none => none
  | some snapshot =>
    let packet := (inspectFrame worker snapshot input).2.2.packet
    if packetValidForPort packet 443 || packetValidForPort packet 853 then some packet
    else none

theorem droppedAsMalformed_drop (dropped : DroppedAsMalformed worker input) :
    (dataplaneWorkerProcess worker input).2 = .drop := by
  obtain ⟨snapshot, acquired, zero, verdict, _⟩ := dropped
  unfold dataplaneWorkerProcess
  rw [show input.snapshot = some snapshot from acquired]
  simp [verdict]

theorem buildClient_sameFlow (built : buildClient packet = .ok client)
    (parsed : Packet.ParsedView frame limits other) (sameFlow : buildKey other = buildKey packet) :
    ∃ otherClient, buildClient other = .ok otherClient := by
  have tags : other.vlanTci.map (· &&& 0x0fff) =
      packet.vlanTci.map (· &&& 0x0fff) := congrArg StreamKey.vlanTci sameFlow
  have lastTag : other.vlanTci.getLast?.map (· &&& 0x0fff) =
      packet.vlanTci.getLast?.map (· &&& 0x0fff) := by
    rw [← getLast?_map, ← getLast?_map, tags]
  apply buildClient_parsed parsed
  intro tci last
  rw [show other.vlanTci.getLast? = some tci from last] at lastTag
  obtain ⟨packetTci, packetLast, same⟩ := Option.map_eq_some_iff.mp lastTag.symm
  have masked : tci &&& 0x0fff = packetTci &&& 0x0fff := same.symm
  rw [masked]
  exact buildClient_vlan built packetTci packetLast

/-- An internal error, a policy block, or the stream stage. -/
theorem dataplaneEvaluate_tlsStream (built : buildClient packet = .ok client)
    (valid : packetValidForPort (dataplaneEvaluate frame limits snapshot).2.packet 443 = true ∨
      packetValidForPort (dataplaneEvaluate frame limits snapshot).2.packet 853 = true)
    (sameFlow : buildKey (dataplaneEvaluate frame limits snapshot).2.packet = buildKey packet) :
    (dataplaneEvaluate frame limits snapshot).1 ≠ 0 ∨
      (dataplaneEvaluate frame limits snapshot).2.reason = .policyBlock ∨
      (dataplaneEvaluate frame limits snapshot).2.reason = .streamPending := by
  have whole := packetValidForPort_tls valid
  rcases parsed : packetParse frame limits with ⟨outcome, view⟩
  cases outcome with
  | ok =>
    have packetEq := @dataplaneEvaluate_packet frame limits snapshot view parsed
    rw [packetEq] at sameFlow whole
    obtain ⟨viewClient, viewBuilt⟩ := buildClient_sameFlow built
      (Packet.packetParse_parsed parsed) sameFlow
    have kept := @evaluateDestination_packet (parsedResult snapshot view) viewClient snapshot view
    unfold dataplaneEvaluate
    simp only [parsed, viewBuilt]
    rcases evaluated : evaluateDestination view viewClient snapshot
      (parsedResult snapshot view) with ⟨status, result⟩
    rw [evaluated] at kept
    by_cases zero : status = 0
    · subst zero
      dsimp only at kept ⊢
      by_cases blocked : result.reason = .policyBlock
      · right
        left
        simp [blocked]
      right
      right
      change (if result.reason = .policyBlock then (0, result)
        else evaluateSelected viewClient snapshot result).2.reason = _
      rw [if_neg blocked, evaluateSelected]
      simp [kept, whole]
    · left
      simp [eInval]
  | nonIp =>
    have noIp := Packet.packetParse_nonIp parsed
    unfold dataplaneEvaluate at valid
    simp [parsed, packetValidForPort, noIp] at valid
  | _ =>
    have cleared := Packet.packetParse_failed parsed (by simp) (by simp)
    unfold dataplaneEvaluate at whole
    simp [parsed, cleared] at whole

theorem not_called_not_malformed (built : buildClient known = .ok client)
    (carried : tlsPacket worker input = some packet) (sameFlow : buildKey packet = buildKey known)
    (notCalled : tlsStreamCall worker input = none) :
    ¬ DroppedAsMalformed worker input := by
  rintro ⟨snapshot, acquired, zero, verdict, malformed⟩
  have held : input.snapshot = some snapshot := acquired
  simp only [tlsPacket, held, Option.ite_none_right_eq_some, Bool.or_eq_true,
    Option.some.injEq] at carried
  obtain ⟨valid, rfl⟩ := carried
  obtain ⟨whole, tcp, _, port⟩ := packetValidForPort_tls valid
  have outcome : (inspectFrame worker snapshot input).2.1 ≠ 0 ∨
      (inspectFrame worker snapshot input).2.2.reason = .policyBlock ∨
      (inspectFrame worker snapshot input).2.2.reason = .streamPending := by
    obtain ⟨_, _, ⟨frame, evaluated⟩ | ⟨fragmented, _⟩⟩ := inspectFrame_cases worker snapshot input
    · rw [evaluated] at valid sameFlow ⊢
      exact dataplaneEvaluate_tlsStream built valid sameFlow
    · rw [whole] at fragmented
      cases fragmented
  rcases found : inspectFrame worker snapshot input with ⟨inspected, status, result⟩
  rw [found] at outcome tcp port
  dsimp only at outcome tcp port
  rw [classify_eq found] at zero malformed
  by_cases failed : status = 0
  · rw [if_pos failed, if_neg (by simp [respondsUdp_tcp tcp])] at zero malformed
    rcases outcome with nonzero | blocked | pending
    · exact nonzero failed
    · simp [processStreams, blocked] at malformed
    have notDns : result.packet.destinationPort ≠ 53 := by
      rcases port with port | port <;> simp [port]
    cases clock : input.streamClock with
    | none =>
      simp [processStreams, pending, tcp, notDns, port, processTlsStream, clock, eInval] at zero
    | some nowMs =>
      simp [tlsStreamCall, held, clock, found, failed, pending, tcp, port] at notCalled
  · rw [if_neg failed] at zero
    exact failed zero

/-! ## Runs of the worker -/

/-- A call completes the ClientHello of its flow and is accepted. -/
structure HelloAccepted (event : WorkerEvent) (call : StreamCall) : Prop where
  called : tlsStreamCall event.before event.input = some call
  accepted : event.answer = .accept
  complete : ∃ answer ∈ (tlsAnswer event.before.tlsStreams call).2.toOption, answer.2 = .bytes ∧
    (chunkParser event.before.tlsParsers answer.1).terminal = .more ∧
    (tlsClientHelloParserFeed (chunkParser event.before.tlsParsers answer.1)
      answer.1.output).terminal = .complete

theorem HelloAccepted.chunk (hello : HelloAccepted event call) : ∃ chunk,
      (tlsAnswer event.before.tlsStreams call).2 = .ok (chunk, .bytes) ∧
        (chunkParser event.before.tlsParsers chunk).terminal = .more ∧
        (tlsClientHelloParserFeed (chunkParser event.before.tlsParsers chunk)
          chunk.output).terminal = .complete := by
  obtain ⟨⟨chunk, result⟩, answered, bytes, parsing, complete⟩ := hello.complete
  subst bytes
  exact ⟨chunk, Outcome.eq_ok_of_mem_toOption answered, parsing, complete⟩

/-- The packets come in order, from a sequence number on, and none restarts or resets the flow. -/
def InOrderData (key : StreamKey) : UInt32 → List WorkerEvent → Prop
  | _, [] => True
  | next, event :: events =>
    match flowCall key event.before event.input with
    | some call =>
      isSyn call.packet = false ∧ isRst call.packet = false ∧ payloadSequence call.packet = next ∧
        InOrderData key (next + UInt32.ofNat call.packet.payloadSize) events
    | none => InOrderData key next events

theorem helloAccepted_flow (wf : TlsWf worker)
    (hello : HelloAccepted (eventOf dataplaneWorkerProcess worker input) call)
    (goesOn : isFin call.packet = false) :
    FlowAccepted (buildKey call.packet)
      (payloadSequence call.packet + UInt32.ofNat call.packet.payloadSize)
      (dataplaneWorkerProcess worker input).1 := by
  obtain ⟨chunk, answered, parsing, complete⟩ := hello.chunk
  have called := hello.called
  have accepted := hello.accepted
  dsimp only [eventOf] at called accepted answered parsing complete
  obtain ⟨valid, added, streamsAfter⟩ := tlsAnswer_ok answered
  obtain ⟨after, admission, admits, result⟩ :=
    addRawSegment_eq worker.tlsStreams.limits worker.tlsStreams.entries call.packet call.nowMs
  rw [result] at added streamsAfter
  cases admission with
  | admitted index entry newFlow =>
    dsimp only at added streamsAfter
    rcases placed : addRawToFlow worker.tlsStreams.limits call.packet
      call.nowMs entry with ⟨slot, output, closed, answer⟩
    rw [placed] at added streamsAfter
    obtain ⟨rfl, rfl⟩ := Prod.mk.inj added
    obtain ⟨owns, written⟩ := admits.admitted_slot slot
    rw [written] at streamsAfter
    have live : ∀ index entry, At
        (liveFlows worker.tlsStreams.entries call.nowMs) index entry →
          RawWindow worker.tlsStreams.limits entry :=
      fun index entry holds => wf.drained index entry (at_expire_iff.mp holds).1
    obtain ⟨staysOpen, continues⟩ := addRawToFlow_bytes
      ((rawWindow_flowProperty _).admitted admits live)
      (limits_window worker.tlsStreams.limitsValid).2
      (payloadBytes_valid valid) admits.admitted_entry.2 goesOn placed
    obtain ⟨inspected, same, clock, afterEq, verdict⟩ := process_called called
    obtain ⟨_, _, sameStreams, sameParsers⟩ := same
    have inside : index < inspected.tlsParsers.length := by
      rw [sameParsers, wf.parsers]
      simpa [liveFlows, expireFlows] using owns.lt_length
    rw [← sameParsers] at parsing complete
    rw [verdict] at accepted
    obtain ⟨streams, parser⟩ := @processTlsStream_hello
      call.result call.nowMs call.snapshot inspected input index _ clock
      (by rw [sameStreams]; exact answered) rfl staysOpen inside parsing
      complete accepted
    rw [afterEq]
    refine flowAccepted_written slot ?_ owns.lt_length
      (owns.alone (wf.flows.live call.nowMs).unique) fun left written => ?_
    · rw [streams, sameStreams]
      exact congrArg TcpStreamTracker.entries streamsAfter
    · obtain ⟨alive, continued⟩ := continues left written
      exact ⟨alive, parser, continued⟩
  | reset flowIndex | conflict | exhausted => simp at added
  | noFlow =>
    dsimp only at added
    split at added <;> simp at added

theorem flowAccepted_elsewhere (held : FlowAccepted key next worker)
    (notCalled : flowCall key worker input = none) :
    FlowAccepted key next (dataplaneWorkerProcess worker input).1 := by
  have unchanged : (dataplaneWorkerProcess worker input).1.tlsStreams = worker.tlsStreams ∧
      (dataplaneWorkerProcess worker input).1.tlsParsers = worker.tlsParsers →
      FlowAccepted key next (dataplaneWorkerProcess worker input).1 := by
    rintro ⟨sameStreams, sameParsers⟩
    unfold FlowAccepted
    rw [sameStreams, sameParsers]
    exact held
  cases called : tlsStreamCall worker input with
  | none => exact unchanged (process_tls_other called)
  | some call =>
    by_cases sameKey : buildKey call.packet = key
    · have invalid : (packetValidForPort call.packet 443 ||
          packetValidForPort call.packet 853) = false := by
        simpa [flowCall, called, sameKey] using notCalled
      have refused : (tlsAnswer worker.tlsStreams call).2 = .error eInval := by
        unfold tlsAnswer tcpStreamTrackerAddRaw
        rw [if_pos (by simpa using invalid)]
      exact unchanged (process_tls_refused called refused)
    · exact flowAccepted_other held called sameKey

theorem FlowAccepted.not_rejected (held : FlowAccepted key next worker) :
    ¬ HoldsRejected worker.tlsStreams key := by
  rintro ⟨index, entry, holds, sameKey, rejected⟩
  rw [(held index entry holds sameKey).1] at rejected
  cases rejected

/-- A packet of the flow that no call takes was stopped before the stage. -/
theorem flowCall_none (notCalled : flowCall key worker input = none)
    (carried : tlsPacket worker input = some packet) (sameFlow : buildKey packet = key) :
    tlsStreamCall worker input = none := by
  cases called : tlsStreamCall worker input with
  | none => rfl
  | some call =>
    obtain ⟨acquired, _, same, _⟩ := classify_tlsStage called
    simp only [tlsPacket, acquired, Option.ite_none_right_eq_some,
      Bool.or_eq_true, Option.some.injEq] at carried
    obtain ⟨valid, rfl⟩ := carried
    rw [← same] at valid sameFlow
    have passes : flowCall key worker input = some call := by
      simp [flowCall, called, StreamCall.packet, sameFlow, valid]
    rw [passes] at notCalled
    cases notCalled

section

variable (built : buildClient known = .ok client) (knownKey : buildKey known = key)

include built knownKey

theorem flowAccepted_step (wf : TlsWf worker) (held : FlowAccepted key next worker)
    (inOrder : InOrderData key next (eventOf dataplaneWorkerProcess worker input :: rest))
    (tracked : FlowTracked key worker input) :
    (∀ packet ∈ tlsPacket worker input, buildKey packet = key → ¬ DroppedAsMalformed worker input) ∧
      ∃ following, FlowAccepted key following (dataplaneWorkerProcess worker input).1 ∧
        InOrderData key following rest := by
  unfold InOrderData at inOrder
  dsimp only [eventOf] at inOrder
  cases called : flowCall key worker input with
  | some call =>
    rw [called] at inOrder
    obtain ⟨noSyn, noRst, start, following⟩ := inOrder
    obtain ⟨accepted, kept⟩ := flowAccepted_inOrder wf held called tracked noSyn noRst start
    refine ⟨fun _ _ _ dropped => ?_, _, kept, following⟩
    rw [droppedAsMalformed_drop dropped] at accepted
    cases accepted
  | none =>
    rw [called] at inOrder
    refine ⟨fun packet carried sameFlow => ?_, next, flowAccepted_elsewhere held called, inOrder⟩
    exact not_called_not_malformed built carried (sameFlow.trans knownKey.symm)
      (flowCall_none called carried sameFlow)

theorem flowAccepted_run (split : run dataplaneWorkerProcess start inputs = later ++ future)
    (wf : TlsWf start) (held : FlowAccepted key next start) (inOrder : InOrderData key next later)
    (tracked : ∀ event ∈ later, FlowTracked key event.before event.input) :
    ∀ event ∈ later, (∀ packet ∈ tlsPacket event.before event.input, buildKey packet = key →
          ¬ DroppedAsMalformed event.before event.input) ∧
        ¬ HoldsRejected event.after.tlsStreams key := by
  induction later generalizing start inputs next with
  | nil => simp
  | cons first rest ih =>
    cases inputs with
    | nil => cases split
    | cons input inputs =>
      obtain ⟨rfl, splitRest⟩ := cons.inj split
      have here : FlowTracked key start input := tracked _ (mem_cons_self ..)
      obtain ⟨notMalformed, following, kept, inOrderRest⟩ :=
        flowAccepted_step built knownKey wf held inOrder here
      intro event member
      rcases mem_cons.mp member with rfl | memberRest
      · exact ⟨notMalformed, kept.not_rejected⟩
      · exact ih splitRest (process_tlsWf input wf) kept inOrderRest (fun other otherMember =>
            tracked other (mem_cons_of_mem _ otherMember))
          event memberRest

end

theorem created_tlsWf
    (created : dataplaneWorkerCreate limits fragmentLimits streamLimits = .ok worker) :
    TlsWf worker := by
  obtain ⟨_, _, tlsCreated, parsers⟩ := dataplaneWorkerCreate_ok created
  refine ⟨created_flowsWf tlsCreated, ?_, ?_⟩
  · intro index entry holds
    exact absurd holds (created_empty tlsCreated index entry)
  · rw [parsers, (tcpStreamTrackerCreate_ok tlsCreated).2, length_replicate, length_replicate]

theorem helloAccepted_client (hello : HelloAccepted event call) :
    ∃ client, buildClient call.packet = .ok client := by
  obtain ⟨chunk, answered, _⟩ := hello.chunk
  obtain ⟨valid, _⟩ := tlsAnswer_ok answered
  obtain ⟨_, _, same, pending, _⟩ := classify_tlsStage hello.called
  have whole := (packetValidForPort_tls valid).1
  obtain ⟨_, _, ⟨frame, evaluated⟩ | ⟨fragmented, _⟩⟩ :=
      inspectFrame_cases event.before call.snapshot event.input
  · rw [evaluated] at same
    rw [same] at pending
    unfold StreamCall.packet at whole ⊢
    rw [same] at whole ⊢
    rcases parsed : packetParse frame event.before.limits with ⟨outcome, view⟩
    cases outcome with
    | ok =>
      have packetEq := @dataplaneEvaluate_packet frame event.before.limits call.snapshot view parsed
      rcases @dataplaneEvaluate_parsed frame event.before.limits call.snapshot view parsed with
        ⟨_, _, settled⟩ | ⟨client, _, built, _⟩
      · rw [pending] at settled
        cases settled
      · rw [packetEq]
        exact ⟨client, built⟩
    | _ =>
      unfold dataplaneEvaluate at pending
      simp [parsed, initializeResult] at pending
  · rw [← same] at fragmented
    rw [show call.result.packet.fragmented = false from whole] at fragmented
    cases fragmented

/-- After an accepted ClientHello none of the packets that follow in order is dropped as malformed,
as long as the tracker still holds the flow. -/
theorem accepted_tls_flow_not_malformed {limits : PacketLimits} {fragmentLimits : FragmentLimits}
    {streamLimits : TcpStreamLimits} {worker : DataplaneWorker}
    (created : dataplaneWorkerCreate limits fragmentLimits streamLimits = .ok worker)
    (inputs : List WorkerInput) {past later future : List WorkerEvent}
    {hello : WorkerEvent}
    (split : run dataplaneWorkerProcess worker inputs = past ++ hello :: (later ++ future))
    {call : StreamCall} (accepted : HelloAccepted hello call)
    (goesOn : isFin call.packet = false)
    (inOrder : InOrderData (buildKey call.packet)
      (payloadSequence call.packet + UInt32.ofNat call.packet.payloadSize)
      later)
    (tracked : ∀ event ∈ later, FlowTracked (buildKey call.packet) event.before event.input) :
    ∀ event ∈ later, (∀ packet ∈ tlsPacket event.before event.input,
        buildKey packet = buildKey call.packet → ¬ DroppedAsMalformed event.before event.input) ∧
        ¬ HoldsRejected event.after.tlsStreams (buildKey call.packet) := by
  have member := mem_of_split split
  have wf : TlsWf hello.before ∧ TlsWf hello.after :=
    invariant_always TlsWf (fun _ input wf => process_tlsWf input wf) (created_tlsWf created) member
  obtain ⟨client, built⟩ := helloAccepted_client accepted
  have held : FlowAccepted (buildKey call.packet)
      (payloadSequence call.packet + UInt32.ofNat call.packet.payloadSize)
      hello.after := by
    have made := event_eq member
    rw [made] at accepted ⊢
    exact helloAccepted_flow wf.1 accepted goesOn
  obtain ⟨laterInputs, suffix⟩ := run_after split
  exact flowAccepted_run built rfl suffix.symm wf.2 held inOrder tracked

/-! ## A connection that idles too long -/

instance decidableInOrderData (key : StreamKey) :
    ∀ next events, Decidable (InOrderData key next events)
  | _, [] => .isTrue trivial
  | next, event :: events => by
      unfold InOrderData
      have := fun following => decidableInOrderData key following events
      split <;> infer_instance

def sampleHello : Bytes :=
  ([22, 3, 1, 0, 45, 1, 0, 0, 41, 3, 3] : Bytes) ++ replicate 32 7 ++
    ([0, 0, 2, 0x13, 0x01, 1, 0] : Bytes)

def sampleRecord : Bytes := [23, 3, 3, 0, 1, 9]

def helloThenData (gapMs : Nat) : List WorkerInput :=
  [fragmentInput (sampleSegment 443 1 0x10 sampleHello) 0,
    fragmentInput (sampleSegment 443 51 0x10 sampleRecord) gapMs]

def helloEvent : WorkerEvent :=
  eventOf dataplaneWorkerProcess sampleWorker
    (fragmentInput (sampleSegment 443 1 0x10 sampleHello) 0)

def dataEvent (gapMs : Nat) : WorkerEvent :=
  eventOf dataplaneWorkerProcess helloEvent.after
    (fragmentInput (sampleSegment 443 51 0x10 sampleRecord) gapMs)

theorem helloEvent_accepted
    (called : tlsStreamCall helloEvent.before helloEvent.input = some call) :
    HelloAccepted helloEvent call := by
  have complete : ∀ call ∈ tlsStreamCall helloEvent.before helloEvent.input,
      ∃ answer ∈ (tlsAnswer helloEvent.before.tlsStreams call).2.toOption, answer.2 = .bytes ∧
        (chunkParser helloEvent.before.tlsParsers answer.1).terminal = .more ∧
        (tlsClientHelloParserFeed (chunkParser helloEvent.before.tlsParsers
          answer.1) answer.1.output).terminal = .complete := by
    decide +kernel
  exact ⟨called, by decide +kernel, complete call called⟩

theorem accepted_tls_flow_not_malformed_prompt : (dataEvent 5).answer = .accept ∧
      ¬ DroppedAsMalformed (dataEvent 5).before (dataEvent 5).input := by
  have facts : ∃ call ∈ tlsStreamCall helloEvent.before helloEvent.input,
      isFin call.packet = false ∧
      InOrderData (buildKey call.packet) (payloadSequence call.packet +
        UInt32.ofNat call.packet.payloadSize) [dataEvent 5] ∧
      (∀ event ∈ [dataEvent 5], FlowTracked (buildKey call.packet) event.before event.input) ∧
      ∃ packet ∈ tlsPacket (dataEvent 5).before (dataEvent 5).input,
        buildKey packet = buildKey call.packet := by
    decide +kernel
  obtain ⟨call, called, goesOn, inOrder, tracked, packet, carried, sameFlow⟩ := facts
  have settled := @accepted_tls_flow_not_malformed packetLimitsDefault
    Fragment.sampleLimits sampleStreamLimits sampleWorker rfl
    (helloThenData 5) [] [dataEvent 5] [] helloEvent rfl call
    (helloEvent_accepted called) goesOn inOrder tracked (dataEvent 5)
    (by simp)
  exact ⟨by decide +kernel, settled.1 packet carried sameFlow⟩

/-- After the idle timer the record is parsed as the start of a new ClientHello, and the flow of an
accepted connection is rejected. -/
theorem idle_tls_flow_malformed :
    ∃ call, HelloAccepted helloEvent call ∧ isFin call.packet = false ∧
      InOrderData (buildKey call.packet) (payloadSequence call.packet +
        UInt32.ofNat call.packet.payloadSize) [dataEvent 1000] ∧
      DroppedAsMalformed (dataEvent 1000).before (dataEvent 1000).input ∧
      ∃ slot ∈ (dataEvent 1000).after.tlsStreams.entries, ∃ entry ∈ slot,
        entry.key = buildKey call.packet ∧ entry.rejected = true := by
  have facts : ∃ call ∈ tlsStreamCall helloEvent.before helloEvent.input,
      isFin call.packet = false ∧
      InOrderData (buildKey call.packet) (payloadSequence call.packet +
        UInt32.ofNat call.packet.payloadSize) [dataEvent 1000] ∧
      DroppedAsMalformed (dataEvent 1000).before (dataEvent 1000).input ∧
      ∃ slot ∈ (dataEvent 1000).after.tlsStreams.entries, ∃ entry ∈ slot,
        entry.key = buildKey call.packet ∧ entry.rejected = true := by
    decide +kernel
  obtain ⟨call, called, rest⟩ := facts
  exact ⟨call, helloEvent_accepted called, rest⟩

end Worker

end JanusGate
