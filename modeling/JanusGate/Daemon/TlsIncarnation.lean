import JanusGate.Common.TlsFeed
import JanusGate.Daemon.StreamDuplicates
import JanusGate.Daemon.WorkerTlsStream

/-!
# Incarnations of TLS flows

The bytes that the tracker hands out for one incarnation of a flow, and the
parser that is kept for its slot.  The two live in different arrays and share
only the slot index, so that the proof follows every path that frees or re-uses
a slot.
-/

namespace JanusGate

open Runs SlotTable List

variable {entry : StreamEntry}

namespace TcpStream

/-! ## What one raw segment hands out -/

section RawSegment

variable (limits : TcpStreamLimits) (packet : PacketView) (nowMs : Nat) (entry : StreamEntry)

theorem addRawToFlow_output : (addRawToFlow limits packet nowMs entry).2.1 = [] ∨
      ∃ inserted changed, placeSegment limits packet entry = .inserted inserted changed ∧
          (addRawToFlow limits packet nowMs entry).2.1 = contiguousBytes inserted.window := by
  unfold addRawToFlow
  cases placeSegment limits packet entry with
  | inserted inserted changed =>
    refine .inr ⟨inserted, changed, rfl, ?_⟩
    unfold takeInserted
    dsimp only
    split
    · rfl
    case isFalse none =>
      have empty : contiguousBytes inserted.window = [] :=
        length_eq_zero_iff.mp (Nat.eq_zero_of_not_pos none)
      rw [empty]
      split <;> rfl
  | _ => exact .inl rfl

theorem addRawToFlow_silent (quiet : (addRawToFlow limits packet nowMs entry).2.2.2 ≠ .bytes) :
    (addRawToFlow limits packet nowMs entry).2.1 = [] := by
  unfold addRawToFlow at quiet ⊢
  cases placed : placeSegment limits packet entry with
  | inserted inserted changed =>
    rw [placed] at quiet
    unfold takeInserted at quiet ⊢
    dsimp only at quiet ⊢
    split
    case isTrue some =>
      rw [if_pos some] at quiet
      exact absurd rfl quiet
    · split <;> rfl
  | _ => rfl

theorem addRawToFlow_closed (closed : (addRawToFlow limits packet nowMs entry).2.2.1 = true) :
    ∀ left ∈ (addRawToFlow limits packet nowMs entry).1, left.rejected = true := by
  unfold addRawToFlow at closed ⊢
  cases placed : placeSegment limits packet entry with
  | finished => exact finishFlow_rejected
  | inserted inserted changed =>
    rw [placed] at closed
    unfold takeInserted
    dsimp only
    split <;> exact finishFlow_rejected
  | _ =>
    rw [placed] at closed
    cases closed

end RawSegment

/-- The base of a flow moves by the bytes handed out. -/
theorem FlowOutcome.base (outcome : FlowOutcome limits packet entry slot output duplicate) :
    ∀ left ∈ slot, left.rejected = false → left.baseSequence =
        entry.baseSequence + UInt32.ofNat output.length := by
  intro left written alive
  cases outcome with
  | dead _ rejected =>
    rw [rejected left written] at alive
    cases alive
  | idle =>
    cases written
    simp
  | consumed =>
    cases written
    simp
  | kept placed =>
    obtain ⟨_, _, _, _, rfl, _⟩ := placeSegment_inserted placed 0
    cases written
    simp
  | taken placed within =>
    obtain ⟨_, _, _, _, rfl, _⟩ := placeSegment_inserted placed 0
    cases written
    rw [length_take, Nat.min_eq_left within]
    rfl

theorem FlowHistory.output (history : FlowHistory limits emitted connection entry)
    (packet : PacketView) (nowMs : Nat) :
    ∀ index, index < (addRawToFlow limits packet nowMs entry).2.1.length →
        Carried (connection.extend entry.baseSequence packet []).segments
          ((connection.consumed + index : Nat) : Int)
          (byteAt (addRawToFlow limits packet nowMs entry).2.1 index) := by
  intro index inside
  rcases addRawToFlow_output limits packet nowMs entry with
    none | ⟨inserted, changed, placed, output⟩
  · rw [none] at inside
    cases inside
  · rw [output] at inside ⊢
    have held := contiguousBytes_window (getElem?_of_byteAt inside)
    exact (history.insert placed).buffered index _ held

theorem tcpStreamTrackerRejectFlow_rejects
    (valid : packetValidForPort packet 443 = true ∨ packetValidForPort packet 853 = true)
    (wf : FlowsWf tracker.limits tracker.entries)
    (holds : At (tcpStreamTrackerRejectFlow tracker packet nowMs).1.entries index entry)
    (sameKey : entry.key = buildKey packet) : entry.rejected = true := by
  have wfLive := wf.live nowMs
  unfold tcpStreamTrackerRejectFlow at holds
  rw [if_neg (by rcases valid with valid | valid <;> simp [valid])] at holds
  cases searched : findFlow (expireFlows tracker.entries nowMs) (buildKey packet) with
  | some found =>
    obtain ⟨there, ownerKey⟩ := findFlow_spec searched
    simp only [searched, at_set_iff there.lt_length] at holds
    rcases holds with ⟨_, rejected⟩ | ⟨elsewhere, live⟩
    · cases rejected
      rfl
    · exact absurd (wfLive.unique _ _ _ _ live there (sameKey.trans ownerKey.symm)) elsewhere
  | none =>
    have absent := findFlow_absent searched
    simp only [searched] at holds
    split at holds
    · exact absurd sameKey (absent index entry holds)
    case h_2 free found =>
      split at holds
      · exact absurd sameKey (absent index entry holds)
      have inside := (List.getElem?_eq_some_iff.mp (freeIndex_spec found)).1
      rw [at_set_iff inside] at holds
      rcases holds with ⟨_, rejected⟩ | ⟨_, live⟩
      · cases rejected
        rfl
      · exact absurd sameKey (absent index entry live)

end TcpStream

open TcpStream Dataplane

namespace Worker

/-! ## What one call does -/

/-- Everything an answered call can do to the flow of its packet. -/
inductive ChunkEffect (streams : TcpStreamTracker) (call : StreamCall)
    (chunk : TcpRawStreamChunk) (answer : TcpRawStreamResult) : Prop
  | quiet (noRst : isRst call.packet = false) (unnamed : chunk.flowIndex = none)
      (stored : ∀ index entry, At (tlsAnswer streams call).1.entries index entry →
          At streams.entries index entry)
  | reset (rst : isRst call.packet = true) (gone : ∀ index entry,
        At (tlsAnswer streams call).1.entries index entry → entry.key ≠ buildKey call.packet)
  | segment {entry : StreamEntry} {newFlow : Bool}
      {after : List (Option StreamEntry)} (noRst : isRst call.packet = false)
      (admits : Admits streams.limits
        (liveFlows streams.entries call.nowMs) call.packet call.nowMs after
        (.admitted index entry newFlow))
      (entries : (tlsAnswer streams call).1.entries =
        (liveFlows streams.entries call.nowMs).set index
          (addRawToFlow streams.limits call.packet call.nowMs entry).1)
      (handed : chunk =
        let flow := addRawToFlow streams.limits call.packet call.nowMs entry
        { flowIndex := some index, output := flow.2.1, newFlow := newFlow,
          closed := flow.2.2.1 })
      (silent : answer ≠ .bytes → chunk.output = [])

theorem chunkEffect (wf : FlowsWf streams.limits streams.entries)
    (answered : (tlsAnswer streams call).2 = .ok (chunk, answer)) :
    ChunkEffect streams call chunk answer := by
  obtain ⟨_, added, entries⟩ := tlsAnswer_ok answered
  obtain ⟨after, admission, admits, result⟩ :=
    addRawSegment_eq streams.limits streams.entries call.packet call.nowMs
  have unique := (wf.live call.nowMs).unique
  rw [result] at added entries
  have stored : (tlsAnswer streams call).1.entries = after → ∀ index entry,
        At (tlsAnswer streams call).1.entries index entry → At streams.entries index entry := by
    intro same index entry holds
    rw [same] at holds
    exact (at_expire_iff.mp (admits.not_admitted_at index entry holds)).1
  cases admission with
  | admitted index entry newFlow =>
    have noRst : isRst call.packet = false := by cases admits <;> assumption
    obtain ⟨rfl, rfl⟩ := Prod.mk.inj added
    refine .segment noRst admits ?_ rfl (addRawToFlow_silent _ _ _ _)
    rw [entries]
    exact (admits.admitted_slot _).2
  | reset flowIndex =>
    cases admits with
    | resetFlow holds sameKey rst =>
      refine .reset rst ?_
      intro index entry there own
      rw [entries, at_set_iff holds.lt_length] at there
      rcases there with ⟨_, none⟩ | ⟨elsewhere, live⟩
      · cases none
      · exact elsewhere (unique _ _ _ _ live holds (own.trans sameKey.symm))
    | resetNone absent rst =>
      refine .reset rst ?_
      intro index entry there
      rw [entries] at there
      exact absent index entry there
  | _ =>
    have noRst : isRst call.packet = false := by cases admits <;> assumption
    obtain ⟨rfl, _⟩ := Prod.mk.inj added
    exact .quiet noRst rfl (stored (by rw [entries]))

variable {worker : DataplaneWorker}

/-! ## Incarnations -/

/-- Its slot, its first sequence number, its segments and the bytes handed out. -/
structure Incarnation where
  slot : Nat
  start : UInt32
  segments : List (Int × Bytes) := []
  output : Bytes := []
  deriving DecidableEq

def Incarnation.next (incarnation : Incarnation) : UInt32 :=
  incarnation.start + UInt32.ofNat incarnation.output.length

def Incarnation.connection (incarnation : Incarnation) : Connection where
  consumed := incarnation.output.length
  segments := incarnation.segments

def Incarnation.extend (incarnation : Incarnation) (packet : PacketView)
    (output : Bytes) : Incarnation :=
  { incarnation with
    segments := incarnation.segments ++ [(streamPosition incarnation.output.length incarnation.next
        (payloadSequence packet), payloadBytes packet)]
    output := incarnation.output ++ output }

def answeredIncarnation (current : Option Incarnation) (packet : PacketView)
    (chunk : TcpRawStreamChunk) : Option Incarnation :=
  if isRst packet then none
  else
    match chunk.flowIndex with
    | none => current
    | some slot =>
      (if chunk.newFlow then some { slot := slot, start := payloadSequence packet }
      else current).map fun incarnation => incarnation.extend packet chunk.output

def nextIncarnation (key : StreamKey) (current : Option Incarnation)
    (event : WorkerEvent) : Option Incarnation :=
  match tlsStreamCall event.before event.input with
  | none => current
  | some call =>
    if buildKey call.packet = key then
      match (tlsAnswer event.before.tlsStreams call).2 with
      | .ok (chunk, _) => answeredIncarnation current call.packet chunk
      | .error _ => current
    else current

def incarnationOf (key : StreamKey) (past : List WorkerEvent) : Option Incarnation :=
  past.foldl (nextIncarnation key) none

/-- Every byte handed out was carried at its position by a segment of the
incarnation. -/
def Incarnation.Delivers (incarnation : Incarnation) : Prop :=
  ∀ index, index < incarnation.output.length → Carried incarnation.segments (index : Int)
      (byteAt incarnation.output index)

/-- All segments of the incarnation carry bytes of one stream. -/
def Incarnation.Sends (incarnation : Incarnation) (stream : Int → UInt8) : Prop :=
  ∀ segment ∈ incarnation.segments, ∀ index, index < segment.2.length →
    byteAt segment.2 index = stream (segment.1 + index)

/-- What the tracker keeps of an incarnation. -/
structure Incarnation.Recorded (incarnation : Incarnation)
    (limits : TcpStreamLimits) (entry : StreamEntry) : Prop where
  base : entry.baseSequence = incarnation.next
  history : FlowHistory limits (fun _ _ => True) incarnation.connection entry

/-- Every live flow has an incarnation, and its parser was fed the bytes of this one only. -/
structure ParsersKept (past : List WorkerEvent) (worker : DataplaneWorker) : Prop where
  wf : TlsWf worker
  delivered : ∀ key, ∀ incarnation ∈ incarnationOf key past, incarnation.Delivers
  held : ∀ index entry, At worker.tlsStreams.entries index entry →
      entry.rejected = false → ∃ incarnation ∈ incarnationOf entry.key past,
          incarnation.slot = index ∧
          incarnation.Recorded worker.tlsStreams.limits entry ∧
          worker.tlsParsers.getD index {} = tlsClientHelloParserFeed {} incarnation.output

theorem incarnationOf_append (key : StreamKey) (past : List WorkerEvent) (event : WorkerEvent) :
    incarnationOf key (past ++ [event]) = nextIncarnation key (incarnationOf key past) event := by
  simp [incarnationOf]

section Segment

variable {incarnation : Incarnation}

theorem Incarnation.Delivers.extend (delivers : incarnation.Delivers)
    (recorded : incarnation.Recorded limits entry) :
    (incarnation.extend packet (addRawToFlow limits packet nowMs entry).2.1).Delivers := by
  intro index inside
  simp only [Incarnation.extend, length_append] at inside ⊢
  by_cases before : index < incarnation.output.length
  · have carried := (delivers index before).append
      [(streamPosition incarnation.output.length incarnation.next
        (payloadSequence packet), payloadBytes packet)]
    simpa [byteAt, getElem?_append_left before] using carried
  · obtain ⟨later, rfl⟩ := Nat.exists_eq_add_of_le (Nat.not_lt.mp before)
    have carried := recorded.history.output packet nowMs later (by omega)
    rw [recorded.base] at carried
    have joined : (incarnation.output ++ (addRawToFlow limits packet nowMs entry).2.1)[
          incarnation.output.length + later]? =
        (addRawToFlow limits packet nowMs entry).2.1[later]? := by
      rw [getElem?_append_right (Nat.le_add_right _ _), Nat.add_sub_cancel_left]
    simpa [byteAt, joined, Connection.extend, Incarnation.connection] using carried

theorem Incarnation.Recorded.extend (recorded : incarnation.Recorded limits entry) :
    ∀ left ∈ (addRawToFlow limits packet nowMs entry).1, left.rejected = false →
        (incarnation.extend packet (addRawToFlow limits packet nowMs entry).2.1).Recorded limits
            left := by
  intro left written alive
  have outcome := addRawToFlow_outcome limits packet nowMs entry
    { output := (addRawToFlow limits packet nowMs entry).2.1 } rfl
  have base := outcome.base left written alive
  have history := recorded.history.step (fun _ _ _ => trivial)
    (fun _ _ => trivial) outcome left written alive
  refine ⟨?_, ?_⟩
  · rw [base, recorded.base]
    simp only [Incarnation.next, Incarnation.extend, length_append, rawEmitted, UInt32.ofNat_add]
    grind
  · rw [recorded.base] at history
    simpa [Connection.extend, Incarnation.connection, Incarnation.extend, rawEmitted] using history

end Segment

/-- The incarnation of the flow that a segment is admitted to, as it was before
the segment. -/
theorem ParsersKept.admitted (kept : ParsersKept past worker) {after : List (Option StreamEntry)}
    (admits : Admits worker.tlsStreams.limits
      (liveFlows worker.tlsStreams.entries nowMs) packet nowMs after
      (.admitted index entry newFlow)) :
    ∃ incarnation : Incarnation,
      (if newFlow then some { slot := index, start := payloadSequence packet }
        else incarnationOf (buildKey packet) past) = some incarnation ∧
      incarnation.slot = index ∧ incarnation.Delivers ∧
      incarnation.Recorded worker.tlsStreams.limits entry ∧
      (resetParser worker.tlsParsers (some index) newFlow).getD index {} =
        tlsClientHelloParserFeed {} incarnation.output := by
  have inside := (admits.admitted_slot none).1.lt_length
  have parsers : index < worker.tlsParsers.length := by
    rw [kept.wf.parsers]
    simpa [expireFlows] using inside
  have opened : ∃ incarnation : Incarnation,
      some { slot := index, start := payloadSequence packet } = some incarnation ∧
      incarnation.slot = index ∧ incarnation.Delivers ∧
      incarnation.Recorded worker.tlsStreams.limits
        (initializeFlow worker.tlsStreams.limits (buildKey packet) (payloadSequence packet) nowMs) ∧
      (resetParser worker.tlsParsers (some index) true).getD index {} =
        tlsClientHelloParserFeed {} incarnation.output := by
    refine ⟨_, rfl, rfl, ?_, ⟨?_, initializeFlow_history _ _ _ _ _⟩, ?_⟩
    · intro position before
      cases before
    · simp [initializeFlow, Incarnation.next]
    · simp [resetParser, parsers]
      rfl
  cases admits with
  | continued holds sameKey _ _ alive =>
    have stored := (at_expire_iff.mp holds).1
    obtain ⟨incarnation, latest, slot, recorded, parser⟩ := kept.held _ _ stored alive
    rw [sameKey] at latest
    refine ⟨incarnation, latest, slot, kept.delivered _ _ latest,
      ⟨recorded.base, recorded.history.length, recorded.history.consumed,
        recorded.history.buffered⟩, parser⟩
  | reopened | opened => exact opened

section Step

variable {call : StreamCall}

theorem nextIncarnation_none (called : tlsStreamCall worker input = none) (key : StreamKey)
    (current : Option Incarnation) :
    nextIncarnation key current (eventOf dataplaneWorkerProcess worker input) = current := by
  simp only [nextIncarnation, eventOf, called]

theorem nextIncarnation_other (called : tlsStreamCall worker input = some call)
    (different : buildKey call.packet ≠ key) (current : Option Incarnation) :
    nextIncarnation key current (eventOf dataplaneWorkerProcess worker input) = current := by
  simp only [nextIncarnation, eventOf, called, if_neg different]

theorem nextIncarnation_answered (called : tlsStreamCall worker input = some call)
    (current : Option Incarnation) :
    nextIncarnation (buildKey call.packet) current (eventOf dataplaneWorkerProcess worker input) =
      match (tlsAnswer worker.tlsStreams call).2 with
      | .ok (chunk, _) => answeredIncarnation current call.packet chunk
      | .error _ => current := by
  simp [nextIncarnation, eventOf, called]

variable (kept : ParsersKept past worker)

include kept

theorem ParsersKept.unchanged
    (sameStreams : (dataplaneWorkerProcess worker input).1.tlsStreams = worker.tlsStreams)
    (sameParsers : (dataplaneWorkerProcess worker input).1.tlsParsers = worker.tlsParsers)
    (same : ∀ key, nextIncarnation key (incarnationOf key past)
      (eventOf dataplaneWorkerProcess worker input) = incarnationOf key past) :
    ParsersKept (past ++ [eventOf dataplaneWorkerProcess worker input])
      (dataplaneWorkerProcess worker input).1 := by
  refine ⟨process_tlsWf input kept.wf, ?_, ?_⟩
  · intro key incarnation latest
    rw [incarnationOf_append, same] at latest
    exact kept.delivered key incarnation latest
  · intro index entry holds alive
    rw [sameStreams] at holds ⊢
    rw [sameParsers, incarnationOf_append, same]
    exact kept.held index entry holds alive

theorem ParsersKept.answered (called : tlsStreamCall worker input = some call)
    (answered : (tlsAnswer worker.tlsStreams call).2 = .ok (chunk, answer)) :
    (∀ incarnation ∈ answeredIncarnation
        (incarnationOf (buildKey call.packet) past) call.packet chunk,
      incarnation.Delivers) ∧
      ∀ index entry, At (tlsAnswer worker.tlsStreams call).1.entries index entry →
        entry.key = buildKey call.packet → entry.rejected = false →
          ∃ incarnation ∈ answeredIncarnation
              (incarnationOf (buildKey call.packet) past) call.packet chunk,
            incarnation.slot = index ∧
            incarnation.Recorded worker.tlsStreams.limits entry ∧
            (dataplaneWorkerProcess worker input).1.tlsParsers.getD index {} =
              tlsClientHelloParserFeed {} incarnation.output := by
  obtain ⟨inspected, ⟨_, _, sameStreams, sameParsers⟩, clock, after, _⟩ := process_called called
  cases chunkEffect kept.wf.flows answered with
  | quiet noRst unnamed stored =>
    have same : answeredIncarnation (incarnationOf (buildKey call.packet) past) call.packet chunk =
          incarnationOf (buildKey call.packet) past := by
      simp [answeredIncarnation, noRst, unnamed]
    rw [same]
    refine ⟨kept.delivered _, ?_⟩
    intro index entry holds ownKey alive
    obtain ⟨_, _, others⟩ := @processTlsStream_effect
      call.result call.nowMs call.snapshot inspected input clock
    rw [sameStreams, sameParsers, ← after] at others
    have parser := others index fun other _ given => by
      obtain ⟨rfl, _⟩ := Prod.mk.inj (Except.ok.inj (answered.symm.trans given))
      rw [unnamed]
      simp
    rw [parser, ← ownKey]
    exact kept.held index entry (stored index entry holds) alive
  | reset rst gone =>
    have ended : answeredIncarnation (incarnationOf (buildKey call.packet)
        past) call.packet chunk = none := by
      simp [answeredIncarnation, rst]
    rw [ended]
    refine ⟨by simp, ?_⟩
    intro index entry holds ownKey
    exact absurd ownKey (gone index entry holds)
  | @segment position flow newFlow _ noRst admits entries handed silent =>
    obtain ⟨incarnation, current, slot, delivers, recorded, parser⟩ := kept.admitted admits
    have owns := (admits.admitted_slot none).1
    have next : answeredIncarnation (incarnationOf (buildKey call.packet) past) call.packet chunk =
          some (incarnation.extend call.packet chunk.output) := by
      rw [handed]
      simp only [answeredIncarnation, noRst, Bool.false_eq_true, if_false, current, Option.map_some]
    have output : chunk.output = (addRawToFlow worker.tlsStreams.limits
        call.packet call.nowMs flow).2.1 := by rw [handed]
    rw [next, output]
    refine ⟨?_, ?_⟩
    · intro extended same
      obtain rfl := Option.some.inj same
      exact delivers.extend recorded
    intro index entry holds ownKey alive
    rw [entries, at_set_iff owns.lt_length] at holds
    rcases holds with ⟨rfl, written⟩ | ⟨elsewhere, live⟩
    · refine ⟨_, rfl, slot, recorded.extend entry written alive, ?_⟩
      have stays : chunk.closed = false := by
        rw [handed]
        refine Bool.eq_false_iff.mpr fun closed => ?_
        rw [addRawToFlow_closed _ _ _ _ closed entry written] at alive
        cases alive
      have inside : index < inspected.tlsParsers.length := by
        rw [sameParsers, kept.wf.parsers]
        simpa [liveFlows, expireFlows] using owns.lt_length
      have fed : chunkParser inspected.tlsParsers chunk =
          tlsClientHelloParserFeed {} incarnation.output := by
        rw [chunkParser, sameParsers, handed]
        exact parser
      rw [← sameStreams] at answered
      rw [after, processTlsStream_fed clock answered (by rw [handed]) stays inside silent, fed,
        tlsClientHelloParserFeed_append Tls.ready_fresh, output]
      rfl
    · exact absurd (owns.alone (kept.wf.flows.live call.nowMs).unique
        index entry live ownKey) elsewhere

theorem ParsersKept.step (input : WorkerInput) :
    ParsersKept (past ++ [eventOf dataplaneWorkerProcess worker input])
      (dataplaneWorkerProcess worker input).1 := by
  cases called : tlsStreamCall worker input with
  | none =>
    obtain ⟨sameStreams, sameParsers⟩ := process_tls_other called
    exact kept.unchanged sameStreams sameParsers fun key => nextIncarnation_none called key _
  | some call =>
    have answers := nextIncarnation_answered called (incarnationOf (buildKey call.packet) past)
    cases answered : (tlsAnswer worker.tlsStreams call).2 with
    | error status =>
      obtain ⟨sameStreams, sameParsers⟩ := process_tls_refused called answered
      refine kept.unchanged sameStreams sameParsers fun key => ?_
      by_cases own : buildKey call.packet = key
      · subst own
        rw [answers, answered]
      · exact nextIncarnation_other called own _
    | ok given =>
      obtain ⟨delivers, live⟩ := kept.answered called answered
      rw [answered] at answers
      obtain ⟨write, second⟩ := process_tlsWrites called
      have limits : (dataplaneWorkerProcess worker
          input).1.tlsStreams.limits = worker.tlsStreams.limits := by
        rcases second with same | rejected
        · rw [same, write.limits_eq]
        · rw [rejected, (tcpStreamTrackerRejectFlow_write _ _ _).limits_eq, write.limits_eq]
      refine ⟨process_tlsWf input kept.wf, ?_, ?_⟩
      · intro key incarnation latest
        rw [incarnationOf_append] at latest
        by_cases own : buildKey call.packet = key
        · subst own
          rw [answers] at latest
          exact delivers incarnation latest
        · rw [nextIncarnation_other called own] at latest
          exact kept.delivered key incarnation latest
      · intro index entry holds alive
        rw [limits, incarnationOf_append]
        by_cases own : entry.key = buildKey call.packet
        · rw [own, answers]
          refine live index entry ?_ own alive
          rcases second with same | rejected
          · rwa [same] at holds
          rw [rejected] at holds
          have dead := tcpStreamTrackerRejectFlow_rejects
            (tlsAnswer_ok answered).1 (write.wf kept.wf.flows) holds
            own
          rw [alive] at dead
          cases dead
        · obtain ⟨before, parser⟩ := process_tls_elsewhere called own holds
          rw [nextIncarnation_other called (Ne.symm own), parser]
          exact kept.held index entry before alive

end Step

/-! ## Runs -/

theorem created_parsersKept
    (created : dataplaneWorkerCreate limits fragmentLimits streamLimits = .ok worker) :
    ParsersKept [] worker := by
  refine ⟨created_tlsWf created, fun _ _ latest => ?_, ?_⟩
  · cases latest
  · intro index entry holds
    exact absurd holds (created_empty (dataplaneWorkerCreate_ok created).2.2.1 index entry)

theorem Incarnation.Delivers.front {incarnation : Incarnation} (delivers : incarnation.Delivers)
    (sends : incarnation.Sends stream) :
    incarnation.output = (range incarnation.output.length).map fun index : Nat =>
        stream index := by
  refine ext_getElem? fun index => ?_
  by_cases inside : index < incarnation.output.length
  · obtain ⟨segment, member, place, bound, position, value⟩ := delivers index inside
    rw [getElem?_of_byteAt inside, ← value, sends segment member place bound,
      position, getElem?_map, getElem?_range inside]
    rfl
  · rw [getElem?_eq_none (Nat.not_lt.mp inside), getElem?_eq_none (by simpa using inside)]

/-- The chunks of an incarnation are the front of its byte stream, and the parser of a flow that is
not rejected was fed these bytes only. -/
theorem tls_chunks_and_parsers {limits : PacketLimits} {fragmentLimits : FragmentLimits}
    {streamLimits : TcpStreamLimits} {worker : DataplaneWorker}
    (created : dataplaneWorkerCreate limits fragmentLimits streamLimits = .ok worker)
    (inputs : List WorkerInput) {past future : List WorkerEvent} {event : WorkerEvent}
    (split : run dataplaneWorkerProcess worker inputs = past ++ event :: future) :
    (∀ key, ∀ incarnation ∈ incarnationOf key (past ++ [event]), incarnation.Delivers ∧
        ∀ stream, incarnation.Sends stream → incarnation.output =
            (range incarnation.output.length).map fun index : Nat => stream index) ∧
      ∀ index entry, SlotTable.At event.after.tlsStreams.entries index entry →
          entry.rejected = false → ∃ incarnation ∈ incarnationOf entry.key (past ++ [event]),
              incarnation.slot = index ∧
              event.after.tlsParsers.getD index {} =
                tlsClientHelloParserFeed {} incarnation.output := by
  have meets : Meets (fun _ _ _ => True) (run dataplaneWorkerProcess worker inputs) :=
    fun _ _ _ _ => trivial
  have kept := (invariant_run ParsersKept
    (fun _ _ input kept _ => kept.step input) (created_parsersKept created)
    meets split).2
  refine ⟨?_, ?_⟩
  · intro key incarnation latest
    have delivers := kept.delivered key incarnation latest
    exact ⟨delivers, fun _ sends => delivers.front sends⟩
  · intro index entry holds alive
    obtain ⟨incarnation, latest, slot, _, parser⟩ := kept.held index entry holds alive
    exact ⟨incarnation, latest, slot, parser⟩

def firstByte : WorkerInput := fragmentInput (sampleSegment 443 1 0x10 [22]) 0

theorem tls_chunks_and_parsers_first :
    let event := eventOf dataplaneWorkerProcess sampleWorker firstByte
    ∃ entry, SlotTable.At event.after.tlsStreams.entries 0 entry ∧ entry.rejected = false ∧
      ∃ incarnation ∈ incarnationOf entry.key [event], incarnation.slot = 0 ∧
        event.after.tlsParsers.getD 0 {} = tlsClientHelloParserFeed {} incarnation.output := by
  intro event
  have live : ∃ slot ∈ event.after.tlsStreams.entries[0]?, ∃ entry ∈ slot,
      entry.rejected = false := by
    decide +kernel
  obtain ⟨_, there, entry, rfl, alive⟩ := live
  have settled := (@tls_chunks_and_parsers packetLimitsDefault
    Fragment.sampleLimits sampleStreamLimits sampleWorker rfl [firstByte] []
    [] event rfl).2 0 entry there alive
  exact ⟨entry, there, alive, settled⟩

/-- A flow leaves a byte in the parser of the first slot and is reset; one in the second slot ends
with bytes that are not TLS. -/
def reusedSlot : List WorkerInput :=
  [firstByte, fragmentInput (sampleSegment 853 0 0x02 []) 1,
    fragmentInput (sampleSegment 443 2 0x04 []) 2,
    fragmentInput (sampleSegment 853 1 0x11 [0, 0, 0, 0, 0]) 3]

/-- The rejection of the second flow takes the first slot with its stale parser. -/
theorem rejected_flow_stale_bytes :
    let events := run dataplaneWorkerProcess sampleWorker reusedSlot
    ∃ event ∈ events.getLast?, ∃ slot ∈ event.after.tlsStreams.entries[0]?, ∃ entry ∈ slot,
        entry.key.destinationPort = 853 ∧
        (∃ incarnation ∈ incarnationOf entry.key events, incarnation.output = [0, 0, 0, 0, 0]) ∧
        event.after.tlsParsers.getD 0 {} = tlsClientHelloParserFeed {} [22] ∧
        event.after.tlsParsers.getD 0 {} ≠ {} := by
  decide +kernel

end Worker

end JanusGate
