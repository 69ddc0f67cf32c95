import JanusGate.Daemon.StreamBounds
import JanusGate.Daemon.StreamContents

/-!
# DNS messages over one flow

A stream of framed messages is sent on a flow that a SYN opens.  However it is
cut into segments, and in whatever order and how often they arrive between the
packets of other flows, the answers hand out the messages of the stream, each
once and in order.
-/

namespace JanusGate

namespace TcpStream

open Runs SlotTable SeenWindow List

/-! ## Admission -/

variable {limits : TcpStreamLimits} {packet : PacketView}

theorem addSegment_continued (unique : Unique StreamEntry.key entries)
    (holds : At (liveFlows entries nowMs) index entry) (sameKey : entry.key = buildKey packet)
    (alive : entry.rejected = false) (noSyn : isSyn packet = false) (noRst : isRst packet = false) :
    addSegment limits entries packet nowMs =
      let continued := { entry with idleDeadline := deadline nowMs limits.idleTimeoutMs }
      ((liveFlows entries nowMs).set index (addToFlow limits packet nowMs continued).1,
        (addToFlow limits packet nowMs continued).2) := by
  have admitted := @admitPacket_present packet nowMs limits _ _ (expireFlows entries nowMs)
    (unique.expire _) holds sameKey noSyn noRst
  rw [if_neg (by simp [alive])] at admitted
  unfold addSegment
  rw [admitted]

variable {tracker : TcpStreamTracker}

theorem addSegment_opened (wf : FlowsWf tracker.limits tracker.entries)
    (room : HasRoom tracker packet nowMs) (syn : isSyn packet = true)
    (noRst : isRst packet = false) :
    ∃ index, index < (liveFlows tracker.entries nowMs).length ∧
      addSegment tracker.limits tracker.entries packet nowMs =
        let opened := initializeFlow tracker.limits (buildKey packet) (payloadSequence packet) nowMs
        ((liveFlows tracker.entries nowMs).set index
            (addToFlow tracker.limits packet nowMs opened).1,
          (addToFlow tracker.limits packet nowMs opened).2) := by
  have wfLive := wf.live nowMs
  obtain ⟨owned, owns⟩ := room
  unfold addSegment admitPacket
  cases found : findFlow (liveFlows tracker.entries nowMs) (buildKey packet) with
  | some pair =>
    obtain ⟨index, entry⟩ := pair
    obtain ⟨holds, sameKey⟩ := findFlow_spec found
    have free := OwnsFlow.room (.inl ⟨entry, holds, sameKey⟩) wfLive
    refine ⟨index, holds.lt_length, ?_⟩
    have live : expireFlows tracker.entries nowMs = liveFlows tracker.entries nowMs := rfl
    simp only [live, noRst, syn, Bool.false_eq_true, if_false, if_true, openFlow, or_true]
    rw [if_neg (Nat.not_le.mpr free)]
    simp
  | none =>
    have absent := findFlow_absent found
    rcases owns with ⟨entry, holds, sameKey⟩ | ⟨free, _, fewer⟩
    · exact absurd sameKey (absent owned entry holds)
    obtain ⟨index, freeIndex⟩ := freeIndex_of_free free
    have inside := (List.getElem?_eq_some_iff.mp (freeIndex_spec freeIndex)).1
    refine ⟨index, inside, ?_⟩
    have live : expireFlows tracker.entries nowMs = liveFlows tracker.entries nowMs := rfl
    simp only [live, noRst, syn, Bool.false_eq_true, if_false, openFlow,
      or_true, if_true, freeIndex]
    rw [if_neg (Nat.not_le.mpr fewer)]

/-! ## The stream and its segments -/

/-- A stream of framed messages and the sequence number of its first byte. -/
structure DnsStream where
  key : StreamKey
  start : UInt32
  messages : List Bytes

/-- A call and, for a segment of the flow, where its payload starts in the
stream. -/
structure Sent where
  call : TrackerCall
  position : Nat := 0

def sentStep (tracker : TcpStreamTracker) (sent : Sent) : TcpStreamTracker × TrackerAnswer :=
  trackerStep tracker sent.call

abbrev SentEvent := Event TcpStreamTracker Sent TrackerAnswer

def DnsStream.owns (stream : DnsStream) (sent : Sent) : Bool :=
  decide (buildKey sent.call.packet = stream.key)

def DnsStream.seen (stream : DnsStream) (events : List SentEvent) : Nat → Bool :=
  fun index => events.any fun event => stream.owns event.input &&
    covers event.input.position event.input.call.packet.payloadSize index

def answerMessages : TrackerAnswer → List Bytes
  | .added (.ok result) => resultMessages result
  | _ => []

/-- The messages that the answers for the flow hand out. -/
def DnsStream.emitted (stream : DnsStream) (events : List SentEvent) : List Bytes :=
  events.flatMap fun event => if stream.owns event.input then answerMessages event.answer else []

/-- The call hands a segment to the DNS entry point with enough storage. -/
def offersStorage (limits : TcpStreamLimits) : TrackerCall → Bool
  | .add _ _ outputSize messageCapacity =>
    decide (limits.maxBufferedBytes ≤ outputSize) &&
      decide (limits.maxMessagesPerPacket ≤ messageCapacity)
  | _ => false

/-- A segment of the stream that respects the limits of the tracker. -/
@[mk_iff] structure DnsStream.Segment (stream : DnsStream) (limits : TcpStreamLimits)
    (seen : Nat → Bool) (sent : Sent) : Prop where
  storage : offersStorage limits sent.call = true
  valid : packetValidForPort sent.call.packet 53 = true
  noRst : isRst sent.call.packet = false
  carries : CarriesAt stream.messages stream.start sent.position sent.call.packet
  within : sent.call.packet.payloadSize ≠ 0 → WithinLimits limits stream.messages seen sent.position
      sent.call.packet.payloadSize

def DnsStream.Unfinished (stream : DnsStream) (events : List SentEvent) : Prop :=
  ∀ event ∈ events, stream.owns event.input = true → isFin event.input.call.packet = false
  deriving Decidable

def DnsStream.Silent (stream : DnsStream) (events : List SentEvent) : Prop :=
  ∀ event ∈ events, stream.owns event.input = true → event.input.call.packet.payloadSize = 0
  deriving Decidable

/-- The first call is the SYN of the flow, which has room for one more flow. -/
structure DnsStream.Opens (stream : DnsStream) (tracker : TcpStreamTracker)
    (sent : Sent) : Prop where
  owns : stream.owns sent = true
  syn : isSyn sent.call.packet = true
  first : sent.position = 0
  room : HasRoom tracker sent.call.packet sent.call.nowMs
  segment : stream.Segment tracker.limits unseen sent

/-- A later call belongs to another flow or brings a segment of the stream in time. -/
@[mk_iff] structure DnsStream.Continues (stream : DnsStream) (past : List SentEvent)
    (tracker : TcpStreamTracker) (sent : Sent) : Prop where
  unexpired : stream.Unfinished past → Unexpired tracker stream.key sent.call.nowMs
  unfinished : stream.owns sent = true → stream.Unfinished past
  repeated : stream.owns sent = true → isSyn sent.call.packet = true →
    sent.position = 0 ∧ stream.Silent past
  segment : stream.owns sent = true → stream.Segment tracker.limits (stream.seen past) sent

/-- What every call of a session with the stream does. -/
def DnsStream.Sends (stream : DnsStream) (past : List SentEvent)
    (tracker : TcpStreamTracker) (sent : Sent) : Prop :=
  match past with
  | [] => stream.Opens tracker sent
  | _ :: _ => stream.Continues past tracker sent

/-! ## One call -/

variable (stream : DnsStream)

theorem DnsStream.seen_append (past : List SentEvent) (event : SentEvent) :
    stream.seen (past ++ [event]) = if stream.owns event.input then
        seenWith (stream.seen past) event.input.position event.input.call.packet.payloadSize
      else stream.seen past := by
  funext index
  rw [seen, any_append, any_cons, any_nil, Bool.or_false]
  cases stream.owns event.input with
  | true => rfl
  | false => rw [Bool.false_and, Bool.or_false]; rfl

theorem DnsStream.Silent.seen (silent : stream.Silent events) : stream.seen events = unseen := by
  funext index
  refine any_eq_false.mpr ?_
  intro event member
  rw [Bool.and_eq_true, covers_iff]
  rintro ⟨owns, _, before⟩
  have empty := silent event member owns
  omega

theorem DnsStream.emitted_append (past : List SentEvent) (event : SentEvent) :
    stream.emitted (past ++ [event]) = stream.emitted past ++
      if stream.owns event.input then answerMessages event.answer else [] := by
  simp [emitted]

theorem payloadBytes_length (valid : packetValidForPort packet port = true) :
    (payloadBytes packet).length = packet.payloadSize := by
  unfold packetValidForPort at valid
  simp only [Bool.and_eq_true, rangeValid_iff] at valid
  rw [payloadBytes, slice_length]
  omega

theorem trackerStep_stored (storage : offersStorage tracker.limits call = true)
    (valid : packetValidForPort call.packet 53 = true) :
    trackerStep tracker call =
      let added := addSegment tracker.limits tracker.entries call.packet call.nowMs
      ({ tracker with entries := added.1 }, .added (.ok added.2)) := by
  cases call with
  | add packet nowMs outputSize messageCapacity =>
    have validPacket : packetValidForPort packet 53 = true := valid
    simp only [offersStorage, Bool.and_eq_true, decide_eq_true_eq] at storage
    have enough : ¬ (outputSize < tracker.limits.maxBufferedBytes ∨
        messageCapacity < tracker.limits.maxMessagesPerPacket) := by omega
    simp only [trackerStep, tcpStreamTrackerAdd, validPacket,
      Bool.not_true, Bool.false_eq_true, if_false, if_neg enough]
    rfl
  | addRaw packet nowMs outputSize | rejectFlow packet nowMs => cases storage

/-- The tracker holds what has been seen of the stream, and the complete messages were handed out.
-/
structure DnsStream.Delivered (stream : DnsStream) (limits : TcpStreamLimits)
    (past : List SentEvent) (tracker : TcpStreamTracker) : Prop where
  sameLimits : tracker.limits = limits
  wf : FlowsWf tracker.limits tracker.entries
  emitted : stream.emitted past = stream.messages.take (progress stream.messages (stream.seen past))
  held : past ≠ [] → stream.Unfinished past →
    ∃ index entry, At tracker.entries index entry ∧ entry.key = stream.key ∧
      Receives limits stream.messages stream.start (stream.seen past) entry

/-- The messages handed out before a segment, and those it completes. -/
theorem take_progress {messages : List Bytes}
    (grows : ∀ index, seen index = true → more index = true) :
    messages.take (progress messages seen) ++ (messages.take (progress messages more)).drop
          (progress messages seen) =
      messages.take (progress messages more) := by
  have split := @progress_split seen more messages grows
  rw [split, drop_take, Nat.add_sub_cancel_left, ← take_add]

section Step

variable {stream : DnsStream} {past : List SentEvent} {sent : Sent}

section

variable (delivered : stream.Delivered limits past tracker)

include delivered

theorem DnsStream.Delivered.segment (sized : MessagesSized limits stream.messages)
    (owns : stream.owns sent = true)
    (segment : stream.Segment tracker.limits (stream.seen past) sent) {entry : StreamEntry}
    (receives : Receives limits stream.messages stream.start (stream.seen past) entry)
    (sameKey : entry.key = stream.key)
    (inside : index < (liveFlows tracker.entries sent.call.nowMs).length)
    (added : addSegment tracker.limits tracker.entries sent.call.packet sent.call.nowMs =
      ((liveFlows tracker.entries sent.call.nowMs).set index
          (addToFlow tracker.limits sent.call.packet sent.call.nowMs entry).1,
        (addToFlow tracker.limits sent.call.packet sent.call.nowMs entry).2)) :
    stream.Delivered limits (past ++ [eventOf sentStep tracker sent])
      (sentStep tracker sent).1 := by
  have sameLimits := delivered.sameLimits
  have step : sentStep tracker sent = _ := trackerStep_stored segment.storage segment.valid
  have valid : tcpStreamLimitsValidate limits = 0 := by
    rw [← sameLimits]
    exact tracker.limitsValid
  have carried := segment.within
  rw [sameLimits] at added carried
  obtain ⟨emitted, continues⟩ := addToFlow_receives valid sized receives
    segment.carries (payloadBytes_length segment.valid) carried
    sent.call.nowMs
  have event : eventOf sentStep tracker sent =
      ⟨tracker, sent, .added (.ok (addToFlow limits sent.call.packet sent.call.nowMs entry).2),
        { tracker with
          entries := (liveFlows tracker.entries sent.call.nowMs).set index
            (addToFlow limits sent.call.packet sent.call.nowMs entry).1 }⟩ := by
    rw [eventOf, step]
    simp only [sameLimits, added]
  have seen := stream.seen_append past (eventOf sentStep tracker sent)
  have handed := stream.emitted_append past (eventOf sentStep tracker sent)
  rw [event] at seen handed
  simp only [owns, if_true] at seen handed
  refine ⟨?_, ?_, ?_, ?_⟩
  · rw [step]
    exact sameLimits
  · exact (trackerStep_write tracker sent.call).wf delivered.wf
  · rw [event, handed, seen, delivered.emitted, answerMessages, emitted]
    exact take_progress seenWith_grows
  · intro _ unfinished
    have noFin : isFin sent.call.packet = false :=
      unfinished (eventOf sentStep tracker sent) (mem_append_right _ (mem_singleton.mpr rfl)) owns
    obtain ⟨left, slot, receivesMore⟩ := continues noFin
    have after := congrArg Event.after event
    refine ⟨index, left, ?_, ?_, ?_⟩
    · have entries : (sentStep tracker sent).1.entries = _ :=
        congrArg TcpStreamTracker.entries after
      rw [entries, at_set_iff inside]
      exact .inl ⟨rfl, slot⟩
    · have flow := addToFlow_left limits sent.call.packet sent.call.nowMs entry
      exact (flow.same_key left slot).trans sameKey
    · rw [event, seen]
      exact receivesMore

theorem DnsStream.Delivered.opens
    (sized : MessagesSized limits stream.messages) (owns : stream.owns sent = true)
    (syn : isSyn sent.call.packet = true) (first : sent.position = 0)
    (room : HasRoom tracker sent.call.packet sent.call.nowMs) (nothing : stream.seen past = unseen)
    (segment : stream.Segment tracker.limits (stream.seen past) sent) :
    stream.Delivered limits (past ++ [eventOf sentStep tracker sent])
      (sentStep tracker sent).1 := by
  have sameLimits := delivered.sameLimits
  have sameKey : buildKey sent.call.packet = stream.key := of_decide_eq_true owns
  have start : payloadSequence sent.call.packet = stream.start := by
    rw [segment.carries.sequence, first]
    simp
  obtain ⟨index, inside, added⟩ := addSegment_opened delivered.wf room syn segment.noRst
  rw [start] at added
  refine delivered.segment sized owns segment ?_ sameKey inside added
  rw [sameLimits, nothing]
  exact initializeFlow_receives _ _

theorem DnsStream.Delivered.continues
    (started : past ≠ []) (sized : MessagesSized limits stream.messages)
    (owns : stream.owns sent = true) (continues : stream.Continues past tracker sent) :
    stream.Delivered limits (past ++ [eventOf sentStep tracker sent])
      (sentStep tracker sent).1 := by
  have unfinished := continues.unfinished owns
  have segment := continues.segment owns
  have sameKey : buildKey sent.call.packet = stream.key := of_decide_eq_true owns
  obtain ⟨index, entry, holds, entryKey, receives⟩ := delivered.held started unfinished
  have fresh : flowExpired sent.call.nowMs entry = false :=
    continues.unexpired unfinished (some entry) (mem_of_getElem? holds) entry rfl entryKey
  have live : At (liveFlows tracker.entries sent.call.nowMs) index
      entry := at_expire_iff.mpr ⟨holds, fresh⟩
  cases syn : isSyn sent.call.packet with
  | true =>
    obtain ⟨first, silent⟩ := continues.repeated owns syn
    exact delivered.opens sized owns syn first
      ⟨index, .inl ⟨entry, live, entryKey.trans sameKey.symm⟩⟩ silent.seen
      segment
  | false =>
    have added := @addSegment_continued tracker.limits sent.call.packet
      tracker.entries sent.call.nowMs index entry delivered.wf.unique live
      (entryKey.trans sameKey.symm) receives.alive syn segment.noRst
    refine delivered.segment sized owns segment ?_ ?_ live.lt_length added
    · exact { receives with }
    · exact entryKey

theorem DnsStream.Delivered.other (started : past ≠ []) (foreign : stream.owns sent = false)
    (continues : stream.Continues past tracker sent) :
    stream.Delivered limits (past ++ [eventOf sentStep tracker sent])
      (sentStep tracker sent).1 := by
  have write := trackerStep_write tracker sent.call
  have seen := stream.seen_append past (eventOf sentStep tracker sent)
  have handed := stream.emitted_append past (eventOf sentStep tracker sent)
  simp only [eventOf, foreign, Bool.false_eq_true, if_false, append_nil] at seen handed
  refine ⟨write.limits_eq.trans delivered.sameLimits, write.wf delivered.wf, ?_, ?_⟩
  · rw [eventOf, handed, seen]
    exact delivered.emitted
  intro _ unfinished
  have unfinishedPast : stream.Unfinished past := fun event member =>
    unfinished event (mem_append_left _ member)
  obtain ⟨index, entry, holds, entryKey, receives⟩ := delivered.held started unfinishedPast
  have different : entry.key ≠ buildKey sent.call.packet := by
    rw [entryKey]
    exact fun same => of_decide_eq_false foreign same.symm
  have fresh : flowExpired sent.call.nowMs entry = false :=
    continues.unexpired unfinishedPast (some entry) (mem_of_getElem? holds) entry rfl entryKey
  rw [eventOf, seen]
  exact ⟨index, entry, write.keeps different holds fresh, entryKey, receives⟩

end

theorem DnsStream.Delivered.step (sized : MessagesSized limits stream.messages)
    (delivered : stream.Delivered limits past tracker) (sends : stream.Sends past tracker sent) :
    stream.Delivered limits (past ++ [eventOf sentStep tracker sent])
      (sentStep tracker sent).1 := by
  cases past with
  | nil => exact delivered.opens sized sends.owns sends.syn sends.first sends.room rfl sends.segment
  | cons first past =>
    cases owns : stream.owns sent with
    | true => exact delivered.continues (cons_ne_nil _ _) sized owns sends
    | false => exact delivered.other (cons_ne_nil _ _) owns sends

end Step

/-! ## Sessions -/

theorem DnsStream.delivered_nil (bounded : TrackerBounded limits tracker) :
    stream.Delivered limits [] tracker := by
  refine ⟨bounded.limits_eq, ?_, ?_, fun started => absurd rfl started⟩
  · rw [bounded.limits_eq]
    exact bounded.wf
  have nothing : stream.seen [] = unseen := rfl
  rw [nothing, progress_unseen]
  rfl

theorem DnsStream.delivered_run (sized : MessagesSized limits stream.messages)
    (bounded : TrackerBounded limits tracker)
    (session : Meets stream.Sends (run sentStep tracker calls)) :
    ∃ state, stream.Delivered limits (run sentStep tracker calls) state := by
  have start : stream.Delivered limits [] tracker := stream.delivered_nil bounded
  rcases eq_nil_or_concat (run sentStep tracker calls) with none | ⟨past, event, split⟩
  · rw [none]
    exact ⟨tracker, start⟩
  rw [concat_eq_append] at split
  have kept := invariant_run (stream.Delivered limits)
    (fun _ _ _ delivered sends => delivered.step sized sends) start session
    split
  rw [split]
  exact ⟨event.after, kept.2⟩

/-- The answers for the flow hand out the messages that have been received completely, each once and
in order. -/
theorem dns_stream_delivered {limits : TcpStreamLimits} {tracker : TcpStreamTracker}
    (created : tcpStreamTrackerCreate limits = .ok tracker) {calls : List Sent}
    {earlier events : List SentEvent} (split : run sentStep tracker calls = earlier ++ events)
    (stream : DnsStream) (sized : MessagesSized limits stream.messages)
    (session : Meets stream.Sends events) :
    stream.emitted events = stream.messages.take (progress stream.messages (stream.seen events)) ∧
      ((∀ index, index < (framedBytes stream.messages).length → stream.seen events index = true) →
          stream.emitted events = stream.messages) := by
  have preserved : ∀ state (sent : Sent), TrackerBounded limits state →
      TrackerBounded limits (sentStep state sent).1 :=
    fun _ sent bounded => bounded.step sent.call
  obtain ⟨state, later, bounded, rfl⟩ := run_suffix preserved (created_trackerBounded created) split
  obtain ⟨_, delivered⟩ := stream.delivered_run sized bounded session
  have emitted := delivered.emitted
  refine ⟨emitted, ?_⟩
  intro all
  rw [emitted, progress, wholeRecords_all]
  · rw [recordSizes, length_map, take_length]
  · intro index small
    rw [Nat.zero_add]
    rw [← framedBytes_length] at small
    exact all index small

instance decidableMessagesSized (limits : TcpStreamLimits)
    (messages : List Bytes) : Decidable (MessagesSized limits messages) :=
  inferInstanceAs (Decidable (∀ message ∈ messages, _))

instance decidableCarriesAt (messages : List Bytes) (start : UInt32)
    (position : Nat) (packet : PacketView) :
    Decidable (CarriesAt messages start position packet) :=
  decidable_of_iff _ (carriesAt_iff ..).symm

instance decidableWithinLimits (limits : TcpStreamLimits)
    (messages : List Bytes) (seen : Nat → Bool) (position size : Nat) :
    Decidable (WithinLimits limits messages seen position size) :=
  decidable_of_iff _ (withinLimits_iff ..).symm

instance decidableSegment (stream : DnsStream) (limits : TcpStreamLimits)
    (seen : Nat → Bool) (sent : Sent) :
    Decidable (stream.Segment limits seen sent) :=
  decidable_of_iff _ (DnsStream.segment_iff ..).symm

instance decidableContinues (stream : DnsStream) (past : List SentEvent)
    (tracker : TcpStreamTracker) (sent : Sent) :
    Decidable (stream.Continues past tracker sent) :=
  decidable_of_iff _ (DnsStream.continues_iff ..).symm

/-! A session with two messages: the SYN, the packet of another flow, a segment
that starts inside the first message, the first message, and the second one
again with FIN. -/

def sessionTracker : TcpStreamTracker where
  limits :=
    { maxFlows := 2
      maxFlowsPerSource := 2
      maxBufferedBytes := 32
      maxOutOfOrderSegments := 1
      maxDnsMessageSize := 12
      maxMessagesPerPacket := 2
      idleTimeoutMs := 10
      connectionTimeoutMs := 10 }
  limitsValid := by decide
  entries := [none, none]

def sessionStream : DnsStream where
  key := buildKey (segmentInput 53 0 0 []).packet
  start := 100
  messages := [(framedOctets 7).drop 2, (framedOctets 8).drop 2]

def sessionSegment (flags : UInt8) (position size : Nat) : Sent where
  call := .add (segmentInput 53 (100 + UInt32.ofNat position) flags
    (slice (framedBytes sessionStream.messages) position size)).packet
    0 32 2
  position := position

def sessionCalls : List Sent :=
  [{ call := .add (segmentInput 53 99 synFlag []).packet 0 32 2 },
    { call := .add { (segmentInput 53 7 0 [0]).packet with sourcePort := 4097 } 0 32 2 },
    sessionSegment 0 10 18, sessionSegment 0 0 14, sessionSegment finFlag 14 14]

theorem sessionCalls_sends :
    Meets sessionStream.Sends (run sentStep sessionTracker sessionCalls) := by
  have absent : Absent (liveFlows sessionTracker.entries 0)
      (buildKey (segmentInput 53 99 synFlag []).packet) :=
    findFlow_absent rfl
  apply meets_of_meetsFrom
  refine ⟨⟨rfl, by decide, rfl, ?_, by decide +kernel⟩,
    (?_ : DnsStream.Continues _ _ _ _), (?_ : DnsStream.Continues _ _ _ _),
    (?_ : DnsStream.Continues _ _ _ _), (?_ : DnsStream.Continues _ _ _ _),
    trivial⟩
  · exact ⟨0, .inr ⟨rfl, absent, by decide⟩⟩
  all_goals decide +kernel

theorem dns_stream_delivered_session :
    sessionStream.emitted (run sentStep sessionTracker sessionCalls) = sessionStream.messages := by
  have created : tcpStreamTrackerCreate sessionTracker.limits = .ok sessionTracker := rfl
  refine (dns_stream_delivered created (nil_append _).symm
    sessionStream (by decide) sessionCalls_sends).2 ?_
  decide +kernel

end TcpStream

end JanusGate
