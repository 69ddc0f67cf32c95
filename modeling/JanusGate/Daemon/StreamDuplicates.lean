import JanusGate.Daemon.StreamHistory

/-!
# Packets answered DUPLICATE

Both entry points of the tracker admit a packet to a flow, place its payload
and hand out a front part of the window.  `EntryPoint` states what they have
in common; the history of every live flow is then kept by every run of either.
-/

namespace JanusGate

open Runs SlotTable TcpStream

namespace TcpStream

/-! ## The two entry points -/

/-- What an accepted call does to the flows, by the admission of its
packet. -/
def SegmentEffect (tracker : TcpStreamTracker) (packet : PacketView) (nowMs : Nat)
    (entries : List (Option StreamEntry)) (output : Bytes) (duplicate : Bool) : Prop :=
  match admitPacket tracker.limits (liveFlows tracker.entries nowMs) packet nowMs with
  | (after, .admitted index entry _) =>
    ∃ slot, entries = after.set index slot ∧ (∀ left ∈ slot, left.key = entry.key) ∧
      FlowOutcome tracker.limits packet entry slot output duplicate
  | (after, _) => entries = after ∧ output = [] ∧ (duplicate = true → packet.payloadSize = 0)

theorem admitPacket_noFlow (found : admitPacket limits live packet nowMs = (after, .noFlow)) :
    packet.payloadSize = 0 := by
  have admits := admitPacket_admits limits live packet nowMs
  rw [found] at admits
  cases admits with
  | noFlow _ _ _ noPayload => exact noPayload

/-- An entry point of the tracker with what its answers hand out. -/
structure EntryPoint (ι α : Type) where
  step : TcpStreamTracker → ι → TcpStreamTracker × α
  packet : ι → PacketView
  nowMs : ι → Nat
  accepts : TcpStreamTracker → ι → Bool
  emitted : α → Bytes
  duplicate : α → Bool
  refused : ∀ tracker input, accepts tracker input = false → (step tracker input).1 = tracker ∧
      emitted (step tracker input).2 = [] ∧
      duplicate (step tracker input).2 = false
  write : ∀ tracker input, TrackerWrite tracker (buildKey (packet input)) (nowMs input)
      (step tracker input).1
  effect : ∀ tracker input, accepts tracker input = true →
    SegmentEffect tracker (packet input) (nowMs input)
      (step tracker input).1.entries (emitted (step tracker input).2)
      (duplicate (step tracker input).2)

/-- Arguments of one call of either entry point; the raw one has no message
storage. -/
structure SegmentInput where
  packet : PacketView
  nowMs : Nat
  outputSize : Nat
  messageCapacity : Nat := 0

theorem tcpStreamTrackerAdd_effect (valid : packetValidForPort packet 53 = true)
    (size : tracker.limits.maxBufferedBytes ≤ outputSize)
    (capacity : tracker.limits.maxMessagesPerPacket ≤ messageCapacity) :
    SegmentEffect tracker packet nowMs (tcpStreamTrackerAdd tracker packet nowMs outputSize
        messageCapacity).1.entries
      (dnsEmitted (tcpStreamTrackerAdd tracker packet nowMs outputSize messageCapacity).2)
      (dnsDuplicate (tcpStreamTrackerAdd tracker packet nowMs outputSize messageCapacity).2) := by
  have added : tcpStreamTrackerAdd tracker packet nowMs outputSize messageCapacity =
      ({ tracker with entries := (addSegment tracker.limits tracker.entries packet nowMs).1 },
        .ok (addSegment tracker.limits tracker.entries packet nowMs).2) := by
    unfold tcpStreamTrackerAdd
    rw [if_neg (by simp [valid]), if_neg (by omega)]
  rw [added]
  unfold SegmentEffect addSegment
  rcases found : admitPacket tracker.limits
    (liveFlows tracker.entries nowMs) packet nowMs with ⟨after, admission⟩
  cases admission with
  | admitted index entry newFlow =>
    exact ⟨_, rfl, (addToFlow_left _ _ _ _).same_key, addToFlow_outcome _ _ _ _⟩
  | noFlow =>
    refine ⟨rfl, ?_, fun _ => admitPacket_noFlow found⟩
    dsimp only
    split <;> rfl
  | _ => exact ⟨rfl, rfl, by simp [dnsDuplicate]⟩

/-- `jg_tcp_stream_tracker_add`. -/
def dnsEntryPoint : EntryPoint SegmentInput (Except Int TcpStreamResult) where
  step := fun tracker input =>
    tcpStreamTrackerAdd tracker input.packet input.nowMs input.outputSize input.messageCapacity
  packet := SegmentInput.packet
  nowMs := SegmentInput.nowMs
  accepts := fun tracker input =>
    packetValidForPort input.packet 53 &&
      decide (tracker.limits.maxBufferedBytes ≤ input.outputSize) &&
      decide (tracker.limits.maxMessagesPerPacket ≤ input.messageCapacity)
  emitted := dnsEmitted
  duplicate := dnsDuplicate
  refused := by
    intro tracker input rejected
    unfold tcpStreamTrackerAdd
    split
    · exact ⟨rfl, rfl, rfl⟩
    case isFalse valid =>
      rw [if_pos]
      · exact ⟨rfl, rfl, rfl⟩
      · simp only [Bool.not_eq_true, Bool.not_eq_false'] at valid
        simpa [valid, or_iff_not_imp_left] using rejected
  write := fun tracker _ => tcpStreamTrackerAdd_write tracker _ _ _ _
  effect := by
    intro tracker input accepted
    simp only [Bool.and_eq_true, decide_eq_true_eq] at accepted
    exact tcpStreamTrackerAdd_effect accepted.1.1 accepted.1.2 accepted.2

theorem tcpStreamTrackerAddRaw_effect
    (valid : (packetValidForPort packet 443 || packetValidForPort packet 853) = true)
    (size : tracker.limits.maxBufferedBytes ≤ outputSize) :
    SegmentEffect tracker packet nowMs
      (tcpStreamTrackerAddRaw tracker packet nowMs outputSize).1.entries
      (rawEmitted (tcpStreamTrackerAddRaw tracker packet nowMs outputSize).2)
      (rawDuplicate (tcpStreamTrackerAddRaw tracker packet nowMs outputSize).2) := by
  have added : tcpStreamTrackerAddRaw tracker packet nowMs outputSize =
      ({ tracker with entries := (addRawSegment tracker.limits tracker.entries packet nowMs).1 },
        .ok (addRawSegment tracker.limits tracker.entries packet nowMs).2) := by
    unfold tcpStreamTrackerAddRaw
    rw [if_neg (by simp [valid]), if_neg (by omega)]
  rw [added]
  unfold SegmentEffect addRawSegment
  rcases found : admitPacket tracker.limits
    (liveFlows tracker.entries nowMs) packet nowMs with ⟨after, admission⟩
  cases admission with
  | admitted index entry newFlow =>
    exact ⟨_, rfl, (addRawToFlow_left _ _ _ _).same_key, addRawToFlow_outcome _ _ _ _ _ rfl⟩
  | noFlow => exact ⟨rfl, rfl, fun _ => admitPacket_noFlow found⟩
  | _ => exact ⟨rfl, rfl, by simp [rawDuplicate]⟩

/-- `jg_tcp_stream_tracker_add_raw`. -/
def rawEntryPoint : EntryPoint SegmentInput
    (Except Int (TcpRawStreamChunk × TcpRawStreamResult)) where
  step := fun tracker input =>
    tcpStreamTrackerAddRaw tracker input.packet input.nowMs input.outputSize
  packet := SegmentInput.packet
  nowMs := SegmentInput.nowMs
  accepts := fun tracker input =>
    (packetValidForPort input.packet 443 ||
      packetValidForPort input.packet 853) &&
      decide (tracker.limits.maxBufferedBytes ≤ input.outputSize)
  emitted := rawEmitted
  duplicate := rawDuplicate
  refused := by
    intro tracker input rejected
    unfold tcpStreamTrackerAddRaw
    split
    · exact ⟨rfl, rfl, rfl⟩
    case isFalse valid =>
      rw [if_pos]
      · exact ⟨rfl, rfl, rfl⟩
      · simp only [Bool.not_eq_true, Bool.not_eq_false'] at valid
        simpa [valid] using rejected
  write := fun tracker _ => tcpStreamTrackerAddRaw_write tracker _ _ _
  effect := by
    intro tracker input accepted
    simp only [Bool.and_eq_true, decide_eq_true_eq] at accepted
    exact tcpStreamTrackerAddRaw_effect accepted.1 accepted.2

/-! ## Connections of a run -/

section Runs

variable {ι α : Type} (point : EntryPoint ι α)

abbrev SegmentEvent (ι α : Type) := Event TcpStreamTracker ι α

/-- The flow that a call is admitted to, as it was before the call, and
whether the call opens it. -/
def admittedFlow (tracker : TcpStreamTracker) (input : ι) : Option (StreamEntry × Bool) :=
  if point.accepts tracker input then
    match (admitPacket tracker.limits
        (liveFlows tracker.entries (point.nowMs input)) (point.packet input)
        (point.nowMs input)).2 with
    | .admitted _ entry newFlow => some (entry, newFlow)
    | _ => none
  else none

variable (key : StreamKey)

def nextConnection (connection : Connection) (event : SegmentEvent ι α) : Connection :=
  if buildKey (point.packet event.input) = key then
    match admittedFlow point event.before event.input with
    | some (entry, newFlow) =>
      (if newFlow then {} else connection).extend entry.baseSequence
        (point.packet event.input) (point.emitted event.answer)
    | none => connection
  else connection

def connectionOf (past : List (SegmentEvent ι α)) : Connection :=
  past.foldl (nextConnection point key) {}

/-- A byte of a key was handed to the caller at a sequence number. -/
def Emitted (past : List (SegmentEvent ι α)) (key : StreamKey)
    (sequence : UInt32) (value : UInt8) : Prop :=
  ∃ event ∈ past, buildKey (point.packet event.input) = key ∧
    ∃ flow ∈ admittedFlow point event.before event.input,
      ∃ index, index < (point.emitted event.answer).length ∧
        flow.1.baseSequence + UInt32.ofNat index = sequence ∧
        byteAt (point.emitted event.answer) index = value

/-- A byte of a key is in the receive window at a sequence number. -/
def Buffered (tracker : TcpStreamTracker) (key : StreamKey)
    (sequence : UInt32) (value : UInt8) : Prop :=
  ∃ slot ∈ tracker.entries, ∃ entry ∈ slot, entry.key = key ∧
    ∃ offset, offset < entry.window.length ∧ entry.window[offset]? = some (some value) ∧
      entry.baseSequence + UInt32.ofNat offset = sequence

/-- A packet of an existing flow does not start before it, and repeats the consumed bytes. -/
def SendsConsistently (past : List (SegmentEvent ι α))
    (tracker : TcpStreamTracker) (input : ι) : Prop :=
  ∀ flow ∈ admittedFlow point tracker input, flow.2 = false →
    Consistent (connectionOf point (buildKey (point.packet input)) past) (streamPosition
        (connectionOf point (buildKey (point.packet input)) past).consumed
        flow.1.baseSequence (payloadSequence (point.packet input)))
      (payloadBytes (point.packet input))

/-- Every live flow has the history of its connection. -/
structure HistoriesKept (past : List (SegmentEvent ι α)) (tracker : TcpStreamTracker) : Prop where
  wellFormed : FlowsWf tracker.limits tracker.entries
  histories : ∀ index entry, At tracker.entries index entry → entry.rejected = false →
      FlowHistory tracker.limits (Emitted point past entry.key)
        (connectionOf point entry.key past) entry

variable {point}

theorem connectionOf_append (past : List (SegmentEvent ι α)) (event : SegmentEvent ι α) :
    connectionOf point key (past ++ [event]) =
      nextConnection point key (connectionOf point key past) event := by
  simp [connectionOf]

theorem Emitted.append {key : StreamKey} {sequence}
    (emitted : Emitted point past key sequence value) (more : List (SegmentEvent ι α)) :
    Emitted point (past ++ more) key sequence value := by
  obtain ⟨event, member, rest⟩ := emitted
  exact ⟨event, List.mem_append_left more member, rest⟩

theorem FlowHistory.untouched (history : FlowHistory limits (Emitted point past entry.key)
      (connectionOf point entry.key past) entry)
    (same : nextConnection point entry.key (connectionOf point entry.key past) event =
        connectionOf point entry.key past) :
    FlowHistory limits (Emitted point (past ++ [event]) entry.key)
      (connectionOf point entry.key (past ++ [event])) entry := by
  rw [connectionOf_append, same]
  exact history.mono (fun _ _ emitted => emitted.append _)

theorem initializeFlow_history (limits : TcpStreamLimits) (emitted : UInt32 → UInt8 → Prop)
    (key : StreamKey) (sequence : UInt32) (nowMs : Nat) :
    FlowHistory limits emitted {} (initializeFlow limits key sequence nowMs) where
  length := by simp [initializeFlow]
  consumed := by
    intro position before
    cases before
  buffered := by
    intro offset value holds
    simp only [initializeFlow] at holds
    rw [List.getElem?_replicate] at holds
    split at holds <;> simp at holds

theorem HistoriesKept.admitted (kept : HistoriesKept point past tracker)
    (admits : Admits tracker.limits (liveFlows tracker.entries nowMs) packet
      nowMs after (.admitted index entry newFlow)) :
    FlowHistory tracker.limits (Emitted point past (buildKey packet))
      (if newFlow then {} else connectionOf point (buildKey packet) past)
      entry := by
  cases admits with
  | continued holds sameKey _ _ alive =>
    have stored := (at_expire_iff.mp holds).1
    have history := kept.histories _ _ stored alive
    rw [sameKey] at history
    exact { history with }
  | reopened | opened => exact initializeFlow_history _ _ _ _ _

/-- A call leaves the flows alone or clears some, or it hands its segment to one flow. -/
inductive CallEffect (point : EntryPoint ι α) (tracker : TcpStreamTracker) (input : ι) : Prop
  | quiet (none : admittedFlow point tracker input = none) (stored : ∀ index entry,
        At (point.step tracker input).1.entries index entry → At tracker.entries index entry)
      (empty : point.duplicate (point.step tracker input).2 = true →
        (point.packet input).payloadSize = 0)
  | segment {entry : StreamEntry} {newFlow : Bool}
      {after : List (Option StreamEntry)} {slot : Option StreamEntry}
      (flow : admittedFlow point tracker input = some (entry, newFlow))
      (admits : Admits tracker.limits
        (liveFlows tracker.entries (point.nowMs input)) (point.packet input)
        (point.nowMs input) after (.admitted index entry newFlow))
      (entries : (point.step tracker input).1.entries =
        (liveFlows tracker.entries (point.nowMs input)).set index slot)
      (sameKey : ∀ left ∈ slot, left.key = entry.key)
      (outcome : FlowOutcome tracker.limits (point.packet input) entry slot
        (point.emitted (point.step tracker input).2)
        (point.duplicate (point.step tracker input).2))

theorem callEffect (point : EntryPoint ι α) (tracker : TcpStreamTracker) (input : ι) :
    CallEffect point tracker input := by
  cases accepted : point.accepts tracker input with
  | false =>
    obtain ⟨same, _, notDuplicate⟩ := point.refused tracker input accepted
    refine .quiet (by simp [admittedFlow, accepted]) ?_ ?_
    · intro index entry holds
      rwa [same] at holds
    · intro duplicate
      rw [notDuplicate] at duplicate
      cases duplicate
  | true =>
    have effect := point.effect tracker input accepted
    have admits := admitPacket_admits tracker.limits
      (liveFlows tracker.entries (point.nowMs input)) (point.packet input)
      (point.nowMs input)
    have flow : admittedFlow point tracker input = _ := if_pos accepted
    unfold SegmentEffect at effect
    rcases found : admitPacket tracker.limits
      (liveFlows tracker.entries (point.nowMs input)) (point.packet input)
      (point.nowMs input) with ⟨after, admission⟩
    rw [found] at admits effect flow
    have quiet : admittedFlow point tracker input = none →
        (point.step tracker input).1.entries = after ∧
          point.emitted (point.step tracker input).2 = [] ∧
          (point.duplicate (point.step tracker input).2 = true →
            (point.packet input).payloadSize = 0) →
        CallEffect point tracker input := by
      rintro none ⟨entries, _, empty⟩
      refine .quiet none ?_ empty
      intro index entry holds
      rw [entries] at holds
      have live := admits.not_admitted_at index entry holds
      exact (at_expire_iff.mp live).1
    cases admission with
    | admitted index entry newFlow =>
      obtain ⟨slot, entries, sameKey, outcome⟩ := effect
      rw [(admits.admitted_slot slot).2] at entries
      exact .segment flow admits entries sameKey outcome
    | _ => exact quiet flow effect

theorem historiesKept_step (kept : HistoriesKept point past tracker) (input : ι) :
    HistoriesKept point (past ++ [eventOf point.step tracker input])
      (point.step tracker input).1 := by
  have write := point.write tracker input
  refine ⟨write.wf kept.wellFormed, ?_⟩
  intro index entry holds alive
  rw [write.limits_eq]
  cases callEffect point tracker input with
  | quiet none stored =>
    have history := kept.histories index entry (stored index entry holds) alive
    apply history.untouched
    simp [nextConnection, eventOf, none]
  | @segment position flowEntry newFlow after slot flow admits entries sameKey outcome =>
      obtain ⟨owns, _⟩ := admits.admitted_slot slot
      have flowKey := admits.admitted_entry.1
      rw [entries, at_set_iff owns.lt_length] at holds
      rcases holds with ⟨rfl, written⟩ | ⟨elsewhere, live⟩
      · -- the flow of the packet
        have ownKey : entry.key = buildKey (point.packet input) :=
          (sameKey entry written).trans flowKey
        have extended : connectionOf point (buildKey (point.packet input))
            (past ++ [eventOf point.step tracker input]) =
            (if newFlow then {} else connectionOf point (buildKey (point.packet input)) past).extend
              flowEntry.baseSequence (point.packet input)
              (point.emitted (point.step tracker input).2) := by
          rw [connectionOf_append]
          simp only [nextConnection, eventOf, if_true, flow]
        rw [ownKey, extended]
        refine (kept.admitted admits).step
          (fun _ _ emitted => emitted.append _) ?_ outcome entry written alive
        intro place inside
        exact ⟨eventOf point.step tracker input, by simp, rfl, _, flow, place, inside, rfl, rfl⟩
      · -- another flow
        have different : entry.key ≠ buildKey (point.packet input) := by
          intro same
          exact elsewhere (owns.alone (kept.wellFormed.live (point.nowMs input)).unique index entry
            live same)
        have history := kept.histories index entry (at_expire_iff.mp live).1 alive
        apply history.untouched
        simp [nextConnection, eventOf, Ne.symm different]

/-- Every payload byte of a call was emitted earlier in the run, or is in the
window after the call. -/
def AlreadySeen (point : EntryPoint ι α) (past : List (SegmentEvent ι α))
    (event : SegmentEvent ι α) : Prop :=
  ∀ index, index < (payloadBytes (point.packet event.input)).length →
    Emitted point past (buildKey (point.packet event.input))
        (payloadSequence (point.packet event.input) + UInt32.ofNat index)
        (byteAt (payloadBytes (point.packet event.input)) index) ∨
      Buffered event.after (buildKey (point.packet event.input))
        (payloadSequence (point.packet event.input) + UInt32.ofNat index)
        (byteAt (payloadBytes (point.packet event.input)) index)

theorem Admits.new_consistent
    (admits : Admits limits live packet nowMs after (.admitted index entry true)) :
    Consistent {} (streamPosition 0 entry.baseSequence (payloadSequence packet))
      (payloadBytes packet) := by
  have base : entry.baseSequence = payloadSequence packet := by cases admits <;> rfl
  refine ⟨fun _ => ?_, by simp⟩
  rw [base]
  simp [streamPosition]

theorem payloadBytes_length_le (packet : PacketView) :
    (payloadBytes packet).length ≤ packet.payloadSize := by
  simp only [payloadBytes, slice, List.length_take]
  exact Nat.min_le_left _ _

theorem HistoriesKept.already_seen (kept : HistoriesKept point past tracker)
    (consistent : SendsConsistently point past tracker input)
    (duplicate : point.duplicate (point.step tracker input).2 = true) :
    AlreadySeen point past (eventOf point.step tracker input) := by
  intro index inside
  dsimp only [eventOf] at inside ⊢
  cases callEffect point tracker input with
  | quiet _ _ empty =>
    have bound := payloadBytes_length_le (point.packet input)
    rw [empty duplicate] at bound
    omega
  | @segment position entry newFlow after slot flow admits entries sameKey outcome =>
      have history := kept.admitted admits
      have repeats : Consistent (if newFlow then {} else connectionOf point
            (buildKey (point.packet input)) past)
          (streamPosition (if newFlow then {} else connectionOf point
            (buildKey (point.packet input)) past).consumed
            entry.baseSequence (payloadSequence (point.packet input)))
          (payloadBytes (point.packet input)) := by
        cases newFlow with
        | true => exact admits.new_consistent
        | false => exact consistent (entry, false) flow rfl
      have seen := history.duplicate repeats outcome duplicate index inside
      rcases seen with emitted | ⟨left, written, offset, held, place⟩
      · exact .inl emitted
      right
      obtain ⟨owns, _⟩ := admits.admitted_slot slot
      refine ⟨slot, ?_, left, written,
        (sameKey left written).trans admits.admitted_entry.1, offset,
        (List.getElem?_eq_some_iff.mp held).1, held, place⟩
      rw [entries]
      exact List.mem_set owns.lt_length slot

theorem created_historiesKept (created : tcpStreamTrackerCreate limits = .ok tracker) :
    HistoriesKept point [] tracker := by
  refine ⟨created_flowsWf created, ?_⟩
  intro index entry holds
  exact absurd holds (created_empty created index entry)

theorem run_already_seen (created : tcpStreamTrackerCreate limits = .ok tracker)
    (split : run point.step tracker inputs = past ++ event :: future)
    (consistent : SendsConsistently point past event.before event.input)
    (duplicate : point.duplicate event.answer = true) : AlreadySeen point past event := by
  have meets : Meets (fun _ _ _ => True) (run point.step tracker inputs) := fun _ _ _ _ => trivial
  have kept := (invariant_run (HistoriesKept point)
    (fun _ _ input kept _ => historiesKept_step kept input)
    (created_historiesKept created) meets split).1
  have made : event = eventOf point.step event.before event.input := by
    apply event_eq
    rw [split]
    simp
  rw [made] at duplicate ⊢
  exact kept.already_seen consistent duplicate

end Runs

/-- Each payload byte of a packet answered DUPLICATE was emitted before or is buffered, when the
packets of its connection are consistent. -/
theorem duplicate_bytes_already_seen {limits : TcpStreamLimits} {tracker : TcpStreamTracker}
    (created : tcpStreamTrackerCreate limits = .ok tracker) (inputs : List SegmentInput) :
    (∀ past event future, run dnsEntryPoint.step tracker inputs = past ++ event :: future →
        SendsConsistently dnsEntryPoint past event.before event.input →
        dnsEntryPoint.duplicate event.answer = true → AlreadySeen dnsEntryPoint past event) ∧
      (∀ past event future, run rawEntryPoint.step tracker inputs = past ++ event :: future →
          SendsConsistently rawEntryPoint past event.before event.input →
          rawEntryPoint.duplicate event.answer = true → AlreadySeen rawEntryPoint past event) :=
  ⟨fun _ _ _ split => run_already_seen created split,
    fun _ _ _ split => run_already_seen created split⟩

instance decidableEmitted {ι α : Type} (point : EntryPoint ι α)
    (past : List (SegmentEvent ι α)) (key : StreamKey) (sequence : UInt32)
    (value : UInt8) : Decidable (Emitted point past key sequence value) := by
  unfold Emitted
  infer_instance

instance decidableBuffered (tracker : TcpStreamTracker) (key : StreamKey)
    (sequence : UInt32) (value : UInt8) :
    Decidable (Buffered tracker key sequence value) := by
  unfold Buffered
  infer_instance

instance decidableSendsConsistently {ι α : Type} (point : EntryPoint ι α)
    (past : List (SegmentEvent ι α)) (tracker : TcpStreamTracker)
    (input : ι) : Decidable (SendsConsistently point past tracker input) := by
  unfold SendsConsistently Consistent
  infer_instance

instance decidableAlreadySeen {ι α : Type} (point : EntryPoint ι α)
    (past : List (SegmentEvent ι α)) (event : SegmentEvent ι α) :
    Decidable (AlreadySeen point past event) := by
  unfold AlreadySeen
  infer_instance

variable (port : UInt16)

def segmentInput (sequence : UInt32) (flags : UInt8) (payload : Bytes) : SegmentInput where
  packet :=
    { frame := payload
      ipVersion := .v4
      sourceAddress := [10, 0, 0, 1]
      destinationAddress := [10, 0, 0, 2]
      ipProtocol := Packet.ipProtoTcp
      transport := .tcp
      sourcePort := 4096
      destinationPort := port
      tcpSequence := sequence
      tcpFlags := flags
      payloadSize := payload.length }
  nowMs := 0
  outputSize := 16
  messageCapacity := 1

def segmentCall (input : SegmentInput) : TrackerCall :=
  .add input.packet input.nowMs input.outputSize input.messageCapacity

def smallTracker : TcpStreamTracker where
  limits :=
    { maxFlows := 1
      maxFlowsPerSource := 1
      maxBufferedBytes := 16
      maxOutOfOrderSegments := 1
      maxDnsMessageSize := 12
      maxMessagesPerPacket := 1
      idleTimeoutMs := 10
      connectionTimeoutMs := 10 }
  limitsValid := by decide
  entries := [none]

def framedOctets (first : UInt8) : Bytes := [0, 12, first, 0, 0, 0, 0, 0, 0, 0, 0, 0, 0, 0]

def resentSegment : List SegmentInput :=
  [segmentInput port 0 synFlag [], segmentInput port 1 0 (framedOctets 7),
    segmentInput port 1 0 (framedOctets 7)]

/-- A segment of a flow whose opening was not seen, and then the segment
before it. -/
def earlierSegment : List SegmentInput := [segmentInput port 9 0 [0], segmentInput port 5 0 [1, 2]]

/-- SYN, one framed message, and other bytes in its place. -/
def changedSegment : List SegmentInput :=
  [segmentInput port 0 synFlag [], segmentInput port 1 0 (framedOctets 7),
    segmentInput port 1 0 (framedOctets 8)]

def lastEvent {ι α : Type} (point : EntryPoint ι α) (inputs : List ι) :
    Option (List (SegmentEvent ι α) × SegmentEvent ι α) :=
  let events := run point.step smallTracker inputs
  events.getLast?.map fun event => (events.dropLast, event)

theorem duplicate_bytes_already_seen_resent : (∃ found ∈ lastEvent dnsEntryPoint (resentSegment 53),
      dnsEntryPoint.duplicate found.2.answer = true ∧ AlreadySeen dnsEntryPoint found.1 found.2) ∧
      ∃ found ∈ lastEvent rawEntryPoint (resentSegment 443),
        rawEntryPoint.duplicate found.2.answer = true ∧ AlreadySeen rawEntryPoint found.1 found.2 :=
  have created : tcpStreamTrackerCreate smallTracker.limits = .ok smallTracker := rfl
  ⟨⟨_, rfl, by decide +kernel,
      (duplicate_bytes_already_seen created (resentSegment 53)).1 _ _ [] rfl
        (by decide +kernel) (by decide +kernel)⟩,
    ⟨_, rfl, by decide +kernel,
      (duplicate_bytes_already_seen created (resentSegment 443)).2 _ _ [] rfl
        (by decide +kernel) (by decide +kernel)⟩⟩

/-- A segment before the base, and other bytes in the place of consumed ones, are duplicates. -/
theorem earlier_segment_duplicate : (∃ found ∈ lastEvent dnsEntryPoint (earlierSegment 53),
      dnsEntryPoint.duplicate found.2.answer = true ∧ ¬ AlreadySeen dnsEntryPoint found.1 found.2) ∧
    (∃ found ∈ lastEvent rawEntryPoint (earlierSegment 443),
      rawEntryPoint.duplicate found.2.answer = true ∧ ¬ AlreadySeen rawEntryPoint found.1 found.2) ∧
    (∃ found ∈ lastEvent dnsEntryPoint (changedSegment 53),
      dnsEntryPoint.duplicate found.2.answer = true ∧ ¬ AlreadySeen dnsEntryPoint found.1 found.2) ∧
    ∃ found ∈ lastEvent rawEntryPoint (changedSegment 443),
      rawEntryPoint.duplicate found.2.answer = true ∧
        ¬ AlreadySeen rawEntryPoint found.1 found.2 := by
  decide +kernel

end TcpStream

end JanusGate
