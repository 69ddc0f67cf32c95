import JanusGate.Daemon.StreamDuplicates

/-!
# Sequence numbers of a flow are relative

Adding a constant to every sequence number of one flow moves the stream base
of that flow by the same constant and changes nothing else, since the tracker
only looks at the distance between a segment and the base.
-/

namespace JanusGate

open Runs SlotTable TcpStream

namespace TcpStream

variable (flow : StreamKey) (shift : UInt32)

/-- What is added to the sequence numbers of a key. -/
def shiftOf (key : StreamKey) : UInt32 := if key = flow then shift else 0

def shiftPacket (packet : PacketView) : PacketView :=
  { packet with tcpSequence := packet.tcpSequence + shiftOf flow shift (buildKey packet) }

def shiftEntry (entry : StreamEntry) : StreamEntry :=
  { entry with baseSequence := entry.baseSequence + shiftOf flow shift entry.key }

abbrev shiftEntries (entries : List (Option StreamEntry)) : List (Option StreamEntry) :=
  relabel (shiftEntry flow shift) entries

def shiftTracker (tracker : TcpStreamTracker) : TcpStreamTracker :=
  { tracker with entries := shiftEntries flow shift tracker.entries }

def shiftCall : TrackerCall → TrackerCall
  | .add packet nowMs outputSize messageCapacity =>
    .add (shiftPacket flow shift packet) nowMs outputSize messageCapacity
  | .addRaw packet nowMs outputSize => .addRaw (shiftPacket flow shift packet) nowMs outputSize
  | .rejectFlow packet nowMs => .rejectFlow (shiftPacket flow shift packet) nowMs

def Admission.mapEntry (change : StreamEntry → StreamEntry) : Admission → Admission
  | .admitted index entry newFlow => .admitted index (change entry) newFlow
  | other => other

def Placement.mapEntry (change : StreamEntry → StreamEntry) : Placement → Placement
  | .inserted entry changed => .inserted (change entry) changed
  | other => other

variable {flow} {shift} (limits : TcpStreamLimits) (packet : PacketView) (entry : StreamEntry)
  (nowMs : Nat)

/-! ## Packets and entries -/

@[simp]
theorem buildKey_shiftPacket : buildKey (shiftPacket flow shift packet) = buildKey packet := rfl

theorem shiftPacket_frame : isSyn (shiftPacket flow shift packet) = isSyn packet ∧
      isFin (shiftPacket flow shift packet) = isFin packet ∧
      isRst (shiftPacket flow shift packet) = isRst packet ∧
      (shiftPacket flow shift packet).payloadSize = packet.payloadSize ∧
      payloadBytes (shiftPacket flow shift packet) = payloadBytes packet ∧
      ∀ port, packetValidForPort (shiftPacket flow shift packet) port =
        packetValidForPort packet port :=
  ⟨rfl, rfl, rfl, rfl, rfl, fun _ => rfl⟩

theorem shiftEntry_frame : (shiftEntry flow shift entry).window = entry.window ∧
      (shiftEntry flow shift entry).rejected = entry.rejected :=
  ⟨rfl, rfl⟩

theorem add_right_comm_u32 (left middle right : UInt32) :
    left + middle + right = left + right + middle := by
  rw [UInt32.add_assoc, UInt32.add_comm middle, ← UInt32.add_assoc]

theorem payloadSequence_shiftPacket :
    payloadSequence (shiftPacket flow shift packet) =
      payloadSequence packet + shiftOf flow shift (buildKey packet) := by
  exact add_right_comm_u32 _ _ _

theorem initializeFlow_shift (key : StreamKey) (base : UInt32) :
    initializeFlow limits key (base + shiftOf flow shift key) nowMs =
      shiftEntry flow shift (initializeFlow limits key base nowMs) := rfl

theorem rejectFlow_shift :
    rejectFlow limits (shiftEntry flow shift entry) nowMs =
      shiftEntry flow shift (rejectFlow limits entry nowMs) := rfl

theorem consumePrefix_shift (consumed : Nat) :
    consumePrefix (shiftEntry flow shift entry) consumed =
      shiftEntry flow shift (consumePrefix entry consumed) := by
  simp only [consumePrefix, shiftEntry, StreamEntry.mk.injEq, true_and, and_true]
  exact add_right_comm_u32 _ _ _

theorem finishFlow_shift :
    finishFlow limits (shiftEntry flow shift entry) nowMs =
      (finishFlow limits entry nowMs).map (shiftEntry flow shift) := by
  unfold finishFlow
  simp only [shiftEntry_frame, rejectFlow_shift]
  split <;> rfl

/-! ## Placing a segment -/

theorem placeBytes_shift (offset : Nat) (payload : Bytes) :
    placeBytes limits (shiftEntry flow shift entry) offset payload =
      (placeBytes limits entry offset payload).mapEntry (shiftEntry flow shift) := by
  unfold placeBytes
  simp only [shiftEntry_frame]
  split
  · rfl
  cases insertPayload entry.window offset payload with
  | none => rfl
  | some placed =>
    dsimp only
    split <;> rfl

/-- Only the distance of a segment from the base matters. -/
theorem placeSegment_shift {packet : PacketView} {entry : StreamEntry}
    (sameKey : entry.key = buildKey packet) :
    placeSegment limits (shiftPacket flow shift packet) (shiftEntry flow shift entry) =
      (placeSegment limits packet entry).mapEntry (shiftEntry flow shift) := by
  have forward : payloadSequence (shiftPacket flow shift packet) -
          (shiftEntry flow shift entry).baseSequence =
        payloadSequence packet - entry.baseSequence := by
    rw [payloadSequence_shiftPacket]
    simp only [shiftEntry, sameKey]
    grind
  have backward : (shiftEntry flow shift entry).baseSequence -
          payloadSequence (shiftPacket flow shift packet) =
        entry.baseSequence - payloadSequence packet := by
    rw [payloadSequence_shiftPacket]
    simp only [shiftEntry, sameKey]
    grind
  unfold placeSegment
  simp only [forward, backward, shiftPacket_frame, placeBytes_shift]
  split
  · split <;> rfl
  split
  · rfl
  · split
    · split <;> rfl
    · rfl

/-! ## The two halves of an admitted segment -/

theorem emitInserted_shift (changed : Bool) :
    emitInserted limits (shiftPacket flow shift packet) nowMs
        (shiftEntry flow shift entry) changed =
      ((emitInserted limits packet nowMs entry changed).1.map (shiftEntry flow shift),
        (emitInserted limits packet nowMs entry changed).2) := by
  unfold emitInserted
  simp only [shiftPacket_frame, shiftEntry_frame, consumePrefix_shift, finishFlow_shift,
    rejectFlow_shift]
  split
  · rfl
  · rfl
  · split <;> rfl
  · split <;> rfl

theorem addToFlow_shift {packet : PacketView} {entry : StreamEntry}
    (sameKey : entry.key = buildKey packet) :
    addToFlow limits (shiftPacket flow shift packet) nowMs (shiftEntry flow shift entry) =
      ((addToFlow limits packet nowMs entry).1.map (shiftEntry flow shift),
        (addToFlow limits packet nowMs entry).2) := by
  unfold addToFlow
  rw [placeSegment_shift limits sameKey]
  cases placeSegment limits packet entry with
  | finished => simp only [Placement.mapEntry, finishFlow_shift]
  | inserted inserted changed => simp only [Placement.mapEntry, emitInserted_shift]
  | _ => rfl

theorem takeInserted_shift (changed : Bool) :
    takeInserted limits (shiftPacket flow shift packet) nowMs
        (shiftEntry flow shift entry) changed =
      ((takeInserted limits packet nowMs entry changed).1.map (shiftEntry flow shift),
        (takeInserted limits packet nowMs entry changed).2) := by
  unfold takeInserted
  simp only [shiftPacket_frame, shiftEntry_frame, consumePrefix_shift, finishFlow_shift]
  split <;> split <;> rfl

theorem addRawToFlow_shift {packet : PacketView} {entry : StreamEntry}
    (sameKey : entry.key = buildKey packet) :
    addRawToFlow limits (shiftPacket flow shift packet) nowMs (shiftEntry flow shift entry) =
      ((addRawToFlow limits packet nowMs entry).1.map (shiftEntry flow shift),
        (addRawToFlow limits packet nowMs entry).2) := by
  unfold addRawToFlow
  rw [placeSegment_shift limits sameKey]
  cases placeSegment limits packet entry with
  | finished => simp only [Placement.mapEntry, finishFlow_shift]
  | inserted inserted changed =>
    simp only [Placement.mapEntry, takeInserted_shift, shiftPacket_frame]
  | _ => rfl

/-! ## The table of flows -/

variable (entries : List (Option StreamEntry))

theorem findFlow_shift (key : StreamKey) :
    findFlow (shiftEntries flow shift entries) key = (findFlow entries key).map fun found =>
        (found.1, shiftEntry flow shift found.2) :=
  @find_relabel _ _ (shiftEntry flow shift) (fun _ => rfl) entries

theorem sourceFlowCount_shift (key : StreamKey) :
    sourceFlowCount (shiftEntries flow shift entries) key = sourceFlowCount entries key :=
  @count_relabel _ _ (shiftEntry flow shift) (fun _ => rfl) entries

theorem expireFlows_shift :
    expireFlows (shiftEntries flow shift entries) nowMs =
      shiftEntries flow shift (expireFlows entries nowMs) :=
  @expire_relabel _ (shiftEntry flow shift) _ (fun _ => rfl) entries

section

theorem openFlow_shift (freeIndex : Option Nat) :
    openFlow limits (shiftEntries flow shift entries) freeIndex
        (shiftPacket flow shift packet) nowMs =
      (openFlow limits entries freeIndex packet nowMs).mapEntry (shiftEntry flow shift) := by
  unfold openFlow
  simp only [shiftPacket_frame, buildKey_shiftPacket, sourceFlowCount_shift,
    payloadSequence_shiftPacket, initializeFlow_shift]
  split
  · cases freeIndex with
    | none => rfl
    | some index =>
      dsimp only
      split <;> rfl
  · rfl

theorem admitPacket_shift :
    admitPacket limits (shiftEntries flow shift entries) (shiftPacket flow shift packet) nowMs =
      (shiftEntries flow shift (admitPacket limits entries packet nowMs).1,
        (admitPacket limits entries packet nowMs).2.mapEntry (shiftEntry flow shift)) := by
  have cleared : ∀ index, (shiftEntries flow shift entries).set index none =
        shiftEntries flow shift (entries.set index none) :=
    fun index => (relabel_set entries index none).symm
  unfold admitPacket
  rw [buildKey_shiftPacket, findFlow_shift]
  cases findFlow entries (buildKey packet) with
  | some found =>
    obtain ⟨index, entry⟩ := found
    simp only [Option.map_some, shiftPacket_frame, shiftEntry_frame, cleared, openFlow_shift]
    split
    · rfl
    · split
      · rfl
      · split <;> rfl
  | none =>
    simp only [Option.map_none, shiftPacket_frame, openFlow_shift, freeIndex_relabel]
    split <;> rfl

theorem addSegment_shift :
    addSegment limits (shiftEntries flow shift entries) (shiftPacket flow shift packet) nowMs =
      (shiftEntries flow shift (addSegment limits entries packet nowMs).1,
        (addSegment limits entries packet nowMs).2) ∧
    addRawSegment limits (shiftEntries flow shift entries) (shiftPacket flow shift packet) nowMs =
      (shiftEntries flow shift (addRawSegment limits entries packet nowMs).1,
        (addRawSegment limits entries packet nowMs).2) := by
  have admits := admitPacket_admits limits (expireFlows entries nowMs) packet nowMs
  unfold addSegment addRawSegment
  rw [expireFlows_shift, admitPacket_shift]
  generalize admitPacket limits (expireFlows entries nowMs) packet nowMs = result at admits ⊢
  obtain ⟨after, admission⟩ := result
  cases admission with
  | admitted index entry newFlow =>
    have sameKey := admits.admitted_entry.1
    simp only [Admission.mapEntry, addToFlow_shift limits nowMs sameKey,
      addRawToFlow_shift limits nowMs sameKey, relabel_set, and_self]
  | _ => simp only [Admission.mapEntry, shiftPacket_frame, and_self]

end

/-! ## The entry points -/

variable (tracker : TcpStreamTracker)

theorem tcpStreamTrackerAdd_shift (outputSize messageCapacity : Nat) :
    tcpStreamTrackerAdd (shiftTracker flow shift tracker)
        (shiftPacket flow shift packet) nowMs outputSize messageCapacity =
      (shiftTracker flow shift (tcpStreamTrackerAdd tracker packet nowMs
        outputSize messageCapacity).1,
        (tcpStreamTrackerAdd tracker packet nowMs outputSize messageCapacity).2) := by
  unfold tcpStreamTrackerAdd
  simp only [shiftPacket_frame, shiftTracker, addSegment_shift]
  split
  · rfl
  · split <;> rfl

theorem tcpStreamTrackerAddRaw_shift (outputSize : Nat) :
    tcpStreamTrackerAddRaw (shiftTracker flow shift tracker)
        (shiftPacket flow shift packet) nowMs outputSize =
      (shiftTracker flow shift (tcpStreamTrackerAddRaw tracker packet nowMs outputSize).1,
        (tcpStreamTrackerAddRaw tracker packet nowMs outputSize).2) := by
  unfold tcpStreamTrackerAddRaw
  simp only [shiftPacket_frame, shiftTracker, addSegment_shift]
  split
  · rfl
  · split <;> rfl

theorem tcpStreamTrackerRejectFlow_shift :
    tcpStreamTrackerRejectFlow (shiftTracker flow shift tracker)
        (shiftPacket flow shift packet) nowMs =
      (shiftTracker flow shift (tcpStreamTrackerRejectFlow tracker packet nowMs).1,
        (tcpStreamTrackerRejectFlow tracker packet nowMs).2) := by
  have sameSequence : (shiftPacket flow shift packet).tcpSequence =
      packet.tcpSequence + shiftOf flow shift (buildKey packet) := rfl
  unfold tcpStreamTrackerRejectFlow
  simp only [shiftPacket_frame, buildKey_shiftPacket, sameSequence]
  split
  · rfl
  cases searched : findFlow (expireFlows tracker.entries nowMs) (buildKey packet) with
  | some found =>
    simp [shiftTracker, expireFlows_shift, findFlow_shift, searched, rejectFlow_shift, relabel_set]
  | none =>
    cases free : freeIndex (expireFlows tracker.entries nowMs) with
    | none =>
      simp [shiftTracker, expireFlows_shift, findFlow_shift, searched, freeIndex_relabel, free]
    | some index =>
      simp only [shiftTracker, expireFlows_shift, findFlow_shift,
        searched, Option.map_none, freeIndex_relabel, free,
        sourceFlowCount_shift, initializeFlow_shift, rejectFlow_shift]
      split
      · rfl
      · simp [relabel_set]

theorem trackerStep_shift (call : TrackerCall) :
    trackerStep (shiftTracker flow shift tracker) (shiftCall flow shift call) =
      (shiftTracker flow shift (trackerStep tracker call).1, (trackerStep tracker call).2) := by
  cases call with
  | add packet nowMs outputSize messageCapacity =>
    simp only [trackerStep, shiftCall, tcpStreamTrackerAdd_shift]
  | addRaw packet nowMs outputSize =>
    simp only [trackerStep, shiftCall, tcpStreamTrackerAddRaw_shift]
  | rejectFlow packet nowMs => simp only [trackerStep, shiftCall, tcpStreamTrackerRejectFlow_shift]

/-- Adding a constant to all sequence numbers of one flow changes no answer. -/
theorem sequence_shift_invariant {limits : TcpStreamLimits} {tracker : TcpStreamTracker}
    (created : tcpStreamTrackerCreate limits = .ok tracker)
    (flow : StreamKey) (shift : UInt32) (calls : List TrackerCall) :
    (run trackerStep tracker (calls.map (shiftCall flow shift))).map Event.answer =
      (run trackerStep tracker calls).map Event.answer := by
  have unmoved : shiftTracker flow shift tracker = tracker := by
    simp only [shiftTracker, (tcpStreamTrackerCreate_ok created).2, relabel_replicate]
    rw [← (tcpStreamTrackerCreate_ok created).2]
  have inStep := answers_of_respects (@trackerStep_shift flow shift) tracker calls
  rw [unmoved] at inStep
  exact inStep

/-- With this shift the sequence numbers of the message wrap around. -/
theorem sequence_shift_invariant_wrapped : (run trackerStep smallTracker
        (((resentSegment 53).map segmentCall).map
          (shiftCall (buildKey (segmentInput 53 0 0 []).packet) 0xfffffff9))).map Event.answer =
      [.added (.ok .buffered), .added (.ok (.messages [[7, 0, 0, 0, 0, 0, 0, 0, 0, 0, 0, 0]])),
        .added (.ok .duplicate)] := by
  have created : tcpStreamTrackerCreate smallTracker.limits = .ok smallTracker := rfl
  rw [sequence_shift_invariant created]
  decide +kernel

end TcpStream

end JanusGate
