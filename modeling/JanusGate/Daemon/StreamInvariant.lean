import JanusGate.Daemon.TcpStream
import JanusGate.Foundation.QuotaTable
import JanusGate.Foundation.Runs

/-!
# What the stream tracker keeps

Every entry point of the tracker first expires flows and then changes at most
the slot that the flow of its packet owns (`FlowWrite`).  Uniqueness of keys,
the bound on flows of one source and the frame rule for other flows follow
from that alone.
-/

namespace JanusGate

open SlotTable TcpStream

section Flows

variable {packet : PacketView} {entries : List (Option StreamEntry)} {nowMs : Nat}

namespace TcpStream

abbrev liveFlows (entries : List (Option StreamEntry)) (nowMs : Nat) : List (Option StreamEntry) :=
  expireFlows entries nowMs

def Absent (live : List (Option StreamEntry)) (key : StreamKey) : Prop :=
  ∀ index entry, At live index entry → entry.key ≠ key

/-- Slot `index` holds the flow of the key, or is free for a new one. -/
def OwnsFlow (limits : TcpStreamLimits) (live : List (Option StreamEntry))
    (key : StreamKey) (index : Nat) : Prop :=
  (∃ entry, At live index entry ∧ entry.key = key) ∨
    (live[index]? = some none ∧ Absent live key ∧
      sourceFlowCount live key < limits.maxFlowsPerSource)

def FlowWrite (limits : TcpStreamLimits) (live : List (Option StreamEntry))
    (key : StreamKey) (after : List (Option StreamEntry)) : Prop :=
  after = live ∨ ∃ index slot, OwnsFlow limits live key index ∧
      (∀ entry ∈ slot, entry.key = key) ∧ after = live.set index slot

/-- Keys are unique and no source has more flows than it may. -/
structure FlowsWf (limits : TcpStreamLimits) (entries : List (Option StreamEntry)) : Prop where
  unique : Unique StreamEntry.key entries
  bounded : ∀ key, sourceFlowCount entries key ≤ limits.maxFlowsPerSource

/-! ## The table of flows as a table with a quota for every source -/

/-- No source may have more flows than the limit. -/
def flowQuota (limits : TcpStreamLimits) : Quota StreamEntry StreamKey where
  keyOf := StreamEntry.key
  sameGroup := sourcesEqual
  limit := limits.maxFlowsPerSource
  refl := fun key => by simp [sourcesEqual]
  congr := fun left right same key => by
    simp only [sourcesEqual, Bool.and_eq_true, beq_iff_eq] at same
    simp only [sourcesEqual, same.1, same.2]

variable {limits : TcpStreamLimits} {key : StreamKey} {index : Nat} {entry : StreamEntry}

theorem flowsWf_iff : FlowsWf limits entries ↔ (flowQuota limits).Wf entries :=
  ⟨fun wf => ⟨wf.unique, wf.bounded⟩, fun wf => ⟨wf.unique, wf.bounded⟩⟩

theorem FlowWrite.quota (write : FlowWrite limits live key after) :
    (flowQuota limits).Write live key after :=
  write

section

variable (owns : OwnsFlow limits live key index)

include owns

theorem OwnsFlow.quota : (flowQuota limits).Owns live key index := owns

theorem OwnsFlow.lt_length : index < live.length := owns.quota.lt_length

theorem OwnsFlow.alone (unique : Unique StreamEntry.key live) :
    ∀ other entry, At live other entry → entry.key = key → other = index :=
  owns.quota.alone unique

theorem OwnsFlow.room (wf : FlowsWf limits live) :
    sourceFlowCount (live.set index none) key < limits.maxFlowsPerSource :=
  owns.quota.room (flowsWf_iff.mp wf)

end

theorem FlowsWf.live (wf : FlowsWf limits entries) (nowMs : Nat) :
    FlowsWf limits (liveFlows entries nowMs) :=
  flowsWf_iff.mpr ((flowsWf_iff.mp wf).expire _)

theorem FlowWrite.wf (write : FlowWrite limits live key after) (wf : FlowsWf limits live) :
    FlowsWf limits after :=
  flowsWf_iff.mpr (write.quota.wf (flowsWf_iff.mp wf))

theorem FlowWrite.frame (write : FlowWrite limits live key after) (different : entry.key ≠ key) :
    At after index entry ↔ At live index entry :=
  write.quota.frame different

/-! ## Finding or opening the flow of a packet -/

/-- Everything `admitPacket` can do with the live flows. -/
inductive Admits (limits : TcpStreamLimits)
    (live : List (Option StreamEntry)) (packet : PacketView) (nowMs : Nat) :
    List (Option StreamEntry) → Admission → Prop
  | resetFlow {index : Nat} {entry : StreamEntry} (holds : At live index entry)
      (sameKey : entry.key = buildKey packet) (rst : isRst packet = true) :
      Admits limits live packet nowMs (live.set index none) (.reset (some index))
  | resetNone (absent : Absent live (buildKey packet)) (rst : isRst packet = true) :
      Admits limits live packet nowMs live (.reset none)
  | conflict {index : Nat} {entry : StreamEntry} (holds : At live index entry)
      (sameKey : entry.key = buildKey packet) (noRst : isRst packet = false)
      (noSyn : isSyn packet = false) (rejected : entry.rejected = true) :
      Admits limits live packet nowMs live .conflict
  | continued {index : Nat} {entry : StreamEntry} (holds : At live index entry)
      (sameKey : entry.key = buildKey packet) (noRst : isRst packet = false)
      (noSyn : isSyn packet = false) (alive : entry.rejected = false) :
      Admits limits live packet nowMs live (.admitted index
          { entry with idleDeadline := deadline nowMs limits.idleTimeoutMs }
          false)
  | reopened {index : Nat} {entry : StreamEntry} (holds : At live index entry)
      (sameKey : entry.key = buildKey packet) (noRst : isRst packet = false)
      (syn : isSyn packet = true) :
      Admits limits live packet nowMs (live.set index none) (.admitted index
          (initializeFlow limits (buildKey packet) (payloadSequence packet) nowMs) true)
  | reopenFull {index : Nat} {entry : StreamEntry} (holds : At live index entry)
      (sameKey : entry.key = buildKey packet) (noRst : isRst packet = false)
      (syn : isSyn packet = true) :
      Admits limits live packet nowMs (live.set index none) .exhausted
  | opened {index : Nat} (absent : Absent live (buildKey packet)) (noRst : isRst packet = false)
      (opens : packet.payloadSize ≠ 0 ∨ isSyn packet = true) (free : live[index]? = some none)
      (room : sourceFlowCount live (buildKey packet) < limits.maxFlowsPerSource) :
      Admits limits live packet nowMs live (.admitted index
          (initializeFlow limits (buildKey packet) (payloadSequence packet) nowMs) true)
  | openFull (absent : Absent live (buildKey packet)) (noRst : isRst packet = false) :
      Admits limits live packet nowMs live .exhausted
  | noFlow (absent : Absent live (buildKey packet))
      (noRst : isRst packet = false) (noSyn : isSyn packet = false)
      (noPayload : packet.payloadSize = 0) :
      Admits limits live packet nowMs live .noFlow

theorem findFlow_absent (missing : findFlow live key = none) : Absent live key := by
  intro index entry holds
  have differs := find_none missing holds
  simpa using differs

theorem findFlow_spec (found : findFlow live key = some (index, entry)) :
    At live index entry ∧ entry.key = key := by
  obtain ⟨holds, passes⟩ := find_at found
  exact ⟨holds, by simpa using passes⟩

theorem admitPacket_admits (limits : TcpStreamLimits) (live : List (Option StreamEntry))
    (packet : PacketView) (nowMs : Nat) :
    Admits limits live packet nowMs (admitPacket limits live packet nowMs).1
      (admitPacket limits live packet nowMs).2 := by
  unfold admitPacket
  cases searched : findFlow live (buildKey packet) with
  | some found =>
    obtain ⟨index, entry⟩ := found
    obtain ⟨holds, sameKey⟩ := findFlow_spec searched
    dsimp only
    cases rst : isRst packet with
    | true => exact .resetFlow holds sameKey rst
    | false =>
      cases syn : isSyn packet with
      | true =>
        simp only [Bool.false_eq_true, if_false, if_true, openFlow, syn, or_true]
        split
        · exact .reopenFull holds sameKey rst syn
        · exact .reopened holds sameKey rst syn
      | false =>
        by_cases rejected : entry.rejected = true
        · rw [if_pos rejected]
          exact .conflict holds sameKey rst syn rejected
        · rw [if_neg rejected]
          exact .continued holds sameKey rst syn (by simpa using rejected)
  | none =>
    have absent := findFlow_absent searched
    cases rst : isRst packet with
    | true => exact .resetNone absent rst
    | false =>
      simp only [Bool.false_eq_true, if_false]
      unfold openFlow
      by_cases opens : packet.payloadSize ≠ 0 ∨ isSyn packet = true
      · rw [if_pos opens]
        cases free : freeIndex live with
        | none => exact .openFull absent rst
        | some index =>
          dsimp only
          split
          · exact .openFull absent rst
          · exact .opened absent rst opens (freeIndex_spec free) (by omega)
      · rw [if_neg opens]
        push Not at opens
        exact .noFlow absent rst (by simpa using opens.2) opens.1

theorem admitPacket_present (unique : Unique StreamEntry.key live) (holds : At live index entry)
    (sameKey : entry.key = buildKey packet) (noSyn : isSyn packet = false)
    (noRst : isRst packet = false) :
    admitPacket limits live packet nowMs = (live, if entry.rejected then .conflict
      else .admitted index { entry with idleDeadline := deadline nowMs limits.idleTimeoutMs }
        false) := by
  have found : findFlow live (buildKey packet) = some (index, entry) := by
    rw [← sameKey]
    exact unique.find_eq holds
  simp only [admitPacket, found, noRst, noSyn, Bool.false_eq_true, if_false]
  split <;> rfl

section

variable (admits : Admits limits live packet nowMs after (.admitted index entry newFlow))

include admits

theorem Admits.admitted_entry : entry.key = buildKey packet ∧ entry.rejected = false := by
  cases admits with
  | continued _ sameKey _ _ alive => exact ⟨sameKey, alive⟩
  | reopened | opened => exact ⟨rfl, rfl⟩

theorem Admits.admitted_slot (slot : Option StreamEntry) :
    OwnsFlow limits live (buildKey packet) index ∧ after.set index slot = live.set index slot := by
  cases admits with
  | continued holds sameKey => exact ⟨.inl ⟨_, holds, sameKey⟩, rfl⟩
  | reopened holds sameKey => exact ⟨.inl ⟨_, holds, sameKey⟩, by rw [List.set_set]⟩
  | opened absent _ _ free room => exact ⟨.inr ⟨free, absent, room⟩, rfl⟩

end

section

variable (admits : Admits limits live packet nowMs after admission)

include admits

theorem Admits.write : FlowWrite limits live (buildKey packet) after := by
  have cleared : ∀ {index entry}, At live index entry → entry.key = buildKey packet →
        FlowWrite limits live (buildKey packet) (live.set index none) :=
    fun holds sameKey => .inr ⟨_, none, .inl ⟨_, holds, sameKey⟩, by simp, rfl⟩
  cases admits with
  | resetFlow holds sameKey => exact cleared holds sameKey
  | reopened holds sameKey | reopenFull holds sameKey => exact cleared holds sameKey
  | _ => exact .inl rfl

theorem Admits.not_admitted_at (index : Nat) (entry : StreamEntry) (holds : At after index entry) :
    At live index entry := by
  have cleared : ∀ {position owner}, At live position owner →
      At (live.set position none) index entry → At live index entry := by
    intro position owner there holds
    rw [at_set_iff there.lt_length] at holds
    rcases holds with ⟨_, impossible⟩ | ⟨_, before⟩
    · cases impossible
    · exact before
  cases admits with
  | resetFlow there | reopened there | reopenFull there => exact cleared there holds
  | _ => exact holds

end

/-! ## The entry points -/

/-- At its distance ahead of the base, or at the base without the bytes before it. -/
inductive Aligned (packet : PacketView) (entry : StreamEntry) : Nat → Nat → Prop
  | ahead (within : payloadSequence packet - entry.baseSequence ≤ 0x7fffffff) :
      Aligned packet entry (payloadSequence packet - entry.baseSequence).toNat 0
  | behind (before : ¬ payloadSequence packet - entry.baseSequence ≤ 0x7fffffff)
      (longer : (entry.baseSequence - payloadSequence packet).toNat <
        (payloadBytes packet).length) :
      Aligned packet entry 0 (entry.baseSequence - payloadSequence packet).toNat

/-- What placing a segment can lead to. -/
inductive Placing (limits : TcpStreamLimits) (packet : PacketView) (entry : StreamEntry) :
    Placement → Prop
  | finished : Placing limits packet entry .finished
  | conflict : Placing limits packet entry .conflict
  | exhausted : Placing limits packet entry .exhausted
  | empty (noPayload : packet.payloadSize = 0) : Placing limits packet entry .empty
  | consumed (before : ¬ payloadSequence packet - entry.baseSequence ≤ 0x7fffffff)
      (covered : (payloadBytes packet).length ≤
        (entry.baseSequence - payloadSequence packet).toNat) :
      Placing limits packet entry .consumed
  | inserted (aligned : Aligned packet entry offset trimmed)
      (result : insertPayload entry.window offset ((payloadBytes packet).drop trimmed) =
        some (window, changed))
      (fits : offset + ((payloadBytes packet).drop trimmed).length ≤ limits.maxBufferedBytes)
      (few : rangeCount false window ≤ limits.maxOutOfOrderSegments) :
      Placing limits packet entry (.inserted { entry with window := window } changed)

theorem placeBytes_placing (aligned : Aligned packet entry offset trimmed) :
    Placing limits packet entry
      (placeBytes limits entry offset ((payloadBytes packet).drop trimmed)) := by
  unfold placeBytes
  split
  · exact .exhausted
  case isFalse fits =>
    split
    · exact .conflict
    case h_2 window changed result =>
      split
      · exact .exhausted
      case isFalse few =>
        have bounds : offset ≤ limits.maxBufferedBytes ∧ ((payloadBytes packet).drop
            trimmed).length ≤ limits.maxBufferedBytes - offset := by
          simpa using fits
        exact .inserted aligned result (by omega) (Nat.le_of_not_lt few)

theorem placeSegment_placing (placed : placeSegment limits packet entry = placement) :
    Placing limits packet entry placement := by
  subst placed
  unfold placeSegment
  split
  case isTrue noPayload =>
    split
    · exact .finished
    · exact .empty noPayload
  case isFalse =>
    dsimp only
    split
    case isTrue within => exact placeBytes_placing (.ahead within)
    case isFalse before =>
      split
      case isTrue covered =>
        split
        · exact .finished
        · exact .consumed before covered
      case isFalse longer => exact placeBytes_placing (.behind before (by omega))

/-- What a placed segment can leave in the slot of its flow. -/
inductive FlowLeft (limits : TcpStreamLimits) (packet : PacketView) (nowMs : Nat)
    (entry : StreamEntry) : Option StreamEntry → Prop
  | cleared : FlowLeft limits packet nowMs entry none
  | rejected (sameKey : other.key = entry.key) :
      FlowLeft limits packet nowMs entry (some (rejectFlow limits other nowMs))
  | same : FlowLeft limits packet nowMs entry (some entry)
  | kept (placing : Placing limits packet entry (.inserted inserted changed)) :
      FlowLeft limits packet nowMs entry (some inserted)
  | taken (placing : Placing limits packet entry (.inserted inserted changed)) (count : Nat) :
      FlowLeft limits packet nowMs entry (some (consumePrefix inserted count))

theorem FlowLeft.finish (sameKey : other.key = entry.key) :
    FlowLeft limits packet nowMs entry (finishFlow limits other nowMs) := by
  unfold finishFlow
  split
  · exact .rejected sameKey
  · exact .cleared

theorem Placing.same_key {inserted : StreamEntry}
    (placing : Placing limits packet entry (.inserted inserted changed)) :
    inserted.key = entry.key := by
  cases placing
  rfl

theorem FlowLeft.same_key (left : FlowLeft limits packet nowMs entry slot) :
    ∀ kept ∈ slot, kept.key = entry.key := by
  rintro kept member
  cases left with
  | cleared => cases member
  | rejected sameKey => cases member; exact sameKey
  | same => cases member; rfl
  | kept placing | taken placing => cases member; exact placing.same_key

theorem Admits.write_left
    (admits : Admits limits live packet nowMs after (.admitted index entry newFlow))
    (left : FlowLeft limits packet nowMs entry slot) :
    FlowWrite limits live (buildKey packet) (after.set index slot) := by
  obtain ⟨owns, same⟩ := admits.admitted_slot slot
  refine .inr ⟨index, _, owns, ?_, same⟩
  rw [← admits.admitted_entry.1]
  exact left.same_key

variable (limits : TcpStreamLimits)

section

variable (packet : PacketView) (nowMs : Nat) (entry : StreamEntry)

theorem addToFlow_left :
    FlowLeft limits packet nowMs entry (addToFlow limits packet nowMs entry).1 := by
  unfold addToFlow
  cases placed : placeSegment limits packet entry with
  | finished => exact .finish rfl
  | empty | consumed => exact .same
  | conflict | exhausted => exact .rejected rfl
  | inserted inserted changed =>
    have placing := placeSegment_placing placed
    unfold emitInserted
    dsimp only
    split
    · exact .rejected placing.same_key
    · exact .rejected placing.same_key
    · split
      · exact .finish placing.same_key
      · exact .kept placing
    · split
      · exact .finish placing.same_key
      · exact .taken placing _

theorem addRawToFlow_left :
    FlowLeft limits packet nowMs entry (addRawToFlow limits packet nowMs entry).1 := by
  unfold addRawToFlow
  cases placed : placeSegment limits packet entry with
  | finished => exact .finish rfl
  | empty | consumed => exact .same
  | conflict | exhausted => exact .rejected rfl
  | inserted inserted changed =>
    have placing := placeSegment_placing placed
    unfold takeInserted
    dsimp only
    split
    · split
      · exact .finish placing.same_key
      · exact .taken placing _
    · split
      · exact .finish placing.same_key
      · exact .kept placing

end

variable (entries : List (Option StreamEntry)) (packet : PacketView) (nowMs : Nat)

theorem addSegment_eq :
    ∃ after admission, Admits limits (liveFlows entries nowMs) packet nowMs after admission ∧
      addSegment limits entries packet nowMs = match admission with
        | .reset _ => (after, .closed)
        | .conflict => (after, .conflict)
        | .exhausted => (after, .exhausted)
        | .noFlow => (after, if isFin packet then .closed else .duplicate)
        | .admitted index entry _ =>
          (after.set index (addToFlow limits packet nowMs entry).1,
            (addToFlow limits packet nowMs entry).2) := by
  refine ⟨_, _, admitPacket_admits limits (liveFlows entries nowMs) packet nowMs, ?_⟩
  unfold addSegment
  rcases admitPacket limits (liveFlows entries nowMs) packet nowMs with ⟨after, admission⟩
  cases admission <;> rfl

theorem addRawSegment_eq :
    ∃ after admission, Admits limits (liveFlows entries nowMs) packet nowMs after admission ∧
      addRawSegment limits entries packet nowMs = match admission with
        | .reset flowIndex => (after, { flowIndex := flowIndex }, .closed)
        | .conflict => (after, {}, .conflict)
        | .exhausted => (after, {}, .exhausted)
        | .noFlow => (after, {}, if isFin packet then .closed else .duplicate)
        | .admitted index entry newFlow =>
          let flow := addRawToFlow limits packet nowMs entry
          (after.set index flow.1,
            { flowIndex := some index, output := flow.2.1,
              newFlow := newFlow, closed := flow.2.2.1 }, flow.2.2.2) := by
  refine ⟨_, _, admitPacket_admits limits (liveFlows entries nowMs) packet nowMs, ?_⟩
  unfold addRawSegment
  rcases admitPacket limits (liveFlows entries nowMs) packet nowMs with ⟨after, admission⟩
  cases admission <;> rfl

theorem addSegment_write : FlowWrite limits (liveFlows entries nowMs) (buildKey packet)
      (addSegment limits entries packet nowMs).1 := by
  obtain ⟨after, admission, admits, result⟩ := addSegment_eq limits entries packet nowMs
  rw [result]
  cases admission with
  | admitted index entry newFlow =>
    exact admits.write_left (addToFlow_left limits packet nowMs entry)
  | _ => exact admits.write

theorem addRawSegment_write : FlowWrite limits (liveFlows entries nowMs) (buildKey packet)
      (addRawSegment limits entries packet nowMs).1 := by
  obtain ⟨after, admission, admits, result⟩ := addRawSegment_eq limits entries packet nowMs
  rw [result]
  cases admission with
  | admitted index entry newFlow =>
    exact admits.write_left (addRawToFlow_left limits packet nowMs entry)
  | _ => exact admits.write

end TcpStream

/-! ## Writes of a tracker -/

/-- The effect of one call on a tracker: nothing, or one write to the flows
that are live at its time. -/
def TrackerWrite (tracker : TcpStreamTracker) (key : StreamKey) (nowMs : Nat)
    (after : TcpStreamTracker) : Prop :=
  after = tracker ∨ after.limits = tracker.limits ∧
      FlowWrite tracker.limits (liveFlows tracker.entries nowMs) key after.entries

variable {tracker after : TcpStreamTracker} {key : StreamKey} {index : Nat}
  {limits : TcpStreamLimits} {entry : StreamEntry}

section

variable (write : TrackerWrite tracker key nowMs after)

include write

theorem TrackerWrite.limits_eq : after.limits = tracker.limits := by
  rcases write with rfl | ⟨same, _⟩
  · rfl
  · exact same

theorem TrackerWrite.wf (wf : FlowsWf tracker.limits tracker.entries) :
    FlowsWf after.limits after.entries := by
  rcases write with rfl | ⟨same, written⟩
  · exact wf
  · rw [same]
    exact written.wf (wf.live nowMs)

theorem TrackerWrite.length_eq : after.entries.length = tracker.entries.length := by
  rcases write with rfl | ⟨_, same | ⟨_, _, _, _, same⟩⟩
  · rfl
  · rw [same]
    exact expire_length _ _
  · rw [same, List.length_set]
    exact expire_length _ _

theorem TrackerWrite.before (different : entry.key ≠ key) (holds : At after.entries index entry) :
    At tracker.entries index entry := by
  rcases write with rfl | ⟨_, written⟩
  · exact holds
  · exact (at_expire_iff.mp ((written.frame different).mp holds)).1

theorem TrackerWrite.keeps (different : entry.key ≠ key) (holds : At tracker.entries index entry)
    (fresh : flowExpired nowMs entry = false) : At after.entries index entry := by
  rcases write with rfl | ⟨_, written⟩
  · exact holds
  · exact (written.frame different).mpr (at_expire_iff.mpr ⟨holds, fresh⟩)

end

section

variable (tracker : TcpStreamTracker) (packet : PacketView)

theorem tcpStreamTrackerAdd_write (nowMs outputSize messageCapacity : Nat) :
    TrackerWrite tracker (buildKey packet) nowMs
      (tcpStreamTrackerAdd tracker packet nowMs outputSize messageCapacity).1 := by
  unfold tcpStreamTrackerAdd
  split
  · exact .inl rfl
  · split
    · exact .inl rfl
    · exact .inr ⟨rfl, addSegment_write _ _ _ _⟩

theorem tcpStreamTrackerAddRaw_write (nowMs outputSize : Nat) :
    TrackerWrite tracker (buildKey packet) nowMs
      (tcpStreamTrackerAddRaw tracker packet nowMs outputSize).1 := by
  unfold tcpStreamTrackerAddRaw
  split
  · exact .inl rfl
  · split
    · exact .inl rfl
    · exact .inr ⟨rfl, addRawSegment_write _ _ _ _⟩

theorem tcpStreamTrackerRejectFlow_write (nowMs : Nat) :
    TrackerWrite tracker (buildKey packet) nowMs
      (tcpStreamTrackerRejectFlow tracker packet nowMs).1 := by
  unfold tcpStreamTrackerRejectFlow
  split
  · exact .inl rfl
  right
  dsimp only
  cases searched : findFlow (expireFlows tracker.entries nowMs) (buildKey packet) with
  | some found =>
    obtain ⟨index, entry⟩ := found
    obtain ⟨holds, sameKey⟩ := findFlow_spec searched
    refine ⟨rfl, .inr ⟨index, _, .inl ⟨entry, holds, sameKey⟩, ?_, rfl⟩⟩
    rintro left same
    cases same
    exact sameKey
  | none =>
    cases free : freeIndex (expireFlows tracker.entries nowMs) with
    | none => exact ⟨rfl, .inl rfl⟩
    | some index =>
      dsimp only
      split
      case isTrue => exact ⟨rfl, .inl rfl⟩
      case isFalse space =>
        refine ⟨rfl, .inr ⟨index, _, .inr
          ⟨freeIndex_spec free, findFlow_absent searched, Nat.lt_of_not_le space⟩, ?_, rfl⟩⟩
        rintro left same
        cases same
        rfl

end

theorem created_flowsWf (created : tcpStreamTrackerCreate limits = .ok tracker) :
    FlowsWf tracker.limits tracker.entries := by
  rw [(tcpStreamTrackerCreate_ok created).2]
  exact flowsWf_iff.mpr (Quota.wf_replicate _)

theorem created_empty (created : tcpStreamTrackerCreate limits = .ok tracker)
    (index : Nat) (entry : StreamEntry) :
    ¬ At tracker.entries index entry := by
  rw [(tcpStreamTrackerCreate_ok created).2]
  exact not_at_replicate

/-! ## What every flow satisfies -/

/-- A property of new and rejected flows that does not depend on the idle deadline. -/
structure FlowProperty (limits : TcpStreamLimits) (P : StreamEntry → Prop) : Prop where
  opened : ∀ key sequence nowMs, P (initializeFlow limits key sequence nowMs)
  rejected : ∀ entry nowMs, P (rejectFlow limits entry nowMs)
  touched : ∀ entry idleDeadline, P entry → P { entry with idleDeadline := idleDeadline }

section

theorem forall_live {P : StreamEntry → Prop}
    (every : ∀ index entry, At entries index entry → P entry) (nowMs : Nat) :
    ∀ index entry, At (liveFlows entries nowMs) index entry → P entry :=
  fun index entry holds => every index entry (at_expire_iff.mp holds).1

theorem FlowProperty.admitted {live after : List (Option StreamEntry)}
    (property : FlowProperty limits P)
    (admits : Admits limits live packet nowMs after (.admitted index entry newFlow))
    (every : ∀ index entry, At live index entry → P entry) : P entry := by
  cases admits with
  | continued holds => exact property.touched _ _ (every _ _ holds)
  | reopened | opened => exact property.opened _ _ _

variable (property : FlowProperty tracker.limits P)
  (every : ∀ index entry, At tracker.entries index entry → P entry)

include property every

theorem FlowProperty.add (outputSize messageCapacity : Nat)
    (left : ∀ entry, P entry → ∀ kept ∈ (addToFlow tracker.limits packet nowMs entry).1, P kept) :
    ∀ index entry, At (tcpStreamTrackerAdd tracker packet nowMs outputSize
      messageCapacity).1.entries index entry → P entry := by
  unfold tcpStreamTrackerAdd
  split
  · exact every
  split
  · exact every
  have live := forall_live every nowMs
  obtain ⟨after, admission, admits, result⟩ :=
    addSegment_eq tracker.limits tracker.entries packet nowMs
  rw [result]
  cases admission with
  | admitted =>
    dsimp only
    rw [(admits.admitted_slot _).2]
    exact forall_at_set live (left _ (property.admitted admits live))
  | _ => exact fun index entry holds => live index entry (admits.not_admitted_at index entry holds)

theorem FlowProperty.addRaw (outputSize : Nat) (left : ∀ entry, P entry →
      ∀ kept ∈ (addRawToFlow tracker.limits packet nowMs entry).1, P kept) :
    ∀ index entry, At (tcpStreamTrackerAddRaw tracker packet nowMs outputSize).1.entries index
      entry → P entry := by
  unfold tcpStreamTrackerAddRaw
  split
  · exact every
  split
  · exact every
  have live := forall_live every nowMs
  obtain ⟨after, admission, admits, result⟩ :=
    addRawSegment_eq tracker.limits tracker.entries packet nowMs
  rw [result]
  cases admission with
  | admitted =>
    dsimp only
    rw [(admits.admitted_slot _).2]
    exact forall_at_set live (left _ (property.admitted admits live))
  | _ => exact fun index entry holds => live index entry (admits.not_admitted_at index entry holds)

theorem FlowProperty.rejectFlow (packet : PacketView) (nowMs : Nat) :
    ∀ index entry, At (tcpStreamTrackerRejectFlow tracker packet nowMs).1.entries index
      entry → P entry := by
  have live := forall_live every nowMs
  have written : ∀ entry left, some (TcpStream.rejectFlow tracker.limits entry nowMs) = some left →
      P left := by
    rintro entry _ ⟨⟩
    exact property.rejected entry nowMs
  unfold tcpStreamTrackerRejectFlow
  split
  · exact every
  dsimp only
  split
  · exact forall_at_set live (written _)
  split
  · exact live
  · split
    · exact live
    · exact forall_at_set live (written _)

end

/-! ## Rejected flows -/

def HoldsRejected (tracker : TcpStreamTracker) (key : StreamKey) : Prop :=
  ∃ index entry, At tracker.entries index entry ∧ entry.key = key ∧ entry.rejected = true

/-- A call at this time expires no flow of the key. -/
def Unexpired (tracker : TcpStreamTracker) (key : StreamKey) (nowMs : Nat) : Prop :=
  ∀ slot ∈ tracker.entries, ∀ entry ∈ slot, entry.key = key → flowExpired nowMs entry = false
  deriving Decidable

theorem addSegment_rejected {limits : TcpStreamLimits} {index : Nat}
    (unique : Unique StreamEntry.key entries) (holds : At (liveFlows entries nowMs) index entry)
    (sameKey : entry.key = buildKey packet) (rejected : entry.rejected = true)
    (noSyn : isSyn packet = false) (noRst : isRst packet = false) :
    addSegment limits entries packet nowMs = (liveFlows entries nowMs, .conflict) := by
  have admitted := @admitPacket_present packet nowMs limits _ _ (expireFlows entries nowMs)
    (unique.expire _) holds sameKey noSyn noRst
  rw [if_pos rejected] at admitted
  unfold addSegment
  rw [admitted]

theorem tcpStreamTrackerRejectFlow_owned (valid : packetValidForPort packet 53 = true)
    (inside : index < tracker.entries.length)
    (alone : ∀ entry, At tracker.entries index entry → entry.key = buildKey packet)
    (room : sourceFlowCount (tracker.entries.set index none)
      (buildKey packet) < tracker.limits.maxFlowsPerSource) :
    (tcpStreamTrackerRejectFlow tracker packet nowMs).2 = 0 ∧ ∃ position entry, At
          (tcpStreamTrackerRejectFlow tracker packet nowMs).1.entries
          position entry ∧
        entry.key = buildKey packet ∧ entry.rejected = true := by
  unfold tcpStreamTrackerRejectFlow
  rw [if_neg (by simp [valid])]
  dsimp only
  cases searched : findFlow (expireFlows tracker.entries nowMs) (buildKey packet) with
  | some found =>
    obtain ⟨position, entry⟩ := found
    obtain ⟨holds, sameKey⟩ := findFlow_spec searched
    refine ⟨rfl, position, _, (at_set_iff holds.lt_length).mpr (.inl ⟨rfl, rfl⟩), sameKey, rfl⟩
  | none =>
    have absent := findFlow_absent searched
    have free : (expireFlows tracker.entries nowMs)[index]? = some none := by
      have bound : index < (expireFlows tracker.entries nowMs).length := by
        simpa [expireFlows] using inside
      rw [List.getElem?_eq_getElem bound]
      cases slot : (expireFlows tracker.entries nowMs)[index] with
      | none => rfl
      | some entry =>
        have holds : At (expireFlows tracker.entries nowMs) index entry := by
          rw [At, List.getElem?_eq_getElem bound, slot]
        exact absurd (alone entry (at_expire_iff.mp holds).1) (absent index entry holds)
    obtain ⟨position, found⟩ := freeIndex_of_free free
    have bound : position < (expireFlows tracker.entries nowMs).length :=
      (List.getElem?_eq_some_iff.mp (freeIndex_spec found)).1
    have counted : sourceFlowCount (expireFlows tracker.entries nowMs)
        (buildKey packet) < tracker.limits.maxFlowsPerSource := by
      have exchange := count_set (fun other => sourcesEqual other.key (buildKey packet)) none free
      have fewer := count_expire_le
        (fun other => sourcesEqual other.key (buildKey packet))
        (flowExpired nowMs) (tracker.entries.set index none)
      rw [expire_set_none] at fewer
      unfold sourceFlowCount at room ⊢
      unfold expireFlows at exchange ⊢
      omega
    rw [found]
    dsimp only
    rw [if_neg (by omega)]
    exact ⟨rfl, position, _, (at_set_iff bound).mpr (.inl ⟨rfl, rfl⟩), rfl, rfl⟩

/-- A segment that completes messages leaves its source room to reject the flow. -/
theorem addSegment_messages_room (wf : FlowsWf limits entries)
    (answered : (addSegment limits entries packet nowMs).2 = .messages messages) :
    ∃ index, index < (addSegment limits entries packet nowMs).1.length ∧
      (∀ entry, At (addSegment limits entries packet nowMs).1 index
        entry → entry.key = buildKey packet) ∧
      sourceFlowCount ((addSegment limits entries packet nowMs).1.set index none)
        (buildKey packet) < limits.maxFlowsPerSource := by
  obtain ⟨after, admission, admits, result⟩ := addSegment_eq limits entries packet nowMs
  rw [result] at answered ⊢
  cases admission with
  | admitted index entry newFlow =>
    obtain ⟨owns, same⟩ := admits.admitted_slot (addToFlow limits packet nowMs entry).1
    have inside := owns.lt_length
    dsimp only
    rw [same]
    refine ⟨index, by simpa using inside, ?_, ?_⟩
    · intro left holds
      rcases (at_set_iff inside).mp holds with ⟨_, kept⟩ | ⟨elsewhere, _⟩
      · rw [← admits.admitted_entry.1]
        exact (addToFlow_left limits packet nowMs entry).same_key left kept
      · exact absurd rfl elsewhere
    · rw [List.set_set]
      exact owns.room (wf.live nowMs)
  | noFlow =>
    dsimp only at answered
    split at answered <;> cases answered
  | _ => cases answered

end Flows

/-! ## Calls of the entry points -/

namespace TcpStream

inductive TrackerCall where
  | add (packet : PacketView) (nowMs outputSize messageCapacity : Nat)
  | addRaw (packet : PacketView) (nowMs outputSize : Nat)
  | rejectFlow (packet : PacketView) (nowMs : Nat)

inductive TrackerAnswer where
  | added (answer : Except Int TcpStreamResult)
  | addedRaw (answer : Except Int (TcpRawStreamChunk × TcpRawStreamResult))
  | rejectedFlow (status : Int)
  deriving DecidableEq

def TrackerCall.packet : TrackerCall → PacketView
  | .add packet _ _ _ => packet
  | .addRaw packet _ _ => packet
  | .rejectFlow packet _ => packet

def TrackerCall.nowMs : TrackerCall → Nat
  | .add _ nowMs _ _ => nowMs
  | .addRaw _ nowMs _ => nowMs
  | .rejectFlow _ nowMs => nowMs

def trackerStep (tracker : TcpStreamTracker) : TrackerCall → TcpStreamTracker × TrackerAnswer
  | .add packet nowMs outputSize messageCapacity =>
    let (after, answer) := tcpStreamTrackerAdd tracker packet nowMs outputSize messageCapacity
    (after, .added answer)
  | .addRaw packet nowMs outputSize =>
    let (after, answer) := tcpStreamTrackerAddRaw tracker packet nowMs outputSize
    (after, .addedRaw answer)
  | .rejectFlow packet nowMs =>
    let (after, status) := tcpStreamTrackerRejectFlow tracker packet nowMs
    (after, .rejectedFlow status)

end TcpStream

end JanusGate
