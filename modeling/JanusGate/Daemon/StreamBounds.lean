import JanusGate.Daemon.StreamDuplicates
import JanusGate.Daemon.StreamRefinement

/-!
# Bounds of the stream tracker

What every run on the arenas keeps: distinct keys, the quota of a source,
clear presence maps of free slots and the limit of separate ranges.  A packet
that was just added can be rejected at the same time exactly when its key
owned a slot before.
-/

namespace JanusGate

open Runs SlotTable TcpStream List

namespace TcpStream

/-! ## Separate ranges -/

theorem rangeCount_false_le (window : List (Option UInt8)) :
    rangeCount false window ≤ rangeCount true window + 1 := by
  cases window with
  | nil => exact Nat.zero_le _
  | cons slot rest =>
    cases slot with
    | none => exact Nat.le_succ _
    | some byte =>
      simp only [rangeCount, Bool.false_eq_true, if_false, if_true]
      omega

theorem rangeCount_drop_le (window : List (Option UInt8)) (count : Nat) :
    rangeCount false (window.drop count) ≤ rangeCount false window := by
  induction count generalizing window with
  | zero => exact Nat.le_refl _
  | succ count ih =>
    cases window with
    | nil => exact Nat.le_refl _
    | cons slot rest =>
      have later := ih rest
      have first := rangeCount_false_le rest
      cases slot with
      | none => exact later
      | some byte =>
        simp only [drop_succ_cons, rangeCount, Bool.false_eq_true, if_false]
        omega

theorem rangeCount_replicate (inside : Bool) (count : Nat) :
    rangeCount inside (replicate count none) = 0 := by
  induction count generalizing inside with
  | zero => rfl
  | succ count ih => simp only [replicate_succ, rangeCount, ih]

theorem rangeCount_append_replicate (inside : Bool) (window : List (Option UInt8)) (count : Nat) :
    rangeCount inside (window ++ replicate count none) = rangeCount inside window := by
  induction window generalizing inside with
  | nil => simpa [rangeCount] using rangeCount_replicate inside count
  | cons slot rest ih => cases slot <;> simp [rangeCount, ih]

def FewRanges (limits : TcpStreamLimits) (entry : StreamEntry) : Prop :=
  rangeCount false entry.window ≤ limits.maxOutOfOrderSegments

theorem fewRanges_empty (empty : entry.window = replicate size none) :
    FewRanges limits entry := by
  rw [FewRanges, empty, rangeCount_replicate]
  exact Nat.zero_le _

theorem FewRanges.consumePrefix (few : FewRanges limits entry) (consumed : Nat) :
    FewRanges limits (consumePrefix entry consumed) := by
  unfold FewRanges TcpStream.consumePrefix
  rw [rangeCount_append_replicate]
  exact Nat.le_trans (rangeCount_drop_le _ _) few

theorem Placing.fewRanges {inserted : StreamEntry}
    (placing : Placing limits packet entry (.inserted inserted changed)) :
    FewRanges limits inserted := by
  cases placing with
  | inserted _ _ _ few => exact few

theorem FlowLeft.fewRanges (few : FewRanges limits entry)
    (left : FlowLeft limits packet nowMs entry slot) : ∀ kept ∈ slot, FewRanges limits kept := by
  rintro kept member
  cases left with
  | cleared => cases member
  | rejected => cases member; exact fewRanges_empty rfl
  | same => cases member; exact few
  | kept placing => cases member; exact placing.fewRanges
  | taken placing count => cases member; exact placing.fewRanges.consumePrefix count

/-! ## The flows of a tracker -/

def RangesBounded (limits : TcpStreamLimits) (entries : List (Option StreamEntry)) : Prop :=
  ∀ index entry, At entries index entry → FewRanges limits entry

theorem fewRanges_flowProperty (limits : TcpStreamLimits) :
    FlowProperty limits (FewRanges limits) where
  opened := fun _ _ _ => fewRanges_empty rfl
  rejected := fun _ _ => fewRanges_empty rfl
  touched := fun _ _ few => few

theorem trackerStep_write (tracker : TcpStreamTracker) (call : TrackerCall) :
    TrackerWrite tracker (buildKey call.packet) call.nowMs (trackerStep tracker call).1 := by
  cases call with
  | add packet nowMs outputSize messageCapacity => exact tcpStreamTrackerAdd_write ..
  | addRaw packet nowMs outputSize => exact tcpStreamTrackerAddRaw_write ..
  | rejectFlow packet nowMs => exact tcpStreamTrackerRejectFlow_write ..

theorem trackerStep_rangesBounded (bounded : RangesBounded tracker.limits tracker.entries)
    (call : TrackerCall) :
    RangesBounded tracker.limits (trackerStep tracker call).1.entries := by
  have property := fewRanges_flowProperty tracker.limits
  cases call with
  | add packet nowMs outputSize messageCapacity =>
    exact property.add bounded _ _ fun _ few => (addToFlow_left _ _ _ _).fewRanges few
  | addRaw packet nowMs outputSize =>
    exact property.addRaw bounded _ fun _ few => (addRawToFlow_left _ _ _ _).fewRanges few
  | rejectFlow packet nowMs => exact property.rejectFlow bounded _ _

structure TrackerBounded (limits : TcpStreamLimits) (tracker : TcpStreamTracker) : Prop where
  limits_eq : tracker.limits = limits
  wf : FlowsWf limits tracker.entries
  ranges : RangesBounded limits tracker.entries

theorem TrackerBounded.step (bounded : TrackerBounded limits tracker) (call : TrackerCall) :
    TrackerBounded limits (trackerStep tracker call).1 := by
  obtain ⟨rfl, wf, ranges⟩ := bounded
  have write := trackerStep_write tracker call
  refine ⟨write.limits_eq, ?_, trackerStep_rangesBounded ranges call⟩
  rw [← write.limits_eq]
  exact write.wf wf

theorem created_trackerBounded (created : tcpStreamTrackerCreate limits = .ok tracker) :
    TrackerBounded limits tracker := by
  have same := (tcpStreamTrackerCreate_ok created).1
  exact ⟨same, same ▸ created_flowsWf created,
    fun index entry holds => absurd holds (created_empty created index entry)⟩

/-! ## Rejecting a packet that was just added -/

/-- The key of a packet owns a slot, or a free one that its source may still use. -/
def HasRoom (tracker : TcpStreamTracker) (packet : PacketView) (nowMs : Nat) : Prop :=
  ∃ index, OwnsFlow tracker.limits (liveFlows tracker.entries nowMs) (buildKey packet) index

/-- The packet passes the checks of the reject entry point. -/
def rejectable (packet : PacketView) : Bool :=
  packetValidForPort packet 53 || packetValidForPort packet 443 || packetValidForPort packet 853

theorem tcpStreamTrackerRejectFlow_noSpace (valid : rejectable packet = true) :
    (tcpStreamTrackerRejectFlow tracker packet nowMs).2 = eNoSpc ↔
      ¬ HasRoom tracker packet nowMs := by
  have accepted : ¬ (!(packetValidForPort packet 53 ||
      packetValidForPort packet 443 || packetValidForPort packet 853)) = true := by
    unfold rejectable at valid
    simp [valid]
  have zero : (0 : Int) ≠ eNoSpc := by decide
  unfold tcpStreamTrackerRejectFlow
  rw [if_neg accepted]
  dsimp only
  split
  case h_1 index entry searched =>
    obtain ⟨holds, sameKey⟩ := findFlow_spec searched
    have room : HasRoom tracker packet nowMs := ⟨index, .inl ⟨entry, holds, sameKey⟩⟩
    exact ⟨fun failed => absurd failed zero, fun full => absurd room full⟩
  case h_2 searched =>
    have absent := findFlow_absent searched
    split
    case h_1 noFree =>
      refine ⟨fun _ => ?_, fun _ => rfl⟩
      rintro ⟨index, ⟨entry, holds, sameKey⟩ | ⟨free, _⟩⟩
      · exact absent index entry holds sameKey
      · obtain ⟨found, there⟩ := freeIndex_of_free free
        rw [noFree] at there
        cases there
    case h_2 index free =>
      split
      case isTrue crowded =>
        refine ⟨fun _ => ?_, fun _ => rfl⟩
        rintro ⟨other, ⟨entry, holds, sameKey⟩ | ⟨_, _, room⟩⟩
        · exact absent other entry holds sameKey
        · exact absurd crowded (Nat.not_le_of_lt room)
      case isFalse space =>
        have room : HasRoom tracker packet nowMs :=
          ⟨index, .inr ⟨freeIndex_spec free, absent, Nat.lt_of_not_le space⟩⟩
        exact ⟨fun failed => absurd failed zero, fun full => absurd room full⟩

theorem hasRoom_after_write {after : TcpStreamTracker}
    (write : TrackerWrite tracker (buildKey packet) nowMs after)
    (wf : FlowsWf tracker.limits tracker.entries) :
    HasRoom after packet nowMs ↔ HasRoom tracker packet nowMs := by
  rcases write with rfl | ⟨sameLimits, written⟩
  · rfl
  · unfold HasRoom
    rw [sameLimits]
    exact written.quota.owns_iff (flowsWf_iff.mp (wf.live nowMs)) (expire_expire _ _)

end TcpStream

/-! ## Runs on the arenas -/

namespace StreamArena

/-- The arenas hold a live flow of the packet, or have a free slot that its
source may still use. -/
def HasRoom (arena : StreamArena) (packet : PacketView) (nowMs : Nat) : Prop :=
  let live := expireFlows arena.limits arena.slots nowMs
  (∃ slot ∈ live, slot.active = true ∧ slot.key = buildKey packet) ∨
    (∃ slot ∈ live, slot.active = false) ∧
      sourceFlowCount live (buildKey packet) < arena.limits.maxFlowsPerSource

instance (arena : StreamArena) (packet : PacketView) (nowMs : Nat) :
    Decidable (arena.HasRoom packet nowMs) :=
  inferInstanceAs (Decidable (_ ∨ _))

variable {slots : List FlowSlot}

theorem getElem?_flows {index : Nat} (holds : (flows slots)[index]? = some content) :
    ∃ slot, slots[index]? = some slot ∧ slot.flow = content := by
  rw [getElem?_map] at holds
  exact Option.map_eq_some_iff.mp holds

variable {slot : FlowSlot}

theorem flow_eq_some (holds : slot.flow = some entry) :
    slot.active = true ∧ slot.entry = entry := by
  unfold FlowSlot.flow at holds
  split at holds
  case isTrue active => exact ⟨active, Option.some.inj holds⟩
  case isFalse => cases holds

theorem flow_eq_none (free : slot.flow = none) : slot.active = false := by
  cases active : slot.active with
  | false => rfl
  | true => simp [FlowSlot.flow, active] at free

theorem hasRoom_tracker (arena : StreamArena) (packet : PacketView) (nowMs : Nat) :
    TcpStream.HasRoom arena.tracker packet nowMs ↔ arena.HasRoom packet nowMs := by
  have sameLive : liveFlows arena.tracker.entries nowMs =
      flows (expireFlows arena.limits arena.slots nowMs) :=
    (flows_expire arena.slots nowMs).symm
  unfold TcpStream.HasRoom HasRoom
  rw [sameLive]
  generalize expireFlows arena.limits arena.slots nowMs = live
  constructor
  · rintro ⟨index, ⟨entry, holds, sameKey⟩ | ⟨free, _, room⟩⟩
    · obtain ⟨slot, there, same⟩ := getElem?_flows holds
      obtain ⟨active, rfl⟩ := flow_eq_some same
      exact .inl ⟨slot, mem_of_getElem? there, active, sameKey⟩
    · obtain ⟨slot, there, same⟩ := getElem?_flows free
      rw [flows_sourceFlowCount] at room
      exact .inr ⟨⟨slot, mem_of_getElem? there, flow_eq_none same⟩, room⟩
  · intro room
    by_cases held : ∃ slot ∈ live, slot.active = true ∧ slot.key = buildKey packet
    · obtain ⟨slot, member, active, sameKey⟩ := held
      obtain ⟨index, there⟩ := mem_iff_getElem?.mp member
      refine ⟨index, .inl ⟨slot.entry, ?_, sameKey⟩⟩
      simp [At, there, FlowSlot.flow, active]
    · obtain impossible | ⟨⟨slot, member, inactive⟩, room⟩ := room
      · exact absurd impossible held
      obtain ⟨index, there⟩ := mem_iff_getElem?.mp member
      refine ⟨index, .inr ⟨?_, ?_, ?_⟩⟩
      · simp [there, FlowSlot.flow, inactive]
      · intro other entry holds sameKey
        obtain ⟨owner, ownerThere, same⟩ := getElem?_flows holds
        obtain ⟨active, rfl⟩ := flow_eq_some same
        exact held ⟨owner, mem_of_getElem? ownerThere, active, sameKey⟩
      · rw [flows_sourceFlowCount]
        exact room

theorem rangeCount_clear (inside : Bool) (size : Nat) :
    rangeCount inside (replicate size false) = 0 := by
  induction size generalizing inside with
  | zero => rfl
  | succ size ih => simp only [replicate_succ, rangeCount, ih]

def KeysDistinct (slots : List FlowSlot) : Prop :=
  ∀ (left right : Nat) (first second : FlowSlot),
    slots[left]? = some first → slots[right]? = some second →
      first.active = true → second.active = true → first.key = second.key → left = right

variable {limits : TcpStreamLimits}

theorem slots_bounded (wf : SlotsWf limits slots) (flowsWf : FlowsWf limits (flows slots))
    (ranges : RangesBounded limits (flows slots)) :
    KeysDistinct slots ∧
    (∀ key, sourceFlowCount slots key ≤ limits.maxFlowsPerSource) ∧
    (∀ slot ∈ slots, slot.active = false →
      slot.present = replicate limits.maxBufferedBytes false) ∧
    ∀ slot ∈ slots, rangeCount false slot.present ≤ limits.maxOutOfOrderSegments := by
  have atFlow : ∀ {index slot}, slots[index]? = some slot →
      slot.active = true → At (flows slots) index slot.entry := by
    intro index slot there active
    simp [At, there, FlowSlot.flow, active]
  refine ⟨?_, ?_, ?_, ?_⟩
  · intro left right first second leftThere rightThere leftActive rightActive sameKey
    exact flowsWf.unique left right _ _ (atFlow leftThere leftActive)
      (atFlow rightThere rightActive) sameKey
  · intro key
    rw [← flows_sourceFlowCount]
    exact flowsWf.bounded key
  · intro slot member inactive
    exact ((wf slot member).cleared inactive).2
  · intro slot member
    have slotWf := wf slot member
    cases active : slot.active with
    | false =>
      rw [(slotWf.cleared active).2, rangeCount_clear]
      exact Nat.zero_le _
    | true =>
      obtain ⟨index, there⟩ := mem_iff_getElem?.mp member
      have few := ranges index slot.entry (atFlow there active)
      have same : TcpStream.rangeCount false slot.entry.window = rangeCount false slot.present :=
        seenBytes_rangeCount slotWf.sameLength false
      rw [← same]
      exact few

/-- The call was carried out by one of the two add entry points. -/
def processed : TrackerAnswer → Bool
  | .added (.ok _) => true
  | .addedRaw (.ok _) => true
  | _ => false

variable {arena : StreamArena}

theorem processed_rejectable (done : processed (arena.step call).2 = true) :
    rejectable call.packet = true := by
  cases call with
  | add packet nowMs outputSize messageCapacity =>
    cases valid : packetValidForPort packet 53 with
    | false => simp [step, add, valid, processed] at done
    | true => simp [rejectable, TrackerCall.packet, valid]
  | addRaw packet nowMs outputSize =>
    cases first : packetValidForPort packet 443 with
    | true => simp [rejectable, TrackerCall.packet, first]
    | false =>
      cases second : packetValidForPort packet 853 with
      | false => simp [step, addRaw, first, second, processed] at done
      | true => simp [rejectable, TrackerCall.packet, second]
  | rejectFlow packet nowMs => simp [step, processed] at done

theorem run_bounded (created : create limits = .ok arena) (member : event ∈ run step arena calls) :
    (SlotsWf event.before.limits event.before.slots ∧ TrackerBounded limits event.before.tracker) ∧
    SlotsWf event.after.limits event.after.slots ∧ TrackerBounded limits event.after.tracker := by
  obtain ⟨startWf, startCreated⟩ := created_refines created
  refine invariant_always (fun state => SlotsWf state.limits state.slots ∧
      TrackerBounded limits state.tracker) ?_
    ⟨startWf, created_trackerBounded startCreated⟩ member
  intro state call holds
  obtain ⟨refines, _⟩ := step_refines holds.1 call
  refine ⟨refines.wf, ?_⟩
  rw [refines.tracker]
  exact holds.2.step call

/-- Keys of active slots differ, no source exceeds its limit, free slots have a clear presence map
and no flow has too many ranges.  A packet just added can be rejected unless its key owned no slot.
-/
theorem stream_tracker_bounds {limits : TcpStreamLimits} {arena : StreamArena}
    (created : create limits = .ok arena) (calls : List TrackerCall) :
    (∀ event ∈ run step arena calls, KeysDistinct event.after.slots ∧
      (∀ key, sourceFlowCount event.after.slots key ≤ limits.maxFlowsPerSource) ∧
      (∀ slot ∈ event.after.slots, slot.active = false →
        slot.present = replicate limits.maxBufferedBytes false) ∧
      ∀ slot ∈ event.after.slots, rangeCount false slot.present ≤ limits.maxOutOfOrderSegments) ∧
    ∀ past event next future, run step arena calls = past ++ event :: next :: future →
      processed event.answer = true →
      next.input = .rejectFlow event.input.packet event.input.nowMs →
        (next.answer = .rejectedFlow eNoSpc ↔
          ¬ event.before.HasRoom event.input.packet event.input.nowMs) := by
  refine ⟨?_, ?_⟩
  · intro event member
    obtain ⟨_, slotsWf, bounded⟩ := run_bounded created member
    have sameLimits : event.after.limits = limits := bounded.limits_eq
    rw [sameLimits] at slotsWf
    exact slots_bounded slotsWf bounded.wf bounded.ranges
  · intro past event next future split done rejects
    have eventMember := mem_of_split split
    have nextMember : next ∈ run step arena calls := by
      rw [split]
      simp
    obtain ⟨⟨beforeWf, before⟩, afterWf, _⟩ := run_bounded created eventMember
    have made := event_eq eventMember
    have answered : event.answer = (step event.before event.input).2 := by
      rw [made]
      rfl
    have valid : rejectable event.input.packet = true := by
      rw [answered] at done
      exact processed_rejectable done
    obtain ⟨refines, _⟩ := step_refines beforeWf event.input
    have sameTracker : event.after.tracker = (trackerStep event.before.tracker event.input).1 := by
      rw [← refines.tracker]
      rw [made]
      rfl
    have write := trackerStep_write event.before.tracker event.input
    rw [← sameTracker] at write
    have flowsBefore : FlowsWf event.before.tracker.limits event.before.tracker.entries := by
      rw [before.limits_eq]
      exact before.wf
    have status := (rejectPacketFlow_refines afterWf event.input.packet event.input.nowMs).2
    have nextAnswer : next.answer = .rejectedFlow
        (tcpStreamTrackerRejectFlow event.after.tracker event.input.packet
          event.input.nowMs).2 := by
      rw [event_eq nextMember]
      simp only [eventOf, before_next split, rejects, step, status]
    rw [nextAnswer, TrackerAnswer.rejectedFlow.injEq,
      tcpStreamTrackerRejectFlow_noSpace valid, hasRoom_after_write write flowsBefore,
      hasRoom_tracker]

def smallArena : StreamArena where
  limits := smallTracker.limits
  limitsValid := smallTracker.limitsValid
  slots := [zeroSlot smallTracker.limits]

def rejectedSyn : List TrackerCall :=
  [segmentCall (segmentInput 53 0 synFlag []), .rejectFlow (segmentInput 53 0 synFlag []).packet 0]

theorem stream_tracker_bounds_rejected :
    ∃ first second, run step smallArena rejectedSyn = [first, second] ∧
      first.answer = .added (.ok .buffered) ∧
      (∀ key, sourceFlowCount second.after.slots key ≤ 1) ∧
      second.answer ≠ .rejectedFlow eNoSpc := by
  have bounds := @stream_tracker_bounds smallTracker.limits smallArena rfl rejectedSyn
  refine ⟨_, _, rfl, by decide +kernel, ?_, ?_⟩
  · exact (bounds.1 _ (mem_cons_of_mem _ mem_cons_self)).2.1
  · intro failed
    exact (bounds.2 [] _ _ [] rfl (by decide +kernel) rfl).mp failed (by decide +kernel)

def secondFlow : PacketView := { (segmentInput 53 1 0 [0]).packet with sourcePort := 4097 }

/-- With the only slot taken, a packet of another flow is answered EXHAUSTED
and cannot be rejected. -/
theorem exhausted_packet_not_rejected : (run step smallArena
        [segmentCall (segmentInput 53 0 synFlag []),
          .add secondFlow 0 16 1, .rejectFlow secondFlow 0]).map
        Event.answer =
      [.added (.ok .buffered), .added (.ok .exhausted), .rejectedFlow eNoSpc] := by
  decide +kernel

end StreamArena

/-! ## Other flows -/

namespace TcpStream

variable {entry : StreamEntry}

/-- The answer to a call whose flow is held depends on that flow alone. -/
theorem trackerStep_answer_held (bounded : TrackerBounded limits tracker)
    (otherBounded : TrackerBounded limits other) (holds : At tracker.entries index entry)
    (otherHolds : At other.entries index entry) (sameKey : entry.key = buildKey call.packet)
    (fresh : flowExpired call.nowMs entry = false) :
    (trackerStep other call).2 = (trackerStep tracker call).2 := by
  have found : ∀ {table}, TrackerBounded limits table → At table.entries index entry →
      let live := expireFlows table.entries call.nowMs
      findFlow live (buildKey call.packet) = some (index, entry) ∧
        ¬ limits.maxFlowsPerSource ≤
          sourceFlowCount (live.set index none) (buildKey call.packet) := by
    intro table bounded holds live
    have wf : FlowsWf limits live := bounded.wf.live call.nowMs
    have held : At live index entry := at_expire_iff.mpr ⟨holds, fresh⟩
    have owns : OwnsFlow limits live (buildKey call.packet) index := .inl ⟨entry, held, sameKey⟩
    exact ⟨sameKey ▸ wf.unique.find_eq held, Nat.not_le_of_lt (owns.room wf)⟩
  obtain ⟨here, room⟩ := found bounded holds
  obtain ⟨there, otherRoom⟩ := found otherBounded otherHolds
  cases call with
  | add packet nowMs | addRaw packet nowMs =>
    dsimp only [TrackerCall.packet, TrackerCall.nowMs] at *
    simp only [trackerStep, tcpStreamTrackerAdd, addSegment, tcpStreamTrackerAddRaw, addRawSegment,
      admitPacket, here, there, bounded.limits_eq, otherBounded.limits_eq]
    split
    · rfl
    split
    · rfl
    cases isRst packet with
    | true => rfl
    | false =>
      cases syn : isSyn packet with
      -- SYN replaces the flow in its slot, so that its source has room for it
      | true => simp [openFlow, syn, room, otherRoom]
      | false => cases entry.rejected <;> rfl
  | rejectFlow packet nowMs =>
    dsimp only [TrackerCall.packet, TrackerCall.nowMs] at *
    simp only [trackerStep, tcpStreamTrackerRejectFlow, here, there]
    split <;> rfl

/-- Calls for other flows change neither a flow that they do not time out nor
the answer to its next call. -/
theorem other_flows_undisturbed (created : tcpStreamTrackerCreate limits = .ok tracker)
    (split : run trackerStep tracker calls = past ++ first :: (others ++ later :: future))
    (held : At first.after.entries index entry) (sameKey : entry.key = buildKey later.input.packet)
    (elsewhere : ∀ event ∈ others, entry.key ≠ buildKey event.input.packet)
    (fresh : ∀ event ∈ later :: others, flowExpired event.input.nowMs entry = false) :
    At later.before.entries index entry ∧
      later.answer = (trackerStep first.after later.input).2 := by
  have bounded : ∀ event ∈ run trackerStep tracker calls,
      TrackerBounded limits event.before ∧ TrackerBounded limits event.after := fun _ =>
    invariant_always _ (fun _ call reached => reached.step call) (created_trackerBounded created)
  have preserved : ∀ before call, At before.entries index entry →
      eventOf trackerStep before call ∈ others →
      At (trackerStep before call).1.entries index entry := fun before call holds inside =>
    (trackerStep_write before call).keeps (elsewhere _ inside) holds
      (fresh _ (mem_cons_of_mem _ inside))
  have kept := (carried_along preserved split held (fun _ => id)).2 later future rfl
  have member := mem_of_split_later split
  refine ⟨kept, (congrArg Event.answer (event_eq member)).trans ?_⟩
  exact trackerStep_answer_held (bounded first (mem_of_split split)).2 (bounded later member).1
    held kept sameKey (fresh later mem_cons_self)

/-- A flow takes the only slot before a packet of another one comes. -/
def crowdedCalls : List TrackerCall :=
  [segmentCall (segmentInput 53 0 synFlag []), .add StreamArena.secondFlow 0 16 1,
    segmentCall (segmentInput 53 1 0 [0])]

theorem other_flows_undisturbed_crowded : ∃ first other later,
    run trackerStep smallTracker crowdedCalls = [first, other, later] ∧
      other.answer = .added (.ok .exhausted) ∧
      later.answer = (trackerStep first.after later.input).2 :=
  ⟨_, _, _, rfl, by decide +kernel, (@other_flows_undisturbed _ smallTracker.limits smallTracker
    crowdedCalls [] _ [_] _ [] 0 rfl rfl rfl rfl (by simp; decide +kernel)
    (by simp; decide +kernel)).2⟩

end TcpStream

end JanusGate
