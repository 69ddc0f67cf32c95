import JanusGate.Daemon.StreamArena
import JanusGate.Daemon.StreamHistory

/-!
# The arenas refine the tracker

Every slot keeps slices of the configured size, and a free slot has a clear
presence map and no rejection flag (`SlotWf`).  That is what makes opening a
flow in a used slot start from an empty window, so that a run on the arenas
gives the answers of the abstract tracker.
-/

namespace JanusGate

open Runs SlotTable TcpStream

/-- What every slot keeps between two calls. -/
structure SlotWf (limits : TcpStreamLimits) (slot : FlowSlot) : Prop where
  bufferLength : slot.buffer.length = limits.maxBufferedBytes
  presentLength : slot.present.length = limits.maxBufferedBytes
  cleared : slot.active = false → slot.rejected = false ∧
    slot.present = List.replicate limits.maxBufferedBytes false

/-- A well-formed slot that holds a flow. -/
structure ActiveSlot (limits : TcpStreamLimits) (slot : FlowSlot) : Prop
    extends SlotWf limits slot where
  active : slot.active = true

variable {limits : TcpStreamLimits} {slot : FlowSlot}

theorem SlotWf.sameLength (wf : SlotWf limits slot) : slot.buffer.length = slot.present.length :=
  wf.bufferLength.trans wf.presentLength.symm

theorem ActiveSlot.flow (holdsFlow : ActiveSlot limits slot) : slot.flow = some slot.entry := by
  simp [FlowSlot.flow, holdsFlow.active]

namespace StreamArena

/-! ## Windows -/

variable {arena : StreamArena}

theorem seenBytes_clear (sameLength : buffer.length = size) :
    seenBytes buffer (List.replicate size false) = List.replicate size none := by
  subst sameLength
  induction buffer with
  | nil => rfl
  | cons byte rest ih =>
    simp only [List.length_cons, List.replicate_succ, seenBytes,
      List.zipWith_cons_cons, Bool.false_eq_true, if_false]
    rw [← ih]
    rfl

theorem seenBytes_append (sameLength : front.length = frontPresent.length) :
    seenBytes (front ++ back) (frontPresent ++ backPresent) =
      seenBytes front frontPresent ++ seenBytes back backPresent :=
  List.zipWith_append sameLength

section

variable (buffer : Bytes) (present : List Bool) (count : Nat)

theorem seenBytes_drop :
    seenBytes (buffer.drop count) (present.drop count) = (seenBytes buffer present).drop count :=
  List.drop_zipWith.symm

theorem seenBytes_take :
    seenBytes (buffer.take count) (present.take count) = (seenBytes buffer present).take count :=
  List.take_zipWith.symm

end

theorem seenBytes_present (sameLength : buffer.length = present.length) :
    (seenBytes buffer present).map Option.isSome = present := by
  induction present generalizing buffer with
  | nil => exact congrArg (List.map _) List.zipWith_nil_right
  | cons flag rest ih =>
    cases buffer with
    | nil => cases sameLength
    | cons byte buffer =>
      have later := ih (Nat.succ.inj sameLength)
      unfold seenBytes at later
      cases flag <;> simp [seenBytes, later]

theorem rangeCount_present (window : List (Option UInt8)) (inside : Bool) :
    TcpStream.rangeCount inside window = rangeCount inside (window.map Option.isSome) := by
  induction window generalizing inside with
  | nil => rfl
  | cons seen rest ih => cases seen <;> simp [TcpStream.rangeCount, rangeCount, ih]

theorem seenBytes_rangeCount (sameLength : buffer.length = present.length) (inside : Bool) :
    TcpStream.rangeCount inside (seenBytes buffer present) = rangeCount inside present := by
  rw [rangeCount_present, seenBytes_present sameLength]

theorem seenBytes_contiguous (sameLength : buffer.length = present.length) :
    TcpStream.contiguousBytes (seenBytes buffer present) =
      buffer.take (contiguousSize present) := by
  induction present generalizing buffer with
  | nil =>
    obtain rfl := List.length_eq_zero_iff.mp sameLength
    rfl
  | cons flag rest ih =>
    cases buffer with
    | nil => cases sameLength
    | cons byte buffer =>
      have restLength : buffer.length = rest.length := by simpa using sameLength
      have later := ih restLength
      unfold seenBytes at later
      cases flag <;> simp [seenBytes, TcpStream.contiguousBytes, contiguousSize, later]

theorem contiguousSize_le (present : List Bool) : contiguousSize present ≤ present.length := by
  induction present with
  | nil => exact Nat.le_refl 0
  | cons flag rest ih =>
    cases flag
    · exact Nat.zero_le _
    · simpa [contiguousSize] using ih

theorem seenBytes_flowHasBytes (sameLength : buffer.length = present.length) :
    TcpStream.flowHasBytes (seenBytes buffer present) = flowHasBytes present := by
  have flags := List.any_map (f := Option.isSome) (p := id) (l := seenBytes buffer present)
  rw [seenBytes_present sameLength] at flags
  exact flags.symm

/-- The copy loop writes what the overlay of the window says. -/
theorem seenBytes_copyBytes (payload : Bytes) (sameLength : buffer.length = present.length) :
    overlay (seenBytes buffer present) payload =
      (copyBytes buffer present payload).2.2.map fun changed =>
        (seenBytes (copyBytes buffer present payload).1
          (copyBytes buffer present payload).2.1, changed) := by
  induction payload generalizing buffer present with
  | nil => cases buffer <;> cases present <;> simp [overlay, copyBytes]
  | cons byte payload ih =>
    cases present with
    | nil =>
      obtain rfl := List.length_eq_zero_iff.mp sameLength
      rfl
    | cons flag present =>
      cases buffer with
      | nil => cases sameLength
      | cons held buffer =>
        have restLength : buffer.length = present.length := by simpa using sameLength
        have later := ih restLength
        unfold seenBytes at later
        cases flag with
        | false =>
          simp only [seenBytes, List.zipWith_cons_cons, overlay,
            copyBytes, later, Bool.false_eq_true, if_false, Option.map_map, if_true]
          rfl
        | true =>
          by_cases same : held = byte
          · simp only [seenBytes, List.zipWith_cons_cons, overlay,
              copyBytes, later, same, if_true, ne_eq, not_true_eq_false, if_false, Option.map_map]
            rfl
          · simp [seenBytes, overlay, copyBytes, same]

theorem copyBytes_length (buffer : Bytes) (present : List Bool) (payload : Bytes) :
    (copyBytes buffer present payload).1.length = buffer.length ∧
      (copyBytes buffer present payload).2.1.length = present.length := by
  induction payload generalizing buffer present with
  | nil => cases buffer <;> cases present <;> simp [copyBytes]
  | cons byte payload ih =>
    cases buffer with
    | nil => simp [copyBytes]
    | cons held buffer =>
      cases present with
      | nil => simp [copyBytes]
      | cons flag present =>
        have later := ih buffer present
        cases flag with
        | false => simp [copyBytes, later]
        | true => by_cases same : held = byte <;> simp [copyBytes, same, later]

/-! ## One slot -/

theorem zeroSlot_wf (limits : TcpStreamLimits) : SlotWf limits (zeroSlot limits) where
  bufferLength := by simp [zeroSlot]
  presentLength := by simp [zeroSlot]
  cleared := fun _ => ⟨rfl, rfl⟩

variable {entry : StreamEntry}

section

variable (wf : SlotWf limits slot)

include wf

theorem clearFlow_wf : SlotWf limits (clearFlow limits slot) where
  bufferLength := wf.bufferLength
  presentLength := by simp [clearFlow, zeroSlot]
  cleared := fun _ => ⟨rfl, rfl⟩

theorem initializeFlow_active (key : StreamKey) (base : UInt32) (nowMs : Nat) :
    ActiveSlot limits (initializeFlow limits key base nowMs slot) where
  bufferLength := wf.bufferLength
  presentLength := wf.presentLength
  cleared := fun inactive => by simp [initializeFlow] at inactive
  active := rfl

theorem initializeFlow_entry (free : slot.active = false) (key : StreamKey) (base : UInt32)
    (nowMs : Nat) :
    (initializeFlow limits key base nowMs slot).entry =
      TcpStream.initializeFlow limits key base nowMs := by
  obtain ⟨notRejected, clear⟩ := wf.cleared free
  simp only [FlowSlot.entry, initializeFlow, TcpStream.initializeFlow,
    notRejected, clear, seenBytes_clear wf.bufferLength]

variable (nowMs : Nat)

theorem rejectFlow_active : ActiveSlot limits (rejectFlow limits nowMs slot) where
  bufferLength := wf.bufferLength
  presentLength := (clearFlow_wf wf).presentLength
  cleared := fun inactive => by simp [rejectFlow, initializeFlow] at inactive
  active := rfl

theorem rejectFlow_flow (sameKey : entry.key = slot.key)
    (sameBase : entry.baseSequence = slot.baseSequence) :
    (rejectFlow limits nowMs slot).flow = some (TcpStream.rejectFlow limits entry nowMs) := by
  rw [(rejectFlow_active wf nowMs).flow]
  simp [FlowSlot.entry, rejectFlow, initializeFlow, clearFlow, zeroSlot, TcpStream.rejectFlow,
    TcpStream.initializeFlow, sameKey, sameBase, seenBytes_clear wf.bufferLength]

theorem finishFlow_wf : SlotWf limits (finishFlow limits nowMs slot) := by
  unfold finishFlow
  split
  · exact (rejectFlow_active wf nowMs).toSlotWf
  · exact clearFlow_wf wf

theorem finishFlow_flow :
    (finishFlow limits nowMs slot).flow = TcpStream.finishFlow limits slot.entry nowMs := by
  have sameBytes : TcpStream.flowHasBytes slot.entry.window =
      flowHasBytes slot.present := seenBytes_flowHasBytes wf.sameLength
  unfold finishFlow TcpStream.finishFlow
  rw [sameBytes]
  split
  · exact rejectFlow_flow wf nowMs rfl rfl
  · rfl

end

section

variable (holdsFlow : ActiveSlot limits slot)

include holdsFlow

theorem consumePrefix_active (within : consumed ≤ limits.maxBufferedBytes) :
    ActiveSlot limits (consumePrefix slot consumed) where
  bufferLength := by
    simp only [consumePrefix, List.length_append, List.length_drop,
      List.length_replicate, holdsFlow.bufferLength]
    omega
  presentLength := by
    simp only [consumePrefix, List.length_append, List.length_drop,
      List.length_replicate, holdsFlow.presentLength]
    omega
  cleared := fun inactive => by
    rw [show (consumePrefix slot consumed).active = slot.active from rfl,
      holdsFlow.active] at inactive
    cases inactive
  active := holdsFlow.active

theorem consumePrefix_entry (consumed : Nat) :
    (consumePrefix slot consumed).entry = TcpStream.consumePrefix slot.entry consumed := by
  have dropped : (slot.buffer.drop consumed).length = (slot.present.drop consumed).length := by
    simp [holdsFlow.sameLength]
  simp only [FlowSlot.entry, consumePrefix, TcpStream.consumePrefix,
    seenBytes_append dropped, seenBytes_drop, seenBytes_clear (List.length_replicate ..)]

theorem insertPayload_active (offset : Nat) (payload : Bytes) :
    ActiveSlot limits (insertPayload slot offset payload).1 := by
  obtain ⟨bufferLength, presentLength⟩ := copyBytes_length
    (slot.buffer.drop offset) (slot.present.drop offset) payload
  refine ⟨⟨?_, ?_, ?_⟩, holdsFlow.active⟩
  · rw [← holdsFlow.bufferLength]
    simp only [insertPayload, List.length_append, bufferLength, List.length_take, List.length_drop]
    omega
  · rw [← holdsFlow.presentLength]
    simp only [insertPayload, List.length_append, presentLength, List.length_take, List.length_drop]
    omega
  · intro inactive
    rw [show (insertPayload slot offset payload).1.active = slot.active
      from rfl, holdsFlow.active] at inactive
    cases inactive

end

theorem insertPayload_window (wf : SlotWf limits slot) (offset : Nat) (payload : Bytes) :
    TcpStream.insertPayload slot.entry.window offset payload =
      (insertPayload slot offset payload).2.map fun changed =>
        ((insertPayload slot offset payload).1.entry.window, changed) := by
  have dropped : (slot.buffer.drop offset).length = (slot.present.drop offset).length := by
    simp [wf.sameLength]
  have taken : (slot.buffer.take offset).length = (slot.present.take offset).length := by
    simp [wf.sameLength]
  simp only [TcpStream.insertPayload, insertPayload, FlowSlot.entry,
    ← seenBytes_drop, ← seenBytes_take, seenBytes_append taken,
    seenBytes_copyBytes payload dropped, Option.map_map]
  rfl

/-! ## A segment of an admitted flow -/

/-- The slot and the placement on the arenas against the placement on the
entry of the slot. -/
inductive Places (limits : TcpStreamLimits) (slot : FlowSlot) :
    FlowSlot × Placement → TcpStream.Placement → Prop
  | finished : Places limits slot (slot, .finished) .finished
  | empty : Places limits slot (slot, .empty) .empty
  | consumed : Places limits slot (slot, .consumed) .consumed
  | conflict (holdsFlow : ActiveSlot limits written) (sameKey : slot.key = written.key)
      (sameBase : slot.baseSequence = written.baseSequence) :
      Places limits slot (written, .conflict) .conflict
  | exhausted (holdsFlow : ActiveSlot limits written) (sameKey : slot.key = written.key)
      (sameBase : slot.baseSequence = written.baseSequence) :
      Places limits slot (written, .exhausted) .exhausted
  | inserted (holdsFlow : ActiveSlot limits written) :
      Places limits slot (written, .inserted changed) (.inserted written.entry changed)

theorem placeBytes_places (holdsFlow : ActiveSlot limits slot) (offset : Nat) (payload : Bytes) :
    Places limits slot (placeBytes limits slot offset payload)
      (TcpStream.placeBytes limits slot.entry offset payload) := by
  have written := insertPayload_active holdsFlow offset payload
  have sameKey : slot.key = (insertPayload slot offset payload).1.key := rfl
  have sameBase : slot.baseSequence = (insertPayload slot offset payload).1.baseSequence := rfl
  have sameEntry : { slot.entry with
      window := (insertPayload slot offset payload).1.entry.window } =
        (insertPayload slot offset payload).1.entry := rfl
  unfold placeBytes TcpStream.placeBytes
  rw [insertPayload_window holdsFlow.toSlotWf]
  split
  · exact .exhausted holdsFlow rfl rfl
  generalize insertPayload slot offset payload = result at *
  obtain ⟨left, copied⟩ := result
  cases copied with
  | none => exact .conflict written sameKey sameBase
  | some changed =>
    have sameRanges : TcpStream.rangeCount false left.entry.window =
        rangeCount false left.present :=
      seenBytes_rangeCount written.sameLength false
    simp only [Option.map_some, sameRanges, sameEntry]
    split
    · exact .exhausted written sameKey sameBase
    · exact .inserted written

theorem placeSegment_places (holdsFlow : ActiveSlot limits slot) (packet : PacketView) :
    Places limits slot (placeSegment limits packet slot)
      (TcpStream.placeSegment limits packet slot.entry) := by
  have sameBase : slot.entry.baseSequence = slot.baseSequence := rfl
  unfold placeSegment TcpStream.placeSegment
  simp only [sameBase]
  split
  · split
    · exact .finished
    · exact .empty
  split
  · exact placeBytes_places holdsFlow _ _
  split
  · split
    · exact .finished
    · exact .consumed
  · exact placeBytes_places holdsFlow _ _

/-- What a call leaves in a slot, against what it leaves of the flow. -/
structure Leaves (limits : TcpStreamLimits) (slot : FlowSlot)
    (left : Option StreamEntry) : Prop where
  wf : SlotWf limits slot
  flow : slot.flow = left

theorem leaves_active (holdsFlow : ActiveSlot limits slot) : Leaves limits slot (some slot.entry) :=
  ⟨holdsFlow.toSlotWf, holdsFlow.flow⟩

theorem leaves_finishFlow (wf : SlotWf limits slot) (nowMs : Nat) :
    Leaves limits (finishFlow limits nowMs slot) (TcpStream.finishFlow limits slot.entry nowMs) :=
  ⟨finishFlow_wf wf nowMs, finishFlow_flow wf nowMs⟩

theorem leaves_rejectFlow (wf : SlotWf limits slot) (nowMs : Nat) (sameKey : entry.key = slot.key)
    (sameBase : entry.baseSequence = slot.baseSequence) :
    Leaves limits (rejectFlow limits nowMs slot) (some (TcpStream.rejectFlow limits entry nowMs)) :=
  ⟨(rejectFlow_active wf nowMs).toSlotWf, rejectFlow_flow wf nowMs sameKey sameBase⟩

section

variable (holdsFlow : ActiveSlot limits slot) (packet : PacketView) (nowMs : Nat)

include holdsFlow

theorem emitInserted_leaves (changed : Bool) :
    Leaves limits (emitInserted limits packet nowMs slot changed).1
        (TcpStream.emitInserted limits packet nowMs slot.entry changed).1 ∧
      (emitInserted limits packet nowMs slot changed).2 =
        (TcpStream.emitInserted limits packet nowMs slot.entry changed).2 := by
  have sameBytes : TcpStream.contiguousBytes slot.entry.window =
      contiguousBytes slot := seenBytes_contiguous holdsFlow.sameLength
  have inWindow : (contiguousBytes slot).length ≤ limits.maxBufferedBytes := by
    rw [← holdsFlow.bufferLength, contiguousBytes, List.length_take]
    exact Nat.min_le_right _ _
  have rejected : Leaves limits (rejectFlow limits nowMs slot)
      (some (TcpStream.rejectFlow limits slot.entry nowMs)) :=
    leaves_rejectFlow holdsFlow.toSlotWf nowMs rfl rfl
  unfold emitInserted TcpStream.emitInserted
  simp only [sameBytes]
  cases framed : emitMessages limits (contiguousBytes slot).length 0 (contiguousBytes slot) with
  | error error =>
    cases error with
    | malformed | exhausted => exact ⟨rejected, rfl⟩
  | ok emitted =>
    obtain ⟨messages, consumed⟩ := emitted
    cases messages with
    | nil =>
      dsimp only
      split
      · exact ⟨leaves_finishFlow holdsFlow.toSlotWf nowMs, rfl⟩
      · exact ⟨leaves_active holdsFlow, rfl⟩
    | cons first later =>
      have within : consumed ≤ limits.maxBufferedBytes :=
        Nat.le_trans (emitMessages_framed framed).1 inWindow
      have advanced := consumePrefix_active holdsFlow within
      have sameEntry := consumePrefix_entry holdsFlow consumed
      dsimp only
      rw [← sameEntry]
      split
      · exact ⟨leaves_finishFlow advanced.toSlotWf nowMs, rfl⟩
      · exact ⟨leaves_active advanced, rfl⟩

theorem takeInserted_leaves (changed : Bool) :
    Leaves limits (takeInserted limits packet nowMs slot changed).1
        (TcpStream.takeInserted limits packet nowMs slot.entry changed).1 ∧
      (takeInserted limits packet nowMs slot changed).2 =
        (TcpStream.takeInserted limits packet nowMs slot.entry changed).2 := by
  have sameBytes : TcpStream.contiguousBytes slot.entry.window =
      slot.buffer.take (contiguousSize slot.present) :=
    seenBytes_contiguous holdsFlow.sameLength
  have within : contiguousSize slot.present ≤ limits.maxBufferedBytes := by
    rw [← holdsFlow.presentLength]
    exact contiguousSize_le slot.present
  have sameSize : (slot.buffer.take (contiguousSize slot.present)).length =
      contiguousSize slot.present := by
    rw [List.length_take, holdsFlow.bufferLength]
    exact Nat.min_eq_left within
  have advanced := consumePrefix_active holdsFlow within
  have sameEntry := consumePrefix_entry holdsFlow (contiguousSize slot.present)
  unfold takeInserted TcpStream.takeInserted
  simp only [sameBytes, sameSize, ← sameEntry]
  split
  · split
    · exact ⟨leaves_finishFlow advanced.toSlotWf nowMs, rfl⟩
    · exact ⟨leaves_active advanced, rfl⟩
  · split
    · exact ⟨leaves_finishFlow holdsFlow.toSlotWf nowMs, rfl⟩
    · exact ⟨leaves_active holdsFlow, rfl⟩

/-- Both entry points leave the same slot, but for what they take of an inserted segment. -/
theorem addToFlow_leaves : (Leaves limits (addToFlow limits packet nowMs slot).1
        (TcpStream.addToFlow limits packet nowMs slot.entry).1 ∧
      (addToFlow limits packet nowMs slot).2 =
        (TcpStream.addToFlow limits packet nowMs slot.entry).2) ∧
    Leaves limits (addRawToFlow limits packet nowMs slot).1
        (TcpStream.addRawToFlow limits packet nowMs slot.entry).1 ∧
      (addRawToFlow limits packet nowMs slot).2 =
        (TcpStream.addRawToFlow limits packet nowMs slot.entry).2 := by
  have places := placeSegment_places holdsFlow packet
  unfold addToFlow TcpStream.addToFlow addRawToFlow TcpStream.addRawToFlow
  generalize placeSegment limits packet slot = result at places ⊢
  generalize TcpStream.placeSegment limits packet slot.entry = placement at places ⊢
  cases places with
  | finished =>
    have leaves := leaves_finishFlow holdsFlow.toSlotWf nowMs
    exact ⟨⟨leaves, rfl⟩, leaves, rfl⟩
  | empty | consumed =>
    have leaves := leaves_active holdsFlow
    exact ⟨⟨leaves, rfl⟩, leaves, rfl⟩
  | conflict written sameKey sameBase | exhausted written sameKey sameBase =>
    refine ⟨⟨?_, rfl⟩, ?_, rfl⟩ <;>
      exact leaves_rejectFlow written.toSlotWf nowMs sameKey sameBase
  | inserted written =>
    obtain ⟨leaves, same⟩ := takeInserted_leaves written packet nowMs _
    exact ⟨emitInserted_leaves written packet nowMs _, leaves, by simp only [same]⟩

end

/-! ## The slots together -/

abbrev flows (slots : List FlowSlot) : List (Option StreamEntry) := slots.map FlowSlot.flow

def SlotsWf (limits : TcpStreamLimits) (slots : List FlowSlot) : Prop :=
  ∀ slot ∈ slots, SlotWf limits slot

variable {slots : List FlowSlot}

theorem flows_set (slots : List FlowSlot) (index : Nat) (slot : FlowSlot) :
    flows (slots.set index slot) = (flows slots).set index slot.flow :=
  List.map_set

theorem SlotsWf.set (wf : SlotsWf limits slots) (slotWf : SlotWf limits slot) :
    SlotsWf limits (slots.set index slot) := by
  intro other member
  rcases List.mem_or_eq_of_mem_set member with old | rfl
  · exact wf other old
  · exact slotWf

theorem SlotsWf.expire (wf : SlotsWf limits slots) (nowMs : Nat) :
    SlotsWf limits (expireFlows limits slots nowMs) := by
  intro slot member
  obtain ⟨old, oldMember, rfl⟩ := List.mem_map.mp member
  split
  · exact clearFlow_wf (wf old oldMember)
  · exact wf old oldMember

theorem flows_expire (slots : List FlowSlot) (nowMs : Nat) :
    flows (expireFlows limits slots nowMs) = TcpStream.expireFlows (flows slots) nowMs := by
  simp only [flows, expireFlows, TcpStream.expireFlows, expire, List.map_map]
  apply List.map_congr_left
  intro slot _
  cases active : slot.active with
  | false => simp [FlowSlot.flow, active]
  | true =>
    by_cases expired : slot.idleDeadline ≤ nowMs ∨ slot.connectionDeadline ≤ nowMs
    · simp [FlowSlot.flow, active, expired, clearFlow, zeroSlot,
        Option.filter, flowExpired, FlowSlot.entry]
      omega
    · simp [FlowSlot.flow, active, expired, Option.filter, flowExpired, FlowSlot.entry]
      omega

theorem flows_sourceFlowCount (slots : List FlowSlot) (key : StreamKey) :
    TcpStream.sourceFlowCount (flows slots) key = sourceFlowCount slots key := by
  unfold TcpStream.sourceFlowCount sourceFlowCount
  induction slots with
  | nil => rfl
  | cons slot rest ih =>
    rw [List.countP_cons, ← ih]
    cases active : slot.active with
    | false => simp [FlowSlot.flow, active, count]
    | true => simp [FlowSlot.flow, active, count, FlowSlot.entry, Nat.add_comm]

/-- The slot of the key, and otherwise the first free slot. -/
inductive Located (slots : List FlowSlot) (base : Nat) (free : Option (Nat × FlowSlot)) :
    Option (Nat × StreamEntry) → Option Nat →
      Option (Nat × FlowSlot) × Option (Nat × FlowSlot) → Prop
  | found {slot : FlowSlot} {freeIndex : Option Nat} {before : Option (Nat × FlowSlot)}
      (holds : slots[index]? = some slot) (active : slot.active = true) :
      Located slots base free (some (index, slot.entry)) freeIndex
        (some (base + index, slot), before)
  | free {slot : FlowSlot} (holds : slots[index]? = some slot) (inactive : slot.active = false) :
      Located slots base free none (some index) (none, free.or (some (base + index, slot)))
  | full : Located slots base free none none (none, free)

section

variable {base : Nat} {free : Option (Nat × FlowSlot)} {search : Option (Nat × StreamEntry)}
  {freeIndex : Option Nat} {result : Option (Nat × FlowSlot) × Option (Nat × FlowSlot)}

theorem Located.pass (located : Located rest (base + 1) free search freeIndex result) :
    Located (slot :: rest) base free (search.map fun found => (found.1 + 1, found.2))
      (freeIndex.map (· + 1)) result := by
  have moved : ∀ index, base + 1 + index = base + (index + 1) := by omega
  cases located with
  | found holds active =>
    rw [moved]
    exact .found (by simpa using holds) active
  | free holds inactive =>
    rw [moved]
    exact .free (by simpa using holds) inactive
  | full => exact .full

theorem Located.passFree
    (located : Located rest (base + 1) (free.or (some (base, slot))) search freeIndex result)
    (inactive : slot.active = false) :
    Located (slot :: rest) base free
      (search.map fun found => (found.1 + 1, found.2)) (some 0) result := by
  have moved : ∀ index, base + 1 + index = base + (index + 1) := by omega
  cases located with
  | found holds active =>
    rw [moved]
    exact .found (by simpa using holds) active
  | free holds _ =>
    rw [Option.or_assoc, Option.some_or]
    exact @Located.free (slot :: rest) base free 0 slot rfl inactive
  | full => exact @Located.free (slot :: rest) base free 0 slot rfl inactive

end

theorem findFlow_located (key : StreamKey) (slots : List FlowSlot) (base : Nat)
    (free : Option (Nat × FlowSlot)) :
    Located slots base free (TcpStream.findFlow (flows slots) key)
      (freeIndex (flows slots))
      (findFlow key base free slots) := by
  induction slots generalizing base free with
  | nil => exact .full
  | cons slot rest ih =>
    cases active : slot.active with
    | false =>
      have empty : slot.flow = none := by simp [FlowSlot.flow, active]
      have later := (ih (base + 1) (free.or (some (base, slot)))).passFree active
      simpa [flows, empty, TcpStream.findFlow, find, freeIndex, findFlow, active] using later
    | true =>
      have held : slot.flow = some slot.entry := by simp [FlowSlot.flow, active]
      by_cases sameKey : slot.entry.key = key
      · have located := @Located.found (slot :: rest) base free 0 slot
          (freeIndex (flows (slot :: rest))) free rfl active
        have same : slot.key = key := sameKey
        simpa [flows, held, TcpStream.findFlow, find, findFlow, active, sameKey, same] using located
      · have later := @Located.pass slot _ _ _ _ _ _ (ih (base + 1) free)
        have different : ¬ slot.key = key := sameKey
        simpa [flows, held, TcpStream.findFlow, find,
          freeIndex, findFlow, active, sameKey, different]
          using later

/-! ## Admission -/

def Admission.abstract : Admission → TcpStream.Admission
  | .reset flowIndex => .reset flowIndex
  | .conflict => .conflict
  | .exhausted => .exhausted
  | .noFlow => .noFlow
  | .admitted index slot newFlow => .admitted index slot.entry newFlow

/-- The slots and the admission on the arenas against those of the flows. -/
structure Admits (limits : TcpStreamLimits) (result : List FlowSlot × Admission)
    (abstract : List (Option StreamEntry) × TcpStream.Admission) : Prop where
  flows : flows result.1 = abstract.1
  admission : result.2.abstract = abstract.2
  wf : SlotsWf limits result.1
  admitted : ∀ index slot newFlow, result.2 = .admitted index slot newFlow → ActiveSlot limits slot

theorem Admits.abstract_eq (admits : Admits limits result abstract) :
    abstract = (StreamArena.flows result.1, result.2.abstract) :=
  (Prod.ext admits.flows admits.admission).symm

theorem openFlow_admits (wf : SlotsWf limits slots) {free : Option (Nat × FlowSlot)}
    (freeWf : ∀ found ∈ free, SlotWf limits found.2 ∧ found.2.active = false) (packet : PacketView)
    (nowMs : Nat) :
    Admits limits (slots, openFlow limits slots free packet nowMs) (StreamArena.flows slots,
        TcpStream.openFlow limits (StreamArena.flows slots) (free.map Prod.fst) packet nowMs) := by
  unfold openFlow TcpStream.openFlow
  rw [flows_sourceFlowCount]
  split
  · cases free with
    | none => exact ⟨rfl, rfl, wf, by simp⟩
    | some found =>
      obtain ⟨index, slot⟩ := found
      obtain ⟨slotWf, inactive⟩ := freeWf (index, slot) rfl
      simp only [Option.map_some]
      split
      · exact ⟨rfl, rfl, wf, by simp⟩
      refine ⟨rfl, ?_, wf, ?_⟩
      · simp only [Admission.abstract, initializeFlow_entry slotWf inactive]
      · intro other opened newFlow same
        cases same
        exact initializeFlow_active slotWf _ _ _
  · exact ⟨rfl, rfl, wf, by simp⟩

section

variable (wf : SlotsWf limits slots) (packet : PacketView) (nowMs : Nat)

include wf

theorem admitPacket_admits : Admits limits (admitPacket limits slots packet nowMs)
      (TcpStream.admitPacket limits (StreamArena.flows slots) packet nowMs) := by
  have located := findFlow_located (buildKey packet) slots 0 none
  unfold admitPacket TcpStream.admitPacket
  generalize findFlow (buildKey packet) 0 none slots = result at located ⊢
  generalize TcpStream.findFlow (StreamArena.flows slots) (buildKey packet) = search at located ⊢
  generalize freeEq : freeIndex (StreamArena.flows slots) = freeIndex at located ⊢
  cases located with
  | @found index slot _ _ holds active =>
    have slotWf := wf slot (List.mem_of_getElem? holds)
    have clearedWf := clearFlow_wf slotWf
    have clearedSlots : SlotsWf limits (slots.set index (clearFlow limits slot)) := wf.set clearedWf
    have sameFlows : StreamArena.flows (slots.set index (clearFlow limits slot)) =
          (StreamArena.flows slots).set index none := flows_set ..
    have sameRejected : slot.entry.rejected = slot.rejected := rfl
    simp only [Nat.zero_add, sameRejected]
    split
    · exact ⟨sameFlows, rfl, clearedSlots, by simp⟩
    split
    · rw [← sameFlows]
      exact openFlow_admits clearedSlots (by simpa using ⟨clearedWf, rfl⟩) packet nowMs
    split
    · exact ⟨rfl, rfl, wf, by simp⟩
    refine ⟨rfl, rfl, wf, ?_⟩
    intro other continued newFlow same
    cases same
    exact ⟨⟨slotWf.bufferLength, slotWf.presentLength,
      fun inactive => by simp [active] at inactive⟩, active⟩
  | @free index slot holds inactive =>
    have slotWf := wf slot (List.mem_of_getElem? holds)
    dsimp only
    split
    · exact ⟨rfl, rfl, wf, by simp⟩
    · simpa using @openFlow_admits limits slots wf
        (some (0 + index, slot)) (by simpa using ⟨slotWf, inactive⟩) packet
        nowMs
  | full =>
    dsimp only
    split
    · exact ⟨rfl, rfl, wf, by simp⟩
    · exact @openFlow_admits limits slots wf none (by simp) packet nowMs

/-! ## The entry points -/

theorem addSegment_refines : (SlotsWf limits (addSegment limits slots packet nowMs).1 ∧
      TcpStream.addSegment limits (flows slots) packet nowMs =
        (flows (addSegment limits slots packet nowMs).1,
          (addSegment limits slots packet nowMs).2)) ∧
    SlotsWf limits (addRawSegment limits slots packet nowMs).1 ∧
      TcpStream.addRawSegment limits (flows slots) packet nowMs =
        (flows (addRawSegment limits slots packet nowMs).1,
          (addRawSegment limits slots packet nowMs).2) := by
  have admits := admitPacket_admits (wf.expire nowMs) packet nowMs
  rw [flows_expire] at admits
  unfold addSegment TcpStream.addSegment addRawSegment TcpStream.addRawSegment
  rw [admits.abstract_eq]
  generalize admitPacket limits (expireFlows limits slots nowMs) packet nowMs = result at admits ⊢
  obtain ⟨after, admission⟩ := result
  cases admission with
  | admitted index slot newFlow =>
    have holdsFlow := admits.admitted index slot newFlow rfl
    obtain ⟨⟨leaves, sameAnswer⟩, leavesRaw, sameRaw⟩ := addToFlow_leaves holdsFlow packet nowMs
    refine ⟨⟨admits.wf.set leaves.wf, ?_⟩, admits.wf.set leavesRaw.wf, ?_⟩
    · simp only [Admission.abstract, flows_set, leaves.flow, sameAnswer]
    · simp only [Admission.abstract, flows_set, leavesRaw.flow, sameRaw]
  | _ => exact ⟨⟨admits.wf, rfl⟩, admits.wf, rfl⟩

end

/-- A call on the arenas keeps the slots well formed and does what it does on
the tracker without them. -/
structure Refines (after : StreamArena) (abstract : TcpStreamTracker) : Prop where
  wf : SlotsWf after.limits after.slots
  tracker : after.tracker = abstract

section

variable (wf : SlotsWf arena.limits arena.slots)

include wf

variable (packet : PacketView)

theorem add_refines (nowMs outputSize messageCapacity : Nat) :
    Refines (arena.add packet nowMs outputSize messageCapacity).1
        (tcpStreamTrackerAdd arena.tracker packet nowMs outputSize messageCapacity).1 ∧
      (arena.add packet nowMs outputSize messageCapacity).2 =
        (tcpStreamTrackerAdd arena.tracker packet nowMs outputSize messageCapacity).2 := by
  obtain ⟨afterWf, same⟩ := (addSegment_refines wf packet nowMs).1
  unfold add tcpStreamTrackerAdd
  simp only [tracker, same]
  split
  · exact ⟨⟨wf, rfl⟩, rfl⟩
  · split
    · exact ⟨⟨wf, rfl⟩, rfl⟩
    · exact ⟨⟨afterWf, rfl⟩, rfl⟩

theorem addRaw_refines (nowMs outputSize : Nat) :
    Refines (arena.addRaw packet nowMs outputSize).1
        (tcpStreamTrackerAddRaw arena.tracker packet nowMs outputSize).1 ∧
      (arena.addRaw packet nowMs outputSize).2 = (tcpStreamTrackerAddRaw arena.tracker packet nowMs
          outputSize).2 := by
  obtain ⟨afterWf, same⟩ := (addSegment_refines wf packet nowMs).2
  unfold addRaw tcpStreamTrackerAddRaw
  simp only [tracker, same]
  split
  · exact ⟨⟨wf, rfl⟩, rfl⟩
  · split
    · exact ⟨⟨wf, rfl⟩, rfl⟩
    · exact ⟨⟨afterWf, rfl⟩, rfl⟩

theorem rejectPacketFlow_refines (nowMs : Nat) :
    Refines (arena.rejectPacketFlow packet nowMs).1
        (tcpStreamTrackerRejectFlow arena.tracker packet nowMs).1 ∧
      (arena.rejectPacketFlow packet nowMs).2 =
        (tcpStreamTrackerRejectFlow arena.tracker packet nowMs).2 := by
  have liveWf := wf.expire nowMs
  have located := findFlow_located (buildKey packet)
    (expireFlows arena.limits arena.slots nowMs) 0 none
  have sameLive : TcpStream.expireFlows (flows arena.slots) nowMs =
      flows (expireFlows arena.limits arena.slots nowMs) :=
    (flows_expire arena.slots nowMs).symm
  unfold rejectPacketFlow tcpStreamTrackerRejectFlow
  simp only [tracker, sameLive, flows_sourceFlowCount]
  split
  · exact ⟨⟨wf, rfl⟩, rfl⟩
  generalize findFlow (buildKey packet) 0 none
    (expireFlows arena.limits arena.slots nowMs) = result at located ⊢
  generalize TcpStream.findFlow
    (flows (expireFlows arena.limits arena.slots nowMs)) (buildKey packet) = search at located ⊢
  generalize freeIndex (flows (expireFlows arena.limits arena.slots nowMs)) = freeIndex at located ⊢
  cases located with
  | @found index slot _ _ holds _ =>
    have leaves : Leaves arena.limits (rejectFlow arena.limits nowMs slot)
        (some (TcpStream.rejectFlow arena.limits slot.entry nowMs)) :=
      leaves_rejectFlow (liveWf slot (List.mem_of_getElem? holds)) nowMs
        rfl rfl
    refine ⟨⟨liveWf.set leaves.wf, ?_⟩, rfl⟩
    simp only [tracker, Nat.zero_add, flows_set, leaves.flow]
  | @free index slot holds inactive =>
    have opened := initializeFlow_active
      (liveWf slot (List.mem_of_getElem? holds)) (buildKey packet)
      packet.tcpSequence nowMs
    have leaves : Leaves arena.limits (rejectFlow arena.limits nowMs
          (initializeFlow arena.limits (buildKey packet) packet.tcpSequence nowMs slot))
        (some (TcpStream.rejectFlow arena.limits
          (TcpStream.initializeFlow arena.limits (buildKey packet)
            packet.tcpSequence nowMs) nowMs)) :=
      leaves_rejectFlow opened.toSlotWf nowMs rfl rfl
    simp only [Option.none_or]
    split
    · exact ⟨⟨liveWf, rfl⟩, rfl⟩
    · refine ⟨⟨liveWf.set leaves.wf, ?_⟩, rfl⟩
      simp only [tracker, Nat.zero_add, flows_set, leaves.flow]
  | full => exact ⟨⟨liveWf, rfl⟩, rfl⟩

theorem step_refines (call : TrackerCall) :
    Refines (arena.step call).1 (trackerStep arena.tracker call).1 ∧
      (arena.step call).2 = (trackerStep arena.tracker call).2 := by
  cases call with
  | add packet nowMs outputSize messageCapacity =>
    obtain ⟨refines, same⟩ := add_refines wf packet nowMs outputSize messageCapacity
    exact ⟨refines, congrArg TrackerAnswer.added same⟩
  | addRaw packet nowMs outputSize =>
    obtain ⟨refines, same⟩ := addRaw_refines wf packet nowMs outputSize
    exact ⟨refines, congrArg TrackerAnswer.addedRaw same⟩
  | rejectFlow packet nowMs =>
    obtain ⟨refines, same⟩ := rejectPacketFlow_refines wf packet nowMs
    exact ⟨refines, congrArg TrackerAnswer.rejectedFlow same⟩

end

theorem created_refines (created : create limits = .ok arena) :
    SlotsWf arena.limits arena.slots ∧ tcpStreamTrackerCreate limits = .ok arena.tracker := by
  unfold create at created
  split at created
  case isTrue limitsValid =>
    cases created
    refine ⟨?_, ?_⟩
    · intro slot member
      rw [(List.mem_replicate.mp member).2]
      exact zeroSlot_wf limits
    · have empty : (zeroSlot limits).flow = none := rfl
      simp [tcpStreamTrackerCreate, limitsValid, tracker, empty]
  case isFalse => cases created

/-- The slots stay well formed, and the tracker runs like the one without the arenas. -/
theorem run_refines (wf : SlotsWf arena.limits arena.slots) (calls : List TrackerCall) :
    (∀ event ∈ run step arena calls, SlotsWf event.after.limits event.after.slots) ∧
    (run step arena calls).map (fun event =>
        ({ before := event.before.tracker, input := event.input,
           answer := event.answer, after := event.after.tracker } :
          Event TcpStreamTracker TrackerCall TrackerAnswer)) =
      run trackerStep arena.tracker calls := by
  induction calls generalizing arena with
  | nil => exact ⟨by simp [run], rfl⟩
  | cons call rest ih =>
    obtain ⟨refines, sameAnswer⟩ := step_refines wf call
    obtain ⟨restWf, restRun⟩ := ih refines.wf
    refine ⟨List.forall_mem_cons.mpr ⟨refines.wf, restWf⟩, ?_⟩
    simp [run, restRun, eventOf, sameAnswer, refines.tracker]

/-- From the creation on, the arenas give the answers of the tracker. -/
theorem create_run_answers (limits : TcpStreamLimits) (calls : List TrackerCall) :
    (create limits).map (fun arena => (run step arena calls).map Event.answer) =
      (tcpStreamTrackerCreate limits).map
        fun tracker => (run trackerStep tracker calls).map Event.answer := by
  by_cases valid : tcpStreamLimitsValidate limits = 0
  · have created : create limits = .ok _ := dif_pos valid
    obtain ⟨wf, same⟩ := created_refines created
    rw [created, same]
    simp only [Except.map, ← (run_refines wf calls).2, List.map_map]
    rfl
  · simp [create, tcpStreamTrackerCreate, valid, Except.map]

end StreamArena

end JanusGate
