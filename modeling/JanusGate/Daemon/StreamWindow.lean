import JanusGate.Daemon.StreamHistory

/-!
# Receive windows of raw streams

The raw entry point takes every contiguous byte, so that between two calls no
flow has a byte at its base.  A segment in order with nothing buffered behind
a gap is therefore never refused.
-/

namespace JanusGate

open SlotTable TcpStream List

namespace TcpStream

/-! ## Windows between two calls -/

structure RawWindow (limits : TcpStreamLimits) (entry : StreamEntry) : Prop where
  length : entry.window.length = limits.maxBufferedBytes
  drained : contiguousBytes entry.window = []

theorem contiguousBytes_replicate (count : Nat) :
    contiguousBytes (replicate count none) = [] := by
  cases count <;> rfl

theorem contiguousBytes_drained (window : List (Option UInt8)) (count : Nat) :
    contiguousBytes (window.drop (contiguousBytes window).length ++
      replicate count none) = [] := by
  induction window with
  | nil => simp [contiguousBytes_replicate]
  | cons slot rest ih =>
    cases slot with
    | none => simp [contiguousBytes]
    | some byte => simpa [contiguousBytes] using ih

theorem initializeFlow_window (limits : TcpStreamLimits) (key : StreamKey) (sequence : UInt32)
    (nowMs : Nat) :
    RawWindow limits (initializeFlow limits key sequence nowMs) :=
  ⟨by simp [initializeFlow], contiguousBytes_replicate _⟩

theorem rejectFlow_window (limits : TcpStreamLimits) (entry : StreamEntry) (nowMs : Nat) :
    RawWindow limits (rejectFlow limits entry nowMs) :=
  ⟨by simp [rejectFlow, initializeFlow], contiguousBytes_replicate _⟩

variable {limits : TcpStreamLimits} {entry : StreamEntry} {nowMs behind : Nat}

theorem finishFlow_window : ∀ left ∈ finishFlow limits entry nowMs, RawWindow limits left := by
  intro left member
  unfold finishFlow at member
  split at member
  · cases member
    exact rejectFlow_window _ _ _
  · cases member

theorem placeSegment_length (placed : placeSegment limits packet entry = .inserted inserted changed)
    (length : entry.window.length = limits.maxBufferedBytes) :
    inserted.window.length = limits.maxBufferedBytes := by
  obtain ⟨_, _, window, result, same, fits, _⟩ := placeSegment_inserted placed 0
  subst same
  rw [← length] at fits ⊢
  exact (insertPayload_spec result fits).1

theorem consumePrefix_drained (length : entry.window.length = limits.maxBufferedBytes) :
    RawWindow limits (consumePrefix entry (contiguousBytes entry.window).length) := by
  have bound := contiguousBytes_length_le entry.window
  refine ⟨?_, contiguousBytes_drained _ _⟩
  simp only [consumePrefix, length_append, length_drop, length_replicate]
  omega

theorem addRawToFlow_window (ready : RawWindow limits entry) :
    ∀ left ∈ (addRawToFlow limits packet nowMs entry).1, RawWindow limits left := by
  unfold addRawToFlow
  cases placed : placeSegment limits packet entry with
  | finished => exact finishFlow_window
  | empty =>
    rintro left ⟨⟩
    exact ready
  | consumed =>
    rintro left ⟨⟩
    exact ready
  | conflict =>
    rintro left ⟨⟩
    exact rejectFlow_window _ _ _
  | exhausted =>
    rintro left ⟨⟩
    exact rejectFlow_window _ _ _
  | inserted inserted changed =>
    have length := placeSegment_length placed ready.length
    unfold takeInserted
    dsimp only
    split
    · split
      · exact finishFlow_window
      · rintro left ⟨⟩
        exact consumePrefix_drained length
    case isFalse nothing =>
      split
      · exact finishFlow_window
      · rintro left ⟨⟩
        exact ⟨length, eq_nil_of_length_eq_zero (by omega)⟩

def WindowsDrained (tracker : TcpStreamTracker) : Prop :=
  ∀ index entry, At tracker.entries index entry → RawWindow tracker.limits entry

theorem rawWindow_flowProperty (limits : TcpStreamLimits) :
    FlowProperty limits (RawWindow limits) where
  opened := initializeFlow_window limits
  rejected := rejectFlow_window limits
  touched := fun _ _ ready => { ready with }

theorem tcpStreamTrackerAddRaw_drained (packet : PacketView) (nowMs outputSize : Nat)
    (drained : WindowsDrained tracker) :
    WindowsDrained (tcpStreamTrackerAddRaw tracker packet nowMs outputSize).1 := by
  have every := (rawWindow_flowProperty tracker.limits).addRaw drained outputSize
    (fun _ => @addRawToFlow_window _ _ nowMs packet)
  rwa [← (tcpStreamTrackerAddRaw_write tracker packet nowMs outputSize).limits_eq] at every

theorem tcpStreamTrackerRejectFlow_drained (packet : PacketView) (nowMs : Nat)
    (drained : WindowsDrained tracker) :
    WindowsDrained (tcpStreamTrackerRejectFlow tracker packet nowMs).1 := by
  have every := (rawWindow_flowProperty tracker.limits).rejectFlow drained packet nowMs
  rwa [← (tcpStreamTrackerRejectFlow_write tracker packet nowMs).limits_eq] at every

/-! ## Segments in order -/

theorem window_empty (nothing : flowHasBytes window = false) :
    window = replicate window.length none := by
  apply eq_replicate_iff.mpr
  refine ⟨rfl, fun slot member => ?_⟩
  have none := any_eq_false.mp nothing slot member
  simpa using none

variable (payload : Bytes) (count : Nat)

theorem overlay_replicate (fits : payload.length ≤ count) :
    overlay (replicate count none) payload =
      some (payload.map some ++ replicate (count - payload.length) none,
        !payload.isEmpty) := by
  induction payload generalizing count with
  | nil => cases count <;> simp [overlay]
  | cons byte rest ih =>
    cases count with
    | zero => simp at fits
    | succ count =>
      rw [replicate_succ, overlay, ih count (by simpa using fits)]
      simp

theorem rangeCount_front (inside : Bool) :
    rangeCount inside (payload.map some ++ replicate count none) ≤ 1 := by
  have nones : ∀ count inside, rangeCount inside (replicate count none) = 0 := by
    intro count
    induction count with
    | zero => intro inside; rfl
    | succ count ih =>
      intro inside
      exact ih false
  have behind : ∀ payload : Bytes, rangeCount true (payload.map some ++ replicate count none) =
        0 := by
    intro payload
    induction payload with
    | nil => exact nones count true
    | cons byte rest ih => simpa [rangeCount] using ih
  cases payload with
  | nil => simp [nones]
  | cons byte rest =>
    simp only [map_cons, cons_append, rangeCount, behind]
    split <;> omega

theorem contiguousBytes_front :
    contiguousBytes (payload.map some ++ replicate count none) = payload := by
  induction payload with
  | nil => exact contiguousBytes_replicate count
  | cons byte rest ih => simpa [contiguousBytes] using ih

/-- A flow with nothing buffered whose base lies `behind` bytes after the
start of a segment. -/
structure InOrder (limits : TcpStreamLimits) (packet : PacketView)
    (entry : StreamEntry) (behind : Nat) : Prop where
  window : entry.window.length = limits.maxBufferedBytes
  nothing : flowHasBytes entry.window = false
  base : entry.baseSequence = payloadSequence packet + UInt32.ofNat behind
  near : behind ≤ bytesLimit
  payload : (payloadBytes packet).length = packet.payloadSize
  fits : packet.payloadSize ≤ limits.maxBufferedBytes
  segments : limits.maxOutOfOrderSegments ≠ 0

theorem InOrder.distance_zero (inOrder : InOrder limits packet entry 0) :
    payloadSequence packet - entry.baseSequence = 0 := by
  rw [inOrder.base]
  simp

section

variable (inOrder : InOrder limits packet entry behind)

include inOrder

theorem InOrder.distance_behind (positive : behind ≠ 0) :
    ¬ payloadSequence packet - entry.baseSequence ≤ 0x7fffffff ∧
      (entry.baseSequence - payloadSequence packet).toNat = behind := by
  have near := inOrder.near
  have bound := (payloadSequence packet).toNat_lt
  unfold bytesLimit at near
  rw [inOrder.base]
  simp only [UInt32.le_iff_toNat_le, UInt32.toNat_add, UInt32.toNat_sub,
    UInt32.toNat_ofNat', UInt32.reduceToNat]
  omega

theorem placeBytes_front {payload : Bytes} (fits : payload.length ≤ limits.maxBufferedBytes) :
    placeBytes limits entry 0 payload = .inserted
        { entry with
          window := payload.map some ++
            replicate (limits.maxBufferedBytes - payload.length) none }
        (!payload.isEmpty) := by
  have window := window_empty inOrder.nothing
  rw [inOrder.window] at window
  have ranges := rangeCount_front payload (limits.maxBufferedBytes - payload.length) false
  have segments := inOrder.segments
  unfold placeBytes insertPayload
  rw [if_neg (by simp [fits])]
  simp only [window, drop_zero, overlay_replicate payload _ fits,
    Option.map_some, take_zero, nil_append]
  rw [if_neg (by omega)]

theorem InOrder.placeSegment_eq :
    placeSegment limits packet entry = if packet.payloadSize ≤ behind then
        if isFin packet then .finished
        else if packet.payloadSize = 0 then .empty else .consumed
      else
        .inserted
          { entry with
            window := ((payloadBytes packet).drop behind).map some ++
              replicate (limits.maxBufferedBytes -
                ((payloadBytes packet).drop behind).length) none }
          (!((payloadBytes packet).drop behind).isEmpty) := by
  have length := inOrder.payload
  have fits := inOrder.fits
  unfold placeSegment
  by_cases empty : packet.payloadSize = 0
  · simp [empty]
  rw [if_neg empty]
  by_cases start : behind = 0
  · subst start
    rw [inOrder.distance_zero, if_pos (by decide), if_neg (by omega)]
    exact placeBytes_front inOrder (by simpa [length] using fits)
  obtain ⟨notAhead, distance⟩ := inOrder.distance_behind start
  rw [if_neg notAhead, distance, length]
  by_cases covered : packet.payloadSize ≤ behind
  · rw [if_pos covered, if_pos covered, if_neg empty]
  · rw [if_neg covered, if_neg covered]
    apply placeBytes_front inOrder
    rw [length_drop]
    omega

end

theorem finishFlow_nothing (nothing : flowHasBytes entry.window = false) :
    finishFlow limits entry nowMs = none := by
  simp [finishFlow, nothing]

theorem flowHasBytes_replicate : flowHasBytes (replicate count none) = false := by
  simp [flowHasBytes]

/-- The flow is not rejected, and its base lies at or after the end of the segment. -/
def Continues (packet : PacketView) (left : StreamEntry) : Prop :=
  left.rejected = false ∧ ∃ behind, behind ≤ bytesLimit ∧
    left.baseSequence = payloadSequence packet +
      UInt32.ofNat packet.payloadSize + UInt32.ofNat behind

theorem continues_behind (alive : left.rejected = false)
    (base : left.baseSequence = payloadSequence packet + UInt32.ofNat behind)
    (near : behind ≤ bytesLimit) (covered : packet.payloadSize ≤ behind) :
    Continues packet left := by
  refine ⟨alive, behind - packet.payloadSize, by omega, ?_⟩
  rw [base, UInt32.add_assoc, ← UInt32.ofNat_add]
  congr 2
  omega

/-- A segment in order is not refused, and the flow goes on unless it carries FIN. -/
theorem InOrder.addRawToFlow_spec (inOrder : InOrder limits packet entry behind)
    (alive : entry.rejected = false) :
    ∃ slot output closed answer, addRawToFlow limits packet nowMs entry =
          (slot, output, closed, answer) ∧
        answer ≠ .conflict ∧ answer ≠ .exhausted ∧
        (closed = true → slot = none) ∧
        ∀ left ∈ slot, Continues packet left := by
  unfold addRawToFlow
  rw [inOrder.placeSegment_eq]
  by_cases covered : packet.payloadSize ≤ behind
  · rw [if_pos covered]
    have goesOn := continues_behind alive inOrder.base inOrder.near covered
    by_cases fin : isFin packet = true
    · rw [if_pos fin]
      refine ⟨_, _, _, _, rfl, by simp, by simp, ?_, ?_⟩ <;>
        simp [finishFlow_nothing inOrder.nothing]
    rw [if_neg fin]
    by_cases empty : packet.payloadSize = 0
    · rw [if_pos empty]
      exact ⟨_, _, _, _, rfl, by simp, by simp, by simp, by simpa using goesOn⟩
    · rw [if_neg empty]
      exact ⟨_, _, _, _, rfl, by simp, by simp, by simp, by simpa using goesOn⟩
  · rw [if_neg covered]
    have length := inOrder.payload
    have size : ((payloadBytes packet).drop behind).length = packet.payloadSize - behind := by
      rw [length_drop, length]
    unfold takeInserted
    simp only [contiguousBytes_front]
    rw [if_pos (by omega)]
    have nothing : flowHasBytes (consumePrefix
        { entry with
          window := ((payloadBytes packet).drop behind).map some ++
            replicate (limits.maxBufferedBytes -
              ((payloadBytes packet).drop behind).length) none }
        ((payloadBytes packet).drop behind).length).window = false := by
      simp only [consumePrefix]
      rw [drop_left' (by simp), ← replicate_add]
      exact flowHasBytes_replicate _
    by_cases fin : isFin packet = true
    · rw [if_pos fin, finishFlow_nothing nothing]
      exact ⟨_, _, _, _, rfl, by simp, by simp, by simp, by simp⟩
    rw [if_neg fin]
    refine ⟨_, _, _, _, rfl, by simp, by simp, by simp [fin], ?_⟩
    rintro left ⟨⟩
    refine ⟨alive, 0, Nat.zero_le _, ?_⟩
    simp only [consumePrefix, size]
    rw [inOrder.base, UInt32.add_assoc, ← UInt32.ofNat_add,
      show behind + (packet.payloadSize - behind) = packet.payloadSize by omega]
    simp

/-! ## The segment that completes a ClientHello -/

theorem contiguousBytes_covers {count : Nat}
    (held : ∀ index, index < count → ∃ value, window[index]? = some (some value)) :
    count ≤ (contiguousBytes window).length := by
  induction window generalizing count with
  | nil =>
    cases count with
    | zero => exact Nat.zero_le _
    | succ count =>
      obtain ⟨_, impossible⟩ := held 0 (by omega)
      simp at impossible
  | cons slot rest ih =>
    cases count with
    | zero => exact Nat.zero_le _
    | succ count =>
      obtain ⟨value, first⟩ := held 0 (by omega)
      have filled : slot = some value := by simpa using first
      subst filled
      have tail := @ih count (by
        intro index inside
        obtain ⟨value, holds⟩ := held (index + 1) (by omega)
        exact ⟨value, by simpa using holds⟩)
      simpa [contiguousBytes] using tail

theorem contiguousBytes_reached {payload : Bytes}
    (result : insertPayload window offset payload = some (placed, changed))
    (fits : offset + payload.length ≤ window.length) (drained : contiguousBytes window = [])
    (reached : 0 < (contiguousBytes placed).length) : offset = 0 := by
  have front := contiguousBytes_window (getElem?_eq_getElem reached)
  obtain ⟨_, _, sources⟩ := insertPayload_spec result fits
  rcases sources 0 _ front with old | ⟨inside, start, _⟩
  · cases window with
    | nil => simp at old
    | cons slot rest =>
      rw [getElem?_cons_zero, Option.some.injEq] at old
      rw [old] at drained
      simp [contiguousBytes] at drained
  · omega

theorem addRawToFlow_bytes
    (ready : RawWindow limits entry) (bounded : limits.maxBufferedBytes ≤ bytesLimit)
    (payload : (payloadBytes packet).length = packet.payloadSize) (alive : entry.rejected = false)
    (noFin : isFin packet = false)
    (added : addRawToFlow limits packet nowMs entry = (slot, output, closed, .bytes)) :
    closed = false ∧ ∀ left ∈ slot, Continues packet left := by
  unfold addRawToFlow at added
  cases placed : placeSegment limits packet entry with
  | inserted inserted changed =>
    obtain ⟨trimmed, offset, window, result, same, fits, _, sequence, _, _,
      short⟩ := placeSegment_inserted placed 0
    rw [placed] at added
    subst same
    dsimp only [takeInserted] at added
    rw [← ready.length] at fits
    split at added
    case isTrue reached =>
      rw [noFin] at added
      cases added
      refine ⟨rfl, ?_⟩
      rintro left ⟨⟩
      have start := contiguousBytes_reached result fits ready.drained reached
      subst start
      obtain ⟨length, written, _⟩ := insertPayload_spec result fits
      have covers := @contiguousBytes_covers window ((payloadBytes packet).drop trimmed).length (by
          intro index inside
          have here := written index _ (getElem?_eq_getElem inside)
          rw [Nat.zero_add] at here
          exact ⟨_, here⟩)
      have within := contiguousBytes_length_le window
      have first : payloadSequence packet + UInt32.ofNat trimmed =
          entry.baseSequence := by simpa using sequence 0
      rw [length_drop] at covers
      refine ⟨alive, (contiguousBytes window).length + trimmed - packet.payloadSize, ?_, ?_⟩
      · have readyLength := ready.length
        omega
      · simp only [consumePrefix]
        rw [← first, UInt32.add_assoc, UInt32.add_assoc, ← UInt32.ofNat_add, ← UInt32.ofNat_add]
        congr 2
        omega
    case isFalse =>
      split at added
      · cases added
      · split at added <;> cases added
  | finished | empty | consumed | conflict | exhausted => simp [placed] at added

end TcpStream

end JanusGate
