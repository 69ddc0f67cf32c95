import JanusGate.Daemon.StreamInvariant
import JanusGate.Foundation.Outcome

/-!
# Bytes a flow has seen

The tracker answers DUPLICATE without looking at bytes in front of the stream
base.  The history of a connection gives every byte a stream position, so that
what was consumed can be compared with what the packets carried.
-/

namespace JanusGate

open List

namespace TcpStream

/-! ## The receive window -/

variable {window : List (Option UInt8)} {index count : Nat} {value : UInt8} {entry : StreamEntry}
  {bytes : Bytes} {connection : Connection}

theorem overlay_getElem? (result : overlay window payload = some (placed, changed))
    (fits : payload.length ≤ window.length) :
    placed.length = window.length ∧ ∀ index : Nat, placed[index]? =
      if index < payload.length then some payload[index]? else window[index]? := by
  induction payload generalizing window placed changed with
  | nil =>
    have same : window = placed ∧ false = changed := by
      cases window <;> simpa [overlay] using result
    simp [same.1]
  | cons byte rest ih =>
    cases window with
    | nil => simp at fits
    | cons slot window =>
      have written : ∃ tail flag, overlay window rest = some (tail, flag) ∧
          some byte :: tail = placed := by
        cases slot with
        | none =>
          obtain ⟨⟨tail, flag⟩, placedRest, same⟩ := Option.map_eq_some_iff.mp result
          exact ⟨tail, flag, placedRest, (Prod.mk.inj same).1⟩
        | some held =>
          unfold overlay at result
          split at result
          case isFalse => cases result
          case isTrue equal =>
            obtain ⟨⟨tail, flag⟩, placedRest, same⟩ := Option.map_eq_some_iff.mp result
            exact ⟨tail, flag, placedRest, equal ▸ (Prod.mk.inj same).1⟩
      obtain ⟨tail, flag, placedRest, rfl⟩ := written
      obtain ⟨length, pointwise⟩ := ih placedRest (by simpa using fits)
      refine ⟨by simpa using length, ?_⟩
      intro index
      cases index with
      | zero => simp
      | succ index => simpa using pointwise index

theorem insertPayload_getElem?
    (result : insertPayload window offset payload = some (placed, changed))
    (fits : offset + payload.length ≤ window.length) :
    placed.length = window.length ∧ ∀ index : Nat, placed[index]? =
      if offset ≤ index ∧ index < offset + payload.length then some payload[index - offset]?
      else window[index]? := by
  obtain ⟨⟨tail, flag⟩, overlaid, same⟩ := Option.map_eq_some_iff.mp result
  obtain ⟨rfl, rfl⟩ := Prod.mk.inj same
  have front : (window.take offset).length = offset := by
    rw [length_take]
    omega
  obtain ⟨length, pointwise⟩ := overlay_getElem? overlaid (by rw [length_drop]; omega)
  rw [length_drop] at length
  constructor
  · rw [length_append, front, length]
    omega
  intro index
  by_cases before : index < offset
  · rw [if_neg (by omega), getElem?_append_left (by omega), getElem?_take, if_pos before]
  rw [getElem?_append_right (by omega), front, pointwise, getElem?_drop,
    Nat.add_sub_cancel' (by omega)]
  exact if_congr (by omega) rfl rfl

theorem insertPayload_spec (result : insertPayload window offset payload = some (placed, changed))
    (fits : offset + payload.length ≤ window.length) :
    placed.length = window.length ∧ (∀ (index : Nat) (value : UInt8), payload[index]? = some value →
        placed[offset + index]? = some (some value)) ∧
      ∀ (index : Nat) (value : UInt8), placed[index]? = some (some value) →
        window[index]? = some (some value) ∨ ∃ inside, index = offset + inside ∧
            payload[inside]? = some value := by
  obtain ⟨length, pointwise⟩ := insertPayload_getElem? result fits
  refine ⟨length, ?_, ?_⟩
  · intro index value holds
    have inside := (List.getElem?_eq_some_iff.mp holds).1
    rw [pointwise, if_pos (by omega), Nat.add_sub_cancel_left, holds]
  · intro index value holds
    rw [pointwise] at holds
    split at holds
    · exact .inr ⟨index - offset, by omega, Option.some.inj holds⟩
    · exact .inl holds

theorem contiguousBytes_window (holds : (contiguousBytes window)[index]? = some value) :
    window[index]? = some (some value) := by
  induction window generalizing index with
  | nil => simp [contiguousBytes] at holds
  | cons slot rest ih =>
    cases slot with
    | none => simp [contiguousBytes] at holds
    | some byte =>
      cases index with
      | zero => simpa [contiguousBytes] using holds
      | succ index => simpa using ih (by simpa [contiguousBytes] using holds)

theorem contiguousBytes_length_le (window : List (Option UInt8)) :
    (contiguousBytes window).length ≤ window.length := by
  induction window with
  | nil => simp [contiguousBytes]
  | cons slot rest ih =>
    cases slot with
    | none => simp [contiguousBytes]
    | some byte => simpa [contiguousBytes] using ih

theorem consumePrefix_window
    (holds : (consumePrefix entry consumed).window[index]? = some (some value)) :
    entry.window[consumed + index]? = some (some value) := by
  dsimp only [consumePrefix] at holds
  by_cases inside : index < (entry.window.drop consumed).length
  · rw [getElem?_append_left inside, getElem?_drop] at holds
    exact holds
  · rw [getElem?_append_right (by omega), getElem?_replicate] at holds
    split at holds <;> cases holds

/-! ## What a segment does to its flow -/

/-- The stream bytes of complete messages, each behind its length. -/
def framedBytes (messages : List Bytes) : Bytes :=
  messages.flatMap fun message =>
    [UInt8.ofNat (message.length / 256), UInt8.ofNat (message.length % 256)] ++ message

theorem framedBytes_cons (size : message.length = high.toNat * 256 + low.toNat) :
    framedBytes (message :: later) = high :: low :: (message ++ framedBytes later) := by
  have lowBound := low.toNat_lt
  have highByte : message.length / 256 = high.toNat := by omega
  have lowByte : message.length % 256 = low.toNat := by omega
  simp [framedBytes, highByte, lowByte]

theorem emitMessages_framed
    (emitted : emitMessages limits fuel count bytes = .ok (messages, consumed)) :
    consumed ≤ bytes.length ∧ bytes.take consumed = framedBytes messages := by
  induction fuel generalizing count bytes messages consumed with
  | zero =>
    cases emitted
    simp [framedBytes]
  | succ fuel ih =>
    rcases bytes with _ | ⟨high, _ | ⟨low, tail⟩⟩
    · cases emitted
      simp [framedBytes]
    · cases emitted
      simp [framedBytes]
    unfold emitMessages at emitted
    simp only [length_cons, byteAt, getD_cons_zero, getD_cons_succ] at emitted
    rw [if_neg (by omega)] at emitted
    split at emitted
    · cases emitted
    split at emitted
    · cases emitted
      simp [framedBytes]
    case isFalse whole =>
      split at emitted
      · cases emitted
      obtain ⟨⟨later, laterSize⟩, rest, same⟩ := Outcome.map_eq_ok.mp emitted
      obtain ⟨rfl, rfl⟩ := Prod.mk.inj same
      obtain ⟨laterFits, laterBytes⟩ := ih rest
      simp only [drop_succ_cons] at laterFits laterBytes
      rw [length_drop] at laterFits
      refine ⟨by simp only [length_cons]; omega, ?_⟩
      have message : slice (high :: low :: tail) 2 (high.toNat * 256 + low.toNat) =
            tail.take (high.toNat * 256 + low.toNat) := rfl
      have size : (tail.take (high.toNat * 256 + low.toNat)).length =
            high.toNat * 256 + low.toNat := by
        rw [length_take]
        omega
      rw [message, framedBytes_cons size, ← laterBytes]
      rw [show high.toNat * 256 + low.toNat + 2 + laterSize =
        high.toNat * 256 + low.toNat + laterSize + 1 + 1 by omega,
        take_succ_cons, take_succ_cons, take_add]

inductive FlowOutcome (limits : TcpStreamLimits) (packet : PacketView)
    (entry : StreamEntry) : Option StreamEntry → Bytes → Bool → Prop
  | dead (emitted : Bytes) (rejected : ∀ left ∈ slot, left.rejected = true) :
      FlowOutcome limits packet entry slot emitted false
  | idle (noPayload : packet.payloadSize = 0) :
      FlowOutcome limits packet entry (some entry) [] false
  | consumed (placed : placeSegment limits packet entry = .consumed) :
      FlowOutcome limits packet entry (some entry) [] true
  | kept (placed : placeSegment limits packet entry =
        .inserted inserted changed) :
      FlowOutcome limits packet entry (some inserted) [] (!changed)
  | taken {count : Nat} (placed : placeSegment limits packet entry = .inserted inserted changed)
      (within : count ≤ (contiguousBytes inserted.window).length) :
      FlowOutcome limits packet entry (some (consumePrefix inserted count))
        ((contiguousBytes inserted.window).take count) false

theorem finishFlow_rejected : ∀ left ∈ finishFlow limits entry nowMs, left.rejected = true := by
  intro left member
  unfold finishFlow at member
  split at member
  · cases member
    rfl
  · cases member

/-- The stream bytes that an answer of the DNS entry point hands out. -/
def dnsEmitted : Except Int TcpStreamResult → Bytes
  | .ok (.messages messages) => framedBytes messages
  | _ => []

def dnsDuplicate : Except Int TcpStreamResult → Bool
  | .ok .duplicate => true
  | _ => false

/-- The stream bytes that an answer of the raw entry point hands out. -/
def rawEmitted : Except Int (TcpRawStreamChunk × TcpRawStreamResult) → Bytes
  | .ok (chunk, _) => chunk.output
  | .error _ => []

def rawDuplicate : Except Int (TcpRawStreamChunk × TcpRawStreamResult) → Bool
  | .ok (_, .duplicate) => true
  | _ => false

theorem placeSegment_empty (placed : placeSegment limits packet entry = .empty) :
    packet.payloadSize = 0 := by
  cases placeSegment_placing placed with
  | empty noPayload => exact noPayload

theorem FlowOutcome.rejecting (other : StreamEntry) (emitted : Bytes) :
    FlowOutcome limits packet entry (some (rejectFlow limits other nowMs)) emitted false := by
  refine .dead emitted ?_
  rintro left same
  cases same
  rfl

section

variable (limits : TcpStreamLimits) (packet : PacketView) (nowMs : Nat) (entry : StreamEntry)

theorem addToFlow_outcome : FlowOutcome limits packet entry (addToFlow limits packet nowMs entry).1
      (dnsEmitted (.ok (addToFlow limits packet nowMs entry).2))
      (dnsDuplicate (.ok (addToFlow limits packet nowMs entry).2)) := by
  unfold addToFlow
  cases placed : placeSegment limits packet entry with
  | finished => exact .dead _ finishFlow_rejected
  | empty => exact .idle (placeSegment_empty placed)
  | consumed => exact .consumed placed
  | conflict | exhausted => exact .rejecting entry _
  | inserted inserted changed =>
    unfold emitInserted
    dsimp only
    cases emitted : emitMessages limits (contiguousBytes inserted.window).length 0
        (contiguousBytes inserted.window) with
    | error failure =>
      cases failure with
      | malformed | exhausted => exact .rejecting inserted _
    | ok found =>
      obtain ⟨messages, consumed⟩ := found
      obtain ⟨within, bytes⟩ := emitMessages_framed emitted
      cases messages with
      | nil =>
        dsimp only
        split
        · exact .dead _ finishFlow_rejected
        · cases changed with
          | true | false => exact .kept placed
      | cons message later =>
        dsimp only
        split
        · exact .dead _ finishFlow_rejected
        · have taken : FlowOutcome limits packet entry _ _ _ := .taken placed within
          rw [bytes] at taken
          exact taken

theorem addRawToFlow_outcome (chunk : TcpRawStreamChunk)
    (output : chunk.output = (addRawToFlow limits packet nowMs entry).2.1) :
    FlowOutcome limits packet entry (addRawToFlow limits packet nowMs entry).1
      (rawEmitted (.ok (chunk, (addRawToFlow limits packet nowMs entry).2.2.2)))
      (rawDuplicate (.ok (chunk, (addRawToFlow limits packet nowMs entry).2.2.2))) := by
  unfold rawEmitted
  dsimp only
  rw [output]
  unfold addRawToFlow
  cases placed : placeSegment limits packet entry with
  | finished => exact .dead _ finishFlow_rejected
  | empty => exact .idle (placeSegment_empty placed)
  | consumed => exact .consumed placed
  | conflict | exhausted => exact .rejecting entry _
  | inserted inserted changed =>
    unfold takeInserted
    dsimp only
    split
    · split
      · exact .dead _ finishFlow_rejected
      · have taken : FlowOutcome limits packet entry _ _ _ := .taken placed (Nat.le_refl _)
        rw [take_length] at taken
        exact taken
    · split
      · exact .dead _ finishFlow_rejected
      · cases changed with
        | true | false => exact .kept placed

end

/-! ## Stream positions -/

/-- How many bytes were consumed, and the position and payload of every segment. -/
structure Connection where
  consumed : Nat := 0
  segments : List (Int × Bytes) := []
  deriving DecidableEq

/-- The signed distance of a sequence number from the base, at the number of consumed bytes. -/
def streamPosition (consumed : Nat) (base sequence : UInt32) : Int :=
  if sequence - base ≤ 0x7fffffff then consumed + (sequence - base).toNat
  else consumed - (base - sequence).toNat

def Carried (segments : List (Int × Bytes)) (position : Int) (value : UInt8) : Prop :=
  ∃ segment ∈ segments, ∃ index, index < segment.2.length ∧
    segment.1 + index = position ∧ byteAt segment.2 index = value

/-- A payload does not start before the stream, and repeats what was already consumed. -/
def Consistent (connection : Connection) (start : Int) (payload : Bytes) : Prop :=
  (payload ≠ [] → 0 ≤ start) ∧ ∀ segment ∈ connection.segments, ∀ index, index < segment.2.length →
      ∀ inside, inside < payload.length → segment.1 + index = start + inside →
        start + inside < connection.consumed → byteAt segment.2 index = byteAt payload inside

structure FlowHistory (limits : TcpStreamLimits)
    (emitted : UInt32 → UInt8 → Prop) (connection : Connection)
    (entry : StreamEntry) : Prop where
  length : entry.window.length = limits.maxBufferedBytes
  consumed : ∀ position, position < connection.consumed →
    ∃ value, Carried connection.segments position value ∧ emitted (entry.baseSequence -
        UInt32.ofNat (connection.consumed - position)) value
  buffered : ∀ (offset : Nat) (value : UInt8), entry.window[offset]? = some (some value) →
      Carried connection.segments ((connection.consumed + offset : Nat) : Int) value

theorem Carried.append (carried : Carried segments position value) (more : List (Int × Bytes)) :
    Carried (segments ++ more) position value := by
  obtain ⟨segment, member, rest⟩ := carried
  exact ⟨segment, mem_append_left more member, rest⟩

theorem byteAt_of_getElem? (holds : bytes[index]? = some value) :
    index < bytes.length ∧ byteAt bytes index = value := by
  obtain ⟨bound, same⟩ := List.getElem?_eq_some_iff.mp holds
  exact ⟨bound, by simp [byteAt, holds]⟩

theorem getElem?_of_byteAt (bound : index < bytes.length) :
    bytes[index]? = some (byteAt bytes index) := by
  simp [byteAt, getElem?_eq_getElem bound]

/-! ## Sequence numbers -/

theorem sequence_at_distance (base sequence : UInt32) (index : Nat) :
    base + UInt32.ofNat ((sequence - base).toNat + index) = sequence + UInt32.ofNat index := by
  have baseBound := base.toNat_lt
  apply UInt32.toNat.inj
  simp only [UInt32.toNat_add, UInt32.toNat_sub, UInt32.toNat_ofNat']
  omega

theorem sequence_before_base {sequence} (before : index ≤ (base - sequence).toNat) :
    base - UInt32.ofNat ((base - sequence).toNat - index) = sequence + UInt32.ofNat index := by
  have sequenceBound := sequence.toNat_lt
  apply UInt32.toNat.inj
  simp only [UInt32.toNat_add, UInt32.toNat_sub, UInt32.toNat_ofNat'] at before ⊢
  omega

theorem sequence_older (base : UInt32) (count older : Nat) :
    base + UInt32.ofNat count - UInt32.ofNat (older + count) = base - UInt32.ofNat older := by
  apply UInt32.toNat.inj
  simp only [UInt32.toNat_add, UInt32.toNat_sub, UInt32.toNat_ofNat']
  omega

theorem sequence_taken (inside : index ≤ count) :
    base + UInt32.ofNat count - UInt32.ofNat (count - index) = base + UInt32.ofNat index := by
  apply UInt32.toNat.inj
  simp only [UInt32.toNat_add, UInt32.toNat_sub, UInt32.toNat_ofNat']
  omega

theorem sequence_after_trim (base sequence : UInt32) (index : Nat) :
    sequence + UInt32.ofNat ((base - sequence).toNat + index) = base + UInt32.ofNat index := by
  exact sequence_at_distance sequence base index

/-- `trimmed` bytes lie before the base, the rest is in the window at `offset`. -/
theorem placeSegment_inserted
    (placed : placeSegment limits packet entry = .inserted inserted changed) (consumed : Nat) :
    ∃ trimmed offset window, insertPayload entry.window offset
          ((payloadBytes packet).drop trimmed) = some (window, changed) ∧
      inserted = { entry with window := window } ∧
      offset + ((payloadBytes packet).drop trimmed).length ≤ limits.maxBufferedBytes ∧
      streamPosition consumed entry.baseSequence (payloadSequence packet) +
        trimmed = consumed + offset ∧
      (∀ index, payloadSequence packet + UInt32.ofNat (trimmed + index) =
        entry.baseSequence + UInt32.ofNat (offset + index)) ∧
      (∀ index, index < trimmed → entry.baseSequence - UInt32.ofNat (trimmed - index) =
          payloadSequence packet + UInt32.ofNat index) ∧
      (0 < trimmed → offset = 0) ∧
      trimmed ≤ (payloadBytes packet).length := by
  cases placeSegment_placing placed with
  | inserted aligned result fits few =>
    refine ⟨_, _, _, result, rfl, fits, ?_⟩
    cases aligned with
    | ahead within =>
      refine ⟨by simp [streamPosition, within], fun index => ?_, by omega, by omega, Nat.zero_le _⟩
      rw [sequence_at_distance]
      simp
    | behind before longer =>
      refine ⟨by simp [streamPosition, before], fun index => ?_, fun index inside =>
        sequence_before_base (by omega), fun _ => rfl, by omega⟩
      rw [sequence_after_trim]
      simp

theorem placeSegment_consumed
    (placed : placeSegment limits packet entry = .consumed) (consumed : Nat) :
    ∃ behind, (payloadBytes packet).length ≤ behind ∧
      streamPosition consumed entry.baseSequence (payloadSequence packet) = consumed - behind ∧
      ∀ index, index < (payloadBytes packet).length →
        entry.baseSequence - UInt32.ofNat (behind - index) =
          payloadSequence packet + UInt32.ofNat index := by
  cases placeSegment_placing placed with
  | consumed before covered =>
    exact ⟨_, covered, by simp [streamPosition, before],
      fun index inside => sequence_before_base (by omega)⟩

/-! ## The history of one flow -/

def Connection.extend (connection : Connection) (base : UInt32)
    (packet : PacketView) (emitted : Bytes) : Connection where
  consumed := connection.consumed + emitted.length
  segments := connection.segments ++
    [(streamPosition connection.consumed base (payloadSequence packet), payloadBytes packet)]

variable (history : FlowHistory limits emitted connection entry)

include history

theorem FlowHistory.mono
    (implies : ∀ sequence value, emitted sequence value → more sequence value) :
    FlowHistory limits more connection entry where
  length := history.length
  consumed := by
    intro position before
    obtain ⟨value, carried, handed⟩ := history.consumed position before
    exact ⟨value, carried, implies _ _ handed⟩
  buffered := history.buffered

theorem FlowHistory.extend_silent (base : UInt32) (packet : PacketView) :
    FlowHistory limits emitted (connection.extend base packet []) entry where
  length := history.length
  consumed := by
    intro position before
    obtain ⟨value, carried, handed⟩ := history.consumed position before
    exact ⟨value, carried.append _, handed⟩
  buffered := by
    intro offset value holds
    exact (history.buffered offset value holds).append _

theorem FlowHistory.insert
    (placed : placeSegment limits packet entry = .inserted inserted changed) :
    FlowHistory limits emitted (connection.extend entry.baseSequence packet []) inserted := by
  obtain ⟨trimmed, offset, window, result, same, fits, start, _⟩ :=
    placeSegment_inserted placed connection.consumed
  subst same
  have room : offset + ((payloadBytes packet).drop trimmed).length ≤ entry.window.length := by
    rw [history.length]
    exact fits
  obtain ⟨length, written, sources⟩ := insertPayload_spec result room
  have silent := history.extend_silent entry.baseSequence packet
  refine ⟨by rw [length]; exact history.length, silent.consumed, ?_⟩
  intro index value holds
  rcases sources index value holds with old | ⟨inside, rfl, new⟩
  · exact silent.buffered index value old
  rw [getElem?_drop] at new
  obtain ⟨bound, byte⟩ := byteAt_of_getElem? new
  refine ⟨(streamPosition connection.consumed entry.baseSequence
    (payloadSequence packet), payloadBytes packet), by
      simp [Connection.extend], trimmed + inside, bound, ?_, byte⟩
  dsimp only [Connection.extend, length_nil]
  omega

theorem FlowHistory.take (within : count ≤ (contiguousBytes entry.window).length)
    (handed : ∀ index, index < count → emitted (entry.baseSequence + UInt32.ofNat index)
        (byteAt (contiguousBytes entry.window) index)) :
    FlowHistory limits emitted { connection with consumed := connection.consumed + count }
      (consumePrefix entry count) := by
  have bound := contiguousBytes_length_le entry.window
  refine ⟨?_, ?_, ?_⟩
  · have length := history.length
    simp only [consumePrefix, length_append, length_drop, length_replicate]
    omega
  · intro position before
    dsimp only at before ⊢
    by_cases old : position < connection.consumed
    · obtain ⟨value, carried, given⟩ := history.consumed position old
      refine ⟨value, carried, ?_⟩
      dsimp only [consumePrefix]
      rw [show connection.consumed + count - position =
        connection.consumed - position + count by omega, sequence_older]
      exact given
    · have inside : position - connection.consumed < count := by omega
      have held := contiguousBytes_window (getElem?_of_byteAt (show position - connection.consumed <
          (contiguousBytes entry.window).length by omega))
      have carried := history.buffered _ _ held
      rw [show connection.consumed + (position - connection.consumed) =
        position by omega] at carried
      refine ⟨_, carried, ?_⟩
      dsimp only [consumePrefix]
      rw [show connection.consumed + count - position =
        count - (position - connection.consumed) by omega, sequence_taken (by omega)]
      exact handed _ inside
  · intro offset value holds
    have held := consumePrefix_window holds
    have carried := history.buffered _ _ held
    rw [← Nat.add_assoc] at carried
    exact carried

theorem FlowHistory.step (implies : ∀ sequence value, emitted sequence value → more sequence value)
    (handed : ∀ index, index < output.length →
      more (entry.baseSequence + UInt32.ofNat index) (byteAt output index))
    (outcome : FlowOutcome limits packet entry slot output duplicate) :
    ∀ left ∈ slot, left.rejected = false → FlowHistory limits more
        (connection.extend entry.baseSequence packet output) left := by
  have wider := history.mono implies
  intro left member alive
  cases outcome with
  | dead _ rejected =>
    rw [rejected left member] at alive
    cases alive
  | idle =>
    cases member
    exact wider.extend_silent _ _
  | consumed =>
    cases member
    exact wider.extend_silent _ _
  | kept placed =>
    cases member
    exact wider.insert placed
  | @taken inserted _ count placed within =>
    cases member
    have sameBase : inserted.baseSequence = entry.baseSequence := by
      obtain ⟨_, _, _, _, same, _⟩ := placeSegment_inserted placed 0
      rw [same]
    have length : ((contiguousBytes inserted.window).take count).length = count := by
      rw [length_take]
      omega
    have taken := (wider.insert placed).take within (by
      intro index inside
      have given := handed index (by omega)
      rw [← sameBase] at given
      have byte : byteAt ((contiguousBytes inserted.window).take count)
          index = byteAt (contiguousBytes inserted.window) index := by
        simp [byteAt, getD_eq_getElem?_getD, inside]
      rw [byte] at given
      exact given)
    have same : connection.extend entry.baseSequence packet
        ((contiguousBytes inserted.window).take count) =
        { connection.extend entry.baseSequence packet [] with
          consumed := (connection.extend entry.baseSequence packet []).consumed + count } := by
      simp [Connection.extend, length]
    rw [same]
    exact taken

/-- Every byte of a segment answered DUPLICATE was handed out before, or is in
the window. -/
theorem FlowHistory.duplicate {duplicate : Bool}
    (consistent : Consistent connection (streamPosition connection.consumed entry.baseSequence
        (payloadSequence packet)) (payloadBytes packet))
    (outcome : FlowOutcome limits packet entry slot output duplicate)
    (answered : duplicate = true) :
    ∀ index, index < (payloadBytes packet).length →
      emitted (payloadSequence packet + UInt32.ofNat index) (byteAt (payloadBytes packet) index) ∨
        ∃ left ∈ slot, ∃ offset, left.window[offset]? =
            some (some (byteAt (payloadBytes packet) index)) ∧
          left.baseSequence + UInt32.ofNat offset =
            payloadSequence packet + UInt32.ofNat index := by
  intro index inside
  have starts : 0 ≤ streamPosition connection.consumed entry.baseSequence
      (payloadSequence packet) := by
    apply consistent.1
    intro empty
    rw [empty] at inside
    cases inside
  -- a byte before the base was consumed, and the sender repeats it
  have before : ∀ behind : Nat, streamPosition connection.consumed entry.baseSequence
          (payloadSequence packet) = connection.consumed - behind →
      index < behind →
      entry.baseSequence - UInt32.ofNat (behind - index) =
        payloadSequence packet + UInt32.ofNat index →
      emitted (payloadSequence packet + UInt32.ofNat index)
        (byteAt (payloadBytes packet) index) := by
    intro behind start early sequence
    have position : connection.consumed - (behind - index) < connection.consumed := by omega
    obtain ⟨value, ⟨segment, member, source, bound, place, byte⟩, handed⟩ :=
      history.consumed _ position
    have same := consistent.2 segment member source bound index inside (by omega) (by omega)
    rw [show connection.consumed -
      (connection.consumed - (behind - index)) = behind - index by omega, sequence] at handed
    rw [← same, byte]
    exact handed
  cases outcome with
  | consumed placed =>
    obtain ⟨behind, covered, start, sequence⟩ := placeSegment_consumed placed connection.consumed
    exact .inl (before behind start (by omega) (sequence index inside))
  | @kept inserted changed placed =>
    obtain ⟨trimmed, offset, window, result, same, fits, start, sequence,
      early, front, _⟩ := placeSegment_inserted placed connection.consumed
    by_cases old : index < trimmed
    · exact .inl (before trimmed (by omega) old (early index old))
    right
    subst same
    refine ⟨_, rfl, offset + (index - trimmed), ?_, ?_⟩
    · have room : offset + ((payloadBytes packet).drop trimmed).length ≤ entry.window.length := by
        rw [history.length]
        exact fits
      obtain ⟨_, written, _⟩ := insertPayload_spec result room
      apply written
      rw [getElem?_drop, show trimmed + (index - trimmed) = index by omega]
      exact getElem?_of_byteAt inside
    · have aligned := sequence (index - trimmed)
      rw [show trimmed + (index - trimmed) = index by omega] at aligned
      exact aligned.symm
  | dead | idle | taken => cases answered

end TcpStream

end JanusGate
