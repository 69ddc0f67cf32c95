import JanusGate.Daemon.StreamHistory
import JanusGate.Foundation.SeenWindow

/-!
# A flow as a window on a stream

When every segment carries bytes of one stream, the receive window of its flow
is what has been seen of that stream from the base on.  A segment is placed
without a conflict, the contiguous bytes are those in front of the first gap,
and the framing loop emits the messages that they complete.
-/

namespace JanusGate

namespace TcpStream

open SeenWindow List

/-! ## Placing bytes of the stream -/

variable {payload : Bytes} {window : List (Option UInt8)}

theorem overlay_agrees (agrees : ∀ (index : Nat) (held value : UInt8),
      window[index]? = some (some held) → payload[index]? = some value → held = value) :
    ∃ placed changed, overlay window payload = some (placed, changed) := by
  induction payload generalizing window with
  | nil => cases window <;> exact ⟨_, _, rfl⟩
  | cons byte payload ih =>
    cases window with
    | nil => exact ⟨_, _, rfl⟩
    | cons slot window =>
      obtain ⟨placed, changed, rest⟩ := @ih window
        fun index held value there carried => agrees (index + 1) held value there carried
      cases slot with
      | none =>
        rw [overlay, rest]
        exact ⟨_, _, rfl⟩
      | some held =>
        rw [overlay, if_pos (agrees 0 held byte rfl rfl), rest]
        exact ⟨_, _, rfl⟩

variable {offset : Nat}

def covers (position size : Nat) (index : Nat) : Bool :=
  decide (position ≤ index) && decide (index < position + size)

variable {position size : Nat}

theorem covers_iff {index : Nat} :
    covers position size index = true ↔ position ≤ index ∧ index < position + size := by
  simp [covers]

variable {stream : Bytes}

theorem getElem?_slice (inside : index < size) :
    (slice stream position size)[index]? = stream[position + index]? := by
  rw [slice, getElem?_take, if_pos inside, getElem?_drop]

variable {seen : Nat → Bool}

theorem insertPayload_seen (fits : offset + payload.length ≤ size)
    (bytes : payload = slice stream (base + offset) payload.length) :
    ∃ changed, insertPayload (seenWindow stream seen base size) offset payload =
      some (seenWindow stream (fun position => seen position ||
          covers (base + offset) payload.length position) base size,
        changed) := by
  have carried : ∀ index, index < payload.length →
      payload[index]? = stream[base + offset + index]? := by
    intro index small
    have same := @getElem?_slice (base + offset) payload.length stream index small
    rwa [← bytes] at same
  obtain ⟨placed, changed, overlaid⟩ := @overlay_agrees payload
    ((seenWindow stream seen base size).drop offset) (by
      intro index held value there sent
      have small : index < payload.length := by
        by_contra outside
        rw [getElem?_eq_none (by omega)] at sent
        cases sent
      rw [getElem?_drop, seenWindow_getElem? (by omega)] at there
      rw [carried index small, Nat.add_assoc] at sent
      split at there
      · rw [sent] at there
        simpa using there.symm
      · cases there)
  have result : insertPayload (seenWindow stream seen base size) offset
      payload = some ((seenWindow stream seen base size).take offset ++ placed, changed) := by
    rw [insertPayload, overlaid]
    rfl
  refine ⟨changed, ?_⟩
  rw [result, Option.some.injEq, Prod.mk.injEq, and_iff_left rfl]
  obtain ⟨length, pointwise⟩ :=
    insertPayload_getElem? result (by rw [seenWindow_length]; exact fits)
  apply eq_seenWindow
  · rw [length, seenWindow_length]
  intro index small
  rw [pointwise index]
  by_cases inside : offset ≤ index ∧ index < offset + payload.length
  · have covered : covers (base + offset) payload.length (base + index) =
        true := covers_iff.mpr (by omega)
    rw [if_pos inside, covered, Bool.or_true, if_pos rfl, carried _ (by omega)]
    congr 2
    omega
  · have apart : covers (base + offset) payload.length (base + index) = false := by
      rw [← Bool.not_eq_true, covers_iff]
      omega
    rw [if_neg inside, apart, Bool.or_false, seenWindow_getElem? small]

theorem contiguousBytes_seen (known : ∀ position, seen position = true → position < stream.length)
    (base size : Nat) :
    contiguousBytes (seenWindow stream seen base size) =
      slice stream base (leading seen base size) := by
  induction size generalizing base with
  | zero => simp [seenWindow, contiguousBytes, leading, slice]
  | succ size ih =>
    rw [seenWindow, leading]
    cases first : seen base with
    | false => simp [contiguousBytes, slice]
    | true =>
      have inside := known base first
      rw [if_pos rfl, if_pos rfl, getElem?_eq_getElem inside,
        contiguousBytes, ih (base + 1), slice, slice,
        drop_eq_getElem_cons inside, take_succ_cons]

/-! ## Emitting the messages of the stream -/

def recordSizes (messages : List Bytes) : List Nat := messages.map fun message => message.length + 2

def MessagesSized (limits : TcpStreamLimits) (messages : List Bytes) : Prop :=
  ∀ message ∈ messages, dnsHeaderSize ≤ message.length ∧ message.length ≤ limits.maxDnsMessageSize

variable (messages : List Bytes)

theorem framedBytes_length : (framedBytes messages).length = (recordSizes messages).sum := by
  induction messages with
  | nil => rfl
  | cons message messages ih =>
    rw [framedBytes, flatMap_cons, length_append, recordSizes, map_cons, sum_cons]
    rw [framedBytes, recordSizes] at ih
    rw [ih]
    simp

theorem framedBytes_append (left right : List Bytes) :
    framedBytes (left ++ right) = framedBytes left ++ framedBytes right :=
  flatMap_append

variable (count : Nat)

theorem framedBytes_drop : (framedBytes messages).drop (framedBytes (messages.take count)).length =
      framedBytes (messages.drop count) := by
  have split := framedBytes_append (messages.take count) (messages.drop count)
  rw [take_append_drop] at split
  rw [split, drop_left]

variable {limits : TcpStreamLimits}

theorem emitMessages_round {fuel count : Nat} (isSize : size = high.toNat * 256 + low.toNat)
    (long : dnsHeaderSize ≤ size) (short : size ≤ limits.maxDnsMessageSize) :
    emitMessages limits (fuel + 1) count (high :: low :: rest) = if rest.length < size then
        .ok ([], 0)
      else if count ≥ limits.maxMessagesPerPacket then .error .exhausted
      else
        (emitMessages limits fuel (count + 1) (rest.drop size)).map
          fun later => (rest.take size :: later.1, size + 2 + later.2) := by
  have firstByte : byteAt (high :: low :: rest) 0 = high := rfl
  have secondByte : byteAt (high :: low :: rest) 1 = low := rfl
  have present : ¬ (high :: low :: rest).length < 2 := by
    simp only [length_cons]
    omega
  have accepted : ¬ (size < dnsHeaderSize ∨ size > limits.maxDnsMessageSize) := by omega
  have behind : (high :: low :: rest).drop (size + 2) = rest.drop size := by rfl
  have part : slice (high :: low :: rest) 2 size = rest.take size := rfl
  rw [emitMessages, if_neg present]
  simp only [firstByte, secondByte, ← isSize, if_neg accepted, behind, part]
  by_cases incomplete : rest.length < size
  · rw [if_pos incomplete, if_pos (by simp only [length_cons]; omega)]
  · rw [if_neg incomplete, if_neg (by simp only [length_cons]; omega)]

/-- Contiguous bytes of a framed stream emit the messages that they
complete. -/
theorem emitMessages_records (small : limits.maxDnsMessageSize ≤ dnsLimit) {messages : List Bytes}
    (sized : MessagesSized limits messages) {fuel count available : Nat} (enough : available ≤ fuel)
    (inside : available ≤ (framedBytes messages).length)
    (few : count + fitCount available (recordSizes messages) ≤ limits.maxMessagesPerPacket) :
    emitMessages limits fuel count ((framedBytes messages).take available) =
      .ok (messages.take (fitCount available (recordSizes messages)), (framedBytes (messages.take
          (fitCount available (recordSizes messages)))).length) := by
  induction messages generalizing fuel count available with
  | nil =>
    cases fuel with
    | zero => rfl
    | succ fuel => simp [emitMessages, framedBytes, recordSizes, fitCount]
  | cons message messages ih =>
    obtain ⟨long, short⟩ := sized message (mem_cons_self ..)
    have limit : dnsLimit = 65535 := rfl
    have high : (UInt8.ofNat (message.length / 256)).toNat = message.length / 256 :=
      UInt8.toNat_ofNat_of_lt' (by rw [UInt8.size]; omega)
    have low : (UInt8.ofNat (message.length % 256)).toNat = message.length % 256 :=
      UInt8.toNat_ofNat_of_lt' (by rw [UInt8.size]; omega)
    have size : message.length = (UInt8.ofNat (message.length / 256)).toNat * 256 +
          (UInt8.ofNat (message.length % 256)).toNat := by
      omega
    have framed := @framedBytes_cons message messages _ _ size
    have length : (framedBytes (message :: messages)).length =
        message.length + 2 + (framedBytes messages).length := by
      rw [framed]
      simp only [length_cons, length_append]
      omega
    have sizes : recordSizes (message :: messages) =
        (message.length + 2) :: recordSizes messages := rfl
    rw [sizes, fitCount] at few ⊢
    by_cases header : available < 2
    · rw [if_neg (by omega)]
      cases fuel with
      | zero => rfl
      | succ fuel =>
        rw [emitMessages, if_pos (by rw [length_take]; omega)]
        rfl
    · obtain ⟨later, rfl⟩ : ∃ later, available = later + 2 := ⟨available - 2, by omega⟩
      obtain ⟨fuel, rfl⟩ : ∃ less, fuel = less + 1 := ⟨fuel - 1, by omega⟩
      have rest : ((message ++ framedBytes messages).take later).length = later := by
        rw [length_take, length_append]
        omega
      rw [framed, take_succ_cons, take_succ_cons, emitMessages_round size long short, rest]
      by_cases fits : message.length + 2 ≤ later + 2
      · have wholeMessage : ((message ++ framedBytes messages).take
            later).take message.length = message := by
          rw [take_take, Nat.min_eq_left (by omega), take_left]
        have behind : ((message ++ framedBytes messages).take later).drop message.length =
              (framedBytes messages).take (later - message.length) := by
          rw [drop_take, drop_left]
        have lessRoom : later + 2 - (message.length + 2) = later - message.length := by omega
        rw [if_pos fits, lessRoom] at few
        rw [if_pos fits, lessRoom, if_neg (by omega), if_neg (by omega), behind, wholeMessage,
          ih (fun other member => sized other (mem_cons_of_mem _ member))
            (by omega) (by omega) (by omega), take_succ_cons,
          framedBytes_cons size]
        simp only [Except.map, length_cons, length_append]
        congr 2
        omega
      · rw [if_neg fits, if_pos (by omega)]
        rfl

/-! ## One segment -/

/-- How many messages of the stream have been seen completely. -/
def progress (messages : List Bytes) (seen : Nat → Bool) : Nat :=
  wholeRecords seen 0 (recordSizes messages)

def basePosition (messages : List Bytes) (seen : Nat → Bool) : Nat :=
  (framedBytes (messages.take (progress messages seen))).length

def seenWith (seen : Nat → Bool) (position size : Nat) : Nat → Bool :=
  fun index => seen index || covers position size index

/-- The flow is a window on the stream behind the messages that have been seen
completely. -/
structure Receives (limits : TcpStreamLimits) (messages : List Bytes)
    (start : UInt32) (seen : Nat → Bool) (entry : StreamEntry) : Prop where
  alive : entry.rejected = false
  base : entry.baseSequence = start + UInt32.ofNat (basePosition messages seen)
  window : entry.window = seenWindow (framedBytes messages) seen
    (basePosition messages seen) limits.maxBufferedBytes
  known : ∀ position, seen position = true → position < (framedBytes messages).length
  bounded : ∀ position, seen position = true →
    position < basePosition messages seen + limits.maxBufferedBytes

/-- The packet carries the bytes of the stream at a position. -/
@[mk_iff] structure CarriesAt (messages : List Bytes) (start : UInt32)
    (position : Nat) (packet : PacketView) : Prop where
  sequence : payloadSequence packet = start + UInt32.ofNat position
  bytes : payloadBytes packet = slice (framedBytes messages) position packet.payloadSize
  inside : position + packet.payloadSize ≤ (framedBytes messages).length

/-- A segment starts at most half the sequence space before the window, ends inside it, and leaves
few enough ranges and messages. -/
@[mk_iff] structure WithinLimits (limits : TcpStreamLimits) (messages : List Bytes)
    (seen : Nat → Bool) (position size : Nat) : Prop where
  recent : basePosition messages seen ≤ position + 2147483648
  inWindow : position + size ≤ basePosition messages seen + limits.maxBufferedBytes
  ranges : rangeCount false (seenWindow (framedBytes messages)
      (seenWith seen position size) (basePosition messages seen)
      limits.maxBufferedBytes) ≤ limits.maxOutOfOrderSegments
  few : progress messages (seenWith seen position size) ≤
    progress messages seen + limits.maxMessagesPerPacket

theorem seenWith_grows : ∀ index, seen index = true → seenWith seen position size index = true := by
  intro index before
  rw [seenWith, before, Bool.true_or]

theorem seenWith_below (before : ∀ index, seen index = true → index < finish)
    (inside : position + size ≤ finish) :
    ∀ index, seenWith seen position size index = true → index < finish := by
  intro index present
  rcases Bool.or_eq_true_iff.mp present with known | covered
  · exact before index known
  · have within := covers_iff.mp covered
    omega

theorem unseen_beyond (below : ∀ index, seen index = true → index < finish) :
    ∀ index, finish ≤ index → seen index = false :=
  fun index behind => Bool.eq_false_iff.mpr fun present =>
    Nat.not_lt.mpr behind (below index present)

theorem recordSizes_take :
    (recordSizes messages).take count = recordSizes (messages.take count) := by
  rw [recordSizes, recordSizes, map_take]

theorem recordSizes_drop :
    (recordSizes messages).drop count = recordSizes (messages.drop count) := by
  rw [recordSizes, recordSizes, map_drop]

theorem seen_before_base {messages : List Bytes} (before : position < basePosition messages seen) :
    seen position = true := by
  rw [basePosition, framedBytes_length, ← recordSizes_take] at before
  have known := wholeRecords_seen position before
  rwa [Nat.zero_add] at known

variable {more : Nat → Bool}

theorem progress_split {messages : List Bytes}
    (grows : ∀ index, seen index = true → more index = true) :
    progress messages more = progress messages seen + wholeRecords more (basePosition messages seen)
        (recordSizes (messages.drop (progress messages seen))) := by
  have split := wholeRecords_split (wholeRecords_mono grows 0 (recordSizes messages))
  rw [Nat.zero_add, recordSizes_take, recordSizes_drop, ← framedBytes_length] at split
  exact split

theorem sequence_forward {start : UInt32} {base : Nat} (ahead : base ≤ position)
    (near : position - base < 4294967296) :
    ((start + UInt32.ofNat position) - (start + UInt32.ofNat base)).toNat = position - base := by
  have split : UInt32.ofNat position = UInt32.ofNat base + UInt32.ofNat (position - base) := by
    rw [← UInt32.ofNat_add, Nat.add_sub_cancel' ahead]
  have difference : (start + UInt32.ofNat position) -
      (start + UInt32.ofNat base) = UInt32.ofNat (position - base) := by
    grind
  rw [difference, UInt32.toNat_ofNat_of_lt' (by rw [UInt32.size]; omega)]

theorem sequence_negative {left right : UInt32} (positive : 0 < (right - left).toNat)
    (near : (right - left).toNat ≤ 2147483648) :
    ¬ left - right ≤ 0x7fffffff := by
  intro forward
  have small : (left - right).toNat ≤ 2147483647 := UInt32.le_iff_toNat_le.mp forward
  have opposite : (left - right) + (right - left) = 0 := by grind
  have total := congrArg UInt32.toNat opposite
  rw [UInt32.toNat_add, UInt32.toNat_zero] at total
  omega

section Segment

variable {messages : List Bytes} {start : UInt32} {entry : StreamEntry} {packet : PacketView}

theorem placeBytes_receives (receives : Receives limits messages start seen entry)
    (bytes : payload = slice (framedBytes messages)
      (basePosition messages seen + offset) payload.length)
    (fits : offset + payload.length ≤ limits.maxBufferedBytes)
    (same : ∀ index, more index = (seen index ||
      covers (basePosition messages seen + offset) payload.length index))
    (ranges : rangeCount false (seenWindow (framedBytes messages) more
      (basePosition messages seen) limits.maxBufferedBytes) ≤ limits.maxOutOfOrderSegments) :
    ∃ changed, placeBytes limits entry offset payload =
      .inserted { entry with
        window := seenWindow (framedBytes messages) more
          (basePosition messages seen) limits.maxBufferedBytes } changed := by
  have sameMore : more = fun index => seen index ||
      covers (basePosition messages seen + offset) payload.length index :=
    funext same
  obtain ⟨changed, inserted⟩ := @insertPayload_seen payload
    offset limits.maxBufferedBytes (framedBytes messages) seen (basePosition messages seen)
    fits bytes
  have valid : (!rangeValid offset payload.length limits.maxBufferedBytes) = false := by
    rw [(rangeValid_iff _ _ _).mpr (by omega)]
    rfl
  refine ⟨changed, ?_⟩
  unfold placeBytes
  rw [valid, receives.window, inserted, ← sameMore]
  simp only [Bool.false_eq_true, if_false]
  rw [if_neg (by omega)]

/-- A segment goes into the window, or nowhere when all of it lies in front of the base. -/
theorem placeSegment_receives (small : limits.maxBufferedBytes ≤ bytesLimit)
    (receives : Receives limits messages start seen entry)
    (carries : CarriesAt messages start position packet)
    (length : (payloadBytes packet).length = packet.payloadSize) (payload : packet.payloadSize ≠ 0)
    (within : WithinLimits limits messages seen position packet.payloadSize) :
    (∃ changed, placeSegment limits packet entry =
      .inserted { entry with
        window := seenWindow (framedBytes messages) (seenWith seen position packet.payloadSize)
          (basePosition messages seen) limits.maxBufferedBytes } changed) ∨
    (placeSegment limits packet entry = (if isFin packet then .finished else .consumed) ∧
      seenWith seen position packet.payloadSize = seen) := by
  have limit : bytesLimit = 262144 := rfl
  have recent := within.recent
  have inWindow := within.inWindow
  unfold placeSegment
  rw [if_neg payload]
  by_cases ahead : basePosition messages seen ≤ position
  · have distance := @sequence_forward position start (basePosition messages seen) ahead (by omega)
    rw [← carries.sequence, ← receives.base] at distance
    left
    rw [if_pos (UInt32.le_iff_toNat_le.mpr (by
      exact Nat.le_trans (by omega : _ ≤ 262144) (by decide))), distance]
    refine placeBytes_receives receives ?_ ?_ ?_ within.ranges
    · rw [Nat.add_sub_cancel' ahead, length]
      exact carries.bytes
    · omega
    · intro index
      rw [Nat.add_sub_cancel' ahead, length]
      rfl
  · have distance := @sequence_forward (basePosition messages seen) start
      position (by omega) (by omega)
    rw [← carries.sequence, ← receives.base] at distance
    have negative : ¬ payloadSequence packet - entry.baseSequence ≤
        0x7fffffff := sequence_negative (by omega) (by omega)
    rw [if_neg negative, distance, length]
    by_cases trimmed : basePosition messages seen - position ≥ packet.payloadSize
    · right
      rw [if_pos trimmed, and_iff_right rfl]
      funext index
      rw [seenWith]
      cases covered : covers position packet.payloadSize index with
      | false => rw [Bool.or_false]
      | true =>
        have inside := covers_iff.mp covered
        have before : index < basePosition messages seen := by omega
        rw [seen_before_base before, Bool.true_or]
    · left
      rw [if_neg trimmed]
      have dropped : ((payloadBytes packet).drop (basePosition messages seen - position)).length =
            position + packet.payloadSize - basePosition messages seen := by
        rw [length_drop, length]
        omega
      refine placeBytes_receives receives ?_ ?_ ?_ within.ranges
      · rw [dropped, carries.bytes, slice, slice, drop_take, drop_drop]
        congr 1
        · omega
        · congr 1
          omega
      · omega
      · intro index
        rw [dropped, seenWith]
        by_cases before : index < basePosition messages seen
        · rw [seen_before_base before, Bool.true_or, Bool.true_or]
        · congr 1
          rw [Bool.eq_iff_iff, covers_iff, covers_iff]
          omega

theorem emitMessages_window (dnsSmall : limits.maxDnsMessageSize ≤ dnsLimit)
    (sized : MessagesSized limits messages) (grows : ∀ index, seen index = true → more index = true)
    (known : ∀ index, more index = true → index < (framedBytes messages).length)
    (bounded : ∀ index, more index = true →
      index < basePosition messages seen + limits.maxBufferedBytes)
    (few : progress messages more ≤ progress messages seen + limits.maxMessagesPerPacket)
    (isContiguous : contiguous = contiguousBytes
      (seenWindow (framedBytes messages) more (basePosition messages seen)
        limits.maxBufferedBytes)) :
    emitMessages limits contiguous.length 0 contiguous =
      .ok ((messages.take (progress messages more)).drop (progress messages seen),
        basePosition messages more - basePosition messages seen) ∧
      basePosition messages seen ≤ basePosition messages more ∧
      basePosition messages more - basePosition messages seen ≤ limits.maxBufferedBytes := by
  rw [contiguousBytes_seen known, slice] at isContiguous
  have split := @progress_split seen more messages grows
  rw [wholeRecords_eq_fitCount _ (unseen_beyond bounded)] at split
  have rest : (framedBytes messages).drop (basePosition messages seen) =
      framedBytes (messages.drop (progress messages seen)) :=
    framedBytes_drop messages (progress messages seen)
  generalize leadingIs : leading more (basePosition messages seen)
    limits.maxBufferedBytes = available at *
  have inside : available ≤ (framedBytes (messages.drop (progress messages seen))).length := by
    rw [← rest, length_drop]
    have all := (le_leading_iff (leading_le more (basePosition messages seen)
      limits.maxBufferedBytes)).mp (Nat.le_refl _)
    cases available with
    | zero => omega
    | succ last =>
      have lastKnown := known _ (all last (by omega))
      omega
  rw [rest] at isContiguous
  have length : contiguous.length = available := by
    rw [isContiguous, length_take]
    omega
  have emitted := @emitMessages_records limits dnsSmall (messages.drop (progress messages seen))
    (fun message member => sized message (mem_of_mem_drop member))
    contiguous.length 0 available (by omega) inside (by omega)
  have base : basePosition messages more = basePosition messages seen +
        (framedBytes ((messages.drop (progress messages seen)).take (fitCount available (recordSizes
            (messages.drop (progress messages seen)))))).length := by
    rw [basePosition, split, take_add, framedBytes_append, length_append]
    rfl
  have consumed := (emitMessages_framed emitted).1
  have room := leading_le more (basePosition messages seen) limits.maxBufferedBytes
  rw [length_take] at consumed
  refine ⟨?_, by omega, by omega⟩
  rw [split, drop_take, Nat.add_sub_cancel_left, base,
    Nat.add_sub_cancel_left, ← emitted, ← isContiguous]

def resultMessages : TcpStreamResult → List Bytes
  | .messages messages => messages
  | _ => []

theorem limits_bounds (valid : tcpStreamLimitsValidate limits = 0) :
    limits.maxBufferedBytes ≤ bytesLimit ∧ limits.maxDnsMessageSize ≤ dnsLimit := by
  unfold tcpStreamLimitsValidate at valid
  split at valid
  · cases valid
  · split at valid
    · cases valid
    · omega

theorem seenWith_empty (seen : Nat → Bool) (position : Nat) : seenWith seen position 0 = seen := by
  funext index
  have nothing : covers position 0 index = false := by
    rw [← Bool.not_eq_true, covers_iff]
    omega
  rw [seenWith, nothing, Bool.or_false]

theorem newMessages_none : (messages.take count).drop count = [] :=
  drop_eq_nil_of_le (by rw [length_take]; omega)

section

variable (valid : tcpStreamLimitsValidate limits = 0) (sized : MessagesSized limits messages)
  (receives : Receives limits messages start seen entry)
  (carries : CarriesAt messages start position packet)

include valid sized receives carries

theorem emitInserted_receives
    (within : WithinLimits limits messages seen position packet.payloadSize)
    (isInserted : inserted = { entry with
      window := seenWindow (framedBytes messages) (seenWith seen position packet.payloadSize)
        (basePosition messages seen) limits.maxBufferedBytes }) (nowMs : Nat) (changed : Bool) :
    resultMessages (emitInserted limits packet nowMs inserted changed).2 =
      (messages.take (progress messages (seenWith seen position packet.payloadSize))).drop
          (progress messages seen) ∧
    (isFin packet = false → ∃ left, (emitInserted limits packet nowMs inserted changed).1 =
          some left ∧
        Receives limits messages start (seenWith seen position packet.payloadSize) left) := by
  have known := seenWith_below receives.known carries.inside
  have bounded := seenWith_below receives.bounded within.inWindow
  have window : inserted.window = seenWindow (framedBytes messages)
      (seenWith seen position packet.payloadSize)
      (basePosition messages seen) limits.maxBufferedBytes := by
    rw [isInserted]
  obtain ⟨emitted, grown, room⟩ := emitMessages_window
    (limits_bounds valid).2 sized seenWith_grows known bounded within.few
    (congrArg contiguousBytes window)
  generalize seenWith seen position packet.payloadSize = more at *
  have alive : inserted.rejected = false := by
    rw [isInserted]
    exact receives.alive
  have base : inserted.baseSequence = start + UInt32.ofNat (basePosition messages seen) := by
    rw [isInserted]
    exact receives.base
  have boundedMore : ∀ index, more index = true →
      index < basePosition messages more + limits.maxBufferedBytes :=
    fun index present => Nat.lt_of_lt_of_le (bounded index present) (Nat.add_le_add_right grown _)
  unfold emitInserted
  dsimp only
  cases new : (messages.take (progress messages more)).drop (progress messages seen) with
  | nil =>
    obtain ⟨within, taken⟩ := emitMessages_framed emitted
    have nothing := congrArg length taken
    rw [new, length_take, Nat.min_eq_left within] at nothing
    have same : basePosition messages more = basePosition messages seen := by
      have zero : basePosition messages more - basePosition messages seen = 0 := nothing
      omega
    have receivesMore : Receives limits messages start more inserted :=
      ⟨alive, by rw [same, base], by rw [same, window], known, boundedMore⟩
    rw [emitted, new]
    cases isFin packet with
    | true => exact ⟨rfl, nofun⟩
    | false =>
      refine ⟨?_, fun _ => ⟨inserted, rfl, receivesMore⟩⟩
      cases changed <;> rfl
  | cons first later =>
    have advancedBase : start + UInt32.ofNat (basePosition messages seen) +
        UInt32.ofNat (basePosition messages more - basePosition messages seen) =
        start + UInt32.ofNat (basePosition messages more) := by
      rw [UInt32.add_assoc, ← UInt32.ofNat_add, Nat.add_sub_cancel' grown]
    have shifted := @seenWindow_shift _ (framedBytes messages) more
      (basePosition messages seen) limits.maxBufferedBytes
      (basePosition messages more - basePosition messages seen) room (unseen_beyond bounded)
    rw [Nat.add_sub_cancel' grown] at shifted
    have receivesMore : Receives limits messages start more
        (consumePrefix inserted (basePosition messages more - basePosition messages seen)) := by
      refine ⟨alive, ?_, ?_, known, boundedMore⟩
      · rw [consumePrefix, base, advancedBase]
      · rw [consumePrefix, window, shifted]
    rw [emitted, new]
    cases isFin packet with
    | true => exact ⟨rfl, nofun⟩
    | false => exact ⟨rfl, fun _ => ⟨_, rfl, receivesMore⟩⟩

/-- A segment emits the messages that it completes, and the flow goes on unless it carries FIN. -/
theorem addToFlow_receives (length : (payloadBytes packet).length = packet.payloadSize)
    (within : packet.payloadSize ≠ 0 →
      WithinLimits limits messages seen position packet.payloadSize) (nowMs : Nat) :
    resultMessages (addToFlow limits packet nowMs entry).2 = (messages.take (progress messages
        (seenWith seen position packet.payloadSize))).drop (progress messages seen) ∧
    (isFin packet = false → ∃ left, (addToFlow limits packet nowMs entry).1 = some left ∧
        Receives limits messages start (seenWith seen position packet.payloadSize) left) := by
  by_cases payload : packet.payloadSize = 0
  · rw [payload, seenWith_empty, newMessages_none]
    unfold addToFlow placeSegment
    rw [if_pos payload]
    cases isFin packet with
    | true => exact ⟨rfl, nofun⟩
    | false => exact ⟨rfl, fun _ => ⟨entry, rfl, receives⟩⟩
  · rcases placeSegment_receives (limits_bounds valid).1 receives carries
      length payload (within payload) with
      ⟨changed, placed⟩ | ⟨placed, same⟩
    · have emitted := emitInserted_receives valid sized receives carries
        (within payload) rfl nowMs changed
      unfold addToFlow
      rw [placed]
      exact emitted
    · rw [same, newMessages_none]
      unfold addToFlow
      rw [placed]
      cases isFin packet with
      | true => exact ⟨rfl, nofun⟩
      | false => exact ⟨rfl, fun _ => ⟨entry, rfl, receives⟩⟩

end

def unseen : Nat → Bool := fun _ => false

theorem progress_unseen : progress messages unseen = 0 := by
  cases messages with
  | nil => rfl
  | cons message messages =>
    rw [progress, recordSizes, map_cons, wholeRecords, if_neg (by simp [leading, unseen])]

theorem initializeFlow_receives (key : StreamKey) (nowMs : Nat) :
    Receives limits messages start unseen (initializeFlow limits key start nowMs) := by
  have front : basePosition messages unseen = 0 := by
    rw [basePosition, progress_unseen]
    rfl
  refine ⟨rfl, ?_, ?_, nofun, nofun⟩
  · rw [front]
    simp [initializeFlow]
  · apply eq_seenWindow
    · exact length_replicate
    · intro index small
      simp [initializeFlow, unseen, small]

end Segment

end TcpStream

end JanusGate
