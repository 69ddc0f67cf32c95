import JanusGate.Daemon.StreamInvariant

/-!
# The preallocated arenas of the stream tracker

`TcpStream` gives a free slot no content.  Here a slot is what `tcp_stream.c`
allocates for it: an entry with its `active` flag and one slice of the buffer
arena and of the presence arena, which stay when the entry is cleared.  The
functions follow the source slot by slot; `FlowSlot.flow` reads the flow of
the abstract tracker off a slot.
-/

namespace JanusGate

open TcpStream

structure FlowSlot where
  active : Bool
  key : StreamKey
  idleDeadline : Nat
  connectionDeadline : Nat
  baseSequence : UInt32
  rejected : Bool
  buffer : Bytes
  present : List Bool
  deriving DecidableEq

structure StreamArena where
  limits : TcpStreamLimits
  limitsValid : tcpStreamLimitsValidate limits = 0
  slots : List FlowSlot

namespace StreamArena

def zeroKey : StreamKey where
  source := []
  destination := []
  vlanTci := []
  sourcePort := 0
  destinationPort := 0
  ipVersion := .none

variable (limits : TcpStreamLimits)

/-- A slot as `calloc` leaves it. -/
def zeroSlot : FlowSlot where
  active := false
  key := zeroKey
  idleDeadline := 0
  connectionDeadline := 0
  baseSequence := 0
  rejected := false
  buffer := List.replicate limits.maxBufferedBytes 0
  present := List.replicate limits.maxBufferedBytes false

/-- Clear one flow while retaining its arena slices.  The buffered bytes stay
in place. -/
def clearFlow (slot : FlowSlot) : FlowSlot := { zeroSlot limits with buffer := slot.buffer }

variable (slots : List FlowSlot)

def expireFlows (nowMs : Nat) : List FlowSlot :=
  slots.map fun slot =>
    if slot.active && (decide (slot.idleDeadline ≤ nowMs) ||
        decide (slot.connectionDeadline ≤ nowMs)) then
      clearFlow limits slot
    else slot

/-- Find an existing flow key and the first free slot; `index` and `free` are the loop variables. -/
def findFlow (key : StreamKey) : Nat → Option (Nat × FlowSlot) → List FlowSlot →
      Option (Nat × FlowSlot) × Option (Nat × FlowSlot)
  | _, free, [] => (none, free)
  | index, free, slot :: slots =>
    if !slot.active then findFlow key (index + 1) (free.or (some (index, slot))) slots
    else if slot.key = key then (some (index, slot), free)
    else findFlow key (index + 1) free slots

def sourceFlowCount (key : StreamKey) : Nat :=
  slots.countP fun slot => slot.active && sourcesEqual slot.key key

def initializeFlow (key : StreamKey) (baseSequence : UInt32) (nowMs : Nat) (slot : FlowSlot) :
    FlowSlot :=
  { slot with
    key := key
    idleDeadline := deadline nowMs limits.idleTimeoutMs
    connectionDeadline := deadline nowMs limits.connectionTimeoutMs
    baseSequence := baseSequence
    active := true }

def rejectFlow (nowMs : Nat) (slot : FlowSlot) : FlowSlot :=
  { initializeFlow limits slot.key slot.baseSequence nowMs (clearFlow limits slot) with
    rejected := true }

def rangeCount : Bool → List Bool → Nat
  | _, [] => 0
  | inside, true :: present => (if inside then 0 else 1) + rangeCount true present
  | _, false :: present => rangeCount false present

def contiguousSize : List Bool → Nat
  | true :: present => contiguousSize present + 1
  | _ => 0

def flowHasBytes (present : List Bool) : Bool := present.any id

def consumePrefix (slot : FlowSlot) (consumed : Nat) : FlowSlot :=
  { slot with
    buffer := slot.buffer.drop consumed ++ List.replicate consumed 0
    present := slot.present.drop consumed ++ List.replicate consumed false
    baseSequence := slot.baseSequence + UInt32.ofNat consumed }

/-- The copy loop of `insert_payload`: a conflict is `none` and leaves what was written before it.
-/
def copyBytes : Bytes → List Bool → Bytes → Bytes × List Bool × Option Bool
  | held :: buffer, true :: present, byte :: payload =>
    if held ≠ byte then (held :: buffer, true :: present, none)
    else
      let (buffer, present, changed) := copyBytes buffer present payload
      (held :: buffer, true :: present, changed)
  | _ :: buffer, false :: present, byte :: payload =>
    let (buffer, present, changed) := copyBytes buffer present payload
    (byte :: buffer, true :: present, changed.map fun _ => true)
  | buffer, present, _ => (buffer, present, some false)

def insertPayload (slot : FlowSlot) (offset : Nat) (payload : Bytes) : FlowSlot × Option Bool :=
  let (buffer, present, changed) := copyBytes (slot.buffer.drop offset)
    (slot.present.drop offset) payload
  ({ slot with
      buffer := slot.buffer.take offset ++ buffer
      present := slot.present.take offset ++ present }, changed)

def contiguousBytes (slot : FlowSlot) : Bytes := slot.buffer.take (contiguousSize slot.present)

inductive Admission where
  | reset (flowIndex : Option Nat)
  | conflict
  | exhausted
  | noFlow
  | admitted (flowIndex : Nat) (slot : FlowSlot) (newFlow : Bool)
  deriving DecidableEq

def openFlow (free : Option (Nat × FlowSlot)) (packet : PacketView) (nowMs : Nat) : Admission :=
  if packet.payloadSize ≠ 0 ∨ isSyn packet = true then
    match free with
    | none => .exhausted
    | some (index, slot) =>
      if sourceFlowCount slots (buildKey packet) ≥ limits.maxFlowsPerSource then .exhausted
      else
        .admitted index (initializeFlow limits (buildKey packet) (payloadSequence packet)
            nowMs slot) true
  else .noFlow

variable (packet : PacketView) (nowMs : Nat)

def admitPacket : List FlowSlot × Admission :=
  match findFlow (buildKey packet) 0 none slots with
  | (some (index, slot), _) =>
    let cleared := clearFlow limits slot
    if isRst packet then (slots.set index cleared, .reset (some index))
    else if isSyn packet then
      (slots.set index cleared, openFlow limits (slots.set index cleared) (some (index, cleared))
          packet nowMs)
    else if slot.rejected then (slots, .conflict)
    else
      (slots, .admitted index { slot with idleDeadline := deadline nowMs limits.idleTimeoutMs }
        false)
  | (none, free) =>
    if isRst packet then (slots, .reset none)
    else (slots, openFlow limits slots free packet nowMs)

variable (slot : FlowSlot)

def finishFlow : FlowSlot :=
  if flowHasBytes slot.present then rejectFlow limits nowMs slot
  else clearFlow limits slot

inductive Placement where
  | finished
  | empty
  | consumed
  | conflict
  | exhausted
  | inserted (changed : Bool)
  deriving DecidableEq

def placeBytes (offset : Nat) (payload : Bytes) : FlowSlot × Placement :=
  if !rangeValid offset payload.length limits.maxBufferedBytes then (slot, .exhausted)
  else
    match insertPayload slot offset payload with
    | (written, none) => (written, .conflict)
    | (written, some changed) =>
      if rangeCount false written.present > limits.maxOutOfOrderSegments then (written, .exhausted)
      else (written, .inserted changed)

def placeSegment : FlowSlot × Placement :=
  if packet.payloadSize = 0 then (slot, if isFin packet then .finished else .empty)
  else
    let payload := payloadBytes packet
    let distance := payloadSequence packet - slot.baseSequence
    if distance ≤ 0x7fffffff then placeBytes limits slot distance.toNat payload
    else
      let consumedPrefix := (slot.baseSequence - payloadSequence packet).toNat
      if consumedPrefix ≥ payload.length then (slot, if isFin packet then .finished else .consumed)
      else placeBytes limits slot 0 (payload.drop consumedPrefix)

def emitInserted (changed : Bool) : FlowSlot × TcpStreamResult :=
  let contiguous := contiguousBytes slot
  match emitMessages limits contiguous.length 0 contiguous with
  | .error .malformed => (rejectFlow limits nowMs slot, .malformed)
  | .error .exhausted => (rejectFlow limits nowMs slot, .exhausted)
  | .ok ([], _) =>
    if isFin packet then (finishFlow limits nowMs slot, .closed)
    else (slot, if changed then .buffered else .duplicate)
  | .ok (messages, consumed) =>
    let advanced := consumePrefix slot consumed
    if isFin packet then (finishFlow limits nowMs advanced, .messages messages)
    else (advanced, .messages messages)

def addToFlow : FlowSlot × TcpStreamResult :=
  match placeSegment limits packet slot with
  | (slot, .finished) => (finishFlow limits nowMs slot, .closed)
  | (slot, .empty) => (slot, .buffered)
  | (slot, .consumed) => (slot, .duplicate)
  | (slot, .conflict) => (rejectFlow limits nowMs slot, .conflict)
  | (slot, .exhausted) => (rejectFlow limits nowMs slot, .exhausted)
  | (slot, .inserted changed) => emitInserted limits packet nowMs slot changed

def addSegment : List FlowSlot × TcpStreamResult :=
  match admitPacket limits (expireFlows limits slots nowMs) packet nowMs with
  | (slots, .reset _) => (slots, .closed)
  | (slots, .conflict) => (slots, .conflict)
  | (slots, .exhausted) => (slots, .exhausted)
  | (slots, .noFlow) => (slots, if isFin packet then .closed else .duplicate)
  | (slots, .admitted index slot _) =>
    let (left, answer) := addToFlow limits packet nowMs slot
    (slots.set index left, answer)

def takeInserted (changed : Bool) : FlowSlot × Bytes × TcpRawStreamResult :=
  let contiguous := contiguousSize slot.present
  if contiguous > 0 then
    let advanced := consumePrefix slot contiguous
    (if isFin packet then finishFlow limits nowMs advanced else advanced,
      slot.buffer.take contiguous, .bytes)
  else if isFin packet then (finishFlow limits nowMs slot, [], .closed)
  else (slot, [], if changed then .buffered else .duplicate)

def addRawToFlow : FlowSlot × Bytes × Bool × TcpRawStreamResult :=
  match placeSegment limits packet slot with
  | (slot, .finished) => (finishFlow limits nowMs slot, [], true, .closed)
  | (slot, .empty) => (slot, [], false, .buffered)
  | (slot, .consumed) => (slot, [], false, .duplicate)
  | (slot, .conflict) => (rejectFlow limits nowMs slot, [], false, .conflict)
  | (slot, .exhausted) => (rejectFlow limits nowMs slot, [], false, .exhausted)
  | (slot, .inserted changed) =>
    let (left, output, answer) := takeInserted limits packet nowMs slot changed
    (left, output, isFin packet, answer)

def addRawSegment : List FlowSlot × TcpRawStreamChunk × TcpRawStreamResult :=
  match admitPacket limits (expireFlows limits slots nowMs) packet nowMs with
  | (slots, .reset flowIndex) => (slots, { flowIndex := flowIndex }, .closed)
  | (slots, .conflict) => (slots, {}, .conflict)
  | (slots, .exhausted) => (slots, {}, .exhausted)
  | (slots, .noFlow) => (slots, {}, if isFin packet then .closed else .duplicate)
  | (slots, .admitted index slot newFlow) =>
    let (left, output, closed, answer) := addRawToFlow limits packet nowMs slot
    (slots.set index left,
      { flowIndex := some index, output := output, newFlow := newFlow,
        closed := closed }, answer)

def create : Except Int StreamArena :=
  if limitsValid : tcpStreamLimitsValidate limits = 0 then
    .ok {
      limits := limits
      limitsValid := limitsValid
      slots := List.replicate limits.maxFlows (zeroSlot limits) }
  else .error (tcpStreamLimitsValidate limits)

variable (arena : StreamArena)

def add (packet : PacketView) (nowMs outputSize messageCapacity : Nat) :
    StreamArena × Except Int TcpStreamResult :=
  if !packetValidForPort packet 53 then (arena, .error eInval)
  else if outputSize < arena.limits.maxBufferedBytes ∨
      messageCapacity < arena.limits.maxMessagesPerPacket then
    (arena, .error eNoSpc)
  else
    let (slots, answer) := addSegment arena.limits arena.slots packet nowMs
    ({ arena with slots := slots }, .ok answer)

def addRaw (packet : PacketView) (nowMs outputSize : Nat) :
    StreamArena × Except Int (TcpRawStreamChunk × TcpRawStreamResult) :=
  if !(packetValidForPort packet 443 || packetValidForPort packet 853) then (arena, .error eInval)
  else if outputSize < arena.limits.maxBufferedBytes then (arena, .error eNoSpc)
  else
    let (slots, chunk, answer) := addRawSegment arena.limits arena.slots packet nowMs
    ({ arena with slots := slots }, .ok (chunk, answer))

def rejectPacketFlow (packet : PacketView) (nowMs : Nat) : StreamArena × Int :=
  if !(packetValidForPort packet 53 || packetValidForPort packet 443 ||
      packetValidForPort packet 853) then
    (arena, eInval)
  else
    let key := buildKey packet
    let slots := expireFlows arena.limits arena.slots nowMs
    match findFlow key 0 none slots with
    | (some (index, slot), _) =>
      ({ arena with slots := slots.set index (rejectFlow arena.limits nowMs slot) }, 0)
    | (none, none) => ({ arena with slots := slots }, eNoSpc)
    | (none, some (index, slot)) =>
      if sourceFlowCount slots key ≥ arena.limits.maxFlowsPerSource then
        ({ arena with slots := slots }, eNoSpc)
      else
        ({ arena with
            slots := slots.set index (rejectFlow arena.limits nowMs
                (initializeFlow arena.limits key packet.tcpSequence nowMs slot)) }, 0)

def step : TrackerCall → StreamArena × TrackerAnswer
  | .add packet nowMs outputSize messageCapacity =>
    let (after, answer) := arena.add packet nowMs outputSize messageCapacity
    (after, .added answer)
  | .addRaw packet nowMs outputSize =>
    let (after, answer) := arena.addRaw packet nowMs outputSize
    (after, .addedRaw answer)
  | .rejectFlow packet nowMs =>
    let (after, status) := arena.rejectPacketFlow packet nowMs
    (after, .rejectedFlow status)

end StreamArena

def seenBytes (buffer : Bytes) (present : List Bool) : List (Option UInt8) :=
  List.zipWith (fun byte isPresent => if isPresent then some byte else none) buffer present

def FlowSlot.entry (slot : FlowSlot) : StreamEntry where
  key := slot.key
  idleDeadline := slot.idleDeadline
  connectionDeadline := slot.connectionDeadline
  baseSequence := slot.baseSequence
  window := seenBytes slot.buffer slot.present
  rejected := slot.rejected

def FlowSlot.flow (slot : FlowSlot) : Option StreamEntry :=
  if slot.active then some slot.entry else none

def StreamArena.tracker (arena : StreamArena) : TcpStreamTracker where
  limits := arena.limits
  limitsValid := arena.limitsValid
  entries := arena.slots.map FlowSlot.flow

end JanusGate
