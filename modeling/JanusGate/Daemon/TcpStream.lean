import JanusGate.Common.Packet
import JanusGate.Foundation.SlotTable

/-!
# TCP stream reconstruction

The tracker of `tcp_stream.c`.  A flow keeps its receive window as one list of
optional bytes, the buffer and its presence map together: a buffered byte is
only read where it is present.  The DNS and the raw entry point share how a
flow is found or opened and how a segment is placed in the window; they differ
in what they take from the front of it.  The counters are left out.
-/

namespace JanusGate

open SlotTable

structure TcpStreamLimits where
  maxFlows : Nat
  maxFlowsPerSource : Nat
  maxBufferedBytes : Nat
  maxOutOfOrderSegments : Nat
  maxDnsMessageSize : Nat
  maxMessagesPerPacket : Nat
  idleTimeoutMs : Nat
  connectionTimeoutMs : Nat
  deriving DecidableEq

structure StreamKey where
  source : Bytes
  destination : Bytes
  vlanTci : List UInt16
  sourcePort : UInt16
  destinationPort : UInt16
  ipVersion : IpVersion
  deriving DecidableEq

structure StreamEntry where
  key : StreamKey
  idleDeadline : Nat
  connectionDeadline : Nat
  baseSequence : UInt32
  window : List (Option UInt8)
  rejected : Bool := false
  deriving DecidableEq

inductive TcpStreamResult where
  | buffered
  | duplicate
  | messages (messages : List Bytes)
  | closed
  | malformed
  | conflict
  | exhausted
  deriving DecidableEq

inductive TcpRawStreamResult where
  | bytes
  | buffered
  | duplicate
  | closed
  | conflict
  | exhausted
  deriving DecidableEq

/-- Newly contiguous bytes and flow identity; no flow is `none`. -/
structure TcpRawStreamChunk where
  flowIndex : Option Nat := none
  output : Bytes := []
  newFlow : Bool := false
  closed : Bool := false
  deriving DecidableEq

namespace TcpStream

def finFlag : UInt8 := 0x01
def synFlag : UInt8 := 0x02
def rstFlag : UInt8 := 0x04
def flowLimit : Nat := 1024
def bytesLimit : Nat := 262144
def segmentLimit : Nat := 128
def dnsLimit : Nat := 65535
def messageLimit : Nat := 128
def timeoutLimit : Nat := 86400000
def dnsHeaderSize : Nat := 12

end TcpStream

open TcpStream

def tcpStreamLimitsValidate (limits : TcpStreamLimits) : Int :=
  if limits.maxFlows = 0 ∨ limits.maxFlowsPerSource = 0 ∨
      limits.maxBufferedBytes = 0 ∨ limits.maxOutOfOrderSegments = 0 ∨
      limits.maxDnsMessageSize = 0 ∨ limits.maxMessagesPerPacket = 0 ∨
      limits.idleTimeoutMs = 0 ∨ limits.connectionTimeoutMs = 0 then
    eInval
  else if limits.maxFlows > flowLimit ∨ limits.maxFlowsPerSource > limits.maxFlows ∨
      limits.maxBufferedBytes > bytesLimit ∨
      limits.maxOutOfOrderSegments > segmentLimit ∨
      limits.maxOutOfOrderSegments > limits.maxBufferedBytes ∨
      limits.maxDnsMessageSize > dnsLimit ∨
      limits.maxDnsMessageSize + 2 > limits.maxBufferedBytes ∨
      limits.maxMessagesPerPacket > messageLimit ∨
      limits.idleTimeoutMs > timeoutLimit ∨
      limits.connectionTimeoutMs > timeoutLimit ∨
      limits.idleTimeoutMs > limits.connectionTimeoutMs then
    eRange
  else 0

/-- Per-worker stream state, created from validated limits only. -/
structure TcpStreamTracker where
  limits : TcpStreamLimits
  limitsValid : tcpStreamLimitsValidate limits = 0
  entries : List (Option StreamEntry)

variable (limits : TcpStreamLimits)

namespace TcpStream

variable (packet : PacketView)

def buildKey : StreamKey where
  source := packet.sourceAddress
  destination := packet.destinationAddress
  vlanTci := packet.vlanTci.map (· &&& 0x0fff)
  sourcePort := packet.sourcePort
  destinationPort := packet.destinationPort
  ipVersion := packet.ipVersion

def sourcesEqual (left right : StreamKey) : Bool :=
  left.ipVersion == right.ipVersion && left.source == right.source

def flowExpired (nowMs : Nat) (entry : StreamEntry) : Bool :=
  decide (entry.idleDeadline ≤ nowMs) ||
    decide (entry.connectionDeadline ≤ nowMs)

variable (entries : List (Option StreamEntry))

def expireFlows (nowMs : Nat) : List (Option StreamEntry) := expire (flowExpired nowMs) entries

variable (key : StreamKey)

def findFlow : Option (Nat × StreamEntry) := find (fun entry => decide (entry.key = key)) entries

def sourceFlowCount : Nat := count (fun entry => sourcesEqual entry.key key) entries

def initializeFlow (baseSequence : UInt32) (nowMs : Nat) : StreamEntry where
  key := key
  idleDeadline := deadline nowMs limits.idleTimeoutMs
  connectionDeadline := deadline nowMs limits.connectionTimeoutMs
  baseSequence := baseSequence
  window := List.replicate limits.maxBufferedBytes none

variable (entry : StreamEntry)

/-- The entry that rejects a flow key until a fresh idle timeout expires. -/
def rejectFlow (nowMs : Nat) : StreamEntry :=
  { initializeFlow limits entry.key entry.baseSequence nowMs with rejected := true }

/-- Count disjoint received byte ranges; `inside` is the loop flag. -/
def rangeCount : Bool → List (Option UInt8) → Nat
  | _, [] => 0
  | inside, some _ :: window => (if inside then 0 else 1) + rangeCount true window
  | _, none :: window => rangeCount false window

def contiguousBytes : List (Option UInt8) → Bytes
  | some byte :: window => byte :: contiguousBytes window
  | _ => []

def flowHasBytes (window : List (Option UInt8)) : Bool := window.any Option.isSome

def consumePrefix (consumed : Nat) : StreamEntry :=
  { entry with
    window := entry.window.drop consumed ++ List.replicate consumed none
    baseSequence := entry.baseSequence + UInt32.ofNat consumed }

/-- Write payload bytes over the front of a window; the flag says whether a byte is new. -/
def overlay : List (Option UInt8) → Bytes → Option (List (Option UInt8) × Bool)
  | window, [] => some (window, false)
  | [], _ :: _ => some ([], false)
  | some held :: window, byte :: payload =>
    if held = byte then (overlay window payload).map fun placed => (some held :: placed.1, placed.2)
    else none
  | none :: window, byte :: payload =>
    (overlay window payload).map fun placed => (some byte :: placed.1, true)

/-- Insert non-conflicting payload bytes into one receive window.  The caller
has checked that they fit. -/
def insertPayload (window : List (Option UInt8)) (offset : Nat)
    (payload : Bytes) : Option (List (Option UInt8) × Bool) :=
  (overlay (window.drop offset) payload).map fun placed =>
    (window.take offset ++ placed.1, placed.2)

/-- Why the framing loop rejects a flow. -/
inductive EmitError where
  | malformed
  | exhausted
  deriving DecidableEq

/-- Complete length-prefixed DNS messages, and the bytes they take, whose number is enough fuel. -/
def emitMessages (limits : TcpStreamLimits) :
    Nat → Nat → Bytes → Except EmitError (List Bytes × Nat)
  | 0, _, _ => .ok ([], 0)
  | fuel + 1, count, bytes =>
    if bytes.length < 2 then .ok ([], 0)
    else
      let messageSize := (byteAt bytes 0).toNat * 256 + (byteAt bytes 1).toNat
      if messageSize < dnsHeaderSize ∨ messageSize > limits.maxDnsMessageSize then .error .malformed
      else if messageSize + 2 > bytes.length then .ok ([], 0)
      else if count ≥ limits.maxMessagesPerPacket then .error .exhausted
      else
        (emitMessages limits fuel (count + 1) (bytes.drop (messageSize + 2))).map fun later =>
            (slice bytes 2 messageSize :: later.1, messageSize + 2 + later.2)

def packetValidForPort (destinationPort : UInt16) : Bool :=
  !packet.fragmented && packet.transport == .tcp && packet.ipProtocol == Packet.ipProtoTcp &&
    packet.destinationPort == destinationPort &&
    packet.ipVersion != .none && packet.sourceAddress.length != 0 &&
    decide (packet.sourceAddress.length ≤ Packet.addressSize) &&
    decide (packet.vlanTci.length ≤ Packet.vlanLimit) &&
    rangeValid packet.payloadOffset packet.payloadSize packet.frame.length

def isSyn : Bool := packet.tcpFlags &&& synFlag != 0
def isFin : Bool := packet.tcpFlags &&& finFlag != 0
def isRst : Bool := packet.tcpFlags &&& rstFlag != 0

def payloadSequence : UInt32 := packet.tcpSequence + (if isSyn packet then 1 else 0)

def payloadBytes : Bytes := slice packet.frame packet.payloadOffset packet.payloadSize

inductive Admission where
  /-- RST; the slot it cleared, when there was one. -/
  | reset (flowIndex : Option Nat)
  | conflict
  | exhausted
  /-- No flow, and nothing that would open one. -/
  | noFlow
  | admitted (flowIndex : Nat) (entry : StreamEntry) (newFlow : Bool)
  deriving DecidableEq

/-- Open a flow in a free slot when the packet carries data or SYN. -/
def openFlow (freeIndex : Option Nat) (packet : PacketView) (nowMs : Nat) : Admission :=
  if packet.payloadSize ≠ 0 ∨ isSyn packet = true then
    match freeIndex with
    | none => .exhausted
    | some index =>
      if sourceFlowCount entries (buildKey packet) ≥ limits.maxFlowsPerSource then .exhausted
      else
        .admitted index (initializeFlow limits (buildKey packet) (payloadSequence packet)
            nowMs) true
  else .noFlow

/-- The common first half of both entry points.  SYN replaces the flow in its own slot. -/
def admitPacket (packet : PacketView) (nowMs : Nat) : List (Option StreamEntry) × Admission :=
  match findFlow entries (buildKey packet) with
  | some (index, entry) =>
    if isRst packet then (entries.set index none, .reset (some index))
    else if isSyn packet then
      let cleared := entries.set index none
      (cleared, openFlow limits cleared (some index) packet nowMs)
    else if entry.rejected then (entries, .conflict)
    else
      (entries, .admitted index { entry with idleDeadline := deadline nowMs limits.idleTimeoutMs }
        false)
  | none =>
    if isRst packet then (entries, .reset none)
    else (entries, openFlow limits entries (freeIndex entries) packet nowMs)

def finishFlow (nowMs : Nat) : Option StreamEntry :=
  if flowHasBytes entry.window then some (rejectFlow limits entry nowMs) else none

inductive Placement where
  /-- FIN without new bytes. -/
  | finished
  /-- No payload and no FIN. -/
  | empty
  /-- Every byte lies before the stream base. -/
  | consumed
  | conflict
  | exhausted
  | inserted (entry : StreamEntry) (changed : Bool)
  deriving DecidableEq

/-- Put trimmed payload bytes into the window. -/
def placeBytes (offset : Nat) (payload : Bytes) : Placement :=
  if !rangeValid offset payload.length limits.maxBufferedBytes then .exhausted
  else
    match insertPayload entry.window offset payload with
    | none => .conflict
    | some (window, changed) =>
      if rangeCount false window > limits.maxOutOfOrderSegments then .exhausted
      else .inserted { entry with window := window } changed

variable (packet : PacketView)

def placeSegment (entry : StreamEntry) : Placement :=
  if packet.payloadSize = 0 then if isFin packet then .finished else .empty
  else
    let payload := payloadBytes packet
    let distance := payloadSequence packet - entry.baseSequence
    if distance ≤ 0x7fffffff then placeBytes limits entry distance.toNat payload
    else
      let consumedPrefix := (entry.baseSequence - payloadSequence packet).toNat
      if consumedPrefix ≥ payload.length then if isFin packet then .finished else .consumed
      else placeBytes limits entry 0 (payload.drop consumedPrefix)

variable (nowMs : Nat)

def emitInserted (entry : StreamEntry) (changed : Bool) : Option StreamEntry × TcpStreamResult :=
  let contiguous := contiguousBytes entry.window
  match emitMessages limits contiguous.length 0 contiguous with
  | .error .malformed => (some (rejectFlow limits entry nowMs), .malformed)
  | .error .exhausted => (some (rejectFlow limits entry nowMs), .exhausted)
  | .ok ([], _) =>
    if isFin packet then (finishFlow limits entry nowMs, .closed)
    else (some entry, if changed then .buffered else .duplicate)
  | .ok (messages, consumed) =>
    let advanced := consumePrefix entry consumed
    if isFin packet then (finishFlow limits advanced nowMs, .messages messages)
    else (some advanced, .messages messages)

def addToFlow (entry : StreamEntry) : Option StreamEntry × TcpStreamResult :=
  match placeSegment limits packet entry with
  | .finished => (finishFlow limits entry nowMs, .closed)
  | .empty => (some entry, .buffered)
  | .consumed => (some entry, .duplicate)
  | .conflict => (some (rejectFlow limits entry nowMs), .conflict)
  | .exhausted => (some (rejectFlow limits entry nowMs), .exhausted)
  | .inserted inserted changed => emitInserted limits packet nowMs inserted changed

def addSegment : List (Option StreamEntry) × TcpStreamResult :=
  match admitPacket limits (expireFlows entries nowMs) packet nowMs with
  | (entries, .reset _) => (entries, .closed)
  | (entries, .conflict) => (entries, .conflict)
  | (entries, .exhausted) => (entries, .exhausted)
  | (entries, .noFlow) => (entries, if isFin packet then .closed else .duplicate)
  | (entries, .admitted index entry _) =>
    let (slot, answer) := addToFlow limits packet nowMs entry
    (entries.set index slot, answer)

/-- The raw half: take every contiguous byte of an inserted segment. -/
def takeInserted (entry : StreamEntry) (changed : Bool) :
    Option StreamEntry × Bytes × TcpRawStreamResult :=
  let contiguous := contiguousBytes entry.window
  if contiguous.length > 0 then
    let advanced := consumePrefix entry contiguous.length
    (if isFin packet then finishFlow limits advanced nowMs
      else some advanced, contiguous, .bytes)
  else if isFin packet then (finishFlow limits entry nowMs, [], .closed)
  else (some entry, [], if changed then .buffered else .duplicate)

/-- Slot, output, FIN flag and answer of the raw entry point for an admitted flow. -/
def addRawToFlow (entry : StreamEntry) : Option StreamEntry × Bytes × Bool × TcpRawStreamResult :=
  match placeSegment limits packet entry with
  | .finished => (finishFlow limits entry nowMs, [], true, .closed)
  | .empty => (some entry, [], false, .buffered)
  | .consumed => (some entry, [], false, .duplicate)
  | .conflict => (some (rejectFlow limits entry nowMs), [], false, .conflict)
  | .exhausted => (some (rejectFlow limits entry nowMs), [], false, .exhausted)
  | .inserted inserted changed =>
    let (slot, output, answer) := takeInserted limits packet nowMs inserted changed
    (slot, output, isFin packet, answer)

def addRawSegment : List (Option StreamEntry) × TcpRawStreamChunk × TcpRawStreamResult :=
  match admitPacket limits (expireFlows entries nowMs) packet nowMs with
  | (entries, .reset flowIndex) => (entries, { flowIndex := flowIndex }, .closed)
  | (entries, .conflict) => (entries, {}, .conflict)
  | (entries, .exhausted) => (entries, {}, .exhausted)
  | (entries, .noFlow) => (entries, {}, if isFin packet then .closed else .duplicate)
  | (entries, .admitted index entry newFlow) =>
    let (slot, output, closed, answer) := addRawToFlow limits packet nowMs entry
    (entries.set index slot,
      { flowIndex := some index, output := output, newFlow := newFlow,
        closed := closed }, answer)

end TcpStream

def tcpStreamTrackerCreate : Except Int TcpStreamTracker :=
  if limitsValid : tcpStreamLimitsValidate limits = 0 then
    .ok {
      limits := limits
      limitsValid := limitsValid
      entries := List.replicate limits.maxFlows none }
  else .error (tcpStreamLimitsValidate limits)

theorem tcpStreamTrackerCreate_ok {limits : TcpStreamLimits} {tracker : TcpStreamTracker}
    (created : tcpStreamTrackerCreate limits = .ok tracker) :
    tracker.limits = limits ∧ tracker.entries = List.replicate limits.maxFlows none := by
  unfold tcpStreamTrackerCreate at created
  split at created
  · cases created
    exact ⟨rfl, rfl⟩
  · cases created

variable (tracker : TcpStreamTracker)

def tcpStreamTrackerAdd (packet : PacketView) (nowMs outputSize messageCapacity : Nat) :
    TcpStreamTracker × Except Int TcpStreamResult :=
  if !packetValidForPort packet 53 then (tracker, .error eInval)
  else if outputSize < tracker.limits.maxBufferedBytes ∨
      messageCapacity < tracker.limits.maxMessagesPerPacket then
    (tracker, .error eNoSpc)
  else
    let (entries, answer) := addSegment tracker.limits tracker.entries packet nowMs
    ({ tracker with entries := entries }, .ok answer)

def tcpStreamTrackerAddRaw (packet : PacketView) (nowMs outputSize : Nat) :
    TcpStreamTracker × Except Int (TcpRawStreamChunk × TcpRawStreamResult) :=
  if !(packetValidForPort packet 443 || packetValidForPort packet 853) then (tracker, .error eInval)
  else if outputSize < tracker.limits.maxBufferedBytes then (tracker, .error eNoSpc)
  else
    let (entries, chunk, answer) := addRawSegment tracker.limits tracker.entries packet nowMs
    ({ tracker with entries := entries }, .ok (chunk, answer))

def tcpStreamTrackerRejectFlow (packet : PacketView) (nowMs : Nat) : TcpStreamTracker × Int :=
  if !(packetValidForPort packet 53 || packetValidForPort packet 443 ||
      packetValidForPort packet 853) then
    (tracker, eInval)
  else
    let key := TcpStream.buildKey packet
    let entries := expireFlows tracker.entries nowMs
    match findFlow entries key with
    | some (index, entry) =>
      ({ tracker with
          entries := entries.set index (some (rejectFlow tracker.limits entry nowMs)) }, 0)
    | none =>
      match freeIndex entries with
      | none => ({ tracker with entries := entries }, eNoSpc)
      | some index =>
        if sourceFlowCount entries key ≥ tracker.limits.maxFlowsPerSource then
          ({ tracker with entries := entries }, eNoSpc)
        else
          ({ tracker with
              entries := entries.set index (some (rejectFlow tracker.limits
                  (initializeFlow tracker.limits key packet.tcpSequence nowMs) nowMs)) }, 0)

end JanusGate
