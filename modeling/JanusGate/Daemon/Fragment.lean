import JanusGate.Common.Packet
import JanusGate.Foundation.Cover
import JanusGate.Foundation.SlotTable

/-!
# Fragment reassembly

The tracker of `fragment.c`.  An inactive slot is `none`, and the arena slices
of a slot belong to its entry.  A new entry starts with zero bytes instead of
what the arena held before: only bytes inside retained intervals are ever
read.  The counters are left out.
-/

namespace JanusGate

open SlotTable

structure FragmentLimits where
  maxDatagrams : Nat
  maxFragmentsPerDatagram : Nat
  maxBytesPerDatagram : Nat
  maxDatagramsPerSource : Nat
  timeoutMs : Nat
  deriving DecidableEq

structure FragmentKey where
  source : Bytes
  destination : Bytes
  vlanTci : List UInt16
  fragmentId : UInt32
  ipVersion : IpVersion
  protocol : UInt8
  deriving DecidableEq

structure FragmentInterval where
  offset : Nat
  size : Nat
  moreFragments : Bool
  deriving DecidableEq

def FragmentInterval.finish (interval : FragmentInterval) : Nat := interval.offset + interval.size

structure FragmentEntry where
  key : FragmentKey
  expiresAt : Nat
  intervals : List FragmentInterval := []
  payload : Bytes
  expectedSize : Nat := 0
  hasLast : Bool := false
  rejected : Bool := false
  deriving DecidableEq

inductive FragmentResult where
  | stored
  | duplicate
  | complete (payload : Bytes)
  | malformed
  | overlap
  | exhausted
  deriving DecidableEq

namespace Fragment

def datagramLimit : Nat := 1024
def perDatagramLimit : Nat := 64
def bytesLimit : Nat := 65535
def frameOverheadMax : Nat := 128
def timeoutMax : Nat := 120000

end Fragment

open Fragment

def fragmentLimitsValidate (limits : FragmentLimits) : Int :=
  if limits.maxDatagrams = 0 ∨ limits.maxFragmentsPerDatagram = 0 ∨
      limits.maxBytesPerDatagram = 0 ∨ limits.maxDatagramsPerSource = 0 ∨
      limits.timeoutMs = 0 then
    eInval
  else if limits.maxDatagrams > datagramLimit ∨ limits.maxFragmentsPerDatagram > perDatagramLimit ∨
      limits.maxBytesPerDatagram > bytesLimit ∨
      limits.maxDatagramsPerSource > limits.maxDatagrams ∨
      limits.timeoutMs > timeoutMax then
    eRange
  else 0

/-- Per-worker fragment state, created from valid limits only. -/
structure FragmentTracker where
  limits : FragmentLimits
  limitsValid : fragmentLimitsValidate limits = 0
  entries : List (Option FragmentEntry)

variable (packet : PacketView) (limits : FragmentLimits)

namespace Fragment

def buildKey : FragmentKey where
  source := packet.sourceAddress
  destination := packet.destinationAddress
  vlanTci := packet.vlanTci.map (· &&& 0x0fff)
  fragmentId := packet.fragmentId
  ipVersion := packet.ipVersion
  protocol := packet.ipProtocol

def sourcesEqual (left right : FragmentKey) : Bool :=
  left.ipVersion == right.ipVersion && left.source == right.source

variable (entries : List (Option FragmentEntry))

def expireEntries (nowMs : Nat) : List (Option FragmentEntry) :=
  expire (fun entry => decide (entry.expiresAt ≤ nowMs)) entries

variable (key : FragmentKey)

def findEntry : Option (Nat × FragmentEntry) := find (fun entry => decide (entry.key = key)) entries

def sourceEntryCount : Nat := count (fun entry => sourcesEqual entry.key key) entries

def initializeEntry (nowMs : Nat) : FragmentEntry where
  key := key
  expiresAt := deadline nowMs limits.timeoutMs
  payload := List.replicate limits.maxBytesPerDatagram 0

/-- The entry that rejects a datagram key until its fresh timeout expires. -/
def rejectEntry (nowMs : Nat) : FragmentEntry :=
  { initializeEntry limits key nowMs with rejected := true }

/-- What the interval scan says about a new fragment. -/
inductive IntervalResult where
  | stored
  | duplicate
  | overlap
  deriving DecidableEq

def inspectIntervals (payload : Bytes) (fragmentOffset : Nat)
    (moreFragments : Bool) (fragment : Bytes) :
    List FragmentInterval → IntervalResult
  | [] => .stored
  | interval :: intervals =>
    if fragmentOffset = interval.offset ∧ fragment.length = interval.size ∧
        moreFragments = interval.moreFragments ∧
        fragment = slice payload interval.offset fragment.length then
      .duplicate
    else if fragmentOffset < interval.finish ∧
        interval.offset < fragmentOffset + fragment.length then
      .overlap
    else inspectIntervals payload fragmentOffset moreFragments fragment intervals

/-- Insert one interval in front of the first greater offset; the source shifts from the end. -/
def insertInterval (interval : FragmentInterval)
    (intervals : List FragmentInterval) : List FragmentInterval :=
  Cover.insert FragmentInterval.offset interval intervals

def coverFrom (cursor : Nat) (intervals : List FragmentInterval) : Option Nat :=
  Cover.walk FragmentInterval.offset FragmentInterval.size cursor intervals

def entryComplete (entry : FragmentEntry) : Bool :=
  entry.hasLast && coverFrom 0 entry.intervals == some entry.expectedSize

def writePayload (payload : Bytes) (offset : Nat) (fragment : Bytes) : Bytes :=
  payload.take offset ++ fragment ++ payload.drop (offset + fragment.length)

def fragmentBytes : Bytes := slice packet.frame packet.transportOffset packet.transportSize

/-- The argument checks of the tracker that a view can fail. -/
def packetValid : Bool :=
  packet.fragmented && packet.ipVersion != .none && packet.sourceAddress.length != 0 &&
    decide (packet.sourceAddress.length ≤ Packet.addressSize) &&
    decide (packet.vlanTci.length ≤ Packet.vlanLimit) &&
    rangeValid packet.transportOffset packet.transportSize packet.frame.length

def fragmentMalformed : Bool :=
  packet.transportSize == 0 ||
    (packet.moreFragments && packet.transportSize % 8 != 0) ||
    (sizeAdd packet.fragmentOffset packet.transportSize).isNone

def fragmentEnd : Nat := packet.fragmentOffset + packet.transportSize

def retainFragment (packet : PacketView) (nowMs : Nat) (entry : FragmentEntry) : FragmentEntry :=
  { entry with
    payload := writePayload entry.payload packet.fragmentOffset (fragmentBytes packet)
    intervals :=
      insertInterval ⟨packet.fragmentOffset, packet.transportSize, packet.moreFragments⟩
        entry.intervals
    hasLast := entry.hasLast || !packet.moreFragments
    expectedSize := if packet.moreFragments then entry.expectedSize else fragmentEnd packet
    expiresAt := deadline nowMs limits.timeoutMs }

def contradictsEnd (entry : FragmentEntry) : Bool :=
  entry.hasLast && (decide (fragmentEnd packet > entry.expectedSize) ||
      (!packet.moreFragments && entry.expectedSize != fragmentEnd packet))

def addToEntry (packet : PacketView) (nowMs outputSize : Nat) (entry : FragmentEntry) :
    Option FragmentEntry × Except Int FragmentResult :=
  if contradictsEnd packet entry then (some (rejectEntry limits entry.key nowMs), .ok .overlap)
  else
    match inspectIntervals entry.payload packet.fragmentOffset
        packet.moreFragments (fragmentBytes packet) entry.intervals with
    | .duplicate => (some entry, .ok .duplicate)
    | .overlap => (some (rejectEntry limits entry.key nowMs), .ok .overlap)
    | .stored =>
      if entry.intervals.length ≥ limits.maxFragmentsPerDatagram then
        (some (rejectEntry limits entry.key nowMs), .ok .exhausted)
      else
        let retained := retainFragment limits packet nowMs entry
        if !entryComplete retained then (some retained, .ok .stored)
        else if outputSize < retained.expectedSize then
          (some (rejectEntry limits entry.key nowMs), .error eNoSpc)
        else (none, .ok (.complete (retained.payload.take retained.expectedSize)))

def addFragment (packet : PacketView)
    (nowMs outputSize : Nat) : List (Option FragmentEntry) × Except Int FragmentResult :=
  let key := buildKey packet
  let entries := expireEntries entries nowMs
  match findEntry entries key with
  | some (index, entry) =>
    if entry.rejected then (entries, .ok .overlap)
    else if fragmentMalformed packet then
      (entries.set index (some (rejectEntry limits entry.key nowMs)), .ok .malformed)
    else if fragmentEnd packet > limits.maxBytesPerDatagram then
      (entries.set index (some (rejectEntry limits entry.key nowMs)), .ok .exhausted)
    else
      let (slot, answer) := addToEntry limits packet nowMs outputSize entry
      (entries.set index slot, answer)
  | none =>
    if fragmentMalformed packet then (entries, .ok .malformed)
    else if fragmentEnd packet > limits.maxBytesPerDatagram then (entries, .ok .exhausted)
    else
      match freeIndex entries with
      | none => (entries, .ok .exhausted)
      | some index =>
        if sourceEntryCount entries key ≥ limits.maxDatagramsPerSource then
          (entries, .ok .exhausted)
        else
          let (slot, answer) :=
            addToEntry limits packet nowMs outputSize (initializeEntry limits key nowMs)
          (entries.set index slot, answer)

/-- Add the 16-bit words of a header; a trailing byte is a high byte. -/
def checksumAdd : Bytes → Nat → Nat
  | high :: low :: rest, sum => checksumAdd rest (sum + (high.toNat * 256 + low.toNat))
  | [high], sum => sum + high.toNat * 256
  | [], sum => sum

/-- Two folds are enough for a header of at most sixty bytes; the rest of the fuel is idle. -/
def checksumFold : Nat → Nat → Nat
  | 0, sum => sum
  | fuel + 1, sum => if sum / 65536 ≠ 0 then checksumFold fuel (sum % 65536 + sum / 65536) else sum

def checksumFinish (sum : Nat) : UInt16 := ~~~ (UInt16.ofNat (checksumFold 32 sum))

variable (payloadSize : Nat)

def ipv4HeaderBlank : Bytes :=
  let totalLength := UInt16.ofNat (20 + payloadSize)
  let identification := packet.fragmentId.toUInt16
  ([0x45, 0, (totalLength >>> 8).toUInt8, (totalLength &&& 0xff).toUInt8,
    (identification >>> 8).toUInt8, (identification &&& 0xff).toUInt8,
    0, 0, 64, packet.ipProtocol, 0, 0] : Bytes) ++
    packet.sourceAddress.take 4 ++ packet.destinationAddress.take 4

def ipv4Header : Bytes :=
  let blank := ipv4HeaderBlank packet payloadSize
  writeU16Be blank 10 (checksumFinish (checksumAdd blank 0))

def ipv6Header : Bytes :=
  let payloadLength := UInt16.ofNat payloadSize
  ([0x60, 0, 0, 0, (payloadLength >>> 8).toUInt8,
    (payloadLength &&& 0xff).toUInt8, packet.ipProtocol, 64] : Bytes) ++
    packet.sourceAddress.take 16 ++ packet.destinationAddress.take 16

/-- The argument checks of the frame builder that a view can fail. -/
def templateValid : Bool :=
  packet.fragmented && decide (14 ≤ packet.networkOffset) &&
    rangeValid 0 packet.networkOffset packet.frame.length &&
    ((packet.ipVersion == .v4 && packet.sourceAddress.length == 4) ||
      (packet.ipVersion == .v6 && packet.sourceAddress.length == Packet.addressSize))

end Fragment

def fragmentTrackerCreate : Except Int FragmentTracker :=
  if limitsValid : fragmentLimitsValidate limits = 0 then
    .ok {
      limits := limits
      limitsValid := limitsValid
      entries := List.replicate limits.maxDatagrams none }
  else .error (fragmentLimitsValidate limits)

theorem fragmentTrackerCreate_ok {limits : FragmentLimits}
    (created : fragmentTrackerCreate limits = .ok tracker) :
    tracker.limits = limits ∧ tracker.entries = List.replicate limits.maxDatagrams none := by
  unfold fragmentTrackerCreate at created
  split at created
  · cases created
    exact ⟨rfl, rfl⟩
  · cases created

def fragmentTrackerAdd (tracker : FragmentTracker) (packet : PacketView) (nowMs outputSize : Nat) :
    FragmentTracker × Except Int FragmentResult :=
  if !packetValid packet then (tracker, .error eInval)
  else
    let (entries, answer) := addFragment tracker.limits tracker.entries packet nowMs outputSize
    ({ tracker with entries := entries }, answer)

def fragmentBuildFrame (payload : Bytes) (outputSize : Nat) : Except Int Bytes :=
  if !templateValid packet then .error eInval
  else
    let networkSize := if packet.ipVersion = .v4 then 20 else 40
    if (packet.ipVersion = .v4 ∧ payload.length > 65535 - 20) ∨
        (packet.ipVersion = .v6 ∧ payload.length > 65535) then
      .error eMsgSize
    else if packet.networkOffset + networkSize + payload.length > outputSize then .error eNoSpc
    else
      .ok (packet.frame.take packet.networkOffset ++
        (if packet.ipVersion = .v4 then ipv4Header packet payload.length
          else ipv6Header packet payload.length) ++
        payload)

end JanusGate
