import JanusGate.Common.Checked

/-!
# Bounded Ethernet, IP, UDP and TCP parsing

The parser of `packet.c`.  A view borrows its frame; the arrays of the source
with a separate count (`vlan_tci`, the two addresses) are lists, so that the
count is the length.  The two loops recurse on the budget the source compares
its counter with, which makes both structural.
-/

namespace JanusGate

inductive PacketResult where
  | ok
  | nonIp
  | truncated
  | malformed
  | limitExceeded
  deriving DecidableEq

inductive IpVersion where
  | none
  | v4
  | v6
  deriving DecidableEq

inductive TransportProtocol where
  | none
  | udp
  | tcp
  | other
  deriving DecidableEq

structure PacketLimits where
  maxVlanTags : Nat
  maxIpv6Extensions : Nat
  maxIpv6ExtensionBytes : Nat
  deriving DecidableEq

/-- Non-owning view of a validated frame; the default is the cleared view. -/
structure PacketView where
  frame : Bytes := []
  etherTypeOffset : Nat := 0
  etherType : UInt16 := 0
  vlanTci : List UInt16 := []
  networkOffset : Nat := 0
  ipVersion : IpVersion := .none
  sourceAddress : Bytes := []
  destinationAddress : Bytes := []
  fragmentId : UInt32 := 0
  fragmentOffset : Nat := 0
  moreFragments : Bool := false
  fragmented : Bool := false
  ipProtocol : UInt8 := 0
  transportOffset : Nat := 0
  transportSize : Nat := 0
  transport : TransportProtocol := .none
  sourcePort : UInt16 := 0
  destinationPort : UInt16 := 0
  tcpSequence : UInt32 := 0
  tcpAcknowledgement : UInt32 := 0
  tcpFlags : UInt8 := 0
  payloadOffset : Nat := 0
  payloadSize : Nat := 0
  transportComplete : Bool := false
  deriving DecidableEq

namespace Packet

def vlanLimit : Nat := 8
def addressSize : Nat := 16

def ethernetHeaderSize : Nat := 14
def vlanHeaderSize : Nat := 4
def ipv4MinHeaderSize : Nat := 20
def ipv6HeaderSize : Nat := 40
def udpHeaderSize : Nat := 8
def tcpMinHeaderSize : Nat := 20

def etherTypeIpv4 : UInt16 := 0x0800
def etherTypeIpv6 : UInt16 := 0x86dd
def etherTypeVlan : UInt16 := 0x8100
def etherTypeProviderVlan : UInt16 := 0x88a8
def etherTypeQinq : UInt16 := 0x9100

def ipProtoHopOpts : UInt8 := 0
def ipProtoTcp : UInt8 := 6
def ipProtoUdp : UInt8 := 17
def ipProtoRouting : UInt8 := 43
def ipProtoFragment : UInt8 := 44
def ipProtoEsp : UInt8 := 50
def ipProtoAh : UInt8 := 51
def ipProtoDstOpts : UInt8 := 60
def ipProtoMobility : UInt8 := 135

def isVlanEtherType (etherType : UInt16) : Bool :=
  etherType == etherTypeVlan || etherType == etherTypeProviderVlan || etherType == etherTypeQinq

def orTruncated {α : Type} : Option α → Except PacketResult α
  | some value => .ok value
  | none => .error .truncated

variable (view : PacketView)

def parseUdp : Except PacketResult PacketView := do
  if view.transportSize < udpHeaderSize then throw .truncated
  let sourcePort ← orTruncated (readU16Be view.frame view.transportOffset)
  let destinationPort ← orTruncated (readU16Be view.frame (view.transportOffset + 2))
  let udpLength ← orTruncated (readU16Be view.frame (view.transportOffset + 4))
  if udpLength.toNat < udpHeaderSize then throw .malformed
  let header := { view with
    sourcePort := sourcePort
    destinationPort := destinationPort
    payloadOffset := view.transportOffset + udpHeaderSize
    transport := .udp }
  if udpLength.toNat ≤ view.transportSize then
    return { header with
      payloadSize := udpLength.toNat - udpHeaderSize
      transportComplete := true }
  else if view.fragmented && view.moreFragments then
    return { header with
      payloadSize := view.transportSize - udpHeaderSize
      transportComplete := false }
  else throw .truncated

def parseTcp : Except PacketResult PacketView := do
  if view.transportSize < tcpMinHeaderSize then throw .truncated
  let sourcePort ← orTruncated (readU16Be view.frame view.transportOffset)
  let destinationPort ← orTruncated (readU16Be view.frame (view.transportOffset + 2))
  let tcpSequence ← orTruncated (readU32Be view.frame (view.transportOffset + 4))
  let tcpAcknowledgement ← orTruncated (readU32Be view.frame (view.transportOffset + 8))
  let dataOffsetWords := (byteAt view.frame (view.transportOffset + 12) >>> 4).toNat
  if dataOffsetWords < 5 then throw .malformed
  let headerSize := dataOffsetWords * 4
  if headerSize > view.transportSize then throw .truncated
  return { view with
    sourcePort := sourcePort
    destinationPort := destinationPort
    tcpSequence := tcpSequence
    tcpAcknowledgement := tcpAcknowledgement
    tcpFlags := byteAt view.frame (view.transportOffset + 13)
    payloadOffset := view.transportOffset + headerSize
    payloadSize := view.transportSize - headerSize
    transportComplete := !view.fragmented || !view.moreFragments
    transport := .tcp }

def parseTransport : Except PacketResult PacketView :=
  if view.fragmented && view.fragmentOffset != 0 then
    .ok { view with
      transport := .none
      payloadOffset := view.transportOffset
      payloadSize := view.transportSize }
  else if view.ipProtocol == ipProtoUdp then parseUdp view
  else if view.ipProtocol == ipProtoTcp then parseTcp view
  else
    .ok { view with
      transport := .other
      payloadOffset := view.transportOffset
      payloadSize := view.transportSize
      transportComplete := !view.fragmented || !view.moreFragments }

def parseIpv4 : Except PacketResult PacketView := do
  let available := view.frame.length - view.networkOffset
  if available < ipv4MinHeaderSize then throw .truncated
  let first := byteAt view.frame view.networkOffset
  if first >>> 4 != 4 then throw .malformed
  let headerSize := (first &&& 0x0f).toNat * 4
  if headerSize < ipv4MinHeaderSize then throw .malformed
  if headerSize > available then throw .truncated
  let totalLength ← orTruncated (readU16Be view.frame (view.networkOffset + 2))
  let identification ← orTruncated (readU16Be view.frame (view.networkOffset + 4))
  let fragmentField ← orTruncated (readU16Be view.frame (view.networkOffset + 6))
  if totalLength.toNat < headerSize then throw .malformed
  if totalLength.toNat > available then throw .truncated
  let fragmentOffset := (fragmentField &&& 0x1fff).toNat * 8
  let moreFragments := fragmentField &&& 0x2000 != 0
  parseTransport { view with
    ipVersion := .v4
    sourceAddress := slice view.frame (view.networkOffset + 12) 4
    destinationAddress := slice view.frame (view.networkOffset + 16) 4
    fragmentId := identification.toUInt32
    fragmentOffset := fragmentOffset
    moreFragments := moreFragments
    fragmented := fragmentOffset != 0 || moreFragments
    ipProtocol := byteAt view.frame (view.networkOffset + 9)
    transportOffset := view.networkOffset + headerSize
    transportSize := totalLength.toNat - headerSize }

variable (nextHeader : UInt8)

/-- IPv6 extension headers with an eight-octet length unit. -/
def isIpv6CommonExtension : Bool :=
  nextHeader == ipProtoHopOpts || nextHeader == ipProtoRouting ||
    nextHeader == ipProtoDstOpts || nextHeader == ipProtoMobility

def isIpv6Extension : Bool :=
  isIpv6CommonExtension nextHeader || nextHeader == ipProtoFragment || nextHeader == ipProtoAh

variable (cursor remaining : Nat)

/-- What the Fragment header of one loop round adds to the view. -/
def readFragmentHeader : Except PacketResult PacketView := do
  if remaining < 8 then throw .truncated
  let fragmentField ← orTruncated (readU16Be view.frame (cursor + 2))
  let fragmentId ← orTruncated (readU32Be view.frame (cursor + 4))
  if fragmentField &&& 0x0006 != 0 then throw .malformed
  return { view with
    fragmentId := fragmentId
    fragmented := true
    fragmentOffset := ((fragmentField &&& 0xfff8) >>> 3).toNat * 8
    moreFragments := fragmentField &&& 0x0001 != 0 }

def readIpv6Extension : Except PacketResult (Nat × PacketView) :=
  if nextHeader == ipProtoFragment then
    (readFragmentHeader view cursor remaining).map fun fragment => (8, fragment)
  else if nextHeader == ipProtoAh then .ok (((byteAt view.frame (cursor + 1)).toNat + 2) * 4, view)
  else .ok (((byteAt view.frame (cursor + 1)).toNat + 1) * 8, view)

/-- The end of the walk: the upper-layer range is known. -/
def finishIpv6 : Except PacketResult PacketView :=
  let ranged := { view with
    ipProtocol := nextHeader
    transportOffset := cursor
    transportSize := remaining }
  if nextHeader == ipProtoEsp then
    .ok { ranged with
      transport := .other
      payloadOffset := cursor
      payloadSize := remaining
      transportComplete := !view.fragmented || !view.moreFragments }
  else parseTransport ranged

/-- `budget` is `max_ipv6_extensions - extension_count`. -/
def parseIpv6Extensions (limits : PacketLimits) : Nat → PacketView → UInt8 → Nat → Nat → Nat →
      Except PacketResult PacketView
  | budget, view, nextHeader, cursor, remaining, extensionBytes =>
    if isIpv6Extension nextHeader then
      match budget with
      | 0 => .error .limitExceeded
      | budget + 1 => do
          if remaining < 2 then throw .truncated
          let (extensionSize, view) ← readIpv6Extension view nextHeader cursor remaining
          if extensionSize > remaining then throw .truncated
          let extensionBytes ←
            match sizeAdd extensionBytes extensionSize with
            | some total =>
              if total > limits.maxIpv6ExtensionBytes then throw .limitExceeded
              else pure total
            | none => throw .limitExceeded
          let nextHeader := byteAt view.frame cursor
          let cursor := cursor + extensionSize
          let remaining := remaining - extensionSize
          -- The chain inside the fragmentable part is only readable in
          -- the first fragment.
          if view.fragmented && view.fragmentOffset != 0 then
            finishIpv6 view nextHeader cursor remaining
          else parseIpv6Extensions limits budget view nextHeader cursor remaining extensionBytes
    else finishIpv6 view nextHeader cursor remaining

def parseIpv6 (limits : PacketLimits) (view : PacketView) : Except PacketResult PacketView := do
  let available := view.frame.length - view.networkOffset
  if available < ipv6HeaderSize then throw .truncated
  if byteAt view.frame view.networkOffset >>> 4 != 6 then throw .malformed
  let payloadLength ← orTruncated (readU16Be view.frame (view.networkOffset + 4))
  if payloadLength.toNat > available - ipv6HeaderSize then throw .truncated
  parseIpv6Extensions limits limits.maxIpv6Extensions
    { view with
      ipVersion := .v6
      sourceAddress := slice view.frame (view.networkOffset + 8) 16
      destinationAddress := slice view.frame (view.networkOffset + 24) 16
      transportOffset := view.networkOffset + ipv6HeaderSize
      transportSize := payloadLength.toNat }
    (byteAt view.frame (view.networkOffset + 6))
    (view.networkOffset + ipv6HeaderSize) payloadLength.toNat 0

/-- The VLAN loop.  `budget` is `max_vlan_tags - vlan_count`. -/
def parseVlanTags (frame : Bytes) : Nat → Nat → UInt16 → PacketView → Except PacketResult PacketView
  | budget, cursor, etherType, view =>
    if isVlanEtherType etherType then
      match budget with
      | 0 => .error .limitExceeded
      | budget + 1 => do
          let tag ← orTruncated (readU16Be frame cursor)
          let etherType ← orTruncated (readU16Be frame (cursor + 2))
          parseVlanTags frame budget (cursor + vlanHeaderSize) etherType
            { view with
              vlanTci := view.vlanTci ++ [tag]
              etherTypeOffset := cursor + 2 }
    else .ok { view with etherType := etherType, networkOffset := cursor }

end Packet

open Packet

def packetLimitsDefault : PacketLimits where
  maxVlanTags := 4
  maxIpv6Extensions := 8
  maxIpv6ExtensionBytes := 2048

def packetLimitsValid (limits : PacketLimits) : Bool :=
  decide (limits.maxVlanTags ≤ vlanLimit) &&
    limits.maxIpv6Extensions != 0 && limits.maxIpv6ExtensionBytes != 0

def parseEthernet (frame : Bytes) (limits : PacketLimits) : Except PacketResult PacketView := do
  if !packetLimitsValid limits then throw .malformed
  if frame.length < ethernetHeaderSize then throw .truncated
  let etherType ← orTruncated (readU16Be frame 12)
  parseVlanTags frame limits.maxVlanTags 14 etherType { frame := frame, etherTypeOffset := 12 }

/-- Parse a bounded Ethernet frame; the view is cleared on every error. -/
def packetParse (frame : Bytes) (limits : PacketLimits) : PacketResult × PacketView :=
  match parseEthernet frame limits with
  | .error result => (result, {})
  | .ok view =>
    if view.etherType == etherTypeIpv4 then
      match parseIpv4 view with
      | .ok parsed => (.ok, parsed)
      | .error result => (result, {})
    else if view.etherType == etherTypeIpv6 then
      match parseIpv6 limits view with
      | .ok parsed => (.ok, parsed)
      | .error result => (result, {})
    else (.nonIp, view)

end JanusGate
