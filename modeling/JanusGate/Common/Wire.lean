import JanusGate.Common.Packet
import JanusGate.Foundation.Layout
import JanusGate.Foundation.Outcome

/-!
# Frames on the wire

An abstract description of what hosts send: a UDP or TCP datagram over IPv4 or
IPv6, whole or cut into fragments, behind an Ethernet header with VLAN tags.
The fields that the sender chooses for each frame anew are `FrameFields`.
Nothing here is translated from the source; `WireParse` shows what the parser
makes of these frames.
-/

namespace JanusGate

open Packet Layout

namespace Wire

def encodeU16 (value : UInt16) : Bytes := [(value >>> 8).toUInt8, (value &&& 0xff).toUInt8]

def encodeU32 (value : UInt32) : Bytes :=
  [(value >>> 24).toUInt8, (value >>> 16).toUInt8, (value >>> 8).toUInt8, value.toUInt8]

def encodeU64 (value : UInt64) : Bytes :=
  encodeU32 (value >>> 32).toUInt32 ++ encodeU32 (value &&& 0xffffffff).toUInt32

structure VlanTag where
  protocolId : UInt16
  tci : UInt16
  isVlan : isVlanEtherType protocolId = true

structure LinkHeader where
  destination : Bytes
  source : Bytes
  tags : List VlanTag
  destinationLength : destination.length = 6
  sourceLength : source.length = 6

/-- The VLAN headers up to and including the EtherType of the payload. -/
def encodeTags : List VlanTag → UInt16 → Bytes
  | [], etherType => encodeU16 etherType
  | tag :: tags, etherType =>
    encodeU16 tag.protocolId ++ (encodeU16 tag.tci ++ encodeTags tags etherType)

def LinkHeader.encode (link : LinkHeader) (etherType : UInt16) : Bytes :=
  link.destination ++ (link.source ++ encodeTags link.tags etherType)

/-- Octets of an extension header with the given length field. -/
def extensionSize (kind lengthField : UInt8) : Nat :=
  if kind == ipProtoAh then (lengthField.toNat + 2) * 4 else (lengthField.toNat + 1) * 8

/-- An IPv6 extension header other than the Fragment header, from its length field on. -/
structure ExtensionHeader where
  kind : UInt8
  body : Bytes
  isExtension : isIpv6Extension kind = true
  notFragment : kind ≠ ipProtoFragment
  sized : body.length + 1 = extensionSize kind (byteAt body 0)

def chainHead : List ExtensionHeader → UInt8 → UInt8
  | [], upper => upper
  | header :: _, _ => header.kind

def encodeChain : List ExtensionHeader → UInt8 → Bytes
  | [], _ => []
  | header :: headers, upper =>
    (chainHead headers upper :: header.body) ++ encodeChain headers upper

/-- What the sender fills in for each frame. -/
structure FrameFields where
  serviceType : UInt8 := 0
  checksum : UInt16 := 0
  options : Bytes := []
  trafficClass : UInt8 := 0x60
  flowLabel : Bytes := [0, 0, 0]
  timeToLive : UInt8 := 64
  padding : Bytes := []
  optionsLength : options.length % 4 = 0 ∧ options.length ≤ 40 := by decide
  isVersion6 : trafficClass >>> 4 = 6 := by decide
  flowLabelLength : flowLabel.length = 3 := by decide

/-- The network addresses of a datagram and what its fragments need. -/
inductive Network where
  | v4 (source destination : Bytes) (identification : UInt16) (sourceLength : source.length = 4)
      (destinationLength : destination.length = 4)
  | v6 (source destination : Bytes) (identification : UInt32) (before after : List ExtensionHeader)
      (sourceLength : source.length = 16) (destinationLength : destination.length = 16)

structure Datagram where
  link : LinkHeader
  network : Network
  protocol : UInt8
  transport : Bytes
  isTransport : protocol = ipProtoUdp ∨ protocol = ipProtoTcp

structure Piece where
  offset : Nat
  bytes : Bytes
  more : Bool
  deriving DecidableEq

def encodeIpv4 (source destination : Bytes) (identification : UInt16) (protocol : UInt8)
    (fields : FrameFields) (fragmentField : UInt16) (payload : Bytes) : Bytes :=
  [0x45 + UInt8.ofNat (fields.options.length / 4), fields.serviceType] ++
    (encodeU16 (UInt16.ofNat (20 + fields.options.length + payload.length)) ++
    (encodeU16 identification ++ (encodeU16 fragmentField ++
    ([fields.timeToLive, protocol] ++ (encodeU16 fields.checksum ++
    (source ++ (destination ++ (fields.options ++ payload))))))))

def encodeIpv6 (source destination : Bytes) (nextHeader : UInt8)
    (fields : FrameFields) (payload : Bytes) : Bytes :=
  (fields.trafficClass :: fields.flowLabel) ++ (encodeU16 (UInt16.ofNat payload.length) ++
    ([nextHeader, fields.timeToLive] ++
    (source ++ (destination ++ payload))))

def ipv4FragmentField (piece : Piece) : UInt16 :=
  UInt16.ofNat (piece.offset / 8 + if piece.more then 0x2000 else 0)

def Datagram.wholeFrame (datagram : Datagram) (fields : FrameFields) : Bytes :=
  match datagram.network with
  | .v4 source destination identification _ _ =>
    datagram.link.encode etherTypeIpv4 ++
      (encodeIpv4 source destination identification datagram.protocol
        fields 0 datagram.transport ++ fields.padding)
  | .v6 source destination _ before after _ _ =>
    datagram.link.encode etherTypeIpv6 ++ (encodeIpv6 source destination
        (chainHead (before ++ after) datagram.protocol) fields
        (encodeChain (before ++ after) datagram.protocol ++ datagram.transport) ++ fields.padding)

/-- The length fields of the unfragmented frame can express its sizes. -/
def Datagram.WholeFits (datagram : Datagram) (fields : FrameFields) : Prop :=
  match datagram.network with
  | .v4 _ _ _ _ _ => 20 + fields.options.length + datagram.transport.length ≤ 65535
  | .v6 _ _ _ before after _ _ =>
    (encodeChain (before ++ after) datagram.protocol).length + datagram.transport.length ≤ 65535

end Wire

end JanusGate
