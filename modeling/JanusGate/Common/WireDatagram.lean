import JanusGate.Common.WireIpv6

/-!
# Whole datagrams and their fragments

`Carries` is what the parser knows of a frame of a datagram before it reads the
transport header, the same for both IP versions.  Both kinds of frames parse to
such a view, unless they have more VLAN or extension headers than the limits
admit.  What it makes of a UDP or TCP header then depends on the bytes of the
datagram alone.
-/

namespace JanusGate

open Packet Layout

namespace Wire

def Network.version : Network → IpVersion
  | .v4 _ _ _ _ _ => .v4
  | .v6 _ _ _ _ _ _ _ => .v6

def Network.etherType : Network → UInt16
  | .v4 _ _ _ _ _ => etherTypeIpv4
  | .v6 _ _ _ _ _ _ _ => etherTypeIpv6

def Network.source : Network → Bytes
  | .v4 source _ _ _ _ => source
  | .v6 source _ _ _ _ _ _ => source

def Network.destination : Network → Bytes
  | .v4 _ destination _ _ _ => destination
  | .v6 _ destination _ _ _ _ _ => destination

/-- The extension headers in front of the Fragment header. -/
def Network.before : Network → List ExtensionHeader
  | .v4 _ _ _ _ _ => []
  | .v6 _ _ _ before _ _ _ => before

/-- The extension headers behind the Fragment header. -/
def Network.after : Network → List ExtensionHeader
  | .v4 _ _ _ _ _ => []
  | .v6 _ _ _ _ after _ _ => after

/-- What the parser knows of a frame in front of `part`, behind a header of type `protocol`. -/
structure Carries (datagram : Datagram) (protocol : UInt8) (part : Bytes)
    (view : PacketView) : Prop where
  link : Holds view.frame 0 (datagram.link.encode datagram.network.etherType)
  linkSize : view.networkOffset = 14 + 4 * datagram.link.tags.length
  vlan : view.vlanTci = datagram.link.tags.map VlanTag.tci
  version : view.ipVersion = datagram.network.version
  source : view.sourceAddress = datagram.network.source
  destination : view.destinationAddress = datagram.network.destination
  isProtocol : view.ipProtocol = protocol
  bytes : Holds view.frame view.transportOffset part
  size : view.transportSize = part.length

/-- The answer of the parser once the network headers are read. -/
def finishParse : Except PacketResult PacketView → PacketResult × PacketView
  | .ok parsed => (.ok, parsed)
  | .error result => (result, {})

theorem parse_admitted [Decidable tags] [Decidable chain]
    (parse : found = if tags then finishParse (if chain then outcome else .error .limitExceeded)
      else (.limitExceeded, {})) :
    (tags ∧ chain → found = finishParse outcome) ∧
      (¬ (tags ∧ chain) → found = (.limitExceeded, {})) := by
  constructor
  · rintro ⟨tagsHold, chainHolds⟩
    rw [parse, if_pos tagsHold, if_pos chainHolds]
  intro refused
  by_cases tagsHold : tags
  · rw [parse, if_pos tagsHold, if_neg fun chainHolds => refused ⟨tagsHold, chainHolds⟩]
    rfl
  · rw [parse, if_neg tagsHold]

variable {limits : PacketLimits} {link : LinkHeader}

theorem packetParse_ipv4 (valid : packetLimitsValid limits = true) (packet : Bytes) :
    packetParse (link.encode etherTypeIpv4 ++ packet) limits =
      if link.tags.length ≤ limits.maxVlanTags then
        finishParse (parseIpv4 (linkView (link.encode etherTypeIpv4 ++ packet) link etherTypeIpv4))
      else (.limitExceeded, {}) := by
  unfold packetParse
  rw [parseEthernet_encoded valid (by rfl)]
  by_cases admitted : link.tags.length ≤ limits.maxVlanTags
  · simp only [if_pos admitted, linkView, BEq.rfl, if_true]
    rfl
  · simp only [if_neg admitted]

theorem packetParse_ipv6 (valid : packetLimitsValid limits = true) (packet : Bytes) :
    packetParse (link.encode etherTypeIpv6 ++ packet) limits =
      if link.tags.length ≤ limits.maxVlanTags then
        finishParse (parseIpv6 limits (linkView (link.encode etherTypeIpv6 ++ packet) link
            etherTypeIpv6))
      else (.limitExceeded, {}) := by
  unfold packetParse
  rw [parseEthernet_encoded valid (by rfl)]
  have notIpv4 : (etherTypeIpv6 == etherTypeIpv4) = false := rfl
  by_cases admitted : link.tags.length ≤ limits.maxVlanTags
  · simp only [if_pos admitted, linkView, notIpv4, BEq.rfl, if_true, Bool.false_eq_true, if_false]
    rfl
  · simp only [if_neg admitted]

theorem holds_link (header rest : Bytes) : Holds (header ++ rest) 0 header := by simp [Holds]

theorem holds_packet (link : LinkHeader) (etherType : UInt16) (packet padding : Bytes) :
    Holds (link.encode etherType ++ (packet ++ padding)) (14 + 4 * link.tags.length) packet := by
  rw [← link.encode_length etherType]
  exact holds_middle _ _ _

/-- The headers of an unfragmented frame are within the parser's limits. -/
def Datagram.WholeAdmitted (datagram : Datagram) (limits : PacketLimits) : Prop :=
  datagram.link.tags.length ≤ limits.maxVlanTags ∧ (datagram.network.version = .v6 →
      (datagram.network.before ++ datagram.network.after).length ≤ limits.maxIpv6Extensions ∧
        (encodeChain (datagram.network.before ++ datagram.network.after)
          datagram.protocol).length ≤ limits.maxIpv6ExtensionBytes)

def ipv4Frame (link : LinkHeader) (source destination : Bytes) (identification : UInt16)
    (protocol : UInt8) (fields : FrameFields) (piece : Piece) : Bytes :=
  link.encode etherTypeIpv4 ++ (encodeIpv4 source destination identification protocol fields
      (ipv4FragmentField piece) piece.bytes ++ fields.padding)

theorem ipv4FragmentField_whole (bytes : Bytes) : ipv4FragmentField ⟨0, bytes, false⟩ = 0 := by
  simp [ipv4FragmentField]

section Ipv4

variable {source destination : Bytes} {identification : UInt16} {protocol : UInt8}
  {fields : FrameFields} {piece : Piece} (sourceLength : source.length = 4)
  (destinationLength : destination.length = 4)

include sourceLength destinationLength

theorem ipv4Frame_holds : Holds (ipv4Frame link source destination identification protocol fields
        piece)
      (14 + 4 * link.tags.length + (20 + fields.options.length))
      piece.bytes := by
  have packet := holds_packet link etherTypeIpv4 (encodeIpv4 source
    destination identification protocol fields (ipv4FragmentField piece)
    piece.bytes) fields.padding
  refine packet.trans ?_
  have parts := holds_link (encodeIpv4 source destination identification protocol fields
    (ipv4FragmentField piece) piece.bytes) []
  simp only [encodeIpv4, holds_append] at parts
  obtain ⟨_, _, _, _, _, _, _, _, _, rest⟩ := parts
  simpa [encodeIpv4, sourceLength, destinationLength] using rest

theorem packetParse_ipv4Frame (valid : packetLimitsValid limits = true)
    (aligned : piece.offset % 8 = 0) (bound : piece.offset < 65536)
    (fits : 20 + fields.options.length + piece.bytes.length ≤ 65535) :
    packetParse (ipv4Frame link source destination identification protocol fields piece) limits =
      if link.tags.length ≤ limits.maxVlanTags then
        finishParse (parseTransport (ipv4View
          (linkView (ipv4Frame link source destination identification protocol
            fields piece) link etherTypeIpv4)
          source destination identification protocol fields piece))
      else (.limitExceeded, {}) := by
  have packet := holds_packet link etherTypeIpv4 (encodeIpv4 source
    destination identification protocol fields (ipv4FragmentField piece)
    piece.bytes) fields.padding
  unfold ipv4Frame
  rw [packetParse_ipv4 valid, parseIpv4_encoded sourceLength
    destinationLength aligned bound fits packet]

end Ipv4

def ipv6Frame (link : LinkHeader) (source destination : Bytes)
    (nextHeader : UInt8) (fields : FrameFields) (payload : Bytes) : Bytes :=
  link.encode etherTypeIpv6 ++ (encodeIpv6 source destination nextHeader fields payload ++
      fields.padding)

theorem ipv6Frame_packet (link : LinkHeader) (source destination : Bytes) (nextHeader : UInt8)
    (fields : FrameFields) (payload : Bytes) :
    Holds (ipv6Frame link source destination nextHeader fields payload) (14 + 4 * link.tags.length)
      (encodeIpv6 source destination nextHeader fields payload) :=
  holds_packet link etherTypeIpv6 _ fields.padding

theorem ipv6Frame_payload (sourceLength : source.length = 16)
    (destinationLength : destination.length = 16) :
    Holds (ipv6Frame link source destination nextHeader fields payload)
      (14 + 4 * link.tags.length + 40) payload :=
  holds_ipv6_payload sourceLength destinationLength
    (ipv6Frame_packet link source destination nextHeader fields payload)

theorem packetParse_wholeFrame (valid : packetLimitsValid limits = true)
    (fits : datagram.WholeFits fields) :
    ∃ view, Carries datagram datagram.protocol datagram.transport view ∧ view.fragmented = false ∧
      (datagram.WholeAdmitted limits → packetParse (datagram.wholeFrame fields) limits =
          finishParse (parseTransport view)) ∧
      (¬ datagram.WholeAdmitted limits → packetParse (datagram.wholeFrame fields) limits =
          (.limitExceeded, {})) := by
  obtain ⟨link, network, protocol, transport, isTransport⟩ := datagram
  cases network with
  | v4 source destination identification sourceLength destinationLength =>
    have parse := @packetParse_ipv4Frame limits link source destination
      identification protocol fields ⟨0, transport, false⟩ sourceLength
      destinationLength valid rfl (by simp) fits
    have sameFrame : Datagram.wholeFrame ⟨link, .v4 source destination
        identification sourceLength destinationLength, protocol, transport, isTransport⟩ fields =
        ipv4Frame link source destination identification protocol fields ⟨0, transport, false⟩ := by
      rw [ipv4Frame, ipv4FragmentField_whole]
      rfl
    rw [sameFrame]
    refine ⟨ipv4View (linkView (ipv4Frame link source destination
      identification protocol fields ⟨0, transport, false⟩) link
      etherTypeIpv4) source destination identification protocol fields
      ⟨0, transport, false⟩, ⟨holds_link _ _, rfl, rfl, rfl, rfl, rfl, rfl,
        ipv4Frame_holds sourceLength destinationLength, rfl⟩, rfl, ?_, ?_⟩
    · intro admitted
      rw [if_pos admitted.1] at parse
      exact parse
    · intro refused
      rw [if_neg fun tags => refused ⟨tags, nofun⟩] at parse
      exact parse
  | v6 source destination identification before after sourceLength destinationLength =>
      have packet := ipv6Frame_packet link source destination
        (chainHead (before ++ after) protocol) fields
        (encodeChain (before ++ after) protocol ++ transport)
      have payload := @ipv6Frame_payload link source destination
        (chainHead (before ++ after) protocol) fields
        (encodeChain (before ++ after) protocol ++ transport) sourceLength
        destinationLength
      have parse := @packetParse_ipv6 limits link valid
        (encodeIpv6 source destination (chainHead (before ++ after) protocol)
          fields (encodeChain (before ++ after) protocol ++ transport) ++ fields.padding)
      rw [parseIpv6_whole sourceLength destinationLength isTransport rfl fits packet] at parse
      refine ⟨ipv6View (linkView (ipv6Frame link source destination
        (chainHead (before ++ after) protocol) fields
        (encodeChain (before ++ after) protocol ++ transport)) link
        etherTypeIpv6) source destination protocol
        (encodeChain (before ++ after) protocol).length transport.length,
        ⟨holds_link _ _, rfl, rfl, rfl, rfl, rfl, rfl,
          (holds_append.mp payload).2, rfl⟩, rfl, ?_, ?_⟩
      · intro admitted
        exact (parse_admitted parse).1 ⟨admitted.1, admitted.2 rfl⟩
      · intro refused
        exact (parse_admitted parse).2 fun admitted => refused ⟨admitted.1, fun _ => admitted.2⟩

/-! ## UDP headers -/

variable {data : Bytes}

theorem readU16Be_part (holds : Holds data offset part) (inside : position + 2 ≤ part.length) :
    readU16Be data (offset + position) = readU16Be part position := by
  have whole := holds.length_le
  have first := byteAt_holds_at holds (show position < part.length by omega)
  have second := byteAt_holds_at holds (show position + 1 < part.length by omega)
  unfold readU16Be
  rw [if_pos ((rangeValid_iff _ _ _).mpr (by omega)),
    if_pos ((rangeValid_iff _ _ _).mpr (by omega)), first, Nat.add_assoc, second]

theorem slice_part (holds : Holds data offset part) (inside : position + size ≤ part.length) :
    slice data (offset + position) size = slice part position size := by
  have sized : (slice part position size).length = size := by
    rw [slice_length]
    omega
  have within : Holds part position (slice part position size) := by
    rw [Holds, sized]
    rfl
  exact slice_holds (holds.trans within) sized

theorem readU16Be_inside (inside : offset + 2 ≤ data.length) :
    ∃ value, readU16Be data offset = some value := by
  unfold readU16Be
  rw [if_pos ((rangeValid_iff _ _ _).mpr (by omega))]
  exact ⟨_, rfl⟩

structure UdpHeader (datagram : Bytes) (sourcePort destinationPort length : UInt16) : Prop where
  sourcePort : readU16Be datagram 0 = some sourcePort
  destinationPort : readU16Be datagram 2 = some destinationPort
  length : readU16Be datagram 4 = some length

theorem udpHeader_exists (long : 8 ≤ datagram.length) :
    ∃ sourcePort destinationPort length, UdpHeader datagram sourcePort destinationPort length := by
  obtain ⟨sourcePort, readSource⟩ := @readU16Be_inside datagram 0 (by omega)
  obtain ⟨destinationPort, readDestination⟩ := @readU16Be_inside datagram 2 (by omega)
  obtain ⟨length, readLength⟩ := @readU16Be_inside datagram 4 (by omega)
  exact ⟨sourcePort, destinationPort, length, readSource, readDestination, readLength⟩

theorem UdpHeader.unique {sourcePort port length : UInt16}
    (header : UdpHeader datagram sourcePort port length)
    (other : UdpHeader datagram otherSource otherPort otherLength) :
    otherPort = port ∧ otherLength = length :=
  ⟨Option.some.inj (other.destinationPort.symm.trans header.destinationPort),
    Option.some.inj (other.length.symm.trans header.length)⟩

def udpView (view : PacketView) (sourcePort destinationPort length : UInt16) : PacketView :=
  { view with
    sourcePort := sourcePort
    destinationPort := destinationPort
    payloadOffset := view.transportOffset + 8
    transport := .udp
    payloadSize := length.toNat - 8
    transportComplete := true }

section Transport

variable {view : PacketView} (whole : view.fragmented = false)
  (isUdp : view.ipProtocol = ipProtoUdp) (holds : Holds view.frame view.transportOffset part)
  (size : view.transportSize = part.length)

include whole isUdp

theorem parseTransport_udp : parseTransport view = parseUdp view := by
  unfold parseTransport
  simp [whole, isUdp]

include size

theorem parseTransport_short (short : part.length < 8) :
    parseTransport view = .error .truncated := by
  rw [parseTransport_udp whole isUdp]
  unfold parseUdp
  rw [size]
  simp [udpHeaderSize, short]
  rfl

include holds

theorem parseTransport_long (long : 8 ≤ part.length)
    (header : UdpHeader part sourcePort destinationPort length) :
    parseTransport view = if length.toNat < 8 then .error .malformed
      else if length.toNat ≤ part.length then .ok (udpView view sourcePort destinationPort length)
      else .error .truncated := by
  have readSource : readU16Be view.frame view.transportOffset = some sourcePort := by
    have read := readU16Be_part holds (show 0 + 2 ≤ part.length by omega)
    exact read.trans header.sourcePort
  have readDestination := (readU16Be_part holds
    (show 2 + 2 ≤ part.length by omega)).trans header.destinationPort
  have readLength := (readU16Be_part holds (show 4 + 2 ≤ part.length by omega)).trans header.length
  have enough : ¬ view.transportSize < udpHeaderSize := by
    rw [size]
    exact Nat.not_lt.mpr long
  have notFirst : (view.fragmented && view.moreFragments) = false := by
    rw [whole]
    rfl
  rw [parseTransport_udp whole isUdp, ← size]
  unfold parseUdp
  simp only [readSource, readDestination, readLength, orTruncated,
    enough, if_false, Outcome.ok_bind, Outcome.throw_bind, notFirst, Bool.false_eq_true]
  rfl

end Transport

/-! ## Refused headers -/

/-- A header at the start of a datagram that the parser refuses. -/
inductive HeaderRefused (part : Bytes) : UInt8 → PacketResult → Prop
  | udpShort (short : part.length < 8) : HeaderRefused part ipProtoUdp .truncated
  | udpMalformed (read : readU16Be part 4 = some length)
      (small : length.toNat < 8) : HeaderRefused part ipProtoUdp .malformed
  | udpTruncated (read : readU16Be part 4 = some length)
      (beyond : part.length < length.toNat) : HeaderRefused part ipProtoUdp .truncated
  | tcpShort (short : part.length < 20) : HeaderRefused part ipProtoTcp .truncated
  | tcpMalformed (small : (byteAt part 12 >>> 4).toNat < 5) :
      HeaderRefused part ipProtoTcp .malformed
  | tcpTruncated (beyond : part.length < (byteAt part 12 >>> 4).toNat * 4) :
      HeaderRefused part ipProtoTcp .truncated

theorem readU32Be_inside (inside : offset + 4 ≤ data.length) :
    ∃ value, readU32Be data offset = some value := by
  unfold readU32Be
  rw [if_pos ((rangeValid_iff _ _ _).mpr (by omega))]
  exact ⟨_, rfl⟩

/-- The parser refuses a carried datagram for its header only. -/
theorem parseTransport_refused (whole : view.fragmented = false)
    (isTransport : view.ipProtocol = ipProtoUdp ∨ view.ipProtocol = ipProtoTcp)
    (holds : Holds view.frame view.transportOffset part) (size : view.transportSize = part.length)
    (refused : parseTransport view = .error result) :
    HeaderRefused part view.ipProtocol result := by
  rcases isTransport with isUdp | isTcp
  · rw [isUdp]
    by_cases short : part.length < 8
    · rw [parseTransport_short whole isUdp size short] at refused
      cases refused
      exact .udpShort short
    obtain ⟨_, _, length, header⟩ := udpHeader_exists (Nat.not_lt.mp short)
    rw [parseTransport_long whole isUdp holds size (Nat.not_lt.mp short) header] at refused
    split at refused
    case isTrue small =>
      cases refused
      exact .udpMalformed header.length small
    case isFalse =>
      split at refused
      · cases refused
      case isFalse beyond =>
        cases refused
        exact .udpTruncated header.length (Nat.not_le.mp beyond)
  · rw [isTcp]
    have parse : parseTransport view = parseTcp view := by
      unfold parseTransport
      simp [whole, isTcp, show (ipProtoTcp == ipProtoUdp) = false from rfl]
    have minimum : tcpMinHeaderSize = 20 := rfl
    rw [parse] at refused
    unfold parseTcp at refused
    by_cases short : part.length < 20
    · rw [if_pos (by omega)] at refused
      cases refused
      exact .tcpShort short
    have inside := holds.length_le
    obtain ⟨_, readSource⟩ := @readU16Be_inside view.frame view.transportOffset (by omega)
    obtain ⟨_, readDestination⟩ :=
      @readU16Be_inside view.frame (view.transportOffset + 2) (by omega)
    obtain ⟨_, readSequence⟩ := @readU32Be_inside view.frame (view.transportOffset + 4) (by omega)
    obtain ⟨_, readAcknowledgement⟩ :=
      @readU32Be_inside view.frame (view.transportOffset + 8) (by omega)
    have words := byteAt_holds_at holds (show 12 < part.length by omega)
    rw [if_neg (by omega)] at refused
    simp only [readSource, readDestination, readSequence, readAcknowledgement, orTruncated,
      Outcome.ok_bind, Outcome.throw_bind, words] at refused
    split at refused
    case isTrue small =>
      cases refused
      exact .tcpMalformed small
    case isFalse =>
      split at refused
      case isTrue beyond =>
        cases refused
        exact .tcpTruncated (size ▸ beyond)
      case isFalse => cases refused

end Wire

end JanusGate
