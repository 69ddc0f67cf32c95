import JanusGate.Common.WireDecode
import JanusGate.Daemon.FragmentInvariant

/-!
# Rebuilt frames

The normalized frame around a reconstructed payload is the unfragmented frame of
a datagram with the template's link header, addresses and protocol, no extension
headers and the payload as its transport part.
-/

namespace JanusGate

open Packet Layout Wire List

namespace Fragment

/-- The datagram has the link header and the addresses of the template. -/
structure Rebuilds (packet : PacketView) (link : LinkHeader)
    (payload : Bytes) (datagram : Datagram) : Prop where
  link : datagram.link = link
  version : datagram.network.version = packet.ipVersion
  source : datagram.network.source = packet.sourceAddress
  destination : datagram.network.destination = packet.destinationAddress
  noneBefore : datagram.network.before = []
  noneAfter : datagram.network.after = []
  protocol : datagram.protocol = packet.ipProtocol
  transport : datagram.transport = payload

/-- The longest payload that the length fields of a rebuilt frame express. -/
def payloadMax : IpVersion → Nat
  | .v4 => 65535 - 20
  | _ => 65535

theorem ipv4Header_encoded (sourceLength : packet.sourceAddress.length = 4)
    (destinationLength : packet.destinationAddress.length = 4) :
    ∃ checksum, ipv4Header packet payload.length ++ payload =
      encodeIpv4 packet.sourceAddress packet.destinationAddress
        packet.fragmentId.toUInt16 packet.ipProtocol
        { checksum := checksum } 0 payload := by
  refine ⟨checksumFinish (checksumAdd (ipv4HeaderBlank packet payload.length) 0), ?_⟩
  have wholeSource : packet.sourceAddress.take 4 = packet.sourceAddress :=
    take_of_length_le (by omega)
  have wholeDestination : packet.destinationAddress.take 4 = packet.destinationAddress :=
    take_of_length_le (by omega)
  unfold ipv4Header encodeIpv4
  simp [ipv4HeaderBlank, writeU16Be, encodeU16, wholeSource, wholeDestination]

theorem ipv6Header_encoded (sourceLength : packet.sourceAddress.length = 16)
    (destinationLength : packet.destinationAddress.length = 16) :
    ipv6Header packet payload.length ++ payload =
      encodeIpv6 packet.sourceAddress packet.destinationAddress packet.ipProtocol {} payload := by
  have wholeSource : packet.sourceAddress.take 16 = packet.sourceAddress :=
    take_of_length_le (by omega)
  have wholeDestination : packet.destinationAddress.take 16 = packet.destinationAddress :=
    take_of_length_le (by omega)
  simp [ipv6Header, encodeIpv6, encodeU16, wholeSource, wholeDestination]

theorem take_networkOffset (behind : Behind link etherType packet) :
    packet.frame.take packet.networkOffset = link.encode etherType := by
  have encoded := behind.encoded
  rw [Holds, link.encode_length, ← behind.size, drop_zero] at encoded
  exact encoded

section

variable (parsed : ParsedView frame limits packet) (fragmented : packet.fragmented = true)

include parsed fragmented

theorem templateValid_parsed (behind : Behind link etherType packet) :
    templateValid packet = true := by
  have inside := behind.encoded.length_le
  have isIp := parsed.isIp
  have source := parsed.source
  rw [link.encode_length, ← behind.size] at inside
  have header : 14 ≤ packet.networkOffset := by
    rw [behind.size]
    omega
  unfold templateValid
  cases version : packet.ipVersion with
  | none => exact absurd version isIp
  | v4 =>
    rw [version] at source
    simp only [fragmented, header, decide_true, Bool.true_and,
      Bool.and_eq_true, rangeValid_iff, source, addressLength]
    exact ⟨by omega, rfl⟩
  | v6 =>
    rw [version] at source
    simp only [fragmented, header, decide_true, Bool.true_and,
      Bool.and_eq_true, rangeValid_iff, source, addressLength]
    exact ⟨by omega, rfl⟩

theorem fragmentBuildFrame_rebuilds
    (isTransport : packet.ipProtocol = ipProtoUdp ∨ packet.ipProtocol = ipProtoTcp)
    (behind : (Behind link etherTypeIpv4 packet ∧ packet.ipVersion = .v4) ∨
      (Behind link etherTypeIpv6 packet ∧ packet.ipVersion = .v6))
    (room : packet.networkOffset + 40 + payload.length ≤ outputSize)
    (fits : payload.length ≤ payloadMax packet.ipVersion) :
    ∃ datagram fields, Rebuilds packet link payload datagram ∧ datagram.WholeFits fields ∧
      fragmentBuildFrame packet payload outputSize = .ok (datagram.wholeFrame fields) := by
  have source := parsed.source
  have destination := parsed.destination
  rcases behind with ⟨behind, version⟩ | ⟨behind, version⟩
  · rw [version] at source destination fits
    have valid := templateValid_parsed parsed fragmented behind
    obtain ⟨checksum, encoded⟩ := @ipv4Header_encoded packet payload source destination
    have short : payload.length ≤ 65535 - 20 := fits
    refine ⟨⟨link, .v4 packet.sourceAddress packet.destinationAddress
      packet.fragmentId.toUInt16 source destination, packet.ipProtocol,
      payload, isTransport⟩, { checksum := checksum },
      ⟨rfl, version.symm, rfl, rfl, rfl, rfl, rfl, rfl⟩, ?_, ?_⟩
    · simp only [Datagram.WholeFits, length_nil]
      omega
    unfold fragmentBuildFrame
    simp only [valid, version, Bool.not_true, Bool.false_eq_true, if_false,
      if_true, reduceCtorEq, false_and, or_false, true_and]
    rw [if_neg (by omega), if_neg (by omega), take_networkOffset behind, append_assoc, encoded]
    simp [Datagram.wholeFrame]
  · rw [version] at source destination fits
    have valid := templateValid_parsed parsed fragmented behind
    have encoded := @ipv6Header_encoded packet payload source destination
    have short : payload.length ≤ 65535 := fits
    refine ⟨⟨link, .v6 packet.sourceAddress packet.destinationAddress
      packet.fragmentId [] [] source destination, packet.ipProtocol, payload, isTransport⟩, {},
      ⟨rfl, version.symm, rfl, rfl, rfl, rfl, rfl, rfl⟩, ?_, ?_⟩
    · simp only [Datagram.WholeFits, append_nil, encodeChain, length_nil]
      omega
    unfold fragmentBuildFrame
    simp only [valid, version, Bool.not_true, Bool.false_eq_true, if_false,
      reduceCtorEq, false_and, false_or, true_and]
    rw [if_neg (by omega), if_neg (by omega), take_networkOffset behind, append_assoc, encoded]
    simp [Datagram.wholeFrame, encodeChain, chainHead]

end

theorem fragmentBuildFrame_tooLong (outputSize : Nat) (isIp : packet.ipVersion ≠ .none)
    (long : payloadMax packet.ipVersion < payload.length) (rebuilt : Bytes) :
    fragmentBuildFrame packet payload outputSize ≠ .ok rebuilt := by
  unfold fragmentBuildFrame
  split
  · simp
  have refused : (packet.ipVersion = .v4 ∧ payload.length > 65535 - 20) ∨
      (packet.ipVersion = .v6 ∧ payload.length > 65535) := by
    cases version : packet.ipVersion with
    | none => exact absurd version isIp
    | v4 =>
      rw [version] at long
      exact .inl ⟨rfl, long⟩
    | v6 =>
      rw [version] at long
      exact .inr ⟨rfl, long⟩
  rw [if_pos refused]
  simp

/-- The frame built around a payload parses, up to the transport header, to a view that carries it.
-/
theorem fragmentBuildFrame_carries (parsed : packetParse frame limits = (.ok, packet))
    (fragmented : packet.fragmented = true)
    (isTransport : packet.ipProtocol = ipProtoUdp ∨ packet.ipProtocol = ipProtoTcp)
    (room : packet.networkOffset + 40 + payload.length ≤ outputSize)
    (fits : payload.length ≤ payloadMax packet.ipVersion) :
    ∃ link etherType datagram rebuilt view, Behind link etherType packet ∧
      Rebuilds packet link payload datagram ∧
      fragmentBuildFrame packet payload outputSize = .ok rebuilt ∧
      Carries datagram packet.ipProtocol payload view ∧ view.fragmented = false ∧
      packetParse rebuilt limits = finishParse (parseTransport view) := by
  have wellFormed := packetParse_parsed parsed
  obtain ⟨link, behind⟩ := packetParse_decode parsed
  obtain ⟨datagram, fields, rebuilds, wholeFits, built⟩ :=
    fragmentBuildFrame_rebuilds wellFormed fragmented isTransport behind room fits
  obtain ⟨view, carries, whole, admitted, _⟩ :=
    packetParse_wholeFrame wellFormed.limitsValid wholeFits
  obtain ⟨etherType, behindLink⟩ : ∃ etherType, Behind link etherType packet := by
    rcases behind with ⟨behind, _⟩ | ⟨behind, _⟩
    · exact ⟨_, behind⟩
    · exact ⟨_, behind⟩
  have tags : link.tags.length ≤ limits.maxVlanTags := by
    have count := wellFormed.vlanCount
    rwa [behindLink.vlan, length_map] at count
  rw [rebuilds.protocol, rebuilds.transport] at carries
  refine ⟨link, etherType, datagram, _, view, behindLink, rebuilds, built, carries, whole,
    admitted ⟨by rw [rebuilds.link]; exact tags, fun _ => ?_⟩⟩
  rw [rebuilds.noneBefore, rebuilds.noneAfter]
  simp [encodeChain]

theorem fragmentBuildFrame_room (built : fragmentBuildFrame packet payload outputSize = .ok rebuilt)
    (room : packet.networkOffset + 40 + payload.length ≤ other) :
    fragmentBuildFrame packet payload other = .ok rebuilt := by
  unfold fragmentBuildFrame at built ⊢
  simp only [Outcome.guard_eq_ok] at built ⊢
  obtain ⟨valid, small, _, same⟩ := built
  refine ⟨valid, small, ?_, same⟩
  split <;> omega

/-- A built frame is refused for the header at the start of the payload only. -/
theorem fragmentBuildFrame_parses {frame payload rebuilt : Bytes} {limits : PacketLimits}
    {packet : PacketView} {outputSize : Nat} (parsed : packetParse frame limits = (.ok, packet))
    (fragmented : packet.fragmented = true)
    (isTransport : packet.ipProtocol = ipProtoUdp ∨ packet.ipProtocol = ipProtoTcp)
    (built : fragmentBuildFrame packet payload outputSize = .ok rebuilt) :
    match packetParse rebuilt limits with
    | (.ok, view) => view.ipVersion = packet.ipVersion ∧
        view.sourceAddress = packet.sourceAddress ∧
        view.destinationAddress = packet.destinationAddress ∧ view.vlanTci = packet.vlanTci ∧
        view.ipProtocol = packet.ipProtocol ∧ view.fragmented = false ∧
        slice view.frame view.transportOffset view.transportSize = payload
    | (result, _) => HeaderRefused payload packet.ipProtocol result := by
  have fits : payload.length ≤ payloadMax packet.ipVersion := by
    by_contra long
    exact fragmentBuildFrame_tooLong outputSize (packetParse_parsed parsed).isIp (by omega)
      rebuilt built
  obtain ⟨link, etherType, datagram, other, view, behind, rebuilds, again, carries, whole, parse⟩ :=
    fragmentBuildFrame_carries parsed fragmented isTransport (Nat.le_refl _) fits
  rw [fragmentBuildFrame_room built (Nat.le_refl _)] at again
  cases again
  rw [parse]
  cases transport : parseTransport view with
  | error result =>
    have refused := parseTransport_refused whole (carries.isProtocol ▸ isTransport) carries.bytes
      carries.size transport
    rw [carries.isProtocol] at refused
    cases result with
    | ok => exact absurd transport (parseTransport_ne_ok view)
    | _ => exact refused
  | ok found =>
    obtain ⟨_, _, _, _, _, _, _, _, _, rfl⟩ := (parseTransport_transported transport).added
    refine ⟨carries.version.trans rebuilds.version, carries.source.trans rebuilds.source,
      carries.destination.trans rebuilds.destination, ?_, carries.isProtocol, whole,
      slice_holds carries.bytes carries.size.symm⟩
    rw [carries.vlan, rebuilds.link, behind.vlan]

theorem fragmentBuildFrame_parses_sample :
    let payload : Bytes := [0x10, 0, 0, 53, 0, 8, 0, 0]
    ∃ rebuilt view, fragmentBuildFrame (sampleView 8 false) payload 64 = .ok rebuilt ∧
      packetParse rebuilt packetLimitsDefault = (.ok, view) ∧
      slice view.frame view.transportOffset view.transportSize = payload := by
  intro payload
  have parsed : packetParse (sampleFrame 8 false [0x10, 0, 0, 53, 0, 16, 0, 0])
      packetLimitsDefault = (.ok, sampleView 8 false) := Prod.ext (by decide +kernel) rfl
  obtain ⟨rebuilt, built⟩ : ∃ rebuilt,
      fragmentBuildFrame (sampleView 8 false) payload 64 = .ok rebuilt := ⟨_, rfl⟩
  have accepted : (packetParse rebuilt packetLimitsDefault).1 = .ok := by
    cases built
    decide +kernel
  have parses := fragmentBuildFrame_parses parsed (by decide +kernel) (by decide +kernel) built
  cases outcome : packetParse rebuilt packetLimitsDefault with
  | mk result view =>
    rw [outcome] at accepted parses
    cases accepted
    exact ⟨rebuilt, view, built, outcome, parses.2.2.2.2.2.2⟩

end Fragment

end JanusGate
