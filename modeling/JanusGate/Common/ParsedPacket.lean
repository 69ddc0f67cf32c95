import JanusGate.Common.Packet
import JanusGate.Foundation.Outcome

/-!
# What a parsed packet satisfies

Every view that the parser returns lies inside its frame.  The walk over the
headers fills the view from the outside in; each stage keeps what the stages
before it have established.
-/

namespace JanusGate

open Outcome

namespace Packet

def addressLength : IpVersion → Nat
  | .v4 => 4
  | .v6 => 16
  | .none => 0

structure LinkView (frame : Bytes) (limits : PacketLimits) (view : PacketView) : Prop where
  sameFrame : view.frame = frame
  ethernet : ethernetHeaderSize ≤ frame.length
  limitsValid : packetLimitsValid limits = true
  vlanCount : view.vlanTci.length ≤ limits.maxVlanTags
  noIp : view.ipVersion = .none
  whole : view.fragmented = false

structure NetworkView (frame : Bytes) (limits : PacketLimits) (view : PacketView) : Prop where
  sameFrame : view.frame = frame
  ethernet : ethernetHeaderSize ≤ frame.length
  limitsValid : packetLimitsValid limits = true
  vlanCount : view.vlanTci.length ≤ limits.maxVlanTags
  isIp : view.ipVersion ≠ .none
  source : view.sourceAddress.length = addressLength view.ipVersion
  destination : view.destinationAddress.length = addressLength view.ipVersion
  transportRange : view.transportOffset + view.transportSize ≤ frame.length

structure ParsedView (frame : Bytes) (limits : PacketLimits)
    (view : PacketView) : Prop extends NetworkView frame limits view where
  payloadRange : view.payloadOffset + view.payloadSize ≤ frame.length
  udpProtocol : view.transport = .udp → view.ipProtocol = ipProtoUdp
  tcpProtocol : view.transport = .tcp → view.ipProtocol = ipProtoTcp
  wholeComplete : view.fragmented = false → view.transportComplete = true

theorem readU16Be_bound (read : readU16Be data offset = some value) : offset + 2 ≤ data.length := by
  unfold readU16Be at read
  split at read
  case isTrue valid =>
    have bounds := (rangeValid_iff _ _ _).mp valid
    omega
  case isFalse => cases read

variable {α : Type} {read : Option α}

theorem orTruncated_eq_ok : orTruncated read = .ok value ↔ read = some value := by
  cases read <;> simp [orTruncated]

variable {limits : PacketLimits} {view parsed : PacketView}

/-! ## The link layer -/

/-- The tags that were read stand behind the Ethernet header. -/
theorem parseVlanTags_tags
    (accepted : parseVlanTags frame budget cursor etherType view = .ok parsed) :
    ∃ tags etherTypeOffset etherType, tags.length ≤ budget ∧ parsed = { view with
      vlanTci := view.vlanTci ++ tags, etherTypeOffset, etherType
      networkOffset := cursor + 4 * tags.length } := by
  induction budget generalizing cursor etherType view with
  | zero =>
    unfold parseVlanTags at accepted
    split at accepted
    · cases accepted
    · cases accepted
      exact ⟨[], view.etherTypeOffset, etherType, Nat.le_refl _, by simp⟩
  | succ budget ih =>
    unfold parseVlanTags at accepted
    split at accepted
    · simp only [bind_eq_ok] at accepted
      obtain ⟨tag, _, next, _, rest⟩ := accepted
      obtain ⟨tags, offset, last, few, rfl⟩ := ih rest
      have network : cursor + vlanHeaderSize + 4 * tags.length =
          cursor + 4 * (tags.length + 1) := by
        rw [vlanHeaderSize]
        omega
      refine ⟨tag :: tags, offset, last, Nat.succ_le_succ few, ?_⟩
      simp [network]
    · cases accepted
      exact ⟨[], view.etherTypeOffset, etherType, Nat.zero_le _, by simp⟩

theorem parseEthernet_tags (accepted : parseEthernet frame limits = .ok view) :
    LinkView frame limits view ∧ view.networkOffset = 14 + 4 * view.vlanTci.length ∧
      view.sourcePort = 0 ∧ view.destinationPort = 0 := by
  unfold parseEthernet at accepted
  simp only [throw_bind, guard_eq_ok, bind_eq_ok] at accepted
  obtain ⟨valid, long, etherType, _, read⟩ := accepted
  obtain ⟨tags, _, _, few, rfl⟩ := parseVlanTags_tags read
  exact ⟨⟨rfl, by omega, by simpa using valid, by simpa using few, rfl, rfl⟩, by simp, rfl, rfl⟩

/-! ## The transport header -/

structure Transported (network view : PacketView) : Prop where
  added : ∃ sourcePort destinationPort tcpSequence tcpAcknowledgement tcpFlags payloadOffset
    payloadSize transport transportComplete, view = { network with
      sourcePort, destinationPort, tcpSequence, tcpAcknowledgement, tcpFlags, payloadOffset
      payloadSize, transport, transportComplete }
  behind : network.transportOffset ≤ view.payloadOffset
  inside : view.payloadOffset + view.payloadSize ≤ network.transportOffset + network.transportSize
  udpProtocol : view.transport = .udp → network.ipProtocol = ipProtoUdp
  tcpProtocol : view.transport = .tcp → network.ipProtocol = ipProtoTcp
  complete : network.fragmented = false → view.transportComplete = true
  ports : view.sourcePort = network.sourcePort ∧ view.destinationPort = network.destinationPort ∨
    (view.transport = .udp ∨ view.transport = .tcp) ∧
      (network.fragmented = true → network.fragmentOffset = 0)

theorem parseTransport_transported (accepted : parseTransport view = .ok parsed) :
    Transported view parsed := by
  unfold parseTransport at accepted
  split at accepted
  case isTrue later =>
    cases accepted
    refine ⟨⟨_, _, _, _, _, _, _, _, _, rfl⟩, Nat.le_refl _, Nat.le_refl _, by simp, by simp, ?_,
      .inl ⟨rfl, rfl⟩⟩
    simp_all
  case isFalse starts =>
    have first : view.fragmented = true → view.fragmentOffset = 0 := by simpa using starts
    split at accepted
    case isTrue udp =>
      unfold parseUdp at accepted
      simp only [throw_bind, guard_eq_ok, bind_eq_ok] at accepted
      obtain ⟨long, _, _, _, _, udpLength, _, _, result⟩ := accepted
      split at result
      · cases result
        exact ⟨⟨_, _, _, _, _, _, _, _, _, rfl⟩, Nat.le_add_right _ _, by dsimp only; omega,
          fun _ => by simpa using udp, by simp, fun _ => rfl, .inr ⟨.inl rfl, first⟩⟩
      split at result
      case isTrue firstPiece =>
        cases result
        refine ⟨⟨_, _, _, _, _, _, _, _, _, rfl⟩, Nat.le_add_right _ _, by dsimp only; omega,
          fun _ => by simpa using udp, by simp, fun whole => ?_, .inr ⟨.inl rfl, first⟩⟩
        simp [whole] at firstPiece
      case isFalse => cases result
    case isFalse =>
      split at accepted
      case isTrue tcp =>
        unfold parseTcp at accepted
        simp only [throw_bind, guard_eq_ok, bind_eq_ok] at accepted
        obtain ⟨_, _, _, _, _, _, _, _, _, _, fits, result⟩ := accepted
        cases result
        exact ⟨⟨_, _, _, _, _, _, _, _, _, rfl⟩, Nat.le_add_right _ _, by dsimp only; omega,
          by simp, fun _ => by simpa using tcp, fun whole => by simpa using .inl whole,
          .inr ⟨.inr rfl, first⟩⟩
      case isFalse =>
        cases accepted
        exact ⟨⟨_, _, _, _, _, _, _, _, _, rfl⟩, Nat.le_refl _, Nat.le_refl _, by simp, by simp,
          fun whole => by simpa using .inl whole, .inl ⟨rfl, rfl⟩⟩

/-! ## The network layer -/

/-- Where the length field of the IP header says that the packet ends. -/
def packetEnd (view : PacketView) : Option Nat :=
  match view.ipVersion with
  | .v4 => (readU16Be view.frame (view.networkOffset + 2)).map fun length =>
      view.networkOffset + length.toNat
  | .v6 => (readU16Be view.frame (view.networkOffset + 4)).map fun length =>
      view.networkOffset + ipv6HeaderSize + length.toNat
  | .none => none

def linkPart (view : PacketView) : PacketView where
  frame := view.frame
  etherTypeOffset := view.etherTypeOffset
  etherType := view.etherType
  vlanTci := view.vlanTci
  networkOffset := view.networkOffset
  ipVersion := view.ipVersion

/-- What the network headers add to the view of the link layer. -/
structure Networked (link : PacketView) (version : IpVersion) (network : PacketView) : Prop where
  kept : linkPart network = { linkPart link with ipVersion := version }
  noPorts : network.sourcePort = link.sourcePort ∧ network.destinationPort = link.destinationPort
  source : network.sourceAddress.length = addressLength version
  destination : network.destinationAddress.length = addressLength version
  behind : network.networkOffset ≤ network.transportOffset
  fills : packetEnd network = some (network.transportOffset + network.transportSize)
  inside : network.transportOffset + network.transportSize ≤ link.frame.length

theorem parseIpv4_stages (accepted : parseIpv4 view = .ok parsed) :
    ∃ network, Networked view .v4 network ∧ Transported network parsed := by
  unfold parseIpv4 at accepted
  simp only [throw_bind, guard_eq_ok, bind_eq_ok, orTruncated_eq_ok] at accepted
  obtain ⟨long, _, _, header, totalLength, read, _, _, _, _, _, fits, transport⟩ := accepted
  have minimum : ipv4MinHeaderSize = 20 := rfl
  refine ⟨_, ?_, parseTransport_transported transport⟩
  refine ⟨rfl, ⟨rfl, rfl⟩, ?_, ?_, Nat.le_add_right _ _, ?_, ?_⟩
  · simp only [slice_length, addressLength]
    omega
  · simp only [slice_length, addressLength]
    omega
  · simp only [packetEnd, read, Option.map_some, Option.some.injEq]
    omega
  · dsimp only
    omega

theorem readIpv6Extension_view
    (read : readIpv6Extension view header cursor remaining = .ok (size, next)) :
    ∃ fragmentId fragmented fragmentOffset moreFragments, next =
      { view with fragmentId, fragmented, fragmentOffset, moreFragments } := by
  unfold readIpv6Extension at read
  split at read
  · obtain ⟨fragment, fragmentRead, same⟩ := map_eq_ok.mp read
    obtain ⟨rfl, rfl⟩ := Prod.mk.inj same
    unfold readFragmentHeader at fragmentRead
    simp only [throw_bind, guard_eq_ok, bind_eq_ok] at fragmentRead
    obtain ⟨_, _, _, _, _, _, made⟩ := fragmentRead
    cases made
    exact ⟨_, _, _, _, rfl⟩
  · split at read <;>
      · cases read
        exact ⟨_, _, _, _, rfl⟩

/-- The walk over the extension headers keeps the upper-layer range at the end of the packet. -/
theorem parseIpv6Extensions_networked (link : PacketView)
    (accepted : parseIpv6Extensions limits budget view header cursor remaining total = .ok parsed)
    (start : Networked link .v6
      { view with transportOffset := cursor, transportSize := remaining }) :
    ∃ last header cursor remaining, Networked link .v6
        { last with transportOffset := cursor, transportSize := remaining } ∧
      finishIpv6 last header cursor remaining = .ok parsed := by
  induction budget generalizing view header cursor remaining total with
  | zero =>
    unfold parseIpv6Extensions at accepted
    split at accepted
    · cases accepted
    · exact ⟨view, header, cursor, remaining, start, accepted⟩
  | succ budget ih =>
    unfold parseIpv6Extensions at accepted
    split at accepted
    case isTrue =>
      simp only [throw_bind, guard_eq_ok, bind_eq_ok] at accepted
      obtain ⟨_, ⟨size, next⟩, read, fits, rest⟩ := accepted
      split at rest
      case h_2 => cases rest
      rw [guard_eq_ok] at rest
      obtain ⟨_, rest⟩ := rest
      have later : Networked link .v6 { next with
          transportOffset := cursor + size, transportSize := remaining - size } := by
        obtain ⟨_, _, _, _, rfl⟩ := readIpv6Extension_view read
        have same : cursor + size + (remaining - size) = cursor + remaining := by omega
        exact { start with
          behind := Nat.le_add_right_of_le start.behind
          fills := start.fills.trans (congrArg some same.symm)
          inside := same ▸ start.inside }
      split at rest
      · exact ⟨next, _, _, _, later, rest⟩
      · exact ih rest later
    case isFalse => exact ⟨view, header, cursor, remaining, start, accepted⟩

theorem finishIpv6_transported (accepted : finishIpv6 view header cursor remaining = .ok parsed) :
    Transported { view with
      ipProtocol := header, transportOffset := cursor, transportSize := remaining } parsed := by
  unfold finishIpv6 at accepted
  split at accepted
  · cases accepted
    exact ⟨⟨_, _, _, _, _, _, _, _, _, rfl⟩, Nat.le_refl _, Nat.le_refl _, by simp, by simp,
      fun whole => by simpa using .inl whole, .inl ⟨rfl, rfl⟩⟩
  · exact parseTransport_transported accepted

theorem parseIpv6_stages (accepted : parseIpv6 limits view = .ok parsed) :
    ∃ network, Networked view .v6 network ∧ Transported network parsed := by
  unfold parseIpv6 at accepted
  simp only [throw_bind, guard_eq_ok, bind_eq_ok, orTruncated_eq_ok] at accepted
  obtain ⟨long, _, payloadLength, read, fits, walk⟩ := accepted
  have size : ipv6HeaderSize = 40 := rfl
  obtain ⟨last, _, _, _, networked, finished⟩ :=
    parseIpv6Extensions_networked view walk (by
      refine ⟨rfl, ⟨rfl, rfl⟩, ?_, ?_, Nat.le_add_right _ _, ?_, ?_⟩
      · simp only [slice_length, addressLength]
        omega
      · simp only [slice_length, addressLength]
        omega
      · simp [packetEnd, read]
      · dsimp only
        omega)
  refine ⟨_, ?_, finishIpv6_transported finished⟩
  exact { networked with }

/-! ## Errors

A view is returned under `ok` only: no stage fails with that result. -/

theorem orTruncated_ne_ok (read : Option α) : orTruncated read ≠ .error .ok := by
  cases read <;> simp [orTruncated]

theorem read_ne_ok {β : Type} {next : α → Except PacketResult β}
    (rest : ∀ value, next value ≠ .error .ok) : (orTruncated read >>= next) ≠ .error .ok :=
  bind_ne_error (orTruncated_ne_ok read) rest

theorem parseTransport_ne_ok (view : PacketView) : parseTransport view ≠ .error .ok := by
  unfold parseTransport
  split
  · simp
  split
  · refine guard_ne_error (by simp) ?_
    refine read_ne_ok fun _ => ?_
    refine read_ne_ok fun _ => ?_
    refine read_ne_ok fun _ => ?_
    refine guard_ne_error (by simp) ?_
    split
    · simp [pure_eq_ok]
    · split <;> simp [pure_eq_ok, throw_eq_error]
  · split
    · refine guard_ne_error (by simp) ?_
      refine read_ne_ok fun _ => ?_
      refine read_ne_ok fun _ => ?_
      refine read_ne_ok fun _ => ?_
      refine read_ne_ok fun _ => ?_
      refine guard_ne_error (by simp) ?_
      refine guard_ne_error (by simp) ?_
      simp [pure_eq_ok]
    · simp

theorem parseIpv4_ne_ok (view : PacketView) : parseIpv4 view ≠ .error .ok := by
  unfold parseIpv4
  refine guard_ne_error (by simp) ?_
  refine guard_ne_error (by simp) ?_
  refine guard_ne_error (by simp) ?_
  refine guard_ne_error (by simp) ?_
  refine read_ne_ok fun _ => ?_
  refine read_ne_ok fun _ => ?_
  refine read_ne_ok fun _ => ?_
  refine guard_ne_error (by simp) ?_
  refine guard_ne_error (by simp) ?_
  exact parseTransport_ne_ok _

section

variable (view : PacketView) (header : UInt8) (cursor remaining : Nat)

theorem readIpv6Extension_ne_ok : readIpv6Extension view header cursor remaining ≠ .error .ok := by
  unfold readIpv6Extension
  split
  · have safe : readFragmentHeader view cursor remaining ≠ .error .ok := by
      refine guard_ne_error (by simp) ?_
      refine read_ne_ok fun _ => ?_
      refine read_ne_ok fun _ => ?_
      refine guard_ne_error (by simp) ?_
      simp [pure_eq_ok]
    cases read : readFragmentHeader view cursor remaining with
    | error result =>
      rw [read] at safe
      simpa [Except.map] using safe
    | ok fragment => simp [Except.map]
  · split <;> simp

theorem finishIpv6_ne_ok : finishIpv6 view header cursor remaining ≠ .error .ok := by
  unfold finishIpv6
  split
  · simp
  · exact parseTransport_ne_ok _

end

theorem parseIpv6Extensions_ne_ok (limits : PacketLimits) (budget : Nat) (view : PacketView)
    (header : UInt8) (cursor remaining total : Nat) :
    parseIpv6Extensions limits budget view header cursor remaining total ≠ .error .ok := by
  induction budget generalizing view header cursor remaining total with
  | zero =>
    unfold parseIpv6Extensions
    split
    · simp
    · exact finishIpv6_ne_ok _ _ _ _
  | succ budget ih =>
    unfold parseIpv6Extensions
    split
    · simp only [throw_bind]
      refine guard_ne_error (by simp) ?_
      refine bind_ne_error (readIpv6Extension_ne_ok _ _ _ _) fun _ => ?_
      refine guard_ne_error (by simp) ?_
      split
      · refine guard_ne_error (by simp) ?_
        split
        · exact finishIpv6_ne_ok _ _ _ _
        · exact ih _ _ _ _ _
      · simp
    · exact finishIpv6_ne_ok _ _ _ _

theorem parseIpv6_ne_ok (limits : PacketLimits) (view : PacketView) :
    parseIpv6 limits view ≠ .error .ok := by
  refine guard_ne_error (by simp) ?_
  refine guard_ne_error (by simp) ?_
  refine read_ne_ok fun _ => ?_
  refine guard_ne_error (by simp) ?_
  exact parseIpv6Extensions_ne_ok _ _ _ _ _ _ _

theorem parseVlanTags_ne_ok (frame : Bytes) (budget cursor : Nat) (etherType : UInt16)
    (view : PacketView) :
    parseVlanTags frame budget cursor etherType view ≠ .error .ok := by
  induction budget generalizing cursor etherType view with
  | zero =>
    unfold parseVlanTags
    split <;> simp
  | succ budget ih =>
    unfold parseVlanTags
    split
    · refine read_ne_ok fun _ => ?_
      refine read_ne_ok fun _ => ?_
      exact ih _ _ _
    · simp

theorem parseEthernet_ne_ok (frame : Bytes) (limits : PacketLimits) :
    parseEthernet frame limits ≠ .error .ok := by
  refine guard_ne_error (by simp) ?_
  refine guard_ne_error (by simp) ?_
  refine read_ne_ok fun _ => ?_
  exact parseVlanTags_ne_ok _ _ _ _ _

theorem packetParse_ok (parsed : packetParse frame limits = (.ok, view)) :
    ∃ link, parseEthernet frame limits = .ok link ∧
      ((link.etherType = etherTypeIpv4 ∧ parseIpv4 link = .ok view) ∨
        (link.etherType = etherTypeIpv6 ∧ parseIpv6 limits link = .ok view)) := by
  unfold packetParse at parsed
  cases ethernet : parseEthernet frame limits with
  | error result =>
    simp only [ethernet, Prod.mk.injEq] at parsed
    exact absurd (parsed.1 ▸ ethernet) (parseEthernet_ne_ok frame limits)
  | ok link =>
    refine ⟨link, rfl, ?_⟩
    simp only [ethernet] at parsed
    split at parsed
    case isTrue isIpv4 =>
      cases network : parseIpv4 link with
      | error result =>
        simp only [network, Prod.mk.injEq] at parsed
        exact absurd (parsed.1 ▸ network) (parseIpv4_ne_ok link)
      | ok inner =>
        simp only [network] at parsed
        cases parsed
        exact .inl ⟨beq_iff_eq.mp isIpv4, rfl⟩
    case isFalse =>
      split at parsed
      case isTrue isIpv6 =>
        cases network : parseIpv6 limits link with
        | error result =>
          simp only [network, Prod.mk.injEq] at parsed
          exact absurd (parsed.1 ▸ network) (parseIpv6_ne_ok limits link)
        | ok inner =>
          simp only [network] at parsed
          cases parsed
          exact .inr ⟨beq_iff_eq.mp isIpv6, rfl⟩
      case isFalse => cases parsed

theorem packetParse_stages (parsed : packetParse frame limits = (.ok, view)) :
    ∃ link version network, parseEthernet frame limits = .ok link ∧
      (version = .v4 ∧ link.etherType = etherTypeIpv4 ∨
        version = .v6 ∧ link.etherType = etherTypeIpv6) ∧
      Networked link version network ∧ Transported network view := by
  obtain ⟨link, ethernet, ⟨isIpv4, stages⟩ | ⟨isIpv6, stages⟩⟩ := packetParse_ok parsed
  · obtain ⟨network, networked, transported⟩ := parseIpv4_stages stages
    exact ⟨link, .v4, network, ethernet, .inl ⟨rfl, isIpv4⟩, networked, transported⟩
  · obtain ⟨network, networked, transported⟩ := parseIpv6_stages stages
    exact ⟨link, .v6, network, ethernet, .inr ⟨rfl, isIpv6⟩, networked, transported⟩

/-- The ranges of a view are nested and fill the packet. -/
structure Nested (view : PacketView) : Prop where
  vlanTags : view.networkOffset = 14 + 4 * view.vlanTci.length
  network : view.networkOffset ≤ view.transportOffset
  transport : view.transportOffset ≤ view.payloadOffset
  payload : view.payloadOffset + view.payloadSize ≤ view.transportOffset + view.transportSize
  fills : packetEnd view = some (view.transportOffset + view.transportSize)
  ports : view.sourcePort ≠ 0 ∨ view.destinationPort ≠ 0 →
    (view.transport = .udp ∨ view.transport = .tcp) ∧
      (view.fragmented = true → view.fragmentOffset = 0)

theorem packetParse_nested (parsed : packetParse frame limits = (.ok, view)) :
    ParsedView frame limits view ∧ Nested view := by
  obtain ⟨link, version, network, ethernet, isIp, networked, transported⟩ :=
    packetParse_stages parsed
  obtain ⟨linked, vlanTags, noPorts⟩ := parseEthernet_tags ethernet
  have kept := networked.kept
  simp only [linkPart, PacketView.mk.injEq, and_true] at kept
  obtain ⟨sameFrame, _, _, sameVlan, sameOffset, sameVersion⟩ := kept
  obtain ⟨⟨_, _, _, _, _, _, _, _, _, rfl⟩, behind, inside, udpProtocol, tcpProtocol, complete,
    ports⟩ := transported
  have range := networked.inside
  rw [linked.sameFrame] at range
  refine ⟨⟨⟨sameFrame.trans linked.sameFrame, linked.ethernet, linked.limitsValid, ?_, ?_, ?_, ?_,
    range⟩, Nat.le_trans inside range, udpProtocol, tcpProtocol, complete⟩,
    ⟨?_, networked.behind, behind, inside, networked.fills, ?_⟩⟩
  · rw [sameVlan]
    exact linked.vlanCount
  · rcases isIp with ⟨rfl, _⟩ | ⟨rfl, _⟩ <;> simp [sameVersion]
  · rw [sameVersion]
    exact networked.source
  · rw [sameVersion]
    exact networked.destination
  · rw [sameOffset, sameVlan]
    exact vlanTags
  · intro reported
    refine ports.resolve_left fun unset => ?_
    rw [unset.1, unset.2, networked.noPorts.1, networked.noPorts.2] at reported
    simp [noPorts] at reported

theorem packetParse_parsed (parsed : packetParse frame limits = (.ok, view)) :
    ParsedView frame limits view :=
  (packetParse_nested parsed).1

theorem packetParse_nonIp (parsed : packetParse frame limits = (.nonIp, view)) :
    view.ipVersion = .none := by
  unfold packetParse at parsed
  cases ethernet : parseEthernet frame limits with
  | error result =>
    simp only [ethernet] at parsed
    cases parsed
    rfl
  | ok link =>
    simp only [ethernet] at parsed
    split at parsed
    · split at parsed
      · cases parsed
      · cases parsed
        rfl
    · split at parsed
      · split at parsed
        · cases parsed
        · cases parsed
          rfl
      · cases parsed
        exact (parseEthernet_tags ethernet).1.noIp

theorem packetParse_failed (parsed : packetParse frame limits = (result, view))
    (notOk : result ≠ .ok) (isIp : result ≠ .nonIp) : view = {} := by
  unfold packetParse at parsed
  split at parsed
  · cases parsed
    rfl
  split at parsed
  · split at parsed <;> cases parsed
    · exact absurd rfl notOk
    · rfl
  split at parsed
  · split at parsed <;> cases parsed
    · exact absurd rfl notOk
    · rfl
  · cases parsed
    exact absurd rfl isIp

/-- The ranges of an accepted packet are nested. -/
theorem packetParse_ranges (frame : Bytes) (limits : PacketLimits) :
    match packetParse frame limits with
    | (.ok, view) => ParsedView frame limits view ∧ Nested view
    | (.nonIp, _) => True
    | (_, view) => view = {} := by
  split
  case h_1 parsed => exact packetParse_nested parsed
  case h_2 => trivial
  case h_3 notOk isIp parsed =>
    exact packetParse_failed parsed (by simpa using notOk) (by simpa using isIp)

end Packet

end JanusGate
