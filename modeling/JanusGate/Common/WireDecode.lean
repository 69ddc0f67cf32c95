import JanusGate.Common.ParsedPacket
import JanusGate.Common.WireDatagram

/-!
# Link headers of accepted frames

Every frame that the parser accepts starts with the encoding of a link header,
which the view of the packet describes.
-/

namespace JanusGate

open Packet Layout

namespace Wire

/-- The view stands behind the given link header. -/
structure Behind (link : LinkHeader) (etherType : UInt16) (view : PacketView) : Prop where
  encoded : Holds view.frame 0 (link.encode etherType)
  size : view.networkOffset = 14 + 4 * link.tags.length
  vlan : view.vlanTci = link.tags.map VlanTag.tci

theorem parseVlanTags_decode (accepted : parseVlanTags frame budget (position + 2) etherType view =
      .ok parsed) (read : readU16Be frame position = some etherType) :
    ∃ tags : List VlanTag, Holds frame position (encodeTags tags parsed.etherType) ∧
        parsed.networkOffset = position + 2 + 4 * tags.length ∧
        parsed.vlanTci = view.vlanTci ++ tags.map VlanTag.tci ∧
        parsed.frame = view.frame := by
  induction budget generalizing position etherType view with
  | zero =>
    unfold parseVlanTags at accepted
    split at accepted
    · cases accepted
    · cases accepted
      exact ⟨[], readU16Be_eq_some.mp read, rfl, by simp, rfl⟩
  | succ budget ih =>
    unfold parseVlanTags at accepted
    split at accepted
    case isTrue isVlan =>
      simp only [Outcome.bind_eq_ok, orTruncated_eq_ok] at accepted
      obtain ⟨tci, readTci, next, readNext, rest⟩ := accepted
      obtain ⟨tags, holds, size, vlan, sameFrame⟩ := ih rest readNext
      refine ⟨⟨etherType, tci, isVlan⟩ :: tags, ?_, ?_, ?_, sameFrame⟩
      · refine holds_append.mpr ⟨readU16Be_eq_some.mp read, ?_⟩
        exact holds_append.mpr ⟨readU16Be_eq_some.mp readTci, holds⟩
      · rw [size, List.length_cons]
        omega
      · rw [vlan]
        simp
    case isFalse =>
      cases accepted
      exact ⟨[], readU16Be_eq_some.mp read, rfl, by simp, rfl⟩

theorem parseEthernet_decode (accepted : parseEthernet frame limits = .ok view) :
    ∃ link : LinkHeader, Behind link view.etherType view := by
  have linked := (parseEthernet_tags accepted).1
  unfold parseEthernet at accepted
  simp only [Outcome.throw_bind, Outcome.guard_eq_ok, Outcome.bind_eq_ok,
    orTruncated_eq_ok] at accepted
  obtain ⟨_, long, etherType, read, tagsRead⟩ := accepted
  have sized : ethernetHeaderSize = 14 := rfl
  obtain ⟨tags, holds, size, vlan, sameFrame⟩ := parseVlanTags_decode tagsRead read
  have first : (frame.take 6).length = 6 := by simp; omega
  have second : (slice frame 6 6).length = 6 := by simp; omega
  have encoded : Holds frame 0 (frame.take 6 ++ (slice frame 6 6 ++
        encodeTags tags view.etherType)) := by
    refine holds_append.mpr ⟨?_, ?_⟩
    · rw [Holds, first, List.drop_zero]
    rw [first]
    refine holds_append.mpr ⟨?_, ?_⟩
    · rw [Holds, second]
      rfl
    · rw [second]
      exact holds
  refine ⟨⟨frame.take 6, slice frame 6 6, tags, first, second⟩, ?_, size, by simpa using vlan⟩
  rw [linked.sameFrame]
  exact encoded

theorem Behind.networked (behind : Behind link etherType view)
    (networked : Networked view version network) (transported : Transported network parsed) :
    Behind link etherType parsed ∧ parsed.ipVersion = version := by
  have kept := networked.kept
  simp only [linkPart, PacketView.mk.injEq, and_true] at kept
  obtain ⟨sameFrame, _, _, sameVlan, sameOffset, sameVersion⟩ := kept
  obtain ⟨_, _, _, _, _, _, _, _, _, rfl⟩ := transported.added
  refine ⟨⟨?_, sameOffset.trans behind.size, sameVlan.trans behind.vlan⟩, sameVersion⟩
  rw [sameFrame]
  exact behind.encoded

/-- An accepted frame starts with the link header that its view describes. -/
theorem packetParse_decode (parsed : packetParse frame limits = (.ok, view)) : ∃ link : LinkHeader,
      (Behind link etherTypeIpv4 view ∧ view.ipVersion = .v4) ∨
        (Behind link etherTypeIpv6 view ∧ view.ipVersion = .v6) := by
  obtain ⟨linkOnly, version, network, ethernet, isIp, networked, transported⟩ :=
    packetParse_stages parsed
  obtain ⟨link, behind⟩ := parseEthernet_decode ethernet
  refine ⟨link, ?_⟩
  rcases isIp with ⟨rfl, isIpv4⟩ | ⟨rfl, isIpv6⟩
  · rw [isIpv4] at behind
    exact .inl (behind.networked networked transported)
  · rw [isIpv6] at behind
    exact .inr (behind.networked networked transported)

end Wire

end JanusGate
