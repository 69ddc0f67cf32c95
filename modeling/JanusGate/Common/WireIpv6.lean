import JanusGate.Common.WireParse

/-!
# What the parser makes of IPv6 packets

The walk over the extension headers, with and without a Fragment header.  The
chain in front of the Fragment header is read in every fragment, the one behind
it only in the first.
-/

namespace JanusGate

open Packet Layout Outcome List

namespace Wire

/-! ## The Fragment header -/

/-! ## The extension loop -/

theorem parseIpv6Extensions_step {next} (extension : isIpv6Extension kind = true)
    (read : readIpv6Extension view kind cursor remaining = .ok (size, next)) (long : 2 ≤ size)
    (fits : size ≤ remaining) (bounded : used + remaining ≤ sizeMax) :
    parseIpv6Extensions limits budget view kind cursor remaining used =
      if 0 < budget ∧ used + size ≤ limits.maxIpv6ExtensionBytes then
        if next.fragmented && next.fragmentOffset != 0 then
          finishIpv6 next (byteAt next.frame cursor) (cursor + size) (remaining - size)
        else
          parseIpv6Extensions limits (budget - 1) next
            (byteAt next.frame cursor) (cursor + size) (remaining - size)
            (used + size)
      else .error .limitExceeded := by
  have total : sizeAdd used size = some (used + size) := by
    unfold sizeAdd
    rw [if_neg (by omega)]
  conv_lhs => unfold parseIpv6Extensions
  rw [if_pos extension]
  cases budget with
  | zero => simp
  | succ budget =>
    simp only [throw_bind, read, ok_bind, total,
      if_neg (show ¬ remaining < 2 by omega),
      if_neg (show ¬ size > remaining by omega), Nat.add_sub_cancel]
    by_cases within : used + size ≤ limits.maxIpv6ExtensionBytes
    · rw [if_neg (by omega), if_pos ⟨Nat.succ_pos budget, within⟩, pure_eq_ok, ok_bind]
    · rw [if_pos (by omega), if_neg (by omega)]

theorem readIpv6Extension_header {next} {header : ExtensionHeader} (remaining : Nat)
    (holds : Holds view.frame cursor (next :: header.body)) :
    readIpv6Extension view header.kind cursor remaining = .ok (header.body.length + 1, view) := by
  have plain : (header.kind == ipProtoFragment) = false := by simpa using header.notFragment
  have sized := header.sized
  have positive : 0 < header.body.length := by
    unfold extensionSize at sized
    split at sized <;> omega
  have lengthField : byteAt view.frame (cursor + 1) = byteAt header.body 0 := by
    rw [byteAt_holds_at holds (by simpa using positive)]
    rfl
  unfold readIpv6Extension
  rw [plain, lengthField, sized, extensionSize, if_neg Bool.false_ne_true]
  by_cases ah : (header.kind == ipProtoAh) = true
  · rw [if_pos ah, if_pos ah]
  · rw [if_neg ah, if_neg ah]

theorem encodeChain_length_cons (header : ExtensionHeader) (headers : List ExtensionHeader)
    (upper : UInt8) :
    (encodeChain (header :: headers) upper).length =
      header.body.length + 1 + (encodeChain headers upper).length := by
  simp only [encodeChain, length_append, length_cons]

theorem parseIpv6Extensions_chain (readable : (view.fragmented && view.fragmentOffset != 0) = false)
    (within : used ≤ limits.maxIpv6ExtensionBytes) (bounded : used + remaining ≤ sizeMax)
    (fits : (encodeChain headers upper).length ≤ remaining)
    (holds : Holds view.frame cursor (encodeChain headers upper)) :
    parseIpv6Extensions limits budget view (chainHead headers upper) cursor remaining used =
      if headers.length ≤ budget ∧ used + (encodeChain headers upper).length ≤
            limits.maxIpv6ExtensionBytes then
        parseIpv6Extensions limits (budget - headers.length) view upper
          (cursor + (encodeChain headers upper).length)
          (remaining - (encodeChain headers upper).length)
          (used + (encodeChain headers upper).length)
      else .error .limitExceeded := by
  induction headers generalizing budget cursor remaining used with
  | nil => simp [encodeChain, chainHead, within]
  | cons header headers ih =>
    obtain ⟨headHolds, restHolds⟩ := holds_append.mp holds
    have nextHeader : byteAt view.frame cursor = chainHead headers upper := byteAt_holds headHolds
    rw [encodeChain_length_cons] at fits
    have long : 2 ≤ header.body.length + 1 := by
      have sized := header.sized
      unfold extensionSize at sized
      split at sized <;> omega
    rw [show chainHead (header :: headers) upper = header.kind from rfl,
      parseIpv6Extensions_step header.isExtension
        (readIpv6Extension_header remaining headHolds) long (by omega)
        bounded,
      readable, nextHeader, encodeChain_length_cons]
    by_cases admitted : 0 < budget ∧ used + (header.body.length + 1) ≤ limits.maxIpv6ExtensionBytes
    · rw [if_pos admitted, if_neg Bool.false_ne_true,
        ih admitted.2 (by omega) (by omega) (by simpa using restHolds)]
      have sameBudget : budget - 1 - headers.length = budget - (headers.length + 1) := by omega
      have sameTotal : ∀ start : Nat, start + (header.body.length + 1) +
          (encodeChain headers upper).length = start + (header.body.length + 1 +
              (encodeChain headers upper).length) := by
        omega
      have sameRest : remaining - (header.body.length + 1) - (encodeChain headers upper).length =
            remaining - (header.body.length + 1 + (encodeChain headers upper).length) := by omega
      rw [sameTotal, sameTotal, sameRest, sameBudget, length_cons]
      exact if_congr (by omega) rfl rfl
    · rw [if_neg admitted, if_neg]
      rw [length_cons]
      omega

/-! ## The packet -/

theorem encodeIpv6_length (sourceLength : source.length = 16)
    (destinationLength : destination.length = 16) (nextHeader : UInt8) (fields : FrameFields)
    (payload : Bytes) :
    (encodeIpv6 source destination nextHeader fields payload).length = 40 + payload.length := by
  simp only [encodeIpv6, length_append, encodeU16_length, sourceLength,
    destinationLength, fields.flowLabelLength, length_cons, length_nil]
  omega

/-- The view of an IPv6 packet whose upper-layer header starts `chain` bytes behind the fixed one.
-/
def ipv6View (view : PacketView) (source destination : Bytes)
    (protocol : UInt8) (chain size : Nat) : PacketView :=
  { view with
    ipVersion := .v6
    sourceAddress := source
    destinationAddress := destination
    ipProtocol := protocol
    transportOffset := view.networkOffset + 40 + chain
    transportSize := size }

theorem parseIpv6_encoded (sourceLength : source.length = 16)
    (destinationLength : destination.length = 16) (fits : payload.length ≤ 65535)
    (holds : Holds view.frame view.networkOffset
      (encodeIpv6 source destination nextHeader fields payload)) :
    parseIpv6 limits view = parseIpv6Extensions limits limits.maxIpv6Extensions
        (ipv6View view source destination view.ipProtocol 0 payload.length)
        nextHeader (view.networkOffset + 40) payload.length 0 := by
  have long := holds.length_le
  rw [encodeIpv6_length sourceLength destinationLength] at long
  simp only [encodeIpv6, holds_append] at holds
  obtain ⟨first, length, hops, sourceHolds, destinationHolds, _⟩ := holds
  simp only [encodeU16_length, sourceLength, fields.flowLabelLength,
    length_cons, length_nil, Nat.add_assoc, Nat.reduceAdd]
    at length hops sourceHolds destinationHolds
  have payloadLength : (UInt16.ofNat payload.length).toNat = payload.length := by
    rw [UInt16.toNat_ofNat']
    omega
  unfold parseIpv6
  simp only [throw_bind, readU16Be_eq_some.mpr length, orTruncated,
    ok_bind, payloadLength, byteAt_holds hops, slice_holds sourceHolds sourceLength,
    slice_holds destinationHolds destinationLength, ipv6HeaderSize]
  rw [if_neg (by omega), if_neg (by simp [byteAt_holds first, fields.isVersion6]),
    if_neg (by omega)]
  rfl

theorem holds_ipv6_payload (sourceLength : source.length = 16)
    (destinationLength : destination.length = 16)
    (holds : Holds data offset (encodeIpv6 source destination nextHeader fields payload)) :
    Holds data (offset + 40) payload := by
  simp only [encodeIpv6, holds_append] at holds
  obtain ⟨_, _, _, _, _, rest⟩ := holds
  simpa only [encodeU16_length, sourceLength, destinationLength,
    fields.flowLabelLength, length_cons, length_nil,
    Nat.add_assoc, Nat.reduceAdd] using rest

theorem parseIpv6Extensions_transport (isTransport : protocol = ipProtoUdp ∨ protocol = ipProtoTcp)
    (budget cursor remaining used : Nat) :
    parseIpv6Extensions limits budget view protocol cursor remaining used =
      parseTransport { view with
        ipProtocol := protocol
        transportOffset := cursor
        transportSize := remaining } := by
  unfold parseIpv6Extensions
  rcases isTransport with rfl | rfl <;> rfl

theorem parseIpv6_whole
    (sourceLength : source.length = 16) (destinationLength : destination.length = 16)
    (isTransport : protocol = ipProtoUdp ∨ protocol = ipProtoTcp) (plain : view.fragmented = false)
    (fits : (encodeChain headers protocol).length + transport.length ≤ 65535)
    (holds : Holds view.frame view.networkOffset
      (encodeIpv6 source destination (chainHead headers protocol) fields
        (encodeChain headers protocol ++ transport))) :
    parseIpv6 limits view = if headers.length ≤ limits.maxIpv6Extensions ∧
          (encodeChain headers protocol).length ≤ limits.maxIpv6ExtensionBytes then
        parseTransport (ipv6View view source destination protocol
          (encodeChain headers protocol).length transport.length)
      else .error .limitExceeded := by
  have payload : (encodeChain headers protocol ++ transport).length ≤ 65535 := by simpa using fits
  have chainHolds : Holds (ipv6View view source destination view.ipProtocol
      0 (encodeChain headers protocol ++ transport).length).frame
      (view.networkOffset + 40) (encodeChain headers protocol) :=
    (holds_append.mp (holds_ipv6_payload sourceLength destinationLength holds)).1
  rw [parseIpv6_encoded sourceLength destinationLength payload holds,
    parseIpv6Extensions_chain (by simp [ipv6View, plain]) (Nat.zero_le _)
      (by rw [sizeMax]; omega) (by simp) chainHolds,
    parseIpv6Extensions_transport isTransport, Nat.zero_add]
  refine if_congr Iff.rfl ?_ rfl
  simp [ipv6View]

end Wire

end JanusGate
