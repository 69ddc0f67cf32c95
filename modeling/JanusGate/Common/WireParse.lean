import JanusGate.Common.Wire
import Mathlib.Data.Nat.Bitwise

/-!
# What the parser makes of frames on the wire

The parser reads every field of an encoded frame back.  Each header is
described once by the view that the parser holds after it (`linkView`,
`ipv4View`), for whole frames and for fragments.
-/

namespace JanusGate

open Packet Layout Outcome List

namespace Wire

/-! ## Single fields -/

theorem byteAt_holds (holds : Holds data offset (byte :: rest)) : byteAt data offset = byte := by
  have first := holds.getElem? (show 0 < (byte :: rest).length by simp)
  simp only [Nat.add_zero, getElem?_cons_zero] at first
  simp [byteAt, first]

theorem byteAt_holds_at (holds : Holds data offset part) (inside : index < part.length) :
    byteAt data (offset + index) = byteAt part index := by
  simp [byteAt, holds.getElem? inside]

theorem slice_holds (holds : Holds data offset part) (sized : part.length = size) :
    slice data offset size = part := by
  rw [← sized]
  exact holds

theorem or_shifted (width high low : Nat) (small : low < 2 ^ width) :
    high * 2 ^ width ||| low = high * 2 ^ width + low := by
  rw [← Nat.shiftLeft_eq, Nat.shiftLeft_add_eq_or_of_lt small]

theorem join_u16 {high low : UInt8} :
    (high.toUInt16 <<< 8) ||| low.toUInt16 = value ↔
      high = (value >>> 8).toUInt8 ∧ low = (value &&& 0xff).toUInt8 := by
  have highBound := high.toNat_lt
  have lowBound := low.toNat_lt
  have bound := value.toNat_lt
  have masked : value.toNat &&& 255 = value.toNat % 256 := Nat.and_two_pow_sub_one_eq_mod _ 8
  simp only [← UInt16.toNat_inj, ← UInt8.toNat_inj, UInt16.toNat_or, UInt16.toNat_shiftLeft,
    UInt8.toNat_toUInt16, UInt16.toNat_toUInt8, UInt16.toNat_shiftRight, UInt16.toNat_and,
    UInt16.reduceToNat, Nat.reduceMod, masked, Nat.shiftRight_eq_div_pow, Nat.shiftLeft_eq]
  rw [Nat.mod_eq_of_lt (by omega), or_shifted 8 _ _ (by omega)]
  omega

theorem join_u32 {first second third fourth : UInt8} :
    (first.toUInt32 <<< 24) ||| (second.toUInt32 <<< 16) ||| (third.toUInt32 <<< 8) |||
        fourth.toUInt32 = value ↔
      first = (value >>> 24).toUInt8 ∧ second = (value >>> 16).toUInt8 ∧
        third = (value >>> 8).toUInt8 ∧ fourth = value.toUInt8 := by
  have firstBound := first.toNat_lt
  have secondBound := second.toNat_lt
  have thirdBound := third.toNat_lt
  have fourthBound := fourth.toNat_lt
  have bound := value.toNat_lt
  simp only [← UInt32.toNat_inj, ← UInt8.toNat_inj, UInt32.toNat_or, UInt32.toNat_shiftLeft,
    UInt8.toNat_toUInt32, UInt32.toNat_toUInt8, UInt32.toNat_shiftRight, UInt32.reduceToNat,
    Nat.reduceMod, Nat.shiftRight_eq_div_pow, Nat.shiftLeft_eq, Nat.or_assoc]
  rw [Nat.mod_eq_of_lt (by omega : first.toNat * 2 ^ 24 < 2 ^ 32),
    Nat.mod_eq_of_lt (by omega : second.toNat * 2 ^ 16 < 2 ^ 32),
    Nat.mod_eq_of_lt (by omega : third.toNat * 2 ^ 8 < 2 ^ 32), or_shifted 8 _ _ (by omega),
    or_shifted 16 _ _ (by omega), or_shifted 24 _ _ (by omega)]
  omega

theorem join_u64 {high low : UInt32} :
    (high.toUInt64 <<< 32) ||| low.toUInt64 = value ↔
      high = (value >>> 32).toUInt32 ∧ low = (value &&& 0xffffffff).toUInt32 := by
  have highBound := high.toNat_lt
  have lowBound := low.toNat_lt
  have bound := value.toNat_lt
  have masked : value.toNat &&& 4294967295 = value.toNat % 4294967296 :=
    Nat.and_two_pow_sub_one_eq_mod _ 32
  simp only [← UInt64.toNat_inj, ← UInt32.toNat_inj, UInt64.toNat_or, UInt64.toNat_shiftLeft,
    UInt32.toNat_toUInt64, UInt64.toNat_toUInt32, UInt64.toNat_shiftRight, UInt64.toNat_and,
    UInt64.reduceToNat, Nat.reduceMod, masked, Nat.shiftRight_eq_div_pow, Nat.shiftLeft_eq]
  rw [Nat.mod_eq_of_lt (by omega), or_shifted 32 _ _ (by omega)]
  omega

theorem getElem?_byteAt (inside : offset < data.length) :
    data[offset]? = some (byteAt data offset) := by
  simp [byteAt, inside]

theorem readU16Be_eq_some :
    readU16Be data offset = some value ↔ Holds data offset (encodeU16 value) := by
  by_cases inside : offset + 2 ≤ data.length
  · rw [readU16Be, if_pos ((rangeValid_iff _ _ _).mpr (by omega)), Option.some.injEq, join_u16]
    simp [encodeU16, holds_cons, holds_nil, getElem?_byteAt (show offset < data.length by omega),
      getElem?_byteAt (show offset + 1 < data.length by omega)]
  rw [readU16Be, if_neg (by simp; omega)]
  refine ⟨nofun, fun holds => ?_⟩
  have fits := holds.length_le
  simp only [encodeU16, length_cons, length_nil] at fits
  omega

theorem readU32Be_eq_some :
    readU32Be data offset = some value ↔ Holds data offset (encodeU32 value) := by
  by_cases inside : offset + 4 ≤ data.length
  · rw [readU32Be, if_pos ((rangeValid_iff _ _ _).mpr (by omega)), Option.some.injEq, join_u32]
    simp [encodeU32, holds_cons, holds_nil, getElem?_byteAt (show offset < data.length by omega),
      getElem?_byteAt (show offset + 1 < data.length by omega),
      getElem?_byteAt (show offset + 2 < data.length by omega),
      getElem?_byteAt (show offset + 3 < data.length by omega), Nat.add_assoc]
  · rw [readU32Be, if_neg (by simp; omega)]
    refine ⟨nofun, fun holds => ?_⟩
    have fits := holds.length_le
    simp only [encodeU32, length_cons, length_nil] at fits
    omega

@[simp]
theorem encodeU16_length (value : UInt16) : (encodeU16 value).length = 2 := rfl

@[simp]
theorem encodeU32_length (value : UInt32) : (encodeU32 value).length = 4 := rfl

@[simp]
theorem encodeU64_length (value : UInt64) : (encodeU64 value).length = 8 := rfl

theorem readU64Be_eq_some {value : UInt64} :
    readU64Be data offset = some value ↔ Holds data offset (encodeU64 value) := by
  simp only [readU64Be, Option.bind_eq_bind, Option.bind_eq_some_iff, Option.pure_def,
    Option.some.injEq, join_u64, readU32Be_eq_some, encodeU64, holds_append, encodeU32_length]
  constructor
  · rintro ⟨high, first, low, second, rfl, rfl⟩
    exact ⟨first, second⟩
  · rintro ⟨first, second⟩
    exact ⟨_, first, _, second, rfl, rfl⟩

/-! ## Ethernet -/

theorem encodeTags_length (tags : List VlanTag) (etherType : UInt16) :
    (encodeTags tags etherType).length = 2 + 4 * tags.length := by
  induction tags with
  | nil => rfl
  | cons tag tags ih =>
    simp only [encodeTags, length_append, encodeU16_length, ih, length_cons]
    omega

theorem LinkHeader.encode_length (link : LinkHeader) (etherType : UInt16) :
    (link.encode etherType).length = 14 + 4 * link.tags.length := by
  simp only [LinkHeader.encode, length_append, link.destinationLength,
    link.sourceLength, encodeTags_length]
  omega

/-- The EtherType that a chain of VLAN headers starts with. -/
def tagsHead : List VlanTag → UInt16 → UInt16
  | [], etherType => etherType
  | tag :: _, _ => tag.protocolId

theorem readU16Be_tags (holds : Holds frame position (encodeTags tags etherType)) :
    readU16Be frame position = some (tagsHead tags etherType) := by
  cases tags with
  | nil => exact readU16Be_eq_some.mpr holds
  | cons tag tags => exact readU16Be_eq_some.mpr (holds_append.mp holds).1

theorem parseVlanTags_encoded (plain : isVlanEtherType etherType = false) (budget position : Nat)
    (view : PacketView) (atPosition : view.etherTypeOffset = position)
    (holds : Holds frame position (encodeTags tags etherType)) :
    parseVlanTags frame budget (position + 2) (tagsHead tags etherType) view =
      if tags.length ≤ budget then
        .ok { view with
          vlanTci := view.vlanTci ++ tags.map VlanTag.tci
          etherTypeOffset := position + 4 * tags.length
          etherType := etherType
          networkOffset := position + 2 + 4 * tags.length }
      else .error .limitExceeded := by
  induction tags generalizing budget position view with
  | nil =>
    unfold parseVlanTags
    simp [tagsHead, plain, atPosition]
  | cons tag tags ih =>
    obtain ⟨_, rest⟩ := holds_append.mp holds
    obtain ⟨tci, next⟩ := holds_append.mp rest
    simp only [encodeU16_length] at tci next
    unfold parseVlanTags
    rw [show tagsHead (tag :: tags) etherType = tag.protocolId from rfl, if_pos tag.isVlan]
    cases budget with
    | zero => simp
    | succ budget =>
      have nextType : readU16Be frame (position + 2 + 2) =
          some (tagsHead tags etherType) := readU16Be_tags next
      simp only [readU16Be_eq_some.mpr tci, nextType, orTruncated, ok_bind]
      rw [show position + 2 + vlanHeaderSize = position + 2 + 2 + 2 from rfl,
        ih budget (position + 2 + 2) _ rfl next]
      have nextPosition : position + 2 + 2 + 4 * tags.length =
          position + 4 * (tags.length + 1) := by omega
      have nextNetwork : position + 2 + 2 + 2 + 4 * tags.length =
          position + 2 + 4 * (tags.length + 1) := by omega
      simp only [length_cons, map_cons, append_assoc,
        cons_append, nil_append, Nat.add_le_add_iff_right, nextPosition, nextNetwork]

def linkView (frame : Bytes) (link : LinkHeader) (etherType : UInt16) : PacketView where
  frame := frame
  etherTypeOffset := 12 + 4 * link.tags.length
  etherType := etherType
  vlanTci := link.tags.map VlanTag.tci
  networkOffset := 14 + 4 * link.tags.length

theorem parseEthernet_encoded (valid : packetLimitsValid limits = true)
    (plain : isVlanEtherType etherType = false) (packet : Bytes) :
    parseEthernet (link.encode etherType ++ packet) limits =
      if link.tags.length ≤ limits.maxVlanTags then
        .ok (linkView (link.encode etherType ++ packet) link etherType)
      else .error .limitExceeded := by
  have whole : Holds (link.encode etherType ++ packet) 0 (link.encode etherType) := by simp [Holds]
  have tags : Holds (link.encode etherType ++ packet) 12 (encodeTags link.tags etherType) := by
    have addresses := (holds_append.mp (holds_append.mp whole).2).2
    simpa [link.destinationLength, link.sourceLength] using addresses
  have long : ¬ (link.encode etherType ++ packet).length <
      ethernetHeaderSize := by
    simp only [length_append, link.encode_length, ethernetHeaderSize]
    omega
  unfold parseEthernet
  simp only [throw_bind, valid, Bool.not_true, Bool.false_eq_true,
    if_false, if_neg long, readU16Be_tags tags, orTruncated, ok_bind]
  rw [parseVlanTags_encoded plain limits.maxVlanTags 12 _ rfl tags]
  rfl

/-! ## IPv4 -/

theorem ipv4FragmentField_toNat (bound : piece.offset < 65536) :
    (ipv4FragmentField piece).toNat = piece.offset / 8 + if piece.more then 0x2000 else 0 := by
  unfold ipv4FragmentField
  rw [UInt16.toNat_ofNat']
  split <;> omega

theorem ipv4FragmentField_offset (aligned : piece.offset % 8 = 0) (bound : piece.offset < 65536) :
    (ipv4FragmentField piece &&& 0x1fff).toNat * 8 = piece.offset := by
  have masked : (ipv4FragmentField piece).toNat &&& 0x1fff =
      (ipv4FragmentField piece).toNat % 8192 :=
    Nat.and_two_pow_sub_one_eq_mod _ 13
  rw [UInt16.toNat_and, show (0x1fff : UInt16).toNat = 0x1fff from rfl,
    masked, ipv4FragmentField_toNat bound]
  split <;> omega

theorem ipv4FragmentField_more (bound : piece.offset < 65536) :
    (ipv4FragmentField piece &&& 0x2000 != 0) = piece.more := by
  have bit : (ipv4FragmentField piece &&& 0x2000).toNat =
      ((ipv4FragmentField piece).toNat.testBit 13).toNat * 2 ^ 13 := by
    exact Nat.and_two_pow _ 13
  rw [ipv4FragmentField_toNat bound, Nat.testBit_eq_decide_div_mod_eq] at bit
  cases more : piece.more with
  | true =>
    have set : (piece.offset / 8 + 8192) / 2 ^ 13 % 2 = 1 := by omega
    simp only [more, if_true, set] at bit
    rw [bne_iff_ne]
    intro zero
    rw [zero] at bit
    simp at bit
  | false =>
    have clear : ¬ (piece.offset / 8 + 0) / 2 ^ 13 % 2 = 1 := by omega
    simp only [more, Bool.false_eq_true, if_false, clear] at bit
    rw [bne_eq_false_iff_eq]
    apply UInt16.toNat_inj.mp
    simpa using bit

theorem ipv4FirstByte (few : words ≤ 10) : (0x45 + UInt8.ofNat words) >>> 4 = 4 ∧
      ((0x45 + UInt8.ofNat words) &&& 0x0f).toNat * 4 = 20 + words * 4 := by
  have each : ∀ small : Fin 11, (0x45 + UInt8.ofNat small.val) >>> 4 = 4 ∧
        ((0x45 + UInt8.ofNat small.val) &&& 0x0f).toNat * 4 = 20 + small.val * 4 := by
    decide
  exact each ⟨words, by omega⟩

def ipv4View (view : PacketView) (source destination : Bytes) (identification : UInt16)
    (protocol : UInt8) (fields : FrameFields) (piece : Piece) : PacketView :=
  { view with
    ipVersion := .v4
    sourceAddress := source
    destinationAddress := destination
    fragmentId := identification.toUInt32
    fragmentOffset := piece.offset
    moreFragments := piece.more
    fragmented := piece.offset != 0 || piece.more
    ipProtocol := protocol
    transportOffset := view.networkOffset + (20 + fields.options.length)
    transportSize := piece.bytes.length }

theorem encodeIpv4_length (sourceLength : source.length = 4)
    (destinationLength : destination.length = 4) (identification : UInt16) (protocol : UInt8)
    (fields : FrameFields) (fragmentField : UInt16) (payload : Bytes) :
    (encodeIpv4 source destination identification protocol fields fragmentField payload).length =
        20 + fields.options.length + payload.length := by
  simp only [encodeIpv4, length_append, encodeU16_length, sourceLength,
    destinationLength, length_cons, length_nil]
  omega

theorem parseIpv4_encoded (sourceLength : source.length = 4)
    (destinationLength : destination.length = 4) (aligned : piece.offset % 8 = 0)
    (bound : piece.offset < 65536) (fits : 20 + fields.options.length + piece.bytes.length ≤ 65535)
    (holds : Holds view.frame view.networkOffset
      (encodeIpv4 source destination identification protocol fields
        (ipv4FragmentField piece) piece.bytes)) :
    parseIpv4 view = parseTransport (ipv4View view source destination identification
        protocol fields piece) := by
  have long := holds.length_le
  rw [encodeIpv4_length sourceLength destinationLength] at long
  simp only [encodeIpv4, holds_append] at holds
  obtain ⟨first, total, ident, field, hops, _, sourceHolds, destinationHolds, _⟩ := holds
  simp only [encodeU16_length, sourceLength, length_cons,
    length_nil, Nat.add_assoc, Nat.reduceAdd]
    at total ident field hops sourceHolds destinationHolds
  have proto : byteAt view.frame (view.networkOffset + 9) = protocol := by
    exact byteAt_holds_at hops (by decide : 1 < 2)
  obtain ⟨optionsAligned, optionsFew⟩ := fields.optionsLength
  obtain ⟨version, words⟩ := @ipv4FirstByte (fields.options.length / 4) (by omega)
  have header : (byteAt view.frame view.networkOffset &&& 0x0f).toNat * 4 =
      20 + fields.options.length := by
    rw [byteAt_holds first, words]
    omega
  have totalLength : (UInt16.ofNat (20 + (fields.options.length + piece.bytes.length))).toNat =
        20 + fields.options.length + piece.bytes.length := by
    rw [UInt16.toNat_ofNat']
    omega
  unfold parseIpv4
  simp only [throw_bind, readU16Be_eq_some.mpr total,
    readU16Be_eq_some.mpr ident, readU16Be_eq_some.mpr field, orTruncated,
    ok_bind, header, totalLength, proto, slice_holds sourceHolds sourceLength,
    slice_holds destinationHolds destinationLength,
    ipv4FragmentField_offset aligned bound, ipv4FragmentField_more bound, ipv4MinHeaderSize]
  rw [if_neg (by omega), if_neg (by simp [byteAt_holds first, version]),
    if_neg (by omega), if_neg (by omega), if_neg (by omega), if_neg (by omega)]
  congr 2
  omega

end Wire

end JanusGate
