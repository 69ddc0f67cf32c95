import JanusGate.Common.PolicyMatch

/-!
# Address prefixes bit by bit

Normalizing a network keeps the bits of its prefix and clears the others, and
the matcher compares the bits of the prefix.
-/

namespace JanusGate

open List

namespace Policy

/-- The bits of an address in network order. -/
def bitAt (address : Bytes) (position : Nat) : Bool :=
  (byteAt address (position / 8)).toBitVec.getMsbD (position % 8)

/-- Two addresses agree on the first bits. -/
def AgreeUpTo (count : UInt8) (left right : Bytes) : Prop :=
  ∀ position < count.toNat, bitAt left position = bitAt right position

variable {address other : Bytes} {count otherCount : UInt8} {size index position : Nat}

theorem eq_of_byteAt (length : address.length = other.length)
    (same : ∀ index < address.length, byteAt address index = byteAt other index) :
    address = other :=
  ext_getElem length fun index inside otherInside => by
    simpa [byteAt, getD_eq_getElem?_getD, inside, otherInside] using same index inside

theorem eq_of_bitAt (length : address.length = other.length)
    (same : ∀ position < 8 * address.length, bitAt address position = bitAt other position) :
    address = other := by
  refine eq_of_byteAt length fun index inside => ?_
  rw [← UInt8.toBitVec_inj]
  refine BitVec.eq_of_getMsbD_eq fun bit small => ?_
  have here := same (8 * index + bit) (by omega)
  simpa only [bitAt, Nat.mul_add_div (by decide : 8 > 0), Nat.div_eq_of_lt small, Nat.add_zero,
    Nat.mul_add_mod, Nat.mod_eq_of_lt small] using here

theorem remainingMask_bits (partly : count.toNat % 8 ≠ 0) (bit : Fin 8) :
    (remainingMask count).toBitVec.getMsbD bit = decide (bit.val < count.toNat % 8) := by
  revert partly bit
  exact @Domain.forall_byte (fun count => count.toNat % 8 ≠ 0 → ∀ bit : Fin 8,
    (remainingMask count).toBitVec.getMsbD bit = decide (bit.val < count.toNat % 8))
    (by decide +kernel) count

theorem remaining_eq_zero : count % 8 = 0 ↔ count.toNat % 8 = 0 := by
  rw [← UInt8.toNat_inj, UInt8.toNat_mod]
  rfl

@[simp]
theorem maskAddress_length : (maskAddress address count size).length = size := by simp [maskAddress]

theorem byteAt_maskAddress (inside : index < size) :
    byteAt (maskAddress address count size) index =
      if index < count.toNat / 8 then byteAt address index
      else if index = count.toNat / 8 ∧ count.toNat % 8 ≠ 0 then
        byteAt address index &&& remainingMask count
      else 0 := by
  simp [byteAt, getD_eq_getElem?_getD, maskAddress, inside, remaining_eq_zero]

/-- Normalization clears exactly the bits after the prefix. -/
theorem bitAt_maskAddress (inside : position < 8 * size) :
    bitAt (maskAddress address count size) position =
      (decide (position < count.toNat) && bitAt address position) := by
  rw [bitAt, byteAt_maskAddress (by omega)]
  split
  · rw [decide_eq_true (by omega), Bool.true_and, bitAt]
  split
  case isTrue last =>
    have bit := remainingMask_bits last.2 ⟨position % 8, Nat.mod_lt _ (by decide)⟩
    dsimp only at bit
    rw [UInt8.toBitVec_and, BitVec.getMsbD_and, bit, Bool.and_comm, bitAt]
    congr 2
    rw [eq_iff_iff]
    omega
  case isFalse =>
    rw [decide_eq_false (by omega)]
    simp

theorem maskAddress_eq_iff (fits : count.toNat ≤ 8 * size) :
    maskAddress address count size = maskAddress other count size ↔
      AgreeUpTo count address other := by
  constructor
  · intro same position before
    have masked := congrArg (bitAt · position) same
    simpa [bitAt_maskAddress (Nat.lt_of_lt_of_le before fits), before] using masked
  intro agree
  refine eq_of_bitAt (by simp) fun position inside => ?_
  rw [maskAddress_length] at inside
  rw [bitAt_maskAddress inside, bitAt_maskAddress inside]
  by_cases before : position < count.toNat
  · rw [agree position before]
  · rw [decide_eq_false before, Bool.false_and, Bool.false_and]

theorem addressMatches_iff (fits : count.toNat ≤ 8 * size) :
    addressMatches address (maskAddress other count size) count = true ↔
      AgreeUpTo count address other := by
  rw [← maskAddress_eq_iff fits]
  simp only [addressMatches, Bool.and_eq_true, all_eq_true, mem_range, beq_iff_eq,
    Bool.or_eq_true, remaining_eq_zero]
  constructor
  · rintro ⟨complete, last⟩
    refine eq_of_byteAt (by simp) fun index inside => ?_
    rw [maskAddress_length] at inside
    rw [byteAt_maskAddress inside]
    split
    case isTrue before => exact complete index before
    case isFalse after =>
      split
      case isTrue here =>
        obtain ⟨rfl, rest⟩ := here
        exact last.resolve_left rest
      case isFalse cleared => rw [byteAt_maskAddress inside, if_neg after, if_neg cleared]
  · intro same
    rw [← same]
    refine ⟨fun index before => ?_, or_iff_not_imp_left.mpr fun rest => ?_⟩
    · rw [byteAt_maskAddress (by omega), if_pos before]
    · rw [byteAt_maskAddress (by omega), if_neg (Nat.lt_irrefl _), if_pos ⟨rfl, rest⟩]

theorem bitAt_map_not (inside : position < 8 * address.length) :
    bitAt (address.map (~~~ ·)) position = !bitAt address position := by
  have bound : position / 8 < address.length := by omega
  simp [bitAt, byteAt, getD_eq_getElem?_getD, bound, Nat.mod_lt]

theorem maskAddress_agrees (fits : count.toNat ≤ 8 * size) :
    AgreeUpTo count (maskAddress address count size) address := by
  intro position before
  rw [bitAt_maskAddress (Nat.lt_of_lt_of_le before fits), decide_eq_true before, Bool.true_and]

/-- A prefix fixes no bit behind it: the addresses that go on with zeros and with ones differ. -/
theorem prefix_not_longer (fits : otherCount.toNat ≤ 8 * size)
    (same : ∀ tested : Bytes, tested.length = size → AgreeUpTo count tested address →
      AgreeUpTo otherCount tested other) : otherCount.toNat ≤ count.toNat := by
  by_contra longer
  have before : count.toNat < otherCount.toNat := by omega
  have inside : count.toNat < 8 * size := by omega
  have agrees := @maskAddress_agrees address count size (by omega)
  have zero := same _ maskAddress_length agrees _ before
  have one := same ((maskAddress ((maskAddress address count size).map (~~~ ·)) count size).map
    (~~~ ·)) (by simp) (fun position small => by
      rw [bitAt_map_not (by simp; omega), bitAt_maskAddress (by omega), decide_eq_true small,
        Bool.true_and, bitAt_map_not (by simp; omega), Bool.not_not, agrees position small])
    _ before
  rw [bitAt_map_not (by simpa using inside)] at one
  rw [bitAt_maskAddress inside] at zero one
  rw [← zero] at one
  simp at one

theorem prefixes_equal (fits : count.toNat ≤ 8 * size) (otherFits : otherCount.toNat ≤ 8 * size)
    (same : ∀ tested : Bytes, tested.length = size →
      (AgreeUpTo count tested address ↔ AgreeUpTo otherCount tested other)) :
    count = otherCount ∧ maskAddress address count size = maskAddress other otherCount size := by
  have equal : count = otherCount := UInt8.toNat_inj.mp (Nat.le_antisymm
    (prefix_not_longer fits fun tested length => (same tested length).mpr)
    (prefix_not_longer otherFits fun tested length => (same tested length).mp))
  subst equal
  refine ⟨rfl, (maskAddress_eq_iff fits).mpr fun position before => ?_⟩
  have agrees := @maskAddress_agrees address count size fits
  rw [← agrees position before]
  exact (same _ maskAddress_length).mp agrees position before

/-- What normalizing the prefixes of one address family does, and when the matcher accepts an
address. -/
structure PrefixRules {V : Type} (size : Nat) (make : Bytes → UInt8 → V)
    (normalize : V → Except Int V) (accepts : V → Bytes → Bool) : Prop where
  normalized : ∀ address count value, normalize (make address count) = .ok value →
    (∃ masked, value = make masked count ∧ masked.length = size ∧ ∀ position < 8 * size,
      bitAt masked position = (decide (position < count.toNat) && bitAt address position)) ∧
    normalize value = .ok value ∧
    ∀ tested, accepts value tested = true ↔ AgreeUpTo count tested address
  canonical : ∀ address count value other otherCount otherValue,
    normalize (make address count) = .ok value →
      normalize (make other otherCount) = .ok otherValue →
      (∀ tested : Bytes, tested.length = size → accepts value tested = accepts otherValue tested) →
        value = otherValue

theorem prefixRules_of_mask {V : Type} {make : Bytes → UInt8 → V} {normalize : V → Except Int V}
    {accepts : V → Bytes → Bool} {limit : UInt8} (whole : limit.toNat = 8 * size)
    (normalizes : ∀ address count, normalize (make address count) =
      if count > limit then .error eInval else .ok (make (maskAddress address count size) count))
    (accepting : ∀ address count tested,
      accepts (make address count) tested = addressMatches tested address count) :
    PrefixRules size make normalize accepts := by
  have accepted {address count value} (ok : normalize (make address count) = .ok value) :
      count.toNat ≤ 8 * size ∧ make (maskAddress address count size) count = value := by
    rw [normalizes, Outcome.guard_eq_ok, Except.ok.injEq, gt_iff_lt, UInt8.lt_iff_toNat_lt,
      Nat.not_lt, whole] at ok
    exact ok
  constructor
  case normalized =>
    intro address count value ok
    obtain ⟨fits, rfl⟩ := accepted ok
    refine ⟨⟨_, rfl, maskAddress_length, fun position inside => bitAt_maskAddress inside⟩, ?_,
      fun tested => by rw [accepting, addressMatches_iff fits]⟩
    rw [normalizes] at ok ⊢
    rw [(maskAddress_eq_iff fits).mpr (maskAddress_agrees fits)]
    exact ok
  case canonical =>
    intro address count value other otherCount otherValue ok otherOk same
    obtain ⟨fits, rfl⟩ := accepted ok
    obtain ⟨otherFits, rfl⟩ := accepted otherOk
    obtain ⟨rfl, equal⟩ := prefixes_equal fits otherFits fun tested length => by
      rw [← addressMatches_iff fits, ← addressMatches_iff otherFits, ← accepting, ← accepting,
        same tested length]
    rw [equal]

/-- A destination rule for one network, the rest as in the given rule. -/
def destinationNetwork (input : PolicyDestinationRuleInput) (family : PolicyAddressFamily)
    (address : Bytes) (count : UInt8) : PolicyDestinationRuleInput :=
  { input with hasAddress := true, addressFamily := family, address, prefixLength := count }

def normalizeDestination (input : PolicyDestinationRuleInput) :
    Except Int PolicyDestinationRuleInput :=
  (destinationAddressNormalize input).map fun (family, address, count) =>
    destinationNetwork input family address count

theorem prefixes_normalize (client : PolicyClient) (input : PolicyDestinationRuleInput) :
    PrefixRules 4 .ipv4 policyScopeNormalize (fun scope tested =>
      scopeMatches scope (some { client with addressFamily := .ipv4, address := tested })) ∧
    PrefixRules 16 .ipv6 policyScopeNormalize (fun scope tested =>
      scopeMatches scope (some { client with addressFamily := .ipv6, address := tested })) ∧
    PrefixRules 4 (destinationNetwork input .ipv4) normalizeDestination (fun rule tested =>
      addressMatches tested rule.address rule.prefixLength) ∧
    PrefixRules 16 (destinationNetwork input .ipv6) normalizeDestination (fun rule tested =>
      addressMatches tested rule.address rule.prefixLength) := by
  refine ⟨@prefixRules_of_mask 4 _ _ _ _ 32 rfl (fun _ _ => rfl) fun _ _ _ => rfl,
    @prefixRules_of_mask 16 _ _ _ _ 128 rfl (fun _ _ => rfl) fun _ _ _ => rfl,
    @prefixRules_of_mask 4 _ _ _ _ 32 rfl (fun address count => ?_) fun _ _ _ => rfl,
    @prefixRules_of_mask 16 _ _ _ _ 128 rfl (fun address count => ?_) fun _ _ _ => rfl⟩
  · exact apply_ite (Except.map _) (count > 32) _ _
  · exact apply_ite (Except.map _) (count > 128) _ _

end Policy

end JanusGate
