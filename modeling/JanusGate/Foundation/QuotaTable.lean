import JanusGate.Foundation.SlotTable

/-!
# Keyed tables with a quota for every group of keys

The keys of a table fall into groups, and a group may occupy a bounded number
of slots.  An operation for one key writes at most the slot that this key owns
(`Quota.Write`).  That alone keeps keys unique and groups within the quota,
and leaves every other key alone.
-/

namespace SlotTable

variable {ε κ : Type}

/-- Grouped keys, and the number of slots that one group may occupy. -/
structure Quota (ε κ : Type) where
  keyOf : ε → κ
  sameGroup : κ → κ → Bool
  limit : Nat
  refl : ∀ key, sameGroup key key = true
  congr : ∀ left right, sameGroup left right = true →
    ∀ key, sameGroup key left = sameGroup key right

namespace Quota

variable (quota : Quota ε κ)

section

variable (slots : List (Option ε))

def used (key : κ) : Nat :=
  count (fun entry => quota.sameGroup (quota.keyOf entry) key) slots

def Absent (key : κ) : Prop :=
  ∀ index entry, At slots index entry → quota.keyOf entry ≠ key

/-- Slot `index` belongs to a key: it holds the entry of the key, or it is
free for a new entry that the group may still open. -/
def Owns (key : κ) (index : Nat) : Prop :=
  (∃ entry, At slots index entry ∧ quota.keyOf entry = key) ∨
    (slots[index]? = some none ∧ quota.Absent slots key ∧ quota.used slots key < quota.limit)

def Write (key : κ) (after : List (Option ε)) : Prop :=
  after = slots ∨ ∃ index slot, quota.Owns slots key index ∧
      (∀ entry ∈ slot, quota.keyOf entry = key) ∧ after = slots.set index slot

end

/-- Keys are unique and every group is within the quota. -/
structure Wf (slots : List (Option ε)) : Prop where
  unique : Unique quota.keyOf slots
  bounded : ∀ key, quota.used slots key ≤ quota.limit

variable {quota} {slots after : List (Option ε)} {key : κ}

theorem wf_replicate (capacity : Nat) : quota.Wf (List.replicate capacity none) where
  unique := unique_replicate capacity
  bounded := fun key => by
    rw [used, count_replicate]
    exact Nat.zero_le _

theorem Wf.expire (wf : quota.Wf slots) (expired : ε → Bool) : quota.Wf (expire expired slots) where
  unique := wf.unique.expire _
  bounded := fun key => Nat.le_trans (count_expire_le _ _ _) (wf.bounded key)

section

variable (owns : quota.Owns slots key index)

include owns

theorem Owns.lt_length : index < slots.length := by
  rcases owns with ⟨entry, holds, _⟩ | ⟨free, _⟩
  · exact holds.lt_length
  · exact (List.getElem?_eq_some_iff.mp free).1

theorem Owns.alone (unique : Unique quota.keyOf slots) :
    ∀ other entry, At slots other entry → quota.keyOf entry = key → other = index := by
  intro other entry holds sameKey
  rcases owns with ⟨own, holdsOwn, ownKey⟩ | ⟨_, absent, _⟩
  · exact unique other index entry own holds holdsOwn (sameKey.trans ownKey.symm)
  · exact absurd sameKey (absent other entry holds)

/-- Without the slot that a key owns, its group has room for one more. -/
theorem Owns.room (wf : quota.Wf slots) :
    quota.used (slots.set index none) key < quota.limit := by
  rcases owns with ⟨entry, holds, sameKey⟩ | ⟨free, _, room⟩
  · have exchange := count_set (fun other => quota.sameGroup (quota.keyOf other) key) none holds
    have counted : quota.sameGroup (quota.keyOf entry) key = true := by
      rw [sameKey]
      exact quota.refl key
    have total := wf.bounded key
    simp only [weight, counted, if_true] at exchange
    unfold used at total ⊢
    omega
  · have exchange := count_set (fun other => quota.sameGroup (quota.keyOf other) key) none free
    unfold used at room ⊢
    omega

end

theorem used_clear_le (inside : index < slots.length) (key : κ) :
    quota.used (slots.set index none) key ≤ quota.used slots key := by
  have exchange := count_set (fun entry => quota.sameGroup (quota.keyOf entry) key) none
    (List.getElem?_eq_getElem inside)
  simp only [weight] at exchange
  unfold used
  omega

/-- Filling a slot adds one to the group of the entry and to no other. -/
theorem used_fill (inside : index < slots.length) (entry : ε) (key : κ) :
    quota.used (slots.set index (some entry)) key = quota.used (slots.set index none) key +
        (if quota.sameGroup (quota.keyOf entry) key then 1 else 0) := by
  have cleared : (slots.set index none)[index]? = some none := by simp [inside]
  have exchange := count_set (fun entry => quota.sameGroup (quota.keyOf entry) key) (some entry)
    cleared
  rw [List.set_set] at exchange
  simp only [weight] at exchange
  unfold used
  omega

variable (write : quota.Write slots key after)

include write

/-- An operation for one key keeps keys unique and groups within the quota. -/
theorem Write.wf (wf : quota.Wf slots) : quota.Wf after := by
  rcases write with rfl | ⟨index, slot, owns, slotKey, rfl⟩
  · exact wf
  have inside := owns.lt_length
  have room := owns.room wf
  cases slot with
  | none =>
    exact ⟨wf.unique.clear inside, fun other =>
      Nat.le_trans (used_clear_le inside other) (wf.bounded other)⟩
  | some entry =>
    have sameKey : quota.keyOf entry = key := slotKey entry rfl
    refine ⟨wf.unique.write inside ?_, fun other => ?_⟩
    · rw [sameKey]
      exact owns.alone wf.unique
    rw [used_fill inside]
    have total := wf.bounded other
    have smaller : quota.used (slots.set index none) other ≤
        quota.used slots other := used_clear_le inside other
    split
    case isTrue counted =>
      rw [sameKey] at counted
      -- The group of the other key is the one that has room.
      have sameCount : quota.used (slots.set index none) other =
          quota.used (slots.set index none) key := by
        unfold used
        simp only [quota.congr key other counted]
      omega
    case isFalse => omega

/-- An operation for one key leaves the other keys alone. -/
theorem Write.frame (different : quota.keyOf entry ≠ key) :
    At after index entry ↔ At slots index entry := by
  rcases write with rfl | ⟨position, slot, owns, slotKey, rfl⟩
  · rfl
  rw [at_set_iff owns.lt_length]
  constructor
  · rintro (⟨_, same⟩ | ⟨_, holds⟩)
    · exact absurd (slotKey entry same) different
    · exact holds
  intro holds
  refine .inr ⟨?_, holds⟩
  rintro rfl
  rcases owns with ⟨own, holdsOwn, ownKey⟩ | ⟨free, _⟩
  · exact different (holds.functional holdsOwn ▸ ownKey)
  · rw [At, free] at holds
    cases holds

/-- After an operation for a key on unexpired slots the key owns a slot if it
did before, also when what the operation left there expires at once. -/
theorem Write.owns_iff (wf : quota.Wf slots) (live : SlotTable.expire expired slots = slots) :
    (∃ index, quota.Owns (SlotTable.expire expired after) key index) ↔
      ∃ index, quota.Owns slots key index := by
  rcases write with rfl | ⟨index, slot, owns, slotKey, rfl⟩
  · rw [live]
  refine ⟨fun _ => ⟨index, owns⟩, fun _ => ⟨index, ?_⟩⟩
  have inside : index < (SlotTable.expire expired (slots.set index slot)).length := by
    simpa using owns.lt_length
  cases left : (SlotTable.expire expired (slots.set index slot))[index]? with
  | none =>
    have outside := List.getElem?_eq_none_iff.mp left
    omega
  | some content =>
    cases content with
    | some entry =>
      refine .inl ⟨entry, left, ?_⟩
      have written := (at_expire_iff.mp left).1
      rcases (at_set_iff owns.lt_length).mp written with ⟨_, same⟩ | ⟨elsewhere, _⟩
      · exact slotKey entry same
      · exact absurd rfl elsewhere
    | none =>
      refine .inr ⟨left, ?_, ?_⟩
      · intro other entry holds sameKey
        have written := (at_expire_iff.mp holds).1
        rcases (at_set_iff owns.lt_length).mp written with ⟨rfl, _⟩ | ⟨elsewhere, old⟩
        · rw [At, left] at holds
          cases holds
        · exact elsewhere (owns.alone wf.unique other entry old sameKey)
      · have cleared : SlotTable.expire expired (slots.set index slot) =
              SlotTable.expire expired (slots.set index none) := by
          have unchanged := List.set_getElem_self inside
          rw [(List.getElem?_eq_some_iff.mp left).2] at unchanged
          rw [← unchanged, ← expire_set_none, List.set_set]
        rw [cleared]
        exact Nat.lt_of_le_of_lt (count_expire_le _ _ _) (owns.room wf)

end Quota

end SlotTable
