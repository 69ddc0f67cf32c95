import JanusGate.Daemon.Fragment
import JanusGate.Foundation.Runs

/-!
# What the fragment tracker keeps

Every step of the tracker changes at most the slot of one key.  From a
description of that slot (`addToEntry_cases`) follow the invariants of whole
runs: keys stay unique, and the intervals of a live entry stay ordered,
disjoint and inside the announced size, and never cover it.
-/

namespace JanusGate

open SlotTable Fragment Runs Cover List

namespace Fragment

/-! ## Limits and the interval scan -/

variable {limits : FragmentLimits} {packet : PacketView} {entry base : FragmentEntry}
  {nowMs index : Nat} {entries : List (Option FragmentEntry)}

theorem limits_bounds (valid : fragmentLimitsValidate limits = 0) :
    0 < limits.maxFragmentsPerDatagram ∧ 0 < limits.timeoutMs ∧
      limits.maxBytesPerDatagram ≤ bytesLimit := by
  unfold fragmentLimitsValidate at valid
  split at valid
  · simp [eInval] at valid
  · split at valid
    · simp [eRange] at valid
    · omega

theorem inspectIntervals_stored
    (stored : inspectIntervals payload offset more fragment intervals = .stored) :
    ∀ interval ∈ intervals, offset + fragment.length ≤ interval.offset ∨
        interval.finish ≤ offset := by
  induction intervals with
  | nil => simp
  | cons head rest ih =>
    unfold inspectIntervals at stored
    split at stored
    · cases stored
    split at stored
    · cases stored
    case isFalse apart =>
      intro interval member
      rcases mem_cons.mp member with rfl | inRest
      · omega
      · exact ih stored interval inRest

theorem inspectIntervals_duplicate
    (duplicate : inspectIntervals payload offset more fragment intervals = .duplicate) :
    (⟨offset, fragment.length, more⟩ : FragmentInterval) ∈ intervals ∧
      fragment = slice payload offset fragment.length := by
  induction intervals with
  | nil => simp [inspectIntervals] at duplicate
  | cons head rest ih =>
    unfold inspectIntervals at duplicate
    split at duplicate
    case isTrue same =>
      obtain ⟨sameOffset, sameSize, sameMore, sameBytes⟩ := same
      refine ⟨?_, by rw [sameOffset]; exact sameBytes⟩
      have headEq : (⟨offset, fragment.length, more⟩ : FragmentInterval) = head := by
        rw [sameOffset, sameSize, sameMore]
      rw [headEq]
      simp
    case isFalse =>
      split at duplicate
      · cases duplicate
      · obtain ⟨member, sameBytes⟩ := ih duplicate
        exact ⟨by simp [member], sameBytes⟩

theorem fragmentBytes_length (valid : packetValid packet = true) :
    (fragmentBytes packet).length = packet.transportSize := by
  have inside : packet.transportOffset ≤ packet.frame.length ∧ packet.transportSize ≤
        packet.frame.length - packet.transportOffset := by
    simp only [packetValid, Bool.and_eq_true, rangeValid_iff] at valid
    exact valid.2
  rw [fragmentBytes, slice_length]
  omega

/-! ## One entry -/

structure EntryWf (limits : FragmentLimits) (entry : FragmentEntry) : Prop where
  ordered : Ordered FragmentInterval.offset FragmentInterval.size entry.intervals
  positive : ∀ interval ∈ entry.intervals, 0 < interval.size
  payloadLength : entry.payload.length = limits.maxBytesPerDatagram
  bounded : ∀ interval ∈ entry.intervals, interval.finish ≤ limits.maxBytesPerDatagram
  lastStored : ∀ interval ∈ entry.intervals, interval.moreFragments = false →
      entry.hasLast = true ∧ interval.finish = entry.expectedSize
  inside : entry.hasLast = true → ∀ interval ∈ entry.intervals, interval.finish ≤ entry.expectedSize

/-- The retained intervals reach from the start to a last fragment that ends
at `finish`. -/
def Covered (entry : FragmentEntry) (finish : Nat) : Prop :=
  (∀ position, position < finish → Contains FragmentInterval.offset FragmentInterval.size
      entry.intervals position) ∧
    ∃ interval ∈ entry.intervals, interval.moreFragments = false ∧ interval.finish = finish

instance (entry : FragmentEntry) (finish : Nat) : Decidable (Covered entry finish) := by
  unfold Covered Contains
  infer_instance

theorem initializeEntry_wf (limits : FragmentLimits) (key : FragmentKey) (nowMs : Nat) :
    EntryWf limits (initializeEntry limits key nowMs) where
  ordered := by simp [initializeEntry, Ordered]
  positive := by simp [initializeEntry]
  payloadLength := by simp [initializeEntry]
  bounded := by simp [initializeEntry]
  lastStored := by simp [initializeEntry]
  inside := by simp [initializeEntry]

theorem entryComplete_of_covered (wellFormed : EntryWf limits entry)
    (covered : Covered entry finish) : entryComplete entry = true := by
  obtain ⟨contains, last, lastMember, lastMore, lastFinish⟩ := covered
  obtain ⟨hasLast, lastExpected⟩ := wellFormed.lastStored last lastMember lastMore
  have expected : entry.expectedSize = finish := by omega
  have walked : coverFrom 0 entry.intervals = some finish := by
    apply walk_of_contains wellFormed.ordered wellFormed.positive
    · intro interval member
      have := wellFormed.inside hasLast interval member
      exact ⟨Nat.zero_le _, by simpa [FragmentInterval.finish, expected] using this⟩
    · exact Nat.zero_le _
    · intro position _ high
      exact contains position high
  simp [entryComplete, hasLast, walked, expected]

theorem addToEntry_cases (limits : FragmentLimits) (packet : PacketView)
    (nowMs outputSize : Nat) (entry : FragmentEntry) :
    (∃ answer, addToEntry limits packet nowMs outputSize entry =
        (some (rejectEntry limits entry.key nowMs), answer) ∧
        (answer = .ok .overlap ∨ answer = .ok .exhausted ∨ answer = .error eNoSpc)) ∨
      (inspectIntervals entry.payload packet.fragmentOffset
          packet.moreFragments (fragmentBytes packet) entry.intervals = .duplicate ∧
        addToEntry limits packet nowMs outputSize entry = (some entry, .ok .duplicate)) ∨
      (contradictsEnd packet entry = false ∧ inspectIntervals entry.payload packet.fragmentOffset
          packet.moreFragments (fragmentBytes packet) entry.intervals = .stored ∧
        ((entryComplete (retainFragment limits packet nowMs entry) = false ∧
            addToEntry limits packet nowMs outputSize entry =
              (some (retainFragment limits packet nowMs entry), .ok .stored)) ∨
          (entryComplete (retainFragment limits packet nowMs entry) = true ∧
            addToEntry limits packet nowMs outputSize entry = (none, .ok (.complete
                ((retainFragment limits packet nowMs entry).payload.take
                  (retainFragment limits packet nowMs entry).expectedSize)))))) := by
  unfold addToEntry
  by_cases contradicts : contradictsEnd packet entry = true
  · exact .inl ⟨_, by simp only [contradicts, if_true], .inl rfl⟩
  have consistent : contradictsEnd packet entry = false := by simpa using contradicts
  simp only [consistent, Bool.false_eq_true, if_false]
  cases scanned : inspectIntervals entry.payload packet.fragmentOffset
      packet.moreFragments (fragmentBytes packet) entry.intervals with
  | duplicate => exact .inr (.inl ⟨rfl, rfl⟩)
  | overlap => exact .inl ⟨_, rfl, .inl rfl⟩
  | stored =>
    by_cases full : entry.intervals.length ≥ limits.maxFragmentsPerDatagram
    · exact .inl ⟨_, by rw [if_pos full], .inr (.inl rfl)⟩
    rw [if_neg full]
    cases complete : entryComplete (retainFragment limits packet nowMs entry) with
    | false =>
      refine .inr (.inr ⟨trivial, rfl, .inl ⟨rfl, ?_⟩⟩)
      simp
    | true =>
      by_cases small : outputSize < (retainFragment limits packet nowMs entry).expectedSize
      · exact .inl ⟨_, by simp [small], .inr (.inr rfl)⟩
      · refine .inr (.inr ⟨trivial, rfl, .inr ⟨rfl, ?_⟩⟩)
        simp [small]

theorem transportSize_pos (wellSized : fragmentMalformed packet = false) :
    0 < packet.transportSize := by
  simp only [fragmentMalformed, Bool.or_eq_false_iff, beq_eq_false_iff_ne] at wellSized
  omega

section

variable (consistent : contradictsEnd packet entry = false) (hasLast : entry.hasLast = true)

include consistent hasLast

/-- A fragment that does not contradict a known end stays within it. -/
theorem consistent_end : fragmentEnd packet ≤ entry.expectedSize ∧ (packet.moreFragments = false →
        fragmentEnd packet = entry.expectedSize) := by
  simp only [contradictsEnd, hasLast, Bool.true_and, Bool.or_eq_false_iff,
    decide_eq_false_iff_not, Bool.and_eq_false_iff] at consistent
  refine ⟨by omega, ?_⟩
  intro last
  have same := consistent.2
  simp [last] at same
  exact same.symm

theorem retainFragment_expected :
    (retainFragment limits packet nowMs entry).expectedSize = entry.expectedSize := by
  cases more : packet.moreFragments with
  | true => simp [retainFragment, more]
  | false =>
    have := (consistent_end consistent hasLast).2 more
    simp [retainFragment, this]

end

theorem retainFragment_payload_length (valid : packetValid packet = true)
    (fits : fragmentEnd packet ≤ limits.maxBytesPerDatagram)
    (length : entry.payload.length = limits.maxBytesPerDatagram) :
    (retainFragment limits packet nowMs entry).payload.length = limits.maxBytesPerDatagram := by
  have size := fragmentBytes_length valid
  unfold fragmentEnd at fits
  simp only [retainFragment, writePayload, length_append, length_take, length_drop]
  omega

theorem retainFragment_wf (wellFormed : EntryWf limits entry) (valid : packetValid packet = true)
    (wellSized : fragmentMalformed packet = false)
    (fits : fragmentEnd packet ≤ limits.maxBytesPerDatagram)
    (consistent : contradictsEnd packet entry = false)
    (stored : inspectIntervals entry.payload packet.fragmentOffset
      packet.moreFragments (fragmentBytes packet) entry.intervals = .stored)
    (endsLast : packet.moreFragments = false →
      ∀ interval ∈ entry.intervals, interval.finish ≤ fragmentEnd packet) :
    EntryWf limits (retainFragment limits packet nowMs entry) := by
  have sizePositive := transportSize_pos wellSized
  have apart := inspectIntervals_stored stored
  rw [fragmentBytes_length valid] at apart
  have memberCases : ∀ interval, interval ∈ (retainFragment limits packet nowMs entry).intervals →
        interval = ⟨packet.fragmentOffset, packet.transportSize, packet.moreFragments⟩ ∨
          interval ∈ entry.intervals :=
    fun interval member => mem_insert.mp member
  refine ⟨?_, ?_, ?_, ?_, ?_, ?_⟩
  · exact wellFormed.ordered.insert apart sizePositive
  · intro interval member
    rcases memberCases interval member with rfl | old
    · exact sizePositive
    · exact wellFormed.positive interval old
  · rw [retainFragment_payload_length valid fits wellFormed.payloadLength]
  · intro interval member
    rcases memberCases interval member with rfl | old
    · exact fits
    · exact wellFormed.bounded interval old
  · intro interval member lastMore
    rcases memberCases interval member with rfl | old
    · dsimp only at lastMore
      simp [retainFragment, lastMore, FragmentInterval.finish, fragmentEnd]
    · obtain ⟨hasLast, finish⟩ := wellFormed.lastStored interval old lastMore
      refine ⟨by simp [retainFragment, hasLast], ?_⟩
      rw [finish, retainFragment_expected consistent hasLast]
  · intro hasLast interval member
    cases more : packet.moreFragments with
    | true =>
      have oldLast : entry.hasLast = true := by simpa [retainFragment, more] using hasLast
      rw [retainFragment_expected consistent oldLast]
      rcases memberCases interval member with rfl | old
      · exact (consistent_end consistent oldLast).1
      · exact wellFormed.inside oldLast interval old
    | false =>
      have expected : (retainFragment limits packet nowMs
          entry).expectedSize = fragmentEnd packet := by
        simp [retainFragment, more]
      rw [expected]
      rcases memberCases interval member with rfl | old
      · exact Nat.le_refl _
      · exact endsLast more interval old

/-! ## One step of the tracker -/

/-- Slot `index` holds the live entry `base` of the key, or is free for a new one. -/
def OwnsSlot (limits : FragmentLimits) (live : List (Option FragmentEntry))
    (key : FragmentKey) (nowMs index : Nat) (base : FragmentEntry) : Prop :=
  (At live index base ∧ base.key = key ∧ base.rejected = false) ∨
    (live[index]? = some none ∧ (∀ other entry, At live other entry → entry.key ≠ key) ∧
      base = initializeEntry limits key nowMs)

section

variable {live : List (Option FragmentEntry)} (owns : OwnsSlot limits live key nowMs index base)

include owns

theorem OwnsSlot.lt_length : index < live.length := by
  rcases owns with ⟨holds, _⟩ | ⟨free, _⟩
  · exact holds.lt_length
  · exact (List.getElem?_eq_some_iff.mp free).1

theorem OwnsSlot.key_eq : base.key = key := by
  rcases owns with ⟨_, same, _⟩ | ⟨_, _, rfl⟩
  · exact same
  · rfl

theorem OwnsSlot.alone (unique : Unique FragmentEntry.key live) :
    ∀ other entry, At live other entry → entry.key = key → other = index := by
  intro other entry holds sameKey
  rcases owns with ⟨holdsBase, baseKey, _⟩ | ⟨_, absent, _⟩
  · exact unique other index entry base holds holdsBase (sameKey.trans baseKey.symm)
  · exact absurd sameKey (absent other entry holds)

end

abbrev liveEntries (entries : List (Option FragmentEntry)) (nowMs : Nat) :
    List (Option FragmentEntry) :=
  expireEntries entries nowMs

/-- Everything one call can do. -/
theorem addFragment_cases (unique : Unique FragmentEntry.key entries)
    (packet : PacketView) (nowMs outputSize : Nat) :
    (∃ answer, addFragment limits entries packet nowMs outputSize =
          (liveEntries entries nowMs, .ok answer) ∧
        (answer = .overlap ∨ answer = .malformed ∨ answer = .exhausted) ∧
        ∀ index entry, At (liveEntries entries nowMs) index entry →
          entry.key = buildKey packet → entry.rejected = true) ∨
      (∃ index entry answer, At (liveEntries entries nowMs) index entry ∧
        entry.key = buildKey packet ∧ entry.rejected = false ∧
        addFragment limits entries packet nowMs outputSize = ((liveEntries entries nowMs).set index
            (some (rejectEntry limits (buildKey packet) nowMs)), .ok answer) ∧
        (answer = .malformed ∨ answer = .exhausted)) ∨
      (∃ index base, OwnsSlot limits (liveEntries entries nowMs) (buildKey packet) nowMs
          index base ∧
        fragmentMalformed packet = false ∧
        fragmentEnd packet ≤ limits.maxBytesPerDatagram ∧
        addFragment limits entries packet nowMs outputSize = ((liveEntries entries nowMs).set index
            (addToEntry limits packet nowMs outputSize base).1,
              (addToEntry limits packet nowMs outputSize base).2)) := by
  have uniqueLive : Unique FragmentEntry.key (liveEntries entries nowMs) := unique.expire _
  unfold addFragment
  dsimp only
  cases searched : findEntry (liveEntries entries nowMs) (buildKey packet) with
  | some found =>
    obtain ⟨index, entry⟩ := found
    obtain ⟨holds, passes⟩ := find_at searched
    have sameKey : entry.key = buildKey packet := by simpa using passes
    dsimp only
    cases rejected : entry.rejected with
    | true =>
      refine .inl ⟨.overlap, by simp, .inl rfl, ?_⟩
      intro other otherEntry holdsOther otherKey
      obtain rfl := uniqueLive other index otherEntry entry holdsOther
        holds (otherKey.trans sameKey.symm)
      obtain rfl := holdsOther.functional holds
      exact rejected
    | false =>
      simp only [Bool.false_eq_true, if_false]
      cases malformed : fragmentMalformed packet with
      | true =>
        refine .inr (.inl ⟨index, entry, .malformed, holds, sameKey, rejected, ?_, .inl rfl⟩)
        simp [sameKey]
      | false =>
        by_cases long : fragmentEnd packet > limits.maxBytesPerDatagram
        · refine .inr (.inl ⟨index, entry, .exhausted, holds, sameKey, rejected, ?_, .inr rfl⟩)
          simp [long, sameKey]
        · refine .inr (.inr ⟨index, entry, .inl ⟨holds, sameKey, rejected⟩, rfl, by omega, ?_⟩)
          simp [long]
  | none =>
    have absent : ∀ other entry, At (liveEntries entries nowMs) other entry →
          entry.key ≠ buildKey packet := by
      intro other entry holds
      have differs := find_none searched holds
      simpa using differs
    have unchanged : ∀ index entry, At (liveEntries entries nowMs) index entry →
          entry.key = buildKey packet → entry.rejected = true :=
      fun index entry holds sameKey => absurd sameKey (absent index entry holds)
    cases malformed : fragmentMalformed packet with
    | true => exact .inl ⟨.malformed, by simp, .inr (.inl rfl), unchanged⟩
    | false =>
      simp only [Bool.false_eq_true, if_false]
      by_cases long : fragmentEnd packet > limits.maxBytesPerDatagram
      · exact .inl ⟨.exhausted, by rw [if_pos long], .inr (.inr rfl), unchanged⟩
      rw [if_neg long]
      cases free : freeIndex (liveEntries entries nowMs) with
      | none => exact .inl ⟨.exhausted, rfl, .inr (.inr rfl), unchanged⟩
      | some index =>
        dsimp only
        by_cases crowded : sourceEntryCount (liveEntries entries nowMs)
              (buildKey packet) ≥ limits.maxDatagramsPerSource
        · exact .inl ⟨.exhausted, by rw [if_pos crowded], .inr (.inr rfl), unchanged⟩
        · refine .inr (.inr ⟨index, initializeEntry limits (buildKey packet) nowMs,
            .inr ⟨freeIndex_spec free, absent, rfl⟩,
            trivial, by omega, ?_⟩)
          rw [if_neg crowded]

/-! ## Runs of the tracker -/

/-- Keys are unique, and every live entry is well formed and incomplete. -/
structure EntriesWf (limits : FragmentLimits) (entries : List (Option FragmentEntry)) : Prop where
  unique : Unique FragmentEntry.key entries
  wellFormed : ∀ index entry, At entries index entry → entry.rejected = false → EntryWf limits entry
  incomplete : ∀ index entry, At entries index entry →
    entry.rejected = false → entryComplete entry = false

/-- A last fragment does not end before an interval that the live entry of its
key already holds. -/
def LastEndsInside (entries : List (Option FragmentEntry))
    (packet : PacketView) (nowMs : Nat) : Prop :=
  packet.moreFragments = false → ∀ slot ∈ liveEntries entries nowMs, ∀ entry ∈ slot,
      entry.key = buildKey packet →
        ∀ interval ∈ entry.intervals, interval.finish ≤ fragmentEnd packet
  deriving Decidable

theorem EntriesWf.live (wf : EntriesWf limits entries) (nowMs : Nat) :
    EntriesWf limits (liveEntries entries nowMs) where
  unique := wf.unique.expire _
  wellFormed := fun index entry holds => wf.wellFormed index entry (at_expire_iff.mp holds).1
  incomplete := fun index entry holds => wf.incomplete index entry (at_expire_iff.mp holds).1

variable {live : List (Option FragmentEntry)}

theorem EntriesWf.write (wf : EntriesWf limits live) (inside : index < live.length)
    (alone : ∀ other held, At live other held → held.key = entry.key → other = index)
    (entryWf : entry.rejected = false → EntryWf limits entry ∧ entryComplete entry = false) :
    EntriesWf limits (live.set index (some entry)) where
  unique := wf.unique.write inside alone
  wellFormed := forall_at_set wf.wellFormed (by rintro _ ⟨⟩ alive; exact (entryWf alive).1)
  incomplete := forall_at_set wf.incomplete (by rintro _ ⟨⟩ alive; exact (entryWf alive).2)

theorem EntriesWf.clear (wf : EntriesWf limits live) (inside : index < live.length) :
    EntriesWf limits (live.set index none) where
  unique := wf.unique.clear inside
  wellFormed := forall_at_set wf.wellFormed nofun
  incomplete := forall_at_set wf.incomplete nofun

theorem OwnsSlot.base_wf (wf : EntriesWf limits entries)
    (condition : LastEndsInside entries packet nowMs)
    (owns : OwnsSlot limits (liveEntries entries nowMs) (buildKey packet) nowMs index base) :
    EntryWf limits base ∧ (packet.moreFragments = false → ∀ interval ∈ base.intervals,
        interval.finish ≤ fragmentEnd packet) := by
  rcases owns with ⟨holds, sameKey, alive⟩ | ⟨_, _, rfl⟩
  · exact ⟨(wf.live nowMs).wellFormed index base holds alive,
      fun last => condition last (some base) holds.mem base rfl sameKey⟩
  · exact ⟨initializeEntry_wf limits _ nowMs, by simp [initializeEntry]⟩

theorem OwnsSlot.base_incomplete (wf : EntriesWf limits live)
    (owns : OwnsSlot limits live key nowMs index base) : entryComplete base = false := by
  rcases owns with ⟨holds, _, alive⟩ | ⟨_, _, rfl⟩
  · exact wf.incomplete index base holds alive
  · simp [entryComplete, initializeEntry]

variable {outputSize : Nat}

theorem addFragment_wf (wf : EntriesWf limits entries) (valid : packetValid packet = true)
    (condition : LastEndsInside entries packet nowMs) :
    EntriesWf limits (addFragment limits entries packet nowMs outputSize).1 := by
  have live := wf.live nowMs
  rcases addFragment_cases wf.unique packet nowMs outputSize with
    ⟨answer, result, _⟩ | ⟨index, entry, answer, holds, sameKey, _, result, _⟩ |
      ⟨index, base, owns, wellSized, fits, result⟩
  · rw [result]
    exact live
  · rw [result]
    exact live.write holds.lt_length (fun other held holdsOther otherKey =>
      live.unique other index held entry holdsOther holds (otherKey.trans sameKey.symm)) nofun
  rw [result]
  have alone := owns.alone live.unique
  have baseKey := owns.key_eq
  obtain ⟨baseWf, endsLast⟩ := owns.base_wf wf condition
  rcases addToEntry_cases limits packet nowMs outputSize base with
    ⟨answer, added, _⟩ | ⟨_, added⟩ | ⟨consistent, stored, kept⟩
  · rw [added, baseKey]
    exact live.write owns.lt_length alone nofun
  · rw [added]
    refine live.write owns.lt_length (by rw [baseKey]; exact alone) ?_
    exact fun _ => ⟨baseWf, owns.base_incomplete live⟩
  · rcases kept with ⟨incomplete, added⟩ | ⟨_, added⟩
    · rw [added]
      refine live.write owns.lt_length ?_ ?_
      · simpa [retainFragment, baseKey] using alone
      · intro _
        exact ⟨retainFragment_wf baseWf valid wellSized fits consistent stored endsLast, incomplete⟩
    · rw [added]
      exact live.clear owns.lt_length

structure AddInput where
  packet : PacketView
  nowMs : Nat
  outputSize : Nat

def addStep (tracker : FragmentTracker) (input : AddInput) :
    FragmentTracker × Except Int FragmentResult :=
  fragmentTrackerAdd tracker input.packet input.nowMs input.outputSize

theorem addStep_wf (wf : EntriesWf tracker.limits tracker.entries)
    (condition : LastEndsInside tracker.entries input.packet input.nowMs) :
    EntriesWf (addStep tracker input).1.limits (addStep tracker input).1.entries := by
  unfold addStep fragmentTrackerAdd
  cases valid : packetValid input.packet with
  | false => simpa using wf
  | true => exact addFragment_wf wf valid condition

theorem created_wf (created : fragmentTrackerCreate limits = .ok tracker) :
    EntriesWf tracker.limits tracker.entries := by
  rw [(fragmentTrackerCreate_ok created).2]
  exact ⟨unique_replicate _, fun _ _ holds => absurd holds not_at_replicate,
    fun _ _ holds => absurd holds not_at_replicate⟩

theorem addFragment_beyond_end {index : Nat} (unique : Unique FragmentEntry.key entries)
    (holds : At (liveEntries entries nowMs) index entry) (sameKey : entry.key = buildKey packet)
    (alive : entry.rejected = false) (hasLast : entry.hasLast = true)
    (beyond : entry.expectedSize < fragmentEnd packet) :
    At (addFragment limits entries packet nowMs outputSize).1 index
      (rejectEntry limits (buildKey packet) nowMs) := by
  have uniqueLive : Unique FragmentEntry.key (liveEntries entries nowMs) := unique.expire _
  have rejectedSlot : ∀ slots : List (Option FragmentEntry),
      slots = (liveEntries entries nowMs).set index
          (some (rejectEntry limits (buildKey packet) nowMs)) →
        At slots index (rejectEntry limits (buildKey packet) nowMs) := by
    rintro slots rfl
    exact (at_set_iff holds.lt_length).mpr (.inl ⟨rfl, rfl⟩)
  rcases addFragment_cases unique packet nowMs outputSize with
    ⟨_, _, _, rejected⟩ | ⟨other, held, _, holdsHeld, heldKey, _, result, _⟩ |
      ⟨other, base, owns, _, _, result⟩
  · rw [rejected index entry holds sameKey] at alive
    cases alive
  · obtain rfl := uniqueLive other index held entry holdsHeld holds (heldKey.trans sameKey.symm)
    exact rejectedSlot _ (by rw [result])
  obtain rfl : index = other := owns.alone uniqueLive index entry holds sameKey
  have same : base = entry := by
    rcases owns with ⟨holdsBase, _⟩ | ⟨_, absent, _⟩
    · exact holdsBase.functional holds
    · exact absurd sameKey (absent index entry holds)
  subst same
  have contradicts : contradictsEnd packet base = true := by simp [contradictsEnd, hasLast, beyond]
  exact rejectedSlot _ (by
    rw [result]
    simp [addToEntry, contradicts, sameKey])

/-- Intervals ascending and disjoint, inside the announced size, and not yet covering it. -/
structure Reassembling (entry : FragmentEntry) : Prop where
  ordered : Ordered FragmentInterval.offset FragmentInterval.size entry.intervals
  inside : entry.hasLast = true → ∀ interval ∈ entry.intervals, interval.finish ≤ entry.expectedSize
  uncovered : ∀ finish, ¬ Covered entry finish

/-- When no last fragment ends before bytes its key already stored, every live entry is
`Reassembling`, and bytes beyond a known end reject their key. -/
theorem run_reassembling {limits : FragmentLimits} {tracker : FragmentTracker}
    (created : fragmentTrackerCreate limits = .ok tracker)
    (inputs : List AddInput)
    (meets : Meets (fun _ state input => LastEndsInside state.entries input.packet input.nowMs)
      (run addStep tracker inputs)) :
    ∀ event ∈ run addStep tracker inputs,
      (∀ index entry, At event.after.entries index entry →
        entry.rejected = false → Reassembling entry) ∧
      (packetValid event.input.packet = true → ∀ index entry,
        At (liveEntries event.before.entries event.input.nowMs) index entry →
        entry.key = buildKey event.input.packet → entry.rejected = false →
        entry.hasLast = true →
        entry.expectedSize < fragmentEnd event.input.packet →
          ∃ rejected, At event.after.entries index rejected ∧
            rejected.key = entry.key ∧ rejected.rejected = true) := by
  intro event member
  obtain ⟨past, future, split⟩ := append_of_mem member
  obtain ⟨before, after⟩ := invariant_run (fun _ state => EntriesWf state.limits state.entries)
    (fun _ _ _ wf condition => addStep_wf wf condition)
    (created_wf created) meets split
  refine ⟨?_, ?_⟩
  · intro index entry holds alive
    have wf := after.wellFormed index entry holds alive
    refine ⟨wf.ordered, wf.inside, fun finish covered => ?_⟩
    have complete := entryComplete_of_covered wf covered
    rw [after.incomplete index entry holds alive] at complete
    cases complete
  · intro valid index entry holds sameKey alive hasLast beyond
    refine ⟨rejectEntry event.before.limits
      (buildKey event.input.packet) event.input.nowMs, ?_, sameKey.symm, rfl⟩
    rw [event_eq member]
    simp only [eventOf, addStep, fragmentTrackerAdd, valid, Bool.not_true,
      Bool.false_eq_true, if_false]
    exact addFragment_beyond_end before.unique holds sameKey alive hasLast beyond

/-! ## A last fragment before stored bytes -/

def sampleFrame (offset : UInt8) (more : Bool) (payload : Bytes) : Bytes :=
  ([0, 0, 0, 0, 0, 1, 0, 0, 0, 0, 0, 2, 0x08, 0x00, 0x45, 0, 0,
    20 + UInt8.ofNat payload.length, 0, 7, if more then 0x20 else 0,
    offset / 8, 64, 17, 0, 0, 10, 0, 0, 1, 10, 0, 0, 2] : Bytes) ++ payload

/-- Eight bytes of a UDP header for sixteen bytes to port 53. -/
def sampleView (offset : UInt8) (more : Bool) : PacketView :=
  (packetParse (sampleFrame offset more [0x10, 0, 0, 53, 0, 16, 0, 0]) packetLimitsDefault).2

def sampleLimits : FragmentLimits where
  maxDatagrams := 2
  maxFragmentsPerDatagram := 4
  maxBytesPerDatagram := 64
  maxDatagramsPerSource := 2
  timeoutMs := 1000

def sampleTracker : FragmentTracker where
  limits := sampleLimits
  limitsValid := by decide
  entries := replicate 2 none

/-- In order: the first half, then the last fragment. -/
def orderedInputs : List AddInput := [⟨sampleView 0 true, 0, 64⟩, ⟨sampleView 8 false, 1, 64⟩]

theorem run_reassembling_ordered : (run addStep sampleTracker orderedInputs).map
        (fun event => event.answer.toOption) =
      [some .stored, some (.complete [0x10, 0, 0, 53, 0, 16, 0, 0, 0x10, 0, 0, 53, 0, 16, 0, 0])] ∧
    ∀ event ∈ run addStep sampleTracker orderedInputs,
      ∀ index entry, At event.after.entries index entry →
        entry.rejected = false → Reassembling entry := by
  refine ⟨by decide +kernel, ?_⟩
  intro event member
  refine (@run_reassembling sampleLimits sampleTracker rfl orderedInputs
    (meets_of_forall ?_) event member).1
  decide +kernel

/-- Bytes beyond the end first, then the rest up to the last fragment. -/
def beyondFirstInputs : List AddInput :=
  [⟨sampleView 16 true, 0, 64⟩, ⟨sampleView 0 true, 1, 64⟩, ⟨sampleView 8 false, 2, 64⟩]

/-- The last fragment ends before stored bytes: the key is not rejected, and its intervals cover the
whole datagram. -/
theorem last_fragment_before_stored_bytes : (run addStep sampleTracker beyondFirstInputs).map
        (fun event => event.answer.toOption) =
      [some .stored, some .stored, some .stored] ∧
    ∃ event ∈ run addStep sampleTracker beyondFirstInputs,
      ∃ slot ∈ event.after.entries, ∃ entry ∈ slot, entry.rejected = false ∧ Covered entry 16 ∧
          ∃ interval ∈ entry.intervals, entry.expectedSize < interval.finish := by
  decide +kernel

end Fragment

end JanusGate
