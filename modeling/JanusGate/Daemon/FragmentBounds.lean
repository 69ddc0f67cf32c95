import JanusGate.Daemon.FragmentInvariant
import JanusGate.Foundation.QuotaTable

/-!
# Bounds of the fragment tracker

A call works on at most the slot that the key of its fragment owns, in a table
with a quota for every source.  No entry outgrows its limits, and a rejected
key stays rejected until the deadline of its entry, whatever arrives for it or
for other keys.
-/

namespace JanusGate

open Runs SlotTable Fragment Cover List

namespace Fragment

/-- No source may have more datagrams than the limit. -/
def datagramQuota (limits : FragmentLimits) : Quota FragmentEntry FragmentKey where
  keyOf := FragmentEntry.key
  sameGroup := sourcesEqual
  limit := limits.maxDatagramsPerSource
  refl := fun key => by simp [sourcesEqual]
  congr := fun left right same key => by
    simp only [sourcesEqual, Bool.and_eq_true, beq_iff_eq] at same
    simp only [sourcesEqual, same.1, same.2]

structure EntryBounds (limits : FragmentLimits) (entry : FragmentEntry) : Prop where
  ordered : Ordered FragmentInterval.offset FragmentInterval.size entry.intervals
  few : entry.intervals.length ≤ limits.maxFragmentsPerDatagram
  bounded : ∀ interval ∈ entry.intervals, interval.finish ≤ limits.maxBytesPerDatagram

theorem EntryBounds.bytes_le (bounds : EntryBounds limits entry) :
    (entry.intervals.map FragmentInterval.size).sum ≤ limits.maxBytesPerDatagram := by
  have total := bounds.ordered.total_le (Nat.zero_le _) (fun interval member =>
      ⟨Nat.zero_le _, bounds.bounded interval member⟩)
  simpa using total

theorem EntryBounds.empty (empty : entry.intervals = []) :
    EntryBounds limits entry where
  ordered := by
    rw [empty]
    exact List.Pairwise.nil
  few := by simp [empty]
  bounded := by simp [empty]

/-! ## One call -/

theorem addToEntry_room
    (stored : (addToEntry limits packet nowMs outputSize entry).2 = .ok .stored) :
    entry.intervals.length < limits.maxFragmentsPerDatagram := by
  by_contra full
  have noRoom : entry.intervals.length ≥ limits.maxFragmentsPerDatagram := Nat.le_of_not_lt full
  unfold addToEntry at stored
  split at stored
  · cases stored
  · split at stored <;> cases stored

section

variable (bounds : EntryBounds limits entry) (valid : packetValid packet = true)
  (wellSized : fragmentMalformed packet = false)
  (fits : fragmentEnd packet ≤ limits.maxBytesPerDatagram)

include bounds valid wellSized fits

theorem retainFragment_bounds (stored : inspectIntervals entry.payload packet.fragmentOffset
      packet.moreFragments (fragmentBytes packet) entry.intervals = .stored)
    (room : entry.intervals.length < limits.maxFragmentsPerDatagram) :
    EntryBounds limits (retainFragment limits packet nowMs entry) where
  ordered := by
    have apart := inspectIntervals_stored stored
    rw [fragmentBytes_length valid] at apart
    exact bounds.ordered.insert apart (transportSize_pos wellSized)
  few := by
    simp only [retainFragment, insertInterval, length_insert]
    exact room
  bounded := by
    intro interval member
    rcases mem_insert.mp member with rfl | old
    · exact fits
    · exact bounds.bounded interval old

theorem addToEntry_bounds : ∀ left ∈ (addToEntry limits packet nowMs outputSize entry).1,
      left.key = entry.key ∧ EntryBounds limits left := by
  intro left kept
  rcases addToEntry_cases limits packet nowMs outputSize entry with
    ⟨answer, added, _⟩ | ⟨_, added⟩ | ⟨_, stored, recorded⟩
  · rw [added] at kept
    cases kept
    exact ⟨rfl, EntryBounds.empty rfl⟩
  · rw [added] at kept
    cases kept
    exact ⟨rfl, bounds⟩
  rcases recorded with ⟨_, added⟩ | ⟨_, added⟩
  · have room : entry.intervals.length < limits.maxFragmentsPerDatagram :=
      addToEntry_room (by rw [added])
    rw [added] at kept
    cases kept
    exact ⟨rfl, retainFragment_bounds bounds valid wellSized fits stored room⟩
  · rw [added] at kept
    cases kept

end

/-- Keys are unique, every source is within its quota and every entry within
its bounds. -/
structure EntriesBounded (limits : FragmentLimits)
    (entries : List (Option FragmentEntry)) : Prop where
  quota : (datagramQuota limits).Wf entries
  bounds : ∀ index entry, At entries index entry → EntryBounds limits entry

theorem findEntry_absent (absent : ∀ index entry, At entries index entry → entry.key ≠ key) :
    findEntry entries key = none := by
  cases searched : findEntry entries key with
  | none => rfl
  | some found =>
    obtain ⟨holds, passes⟩ := find_at searched
    exact absurd (by simpa using passes) (absent _ _ holds)

theorem addFragment_crowded (absent : ∀ index entry,
      At (liveEntries entries nowMs) index entry → entry.key ≠ buildKey packet)
    (crowded : limits.maxDatagramsPerSource ≤
      sourceEntryCount (liveEntries entries nowMs) (buildKey packet)) :
    (addFragment limits entries packet nowMs outputSize).1 = liveEntries entries nowMs := by
  unfold addFragment
  dsimp only
  rw [findEntry_absent absent]
  dsimp only
  split
  · rfl
  · split
    · rfl
    · split <;> rfl

section

variable (bounded : EntriesBounded limits entries) (valid : packetValid packet = true)
  (nowMs outputSize : Nat)

include bounded valid

/-- One call: the entry that the key owns before it, and what it leaves
there. -/
theorem addFragment_write :
    (addFragment limits entries packet nowMs outputSize).1 = liveEntries entries nowMs ∨
      ∃ index slot, (datagramQuota limits).Owns (liveEntries entries nowMs)
          (buildKey packet) index ∧
        (∀ entry, At (liveEntries entries nowMs) index entry → entry.rejected = false) ∧
        (∀ left ∈ slot, left.key = buildKey packet ∧ EntryBounds limits left) ∧
        (addFragment limits entries packet nowMs outputSize).1 =
          (liveEntries entries nowMs).set index slot := by
  have liveBounds : ∀ index entry, At (liveEntries entries nowMs) index entry →
        EntryBounds limits entry :=
    fun index entry holds => bounded.bounds index entry (at_expire_iff.mp holds).1
  rcases addFragment_cases bounded.quota.unique packet nowMs outputSize with
    ⟨answer, result, _⟩ | ⟨index, entry, answer, holds, sameKey, alive, result,
      _⟩ | ⟨index, base, owns, wellSized, fits, result⟩
  · exact .inl (by rw [result])
  · refine .inr ⟨index, _, .inl ⟨entry, holds, sameKey⟩, ?_, ?_, by rw [result]⟩
    · intro held holdsHeld
      rw [holdsHeld.functional holds]
      exact alive
    · intro left kept
      cases kept
      exact ⟨rfl, EntryBounds.empty rfl⟩
  · have baseKey := owns.key_eq
    have left : EntryBounds limits base → ∀ kept ∈
        (addToEntry limits packet nowMs outputSize base).1,
          kept.key = buildKey packet ∧ EntryBounds limits kept := by
      intro baseBounds
      rw [← baseKey]
      exact addToEntry_bounds baseBounds valid wellSized fits
    rcases owns with ⟨holds, sameKey, alive⟩ | ⟨free, absent, rfl⟩
    · refine .inr ⟨index, _, .inl ⟨base, holds, sameKey⟩, ?_,
        left (liveBounds index base holds), by rw [result]⟩
      intro held holdsHeld
      rw [holdsHeld.functional holds]
      exact alive
    · by_cases crowded : limits.maxDatagramsPerSource ≤
          sourceEntryCount (liveEntries entries nowMs) (buildKey packet)
      · exact .inl (addFragment_crowded absent crowded)
      refine .inr ⟨index, _, .inr ⟨free, absent, Nat.lt_of_not_le crowded⟩, ?_,
        left (EntryBounds.empty rfl), by rw [result]⟩
      intro held holdsHeld
      rw [At, free] at holdsHeld
      cases holdsHeld

theorem addFragment_bounded :
    EntriesBounded limits (addFragment limits entries packet nowMs outputSize).1 := by
  have live : EntriesBounded limits (liveEntries entries nowMs) :=
    ⟨bounded.quota.expire _, fun index entry holds =>
      bounded.bounds index entry (at_expire_iff.mp holds).1⟩
  rcases addFragment_write bounded valid nowMs outputSize with
    unchanged | ⟨index, slot, owns, _, slotBounds, changed⟩
  · rw [unchanged]
    exact live
  rw [changed]
  have write : (datagramQuota limits).Write (liveEntries entries nowMs)
      (buildKey packet) ((liveEntries entries nowMs).set index slot) :=
    .inr ⟨index, slot, owns, fun left kept => (slotBounds left kept).1, rfl⟩
  exact ⟨write.wf live.quota, forall_at_set live.bounds fun entry kept => (slotBounds entry kept).2⟩

end

/-! ## A rejected key -/

def RejectsUntil (key : FragmentKey) (expiresAt : Nat)
    (entries : List (Option FragmentEntry)) : Prop :=
  ∃ index entry, At entries index entry ∧ entry.key = key ∧
    entry.rejected = true ∧ entry.expiresAt = expiresAt

theorem RejectsUntil.live (rejects : RejectsUntil key expiresAt entries)
    (early : nowMs < expiresAt) :
    RejectsUntil key expiresAt (liveEntries entries nowMs) := by
  obtain ⟨index, entry, holds, sameKey, rejected, sameDeadline⟩ := rejects
  have unexpired : decide (entry.expiresAt ≤ nowMs) = false := by
    simp only [decide_eq_false_iff_not]
    omega
  exact ⟨index, entry, at_expire_iff.mpr ⟨holds, unexpired⟩, sameKey, rejected, sameDeadline⟩

/-- Neither a fragment of the key nor one of another key ends the
rejection. -/
theorem addFragment_rejects (bounded : EntriesBounded limits entries)
    (valid : packetValid packet = true) (outputSize : Nat)
    (rejects : RejectsUntil key expiresAt entries) (early : nowMs < expiresAt) :
    RejectsUntil key expiresAt (addFragment limits entries packet nowMs outputSize).1 := by
  have live := rejects.live early
  rcases addFragment_write bounded valid nowMs outputSize with
    unchanged | ⟨index, slot, owns, alive, _, changed⟩
  · rw [unchanged]
    exact live
  obtain ⟨other, entry, holds, sameKey, rejected, sameDeadline⟩ := live
  have elsewhere : other ≠ index := by
    rintro rfl
    rw [alive entry holds] at rejected
    cases rejected
  rw [changed]
  exact ⟨other, entry, (at_set_iff owns.lt_length).mpr (.inr ⟨elsewhere, holds⟩),
    sameKey, rejected, sameDeadline⟩

theorem addFragment_overlap (bounded : EntriesBounded limits entries)
    (rejects : RejectsUntil (buildKey packet) expiresAt entries) (early : nowMs < expiresAt) :
    (addFragment limits entries packet nowMs outputSize).2 = .ok .overlap := by
  obtain ⟨index, entry, holds, sameKey, rejected, _⟩ := rejects.live early
  have found : findEntry (liveEntries entries nowMs) (buildKey packet) = some (index, entry) := by
    have unique : Unique FragmentEntry.key
        (liveEntries entries nowMs) := bounded.quota.unique.expire _
    rw [← sameKey]
    exact unique.find_eq holds
  unfold addFragment
  dsimp only
  rw [found]
  simp [rejected]

/-! ## Whole runs -/

def TrackerBounded (tracker : FragmentTracker) : Prop :=
  EntriesBounded tracker.limits tracker.entries

theorem created_bounded (created : fragmentTrackerCreate limits = .ok tracker) :
    TrackerBounded tracker := by
  unfold TrackerBounded
  rw [(fragmentTrackerCreate_ok created).2]
  exact ⟨Quota.wf_replicate _, fun _ _ holds => absurd holds not_at_replicate⟩

theorem addStep_limits (tracker : FragmentTracker) (input : AddInput) :
    (addStep tracker input).1.limits = tracker.limits := by
  unfold addStep fragmentTrackerAdd
  split <;> rfl

theorem addStep_bounded (input : AddInput) (bounded : TrackerBounded tracker) :
    TrackerBounded (addStep tracker input).1 := by
  unfold addStep fragmentTrackerAdd
  cases valid : packetValid input.packet with
  | false => simpa using bounded
  | true => exact addFragment_bounded bounded valid _ _

theorem addStep_rejects (input : AddInput) (bounded : TrackerBounded tracker)
    (rejects : RejectsUntil key expiresAt tracker.entries) (early : input.nowMs < expiresAt) :
    RejectsUntil key expiresAt (addStep tracker input).1.entries := by
  unfold addStep fragmentTrackerAdd
  cases valid : packetValid input.packet with
  | false => simpa using rejects
  | true => exact addFragment_rejects bounded valid _ rejects early

/-- Keys are unique, no source and no entry exceeds its limits, and a rejected key answers OVERLAP
until its deadline. -/
theorem fragment_tracker_bounds {limits : FragmentLimits} {tracker : FragmentTracker}
    (created : fragmentTrackerCreate limits = .ok tracker) {inputs : List AddInput}
    (clock : inputs.Pairwise fun earlier later => earlier.nowMs ≤ later.nowMs) :
    (∀ event ∈ run addStep tracker inputs,
      Unique FragmentEntry.key event.after.entries ∧
      (∀ key, sourceEntryCount event.after.entries key ≤ limits.maxDatagramsPerSource) ∧
      ∀ index entry, At event.after.entries index entry →
        entry.intervals.length ≤ limits.maxFragmentsPerDatagram ∧
        (entry.intervals.map FragmentInterval.size).sum ≤ limits.maxBytesPerDatagram ∧
        ∀ interval ∈ entry.intervals, interval.finish ≤ limits.maxBytesPerDatagram) ∧
    ∀ past event middle later future, run addStep tracker inputs =
          past ++ event :: (middle ++ later :: future) →
      ∀ index entry, At event.after.entries index entry → entry.rejected = true →
        packetValid later.input.packet = true →
        buildKey later.input.packet = entry.key →
        later.input.nowMs < entry.expiresAt → later.answer = .ok .overlap := by
  have always : ∀ event ∈ run addStep tracker inputs,
      event.after.limits = limits ∧ TrackerBounded event.after := by
    intro event member
    refine (invariant_always (fun state => state.limits = limits ∧ TrackerBounded state)
      ?_ ⟨(fragmentTrackerCreate_ok created).1, created_bounded created⟩ member).2
    intro state input holds
    exact ⟨(addStep_limits state input).trans holds.1, addStep_bounded input holds.2⟩
  refine ⟨?_, ?_⟩
  · intro event member
    obtain ⟨sameLimits, bounded⟩ := always event member
    unfold TrackerBounded at bounded
    rw [sameLimits] at bounded
    refine ⟨bounded.quota.unique, bounded.quota.bounded, ?_⟩
    intro index entry holds
    have bounds := bounded.bounds index entry holds
    exact ⟨bounds.few, bounds.bytes_le, bounds.bounded⟩
  · intro past event middle later future split index entry holds rejected valid sameKey early
    have eventMember := mem_of_split split
    have laterMember := mem_of_split_later split
    -- The clock keeps every call between the two before the deadline.
    have between : ∀ other ∈ middle, other.input.nowMs < entry.expiresAt := by
      intro other member
      have ordered : (run addStep tracker inputs).Pairwise
          fun earlier later => earlier.input.nowMs ≤ later.input.nowMs :=
        pairwise_events clock
      rw [split] at ordered
      have notLater := (pairwise_append.mp
        (pairwise_cons.mp (pairwise_append.mp ordered).2.1).2).2.2 other member later (by simp)
      omega
    obtain ⟨rest, sameRest⟩ := run_after split
    obtain ⟨bounded, rejects⟩ := @carried_to _ _ _ addStep (fun state => TrackerBounded state ∧
        RejectsUntil entry.key entry.expiresAt state.entries)
      (fun event => event.input.nowMs < entry.expiresAt)
      (fun state input kept inTime => ⟨addStep_bounded input kept.1,
        addStep_rejects input kept.1 kept.2 inTime⟩)
      _ _ _ _ _ sameRest.symm ⟨(always event eventMember).2,
        index, entry, holds, rfl, rejected, rfl⟩ between
    rw [← sameKey] at rejects
    rw [event_eq laterMember]
    simp only [eventOf, addStep, fragmentTrackerAdd, valid,
      Bool.not_true, Bool.false_eq_true, if_false]
    exact addFragment_overlap bounded rejects early

/-- The second fragment lies beyond the end that the first announced. -/
def rejectedInputs : List AddInput :=
  [⟨sampleView 8 false, 0, 64⟩, ⟨sampleView 16 true, 1, 64⟩, ⟨sampleView 0 true, 2, 64⟩]

theorem fragment_tracker_bounds_rejected : ∃ first second third,
      run addStep sampleTracker rejectedInputs = [first, second, third] ∧
      first.answer.toOption = some .stored ∧
      second.answer.toOption = some .overlap ∧
      (∀ key, sourceEntryCount second.after.entries key ≤ 2) ∧
      third.answer = .ok .overlap := by
  have bounds := @fragment_tracker_bounds sampleLimits sampleTracker rfl rejectedInputs (by decide)
  refine ⟨_, _, _, rfl, by decide +kernel, by decide +kernel, ?_, ?_⟩
  · exact (bounds.1 _ (mem_cons_of_mem _ mem_cons_self)).2.1
  refine bounds.2 [_] _ [] _ [] rfl 0
    (rejectEntry sampleLimits (buildKey (sampleView 0 true)) 1) ?_ rfl ?_ ?_
    ?_
  · show _ = _
    decide +kernel
  · decide +kernel
  · decide +kernel
  · decide +kernel

end Fragment

end JanusGate
