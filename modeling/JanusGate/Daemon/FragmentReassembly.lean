import JanusGate.Daemon.FragmentBounds
import JanusGate.Daemon.FragmentPayload
import Mathlib.Data.List.Perm.Subperm

/-!
# Reassembly of one datagram

The fragments of a datagram may arrive in any order, repeated, and between
fragments of other keys.  While pieces are missing the entry of the key holds
exactly the pieces that have arrived (`Holding`); the last missing piece
completes it.
-/

namespace JanusGate

open Runs SlotTable Fragment Cover List

namespace Fragment

def intervalOf (packet : PacketView) : FragmentInterval :=
  ⟨packet.fragmentOffset, packet.transportSize, packet.moreFragments⟩

/-- Adjacent nonempty pieces up to the end, of which only the last one may have any size. -/
structure Cut (payload : Bytes) (pieces : List FragmentInterval) : Prop where
  nonempty : pieces ≠ []
  adjacent : walk FragmentInterval.offset FragmentInterval.size 0 pieces = some payload.length
  positive : ∀ piece ∈ pieces, 0 < piece.size
  aligned : ∀ piece ∈ pieces, piece.moreFragments = true → piece.size % 8 = 0
  flags : ∀ piece ∈ pieces, piece.moreFragments = decide (piece.finish < payload.length)

@[mk_iff] structure Piece (payload : Bytes) (pieces : List FragmentInterval)
    (packet : PacketView) : Prop where
  valid : packetValid packet = true
  member : intervalOf packet ∈ pieces
  bytes : fragmentBytes packet = slice payload packet.fragmentOffset packet.transportSize

instance (payload : Bytes) (pieces : List FragmentInterval)
    (packet : PacketView) : Decidable (Piece payload pieces packet) :=
  decidable_of_iff _ (piece_iff ..).symm

def AllArrived (pieces : List FragmentInterval) (arrived : List PacketView) : Prop :=
  ∀ piece ∈ pieces, ∃ packet ∈ arrived, intervalOf packet = piece
  deriving Decidable

structure WithinLimits (limits : FragmentLimits) (payload : Bytes)
    (pieces : List FragmentInterval) : Prop where
  bytes : payload.length ≤ limits.maxBytesPerDatagram
  bounded : limits.maxBytesPerDatagram ≤ bytesLimit
  fragments : pieces.length ≤ limits.maxFragmentsPerDatagram

/-- The entry holds the fragments that have arrived and nothing else. -/
structure Holding (limits : FragmentLimits) (payload : Bytes)
    (pieces : List FragmentInterval) (arrived : List PacketView)
    (entry : FragmentEntry) : Prop where
  wf : EntryWf limits entry
  alive : entry.rejected = false
  carried : ∀ packet ∈ arrived, Piece payload pieces packet
  only : ∀ interval ∈ entry.intervals, ∃ packet ∈ arrived, intervalOf packet = interval
  stores : ∀ packet ∈ arrived, Stores entry packet
  expected : entry.hasLast = true → entry.expectedSize = payload.length

/-! ## Pieces of a cut -/

theorem Cut.ordered (cut : Cut payload pieces) :
    Ordered FragmentInterval.offset FragmentInterval.size pieces :=
  (ordered_of_walk cut.adjacent).1

theorem Cut.finish_le (cut : Cut payload pieces) :
    ∀ piece ∈ pieces, piece.finish ≤ payload.length :=
  fun piece member => ((ordered_of_walk cut.adjacent).2.2 piece member).2

theorem Cut.apart_or_eq (cut : Cut payload pieces) (leftMember : left ∈ pieces)
    (rightMember : right ∈ pieces) :
    left = right ∨ left.finish ≤ right.offset ∨ right.finish ≤ left.offset :=
  cut.ordered.apart_or_eq leftMember rightMember

section

variable (piece : Piece payload pieces packet) (cut : Cut payload pieces)

include piece cut

theorem Piece.end_le : fragmentEnd packet ≤ payload.length := cut.finish_le _ piece.member

theorem Piece.last_end (last : packet.moreFragments = false) :
    fragmentEnd packet = payload.length := by
  have flag := cut.flags _ piece.member
  have within := cut.finish_le _ piece.member
  simp only [intervalOf, last, FragmentInterval.finish] at flag within
  have reached : ¬ packet.fragmentOffset + packet.transportSize < payload.length := by
    simpa using flag.symm
  unfold fragmentEnd
  omega

theorem Piece.wellSized (within : WithinLimits limits payload pieces) :
    fragmentMalformed packet = false := by
  have nonempty := cut.positive _ piece.member
  have aligned := cut.aligned _ piece.member
  have inside := piece.end_le cut
  have small : fragmentEnd packet ≤ bytesLimit :=
    Nat.le_trans inside (Nat.le_trans within.bytes within.bounded)
  have noOverflow : (sizeAdd packet.fragmentOffset packet.transportSize).isNone = false := by
    unfold fragmentEnd bytesLimit at small
    unfold sizeAdd sizeMax
    rw [if_neg (by omega)]
    rfl
  simp only [intervalOf] at nonempty aligned
  have sized : packet.transportSize ≠ 0 := by omega
  cases more : packet.moreFragments with
  | false => simp [fragmentMalformed, sized, more, noOverflow]
  | true => simp [fragmentMalformed, sized, aligned more, noOverflow]

end

theorem Piece.bytes_length (piece : Piece payload pieces packet) :
    (fragmentBytes packet).length = packet.transportSize :=
  fragmentBytes_length piece.valid

/-! ## The interval scan -/

section

theorem inspectIntervals_skip {head : FragmentInterval}
    (outside : head.finish ≤ offset ∨ offset + fragment.length ≤ head.offset)
    (different : head ≠ ⟨offset, fragment.length, more⟩) :
    inspectIntervals held offset more fragment (head :: intervals) =
      inspectIntervals held offset more fragment intervals := by
  rw [inspectIntervals, if_neg, if_neg (by omega)]
  rintro ⟨sameOffset, sameSize, sameMore, _⟩
  exact different (by rw [sameOffset, sameSize, sameMore])

theorem inspectIntervals_held
    (member : (⟨offset, fragment.length, more⟩ : FragmentInterval) ∈ intervals)
    (apart : ∀ interval ∈ intervals, interval = ⟨offset, fragment.length, more⟩ ∨
        interval.finish ≤ offset ∨ offset + fragment.length ≤ interval.offset)
    (bytes : fragment = slice held offset fragment.length) :
    inspectIntervals held offset more fragment intervals = .duplicate := by
  induction intervals with
  | nil => cases member
  | cons head rest ih =>
    by_cases same : head = ⟨offset, fragment.length, more⟩
    · subst same
      rw [inspectIntervals, if_pos ⟨rfl, rfl, rfl, bytes⟩]
    · rw [inspectIntervals_skip ((apart head mem_cons_self).resolve_left same) same]
      exact ih ((mem_cons.mp member).resolve_left (Ne.symm same)) fun interval inRest =>
        apart interval (mem_cons_of_mem head inRest)

theorem inspectIntervals_free (nonempty : 0 < fragment.length)
    (apart : ∀ interval ∈ intervals, interval.finish ≤ offset ∨
      offset + fragment.length ≤ interval.offset) :
    inspectIntervals held offset more fragment intervals = .stored := by
  induction intervals with
  | nil => rfl
  | cons head rest ih =>
    have outside := apart head mem_cons_self
    rw [inspectIntervals_skip outside]
    · exact ih fun interval inRest => apart interval (mem_cons_of_mem head inRest)
    · rintro rfl
      simp only [FragmentInterval.finish] at outside
      omega

end

/-! ## One fragment of the datagram -/

theorem initializeEntry_holding (key : FragmentKey) (nowMs : Nat) :
    Holding limits payload pieces [] (initializeEntry limits key nowMs) where
  wf := initializeEntry_wf limits key nowMs
  alive := rfl
  carried := forall_mem_nil _
  only := by simp [initializeEntry]
  stores := by simp
  expected := by simp [initializeEntry]

section

variable (holding : Holding limits payload pieces arrived entry)

include holding

theorem Holding.consistent (cut : Cut payload pieces) (piece : Piece payload pieces packet) :
    contradictsEnd packet entry = false := by
  cases hasLast : entry.hasLast with
  | false => simp [contradictsEnd, hasLast]
  | true =>
    have expected := holding.expected hasLast
    have inside := piece.end_le cut
    cases more : packet.moreFragments with
    | true => simp [contradictsEnd, expected, more, inside]
    | false =>
      have atEnd := piece.last_end cut more
      simp [contradictsEnd, expected, atEnd]

theorem Holding.mem_pieces : ∀ interval ∈ entry.intervals, interval ∈ pieces := by
  intro interval member
  obtain ⟨earlier, inArrived, rfl⟩ := holding.only interval member
  exact (holding.carried earlier inArrived).member

theorem Holding.apart (cut : Cut payload pieces) (piece : Piece payload pieces packet) :
    ∀ interval ∈ entry.intervals, interval = intervalOf packet ∨
      interval.finish ≤ packet.fragmentOffset ∨
        packet.fragmentOffset + packet.transportSize ≤ interval.offset :=
  fun interval member => cut.apart_or_eq (holding.mem_pieces interval member) piece.member

theorem Holding.heldBytes (piece : Piece payload pieces packet)
    (again : intervalOf packet ∈ entry.intervals) :
    fragmentBytes packet = slice entry.payload packet.fragmentOffset packet.transportSize := by
  obtain ⟨earlier, inArrived, same⟩ := holding.only _ again
  have earlierHeld := (holding.stores earlier inArrived).2
  rw [(holding.carried earlier inArrived).bytes] at earlierHeld
  obtain ⟨sameOffset, sameSize, _⟩ := FragmentInterval.mk.inj same
  rw [sameOffset, sameSize] at earlierHeld
  rw [piece.bytes, earlierHeld]

theorem Holding.duplicate (cut : Cut payload pieces) (piece : Piece payload pieces packet)
    (again : intervalOf packet ∈ entry.intervals) (nowMs outputSize : Nat) :
    addToEntry limits packet nowMs outputSize entry = (some entry, .ok .duplicate) := by
  have size := piece.bytes_length
  have scanned : inspectIntervals entry.payload packet.fragmentOffset
      packet.moreFragments (fragmentBytes packet) entry.intervals = .duplicate := by
    apply inspectIntervals_held
    · rw [size]
      exact again
    · rw [size]
      exact holding.apart cut piece
    · rw [size]
      exact holding.heldBytes piece again
  simp [addToEntry, holding.consistent cut piece, scanned]

theorem Holding.repeated (piece : Piece payload pieces packet)
    (again : intervalOf packet ∈ entry.intervals) :
    Holding limits payload pieces (arrived ++ [packet]) entry where
  wf := holding.wf
  alive := holding.alive
  carried := forall_mem_append.mpr ⟨holding.carried, forall_mem_singleton.mpr piece⟩
  only := by
    intro interval member
    obtain ⟨other, inArrived, same⟩ := holding.only interval member
    exact ⟨other, mem_append_left _ inArrived, same⟩
  stores := forall_mem_append.mpr ⟨holding.stores,
    forall_mem_singleton.mpr ⟨again, (holding.heldBytes piece again).symm⟩⟩
  expected := holding.expected

theorem Holding.store (cut : Cut payload pieces) (within : WithinLimits limits payload pieces)
    (piece : Piece payload pieces packet) (new : intervalOf packet ∉ entry.intervals)
    (nowMs : Nat) :
    inspectIntervals entry.payload packet.fragmentOffset
        packet.moreFragments (fragmentBytes packet) entry.intervals = .stored ∧
      entry.intervals.length < limits.maxFragmentsPerDatagram ∧
      Holding limits payload pieces (arrived ++ [packet])
        (retainFragment limits packet nowMs entry) := by
  have size := piece.bytes_length
  have nonempty := cut.positive _ piece.member
  have fits : fragmentEnd packet ≤ limits.maxBytesPerDatagram :=
    Nat.le_trans (piece.end_le cut) within.bytes
  have scanned : inspectIntervals entry.payload packet.fragmentOffset
      packet.moreFragments (fragmentBytes packet) entry.intervals = .stored := by
    apply inspectIntervals_free
    · rw [size]
      exact nonempty
    intro interval member
    rw [size]
    rcases holding.apart cut piece interval member with rfl | outside
    · exact absurd member new
    · exact outside
  -- The held intervals and the new one are different pieces of the cut.
  have room : entry.intervals.length < limits.maxFragmentsPerDatagram := by
    have distinct : (intervalOf packet :: entry.intervals).Nodup :=
      nodup_cons.mpr ⟨new, holding.wf.ordered.nodup holding.wf.positive⟩
    have subset : intervalOf packet :: entry.intervals ⊆ pieces :=
      cons_subset.mpr ⟨piece.member, holding.mem_pieces⟩
    have count := (subperm_of_subset distinct subset).length_le
    simp only [length_cons] at count
    have := within.fragments
    omega
  have consistent := holding.consistent cut piece
  have retainedWf : EntryWf limits (retainFragment limits packet nowMs entry) := by
    refine retainFragment_wf holding.wf piece.valid
      (piece.wellSized cut within) fits consistent scanned ?_
    intro last interval member
    rw [piece.last_end cut last]
    exact cut.finish_le interval (holding.mem_pieces interval member)
  refine ⟨scanned, room, retainedWf, holding.alive, ?_, ?_, ?_, ?_⟩
  · exact forall_mem_append.mpr ⟨holding.carried, forall_mem_singleton.mpr piece⟩
  · intro interval member
    rcases mem_insert.mp member with rfl | old
    · exact ⟨packet, by simp, rfl⟩
    · obtain ⟨other, inArrived, same⟩ := holding.only interval old
      exact ⟨other, mem_append_left _ inArrived, same⟩
  · intro other member
    rcases mem_append.mp member with old | isNew
    · exact (holding.stores other old).retain piece.valid fits holding.wf.payloadLength scanned
    · obtain rfl := mem_singleton.mp isNew
      exact retainFragment_stores piece.valid fits holding.wf.payloadLength
  · intro hasLast
    cases more : packet.moreFragments with
    | true =>
      have oldLast : entry.hasLast = true := by simpa [retainFragment, more] using hasLast
      rw [retainFragment_expected consistent oldLast]
      exact holding.expected oldLast
    | false =>
      have ends : (retainFragment limits packet nowMs entry).expectedSize = fragmentEnd packet := by
        simp [retainFragment, more]
      rw [ends]
      exact piece.last_end cut more

end

theorem AllArrived.assembles (all : AllArrived pieces arrived) (cut : Cut payload pieces)
    (carried : ∀ packet ∈ arrived, Piece payload pieces packet) :
    Assembles arrived payload := by
  have covers := contains_of_walk cut.adjacent
  have atPosition : ∀ position, position < payload.length →
      ∃ piece ∈ arrived, piece.fragmentOffset ≤ position ∧ position < fragmentEnd piece := by
    intro position inside
    obtain ⟨interval, member, low, high⟩ := covers position (Nat.zero_le _) inside
    obtain ⟨piece, inArrived, rfl⟩ := all interval member
    exact ⟨piece, inArrived, low, high⟩
  have nonempty : 0 < payload.length := by
    obtain ⟨first, member⟩ := exists_mem_of_ne_nil _ cut.nonempty
    have positive := cut.positive first member
    have inside := cut.finish_le first member
    unfold FragmentInterval.finish at inside
    omega
  refine ⟨?_, ?_⟩
  · obtain ⟨last, inArrived, _, high⟩ := atPosition (payload.length - 1) (by omega)
    have lastPiece := carried last inArrived
    have inside := lastPiece.end_le cut
    have ends : fragmentEnd last = payload.length := by omega
    have flag := cut.flags _ lastPiece.member
    refine ⟨last, inArrived, ?_, ends⟩
    have notBefore : ¬ (intervalOf last).finish < payload.length := by
      rw [← ends]
      exact Nat.lt_irrefl _
    rw [decide_eq_false notBefore] at flag
    exact flag
  · intro position inside
    obtain ⟨piece, inArrived, low, high⟩ := atPosition position inside
    refine ⟨piece, inArrived, low, high, ?_⟩
    have offsetInside : position - piece.fragmentOffset < piece.transportSize := by
      unfold fragmentEnd at high
      omega
    rw [(carried piece inArrived).bytes, byteAt_slice offsetInside]
    congr 1
    omega

section

variable (holding : Holding limits payload pieces arrived entry) (cut : Cut payload pieces)

include holding cut

theorem Holding.complete_iff : entryComplete entry = true ↔ AllArrived pieces arrived := by
  constructor
  · intro complete
    have parts : entry.hasLast = true ∧ coverFrom 0 entry.intervals = some entry.expectedSize := by
      simpa [entryComplete] using complete
    have covers := contains_of_walk parts.2
    intro piece member
    have nonempty := cut.positive piece member
    have inside := cut.finish_le piece member
    unfold FragmentInterval.finish at inside
    -- Only the piece itself covers its first byte.
    obtain ⟨interval, held, low, high⟩ := covers piece.offset
      (Nat.zero_le _) (by rw [holding.expected parts.1]; omega)
    obtain ⟨packet, inArrived, same⟩ := holding.only interval held
    refine ⟨packet, inArrived, ?_⟩
    rcases cut.apart_or_eq (holding.mem_pieces interval held) member with rfl | before | after
    · exact same
    · unfold FragmentInterval.finish at before
      omega
    · unfold FragmentInterval.finish at after
      omega
  · intro all
    have assembles := all.assembles cut holding.carried
    exact entryComplete_of_covered holding.wf (assembles.covered holding.stores)

theorem Holding.add (within : WithinLimits limits payload pieces)
    (piece : Piece payload pieces packet) (missing : ¬ AllArrived pieces arrived) (nowMs : Nat)
    (output : AllArrived pieces (arrived ++ [packet]) → payload.length ≤ outputSize) :
    (AllArrived pieces (arrived ++ [packet]) ∧ addToEntry limits packet nowMs outputSize entry =
        (none, .ok (.complete payload))) ∨
    (¬ AllArrived pieces (arrived ++ [packet]) ∧
      ∃ left answer, addToEntry limits packet nowMs outputSize entry = (some left, .ok answer) ∧
        (answer = .stored ∨ answer = .duplicate) ∧
        left.key = entry.key ∧
        Holding limits payload pieces (arrived ++ [packet]) left) := by
  by_cases again : intervalOf packet ∈ entry.intervals
  · obtain ⟨earlier, inArrived, same⟩ := holding.only _ again
    have nothingNew : ¬ AllArrived pieces (arrived ++ [packet]) := by
      intro all
      apply missing
      intro wanted member
      obtain ⟨other, found, otherInterval⟩ := all wanted member
      rcases mem_append.mp found with old | isNew
      · exact ⟨other, old, otherInterval⟩
      · obtain rfl := mem_singleton.mp isNew
        exact ⟨earlier, inArrived, same.trans otherInterval⟩
    exact .inr ⟨nothingNew, entry, .duplicate,
      holding.duplicate cut piece again nowMs outputSize, .inr rfl, rfl,
      holding.repeated piece again⟩
  · obtain ⟨scanned, room, retained⟩ := holding.store cut within piece again nowMs
    have completeIff := retained.complete_iff cut
    have notFull : ¬ entry.intervals.length ≥
        limits.maxFragmentsPerDatagram := Nat.not_le_of_lt room
    have added : addToEntry limits packet nowMs outputSize entry =
        if !entryComplete (retainFragment limits packet nowMs entry) then
          (some (retainFragment limits packet nowMs entry), .ok .stored)
        else if outputSize < (retainFragment limits packet nowMs entry).expectedSize then
          (some (rejectEntry limits entry.key nowMs), .error eNoSpc)
        else
          (none, .ok (.complete ((retainFragment limits packet nowMs entry).payload.take
              (retainFragment limits packet nowMs entry).expectedSize))) := by
      simp [addToEntry, holding.consistent cut piece, scanned, notFull]
    by_cases all : AllArrived pieces (arrived ++ [packet])
    · have complete := completeIff.mpr all
      have assembles := all.assembles cut retained.carried
      have samePayload := assembles.eq_payload retained.wf retained.stores
      have hasLast : (retainFragment limits packet nowMs entry).hasLast = true := by
        simp only [entryComplete, Bool.and_eq_true] at complete
        exact complete.1
      have enough : ¬ outputSize < (retainFragment limits packet nowMs entry).expectedSize := by
        rw [retained.expected hasLast]
        exact Nat.not_lt_of_le (output all)
      refine .inl ⟨all, ?_⟩
      rw [added, complete, if_neg enough, samePayload]
      rfl
    · have incomplete : entryComplete (retainFragment limits packet nowMs entry) = false := by
        cases complete : entryComplete (retainFragment limits packet nowMs entry) with
        | false => rfl
        | true => exact absurd (completeIff.mp complete) all
      refine .inr ⟨all, retainFragment limits packet nowMs entry, .stored, ?_,
        .inl rfl, rfl, retained⟩
      rw [added, incomplete]
      rfl

end

/-! ## The slot of the key -/

theorem addFragment_found (outputSize : Nat) (unique : Unique FragmentEntry.key entries)
    (holds : At (liveEntries entries nowMs) index entry) (sameKey : entry.key = buildKey packet)
    (alive : entry.rejected = false) (wellSized : fragmentMalformed packet = false)
    (fits : fragmentEnd packet ≤ limits.maxBytesPerDatagram) :
    addFragment limits entries packet nowMs outputSize = ((liveEntries entries nowMs).set index
        (addToEntry limits packet nowMs outputSize entry).1,
        (addToEntry limits packet nowMs outputSize entry).2) := by
  have uniqueLive : Unique FragmentEntry.key (liveEntries entries nowMs) := unique.expire _
  have found : findEntry (liveEntries entries nowMs) (buildKey packet) = some (index, entry) := by
    rw [← sameKey]
    exact uniqueLive.find_eq holds
  have short : ¬ fragmentEnd packet > limits.maxBytesPerDatagram := Nat.not_lt_of_le fits
  simp [addFragment, found, alive, wellSized, short]

/-- The key may open an entry: it has none, a slot is free and its source is
below the limit. -/
structure MayOpen (limits : FragmentLimits)
    (live : List (Option FragmentEntry)) (key : FragmentKey) : Prop where
  absent : ∀ slot ∈ live, ∀ entry ∈ slot, entry.key ≠ key
  free : none ∈ live
  room : sourceEntryCount live key < limits.maxDatagramsPerSource

theorem addFragment_opened (outputSize : Nat)
    (opens : MayOpen limits (liveEntries entries nowMs) (buildKey packet))
    (wellSized : fragmentMalformed packet = false)
    (fits : fragmentEnd packet ≤ limits.maxBytesPerDatagram) :
    ∃ index, index < (liveEntries entries nowMs).length ∧
      addFragment limits entries packet nowMs outputSize = ((liveEntries entries nowMs).set index
          (addToEntry limits packet nowMs outputSize
            (initializeEntry limits (buildKey packet) nowMs)).1,
          (addToEntry limits packet nowMs outputSize
            (initializeEntry limits (buildKey packet) nowMs)).2) := by
  have missing := findEntry_absent fun _ _ holds => opens.absent _ holds.mem _ rfl
  obtain ⟨_, freeSlot⟩ := mem_iff_getElem?.mp opens.free
  obtain ⟨index, first⟩ := freeIndex_of_free freeSlot
  have short : ¬ fragmentEnd packet > limits.maxBytesPerDatagram := Nat.not_lt_of_le fits
  have notCrowded : ¬ sourceEntryCount (liveEntries entries nowMs)
      (buildKey packet) ≥ limits.maxDatagramsPerSource :=
    Nat.not_le_of_lt opens.room
  refine ⟨index, (List.getElem?_eq_some_iff.mp (freeIndex_spec first)).1, ?_⟩
  simp [addFragment, missing, wellSized, short, first, notCrowded]

/-- Some slot holds the arrived fragments under the key. -/
def HoldsKey (limits : FragmentLimits) (key : FragmentKey) (payload : Bytes)
    (pieces : List FragmentInterval) (arrived : List PacketView)
    (entries : List (Option FragmentEntry)) : Prop :=
  ∃ index entry, At entries index entry ∧ entry.key = key ∧
    Holding limits payload pieces arrived entry

/-- A fragment completes the payload, or the table holds it with the fragments before it. -/
def Progress (limits : FragmentLimits) (key : FragmentKey) (payload : Bytes)
    (pieces : List FragmentInterval) (arrived : List PacketView)
    (result : List (Option FragmentEntry) × Except Int FragmentResult) : Prop :=
  (AllArrived pieces arrived ∧ result.2 = .ok (.complete payload)) ∨ (¬ AllArrived pieces arrived ∧
      (result.2 = .ok .stored ∨ result.2 = .ok .duplicate) ∧
      HoldsKey limits key payload pieces arrived result.1)

theorem Holding.progress {live : List (Option FragmentEntry)} {nowMs index outputSize : Nat}
    (holding : Holding limits payload pieces arrived entry) (cut : Cut payload pieces)
    (within : WithinLimits limits payload pieces) (piece : Piece payload pieces packet)
    (missing : ¬ AllArrived pieces arrived)
    (output : AllArrived pieces (arrived ++ [packet]) → payload.length ≤ outputSize)
    (inside : index < live.length) :
    Progress limits entry.key payload pieces (arrived ++ [packet])
      (live.set index (addToEntry limits packet nowMs outputSize entry).1,
        (addToEntry limits packet nowMs outputSize entry).2) := by
  rcases holding.add cut within piece missing nowMs output with
    ⟨all, added⟩ | ⟨notAll, left, answer, added, answered, sameKey, held⟩
  · exact .inl ⟨all, by rw [added]⟩
  refine .inr ⟨notAll, ?_, index, left, ?_, sameKey, held⟩
  · rw [added]
    rcases answered with rfl | rfl
    · exact .inl rfl
    · exact .inr rfl
  · rw [added]
    exact (at_set_iff inside).mpr (.inl ⟨rfl, rfl⟩)

/-! ## Calls of the tracker -/

def InTime (key : FragmentKey) (entries : List (Option FragmentEntry)) (nowMs : Nat) : Prop :=
  ∀ slot ∈ entries, ∀ entry ∈ slot, entry.key = key → nowMs < entry.expiresAt
  deriving Decidable

def isFragment (key : FragmentKey) (input : AddInput) : Bool :=
  packetValid input.packet && decide (buildKey input.packet = key)

theorem HoldsKey.live (holds : HoldsKey limits key payload pieces arrived entries)
    (inTime : InTime key entries nowMs) :
    HoldsKey limits key payload pieces arrived (liveEntries entries nowMs) := by
  obtain ⟨index, entry, there, sameKey, holding⟩ := holds
  have early := inTime (some entry) there.mem entry rfl sameKey
  have unexpired : decide (entry.expiresAt ≤ nowMs) = false := by
    simp only [decide_eq_false_iff_not]
    omega
  exact ⟨index, entry, at_expire_iff.mpr ⟨there, unexpired⟩, sameKey, holding⟩

theorem addStep_other (bounded : TrackerBounded tracker)
    (holds : HoldsKey tracker.limits key payload pieces arrived tracker.entries)
    (inTime : InTime key tracker.entries input.nowMs) (other : isFragment key input = false) :
    HoldsKey tracker.limits key payload pieces arrived (addStep tracker input).1.entries := by
  unfold addStep fragmentTrackerAdd
  cases valid : packetValid input.packet with
  | false => simpa using holds
  | true =>
    have different : key ≠ buildKey input.packet := by
      rintro rfl
      simp [isFragment, valid] at other
    obtain ⟨index, entry, there, sameKey, holding⟩ := holds.live inTime
    refine ⟨index, entry, ?_, sameKey, holding⟩
    simp only [Bool.not_true, Bool.false_eq_true, if_false]
    rcases addFragment_write bounded valid input.nowMs input.outputSize with
      unchanged | ⟨position, slot, owns, _, slotKeys, changed⟩
    · rw [unchanged]
      exact there
    have write : (datagramQuota tracker.limits).Write (liveEntries tracker.entries input.nowMs)
        (buildKey input.packet)
        ((liveEntries tracker.entries input.nowMs).set position slot) :=
      .inr ⟨position, slot, owns, fun left kept => (slotKeys left kept).1, rfl⟩
    rw [changed]
    refine (write.frame ?_).mpr there
    intro same
    exact different (sameKey.symm.trans same)

theorem isFragment_iff : isFragment key input = true ↔
      packetValid input.packet = true ∧ buildKey input.packet = key := by
  simp [isFragment]

theorem addStep_next (bounded : TrackerBounded tracker)
    (holds : HoldsKey tracker.limits key payload pieces arrived tracker.entries)
    (inTime : InTime key tracker.entries input.nowMs) (cut : Cut payload pieces)
    (within : WithinLimits tracker.limits payload pieces) (fragment : isFragment key input = true)
    (piece : Piece payload pieces input.packet) (missing : ¬ AllArrived pieces arrived)
    (output : AllArrived pieces (arrived ++ [input.packet]) → payload.length ≤ input.outputSize) :
    Progress tracker.limits key payload pieces (arrived ++ [input.packet])
      ((addStep tracker input).1.entries, (addStep tracker input).2) := by
  obtain ⟨valid, sameInput⟩ := isFragment_iff.mp fragment
  obtain ⟨index, entry, there, sameKey, holding⟩ := holds.live inTime
  have fits : fragmentEnd input.packet ≤ tracker.limits.maxBytesPerDatagram :=
    Nat.le_trans (piece.end_le cut) within.bytes
  have found := addFragment_found input.outputSize bounded.quota.unique there
    (sameKey.trans sameInput.symm) holding.alive
    (piece.wellSized cut within) fits
  have progress := @Holding.progress _ _ _ _ _ _ _ input.nowMs index
    input.outputSize holding cut within piece missing output there.lt_length
  rw [sameKey, ← found] at progress
  simp only [addStep, fragmentTrackerAdd, valid, Bool.not_true, Bool.false_eq_true, if_false]
  exact progress

theorem addStep_first (opens : MayOpen tracker.limits (liveEntries tracker.entries input.nowMs) key)
    (cut : Cut payload pieces) (within : WithinLimits tracker.limits payload pieces)
    (fragment : isFragment key input = true) (piece : Piece payload pieces input.packet)
    (output : AllArrived pieces [input.packet] → payload.length ≤ input.outputSize) :
    Progress tracker.limits key payload pieces [input.packet]
      ((addStep tracker input).1.entries, (addStep tracker input).2) := by
  obtain ⟨valid, rfl⟩ := isFragment_iff.mp fragment
  have fits : fragmentEnd input.packet ≤ tracker.limits.maxBytesPerDatagram :=
    Nat.le_trans (piece.end_le cut) within.bytes
  have missing : ¬ AllArrived pieces [] := by
    intro all
    obtain ⟨first, member⟩ := exists_mem_of_ne_nil _ cut.nonempty
    obtain ⟨_, impossible, _⟩ := all first member
    cases impossible
  obtain ⟨index, inside, opened⟩ := addFragment_opened input.outputSize opens
    (piece.wellSized cut within) fits
  have progress := @Holding.progress _ _ _ [] _ _ _ input.nowMs index input.outputSize
    (initializeEntry_holding (buildKey input.packet) input.nowMs) cut within
    piece missing output inside
  rw [← opened] at progress
  simp only [addStep, fragmentTrackerAdd, valid, Bool.not_true, Bool.false_eq_true, if_false]
  exact progress

/-! ## Runs -/

abbrev AddEvent := Event FragmentTracker AddInput (Except Int FragmentResult)

def fragmentsOf (key : FragmentKey) (events : List AddEvent) : List PacketView :=
  (events.filter fun event => isFragment key event.input).map fun event => event.input.packet

/-- Calls that deliver a datagram before its entry expires. -/
structure Delivery (limits : FragmentLimits) (key : FragmentKey)
    (payload : Bytes) (pieces : List FragmentInterval)
    (events : List AddEvent) : Prop where
  starts : ∀ first ∈ events.head?, isFragment key first.input = true ∧
    MayOpen limits (liveEntries first.before.entries first.input.nowMs) key
  carried : ∀ packet ∈ fragmentsOf key events, Piece payload pieces packet
  inTime : ∀ event ∈ events.tail, InTime key event.before.entries event.input.nowMs

theorem AllArrived.mono (all : AllArrived pieces arrived) (subset : arrived ⊆ more) :
    AllArrived pieces more := by
  intro piece member
  obtain ⟨packet, inArrived, same⟩ := all piece member
  exact ⟨packet, subset inArrived, same⟩

/-- What a delivery asks of one call, behind the `past` of the datagram. -/
def Delivers (limits : FragmentLimits) (key : FragmentKey) (payload : Bytes)
    (pieces : List FragmentInterval) (past : List AddEvent) (tracker : FragmentTracker)
    (input : AddInput) : Prop :=
  (isFragment key input = true → Piece payload pieces input.packet) ∧
    if past = [] then
      isFragment key input = true ∧ MayOpen limits (liveEntries tracker.entries input.nowMs) key
    else InTime key tracker.entries input.nowMs

/-- The tracker holds what arrived of the datagram while pieces are missing. -/
def Held (limits : FragmentLimits) (key : FragmentKey) (payload : Bytes)
    (pieces : List FragmentInterval) (past : List AddEvent) (tracker : FragmentTracker) : Prop :=
  (tracker.limits = limits ∧ TrackerBounded tracker) ∧
    (past ≠ [] → ¬ AllArrived pieces (fragmentsOf key past) →
      HoldsKey limits key payload pieces (fragmentsOf key past) tracker.entries)

section Held

theorem Delivery.delivers
    (delivery : Delivery limits key payload pieces (past ++ event :: future)) :
    Delivers limits key payload pieces past event.before event.input := by
  refine ⟨fun fragment => delivery.carried _ (by simp [fragmentsOf, fragment]), ?_⟩
  cases past with
  | nil => exact delivery.starts event rfl
  | cons first past => exact delivery.inTime event (by simp)

variable (held : Held limits key payload pieces past tracker)
  (delivers : Delivers limits key payload pieces past tracker input) (cut : Cut payload pieces)
  (within : WithinLimits limits payload pieces)

include held delivers cut within

theorem Held.progress (fragment : isFragment key input = true)
    (missing : ¬ AllArrived pieces (fragmentsOf key past))
    (output : AllArrived pieces (fragmentsOf key past ++ [input.packet]) →
      payload.length ≤ input.outputSize) :
    Progress limits key payload pieces (fragmentsOf key past ++ [input.packet])
      ((addStep tracker input).1.entries, (addStep tracker input).2) := by
  obtain ⟨⟨rfl, bounded⟩, holds⟩ := held
  obtain ⟨piece, now⟩ := delivers
  by_cases first : past = []
  · subst first
    exact addStep_first now.2 cut within fragment (piece fragment) output
  · rw [if_neg first] at now
    exact addStep_next bounded (holds first missing) now cut within fragment (piece fragment)
      missing output

theorem Held.step : Held limits key payload pieces (past ++ [eventOf addStep tracker input])
      (addStep tracker input).1 := by
  have ⟨⟨sameLimits, bounded⟩, holds⟩ := held
  refine ⟨⟨(addStep_limits tracker input).trans sameLimits, addStep_bounded input bounded⟩,
    fun _ missing => ?_⟩
  cases fragment : isFragment key input with
  | false =>
    have same : fragmentsOf key (past ++ [eventOf addStep tracker input]) =
        fragmentsOf key past := by
      simp [fragmentsOf, eventOf, fragment]
    have now := delivers.2
    have later : past ≠ [] := by
      rintro rfl
      simp [fragment] at now
    rw [same] at missing ⊢
    rw [if_neg later] at now
    subst sameLimits
    exact addStep_other bounded (holds later missing) now fragment
  | true =>
    have more : fragmentsOf key (past ++ [eventOf addStep tracker input]) =
        fragmentsOf key past ++ [input.packet] := by
      simp [fragmentsOf, eventOf, fragment]
    rw [more] at missing ⊢
    rcases held.progress delivers cut within fragment
        (fun all => missing (all.mono (subset_append_left _ _)))
        (fun all => absurd all missing) with ⟨all, _⟩ | ⟨_, _, kept⟩
    · exact absurd all missing
    · exact kept

end Held

/-- The fragments of a datagram within the limits are answered STORED or DUPLICATE until the last
missing piece completes the payload, for every cut, order and repetition. -/
theorem fragments_reassemble {limits : FragmentLimits} {tracker : FragmentTracker}
    (created : fragmentTrackerCreate limits = .ok tracker) {inputs : List AddInput}
    {past window future : List AddEvent} {event : AddEvent}
    (split : run addStep tracker inputs = past ++ (window ++ event :: future))
    {key : FragmentKey} {payload : Bytes} {pieces : List FragmentInterval}
    (cut : Cut payload pieces) (bytes : payload.length ≤ limits.maxBytesPerDatagram)
    (fragments : pieces.length ≤ limits.maxFragmentsPerDatagram)
    (delivery : Delivery limits key payload pieces (window ++ [event]))
    (fragment : isFragment key event.input = true)
    (missing : ¬ AllArrived pieces (fragmentsOf key window))
    (output : payload.length ≤ event.input.outputSize) :
    if AllArrived pieces (fragmentsOf key (window ++ [event])) then
      event.answer = .ok (.complete payload)
    else event.answer = .ok .stored ∨ event.answer = .ok .duplicate := by
  have within : WithinLimits limits payload pieces := by
    refine ⟨bytes, ?_, fragments⟩
    rw [← (fragmentTrackerCreate_ok created).1]
    exact (limits_bounds tracker.limitsValid).2.2
  obtain ⟨state, later, ⟨sameLimits, bounded⟩, rest⟩ :=
    run_suffix (fun state input (holds : state.limits = limits ∧ TrackerBounded state) =>
      (⟨(addStep_limits state input).trans holds.1, addStep_bounded input holds.2⟩ : _ ∧ _))
      ⟨(fragmentTrackerCreate_ok created).1, created_bounded created⟩ split
  have held : Held limits key payload pieces window event.before :=
    invariant_until [] (Held limits key payload pieces)
      (fun _ _ _ held delivers => held.step delivers cut within)
      ⟨⟨sameLimits, bounded⟩, fun none => absurd rfl none⟩ rest.symm
      fun earlier other behind here => Delivery.delivers (by simpa [here] using delivery)
  have progress := held.progress delivery.delivers cut within fragment missing (fun _ => output)
  have more : fragmentsOf key (window ++ [event]) =
      fragmentsOf key window ++ [event.input.packet] := by
    simp [fragmentsOf, fragment]
  have made : event.answer = (addStep event.before event.input).2 := by
    have member : event ∈ run addStep tracker inputs := by
      rw [split]
      simp
    rw [event_eq member]
    rfl
  rw [more, made]
  rcases progress with ⟨all, completed⟩ | ⟨notAll, stored, _⟩
  · rw [if_pos all]
    exact completed
  · rw [if_neg notAll]
    exact stored

def samplePieces : List FragmentInterval := [⟨0, 8, true⟩, ⟨8, 8, false⟩]

def samplePayload : Bytes := [0x10, 0, 0, 53, 0, 16, 0, 0, 0x10, 0, 0, 53, 0, 16, 0, 0]

/-- The last piece twice, a fragment of another datagram, the first piece. -/
def reorderedInputs : List AddInput :=
  [⟨sampleView 8 false, 0, 64⟩, ⟨sampleView 8 false, 1, 64⟩,
    ⟨{ sampleView 0 true with fragmentId := 9 }, 2, 64⟩, ⟨sampleView 0 true, 3, 64⟩]

theorem fragments_reassemble_reordered : ∃ first second other last,
      run addStep sampleTracker reorderedInputs = [first, second, other, last] ∧
      first.answer.toOption = some .stored ∧
      second.answer.toOption = some .duplicate ∧
      last.answer = .ok (.complete samplePayload) := by
  refine ⟨_, _, _, _, rfl, by decide +kernel, by decide +kernel, ?_⟩
  have complete := @fragments_reassemble sampleLimits sampleTracker rfl
    reorderedInputs [] [_, _, _] [] _ rfl
    (buildKey (sampleView 0 true)) samplePayload samplePieces
    ⟨by decide, by decide, by decide, by decide, by decide⟩ (by decide)
    (by decide) ⟨?_, ?_, ?_⟩ (by decide +kernel) (by decide +kernel)
    (by decide)
  · exact complete
  · rintro first ⟨⟩
    exact ⟨by decide +kernel, by decide +kernel, by decide +kernel, by decide +kernel⟩
  · decide +kernel
  · decide +kernel

end Fragment

end JanusGate
