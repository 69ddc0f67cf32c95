import JanusGate.Daemon.FragmentInvariant

/-!
# Bytes held by the fragment tracker

`Stores` ties a fragment to the entry that retains its bytes.  Stored
fragments that make up a payload are what the entry hands out when it is
complete.
-/

namespace JanusGate

open Fragment List

namespace Fragment

/-! ## Stored bytes -/

/-- The entry retains the interval of a fragment with its bytes. -/
def Stores (entry : FragmentEntry) (packet : PacketView) : Prop :=
  (⟨packet.fragmentOffset, packet.transportSize, packet.moreFragments⟩ :
      FragmentInterval) ∈ entry.intervals ∧
    slice entry.payload packet.fragmentOffset packet.transportSize = fragmentBytes packet

theorem byteAt_slice (inside : index < size) :
    byteAt (slice bytes offset size) index = byteAt bytes (offset + index) := by
  simp [byteAt, slice, inside]

theorem slice_writePayload_same (fits : offset + fragment.length ≤ payload.length) :
    slice (writePayload payload offset fragment) offset fragment.length = fragment := by
  have front : (payload.take offset).length = offset := by
    rw [length_take]
    omega
  unfold slice writePayload
  rw [append_assoc, drop_append_of_le_length (by omega),
    drop_of_length_le (by omega), nil_append,
    take_append_of_le_length (by omega), take_length]

theorem slice_writePayload_apart (fits : offset + fragment.length ≤ payload.length)
    (apart : offset + fragment.length ≤ position ∨ position + size ≤ offset) :
    slice (writePayload payload offset fragment) position size = slice payload position size := by
  have front : (payload.take offset).length = offset := by
    rw [length_take]
    omega
  unfold slice writePayload
  apply ext_getElem?
  intro index
  simp only [getElem?_take, getElem?_drop, append_assoc, getElem?_append, front]
  by_cases within : index < size
  · simp only [within, if_true]
    rcases apart with after | before
    · have notFront : ¬ position + index < offset := by omega
      have notMiddle : ¬ position + index - offset < fragment.length := by omega
      simp only [notFront, notMiddle, if_false]
      congr 1
      omega
    · have inFront : position + index < offset := by omega
      simp [inFront]
  · simp [within]

theorem retainFragment_stores (valid : packetValid packet = true)
    (fits : fragmentEnd packet ≤ limits.maxBytesPerDatagram)
    (length : entry.payload.length = limits.maxBytesPerDatagram) :
    Stores (retainFragment limits packet nowMs entry) packet := by
  refine ⟨Cover.mem_insert.mpr (.inl rfl), ?_⟩
  have size := fragmentBytes_length valid
  unfold fragmentEnd at fits
  rw [← size]
  exact slice_writePayload_same (by omega)

theorem Stores.retain (stores : Stores entry earlier) (valid : packetValid packet = true)
    (fits : fragmentEnd packet ≤ limits.maxBytesPerDatagram)
    (length : entry.payload.length = limits.maxBytesPerDatagram)
    (stored : inspectIntervals entry.payload packet.fragmentOffset
      packet.moreFragments (fragmentBytes packet) entry.intervals = .stored) :
    Stores (retainFragment limits packet nowMs entry) earlier := by
  obtain ⟨member, bytes⟩ := stores
  refine ⟨Cover.mem_insert.mpr (.inr member), ?_⟩
  have apart := inspectIntervals_stored stored _ member
  have size := fragmentBytes_length valid
  unfold fragmentEnd at fits
  rw [← bytes]
  exact slice_writePayload_apart (by omega) (by simpa [FragmentInterval.finish] using apart)

theorem stores_of_duplicate (valid : packetValid packet = true)
    (duplicate : inspectIntervals entry.payload packet.fragmentOffset
      packet.moreFragments (fragmentBytes packet) entry.intervals = .duplicate) :
    Stores entry packet := by
  obtain ⟨member, bytes⟩ := inspectIntervals_duplicate duplicate
  rw [fragmentBytes_length valid] at member bytes
  exact ⟨member, bytes.symm⟩

/-! ## Datagrams covered by a set of fragments -/

/-- The fragments contain every byte of the payload, and a last one ends where it does. -/
def Assembles (fragments : List PacketView) (payload : Bytes) : Prop :=
  (∃ last ∈ fragments, last.moreFragments = false ∧ fragmentEnd last = payload.length) ∧
  ∀ position, position < payload.length → ∃ piece ∈ fragments, piece.fragmentOffset ≤ position ∧
      position < fragmentEnd piece ∧
      byteAt (fragmentBytes piece) (position - piece.fragmentOffset) = byteAt payload position

instance (fragments : List PacketView) (payload : Bytes) :
    Decidable (Assembles fragments payload) := by
  unfold Assembles
  infer_instance

variable (assembles : Assembles fragments payload)

include assembles

theorem Assembles.mono (subset : fragments ⊆ more) : Assembles more payload := by
  obtain ⟨⟨last, lastMember, lastSpec⟩, pieces⟩ := assembles
  refine ⟨⟨last, subset lastMember, lastSpec⟩, ?_⟩
  intro position inside
  obtain ⟨piece, member, spec⟩ := pieces position inside
  exact ⟨piece, subset member, spec⟩

theorem Assembles.covered (stored : ∀ piece ∈ fragments, Stores entry piece) :
    Covered entry payload.length := by
  obtain ⟨⟨last, lastMember, lastMore, lastEnd⟩, pieces⟩ := assembles
  refine ⟨?_, ?_⟩
  · intro position inside
    obtain ⟨piece, member, low, high, _⟩ := pieces position inside
    exact ⟨_, (stored piece member).1, low, high⟩
  · exact ⟨_, (stored last lastMember).1, lastMore, lastEnd⟩

theorem Assembles.eq_payload (wellFormed : EntryWf limits entry)
    (stored : ∀ piece ∈ fragments, Stores entry piece) :
    entry.payload.take entry.expectedSize = payload := by
  obtain ⟨⟨last, lastMember, lastMore, lastEnd⟩, pieces⟩ := assembles
  have lastStored := (stored last lastMember).1
  have expected : entry.expectedSize = payload.length := by
    have finish := (wellFormed.lastStored _ lastStored lastMore).2
    simpa [FragmentInterval.finish, fragmentEnd, lastEnd] using finish.symm.trans lastEnd
  have room : payload.length ≤ entry.payload.length := by
    have bounded := wellFormed.bounded _ lastStored
    rw [wellFormed.payloadLength, ← lastEnd]
    exact bounded
  apply ext_getElem?
  intro position
  rw [expected, getElem?_take]
  by_cases inside : position < payload.length
  · obtain ⟨piece, member, low, high, byte⟩ := pieces position inside
    have bytes := (stored piece member).2
    have offsetInside : position - piece.fragmentOffset < piece.transportSize := by
      unfold fragmentEnd at high
      omega
    have held : byteAt (fragmentBytes piece) (position - piece.fragmentOffset) =
          byteAt entry.payload position := by
      rw [← bytes, byteAt_slice offsetInside]
      congr 1
      omega
    rw [if_pos inside, getElem?_eq_getElem (by omega), getElem?_eq_getElem inside]
    have same := held.symm.trans byte
    simpa [byteAt, getElem?_eq_getElem inside,
      getElem?_eq_getElem (show position < entry.payload.length by omega)] using same
  · rw [if_neg inside, getElem?_eq_none (by omega)]

end Fragment

end JanusGate
