import Mathlib.Data.List.Rotate
import Mathlib.Data.Nat.ModEq

/-!
# Ring buffers

A fixed list of slots, the index of the oldest element and the number of
stored elements.  `contents` reads the stored elements in the order they were
pushed, so that the ring is a bounded first-in first-out queue.
-/

/-- A ring of slots with its two indices inside their bounds. -/
structure RingBuffer (α : Type) where
  slots : List α
  head : Nat
  count : Nat
  headBound : head < slots.length
  countBound : count ≤ slots.length

namespace RingBuffer

open List

variable {α : Type}

def capacity (ring : RingBuffer α) : Nat := ring.slots.length

def empty (capacity : Nat) (blank : α) (positive : 0 < capacity) : RingBuffer α where
  slots := replicate capacity blank
  head := 0
  count := 0
  headBound := by simpa using positive
  countBound := Nat.zero_le _

def contents (ring : RingBuffer α) : List α := (ring.slots.rotate ring.head).take ring.count

def push (ring : RingBuffer α) (value : α) (room : ring.count < ring.capacity) : RingBuffer α where
  slots := ring.slots.set ((ring.head + ring.count) % ring.capacity) value
  head := ring.head
  count := ring.count + 1
  headBound := by simpa using ring.headBound
  countBound := by
    rw [length_set]
    exact room

def advance (ring : RingBuffer α) : RingBuffer α where
  slots := ring.slots
  head := (ring.head + 1) % ring.capacity
  count := ring.count - 1
  headBound := Nat.mod_lt _ (Nat.zero_lt_of_lt ring.headBound)
  countBound := Nat.le_trans (Nat.sub_le _ _) ring.countBound

/-- Remove up to `limit` elements, the oldest first. -/
def drain : Nat → RingBuffer α → List α × RingBuffer α
  | 0, ring => ([], ring)
  | limit + 1, ring =>
    if ring.count = 0 then ([], ring)
    else
      let oldest := ring.slots.get ⟨ring.head, ring.headBound⟩
      let (later, rest) := drain limit ring.advance
      (oldest :: later, rest)

def clear (ring : RingBuffer α) : RingBuffer α where
  slots := ring.slots
  head := 0
  count := 0
  headBound := Nat.zero_lt_of_lt ring.headBound
  countBound := Nat.zero_le _

variable (ring : RingBuffer α)

@[simp]
theorem contents_length : ring.contents.length = ring.count := by simp [contents, ring.countBound]

@[simp]
theorem contents_empty (blank : α) (positive : 0 < size) :
    (empty size blank positive).contents = [] := rfl

@[simp]
theorem contents_clear : ring.clear.contents = [] := rfl

theorem contents_getElem? {ring : RingBuffer α} (stored : index < ring.count) :
    ring.contents[index]? = ring.slots[(index + ring.head) % ring.slots.length]? := by
  have inside : index < ring.slots.length := Nat.lt_of_lt_of_le stored ring.countBound
  rw [contents, getElem?_take_of_lt stored, getElem?_rotate inside]

theorem slot_ne {ring : RingBuffer α} (firstBound : first < ring.slots.length)
    (secondBound : second < ring.slots.length) (different : first ≠ second) :
    (ring.head + second) % ring.slots.length ≠ (first + ring.head) % ring.slots.length := by
  intro same
  rw [Nat.add_comm first] at same
  have congruent : second % ring.slots.length = first % ring.slots.length :=
    Nat.ModEq.add_left_cancel' ring.head same
  rw [Nat.mod_eq_of_lt secondBound, Nat.mod_eq_of_lt firstBound] at congruent
  exact different congruent.symm

theorem contents_push (value : α) (room : ring.count < ring.capacity) :
    (ring.push value room).contents = ring.contents ++ [value] := by
  apply ext_getElem?
  intro index
  by_cases older : index < ring.count
  · have stored : index < (ring.push value room).count := Nat.lt_succ_of_lt older
    have kept := slot_ne (Nat.lt_trans older room) room (Nat.ne_of_lt older)
    rw [contents_getElem? stored, getElem?_append_left (by simpa), contents_getElem? older]
    simp only [push, capacity, length_set]
    rw [getElem?_set_ne kept]
  · by_cases newest : index = ring.count
    · have stored : index < (ring.push value room).count := by
        rw [newest]
        exact Nat.lt_succ_self _
      have inside : (ring.head + ring.count) % ring.slots.length < ring.slots.length :=
        Nat.mod_lt _ (Nat.zero_lt_of_lt ring.headBound)
      rw [contents_getElem? stored]
      simp only [push, capacity, length_set, newest, Nat.add_comm ring.count]
      rw [getElem?_set_self inside, getElem?_append_right (by simp)]
      simp
    · rw [getElem?_eq_none, getElem?_eq_none]
      · simp
        omega
      · simp [push]
        omega

theorem contents_advance {ring : RingBuffer α} (stored : ring.count ≠ 0) :
    ring.contents = ring.slots.get ⟨ring.head, ring.headBound⟩ :: ring.advance.contents := by
  apply ext_getElem?
  intro index
  cases index with
  | zero =>
    rw [contents_getElem? (Nat.pos_of_ne_zero stored), Nat.zero_add,
      Nat.mod_eq_of_lt ring.headBound]
    simp
  | succ index =>
    rw [getElem?_cons_succ]
    by_cases inside : index + 1 < ring.count
    · have later : index < ring.advance.count := Nat.lt_sub_of_add_lt inside
      rw [contents_getElem? inside, contents_getElem? later]
      have sameSlot : (index + 1 + ring.head) % ring.slots.length =
          (index + (ring.head + 1) % ring.slots.length) % ring.slots.length := by
        rw [Nat.add_mod_mod, Nat.add_right_comm, Nat.add_assoc index]
      rw [sameSlot]
      rfl
    · rw [getElem?_eq_none, getElem?_eq_none]
      · simp [advance]
        omega
      · simp
        omega

theorem contents_drain (limit : Nat) (ring : RingBuffer α) :
    (drain limit ring).1 = ring.contents.take limit ∧
      (drain limit ring).2.contents = ring.contents.drop limit := by
  induction limit generalizing ring with
  | zero => simp [drain]
  | succ limit ih =>
    by_cases stored : ring.count = 0
    · have nothing : ring.contents = [] := by
        apply eq_nil_of_length_eq_zero
        rw [contents_length, stored]
      simp [drain, stored, nothing]
    · obtain ⟨drained, kept⟩ := ih ring.advance
      simp only [drain, stored, if_false]
      rw [contents_advance stored, drained, kept]
      simp

@[simp]
theorem capacity_push (value : α) (room : ring.count < ring.capacity) :
    (ring.push value room).capacity = ring.capacity := by
  simp [push, capacity]

theorem capacity_drain (limit : Nat) (ring : RingBuffer α) :
    (drain limit ring).2.capacity = ring.capacity := by
  induction limit generalizing ring with
  | zero => rfl
  | succ limit ih =>
    by_cases stored : ring.count = 0
    · simp [drain, stored]
    · simp only [drain, stored, if_false]
      exact ih ring.advance

end RingBuffer
