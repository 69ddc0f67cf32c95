import Mathlib.Algebra.Group.Nat.Defs
import Mathlib.Algebra.GroupWithZero.Nat
import Mathlib.Data.List.Basic

/-!
# Windows on a stream

A receiver has seen some positions of a stream.  `seenWindow` is what it knows
of the next positions, `leading` how many of them it knows without a gap, and
`wholeRecords` how many of the records that the stream is made of it has seen
completely, counted up to the first incomplete one.
-/

namespace SeenWindow

open List

variable {α : Type}

/-! ## What has been seen -/

/-- What is known of the `size` positions from a base on. -/
def seenWindow (stream : List α) (seen : Nat → Bool) : Nat → Nat → List (Option α)
  | _, 0 => []
  | base, size + 1 =>
    (if seen base then stream[base]? else none) :: seenWindow stream seen (base + 1) size

/-- How many of the `size` positions from a base on are known without a gap. -/
def leading (seen : Nat → Bool) : Nat → Nat → Nat
  | _, 0 => 0
  | base, size + 1 => if seen base then leading seen (base + 1) size + 1 else 0

@[simp]
theorem seenWindow_length (stream : List α) (seen : Nat → Bool) (base size : Nat) :
    (seenWindow stream seen base size).length = size := by
  induction size generalizing base with
  | zero => rfl
  | succ size ih => rw [seenWindow, length_cons, ih]

variable {stream : List α}

theorem seenWindow_getElem? (inside : index < size) :
    (seenWindow stream seen base size)[index]? =
      some (if seen (base + index) then stream[base + index]? else none) := by
  induction size generalizing base index with
  | zero => omega
  | succ size ih =>
    cases index with
    | zero => rfl
    | succ index =>
      rw [seenWindow, getElem?_cons_succ, ih (by omega)]
      rw [Nat.add_assoc, Nat.add_comm 1 index]

theorem eq_seenWindow (length : window.length = size)
    (each : ∀ index, index < size → window[index]? =
      some (if seen (base + index) then stream[base + index]? else none)) :
    window = seenWindow stream seen base size := by
  apply ext_getElem?
  intro index
  by_cases inside : index < size
  · rw [each index inside, seenWindow_getElem? inside]
  · rw [getElem?_eq_none (by omega), getElem?_eq_none (by rw [seenWindow_length]; omega)]

/-- Moving the base drops the front of a window; nothing is known behind its
end. -/
theorem seenWindow_shift {seen : Nat → Bool} {base size count : Nat} (inside : count ≤ size)
    (beyond : ∀ position, base + size ≤ position → seen position = false) :
    (seenWindow stream seen base size).drop count ++ replicate count none =
      seenWindow stream seen (base + count) size := by
  apply eq_seenWindow
  · rw [length_append, length_drop, length_replicate, seenWindow_length]
    omega
  intro index small
  have dropped : ((seenWindow stream seen base size).drop count).length = size - count := by
    rw [length_drop, seenWindow_length]
  by_cases front : index < size - count
  · rw [getElem?_append_left (by omega), getElem?_drop,
      seenWindow_getElem? (by omega), Nat.add_assoc]
  · rw [getElem?_append_right (by omega), dropped,
      getElem?_replicate, if_pos (by omega), beyond (base + count + index) (by omega)]
    rfl

theorem leading_le (seen : Nat → Bool) (base size : Nat) : leading seen base size ≤ size := by
  induction size generalizing base with
  | zero => exact Nat.le_refl _
  | succ size ih =>
    rw [leading]
    split
    · exact Nat.succ_le_succ (ih (base + 1))
    · exact Nat.zero_le _

variable {seen : Nat → Bool} {base size count position : Nat} {sizes : List Nat}

/-- The positions in front of the first gap are those that are known. -/
theorem le_leading_iff (inside : count ≤ size) :
    count ≤ leading seen base size ↔ ∀ index, index < count → seen (base + index) = true := by
  induction size generalizing base count with
  | zero =>
    have nothing : count = 0 := by omega
    subst nothing
    simp
  | succ size ih =>
    cases count with
    | zero => simp
    | succ count =>
      have rest := @ih (base + 1) count (by omega)
      rw [leading]
      cases known : seen base with
      | false =>
        simp only [Bool.false_eq_true, if_false]
        constructor
        · omega
        · intro all
          have first := all 0 (by omega)
          rw [Nat.add_zero, known] at first
          cases first
      | true =>
        rw [if_pos rfl, Nat.add_le_add_iff_right, rest]
        constructor
        · intro all index small
          cases index with
          | zero => exact known
          | succ index =>
            have later := all index (by omega)
            rwa [Nat.add_assoc, Nat.add_comm 1 index] at later
        · intro all index small
          have later := all (index + 1) (by omega)
          rwa [← Nat.add_assoc, Nat.add_right_comm] at later

theorem leading_add (known : count ≤ leading seen base size) :
    leading seen (base + count) (size - count) = leading seen base size - count := by
  induction count generalizing base size with
  | zero => rfl
  | succ count ih =>
    cases size with
    | zero =>
      rw [leading] at known
      omega
    | succ size =>
      rw [leading] at known ⊢
      split at known
      case isTrue first =>
        rw [if_pos first, Nat.add_sub_add_right, Nat.add_sub_add_right,
          ← ih (by omega), Nat.add_assoc, Nat.add_comm 1 count]
      case isFalse => omega

/-! ## Records -/

/-- How many consecutive records are known completely. -/
def wholeRecords (seen : Nat → Bool) : Nat → List Nat → Nat
  | _, [] => 0
  | position, size :: sizes =>
    if leading seen position size = size then wholeRecords seen (position + size) sizes + 1
    else 0

/-- How many consecutive records fit into the room. -/
def fitCount : Nat → List Nat → Nat
  | _, [] => 0
  | room, size :: sizes => if size ≤ room then fitCount (room - size) sizes + 1 else 0

/-- The complete records are those in front of the first gap. -/
theorem wholeRecords_eq_fitCount (sizes : List Nat)
    (beyond : ∀ position, base + size ≤ position → seen position = false) :
    wholeRecords seen base sizes = fitCount (leading seen base size) sizes := by
  induction sizes generalizing base size with
  | nil => rfl
  | cons first sizes ih =>
    rw [wholeRecords, fitCount]
    by_cases fits : first ≤ leading seen base size
    · have inside : first ≤ size := Nat.le_trans fits (leading_le _ _ _)
      have whole : leading seen base first = first :=
        Nat.le_antisymm (leading_le _ _ _) ((le_leading_iff (Nat.le_refl first)).mpr
            ((le_leading_iff inside).mp fits))
      rw [if_pos whole, if_pos fits, ← leading_add fits]
      rw [@ih (base + first) (size - first) fun position behind => beyond position (by omega)]
    · have partly : leading seen base first ≠ first := by
        intro whole
        have all := (le_leading_iff (Nat.le_refl first)).mp (Nat.le_of_eq whole.symm)
        apply fits
        by_cases inside : first ≤ size
        · exact (le_leading_iff inside).mpr all
        · have unseen := beyond (base + size) (Nat.le_refl _)
          rw [all size (by omega)] at unseen
          cases unseen
      rw [if_neg partly, if_neg fits]

/-- Counting can start behind records that are complete. -/
theorem wholeRecords_split (known : count ≤ wholeRecords seen position sizes) :
    wholeRecords seen position sizes = count + wholeRecords seen (position + (sizes.take count).sum)
        (sizes.drop count) := by
  induction count generalizing position sizes with
  | zero => simp
  | succ count ih =>
    cases sizes with
    | nil =>
      rw [wholeRecords] at known
      omega
    | cons first sizes =>
      rw [wholeRecords] at known ⊢
      split at known
      case isTrue whole =>
        rw [if_pos whole, ih (by omega), take_succ_cons, sum_cons, drop_succ_cons,
          Nat.add_assoc position first]
        omega
      case isFalse => omega

/-- Every position of the complete records is known. -/
theorem wholeRecords_seen : ∀ index, index < (sizes.take (wholeRecords seen position sizes)).sum →
      seen (position + index) = true := by
  induction sizes generalizing position with
  | nil =>
    intro index small
    simp at small
  | cons first sizes ih =>
    intro index small
    rw [wholeRecords] at small
    split at small
    case isTrue whole =>
      rw [take_succ_cons, sum_cons] at small
      by_cases here : index < first
      · exact (le_leading_iff (Nat.le_refl first)).mp (Nat.le_of_eq whole.symm) index here
      · have later := @ih (position + first) (index - first) (by omega)
        rwa [Nat.add_assoc, Nat.add_sub_cancel' (by omega)] at later
    case isFalse => simp at small

theorem wholeRecords_mono (grows : ∀ position, seen position = true → more position = true)
    (position : Nat) (sizes : List Nat) :
    wholeRecords seen position sizes ≤ wholeRecords more position sizes := by
  induction sizes generalizing position with
  | nil => exact Nat.le_refl _
  | cons first sizes ih =>
    rw [wholeRecords]
    split
    case isTrue whole =>
      have all := (le_leading_iff (Nat.le_refl first)).mp (Nat.le_of_eq whole.symm)
      have wholeMore : leading more position first = first :=
        Nat.le_antisymm (leading_le _ _ _) ((le_leading_iff (Nat.le_refl first)).mpr
            fun index small => grows _ (all index small))
      rw [wholeRecords, if_pos wholeMore]
      exact Nat.succ_le_succ (ih _)
    case isFalse => exact Nat.zero_le _

theorem wholeRecords_all (all : ∀ index, index < sizes.sum → seen (position + index) = true) :
    wholeRecords seen position sizes = sizes.length := by
  induction sizes generalizing position with
  | nil => rfl
  | cons first sizes ih =>
    rw [sum_cons] at all
    have whole : leading seen position first = first :=
      Nat.le_antisymm (leading_le _ _ _) ((le_leading_iff (Nat.le_refl first)).mpr
          fun index small => all index (by omega))
    rw [wholeRecords, if_pos whole, length_cons, ih]
    intro index small
    have later := all (first + index) (by omega)
    rwa [← Nat.add_assoc] at later

end SeenWindow
