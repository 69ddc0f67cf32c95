import Mathlib.Algebra.Group.Nat.Defs
import Mathlib.Algebra.GroupWithZero.Nat
import Mathlib.Data.List.Basic
import Mathlib.Tactic.Common

/-!
# Ordered interval lists

Half-open intervals kept in ascending order without overlap.  `lo` and `size`
read the bounds of an item, so that the rules apply to any record that has
them.  The main rule says that walking such a list from a cursor succeeds as
soon as the intervals cover the range.
-/

namespace Cover

open List

variable {ι : Type} (lo size : ι → Nat)

def Ordered (items : List ι) : Prop :=
  items.Pairwise fun left right => lo left + size left ≤ lo right

def Contains (items : List ι) (position : Nat) : Prop :=
  ∃ item ∈ items, lo item ≤ position ∧ position < lo item + size item

def walk : Nat → List ι → Option Nat
  | cursor, [] => some cursor
  | cursor, item :: items => if lo item ≠ cursor then none else walk (cursor + size item) items

/-- Insert an item in front of the first one that starts after it. -/
def insert (item : ι) : List ι → List ι
  | [] => [item]
  | head :: rest => if lo head > lo item then item :: head :: rest else head :: insert item rest

variable {lo size}

theorem mem_insert : other ∈ insert lo item items ↔ other = item ∨ other ∈ items := by
  induction items with
  | nil => simp [insert]
  | cons head rest ih =>
    unfold insert
    split
    · simp
    · simp only [mem_cons, ih]
      tauto

theorem Ordered.insert (ordered : Ordered lo size items)
    (apart : ∀ other ∈ items, lo item + size item ≤ lo other ∨ lo other + size other ≤ lo item)
    (positive : 0 < size item) : Ordered lo size (insert lo item items) := by
  induction items with
  | nil => simp [Cover.insert, Ordered]
  | cons head rest ih =>
    obtain ⟨headBefore, restOrdered⟩ := pairwise_cons.mp ordered
    have headApart := apart head (by simp)
    have restApart : ∀ other ∈ rest, lo item + size item ≤ lo other ∨
          lo other + size other ≤ lo item :=
      fun other member => apart other (by simp [member])
    unfold Cover.insert
    split
    case isTrue later =>
      have itemBeforeHead : lo item + size item ≤ lo head := by omega
      refine pairwise_cons.mpr ⟨?_, ordered⟩
      intro other member
      rcases mem_cons.mp member with rfl | inRest
      · exact itemBeforeHead
      · have := headBefore other inRest
        omega
    case isFalse notLater =>
      have headBeforeItem : lo head + size head ≤ lo item := by omega
      refine pairwise_cons.mpr ⟨?_, ih restOrdered restApart⟩
      intro other member
      rcases mem_insert.mp member with rfl | inRest
      · exact headBeforeItem
      · exact headBefore other inRest

theorem length_insert (item : ι) (items : List ι) :
    (insert lo item items).length = items.length + 1 := by
  induction items with
  | nil => rfl
  | cons head rest ih =>
    unfold insert
    split
    · rfl
    · simp [ih]

/-- Disjoint intervals of a range are together no longer than the range. -/
theorem Ordered.total_le (ordered : Ordered lo size items) (bounded : cursor ≤ finish)
    (inside : ∀ item ∈ items, cursor ≤ lo item ∧ lo item + size item ≤ finish) :
    cursor + (items.map size).sum ≤ finish := by
  induction items generalizing cursor with
  | nil => simpa using bounded
  | cons head rest ih =>
    obtain ⟨headBefore, restOrdered⟩ := pairwise_cons.mp ordered
    obtain ⟨headStart, headEnd⟩ := inside head (by simp)
    have restInside : ∀ item ∈ rest, lo head + size head ≤ lo item ∧ lo item + size item ≤ finish :=
      fun item member => ⟨headBefore item member, (inside item (by simp [member])).2⟩
    have restTotal := ih restOrdered headEnd restInside
    simp only [map_cons, sum_cons]
    omega

/-- The walk reaches `finish` over ordered nonempty intervals that cover the
range and stay inside it. -/
theorem walk_of_contains (ordered : Ordered lo size items)
    (positive : ∀ item ∈ items, 0 < size item)
    (inside : ∀ item ∈ items, cursor ≤ lo item ∧ lo item + size item ≤ finish)
    (bounded : cursor ≤ finish)
    (covers : ∀ position, cursor ≤ position → position < finish → Contains lo size items position) :
    walk lo size cursor items = some finish := by
  induction items generalizing cursor with
  | nil =>
    have : cursor = finish := by
      by_contra different
      obtain ⟨_, member, _⟩ := covers cursor (Nat.le_refl _) (by omega)
      simp at member
    simp [walk, this]
  | cons head rest ih =>
    obtain ⟨headBefore, restOrdered⟩ := pairwise_cons.mp ordered
    have headInside := inside head (by simp)
    have headPositive := positive head (by simp)
    -- The position of the cursor can only be covered by the head, since
    -- every later interval starts after it.
    have starts : lo head = cursor := by
      obtain ⟨item, member, low, _⟩ := covers cursor (Nat.le_refl _) (by omega)
      rcases mem_cons.mp member with rfl | inRest
      · omega
      · have := headBefore item inRest
        omega
    have restInside : ∀ item ∈ rest,
        cursor + size head ≤ lo item ∧ lo item + size item ≤ finish := by
      intro item member
      have before := headBefore item member
      have := inside item (by simp [member])
      omega
    have restCovers : ∀ position, cursor + size head ≤ position →
        position < finish → Contains lo size rest position := by
      intro position low high
      obtain ⟨item, member, itemLow, itemHigh⟩ := covers position (by omega) high
      rcases mem_cons.mp member with rfl | inRest
      · omega
      · exact ⟨item, inRest, itemLow, itemHigh⟩
    simp only [walk, starts, ne_eq, not_true_eq_false, if_false]
    exact ih restOrdered (fun item member => positive item (by simp [member]))
      restInside (by omega) restCovers

theorem contains_of_walk (walked : walk lo size cursor items = some finish) :
    ∀ position, cursor ≤ position → position < finish → Contains lo size items position := by
  induction items generalizing cursor with
  | nil =>
    simp only [walk, Option.some.injEq] at walked
    omega
  | cons head rest ih =>
    intro position low high
    by_cases starts : lo head = cursor
    · simp only [walk, starts, ne_eq, not_true_eq_false, if_false] at walked
      by_cases inHead : position < cursor + size head
      · exact ⟨head, by simp, by omega, by omega⟩
      · obtain ⟨item, member, bounds⟩ := ih walked position (by omega) high
        exact ⟨item, by simp [member], bounds⟩
    · simp [walk, starts] at walked

theorem ordered_of_walk (walked : walk lo size cursor items = some finish) :
    Ordered lo size items ∧ cursor ≤ finish ∧
      ∀ item ∈ items, cursor ≤ lo item ∧ lo item + size item ≤ finish := by
  induction items generalizing cursor with
  | nil =>
    simp only [walk, Option.some.injEq] at walked
    exact ⟨List.Pairwise.nil, Nat.le_of_eq walked, by simp⟩
  | cons head rest ih =>
    by_cases starts : lo head = cursor
    · simp only [walk, starts, ne_eq, not_true_eq_false, if_false] at walked
      obtain ⟨restOrdered, bounded, restInside⟩ := ih walked
      refine ⟨pairwise_cons.mpr ⟨?_, restOrdered⟩, by omega, ?_⟩
      · intro item member
        rw [starts]
        exact (restInside item member).1
      intro item member
      rcases mem_cons.mp member with rfl | inRest
      · omega
      · have := restInside item inRest
        omega
    · simp [walk, starts] at walked

theorem Ordered.apart_or_eq (ordered : Ordered lo size items) (leftMember : left ∈ items)
    (rightMember : right ∈ items) :
    left = right ∨ lo left + size left ≤ lo right ∨ lo right + size right ≤ lo left := by
  induction items with
  | nil => cases leftMember
  | cons head rest ih =>
    obtain ⟨headBefore, restOrdered⟩ := pairwise_cons.mp ordered
    rcases mem_cons.mp leftMember with rfl | leftRest <;>
      rcases mem_cons.mp rightMember with rfl | rightRest
    · exact .inl rfl
    · exact .inr (.inl (headBefore right rightRest))
    · exact .inr (.inr (headBefore left leftRest))
    · exact ih restOrdered leftRest rightRest

theorem Ordered.nodup (ordered : Ordered lo size items) (positive : ∀ item ∈ items, 0 < size item) :
    items.Nodup := by
  induction items with
  | nil => exact nodup_nil
  | cons head rest ih =>
    obtain ⟨headBefore, restOrdered⟩ := pairwise_cons.mp ordered
    refine nodup_cons.mpr ⟨?_, ih restOrdered (fun item member => positive item (by simp [member]))⟩
    intro again
    have before := headBefore head again
    have nonempty := positive head (by simp)
    omega

end Cover
