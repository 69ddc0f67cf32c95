import Mathlib.Tactic.Common

/-!
# Parts of a list at an offset

`Holds data offset part` says that `part` stands in `data` from `offset` on.
A layout that is written as a concatenation is read part by part, without
computing the offsets of the parts before it.
-/

namespace Layout

open List

variable {α : Type}

def Holds (data : List α) (offset : Nat) (part : List α) : Prop :=
  (data.drop offset).take part.length = part

/-- A concatenation stands at an offset when its parts stand one behind the
other. -/
theorem holds_append {data first second : List α} {offset : Nat} :
    Holds data offset (first ++ second) ↔ Holds data offset first ∧
        Holds data (offset + first.length) second := by
  unfold Holds
  rw [length_append, take_add, drop_drop]
  constructor
  · intro both
    have length : ((data.drop offset).take first.length).length = first.length := by
      have total := congrArg length both
      simp only [length_append, length_take, length_drop] at total ⊢
      omega
    exact append_inj both length
  · rintro ⟨front, back⟩
    rw [front, back]

theorem holds_nil : Holds data offset [] := by simp [Holds]

theorem holds_cons {data rest : List α} {first : α} {offset : Nat} :
    Holds data offset (first :: rest) ↔
      data[offset]? = some first ∧ Holds data (offset + 1) rest := by
  have single : Holds data offset [first] ↔ data[offset]? = some first := by simp [Holds, take_one]
  rw [← single]
  exact @holds_append _ data [first] rest offset

theorem holds_middle (front part back : List α) :
    Holds (front ++ (part ++ back)) front.length part := by
  simp [Holds]

variable {data : List α} {part : List α} {offset : Nat} (holds : Holds data offset part)

include holds

theorem Holds.length_le : part.length ≤ data.length - offset := by
  have length := congrArg length holds
  simp only [length_take, length_drop] at length
  omega

theorem Holds.getElem? (inside : index < part.length) : data[offset + index]? = part[index]? := by
  rw [← holds, getElem?_take, if_pos inside, getElem?_drop]

theorem Holds.whole (start : offset = 0) (length : data.length = part.length) : data = part := by
  subst start
  rwa [Holds, drop_zero, ← length, take_length] at holds

theorem Holds.trans (within : Holds part position chunk) :
    Holds data (offset + position) chunk := by
  have fits := within.length_le
  unfold Holds at *
  rw [← holds] at within
  rw [drop_take, take_take, drop_drop, Nat.min_eq_left fits] at within
  exact within

end Layout
