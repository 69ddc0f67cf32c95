import Mathlib.Data.List.Basic
import Mathlib.Tactic.Common

/-!
# Fixed tables of keyed slots

A bounded table is a list of optional entries: `none` is a free slot, and an
operation addresses a slot by its index.  `Unique` says that no key occupies
two slots; it is what makes a first-match search determine the entry of a key.
-/

namespace SlotTable

open List

variable {ε κ : Type}

def At (slots : List (Option ε)) (index : Nat) (entry : ε) : Prop :=
  slots[index]? = some (some entry)

def find (test : ε → Bool) : List (Option ε) → Option (Nat × ε)
  | [] => none
  | none :: slots => (find test slots).map fun found => (found.1 + 1, found.2)
  | some entry :: slots =>
    if test entry then some (0, entry)
    else (find test slots).map fun found => (found.1 + 1, found.2)

def freeIndex : List (Option ε) → Option Nat
  | [] => none
  | none :: _ => some 0
  | some _ :: slots => (freeIndex slots).map (· + 1)

def count (test : ε → Bool) : List (Option ε) → Nat
  | [] => 0
  | none :: slots => count test slots
  | some entry :: slots => (if test entry then 1 else 0) + count test slots

def expire (expired : ε → Bool) (slots : List (Option ε)) : List (Option ε) :=
  slots.map fun slot => slot.filter fun entry => !expired entry

def Unique (keyOf : ε → κ) (slots : List (Option ε)) : Prop :=
  ∀ left right first second, At slots left first → At slots right second →
      keyOf first = keyOf second → left = right

section Search

variable {slots : List (Option ε)} {index : Nat} {entry : ε}

theorem at_cons_succ : At (slot :: slots) (index + 1) entry ↔ At slots index entry := by
  simp [At]

theorem at_cons_zero : At (slot :: slots) 0 entry ↔ slot = some entry := by
  simp [At]

theorem At.lt_length (holds : At slots index entry) : index < slots.length := by
  obtain ⟨bound, _⟩ := List.getElem?_eq_some_iff.mp holds
  exact bound

theorem At.mem (holds : At slots index entry) : some entry ∈ slots := mem_of_getElem? holds

theorem At.functional (holdsFirst : At slots index first) (holdsSecond : At slots index second) :
    first = second := by
  have same := holdsFirst.symm.trans holdsSecond
  simpa using same

theorem find_at (found : find test slots = some (index, entry)) :
    At slots index entry ∧ test entry = true := by
  induction slots generalizing index with
  | nil => simp [find] at found
  | cons slot rest ih =>
    have later : (find test rest).map (fun found => (found.1 + 1, found.2)) = some (index, entry) →
          At (slot :: rest) index entry ∧ test entry = true := by
      intro shifted
      obtain ⟨⟨previous, held⟩, foundRest, same⟩ := Option.map_eq_some_iff.mp shifted
      obtain ⟨rfl, rfl⟩ := Prod.mk.inj same
      obtain ⟨holds, passes⟩ := ih foundRest
      exact ⟨at_cons_succ.mpr holds, passes⟩
    cases slot with
    | none => exact later found
    | some head =>
      by_cases passes : test head = true
      · simp only [find, passes, if_true, Option.some.injEq, Prod.mk.injEq] at found
        obtain ⟨rfl, rfl⟩ := found
        exact ⟨at_cons_zero.mpr rfl, passes⟩
      · simp only [find, passes] at found
        exact later found

theorem find_none (missing : find test slots = none) (holds : At slots index entry) :
    test entry = false := by
  induction slots generalizing index with
  | nil => simp [At] at holds
  | cons slot rest ih =>
    cases slot with
    | none =>
      simp only [find, Option.map_eq_none_iff] at missing
      cases index with
      | zero => simp [At] at holds
      | succ previous => exact ih missing (at_cons_succ.mp holds)
    | some head =>
      by_cases passes : test head = true
      · simp [find, passes] at missing
      simp only [find, passes, Bool.false_eq_true, if_false, Option.map_eq_none_iff] at missing
      cases index with
      | zero =>
        obtain rfl : head = entry := by simpa using at_cons_zero.mp holds
        simpa using passes
      | succ previous => exact ih missing (at_cons_succ.mp holds)

theorem freeIndex_spec (free : freeIndex slots = some index) : slots[index]? = some none := by
  induction slots generalizing index with
  | nil => simp [freeIndex] at free
  | cons slot rest ih =>
    cases slot with
    | none =>
      obtain rfl : 0 = index := by simpa [freeIndex] using free
      simp
    | some head =>
      obtain ⟨previous, freeRest, rfl⟩ := Option.map_eq_some_iff.mp free
      simpa using ih freeRest

theorem freeIndex_of_free (free : slots[index]? = some none) :
    ∃ found, freeIndex slots = some found := by
  induction slots generalizing index with
  | nil => simp at free
  | cons slot rest ih =>
    cases slot with
    | none => exact ⟨0, rfl⟩
    | some head =>
      cases index with
      | zero => simp at free
      | succ previous =>
        obtain ⟨found, freeRest⟩ := ih (by simpa using free)
        exact ⟨found + 1, by simp [freeIndex, freeRest]⟩

end Search

variable {entry : ε}

section Update

variable {slots : List (Option ε)} {index : Nat}

theorem at_set_iff (inside : position < slots.length) :
    At (slots.set position value) index entry ↔ (index = position ∧ value = some entry) ∨
        (index ≠ position ∧ At slots index entry) := by
  unfold At
  by_cases same : position = index
  · subst same
    simp [inside]
  · have different : index ≠ position := fun equal => same equal.symm
    simp [same, different]

/-- What every entry satisfies also holds after a write of one that does. -/
theorem forall_at_set {P : ε → Prop} (every : ∀ index entry, At slots index entry → P entry)
    (written : ∀ entry, value = some entry → P entry) :
    ∀ index entry, At (slots.set position value) index entry → P entry := by
  intro index entry holds
  rcases mem_or_eq_of_mem_set holds.mem with old | new
  · obtain ⟨other, there⟩ := getElem?_of_mem old
    exact every other entry there
  · exact written entry new.symm

theorem at_expire_iff :
    At (expire expired slots) index entry ↔ At slots index entry ∧ expired entry = false := by
  unfold At expire
  rw [getElem?_map]
  cases slots[index]? with
  | none => simp
  | some slot =>
    cases slot with
    | none => simp
    | some held =>
      by_cases gone : expired held = true
      · simp only [Option.map_some, Option.some.injEq]
        constructor
        · intro kept
          simp [Option.filter, gone] at kept
        · rintro ⟨rfl, alive⟩
          simp [gone] at alive
      · simp only [Option.map_some, Option.some.injEq]
        constructor
        · intro kept
          obtain rfl : held = entry := by simpa [Option.filter, gone] using kept
          exact ⟨rfl, by simpa using gone⟩
        · rintro ⟨rfl, _⟩
          simp [gone]

variable (expired : ε → Bool)

@[simp]
theorem expire_length (slots : List (Option ε)) : (expire expired slots).length = slots.length := by
  simp [expire]

def weight (test : ε → Bool) : Option ε → Nat
  | none => 0
  | some entry => if test entry then 1 else 0

theorem count_set (test : ε → Bool) (value : Option ε) (holds : slots[index]? = some old) :
    count test (slots.set index value) + weight test old =
      count test slots + weight test value := by
  induction slots generalizing index with
  | nil => simp at holds
  | cons slot rest ih =>
    cases index with
    | zero =>
      obtain rfl : slot = old := by simpa using holds
      cases slot <;> cases value <;> simp only [set_cons_zero, count, weight] <;> omega
    | succ previous =>
      have restCount := ih (by simpa using holds)
      cases slot <;> simp only [set_cons_succ, count] <;> omega

theorem count_expire_le (test expired : ε → Bool) (slots : List (Option ε)) :
    count test (expire expired slots) ≤ count test slots := by
  induction slots with
  | nil => exact Nat.le_refl 0
  | cons slot rest ih =>
    cases slot with
    | none => exact ih
    | some entry =>
      by_cases gone : expired entry = true
      · have dropped : expire expired (some entry :: rest) = none :: expire expired rest := by
          simp [expire, Option.filter, gone]
        rw [dropped]
        simp only [count]
        omega
      · have kept : expire expired (some entry :: rest) = some entry :: expire expired rest := by
          simp [expire, Option.filter, gone]
        rw [kept]
        simp only [count]
        omega

theorem expire_expire (slots : List (Option ε)) :
    expire expired (expire expired slots) = expire expired slots := by
  unfold expire
  rw [map_map]
  apply map_congr_left
  intro slot _
  cases slot with
  | none => rfl
  | some entry => by_cases gone : expired entry = true <;> simp [Option.filter, gone]

theorem expire_set_none (slots : List (Option ε)) (index : Nat) :
    expire expired (slots.set index none) = (expire expired slots).set index none := by
  simp [expire]

theorem count_replicate (test : ε → Bool) (capacity : Nat) :
    count test (replicate capacity none) = 0 := by
  induction capacity with
  | zero => rfl
  | succ smaller ih => simpa [replicate_succ, count] using ih

end Update

section Keys

variable {keyOf : ε → κ}

theorem not_at_replicate :
    ¬ At (replicate capacity none) index entry := by
  simp [At, getElem?_replicate]

theorem unique_replicate (capacity : Nat) :
    Unique keyOf (replicate capacity (none : Option ε)) := by
  intro left right first second holdsFirst _ _
  simp [At, getElem?_replicate] at holdsFirst

variable {slots : List (Option ε)} (unique : Unique keyOf slots)

include unique

theorem Unique.expire (expired : ε → Bool) :
    Unique keyOf (expire expired slots) := by
  intro left right first second holdsFirst holdsSecond sameKey
  exact unique left right first second
    (at_expire_iff.mp holdsFirst).1 (at_expire_iff.mp holdsSecond).1 sameKey

theorem Unique.clear (inside : position < slots.length) :
    Unique keyOf (slots.set position none) := by
  intro left right first second holdsFirst holdsSecond sameKey
  rcases (at_set_iff inside).mp holdsFirst with ⟨_, impossible⟩ | ⟨_, oldFirst⟩
  · cases impossible
  rcases (at_set_iff inside).mp holdsSecond with ⟨_, impossible⟩ | ⟨_, oldSecond⟩
  · cases impossible
  exact unique left right first second oldFirst oldSecond sameKey

theorem Unique.write (inside : position < slots.length)
    (alone : ∀ index other, At slots index other → keyOf other = keyOf entry → index = position) :
    Unique keyOf (slots.set position (some entry)) := by
  intro left right first second holdsFirst holdsSecond sameKey
  rcases (at_set_iff inside).mp holdsFirst with
    ⟨leftPosition, sameFirst⟩ | ⟨leftOther, oldFirst⟩ <;>
  rcases (at_set_iff inside).mp holdsSecond with
    ⟨rightPosition, sameSecond⟩ | ⟨rightOther, oldSecond⟩
  · exact leftPosition.trans rightPosition.symm
  · obtain rfl : entry = first := by simpa using sameFirst
    exact absurd (alone right second oldSecond sameKey.symm) rightOther
  · obtain rfl : entry = second := by simpa using sameSecond
    exact absurd (alone left first oldFirst sameKey) leftOther
  · exact unique left right first second oldFirst oldSecond sameKey

/-- Under unique keys a search by key returns the slot of that key. -/
theorem Unique.find_eq [DecidableEq κ] (holds : At slots index entry) :
    find (fun other => decide (keyOf other = keyOf entry)) slots = some (index, entry) := by
  cases searched : find (fun other => decide (keyOf other = keyOf entry)) slots with
  | none =>
    have differs := find_none searched holds
    simp at differs
  | some found =>
    obtain ⟨position, held⟩ := found
    obtain ⟨holdsFound, passes⟩ := find_at searched
    have sameKey : keyOf held = keyOf entry := by simpa using passes
    obtain rfl := unique position index held entry holdsFound holds sameKey
    obtain rfl := holdsFound.functional holds
    rfl

end Keys

section Relabel

def relabel (change : ε → ε) (slots : List (Option ε)) : List (Option ε) :=
  slots.map (Option.map change)

theorem relabel_replicate (capacity : Nat) :
    relabel change (replicate capacity none) = replicate capacity none := by
  simp [relabel]

theorem relabel_set (slots : List (Option ε)) (index : Nat) (slot : Option ε) :
    relabel change (slots.set index slot) = (relabel change slots).set index (slot.map change) := by
  simp [relabel]

theorem find_relabel (blind : ∀ entry, test (change entry) = test entry) (slots : List (Option ε)) :
    find test (relabel change slots) =
      (find test slots).map fun found => (found.1, change found.2) := by
  induction slots with
  | nil => rfl
  | cons slot rest ih =>
    unfold relabel at ih
    cases slot with
    | none =>
      simp only [relabel, map_cons, Option.map_none, find, ih, Option.map_map]
      rfl
    | some entry =>
      simp only [relabel, map_cons, Option.map_some, find, blind, ih]
      split
      · rfl
      · simp only [Option.map_map]
        rfl

theorem freeIndex_relabel (slots : List (Option ε)) :
    freeIndex (relabel change slots) = freeIndex slots := by
  induction slots with
  | nil => rfl
  | cons slot rest ih =>
    unfold relabel at ih
    cases slot with
    | none => rfl
    | some entry => simp only [relabel, map_cons, Option.map_some, freeIndex, ih]

theorem count_relabel (blind : ∀ entry, test (change entry) = test entry)
    (slots : List (Option ε)) :
    count test (relabel change slots) = count test slots := by
  induction slots with
  | nil => rfl
  | cons slot rest ih =>
    unfold relabel at ih
    cases slot with
    | none => simp only [relabel, map_cons, Option.map_none, count, ih]
    | some entry => simp only [relabel, map_cons, Option.map_some, count, blind, ih]

theorem expire_relabel {expired : ε → Bool}
    (blind : ∀ entry, expired (change entry) = expired entry) (slots : List (Option ε)) :
    expire expired (relabel change slots) = relabel change (expire expired slots) := by
  unfold expire relabel
  rw [map_map, map_map]
  apply map_congr_left
  intro slot _
  cases slot with
  | none => rfl
  | some entry =>
    simp only [Function.comp_apply, Option.map_some, Option.filter, blind]
    split <;> rfl

end Relabel

end SlotTable
