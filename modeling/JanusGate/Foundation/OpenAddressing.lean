import Mathlib.Tactic.Common
import Mathlib.Data.List.Basic

/-!
# Open addressing with linear probing

A table is a list of optional slots.  A slot is stored in the first free cell
from its home position on, cyclically, and a lookup stops at the first match
or at the first free cell.  Nothing is assumed about the home positions:
every collision pattern is covered.
-/

namespace OpenAddressing

open List

variable {σ : Type}

/-- The cell that a probe reaches after some steps. -/
def cell (capacity home steps : Nat) : Nat := (home + steps) % capacity

def contents (table : List (Option σ)) (index : Nat) : Option σ := table.getD index none

def probeFree (table : List (Option σ)) : Nat → Nat → Nat
  | 0, index => index
  | fuel + 1, index =>
    if (contents table index).isSome then probeFree table fuel ((index + 1) % table.length)
    else index

/-- Store a slot in the first free cell from its home position on. -/
def insert (home : σ → Nat) (table : List (Option σ)) (slot : σ) : List (Option σ) :=
  table.set (probeFree table table.length (home slot % table.length)) (some slot)

/-- First match at or after an index, before any free cell. -/
def lookup (wanted : σ → Bool) (table : List (Option σ)) : Nat → Nat → Option σ
  | 0, _ => none
  | fuel + 1, index =>
    match contents table index with
    | none => none
    | some slot =>
      if wanted slot then some slot
      else lookup wanted table fuel ((index + 1) % table.length)

theorem cell_succ (capacity home steps : Nat) :
    (cell capacity home steps + 1) % capacity = cell capacity home (steps + 1) := by
  unfold cell
  rw [Nat.mod_add_mod, Nat.add_assoc]

variable {table : List (Option σ)}

theorem exists_steps (home : Nat) (inside : index < capacity) :
    ∃ steps < capacity, cell capacity home steps = index := by
  have positive : 0 < capacity := by omega
  have homeInside := Nat.mod_lt home positive
  refine ⟨(index + (capacity - home % capacity)) % capacity, Nat.mod_lt _ positive, ?_⟩
  unfold cell
  rw [Nat.add_mod_mod, ← Nat.mod_add_mod]
  have regrouped : home % capacity + (index + (capacity - home % capacity)) =
      index + capacity := by omega
  rw [regrouped, Nat.add_mod_right, Nat.mod_eq_of_lt inside]

/-- The cells before some steps of a probe are all taken. -/
def TakenBefore (table : List (Option σ)) (home steps : Nat) : Prop :=
  ∀ earlier < steps, (contents table (cell table.length home earlier)).isSome = true

theorem probeFree_spec (isFree : contents table (cell table.length home free) = none) :
    ∀ fuel start, start ≤ free → free < start + fuel → TakenBefore table home start →
        ∃ steps, start ≤ steps ∧ steps < start + fuel ∧
          probeFree table fuel (cell table.length home start) = cell table.length home steps ∧
          contents table (cell table.length home steps) = none ∧
          TakenBefore table home steps := by
  intro fuel
  induction fuel with
  | zero => omega
  | succ fuel ih =>
    intro start later near taken
    unfold probeFree
    cases here : contents table (cell table.length home start) with
    | none =>
      refine ⟨start, Nat.le_refl _, by omega, ?_, here, taken⟩
      simp
    | some slot =>
      have different : start ≠ free := by
        rintro rfl
        rw [isFree] at here
        cases here
      have takenNext : TakenBefore table home (start + 1) := by
        intro earlier before
        rcases Nat.lt_succ_iff_lt_or_eq.mp before with less | rfl
        · exact taken earlier less
        · rw [here]
          rfl
      obtain ⟨steps, lower, upper, reached, empty, takenSteps⟩ :=
        ih (start + 1) (by omega) (by omega) takenNext
      refine ⟨steps, by omega, by omega, ?_, empty, takenSteps⟩
      simpa [cell_succ] using reached

/-- Every stored slot is found by probing from its home position. -/
def Reachable (home : σ → Nat) (table : List (Option σ)) : Prop :=
  ∀ slot, some slot ∈ table → ∃ steps < table.length,
      contents table (cell table.length (home slot) steps) = some slot ∧
        TakenBefore table (home slot) steps

theorem contents_of_lt (inside : index < table.length) : contents table index = table[index] := by
  unfold contents
  rw [getD_eq_getElem?_getD, getElem?_eq_getElem inside]
  rfl

theorem exists_free (free : none ∈ table) (home : Nat) :
    ∃ steps < table.length, contents table (cell table.length home steps) = none := by
  obtain ⟨index, inside, empty⟩ := mem_iff_getElem.mp free
  obtain ⟨steps, few, reached⟩ := exists_steps home inside
  refine ⟨steps, few, ?_⟩
  rw [reached, contents_of_lt inside, empty]

theorem insert_spec (free : none ∈ table) (slot : σ) : ∃ steps < table.length,
      insert home table slot = table.set (cell table.length (home slot) steps) (some slot) ∧
      contents table (cell table.length (home slot) steps) = none ∧
      TakenBefore table (home slot) steps := by
  obtain ⟨position, few, empty⟩ := exists_free free (home slot)
  have none_taken : TakenBefore table (home slot) 0 := by
    intro earlier before
    omega
  obtain ⟨steps, _, upper, reached, emptyHere, taken⟩ :=
    probeFree_spec empty table.length 0 (by omega) (by omega) none_taken
  refine ⟨steps, by omega, ?_, emptyHere, taken⟩
  rw [← reached]
  rfl

theorem contents_set (inside : index < table.length) :
    contents (table.set index value) other =
      if index = other then value else contents table other := by
  unfold contents
  simp only [getD_eq_getElem?_getD, getElem?_set, inside, if_true]
  split <;> rfl

theorem length_insert (home : σ → Nat) (table : List (Option σ)) (slot : σ) :
    (insert home table slot).length = table.length := by
  exact length_set

theorem Reachable.insert (reachable : Reachable home table) (free : none ∈ table) (slot : σ) :
    Reachable home (insert home table slot) := by
  obtain ⟨steps, few, made, empty, taken⟩ := insert_spec free slot
  have positive : 0 < table.length := by omega
  have inside : ∀ base offset, cell table.length base offset < table.length :=
    fun base offset => Nat.mod_lt _ positive
  have kept : ∀ base count, TakenBefore table base count →
      TakenBefore (OpenAddressing.insert home table slot) base count := by
    intro base count takenBase earlier before
    rw [length_insert, made, contents_set (inside _ _)]
    split
    · rfl
    · exact takenBase earlier before
  intro stored member
  rw [length_insert]
  rcases mem_or_eq_of_mem_set member with old | new
  · obtain ⟨distance, near, held, takenOld⟩ := reachable stored old
    refine ⟨distance, near, ?_, kept _ _ takenOld⟩
    rw [made, contents_set (inside _ _), if_neg, held]
    intro same
    rw [same, held] at empty
    cases empty
  · cases new
    refine ⟨steps, few, ?_, kept _ _ taken⟩
    rw [made, contents_set (inside _ _), if_pos rfl]

theorem mem_insert (free : none ∈ table) (slot other : σ) :
    some other ∈ insert home table slot ↔ other = slot ∨ some other ∈ table := by
  obtain ⟨steps, few, made, empty, _⟩ := insert_spec free slot
  have positive : 0 < table.length := by omega
  have inside : cell table.length (home slot) steps < table.length := Nat.mod_lt _ positive
  rw [made]
  constructor
  · intro member
    rcases mem_or_eq_of_mem_set member with old | new
    · exact .inr old
    · exact .inl (Option.some.inj new)
  · rintro (rfl | old)
    · exact mem_iff_getElem.mpr ⟨_, by simpa using inside, getElem_set_self _⟩
    obtain ⟨index, bound, held⟩ := mem_iff_getElem.mp old
    rw [mem_iff_getElem]
    refine ⟨index, by simpa using bound, ?_⟩
    rw [getElem_set, if_neg, held]
    rintro same
    rw [same, contents_of_lt bound, held] at empty
    cases empty

/-! ## Filling a table -/

def taken (table : List (Option σ)) : Nat := table.countP Option.isSome

theorem free_of_taken_lt (room : taken table < table.length) : none ∈ table := by
  by_contra full
  have every : ∀ entry ∈ table, entry.isSome = true := by
    intro entry member
    cases entry with
    | none => exact absurd member full
    | some slot => rfl
  have all : taken table = table.length := countP_eq_length.mpr every
  omega

theorem taken_insert {table : List (Option σ)} (free : none ∈ table) (slot : σ) :
    taken (insert home table slot) ≤ taken table + 1 := by
  obtain ⟨steps, few, made, _, _⟩ := insert_spec free slot
  have positive : 0 < table.length := by omega
  have inside : cell table.length (home slot) steps < table.length := Nat.mod_lt _ positive
  rw [made]
  unfold taken
  rw [countP_set inside]
  simp

theorem insertAll_spec {slots : List σ} :
    ∀ {table : List (Option σ)}, Reachable home table → taken table + slots.length ≤ table.length →
        Reachable home (slots.foldl (insert home) table) ∧
          (∀ slot, some slot ∈ slots.foldl (insert home) table ↔ slot ∈ slots ∨ some slot ∈ table) ∧
          (slots.foldl (insert home) table).length = table.length := by
  induction slots with
  | nil =>
    intro table reachable _
    exact ⟨reachable, by simp, rfl⟩
  | cons first rest ih =>
    intro table reachable room
    rw [length_cons] at room
    have free := free_of_taken_lt (by omega : taken table < table.length)
    have count := @taken_insert _ home _ free first
    obtain ⟨reachableAll, members, sameLength⟩ :=
      ih (reachable.insert free first) (by rw [length_insert]; omega)
    refine ⟨reachableAll, ?_, by rw [foldl_cons, sameLength, length_insert]⟩
    intro slot
    rw [foldl_cons, members, mem_insert free, mem_cons]
    tauto

/-- A fresh table filled with fewer slots than cells. -/
theorem fill_spec (home : σ → Nat) {slots : List σ} (room : slots.length ≤ capacity) :
    Reachable home (slots.foldl (insert home) (replicate capacity none)) ∧
      (∀ slot, some slot ∈ slots.foldl (insert home)
        (replicate capacity none) ↔ slot ∈ slots) ∧
      (slots.foldl (insert home) (replicate capacity none)).length = capacity := by
  have emptyReachable : Reachable home (replicate capacity none) := by
    intro slot member
    rw [mem_replicate] at member
    cases member.2
  have noneTaken : taken (replicate capacity (none : Option σ)) = 0 := by
    unfold taken
    rw [countP_replicate]
    rfl
  have filled := @insertAll_spec _ home slots _ emptyReachable
    (by rw [noneTaken, length_replicate]; omega)
  simpa using filled

/-! ## Looking up -/

theorem mem_of_contents (held : contents table index = some slot) : some slot ∈ table := by
  unfold contents at held
  rw [getD_eq_getElem?_getD] at held
  cases found : table[index]? with
  | none => rw [found] at held; cases held
  | some entry =>
    rw [found] at held
    cases held
    exact mem_of_getElem? found

/-- A lookup from the home position finds the only match. -/
theorem lookup_eq_some (reachable : Reachable home table)
    (stored : some slot ∈ table) (isWanted : wanted slot = true)
    (unique : ∀ other, some other ∈ table → wanted other = true → other = slot) :
    lookup wanted table table.length (home slot % table.length) = some slot := by
  obtain ⟨steps, few, held, takenBefore⟩ := reachable slot stored
  have reached : ∀ fuel start, start ≤ steps → steps < start + fuel →
      lookup wanted table fuel (cell table.length (home slot) start) = some slot := by
    intro fuel
    induction fuel with
    | zero => omega
    | succ fuel ih =>
      intro start later near
      unfold lookup
      rcases Nat.lt_or_eq_of_le later with before | rfl
      · have occupied := takenBefore start before
        cases here : contents table (cell table.length (home slot) start) with
        | none => rw [here] at occupied; cases occupied
        | some other =>
          dsimp only
          cases matched : wanted other with
          | true =>
            rw [unique other (mem_of_contents here) matched]
            simp
          | false =>
            rw [cell_succ]
            simpa using ih (start + 1) (by omega) (by omega)
      · rw [held]
        simp [isWanted]
  exact reached table.length 0 (by omega) (by omega)

theorem lookup_eq_none (unwanted : ∀ other, some other ∈ table → wanted other = false) :
    ∀ fuel index, lookup wanted table fuel index = none := by
  intro fuel
  induction fuel with
  | zero => exact fun _ => rfl
  | succ fuel ih =>
    intro index
    unfold lookup
    cases here : contents table index with
    | none => rfl
    | some other => simp [unwanted other (mem_of_contents here), ih]

end OpenAddressing
