import Mathlib.Data.List.Forall2
import Mathlib.Tactic.Common

/-!
# Inverting fallible code

A `do` block over `Except` returns a value only when each of its steps does.
These rules turn such an equation into the list of its steps.
-/

namespace Outcome

variable {ε α β : Type} {first : Except ε α}

theorem bind_eq_ok :
    (first >>= next) = .ok value ↔ ∃ middle, first = .ok middle ∧ next middle = .ok value := by
  cases first with
  | error failure | ok middle => simp [bind, Except.bind]

theorem throw_bind (failure : ε) (next : α → Except ε β) :
    ((throw failure : Except ε α) >>= next) = .error failure := rfl

theorem ok_bind (value : α) (next : α → Except ε β) :
    ((Except.ok value : Except ε α) >>= next) = next value := rfl

theorem throw_eq_error (failure : ε) : (throw failure : Except ε α) = .error failure := rfl

theorem pure_eq_ok (value : α) : (pure value : Except ε α) = .ok value := rfl

/-- A check that fails with an error was passed when the block returned. -/
theorem guard_eq_ok {condition : Prop} [Decidable condition] {failure : ε} {rest : Except ε α} :
    (if condition then .error failure else rest) = .ok value ↔ ¬ condition ∧ rest = .ok value := by
  by_cases holds : condition <;> simp [holds]

theorem eq_ok_of_mem_toOption {outcome : Except ε α} (found : value ∈ outcome.toOption) :
    outcome = .ok value := by
  cases outcome with
  | error failure => cases found
  | ok other =>
    cases found
    rfl

/-- A block fails only with an error of one of its steps. -/
theorem bind_ne_error {next : α → Except ε β} {failure : ε} (firstSafe : first ≠ .error failure)
    (nextSafe : ∀ middle, next middle ≠ .error failure) : (first >>= next) ≠ .error failure := by
  cases first with
  | error other =>
    intro same
    exact firstSafe (congrArg Except.error (Except.error.inj same))
  | ok middle => exact nextSafe middle

theorem guard_ne_error {condition : Prop} [Decidable condition] {failure other : ε}
    {rest : Except ε α} (differs : other ≠ failure) (restSafe : rest ≠ .error failure) :
    (if condition then .error other else rest) ≠ .error failure := by
  split
  · exact fun same => differs (Except.error.inj same)
  · exact restSafe

theorem map_eq_ok :
    first.map convert = .ok value ↔ ∃ middle, first = .ok middle ∧ convert middle = value := by
  cases first with
  | error failure | ok middle => simp [Except.map]

/-- What a list of successful steps returned, element by element. -/
theorem mem_forall₂_ok_iff {step : α → Except ε β}
    (pairs : List.Forall₂ (fun input output => step input = .ok output) inputs outputs) :
    output ∈ outputs ↔ ∃ input ∈ inputs, step input = .ok output := by
  induction pairs with
  | nil => simp
  | cons headOk _ ih =>
    rw [List.mem_cons, ih]
    simp only [List.exists_mem_cons_iff, headOk, Except.ok.injEq]
    rw [eq_comm]

theorem exists_ok_of_mem {step : α → Except ε β}
    (pairs : List.Forall₂ (fun input output => step input = .ok output) inputs outputs)
    (member : input ∈ inputs) : ∃ output, step input = .ok output := by
  induction pairs with
  | nil => cases member
  | cons headOk _ ih =>
    rcases List.mem_cons.mp member with rfl | later
    · exact ⟨_, headOk⟩
    · exact ih later

theorem exists_forall₂_ok {step : α → Except ε β}
    (accepted : ∀ input ∈ inputs, ∃ output, step input = .ok output) :
    ∃ outputs, List.Forall₂ (fun input output => step input = .ok output) inputs outputs := by
  induction inputs with
  | nil => exact ⟨[], .nil⟩
  | cons input rest ih =>
    obtain ⟨output, outputOk⟩ := accepted input List.mem_cons_self
    obtain ⟨others, pairs⟩ := ih fun other member => accepted other (List.mem_cons_of_mem _ member)
    exact ⟨output :: others, .cons outputOk pairs⟩

end Outcome
