import Mathlib.Tactic.Common

/-!
# Runs of a step function

A run records every step together with the states around it.  The invariant
rule carries a predicate on the steps made so far and the current state, so
that facts about the past of a run are ordinary invariants.
-/

namespace Runs

open List

variable {σ ι α : Type}

structure Event (σ ι α : Type) where
  before : σ
  input : ι
  answer : α
  after : σ

def eventOf (step : σ → ι → σ × α) (state : σ) (input : ι) : Event σ ι α where
  before := state
  input := input
  answer := (step state input).2
  after := (step state input).1

def run (step : σ → ι → σ × α) : σ → List ι → List (Event σ ι α)
  | _, [] => []
  | state, input :: inputs => eventOf step state input :: run step (step state input).1 inputs

/-- Every step of a run meets a condition on its past, the state before it
and its input. -/
def Meets (condition : List (Event σ ι α) → σ → ι → Prop) (events : List (Event σ ι α)) : Prop :=
  ∀ past event future, events = past ++ event :: future → condition past event.before event.input

variable {condition : List (Event σ ι α) → σ → ι → Prop}
  {events past future : List (Event σ ι α)} {state start : σ}
  {inputs : List ι} {event : Event σ ι α}

/-- A condition that ignores the past is met when every event meets it. -/
theorem meets_of_forall {condition : σ → ι → Prop}
    (each : ∀ event ∈ events, condition event.before event.input) :
    Meets (fun _ => condition) events := by
  rintro past event future rfl
  exact each event (by simp)

/-- `Meets` as a recursion over the run, which can be evaluated. -/
def MeetsFrom (condition : List (Event σ ι α) → σ → ι → Prop) :
    List (Event σ ι α) → List (Event σ ι α) → Prop
  | _, [] => True
  | past, event :: future =>
    condition past event.before event.input ∧ MeetsFrom condition (past ++ [event]) future

instance decidableMeetsFrom (condition : List (Event σ ι α) → σ → ι → Prop)
    [∀ past state input, Decidable (condition past state input)] :
    ∀ past events, Decidable (MeetsFrom condition past events)
  | _, [] => .isTrue trivial
  | past, event :: future =>
    have := decidableMeetsFrom condition (past ++ [event]) future
    inferInstanceAs (Decidable (_ ∧ _))

theorem meetsFrom_split (meets : MeetsFrom condition before events) :
    ∀ past event future, events = past ++ event :: future →
      condition (before ++ past) event.before event.input := by
  induction events generalizing before with
  | nil =>
    intro past event future split
    cases past <;> cases split
  | cons head tail ih =>
    obtain ⟨headMeets, tailMeets⟩ := meets
    intro past event future split
    cases past with
    | nil =>
      obtain ⟨rfl, _⟩ := cons.inj split
      simpa using headMeets
    | cons first rest =>
      obtain ⟨rfl, splitTail⟩ := cons.inj split
      simpa using ih tailMeets rest event future splitTail

theorem meets_of_meetsFrom (meets : MeetsFrom condition [] events) : Meets condition events :=
  fun past event future split => meetsFrom_split meets past event future split

theorem mem_of_split (split : events = past ++ event :: future) : event ∈ events := by
  rw [split]
  simp

theorem mem_of_split_later (split : events = past ++ event :: (middle ++ later :: future)) :
    later ∈ events := by
  rw [split]
  simp

variable {step : σ → ι → σ × α}

theorem event_eq (member : event ∈ run step state inputs) :
    event = eventOf step event.before event.input := by
  induction inputs generalizing state with
  | nil => simp [run] at member
  | cons input rest ih =>
    rcases mem_cons.mp member with rfl | later
    · rfl
    · exact ih later

theorem input_mem (member : event ∈ run step state inputs) : event.input ∈ inputs := by
  induction inputs generalizing state with
  | nil => simp [run] at member
  | cons input rest ih =>
    rcases mem_cons.mp member with rfl | later
    · exact mem_cons_self
    · exact mem_cons_of_mem _ (ih later)

theorem run_inputs (state : σ) (inputs : List ι) :
    (run step state inputs).map Event.input = inputs := by
  induction inputs generalizing state with
  | nil => rfl
  | cons input rest ih =>
    simp only [run, map_cons, ih]
    rfl

/-- A relation between earlier and later inputs holds between the events. -/
theorem pairwise_events (ordered : inputs.Pairwise related) :
    (run step state inputs).Pairwise fun earlier later => related earlier.input later.input := by
  rw [← pairwise_map, run_inputs]
  exact ordered

theorem answers_of_respects {changeState : σ → σ} (respects : ∀ state input,
      step (changeState state) (changeInput input) =
        (changeState (step state input).1, (step state input).2)) (state : σ) (inputs : List ι) :
    (run step (changeState state) (inputs.map changeInput)).map Event.answer =
      (run step state inputs).map Event.answer := by
  induction inputs generalizing state with
  | nil => rfl
  | cons input rest ih => simp only [map_cons, run, eventOf, respects, ih]

theorem run_eq_cons (split : run step state inputs = event :: rest) :
    ∃ input later, inputs = input :: later ∧ event = eventOf step state input ∧
      run step (step state input).1 later = rest := by
  cases inputs with
  | nil => cases split
  | cons input later =>
    obtain ⟨rfl, rfl⟩ := cons.inj split
    exact ⟨input, later, rfl, rfl, rfl⟩

/-- The invariant rule, from any point of a run up to any later event.  `past`
are the events before that point, and the steps up to the event meet the
condition. -/
theorem invariant_until (past : List (Event σ ι α)) (invariant : List (Event σ ι α) → σ → Prop)
    (preserved : ∀ past state input, invariant past state → condition past state input →
        invariant (past ++ [eventOf step state input])
          (step state input).1) (holds : invariant past state)
    (split : run step state inputs = middle ++ event :: future)
    (meets : ∀ earlier other rest, middle = earlier ++ other :: rest →
      condition (past ++ earlier) other.before other.input) :
    invariant (past ++ middle) event.before := by
  induction middle generalizing past state inputs with
  | nil =>
    obtain ⟨input, _, _, rfl, _⟩ := run_eq_cons split
    simpa [eventOf] using holds
  | cons first middle ih =>
    obtain ⟨input, later, _, rfl, rest⟩ := run_eq_cons split
    have next := preserved past state input holds (by
      simpa [eventOf] using meets [] _ middle rfl)
    have reached := ih _ next rest fun earlier other behind here => by
      simpa using meets (eventOf step state input :: earlier) other behind (by simp [here])
    simpa using reached

/-- Every state of a run whose steps meet the condition satisfies an invariant
that holds at the start and that such steps preserve. -/
theorem invariant_run (invariant : List (Event σ ι α) → σ → Prop)
    (preserved : ∀ past state input, invariant past state → condition past state input →
        invariant (past ++ [eventOf step state input])
          (step state input).1) (initial : invariant [] start)
    (meets : Meets condition (run step start inputs))
    (split : run step start inputs = past ++ event :: future) :
    invariant past event.before ∧ invariant (past ++ [event]) event.after := by
  have before : invariant past event.before :=
    invariant_until [] invariant preserved initial split fun earlier other rest here =>
      meets earlier other (rest ++ event :: future) (by simp [split, here])
  have made := event_eq (mem_of_split split)
  refine ⟨before, ?_⟩
  have after := preserved past event.before event.input before (meets past event future split)
  rw [← made] at after
  have same : (step event.before event.input).1 = event.after := by
    rw [made]
    rfl
  rwa [same] at after

theorem invariant_always (invariant : σ → Prop)
    (preserved : ∀ state input, invariant state → invariant (step state input).1)
    (initial : invariant start) (member : event ∈ run step start inputs) :
    invariant event.before ∧ invariant event.after := by
  obtain ⟨past, future, split⟩ := append_of_mem member
  have meets : Meets (fun _ _ _ => True) (run step start inputs) := fun _ _ _ _ => trivial
  exact invariant_run (fun _ state => invariant state)
    (fun _ state input holds _ => preserved state input holds) initial meets
    split

/-- What follows an event is a run from the state after it. -/
theorem run_after (split : run step start inputs = past ++ event :: rest) :
    ∃ later, rest = run step event.after later := by
  induction past generalizing start inputs with
  | nil =>
    obtain ⟨_, later, _, rfl, rfl⟩ := run_eq_cons split
    exact ⟨later, rfl⟩
  | cons first past ih =>
    obtain ⟨_, _, _, _, rest⟩ := run_eq_cons split
    exact ih rest

theorem run_suffix {invariant : σ → Prop}
    (preserved : ∀ state input, invariant state → invariant (step state input).1)
    (initial : invariant start) (split : run step start inputs = past ++ rest) :
    ∃ state later, invariant state ∧ rest = run step state later := by
  induction past generalizing start inputs with
  | nil => exact ⟨start, inputs, initial, split.symm⟩
  | cons first past ih =>
    obtain ⟨input, _, _, _, behind⟩ := run_eq_cons split
    exact ih (preserved start input initial) behind

theorem before_next {next} (split : run step start inputs = past ++ event :: next :: future) :
    next.before = event.after := by
  obtain ⟨_, rest⟩ := run_after split
  obtain ⟨_, _, _, rfl, _⟩ := run_eq_cons rest.symm
  rfl

/-- A property of the start is carried to any event when the steps before that
event preserve it. -/
theorem carried_to {invariant : σ → Prop} {condition : Event σ ι α → Prop}
    (preserved : ∀ state input, invariant state → condition (eventOf step state input) →
        invariant (step state input).1)
    {start : σ} {inputs : List ι} {middle future : List (Event σ ι α)}
    {last : Event σ ι α}
    (split : run step start inputs = middle ++ last :: future)
    (holds : invariant start) (meets : ∀ event ∈ middle, condition event) :
    invariant last.before := by
  refine invariant_until [] (fun _ => invariant) (fun _ => preserved) holds split ?_
  rintro earlier other rest rfl
  have made := event_eq (show other ∈ run step start inputs by simp [split])
  exact made ▸ meets other (by simp)

/-- What holds behind an event holds around all events of the stretch behind
it whose steps preserve it, and in front of the event behind the stretch. -/
theorem carried_along {invariant : σ → Prop} {condition : Event σ ι α → Prop}
    (preserved : ∀ state input, invariant state → condition (eventOf step state input) →
        invariant (step state input).1)
    (split : run step start inputs = past ++ first :: (middle ++ future))
    (holds : invariant first.after) (meets : ∀ event ∈ middle, condition event) :
    (∀ event ∈ middle, invariant event.before ∧ invariant event.after) ∧
      ∀ last rest, future = last :: rest → invariant last.before := by
  obtain ⟨later, made⟩ := run_after split
  have reached : ∀ before last after, middle ++ future =
      before ++ last :: after → (∀ event ∈ before, event ∈ middle) → invariant last.before :=
    fun before last after here inside =>
      carried_to preserved (made.symm.trans here) holds
        (fun event member => meets event (inside event member))
  refine ⟨?_, ?_⟩
  · intro event member
    obtain ⟨before, after, here⟩ := append_of_mem member
    have held : invariant event.before := by
      refine reached before event (after ++ future) ?_ ?_
      · rw [here, append_assoc, cons_append]
      · intro earlier inside
        rw [here]
        exact mem_append_left _ inside
    have same : event = eventOf step event.before event.input := by
      have inside := mem_append_left future member
      rw [made] at inside
      exact event_eq inside
    have next := preserved event.before event.input held (same ▸ meets event member)
    refine ⟨held, ?_⟩
    rw [same]
    exact next
  · rintro last rest rfl
    exact reached middle last rest rfl (fun _ member => member)

/-- A line in which things queue.  When every step lets things enter behind
those in the line and leave in front of them, what has left together with what
still queues is what has entered, in that order. -/
theorem entered_eq_left_append {β : Type} {line : σ → List β} {enters leaves : α → List β}
    (moves : ∀ state input, line state ++ enters (step state input).2 =
        leaves (step state input).2 ++ line (step state input).1)
    (empty : line start = [])
    (split : run step start inputs = past ++ event :: future) :
    (past ++ [event]).flatMap (fun made => enters made.answer) =
      (past ++ [event]).flatMap (fun made => leaves made.answer) ++ line event.after := by
  have meets : Meets (fun _ _ _ => True) (run step start inputs) := fun _ _ _ _ => trivial
  refine (invariant_run (fun past state =>
    past.flatMap (fun made => enters made.answer) =
      past.flatMap (fun made => leaves made.answer) ++ line state)
    ?_ (by simp [empty]) meets split).2
  intro past state input holds _
  rw [flatMap_append, flatMap_append, holds]
  simp only [flatMap_singleton, append_assoc, eventOf]
  rw [moves]

end Runs
