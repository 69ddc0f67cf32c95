import Mathlib.Tactic.Common

/-!
# Procedures that may be cut short

A procedure works on a durable state through single actions.  Each action is
performed, refused with a status, or never reached because the process stops
before it; the state keeps what was performed so far.  The rules relate a
precondition to what holds when the procedure returns, and to what holds when
it fails or is stopped.
-/

namespace Crash

open List

inductive Fate where
  | done
  | failed (status : Int)
  | stopped
  deriving DecidableEq

inductive Ending (α : Type) where
  | returned (value : α)
  | failed (status : Int)
  | stopped
  deriving DecidableEq

def Proc (σ α : Type) : Type := σ → σ × Ending α

variable {σ α β : Type}

def andThen (first : Proc σ α) (next : α → Proc σ β) : Proc σ β :=
  fun state =>
    match first state with
    | (state, .returned value) => next value state
    | (state, .failed status) => (state, .failed status)
    | (state, .stopped) => (state, .stopped)

instance : Monad (Proc σ) where
  pure value := fun state => (state, .returned value)
  bind := andThen

def act (fate : Fate) (change : σ → σ) : Proc σ Unit := fun state =>
  match fate with
  | .done => (change state, .returned ())
  | .failed status => (state, .failed status)
  | .stopped => (state, .stopped)

def look (read : σ → α) : Proc σ α := fun state => (state, .returned (read state))

def fail (status : Int) : Proc σ α := fun state => (state, .failed status)

/-- Turn a failure into a value; a stopped process stays stopped. -/
def attempt (proc : Proc σ α) : Proc σ (Except Int α) := fun state =>
  match proc state with
  | (state, .returned value) => (state, .returned (.ok value))
  | (state, .failed status) => (state, .returned (.error status))
  | (state, .stopped) => (state, .stopped)

/-- Run a step for every item, up to the first failure. -/
def each {ι : Type} (step : ι → Proc σ Unit) : List ι → Proc σ Unit
  | [] => pure ()
  | item :: items => do
      step item
      each step items

/-- Run every step, also after a failure, and report the first failure. -/
def tryAll : List (Proc σ Unit) → Proc σ Unit
  | [] => pure ()
  | step :: steps => do
      match ← attempt step with
      | .ok _ => tryAll steps
      | .error status => do
          let _ ← attempt (tryAll steps)
          fail status

variable {post : α → σ → Prop} {common : σ → Prop} {proc : Proc σ α}

theorem tryAll_cons_returned {next} (returned : step state = (next, .returned ())) :
    tryAll (step :: steps) state = tryAll steps next := by
  change andThen (attempt step) _ state = _
  simp only [andThen, attempt, returned]

def zoom {τ : Type} (part : τ → σ) (put : σ → τ → τ) (proc : Proc σ α) : Proc τ α := fun state =>
  (put (proc (part state)).1 state, (proc (part state)).2)

def transaction (proc : Proc σ α) : Proc σ α := fun state =>
  match proc state with
  | (later, .returned value) => (later, .returned value)
  | (_, .failed status) => (state, .failed status)
  | (_, .stopped) => (state, .stopped)

/-! ## Pre- and postconditions -/

/-- A procedure returned with `post`, or was cut short with `cut`. -/
def Ends (cut : σ → Prop) (post : α → σ → Prop) : σ × Ending α → Prop
  | (state, .returned value) => post value state
  | (state, .failed _) => cut state
  | (state, .stopped) => cut state

/-- What a procedure does from `pre`. -/
def Keeps (cut pre : σ → Prop) (proc : Proc σ α) (post : α → σ → Prop) : Prop :=
  ∀ state, pre state → Ends cut post (proc state)

variable {cut pre : σ → Prop}

theorem Keeps.pure (holds : ∀ state, pre state → post value state) :
    Keeps cut pre (Pure.pure value) post :=
  holds

theorem Keeps.bind {next} {post : β → σ → Prop} (firstKeeps : Keeps cut pre first middle)
    (nextKeeps : ∀ value, Keeps cut (middle value) (next value) post) :
    Keeps cut pre (first >>= next) post := by
  intro state holds
  have kept := firstKeeps state holds
  change Ends cut post (andThen first next state)
  unfold andThen
  revert kept
  rcases first state with ⟨later, ending⟩
  cases ending with
  | returned value => exact nextKeeps value later
  | failed status | stopped => exact fun kept => kept

/-- An action must be harmless where it is not performed. -/
theorem Keeps.act {post : Unit → σ → Prop} (before : ∀ state, pre state → cut state)
    (after : ∀ state, pre state → post () (change state)) :
    Keeps cut pre (act fate change) post := by
  intro state holds
  cases fate with
  | done => exact after state holds
  | failed status | stopped => exact before state holds

theorem Keeps.done {post : Unit → σ → Prop} (performed : fate = .done)
    (after : ∀ state, pre state → post () (change state)) :
    Keeps cut pre (Crash.act fate change) post := by
  subst performed
  exact after

theorem Keeps.check (before : ∀ state, pre state → cut state) :
    Keeps cut pre (Crash.act fate id) fun _ => pre :=
  Keeps.act before fun _ => id

theorem Keeps.look (read : σ → α) :
    Keeps cut pre (look read) fun value state => value = read state ∧ pre state :=
  fun _ holds => ⟨rfl, holds⟩

theorem Keeps.fail (before : ∀ state, pre state → cut state) : Keeps cut pre (fail status) post :=
  before

/-- What holds after the result of a procedure was caught. -/
def Caught (inner : σ → Prop) (post : α → σ → Prop) : Except Int α → σ → Prop
  | .ok value, state => post value state
  | .error _, state => inner state

theorem Caught.elim {inner} (returns : ∀ value state, post value state → common state)
    (fails : ∀ state, inner state → common state) :
    ∀ state, Caught inner post result state → common state := by
  intro state caught
  cases result with
  | ok value => exact returns value state caught
  | error status => exact fails state caught

/-- What is kept by a cut procedure holds when its failure is caught. -/
theorem Keeps.attempt {inner} (kept : Keeps inner pre proc post)
    (stops : ∀ state, inner state → cut state) :
    Keeps cut pre (attempt proc) (Caught inner post) := by
  intro state holds
  have keeps := kept state holds
  unfold Crash.attempt
  revert keeps
  rcases proc state with ⟨later, ending⟩
  cases ending with
  | returned value | failed status => exact fun keeps => keeps
  | stopped => exact stops later

/-- A caught procedure goes on from what it returned with or was cut with. -/
theorem Keeps.handle {next inner} {post : β → σ → Prop}
    (kept : Keeps inner pre proc middle) (stops : ∀ state, inner state → cut state)
    (returned : ∀ value, Keeps cut (middle value) (next (.ok value)) post)
    (failed : ∀ status, Keeps cut inner (next (.error status)) post) :
    Keeps cut pre (Crash.attempt proc >>= next) post :=
  (kept.attempt stops).bind fun
    | .ok value => returned value
    | .error status => failed status

theorem Keeps.find {read : σ → Option α} {next : Option α → Proc σ β} {post : β → σ → Prop}
    (missing : Keeps cut (fun state => none = read state ∧ pre state) (next none) post)
    (found : ∀ value, Keeps cut (fun state => some value = read state ∧ pre state)
      (next (some value)) post) :
    Keeps cut pre (Crash.look read >>= next) post :=
  (Keeps.look read).bind fun
    | none => missing
    | some value => found value

theorem Keeps.weaken (kept : Keeps cut' pre' proc post')
    (stronger : ∀ state, pre state → pre' state)
    (returns : ∀ value state, post' value state → post value state)
    (stops : ∀ state, cut' state → cut state) : Keeps cut pre proc post := by
  intro state holds
  have keeps := kept state (stronger state holds)
  revert keeps
  rcases proc state with ⟨later, ending⟩
  cases ending with
  | returned value => exact returns value later
  | failed status | stopped => exact stops later

/-- A loop over the items, with what holds after each of them. -/
theorem Keeps.each {ι : Type} {step : ι → Proc σ Unit} {items : List ι} {after : List ι → σ → Prop}
    (stepKeeps : ∀ past item future, items = past ++ item :: future →
      Keeps cut (after past) (step item) fun _ => after (past ++ [item])) :
    Keeps cut (after []) (each step items) fun _ => after items := by
  suffices from_here : ∀ rest past, items = past ++ rest →
      Keeps cut (after past) (Crash.each step rest) fun _ => after items by
    exact from_here items [] rfl
  intro rest
  induction rest with
  | nil =>
    intro past whole
    rw [whole, append_nil]
    exact .pure fun _ => id
  | cons item rest ih =>
    intro past whole
    apply Keeps.bind (stepKeeps past item rest whole)
    intro _
    exact ih (past ++ [item]) (by simp [whole])

theorem Keeps.tryAll
    (stepKeeps : ∀ step ∈ steps, Keeps condition condition step fun _ => condition) :
    Keeps condition condition (tryAll steps) fun _ => condition := by
  induction steps with
  | nil => exact .pure fun _ => id
  | cons step steps ih =>
    have others := ih fun other member => stepKeeps other (mem_cons_of_mem _ member)
    apply Keeps.handle (stepKeeps step mem_cons_self) (fun _ => id)
    · exact fun _ => others
    · exact fun _ => others.handle (fun _ => id) (fun _ => .fail fun _ => id)
        fun _ => .fail fun _ => id

/-- Whatever its ending, a procedure leaves a state that satisfies what its
post- and cut conditions have in common. -/
theorem Keeps.always (kept : Keeps cut pre proc post)
    (returns : ∀ value state, post value state → common state)
    (stops : ∀ state, cut state → common state) (holds : pre state) : common (proc state).1 := by
  have keeps := kept state holds
  revert keeps
  rcases proc state with ⟨later, ending⟩
  cases ending with
  | returned value => exact returns value later
  | failed status | stopped => exact stops later

/-! ## Procedures that are not stopped -/

/-- A procedure returned with `post` or failed with `error`. -/
def Completed (post : α → σ → Prop) (error : Int → σ → Prop) : σ × Ending α → Prop
  | (state, .returned value) => post value state
  | (state, .failed status) => error status state
  | (_, .stopped) => False

/-- What a procedure does from `pre` when nothing stops the process. -/
def Completes (pre : σ → Prop) (proc : Proc σ α) (post : α → σ → Prop)
    (error : Int → σ → Prop) : Prop :=
  ∀ state, pre state → Completed post error (proc state)

theorem Completes.pure (holds : ∀ state, pre state → post value state) :
    Completes pre (Pure.pure value) post error :=
  holds

theorem Completes.look (read : σ → α) :
    Completes pre (look read) (fun value state => value = read state ∧ pre state) error :=
  fun _ holds => ⟨rfl, holds⟩

theorem Completes.fail (holds : ∀ state, pre state → error status state) :
    Completes pre (fail status) post error :=
  holds

theorem Completes.act {post : Unit → σ → Prop}
    (performed : fate = .done) (after : ∀ state, pre state → post () (change state)) :
    Completes pre (Crash.act fate change) post error := by
  subst performed
  exact after

theorem Completes.check (performed : fate = .done) :
    Completes pre (Crash.act fate id) (fun _ => pre) error :=
  Completes.act performed fun _ => id

theorem Completes.bind {next} {post : β → σ → Prop}
    (firstCompletes : Completes pre first middle error)
    (nextCompletes : ∀ value, Completes (middle value) (next value) post error) :
    Completes pre (first >>= next) post error := by
  intro state holds
  have completed := firstCompletes state holds
  change Completed post error (andThen first next state)
  unfold andThen
  revert completed
  rcases first state with ⟨later, ending⟩
  cases ending with
  | returned value => exact nextCompletes value later
  | failed status | stopped => exact fun completed => completed

/-- What holds after the result of a procedure was caught. -/
def Handled (post : α → σ → Prop) (error : Int → σ → Prop) : Except Int α → σ → Prop
  | .ok value, state => post value state
  | .error status, state => error status state

theorem Completes.attempt (completes : Completes pre proc post error) :
    Completes pre (attempt proc) (Handled post error) outer := by
  intro state holds
  have completed := completes state holds
  unfold Crash.attempt
  revert completed
  rcases proc state with ⟨later, ending⟩
  cases ending with
  | returned value | failed status => exact fun completed => completed
  | stopped => exact fun completed => completed.elim

/-- A caught procedure goes on from what it returned or failed with. -/
theorem Completes.handle {next} {post : β → σ → Prop} (completes : Completes pre proc middle error)
    (returned : ∀ value, Completes (middle value) (next (.ok value)) post outer)
    (failed : ∀ status, Completes (error status) (next (.error status)) post outer) :
    Completes pre (Crash.attempt proc >>= next) post outer :=
  completes.attempt.bind fun
    | .ok value => returned value
    | .error status => failed status

theorem Completes.find {read : σ → Option α} {next : Option α → Proc σ β} {post : β → σ → Prop}
    (missing : Completes (fun state => none = read state ∧ pre state) (next none) post error)
    (found : ∀ value, Completes (fun state => some value = read state ∧ pre state)
      (next (some value)) post error) :
    Completes pre (Crash.look read >>= next) post error :=
  (Completes.look read).bind fun
    | none => missing
    | some value => found value

theorem Completes.weaken (completes : Completes pre' proc post' error')
    (stronger : ∀ state, pre state → pre' state)
    (returns : ∀ value state, post' value state → post value state)
    (fails : ∀ status state, error' status state → error status state) :
    Completes pre proc post error := by
  intro state holds
  have completed := completes state (stronger state holds)
  revert completed
  rcases proc state with ⟨later, ending⟩
  cases ending with
  | returned value => exact returns value later
  | failed status => exact fails status later
  | stopped => exact fun completed => completed

/-- What both ends of a procedure have in common holds when its result is
caught. -/
theorem Completes.attempted (completes : Completes pre proc post error)
    (returns : ∀ value state, post value state → common state)
    (fails : ∀ status state, error status state → common state) :
    Completes pre (Crash.attempt proc) (fun _ => common) outer := by
  apply completes.attempt.weaken (fun _ => id) _ fun _ _ holds => holds
  intro result state handled
  cases result with
  | ok value => exact returns value state handled
  | error status => exact fails status state handled

theorem Completes.zoom {τ : Type} {part : τ → σ} {put : σ → τ → τ}
    {outer : τ → Prop} {post : α → τ → Prop} {fails : Int → τ → Prop}
    (inner : ∀ state, outer state → Completes (fun earlier => earlier = part state) proc
        (fun value later => post value (put later state))
        (fun status later => fails status (put later state))) :
    Completes outer (zoom part put proc) post fails := by
  intro state holds
  have completed := inner state holds (part state) rfl
  unfold Crash.zoom
  revert completed
  rcases proc (part state) with ⟨later, ending⟩
  cases ending with
  | returned value | failed status | stopped => exact fun completed => completed

theorem Completes.transaction (completes : Completes pre proc post fault)
    (before : ∀ status state later, pre state → fault status later → error status state) :
    Completes pre (transaction proc) post error := by
  intro state holds
  have completed := completes state holds
  unfold Crash.transaction
  revert completed
  rcases proc state with ⟨later, ending⟩
  cases ending with
  | returned value => exact fun completed => completed
  | failed status => exact before status state later holds
  | stopped => exact fun completed => completed

theorem Completed.returned (completed : Completed post (fun _ _ => False) result) :
    ∃ state value, result = (state, .returned value) ∧ post value state := by
  obtain ⟨state, ending⟩ := result
  cases ending with
  | returned value => exact ⟨state, value, rfl, completed⟩
  | failed status | stopped => exact completed.elim

theorem Completes.tryAll (stepCompletes : ∀ step ∈ steps, Completes condition step
      (fun _ => condition) fun _ => condition) :
    Completes condition (tryAll steps) (fun _ => condition) fun _ => condition := by
  induction steps with
  | nil => exact .pure fun _ => id
  | cons step steps ih =>
    have others := ih fun other member => stepCompletes other (mem_cons_of_mem _ member)
    apply Completes.handle (stepCompletes step mem_cons_self)
    · exact fun _ => others
    · exact fun _ => others.handle (fun _ => .fail fun _ => id) fun _ => .fail fun _ => id

end Crash
