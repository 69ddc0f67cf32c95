import JanusGate.Netd.Transaction

/-!
# The helper's service loop

`jg_netd_run` repeats one round: it checks the deadline of a pending
transaction, waits for a client, and answers at most one request.  The wait,
the accepted connection and the received request all take time, so a request
is handled later than the deadline was checked.
-/

namespace JanusGate.Netd

open Runs

/-- One round of the loop.  `request` is absent when no client came, when the
client was not authorized, or when its message could not be decoded. -/
structure Round where
  checkTime : Nat
  checkCalls : KernelCalls
  request : Option IpcMessage
  requestTime : Nat
  requestCalls : KernelCalls
  ordered : checkTime ≤ requestTime

structure ServerState where
  netd : NetdState
  running : Bool
  deriving DecidableEq

def serverStarted (kernel : KernelState) : ServerState where
  netd := started kernel
  running := true

section Rounds

variable (decode : Bytes → Except Int NetworkConfig) (encodeState : NetworkState → Except Int Bytes)

/-- One round of `jg_netd_run`.  An expiry check that fails ends the loop. -/
def serverRound (state : ServerState) (round : Round) :
    ServerState × Option (Except Int IpcMessage) :=
  if state.running then
    let checked := expireNetwork state.netd round.checkTime round.checkCalls
    if checked.2 ≠ 0 then ({ netd := checked.1, running := false }, none)
    else
      match round.request with
      | none => ({ netd := checked.1, running := true }, none)
      | some message =>
        let answered := processRequest decode encodeState checked.1 message
          round.requestTime round.requestCalls
        ({ netd := answered.1, running := true }, some answered.2)
  else (state, none)

abbrev ServerEvent := Event ServerState Round (Option (Except Int IpcMessage))

def roundConfirms (event : ServerEvent) : Bool :=
  match event.input.request, event.answer with
  | some message, some answer => confirmed message answer
  | _, _ => false

/-- A confirmation succeeds only before the deadline of the transaction it
confirms. -/
def InTime (event : ServerEvent) : Prop :=
  roundConfirms event = true → ∀ pending ∈ event.before.netd.pending,
      event.input.requestTime < pending.expiresAt

/-- The deadline of the pending transaction is not reached between the expiry
check of a round and the confirmation handled in it. -/
def DeadlineKept (state : ServerState) (round : Round) : Prop :=
  state.running = true → round.checkCalls.clock = 0 →
    round.request.bind (requestAction decode) = some .confirm → ∀ pending ∈ state.netd.pending,
        round.checkTime < pending.expiresAt → round.requestTime < pending.expiresAt

variable {decode encodeState}

theorem expireNetwork_early (waiting : state.pending = some pending)
    (clock : calls.clock = 0) (early : now < pending.expiresAt) :
    expireNetwork state now calls = (state, 0) := by
  have notElapsed : ¬ now ≥ pending.expiresAt := Nat.not_le.mpr early
  simp [expireNetwork, monotonicSeconds, waiting, clock, notElapsed]

theorem rollbackNetwork_succeeds (succeeded : (rollbackNetwork state calls).2 = 0) :
    (rollbackNetwork state calls).1.pending = none := by
  cases waiting : state.pending with
  | none => simp [rollbackNetwork, waiting, eBusy] at succeeded
  | some pending =>
    by_cases rules : putBackRules state calls = 0
    · by_cases bridge : calls.restoreBridge = 0
      · simp [rollbackNetwork, waiting, rules, bridge]
      · simp [rollbackNetwork, waiting, bridge, eIo] at succeeded
    · by_cases bridge : calls.restoreBridge = 0
      · simp [rollbackNetwork, waiting, rules, bridge]
      · simp [rollbackNetwork, waiting, bridge, eIo] at succeeded

theorem expireNetwork_survivor (waiting : state.pending = some pending)
    (succeeded : (expireNetwork state now calls).2 = 0)
    (survives : (expireNetwork state now calls).1.pending.isSome = true) :
    calls.clock = 0 ∧ now < pending.expiresAt := by
  by_cases clock : calls.clock = 0
  · by_cases elapsed : now ≥ pending.expiresAt
    · have rolled : expireNetwork state now calls = rollbackNetwork state calls := by
        simp [expireNetwork, monotonicSeconds, waiting, clock, elapsed]
      rw [rolled] at succeeded survives
      simp [rollbackNetwork_succeeds succeeded] at survives
    · exact ⟨clock, Nat.not_le.mp elapsed⟩
  · simp [expireNetwork, monotonicSeconds, waiting, clock] at succeeded

theorem serverRound_answers {round}
    (answers : (serverRound decode encodeState state round).2 = some answer) :
    state.running = true ∧ (expireNetwork state.netd round.checkTime round.checkCalls).2 = 0 ∧
      ∃ message, round.request = some message ∧ answer = (processRequest decode encodeState
          (expireNetwork state.netd round.checkTime round.checkCalls).1
          message round.requestTime round.requestCalls).2 := by
  unfold serverRound at answers
  by_cases running : state.running = true
  · by_cases checked : (expireNetwork state.netd round.checkTime round.checkCalls).2 = 0
    · cases asked : round.request with
      | none => simp [running, checked, asked] at answers
      | some message =>
        simp only [running, checked, asked, if_true, ne_eq,
          not_true_eq_false, if_false, Option.some.injEq] at answers
        exact ⟨running, checked, message, rfl, answers.symm⟩
    · simp [running, checked] at answers
  · simp [running] at answers

section

variable (made : event = eventOf (serverRound decode encodeState) event.before event.input)

include made

theorem roundConfirms_checked (confirms : roundConfirms event = true) :
    event.before.running = true ∧ event.input.checkCalls.clock = 0 ∧
      event.input.request.bind (requestAction decode) = some .confirm ∧
      ∃ pending, event.before.netd.pending = some pending ∧
        event.input.checkTime < pending.expiresAt := by
  cases answered : event.answer with
  | none => cases asked : event.input.request <;> simp [roundConfirms, answered] at confirms
  | some answer =>
    have answers : (serverRound decode encodeState event.before event.input).2 = some answer := by
      rw [← answered, made]
      rfl
    obtain ⟨running, checked, message, asked, sent⟩ := serverRound_answers answers
    simp only [roundConfirms, asked, answered, sent] at confirms
    obtain ⟨asksConfirm, survives⟩ := confirmed_iff.mp confirms
    cases waiting : event.before.netd.pending with
    | none => simp [expireNetwork, waiting] at survives
    | some pending =>
      obtain ⟨clock, early⟩ := expireNetwork_survivor waiting checked survives
      exact ⟨running, clock, by simp [asked, asksConfirm], pending, rfl, early⟩

/-- A confirmation that arrives while its transaction outlives the expiry
check of the round succeeds. -/
theorem roundConfirms_of_survivor (running : event.before.running = true)
    (clock : event.input.checkCalls.clock = 0)
    (asks : event.input.request.bind (requestAction decode) = some .confirm)
    (waiting : event.before.netd.pending = some pending)
    (early : event.input.checkTime < pending.expiresAt) :
    roundConfirms event = true := by
  obtain ⟨message, asked, asksConfirm⟩ := Option.bind_eq_some_iff.mp asks
  have unchanged := expireNetwork_early waiting clock early
  have answered : event.answer = some (processRequest decode encodeState event.before.netd message
        event.input.requestTime event.input.requestCalls).2 := by
    have sent : event.answer = (serverRound decode encodeState event.before event.input).2 := by
      rw [made]
      rfl
    rw [sent]
    simp [serverRound, running, unchanged, asked]
  simp only [roundConfirms, asked, answered]
  exact confirmed_iff.mpr ⟨asksConfirm, by simp [waiting]⟩

end

theorem rollbackNetwork_current (recorded : (rollbackNetwork state calls).1.current = some config) :
    state.current = some config := by
  cases waiting : state.pending with
  | none => simpa [rollbackNetwork, waiting] using recorded
  | some pending =>
    by_cases bridge : calls.restoreBridge = 0
    · rw [rollbackNetwork_ended waiting bridge] at recorded
      by_cases rules : putBackRules state calls = 0
      · simpa [rules] using recorded
      · simp [rules] at recorded
    · rw [rollbackNetwork_pending waiting bridge] at recorded
      exact recorded

theorem expireNetwork_current (recorded : (expireNetwork state now calls).1.current = some config) :
    state.current = some config := by
  rw [expireNetwork_eq] at recorded
  split at recorded
  · exact rollbackNetwork_current recorded
  · exact recorded

theorem act_current (recorded : (act state action now calls).1.current = some config) :
    state.current = some config ∨ (action = .confirm ∧ state.pending.isSome = true) := by
  cases action with
  | apply applied =>
    have kept : (applyNetwork state applied now calls).1.current = state.current := by
      rcases applyNetwork_cases state applied now calls with
        same | ⟨_, _, _, _, result⟩ | ⟨_, result⟩
      · rw [same]
      · rw [result]
      · rw [result]
    exact Or.inl (kept.symm.trans recorded)
  | confirm =>
    cases waiting : state.pending with
    | none =>
      left
      simpa [act, confirmNetwork, waiting] using recorded
    | some pending => simp
  | rollback => exact Or.inl (rollbackNetwork_current recorded)
  | expire => exact Or.inl (expireNetwork_current recorded)

theorem serverRound_current
    (made : event = eventOf (serverRound decode encodeState) event.before event.input)
    (recorded : event.after.netd.current = some config) :
    event.before.netd.current = some config ∨ roundConfirms event = true := by
  have after : event.after = (serverRound decode encodeState event.before event.input).1 := by
    rw [made]
    rfl
  have answer : event.answer = (serverRound decode encodeState event.before event.input).2 := by
    rw [made]
    rfl
  by_cases running : event.before.running = true
  · by_cases checked : (expireNetwork event.before.netd event.input.checkTime
        event.input.checkCalls).2 = 0
    · cases asked : event.input.request with
      | none =>
        simp only [after, serverRound, running, checked, asked, if_true,
          ne_eq, not_true_eq_false, if_false] at recorded
        exact Or.inl (expireNetwork_current recorded)
      | some message =>
        simp only [after, serverRound, running, checked, asked, if_true,
          ne_eq, not_true_eq_false, if_false] at recorded
        simp only [serverRound, running, checked, asked, if_true,
          ne_eq, not_true_eq_false, if_false] at answer
        rw [processRequest_state] at recorded
        cases asks : requestAction decode message with
        | none =>
          rw [asks] at recorded
          exact Or.inl (expireNetwork_current recorded)
        | some action =>
          rw [asks] at recorded
          rcases act_current recorded with kept | ⟨rfl, waiting⟩
          · exact Or.inl (expireNetwork_current kept)
          · right
            simp only [roundConfirms, asked, answer]
            exact confirmed_iff.mpr ⟨asks, waiting⟩
    · simp only [after, serverRound, running, checked, if_true, ne_eq,
        not_false_eq_true] at recorded
      exact Or.inl (expireNetwork_current recorded)
  · simp only [after, serverRound, running] at recorded
    exact Or.inl recorded

/-- In every run of the loop a configuration is recorded only by a successful
confirmation, and that one comes before the deadline exactly when the deadline
is not reached between the expiry check and the confirmation of a round. -/
theorem confirmation_in_time_iff (decode : Bytes → Except Int NetworkConfig)
    (encodeState : NetworkState → Except Int Bytes) (kernel : KernelState) (rounds : List Round) :
    ∀ event ∈ run (serverRound decode encodeState) (serverStarted kernel) rounds,
      (∀ config, event.after.netd.current = some config → event.before.netd.current = some config ∨
          roundConfirms event = true) ∧
        (InTime event ↔ DeadlineKept decode event.before event.input) := by
  intro event member
  have made := event_eq member
  refine ⟨fun config recorded => serverRound_current made recorded, ?_⟩
  constructor
  · intro inTime running clock asks pending waiting early
    exact inTime (roundConfirms_of_survivor made running clock asks waiting early) pending waiting
  · intro kept confirms pending waiting
    obtain ⟨running, clock, asks, found, foundWaiting, early⟩ := roundConfirms_checked made confirms
    have same : found = pending := Option.some.inj (foundWaiting.symm.trans waiting)
    exact kept running clock asks pending waiting (same ▸ early)

def roundAt (checkTime : Nat) (operation : IpcOperation) (body : Bytes) (delay : Nat) : Round where
  checkTime := checkTime
  checkCalls := allSucceed
  request := some {
    kind := .request
    operation := operation
    requestId := 1
    error := .none
    body := body }
  requestTime := checkTime + delay
  requestCalls := allSucceed
  ordered := Nat.le_add_right checkTime delay

def timelyRounds : List Round := [roundAt 10 .networkApply [1] 0, roundAt 59 .networkConfirm [] 1]

theorem confirmation_in_time_timely : (run (serverRound sampleDecode sampleEncode)
        (serverStarted ⟨none, none⟩) timelyRounds).length = 2 ∧
      ∀ event ∈ run (serverRound sampleDecode sampleEncode)
          (serverStarted ⟨none, none⟩) timelyRounds,
        (∀ config, event.after.netd.current = some config →
          event.before.netd.current = some config ∨ roundConfirms event = true) ∧
          (InTime event ↔ DeadlineKept sampleDecode event.before event.input) :=
  ⟨rfl, confirmation_in_time_iff sampleDecode sampleEncode ⟨none, none⟩ timelyRounds⟩

/-- An application at second 10, whose deadline is second 130, and a
confirmation in a round that checked the deadline at second 129 and received
the request three seconds later. -/
def overdueRounds : List Round := [roundAt 10 .networkApply [1] 0, roundAt 129 .networkConfirm [] 3]

/-- The confirmation succeeds two seconds after the deadline and makes the
transaction permanent. -/
theorem overdue_confirmation_succeeds : ∃ event ∈ run (serverRound sampleDecode sampleEncode)
        (serverStarted ⟨none, none⟩) overdueRounds,
      roundConfirms event = true ∧ event.input.requestTime = 132 ∧
        (event.before.netd.pending.map PendingNetwork.expiresAt) = some 130 ∧
        event.after.netd.current = some firstConfig := by
  decide +kernel

end Rounds

end JanusGate.Netd
