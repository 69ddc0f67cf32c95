import JanusGate.Common.Ipc
import JanusGate.Common.Network
import JanusGate.Foundation.Runs

/-!
# Network transactions of the privileged helper

The pending and confirmed configurations of `transaction.c` and the request
dispatch of `server.c`.  A transaction changes two halves of the kernel, the
bridge and the packet-filter rules.  The kernel answers each operation with a
result of its own choice, and a failing operation leaves its half as it was.
-/

namespace JanusGate.Netd

open Runs List

/-- `JG_NETD_CONFIRM_TIMEOUT_SECONDS`. -/
def confirmTimeoutSeconds : Nat := 120

/-- The two halves of the kernel state.  `none` stands for what was there
before any configuration of the helper. -/
structure KernelState where
  bridge : Option NetworkConfig
  rules : Option NetworkConfig
  deriving DecidableEq

/-- The results of the system calls one step may make.  No step makes the same
call twice. -/
structure KernelCalls where
  clock : Int
  validate : Int
  applyBridge : Int
  applyRules : Int
  removeRules : Int
  restoreBridge : Int
  deriving DecidableEq

/-- A transaction that waits for its confirmation, with the bridge captured
before it. -/
structure PendingNetwork where
  config : NetworkConfig
  checkpoint : Option NetworkConfig
  expiresAt : Nat
  deriving DecidableEq

/-- The helper's transaction record next to the kernel it configures. -/
structure NetdState where
  kernel : KernelState
  current : Option NetworkConfig
  pending : Option PendingNetwork
  deriving DecidableEq

def started (kernel : KernelState) : NetdState where
  kernel := kernel
  current := none
  pending := none

/-! ## The transaction functions -/

def monotonicSeconds (now : Nat) (calls : KernelCalls) : Except Int Nat :=
  if calls.clock ≠ 0 then .error calls.clock else .ok now

section

variable (state : NetdState)

def applyNetwork (config : NetworkConfig) (now : Nat) (calls : KernelCalls) : NetdState × Int :=
  if state.pending.isSome then (state, eBusy)
  else
    match monotonicSeconds now calls with
    | .error result => (state, result)
    | .ok now =>
      if now > uint64Max - confirmTimeoutSeconds then (state, eOverflow)
      else if calls.applyBridge ≠ 0 then (state, calls.applyBridge)
      else
        let checkpoint := state.kernel.bridge
        let bridged := { state.kernel with bridge := some config }
        if calls.applyRules ≠ 0 then
          if calls.restoreBridge ≠ 0 then ({ state with kernel := bridged }, eIo)
          else ({ state with kernel := { bridged with bridge := checkpoint } }, calls.applyRules)
        else
          ({ state with
              kernel := { bridged with rules := some config }
              pending := some {
                config := config
                checkpoint := checkpoint
                expiresAt := now + confirmTimeoutSeconds } }, 0)

def confirmNetwork : NetdState × Int :=
  match state.pending with
  | none => (state, eBusy)
  | some pending => ({ state with current := some pending.config, pending := none }, 0)

def putBackRules (calls : KernelCalls) : Int :=
  if state.current.isSome then calls.applyRules else calls.removeRules

def rollbackNetwork (calls : KernelCalls) : NetdState × Int :=
  match state.pending with
  | none => (state, eBusy)
  | some pending =>
    let rulesResult := putBackRules state calls
    let rules := if rulesResult = 0 then state.current else state.kernel.rules
    let bridgeResult := calls.restoreBridge
    let bridge := if bridgeResult = 0 then pending.checkpoint else state.kernel.bridge
    let restored := { state with kernel := { bridge := bridge, rules := rules } }
    if rulesResult = 0 ∧ bridgeResult = 0 then ({ restored with pending := none }, 0)
    else if bridgeResult = 0 then ({ restored with current := none, pending := none }, eIo)
    else (restored, eIo)

def expireNetwork (now : Nat) (calls : KernelCalls) : NetdState × Int :=
  match state.pending with
  | none => (state, 0)
  | some pending =>
    match monotonicSeconds now calls with
    | .error result => (state, result)
    | .ok now => if now ≥ pending.expiresAt then rollbackNetwork state calls else (state, 0)

def getNetworkState (now : Nat) (calls : KernelCalls) : Except Int NetworkState :=
  match state.pending with
  | none =>
    .ok {
      confirmed := state.current
      pendingConfig := none
      confirmationSecondsRemaining := 0 }
  | some pending =>
    match monotonicSeconds now calls with
    | .error result => .error result
    | .ok now =>
      .ok {
        confirmed := state.current
        pendingConfig := some pending.config
        confirmationSecondsRemaining :=
          UInt32.ofNat (if pending.expiresAt > now then pending.expiresAt - now else 0) }

end

/-! ## Requests -/

inductive IpcKind where
  | request
  | response
  deriving DecidableEq

inductive IpcOperation where
  | ping
  | networkValidate
  | networkApply
  | networkConfirm
  | networkRollback
  | networkState
  | networkRemove
  | policyReload
  | daemonStatus
  | managementRequest
  | systemReboot
  | systemPoweroff
  | localManagementRequest
  deriving DecidableEq

inductive IpcError where
  | none
  | malformed
  | version
  | unauthorized
  | unsupported
  | invalid
  | conflict
  | timeout
  | system
  deriving DecidableEq

structure IpcMessage where
  kind : IpcKind
  operation : IpcOperation
  requestId : UInt64
  error : IpcError
  body : Bytes
  deriving DecidableEq

/-- The message as `ipc.c` has it, with the codes of `ipc.h`. -/
def IpcMessage.coded (message : IpcMessage) : Ipc.IpcMessage where
  kind := UInt32.ofNat (message.kind.ctorIdx + 1)
  operation := UInt32.ofNat (message.operation.ctorIdx + 1)
  requestId := message.requestId
  error := UInt32.ofNat message.error.ctorIdx
  body := message.body

/-- Every frame that `ipc.c` accepts holds a message with typed fields. -/
theorem exists_coded (decoded : ipcDecode frame = .ok message) :
    ∃ typed : IpcMessage, typed.coded = message := by
  obtain ⟨valid, _⟩ := Ipc.ipcDecode_eq_ok.mp decoded
  have operations : ∀ index < 13, (IpcOperation.ofNat index).ctorIdx = index := by decide
  have errors : ∀ index < 9, (IpcError.ofNat index).ctorIdx = index := by decide
  unfold Ipc.validateMessage at valid
  split at valid
  · cases valid
  next passed =>
  simp only [Bool.or_eq_true, Bool.not_eq_true', not_or, Bool.not_eq_false, Ipc.operationValid,
    Ipc.errorValid, Bool.and_eq_true, decide_eq_true_eq, UInt32.le_iff_toNat_le] at passed
  obtain ⟨⟨⟨⟨kind, operation⟩, _⟩, error⟩, _⟩ := passed
  have kinds : ∃ typed : IpcKind, UInt32.ofNat (typed.ctorIdx + 1) = message.kind := by
    rcases Bool.or_eq_true_iff.mp kind with first | second
    · exact ⟨.request, (eq_of_beq first).symm⟩
    · exact ⟨.response, (eq_of_beq second).symm⟩
  obtain ⟨typed, kindCode⟩ := kinds
  have low : 1 ≤ message.operation.toNat := operation.1
  have high : message.operation.toNat ≤ 13 := operation.2
  have last : message.error.toNat ≤ 8 := error.2
  refine ⟨⟨typed, .ofNat (message.operation.toNat - 1), message.requestId,
    .ofNat message.error.toNat, message.body⟩, ?_⟩
  rw [IpcMessage.coded, kindCode, operations _ (by omega), errors _ (by omega),
    Nat.sub_add_cancel low, UInt32.ofNat_toNat, UInt32.ofNat_toNat]

/-- Convert a typed-body decoding result into a protocol error. -/
def bodyError (result : Int) : IpcError :=
  if result = eProtoNoSupport then .version
  else if result = eProto ∨ result = eMsgSize then .malformed
  else if result = eBusy ∨ result = eNoEnt then .conflict
  else if result = eInval ∨ result = eRange ∨ result = eNoDev ∨
      result = eExist ∨ result = eAcces ∨ result = eAddrInUse then .invalid
  else .system

def resultError (result : Int) : IpcError := if result ≠ 0 then bodyError result else .none

/-- A request without a typed body must not carry one. -/
def emptyBodyError (request : IpcMessage) : IpcError :=
  if request.body ≠ [] then .malformed else .none

section Requests

-- The typed bodies of `network.c` are read and written by their own codecs.
variable (decode : Bytes → Except Int NetworkConfig) (encodeState : NetworkState → Except Int Bytes)

/-- The state, error and body one accepted request leads to. -/
def answerRequest (state : NetdState) (request : IpcMessage) (now : Nat)
    (calls : KernelCalls) : NetdState × IpcError × Bytes :=
  if request.kind ≠ .request ∨ request.error ≠ .none then (state, .malformed, [])
  else
    match request.operation with
    | .ping | .systemReboot | .systemPoweroff => (state, emptyBodyError request, [])
    | .networkValidate =>
      match decode request.body with
      | .error result => (state, resultError result, [])
      | .ok _ => (state, resultError calls.validate, [])
    | .networkApply =>
      match decode request.body with
      | .error result => (state, resultError result, [])
      | .ok config =>
        let applied := applyNetwork state config now calls
        (applied.1, resultError applied.2, [])
    | .networkConfirm =>
      if request.body ≠ [] then (state, .malformed, [])
      else
        let confirmed := confirmNetwork state
        (confirmed.1, resultError confirmed.2, [])
    | .networkRollback =>
      if request.body ≠ [] then (state, .malformed, [])
      else
        let restored := rollbackNetwork state calls
        (restored.1, resultError restored.2, [])
    | .networkState =>
      if request.body ≠ [] then (state, .malformed, [])
      else
        match getNetworkState state now calls with
        | .error result => (state, bodyError result, [])
        | .ok snapshot =>
          match encodeState snapshot with
          | .error result => (state, bodyError result, [])
          | .ok body => (state, .none, body)
    | .networkRemove | .policyReload | .daemonStatus | .managementRequest
    | .localManagementRequest => (state, .unsupported, [])

/-- The checks of the dispatcher that produce no response at all. -/
def requestRefused (request : IpcMessage) : Prop :=
  request.requestId = 0 ∨ request.operation = .localManagementRequest ∨
    request.body.length > ipcMaxBodySize
  deriving Decidable

def processRequest (state : NetdState) (request : IpcMessage) (now : Nat)
    (calls : KernelCalls) : NetdState × Except Int IpcMessage :=
  if requestRefused request then (state, .error eInval)
  else
    let answered := answerRequest decode encodeState state request now calls
    (answered.1, .ok {
      kind := .response
      operation := request.operation
      requestId := request.requestId
      error := answered.2.1
      body := answered.2.2 })

end Requests

/-! ## What the transaction functions do -/

/-- An application is refused as a whole, installs both halves, or fails
between them and cannot take its bridge back. -/
theorem applyNetwork_cases (state : NetdState) (config : NetworkConfig) (now : Nat)
    (calls : KernelCalls) :
    (applyNetwork state config now calls).1 = state ∨
      (state.pending = none ∧ calls.applyBridge = 0 ∧
        calls.applyRules ≠ 0 ∧ calls.restoreBridge ≠ 0 ∧
        (applyNetwork state config now calls).1 =
          { state with kernel := { state.kernel with bridge := some config } }) ∨
      (state.pending = none ∧ (applyNetwork state config now calls).1 =
          { state with
            kernel := { bridge := some config, rules := some config }
            pending := some {
              config := config
              checkpoint := state.kernel.bridge
              expiresAt := now + confirmTimeoutSeconds } }) := by
  obtain ⟨kernel, current, waiting⟩ := state
  unfold applyNetwork monotonicSeconds
  cases waiting with
  | some pending => simp
  | none =>
    by_cases clock : calls.clock = 0
    · by_cases late : now > uint64Max - confirmTimeoutSeconds
      · simp [clock, late]
      by_cases bridge : calls.applyBridge = 0
      · by_cases rules : calls.applyRules = 0
        · simp [clock, late, bridge, rules]
        · by_cases restored : calls.restoreBridge = 0
          · simp [clock, late, bridge, rules, restored]
          · simp [clock, late, bridge, rules, restored]
      · simp [clock, late, bridge]
    · simp [clock]

/-- A rollback without its bridge keeps the transaction pending; the rules are
put back exactly when that operation succeeds. -/
theorem rollbackNetwork_pending (waiting : state.pending = some pending)
    (failed : calls.restoreBridge ≠ 0) :
    (rollbackNetwork state calls).1 =
      { state with
        kernel := { state.kernel with
          rules := if putBackRules state calls = 0 then state.current
            else state.kernel.rules } } := by
  simp [rollbackNetwork, waiting, failed]

/-- A rollback with its bridge ends the transaction; the confirmed
configuration is forgotten when its rules could not be put back. -/
theorem rollbackNetwork_ended (waiting : state.pending = some pending)
    (restored : calls.restoreBridge = 0) :
    (rollbackNetwork state calls).1 =
      { kernel := {
          bridge := pending.checkpoint
          rules := if putBackRules state calls = 0 then state.current
            else state.kernel.rules }
        current := if putBackRules state calls = 0 then state.current else none
        pending := none } := by
  by_cases rules : putBackRules state calls = 0
  · simp [rollbackNetwork, waiting, restored, rules]
  · simp [rollbackNetwork, waiting, restored, rules]

/-! ## Actions -/

/-- What a request or an expiry check does to the transaction. -/
inductive Action where
  | apply (config : NetworkConfig)
  | confirm
  | rollback
  | expire
  deriving DecidableEq

section

variable (state : NetdState)

def act (action : Action) (now : Nat) (calls : KernelCalls) : NetdState × Int :=
  match action with
  | .apply config => applyNetwork state config now calls
  | .confirm => confirmNetwork state
  | .rollback => rollbackNetwork state calls
  | .expire => expireNetwork state now calls

/-- An action tries to roll the pending transaction back. -/
def rollsBack (action : Action) (now : Nat) (calls : KernelCalls) : Bool :=
  match action, state.pending with
  | .rollback, some _ => true
  | .expire, some pending => decide (calls.clock = 0) && decide (now ≥ pending.expiresAt)
  | _, _ => false

/-- A rollback puts the confirmed rules back and then fails to restore the
bridge. -/
def undoesRulesOnly (action : Action) (now : Nat) (calls : KernelCalls) : Bool :=
  rollsBack state action now calls &&
    decide (putBackRules state calls = 0) &&
    decide (calls.restoreBridge ≠ 0)

/-- Both halves of the kernel are those of a configuration. -/
def NetdState.Carries (config : NetworkConfig) : Prop :=
  state.kernel.bridge = some config ∧ state.kernel.rules = some config
  deriving Decidable

/-- Without a pending transaction the kernel is that of the confirmed
configuration. -/
def NetdState.Settled : Prop :=
  state.pending = none → ∀ config ∈ state.current, state.Carries config

end

/-- What the record says about the kernel.  `undone` tells that the rules of
the pending transaction were already taken back. -/
structure Consistent (undone : Bool) (state : NetdState) : Prop where
  settled : state.Settled
  bridge : ∀ pending, state.pending = some pending → state.kernel.bridge = some pending.config
  rules : ∀ pending, state.pending = some pending → undone = false →
    state.kernel.rules = some pending.config
  checkpoint : ∀ pending config, state.pending = some pending →
    state.current = some config → pending.checkpoint = some config

/-- The condition on one action: an application that fails at its rules can
take its bridge back from a confirmed configuration, and a transaction whose
rules were already taken back is not confirmed. -/
def Compensated (undone : Bool) (state : NetdState) (action : Action)
    (calls : KernelCalls) : Prop :=
  match action with
  | .apply _ =>
    state.pending = none → state.current ≠ none → calls.applyBridge = 0 → calls.applyRules ≠ 0 →
        calls.restoreBridge = 0
  | .confirm => undone = false
  | .rollback | .expire => True

instance (undone : Bool) (state : NetdState) (action : Action) (calls : KernelCalls) :
    Decidable (Compensated undone state action calls) :=
  match action with
  | .apply _ => inferInstanceAs (Decidable (state.pending = none → _))
  | .confirm => inferInstanceAs (Decidable (undone = false))
  | .rollback => .isTrue trivial
  | .expire => .isTrue trivial

/-- Whether the rules of the pending transaction are taken back after an
action. -/
def undoneAfter (undone : Bool) (state : NetdState) (action : Action)
    (now : Nat) (calls : KernelCalls) : Bool :=
  (act state action now calls).1.pending.isSome &&
    (undone || undoesRulesOnly state action now calls)

theorem Consistent.started (kernel : KernelState) : Consistent false (started kernel) := by
  constructor <;> simp [Netd.started, NetdState.Settled]

theorem Consistent.of_settled (idle : state.pending = none) (settled : state.Settled)
    (undone : Bool) :
    Consistent undone state := by
  constructor
  · exact settled
  all_goals simp [idle]

section

variable (consistent : Consistent undone state)

include consistent

theorem Consistent.weaken (later : state.pending.isSome → undoneLater = false → undone = false) :
    Consistent undoneLater state where
  settled := consistent.settled
  bridge := consistent.bridge
  checkpoint := consistent.checkpoint
  rules := by
    intro pending waiting intact
    exact consistent.rules pending waiting (later (by simp [waiting]) intact)

theorem Consistent.apply (compensated : Compensated undone state (.apply config) calls) :
    Consistent (undoneAfter undone state (.apply config) now calls)
      (applyNetwork state config now calls).1 := by
  rcases applyNetwork_cases state config now calls with
    same | ⟨idle, bridged, failed, stuck, result⟩ | ⟨idle, result⟩
  · rw [same]
    apply consistent.weaken
    intro waiting intact
    simpa [undoneAfter, act, same, waiting, undoesRulesOnly, rollsBack] using intact
  · -- The bridge of the failed application stays, which no confirmed
    -- configuration may have to share.
    have unconfirmed : state.current = none := by
      by_contra confirmed
      exact stuck (compensated idle confirmed bridged failed)
    rw [result]
    refine Consistent.of_settled ?_ ?_ _
    · exact idle
    · intro _ recorded confirmed
      simp [unconfirmed] at confirmed
  · rw [result]
    constructor
    · simp [NetdState.Settled]
    · rintro pending ⟨rfl⟩
      rfl
    · rintro pending ⟨rfl⟩ _
      rfl
    · rintro pending recorded ⟨rfl⟩ confirmed
      exact (consistent.settled idle recorded confirmed).1

theorem Consistent.confirm (compensated : Compensated undone state .confirm calls)
    (undoneLater : Bool) : Consistent undoneLater (confirmNetwork state).1 := by
  unfold confirmNetwork
  cases waiting : state.pending with
  | none => exact Consistent.of_settled waiting consistent.settled _
  | some pending =>
    apply Consistent.of_settled rfl
    rintro _ config ⟨rfl⟩
    exact ⟨consistent.bridge pending waiting, consistent.rules pending waiting compensated⟩

theorem Consistent.rollback (waiting : state.pending = some pending)
    (later : calls.restoreBridge ≠ 0 → undoneLater = false →
      undone = false ∧ putBackRules state calls ≠ 0) :
    Consistent undoneLater (rollbackNetwork state calls).1 := by
  by_cases restored : calls.restoreBridge = 0
  · rw [rollbackNetwork_ended waiting restored]
    apply Consistent.of_settled rfl
    by_cases putBack : putBackRules state calls = 0
    · intro _ config confirmed
      simp only [putBack, if_true, Option.mem_def] at confirmed
      have captured := consistent.checkpoint pending config waiting confirmed
      exact ⟨captured, by simp [putBack, confirmed]⟩
    · intro _ config confirmed
      simp [putBack] at confirmed
  · rw [rollbackNetwork_pending waiting restored]
    constructor
    · intro idle
      simp [waiting] at idle
    · exact consistent.bridge
    · intro same sameWaiting intact
      obtain ⟨kept, failed⟩ := later restored intact
      simpa [failed] using consistent.rules same sameWaiting kept
    · exact consistent.checkpoint

end

/-- An expiry check rolls the transaction back once its deadline is reached
and the clock can be read. -/
theorem expireNetwork_eq :
    (expireNetwork state now calls).1 = if rollsBack state .expire now calls then
        (rollbackNetwork state calls).1
      else state := by
  unfold expireNetwork monotonicSeconds rollsBack
  cases waiting : state.pending with
  | none => simp
  | some pending =>
    by_cases clock : calls.clock = 0
    · by_cases elapsed : now ≥ pending.expiresAt
      · simp [clock, elapsed]
      · simp [clock, elapsed]
    · simp [clock]

/-- An action that rolls back and cannot restore the bridge leaves the rules
of the transaction in place only if it failed at them as well. -/
theorem undoneAfter_rollback (waiting : state.pending = some pending)
    (rolls : rollsBack state action now calls = true)
    (acts : (act state action now calls).1 = (rollbackNetwork state calls).1)
    (stuck : calls.restoreBridge ≠ 0) (intact : undoneAfter undone state action now calls = false) :
    undone = false ∧ putBackRules state calls ≠ 0 := by
  have stillWaiting : (act state action now calls).1.pending = some pending := by
    rw [acts, rollbackNetwork_pending waiting stuck]
    exact waiting
  simpa [undoneAfter, stillWaiting, undoesRulesOnly, rolls, stuck] using intact

theorem Consistent.act (consistent : Consistent undone state)
    (compensated : Compensated undone state action calls) :
    Consistent (undoneAfter undone state action now calls) (act state action now calls).1 := by
  cases action with
  | apply config => exact consistent.apply compensated
  | confirm => exact consistent.confirm compensated _
  | rollback =>
    cases waiting : state.pending with
    | none =>
      have same : (rollbackNetwork state calls).1 = state := by simp [rollbackNetwork, waiting]
      simp only [Netd.act, same]
      exact Consistent.of_settled waiting consistent.settled _
    | some pending =>
      apply consistent.rollback waiting
      intro stuck intact
      have rolls : rollsBack state .rollback now calls = true := by simp [rollsBack, waiting]
      exact undoneAfter_rollback waiting rolls rfl stuck intact
  | expire =>
    by_cases rolls : rollsBack state .expire now calls = true
    · have acts : (Netd.act state .expire now calls).1 = (rollbackNetwork state calls).1 := by
        simp [Netd.act, expireNetwork_eq, rolls]
      cases waiting : state.pending with
      | none => simp [rollsBack, waiting] at rolls
      | some pending =>
        rw [acts]
        apply consistent.rollback waiting
        intro stuck intact
        exact undoneAfter_rollback waiting rolls acts stuck intact
    · have same : (Netd.act state .expire now calls).1 = state := by
        simp [Netd.act, expireNetwork_eq, rolls]
      rw [same]
      apply consistent.weaken
      intro waiting intact
      simpa [undoneAfter, same, waiting, undoesRulesOnly, rolls] using intact

/-! ## Runs of requests and expiry checks -/

/-- One request that reaches the dispatcher, or one expiry check, with the
time and the kernel results it meets. -/
inductive NetdInput where
  | request (message : IpcMessage) (now : Nat) (calls : KernelCalls)
  | expire (now : Nat) (calls : KernelCalls)
  deriving DecidableEq

inductive NetdAnswer where
  | response (result : Except Int IpcMessage)
  | expired (result : Int)

section Runs

variable (decode : Bytes → Except Int NetworkConfig) (encodeState : NetworkState → Except Int Bytes)

def netdStep (state : NetdState) : NetdInput → NetdState × NetdAnswer
  | .request message now calls =>
    let answered := processRequest decode encodeState state message now calls
    (answered.1, .response answered.2)
  | .expire now calls =>
    let checked := expireNetwork state now calls
    (checked.1, .expired checked.2)

def requestAction (request : IpcMessage) : Option Action :=
  if requestRefused request ∨ request.kind ≠ .request ∨ request.error ≠ .none then none
  else
    match request.operation with
    | .networkApply => (decode request.body).toOption.map .apply
    | .networkConfirm => if request.body = [] then some .confirm else none
    | .networkRollback => if request.body = [] then some .rollback else none
    | _ => none

theorem processRequest_state (state : NetdState) (request : IpcMessage) (now : Nat)
    (calls : KernelCalls) :
    (processRequest decode encodeState state request now calls).1 =
      match requestAction decode request with
      | some action => (act state action now calls).1
      | none => state := by
  unfold processRequest requestAction answerRequest
  by_cases refused : requestRefused request
  · simp [refused]
  by_cases malformed : request.kind ≠ .request ∨ request.error ≠ .none
  · simp [refused, malformed]
  simp only [refused, malformed, or_self, if_false]
  cases operation : request.operation with
  | networkApply | networkValidate => cases decode request.body <;> rfl
  | networkConfirm => by_cases empty : request.body = [] <;> simp [empty, act]
  | networkRollback => by_cases empty : request.body = [] <;> simp [empty, act]
  | networkState =>
    by_cases empty : request.body = []
    · cases getNetworkState state now calls with
      | error result => simp [empty]
      | ok snapshot => cases encoded : encodeState snapshot <;> simp [empty, encoded]
    · simp [empty]
  | _ => rfl

def NetdInput.action : NetdInput → Option Action
  | .request message _ _ => requestAction decode message
  | .expire _ _ => some .expire

def NetdInput.now : NetdInput → Nat
  | .request _ now _ => now
  | .expire now _ => now

def NetdInput.calls : NetdInput → KernelCalls
  | .request _ _ calls => calls
  | .expire _ calls => calls

theorem netdStep_state (state : NetdState) (input : NetdInput) :
    (netdStep decode encodeState state input).1 = match input.action decode with
      | some action => (act state action input.now input.calls).1
      | none => state := by
  cases input with
  | request message now calls =>
    exact processRequest_state decode encodeState state message now calls
  | expire now calls => rfl

abbrev NetdEvent := Event NetdState NetdInput NetdAnswer

/-- Whether the rules of the pending transaction were taken back by an earlier
rollback that could not restore the bridge. -/
def rulesUndone (past : List NetdEvent) : Bool :=
  past.foldl (fun undone event =>
    match event.input.action decode with
    | some action => undoneAfter undone event.before action event.input.now event.input.calls
    | none => undone) false

def StepCompensated (past : List NetdEvent) (state : NetdState) (input : NetdInput) : Prop :=
  ∀ action ∈ input.action decode, Compensated (rulesUndone decode past) state action input.calls
  deriving Decidable

def confirmed (message : IpcMessage) : Except Int IpcMessage → Bool
  | .ok response =>
    decide (message.operation = .networkConfirm) &&
      decide (response.error = .none)
  | .error _ => false

/-- The step answers a confirmation request without an error. -/
def confirmSucceeds (event : NetdEvent) : Bool :=
  match event.input, event.answer with
  | .request message _ _, .response answer => confirmed message answer
  | _, _ => false

variable {decode encodeState}

theorem requestAction_confirm (asked : requestAction decode message = some .confirm) :
    message.operation = .networkConfirm := by
  unfold requestAction at asked
  split at asked
  · cases asked
  · cases operation : message.operation <;> simp [operation] at asked ⊢

theorem confirmed_iff :
    confirmed message (processRequest decode encodeState state message now calls).2 = true ↔
      requestAction decode message = some .confirm ∧ state.pending.isSome = true := by
  by_cases confirms : message.operation = .networkConfirm
  · unfold processRequest requestAction answerRequest
    by_cases refused : requestRefused message
    · simp [refused, confirmed]
    by_cases malformed : message.kind ≠ .request ∨ message.error ≠ .none
    · simp [refused, malformed, confirmed]
    by_cases empty : message.body = []
    · have busy : resultError eBusy ≠ .none := by decide
      have done : resultError 0 = .none := rfl
      cases waiting : state.pending <;>
        simp [refused, malformed, confirms, empty, confirmed, confirmNetwork, waiting, busy, done]
    · simp [refused, confirms, empty, confirmed]
  · have unconfirmed : ∀ answer, confirmed message answer = false := by
      intro answer
      cases answer <;> simp [confirmed, confirms]
    have unasked : requestAction decode message ≠ some .confirm :=
      fun asked => confirms (requestAction_confirm asked)
    simp [unconfirmed, unasked]

theorem confirm_recorded
    (made : event = eventOf (netdStep decode encodeState) event.before event.input)
    (succeeds : confirmSucceeds event = true) :
    ∃ pending, event.before.pending = some pending ∧ event.after =
        { event.before with current := some pending.config, pending := none } := by
  obtain ⟨before, input, answer, after⟩ := event
  cases input with
  | expire now calls => simp [confirmSucceeds] at succeeds
  | request message now calls =>
    simp only [eventOf, netdStep, Event.mk.injEq, true_and] at made
    obtain ⟨rfl, rfl⟩ := made
    obtain ⟨asked, waiting⟩ := confirmed_iff.mp succeeds
    obtain ⟨pending, waiting⟩ := Option.isSome_iff_exists.mp waiting
    refine ⟨pending, waiting, ?_⟩
    rw [processRequest_state, asked]
    simp [act, confirmNetwork, waiting]

theorem consistent_step (past : List NetdEvent) (state : NetdState) (input : NetdInput)
    (consistent : Consistent (rulesUndone decode past) state)
    (compensated : StepCompensated decode past state input) :
    Consistent (rulesUndone decode (past ++ [eventOf (netdStep decode encodeState) state input]))
      (netdStep decode encodeState state input).1 := by
  rw [netdStep_state]
  simp only [rulesUndone, foldl_append, foldl_cons, foldl_nil, eventOf]
  cases asked : input.action decode with
  | none => exact consistent
  | some action => exact consistent.act (compensated action asked)

/-- In every run whose steps can compensate, the kernel is that of the
confirmed configuration whenever nothing is pending, and a confirmation
succeeds only on a kernel that carries what it confirms. -/
theorem kernel_matches_record (decode : Bytes → Except Int NetworkConfig)
    (encodeState : NetworkState → Except Int Bytes)
    (kernel : KernelState) (inputs : List NetdInput)
    (compensated : Meets (StepCompensated decode)
      (run (netdStep decode encodeState) (started kernel) inputs)) :
    ∀ event ∈ run (netdStep decode encodeState) (started kernel) inputs,
      event.before.Settled ∧ event.after.Settled ∧ (confirmSucceeds event = true →
          ∃ pending, event.before.pending = some pending ∧
            event.after.current = some pending.config ∧
            event.after.Carries pending.config) := by
  intro event member
  obtain ⟨past, future, split⟩ := append_of_mem member
  have around := invariant_run (fun past state => Consistent (rulesUndone decode past) state)
    consistent_step (Consistent.started kernel) compensated split
  refine ⟨around.1.settled, around.2.settled, ?_⟩
  intro succeeds
  obtain ⟨pending, waiting, recorded⟩ := confirm_recorded (event_eq member) succeeds
  refine ⟨pending, waiting, by rw [recorded], ?_⟩
  exact around.2.settled (by rw [recorded]) pending.config (by rw [recorded]; rfl)

def firstConfig : NetworkConfig where
  bridge := "br0"
  ingress := "eth0"
  egress := "eth1"
  management := "eth2"
  bridgeMtu := 1500
  queueFirst := 0
  queueCount := 4
  queueLength := 1024
  failureMode := .failClosed
  stp := false
  multicastSnooping := false
  queueCpuFanout := false

def secondConfig : NetworkConfig := { firstConfig with bridge := "br1", queueFirst := 8 }

/-- Two request bodies and the configurations they stand for. -/
def sampleDecode (body : Bytes) : Except Int NetworkConfig :=
  if body = [1] then .ok firstConfig
  else if body = [2] then .ok secondConfig
  else .error eProto

def sampleEncode (_ : NetworkState) : Except Int Bytes := .ok []

def allSucceed : KernelCalls where
  clock := 0
  validate := 0
  applyBridge := 0
  applyRules := 0
  removeRules := 0
  restoreBridge := 0

def requestAt (now : Nat) (operation : IpcOperation) (body : Bytes)
    (calls : KernelCalls) : NetdInput :=
  .request {
    kind := .request
    operation := operation
    requestId := 1
    error := .none
    body := body } now calls

def confirmFirst : List NetdInput :=
  [requestAt 10 .networkApply [1] allSucceed, requestAt 20 .networkConfirm [] allSucceed]

/-- A failed application and a rollback of a second one; every compensation
succeeds. -/
def compensatedInputs : List NetdInput :=
  confirmFirst ++ [requestAt 30 .networkApply [2] { allSucceed with applyRules := eInval },
      requestAt 40 .networkApply [2] allSucceed, .expire 200 allSucceed]

theorem kernel_matches_record_compensated : Meets (StepCompensated sampleDecode)
      (run (netdStep sampleDecode sampleEncode) (started ⟨none, none⟩) compensatedInputs) ∧
      ∀ event ∈ run (netdStep sampleDecode sampleEncode) (started ⟨none, none⟩) compensatedInputs,
        event.before.Settled ∧ event.after.Settled ∧ (confirmSucceeds event = true →
            ∃ pending, event.before.pending = some pending ∧
              event.after.current = some pending.config ∧
              event.after.Carries pending.config) := by
  have compensated : Meets (StepCompensated sampleDecode)
      (run (netdStep sampleDecode sampleEncode) (started ⟨none, none⟩) compensatedInputs) :=
    meets_of_meetsFrom (by decide +kernel)
  exact ⟨compensated, kernel_matches_record sampleDecode sampleEncode
    ⟨none, none⟩ compensatedInputs compensated⟩

/-- The rules of a second application fail and its bridge cannot be taken
back. -/
def strandedInputs : List NetdInput :=
  confirmFirst ++ [requestAt 30 .networkApply [2]
      { allSucceed with applyRules := eInval, restoreBridge := eIo }]

/-- A rollback that cannot restore the bridge, then a confirmation. -/
def halfUndoneInputs : List NetdInput :=
  confirmFirst ++ [requestAt 30 .networkApply [2] allSucceed,
      requestAt 40 .networkRollback [] { allSucceed with restoreBridge := eIo },
      requestAt 50 .networkConfirm [] allSucceed]

/-- After a stranded application the confirmed configuration runs on the
bridge of the refused one; after half a rollback a confirmation succeeds with
the rules of the configuration before it. -/
theorem kernel_leaves_record : (∃ event ∈ run (netdStep sampleDecode sampleEncode)
        (started ⟨none, none⟩) strandedInputs,
      event.after.pending = none ∧ event.after.current = some firstConfig ∧
        event.after.kernel.bridge = some secondConfig) ∧
      ∃ event ∈ run (netdStep sampleDecode sampleEncode) (started ⟨none, none⟩) halfUndoneInputs,
        confirmSucceeds event = true ∧ event.after.current = some secondConfig ∧
          event.after.kernel.bridge = some secondConfig ∧
          event.after.kernel.rules = some firstConfig := by
  decide +kernel

end Runs

end JanusGate.Netd
