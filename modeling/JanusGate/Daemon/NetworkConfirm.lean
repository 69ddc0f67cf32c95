import JanusGate.Common.NetworkCodec
import JanusGate.Daemon.ManagementRecovery
import JanusGate.Netd.Transaction

/-!
# The confirmation of a network change

The handler of `management_network.c` that makes a pending network change
permanent, with the network row of `database_configuration.c`, the requests of
`netd_client.c` and the compensation of `management_recovery.c`.  The row and
the helper change one after the other, and every request to the helper may
fail before it gets there.

A body that crosses to the helper and back is read as it was written, except
for the configuration of an application, which is encoded and decoded.
-/

namespace JanusGate

open Crash Network Recovery

/-- The row of the table `network_configuration`; its value is the stable body
of a configuration. -/
structure NetworkRow where
  value : Bytes
  updatedAt : Nat
  revision : Nat
  deriving DecidableEq

structure NetworkRecord where
  config : NetworkConfig
  updatedAt : Nat
  revision : Nat
  deriving DecidableEq

structure NetworkAudit where
  occurredAt : Nat
  origin : OperationOrigin
  config : NetworkConfig
  operationResult : Int
  previousRevision : Nat
  newRevision : Option Nat
  deriving DecidableEq

structure NetworkData where
  row : Option NetworkRow
  audit : List NetworkAudit
  deriving DecidableEq

/-- The management process with its resources, and the helper. -/
structure NetworkPlant (φ : Type) where
  management : ManagementState NetworkData φ
  netd : Netd.NetdState
  externalRecoveryDegraded : Bool

namespace NetworkConfirm

/-- The calls that read or write the network row. -/
inductive StoreCall where
  | handler
  | previous
  | replacement
  | recovered
  deriving DecidableEq

inductive StoreSite where
  | load (call : StoreCall)
  | update (call : StoreCall)
  | reload (call : StoreCall)
  | audit
  deriving DecidableEq

/-- The requests to the helper, in the order of the source. -/
inductive NetdCall where
  | pendingState
  | confirm
  | recoveryState
  | recoveryRollback
  | recoveryApply
  | storeRollback
  | recoveryConfirm
  | finalRollback
  | confirmedState
  deriving DecidableEq

/-- What one confirmation takes from outside; a request that fails never reaches the helper. -/
structure ConfirmCalls (φ : Type) where
  recovery : Recovery.RecoveryCall NetworkData φ
  store : StoreSite → Fate
  requests : NetdCall → Int
  helperClock : NetdCall → Nat
  unixEpoch : StoreCall → Nat

variable {φ : Type} (calls : ConfirmCalls φ)

abbrev PlantStep (φ α : Type) := Proc (NetworkPlant φ) α

def onManagement {α : Type} (step : Recovery.Step NetworkData φ α) : PlantStep φ α :=
  zoom (·.management) (fun management plant => { plant with management := management }) step

/-! ## The network row -/

def networkRow (plant : NetworkPlant φ) : Option NetworkRow := plant.management.database.data.row

def setRow (row : NetworkRow) (plant : NetworkPlant φ) : NetworkPlant φ :=
  { plant with
    management := setData { plant.management.database.data with row := some row }
      plant.management }

def loadNetworkConfigRecord (fate : Fate) : PlantStep φ NetworkRecord := do
  act fate id
  match ← look networkRow with
  | none => fail eNoEnt
  | some row =>
    match networkConfigDecode row.value with
    | .error _ => fail eIlSeq
    | .ok config =>
      if row.revision = 0 then fail eIlSeq
      else
        pure {
          config := config
          updatedAt := row.updatedAt
          revision := row.revision }

def updatable (expectedRevision : Nat) (row : NetworkRow) : Bool :=
  row.revision == expectedRevision && decide (row.revision < int64Max)

def replaceNetworkConfig (call : StoreCall) (config : NetworkConfig) (expectedRevision : Nat) :
    PlantStep φ NetworkRecord :=
  if expectedRevision = 0 ∨ expectedRevision > int64Max then fail eInval
  else
    match networkConfigEncode config configWireSize with
    | .error result => fail result
    | .ok wire => do
        let row ← look networkRow
        match row.filter (updatable expectedRevision) with
        | some row => do
            act (calls.store (.update call)) (setRow {
              value := wire
              updatedAt := calls.unixEpoch call
              revision := row.revision + 1 })
            loadNetworkConfigRecord (calls.store (.reload call))
        | none => do
            act (calls.store (.update call)) id
            let current ← loadNetworkConfigRecord (calls.store (.reload call))
            if current.revision ≠ expectedRevision then fail eAgain
            else if current.revision = int64Max then fail eOverflow
            else fail eIo

def restorePersistentNetwork (call : StoreCall) (config : NetworkConfig) : PlantStep φ Unit := do
  let current ← loadNetworkConfigRecord (calls.store (.load call))
  if current.config ≠ config then let _ ← replaceNetworkConfig calls call config current.revision

def addAudit (event : NetworkAudit) (plant : NetworkPlant φ) : NetworkPlant φ :=
  { plant with
    management := setData
      { plant.management.database.data with
        audit := plant.management.database.data.audit ++ [event] }
      plant.management }

def appendNetworkAudit (event : NetworkAudit) : PlantStep φ Unit :=
  act (calls.store .audit) (addAudit event)

/-! ## Requests to the helper -/

def remoteError : Netd.IpcError → Int
  | .none => 0
  | .malformed => -71
  | .version => -93
  | .unauthorized => -13
  | .unsupported => -95
  | .invalid => -22
  | .conflict => -16
  | .timeout => -110
  | .system => -5

section

variable (request : NetdCall)

def netdRequest (serve : Netd.NetdState → Netd.NetdState × Int) : PlantStep φ Unit :=
  fun plant =>
    if calls.requests request ≠ 0 then (plant, .failed (calls.requests request))
    else
      let served := serve plant.netd
      let plant := { plant with netd := served.1 }
      if served.2 ≠ 0 then (plant, .failed (remoteError (Netd.resultError served.2)))
      else (plant, .returned ())

def netdClientApply (config : NetworkConfig) : PlantStep φ Unit :=
  match networkConfigEncode config configWireSize with
  | .error result => fail result
  | .ok body =>
    netdRequest calls request fun netd =>
      match networkConfigDecode body with
      | .error result => (netd, result)
      | .ok config => Netd.applyNetwork netd config (calls.helperClock request) Netd.allSucceed

def netdClientConfirm : PlantStep φ Unit :=
  netdRequest calls request Netd.confirmNetwork

def netdClientRollback : PlantStep φ Unit :=
  netdRequest calls request fun netd => Netd.rollbackNetwork netd Netd.allSucceed

def netdClientState : PlantStep φ NetworkState := do
  let netd ← look (·.netd)
  if calls.requests request ≠ 0 then fail (calls.requests request)
  else
    match Netd.getNetworkState netd (calls.helperClock request) Netd.allSucceed with
    | .error result => fail (remoteError (Netd.bodyError result))
    | .ok state => pure state

end

/-! ## Compensation -/

def recoveryConfigs (payload : Bytes) : Option (NetworkConfig × NetworkConfig) :=
  if payload.length ≠ 1 + configWireSize * 2 ∨ byteAt payload 0 ≠ recoveryVersion then none
  else
    match networkConfigDecode (slice payload 1 configWireSize), networkConfigDecode
        (slice payload (1 + configWireSize) configWireSize) with
    | .ok previous, .ok replacement => some (previous, replacement)
    | _, _ => none

/-- Take a pending transaction of the helper back.  That there is none is no
error. -/
def retractPending : PlantStep φ Unit := do
  match ← attempt (do
      let state ← netdClientState calls .recoveryState
      if state.pendingConfig.isSome then netdClientRollback calls .recoveryRollback) with
  | .ok _ => pure ()
  | .error status => if status = eBusy then pure () else fail status

def storePrevious (previous : NetworkConfig) : PlantStep φ Unit := do
  match ← attempt (restorePersistentNetwork calls .previous previous) with
  | .ok _ => pure ()
  | .error status => do
      let _ ← attempt (netdClientRollback calls .storeRollback)
      fail status

/-- Apply, store and confirm the previous configuration again. -/
def reinstatePrevious (previous : NetworkConfig) : PlantStep φ Unit := do
  retractPending calls
  netdClientApply calls .recoveryApply previous
  storePrevious calls previous
  netdClientConfirm calls .recoveryConfirm

/-- What a failed compensation does: roll the helper back and store the
replacement again. -/
def abandonPrevious (replacement : NetworkConfig) (status : Int) : PlantStep φ Unit := do
  let rolledBack ← attempt (netdClientRollback calls .finalRollback)
  let stored ← attempt (restorePersistentNetwork calls .replacement replacement)
  match rolledBack, stored with
  | .ok _, .ok _ => fail status
  | .error failure, .ok _ => fail (if failure ≠ eBusy then eIo else status)
  | _, .error _ => fail eIo

def restoreRecoveryNetwork (payload : Bytes) : PlantStep φ Unit :=
  match recoveryConfigs payload with
  | none => fail eIlSeq
  | some (previous, replacement) => do
      match ← attempt (reinstatePrevious calls previous) with
      | .ok _ => pure ()
      | .error status => abandonPrevious calls replacement status

def restoreOperation (operation : ManagementOperation) : PlantStep φ Unit :=
  if operation.kind = .networkConfirm ∧ operation.ready = true then
    restoreRecoveryNetwork calls operation.payload
  else onManagement (Recovery.restoreOperation calls.recovery operation)

def recoverPendingOperation : PlantStep φ Unit := do
  onManagement (reconcileBackups calls.recovery.faults)
  onManagement (act (calls.recovery.faults .load) id)
  match ← look (·.management.database.operation) with
  | none => onManagement (cleanupRecoverySnapshots calls.recovery.faults)
  | some operation => do
      restoreOperation calls operation
      onManagement (finishRecoveredOperation calls.recovery operation)
      onManagement (cleanupRecoverySnapshots calls.recovery.faults)

/-- `mark_management_degraded` with the reason of an external recovery. -/
def markDegraded : PlantStep φ Unit :=
  act .done fun plant => { plant with externalRecoveryDegraded := true }

/-- Compensate a failed external operation using its durable intent, and
report its result. -/
def abortRecoveryOperation (operationResult : Int) : PlantStep φ Int := do
  match ← attempt (recoverPendingOperation calls) with
  | .ok _ => pure operationResult
  | .error _ => do
      markDegraded
      pure eIo

/-- The transaction that appends the final audit event and clears the
record. -/
def retireConfirmed (event : NetworkAudit) : PlantStep φ Unit :=
  transaction (do
    appendNetworkAudit calls event
    onManagement (operationClear calls.recovery.faults)
    act (calls.recovery.faults .retire) id)

def finishRecoveryOperation (event : NetworkAudit) : PlantStep φ Int := do
  match ← attempt (retireConfirmed calls event) with
  | .ok _ => do
      let _ ← attempt (onManagement (cleanupRecoverySnapshots calls.recovery.faults))
      pure 0
  | .error status => do
      match ← attempt (recoverPendingOperation calls) with
      | .ok _ => pure status
      | .error _ => do
          markDegraded
          pure eIo

def startNetworkRecovery (previous replacement : NetworkConfig) (origin : OperationOrigin)
    (now : Nat) : PlantStep φ Unit :=
  match networkConfigEncode previous configWireSize,
    networkConfigEncode replacement configWireSize with
  | .error result, _ => fail result
  | .ok _, .error result => fail result
  | .ok previous, .ok replacement =>
    onManagement (startRecoveryOperation calls.recovery.faults {
      kind := .networkConfirm
      ready := false
      payload := recoveryVersion :: (previous ++ replacement)
      createdAt := now
      origin := origin } 0 false)

end NetworkConfirm

/-! ## The request -/

/-- A confirmation request after its transport checks. -/
structure ConfirmRequest where
  actor : Int
  query : Bytes
  revision : Except Int Nat
  origin : OperationOrigin
  now : Nat

inductive ConfirmError where
  | rateLimited
  | forbidden
  | authenticationRequired
  | invalidRequest
  | networkUnconfigured
  | networkUnavailable
  | attemptNotAudited
  | revisionConflict
  | transactionAbsent
  | stateUnavailable
  | operationConflict
  | recoveryUnavailable
  | storeNotRecovered
  | storeFailure
  | recoveryNotAudited
  | confirmNotRecovered
  | confirmFailure
  | confirmationNotCommitted
  deriving DecidableEq

namespace ConfirmError

def status : ConfirmError → Nat
  | rateLimited => 429
  | forbidden => 403
  | authenticationRequired => 401
  | invalidRequest => 400
  | networkUnconfigured => 404
  | revisionConflict | transactionAbsent | operationConflict => 409
  | stateUnavailable | recoveryUnavailable | storeNotRecovered
  | confirmNotRecovered => 503
  | networkUnavailable | attemptNotAudited | storeFailure
  | recoveryNotAudited | confirmFailure | confirmationNotCommitted => 500

def code : ConfirmError → String
  | rateLimited => "rate_limited"
  | forbidden => "forbidden"
  | authenticationRequired => "authentication_required"
  | invalidRequest => "invalid_request"
  | networkUnconfigured => "network_unconfigured"
  | networkUnavailable => "network_unavailable"
  | attemptNotAudited | recoveryNotAudited | confirmationNotCommitted => "audit_failure"
  | revisionConflict => "revision_conflict"
  | transactionAbsent => "network_transaction_absent"
  | stateUnavailable => "network_state_unavailable"
  | operationConflict => "operation_conflict"
  | recoveryUnavailable => "recovery_unavailable"
  | storeNotRecovered | confirmNotRecovered => "network_recovery_failure"
  | storeFailure => "network_store_failure"
  | confirmFailure => "network_confirm_failure"

def message : ConfirmError → String
  | rateLimited => "The API token request limit was exceeded."
  | forbidden => "The authenticated identity is not authorized."
  | authenticationRequired => "Valid authentication is required."
  | invalidRequest => "The network confirmation request is invalid."
  | networkUnconfigured => "Network configuration has not been initialized."
  | networkUnavailable => "Network configuration could not be read."
  | attemptNotAudited => "The network attempt could not be audited."
  | revisionConflict => "The network configuration revision has changed."
  | transactionAbsent => "No network transaction is awaiting confirmation."
  | stateUnavailable => "The pending network state could not be read."
  | operationConflict => "Another recoverable management operation is in progress."
  | recoveryUnavailable => "Durable network recovery could not be prepared."
  | storeNotRecovered => "The failed network confirmation could not be recovered."
  | storeFailure => "The pending network configuration could not be persisted."
  | recoveryNotAudited => "The network recovery could not be audited."
  | confirmNotRecovered => "The network change could not be restored consistently."
  | confirmFailure => "The network change was not confirmed and was restored."
  | confirmationNotCommitted => "The network confirmation was not committed."

end ConfirmError

inductive ConfirmResponse where
  | confirmed (record : NetworkRecord) (runtime : Option NetworkState)
  | refused (error : ConfirmError)
  deriving DecidableEq

namespace NetworkConfirm

variable {φ : Type} (calls : ConfirmCalls φ)

def respondActorError (result : Int) : ConfirmResponse :=
  if result = eAgain then .refused .rateLimited
  else if result = -1 then .refused .forbidden
  else .refused .authenticationRequired

def audited (event : NetworkAudit) (unaudited answer : ConfirmError) :
    PlantStep φ ConfirmResponse := do
  match ← attempt (appendNetworkAudit calls event) with
  | .ok _ => pure (.refused answer)
  | .error _ => pure (.refused unaudited)

variable (request : ConfirmRequest) (record : NetworkRecord)

def attemptEvent (config : NetworkConfig) (operationResult : Int)
    (newRevision : Option Nat) : NetworkAudit where
  occurredAt := request.now
  origin := request.origin
  config := config
  operationResult := operationResult
  previousRevision := record.revision
  newRevision := newRevision

variable (pendingConfig : NetworkConfig)

def storeFailed (operationResult : Int) : PlantStep φ ConfirmResponse := do
  let recoveryResult ← abortRecoveryOperation calls operationResult
  audited calls (attemptEvent request record pendingConfig
      (if recoveryResult = eIo then eIo else operationResult) none)
    .attemptNotAudited
    (if recoveryResult = eIo then .storeNotRecovered
      else if operationResult = eAgain then .revisionConflict
      else .storeFailure)

def confirmFailed (operationResult : Int) : PlantStep φ ConfirmResponse := do
  let recoveryResult ← abortRecoveryOperation calls operationResult
  let recovered ← attempt (loadNetworkConfigRecord (calls.store (.load .recovered)))
  audited calls (attemptEvent request record pendingConfig
      (if recoveryResult = eIo then eIo else operationResult)
      (match recovered with
        | .ok recovered => some recovered.revision
        | .error _ => none))
    .recoveryNotAudited
    (if recoveryResult = eIo then .confirmNotRecovered else .confirmFailure)

def confirmSucceeded (record updated : NetworkRecord) : PlantStep φ ConfirmResponse := do
  let auditResult ← finishRecoveryOperation calls
    (attemptEvent request record updated.config 0 (some updated.revision))
  if auditResult ≠ 0 then pure (.refused .confirmationNotCommitted)
  else do
    let state ← attempt (netdClientState calls .confirmedState)
    pure (.confirmed updated state.toOption)

def confirmPending : PlantStep φ ConfirmResponse := do
  match ← attempt (replaceNetworkConfig calls .handler pendingConfig record.revision) with
  | .error operationResult => storeFailed calls request record pendingConfig operationResult
  | .ok updated => do
      match ← attempt (netdClientConfirm calls .confirm) with
      | .error operationResult => confirmFailed calls request record pendingConfig operationResult
      | .ok _ => confirmSucceeded calls request record updated

def confirmRecord (revision : Nat) (record : NetworkRecord) : PlantStep φ ConfirmResponse :=
  if record.revision ≠ revision then
    audited calls (attemptEvent request record record.config eAgain none)
      .attemptNotAudited .revisionConflict
  else do
    match ← attempt (netdClientState calls .pendingState) with
    | .error result =>
      audited calls (attemptEvent request record record.config result none) .attemptNotAudited
        (if result = eBusy then .transactionAbsent else .stateUnavailable)
    | .ok state =>
      match state.pendingConfig with
      | none =>
        audited calls (attemptEvent request record record.config eBusy none)
          .attemptNotAudited .transactionAbsent
      | some pendingConfig => do
          match ← attempt (startNetworkRecovery calls record.config
              pendingConfig request.origin request.now) with
          | .error result =>
            pure (.refused (if result = eBusy
              then .operationConflict else .recoveryUnavailable))
          | .ok _ => confirmPending calls request record pendingConfig

end NetworkConfirm

open NetworkConfirm in
def handleNetworkConfirm {φ : Type} (calls : ConfirmCalls φ)
    (request : ConfirmRequest) : PlantStep φ ConfirmResponse :=
  if request.actor ≠ 0 then pure (respondActorError request.actor)
  else
    match request.query, request.revision with
    | [], .ok revision => do
        match ← attempt (loadNetworkConfigRecord (calls.store (.load .handler))) with
        | .error result =>
          pure (.refused (if result = eNoEnt
            then .networkUnconfigured else .networkUnavailable))
        | .ok record => confirmRecord calls request revision record
    | _, _ => pure (.refused .invalidRequest)

end JanusGate
