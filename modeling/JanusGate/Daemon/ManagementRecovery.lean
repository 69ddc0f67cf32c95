import JanusGate.Common.Audit
import JanusGate.Foundation.Crash
import Mathlib.Logic.Function.Basic

/-!
# Durable recovery of management operations

The recovery journal of `management_recovery.c` and `database_operation.c`, and
the backup restore of `management_backup.c` that relies on it.  The journal is
one record of the database.  Before an operation touches anything, the tracked
files and the database, record included, are copied aside.

A transaction, a copy of a database and the replacement of a file are single
actions.  Each place of the source that performs or may refuse one is a
`Site`; what becomes of it is given from outside, so that a process can fail or
stop anywhere.
-/

namespace JanusGate

open Crash

inductive RecoveryFile where
  | certificate
  | pendingKey
  | clientCa
  | totpKey
  deriving DecidableEq

inductive OperationKind where
  | certificateCsr
  | certificateInstall
  | mtlsAuthorities
  | backupCreate
  | backupRestore
  | networkConfirm
  deriving DecidableEq

structure OperationOrigin where
  actorType : Audit.AuditActorType
  actorId : Option Nat
  source : Bytes
  requestId : Bytes
  requestedAction : Bytes
  deriving DecidableEq

structure ManagementOperation where
  kind : OperationKind
  ready : Bool
  payload : Bytes
  createdAt : Nat
  origin : OperationOrigin
  deriving DecidableEq

inductive RecoveryAuditAction where
  | recover
  | discard
  | restore
  deriving DecidableEq

structure RecoveryAudit where
  occurredAt : Int
  action : RecoveryAuditAction
  operation : ManagementOperation
  deriving DecidableEq

structure ManagementDatabase (δ : Type) where
  data : δ
  operation : Option ManagementOperation
  audit : List RecoveryAudit
  deriving DecidableEq

/-- What survives a stop of the process: the database, the files and their copies. -/
structure ManagementState (δ φ : Type) where
  database : ManagementDatabase δ
  checkpoint : Option (ManagementDatabase δ)
  files : RecoveryFile → Option φ
  snapshots : RecoveryFile → Option φ

namespace Recovery

def recoveryVersion : UInt8 := 1

def fileBit : RecoveryFile → UInt8
  | .certificate => 1
  | .pendingKey => 2
  | .clientCa => 4
  | .totpKey => 8

def fileOrder : List RecoveryFile := [.certificate, .pendingKey, .clientCa, .totpKey]

theorem mem_fileOrder (file : RecoveryFile) : file ∈ fileOrder := by cases file <;> decide

instance decidableForallFile (p : RecoveryFile → Prop) [DecidablePred p] :
    Decidable (∀ file, p file) :=
  decidable_of_iff (∀ file ∈ fileOrder, p file)
    ⟨fun listed file => listed file (mem_fileOrder file), fun every file _ => every file⟩

def selects (mask : UInt8) (file : RecoveryFile) : Bool := mask &&& fileBit file != 0

def fileMask (chosen : RecoveryFile → Bool) : UInt8 :=
  (if chosen .certificate then fileBit .certificate else 0) |||
    (if chosen .pendingKey then fileBit .pendingKey else 0) |||
    (if chosen .clientCa then fileBit .clientCa else 0) |||
    (if chosen .totpKey then fileBit .totpKey else 0)

inductive Site where
  | prepare
  | inspectFile (file : RecoveryFile)
  | copyAside (file : RecoveryFile)
  | createCheckpoint
  | markReady
  | removeSnapshot (file : RecoveryFile)
  | removeCheckpoint
  | clear
  | reconcile
  | load
  | openCheckpoint
  | saveCurrent
  | copyDatabase
  | checkDatabase
  | copyBack
  | closeSaved
  | closeCheckpoint
  | restoreFile (file : RecoveryFile)
  | loadTotpKey
  | retire
  | openBackup
  | installFile (file : RecoveryFile)
  | advanceSync
  | recordSync
  deriving DecidableEq

abbrev Faults := Site → Fate

variable {δ φ : Type}

abbrev Step (δ φ α : Type) := Proc (ManagementState δ φ) α

/-! ## Single changes -/

def setDatabase (database : ManagementDatabase δ)
    (state : ManagementState δ φ) : ManagementState δ φ :=
  { state with database := database }

def setOperation (operation : Option ManagementOperation)
    (state : ManagementState δ φ) : ManagementState δ φ :=
  setDatabase { state.database with operation := operation } state

def setData (data : δ) (state : ManagementState δ φ) : ManagementState δ φ :=
  setDatabase { state.database with data := data } state

def setCheckpoint (checkpoint : Option (ManagementDatabase δ))
    (state : ManagementState δ φ) : ManagementState δ φ :=
  { state with checkpoint := checkpoint }

def setFile (file : RecoveryFile) (content : Option φ)
    (state : ManagementState δ φ) : ManagementState δ φ :=
  { state with files := Function.update state.files file content }

def setSnapshot (file : RecoveryFile) (content : Option φ)
    (state : ManagementState δ φ) : ManagementState δ φ :=
  { state with snapshots := Function.update state.snapshots file content }

/-- Append an audit event and remove the record in one transaction. -/
def retired (event : RecoveryAudit) (state : ManagementState δ φ) : ManagementState δ φ :=
  setDatabase { state.database with
    operation := none, audit := state.database.audit ++ [event] } state

/-! ## The operation record -/

variable (faults : Faults)

def operationPrepare (operation : ManagementOperation) : Step δ φ Unit := do
  match ← look (·.database.operation) with
  | some _ => fail eBusy
  | none => act (faults .prepare) (setOperation (some { operation with ready := false }))

def operationMarkReady : Step δ φ Unit := do
  match ← look (·.database.operation) with
  | none => fail eNoEnt
  | some operation =>
    if operation.ready then fail eNoEnt
    else act (faults .markReady) (setOperation (some { operation with ready := true }))

def operationClear : Step δ φ Unit := do
  match ← look (·.database.operation) with
  | none => fail eNoEnt
  | some _ => act (faults .clear) (setOperation none)

def retireOperation (event : RecoveryAudit) : Step δ φ Unit := do
  match ← look (·.database.operation) with
  | none => fail eNoEnt
  | some _ => act (faults .retire) (retired event)

/-! ## Copies of files and of the database -/

def copyAside (file : RecoveryFile) : Step δ φ Unit := do
  match ← look (·.files file) with
  | none => fail eNoEnt
  | some content => act (faults (.copyAside file)) (setSnapshot file (some content))

def createRecoverySnapshots (files : UInt8) (database : Bool) : Step δ φ Unit := do
  each (copyAside faults) (fileOrder.filter (selects files))
  if database then
    act (faults .createCheckpoint) (fun state => setCheckpoint (some state.database) state)

def removeSnapshot (file : RecoveryFile) : Step δ φ Unit := do
  match ← look (·.snapshots file) with
  | none => pure ()
  | some _ => act (faults (.removeSnapshot file)) (setSnapshot file none)

def removeCheckpoint : Step δ φ Unit := do
  match ← look (·.checkpoint) with
  | none => pure ()
  | some _ => act (faults .removeCheckpoint) (setCheckpoint none)

def cleanupRecoverySnapshots : Step δ φ Unit :=
  tryAll (fileOrder.map (removeSnapshot faults) ++ [removeCheckpoint faults])

def restoreRecoveryFile (file : RecoveryFile) (existed : Bool) : Step δ φ Unit := do
  if existed then
    match ← look (·.snapshots file) with
    | none => fail eNoEnt
    | some content => act (faults (.restoreFile file)) (setFile file (some content))
  else
    match ← look (·.files file) with
    | none => pure ()
    | some _ => act (faults (.restoreFile file)) (setFile file none)

/-- Restore one file that an operation tracks.  The protection key always
existed and is loaded again. -/
def restoreTrackedFile (existing : UInt8) (file : RecoveryFile) : Step δ φ Unit :=
  if file = .totpKey then
    if selects existing file then do
      restoreRecoveryFile faults file true
      act (faults .loadTotpKey) id
    else fail eIlSeq
  else restoreRecoveryFile faults file (selects existing file)

def restoreRecoveryFiles (existing tracked : UInt8) : Step δ φ Unit :=
  each (restoreTrackedFile faults existing) (fileOrder.filter (selects tracked))

def replaceDatabase (replacement : ManagementDatabase δ) : Step δ φ Unit := do
  let current ← look (·.database)
  act (faults .saveCurrent) id
  match ← attempt (do
      act (faults .copyDatabase) (setDatabase replacement)
      act (faults .checkDatabase) id) with
  | .ok _ => act (faults .closeSaved) id
  | .error status =>
    match ← attempt (act (faults .copyBack) (setDatabase current)) with
    | .ok _ => fail status
    | .error _ => fail eIo

def recoveryCheckpointRestore : Step δ φ Unit := do
  match ← look (·.checkpoint) with
  | none => fail eNoEnt
  | some checkpoint => do
      act (faults .openCheckpoint) id
      replaceDatabase faults checkpoint
      act (faults .closeCheckpoint) id

/-! ## Recovery -/

structure RecoveryCall (δ φ : Type) where
  faults : Faults
  wallClock : Int
  recoverBackupCreation : ManagementOperation → Step δ φ Unit
  restoreRecoveryNetwork : Bytes → Step δ φ Unit

variable (call : RecoveryCall δ φ) (operation : ManagementOperation)

def finishRecoveredOperation : Step δ φ Unit :=
  if call.wallClock < 0 then fail eIo
  else
    retireOperation call.faults {
      occurredAt := call.wallClock
      action := if operation.ready then .recover else .discard
      operation := operation }

def trackedValid (kind : OperationKind) (existing tracked : UInt8) : Bool :=
  match kind with
  | .certificateCsr => tracked == fileBit .pendingKey
  | .certificateInstall => tracked == fileBit .certificate ||| fileBit .pendingKey
  | .mtlsAuthorities => tracked == fileBit .clientCa
  | .backupRestore =>
    tracked &&& ~~~(fileBit .certificate ||| fileBit .clientCa ||| fileBit .totpKey) == 0 &&
      !(selects tracked .totpKey && !selects existing .totpKey)
  | .backupCreate | .networkConfirm => false

/-- Restore the checkpoint, whose record is still being prepared, and mark the
record ready again. -/
def rearm : Step δ φ Unit := do
  recoveryCheckpointRestore faults
  operationMarkReady faults

def restoreOperation : Step δ φ Unit :=
  if operation.kind = .backupCreate then call.recoverBackupCreation operation
  else if !operation.ready then pure ()
  else if operation.kind = .networkConfirm then call.restoreRecoveryNetwork operation.payload
  else
    match operation.payload with
    | [version, existing, tracked] =>
      if version ≠ recoveryVersion ∨ existing &&& ~~~tracked ≠ 0 ∨
          trackedValid operation.kind existing tracked = false then
        fail eIlSeq
      else do
        if operation.kind = .backupRestore then rearm call.faults
        restoreRecoveryFiles call.faults existing tracked
    | _ => fail eIlSeq

/-- Remove archives without metadata; a missing directory is no error. -/
def reconcileBackups : Step δ φ Unit := do
  match ← attempt (act (faults .reconcile) id) with
  | .ok _ => pure ()
  | .error status => if status = eNoEnt then pure () else fail status

/-- Restore or discard one operation left pending across a restart. -/
def recoverPendingOperation : Step δ φ Unit := do
  reconcileBackups call.faults
  act (call.faults .load) id
  match ← look (·.database.operation) with
  | none => cleanupRecoverySnapshots call.faults
  | some operation => do
      restoreOperation call operation
      finishRecoveredOperation call operation
      cleanupRecoverySnapshots call.faults

/-! ## The operation itself -/

def startRecoveryOperation (files : UInt8) (database : Bool) : Step δ φ Unit := do
  operationPrepare faults operation
  match ← attempt (do
      createRecoverySnapshots faults files database
      operationMarkReady faults) with
  | .ok _ => pure ()
  | .error status => do
      let cleaned ← attempt (cleanupRecoverySnapshots faults)
      let cleared ← attempt (operationClear faults)
      match cleaned, cleared with
      | .ok _, .ok _ => fail status
      | .ok _, .error failure => fail (if failure = eNoEnt then status else eIo)
      | .error _, _ => fail eIo

def finishRecoveryOperation (event : RecoveryAudit) : Step δ φ Unit := do
  match ← attempt (retireOperation faults event) with
  | .ok _ => do
      let _ ← attempt (cleanupRecoverySnapshots faults)
      pure ()
  | .error status => do
      match ← attempt (recoverPendingOperation call) with
      | .ok _ => fail status
      | .error _ => fail eIo

def abortRecoveryOperation (status : Int) : Step δ φ Unit := do
  match ← attempt (recoverPendingOperation call) with
  | .ok _ => fail status
  | .error _ => fail eIo

/-! ## The restore of a backup -/

/-- A validated backup: `replace` makes the new database, `certificate` the new identity, whose
private key it may keep. -/
structure RestoreJob (δ φ : Type) where
  replace : δ → δ
  databaseChanges : Bool
  certificate : Option (Option φ → φ)
  sameIdentity : φ → φ → Bool
  portable : Bool
  totpKey : φ
  loadedTotpKey : φ
  clientCa : Option φ
  hasRuntime : Bool
  runtimeReloads : Bool
  advance : δ → δ
  recordSync : Bool → δ → δ
  origin : OperationOrigin
  now : Nat

variable [DecidableEq φ] (job : RestoreJob δ φ) (files : RecoveryFile → Option φ)

def certificateChanges : Bool :=
  match job.certificate, files .certificate with
  | none, _ => false
  | some _, none => true
  | some identity, some current => !job.sameIdentity current (identity (some current))

def totpKeyChanges : Bool := job.portable && job.totpKey != job.loadedTotpKey

def clientCaChanges : Bool := job.portable && files .clientCa != job.clientCa

def trackedFiles : RecoveryFile → Bool
  | .certificate => certificateChanges job files
  | .pendingKey => false
  | .clientCa => clientCaChanges job files
  | .totpKey => totpKeyChanges job

def existingFiles : RecoveryFile → Bool
  | .certificate => certificateChanges job files && (files .certificate).isSome
  | .pendingKey => false
  | .clientCa => clientCaChanges job files && (files .clientCa).isSome
  | .totpKey => totpKeyChanges job

def restoreIntent : ManagementOperation where
  kind := .backupRestore
  ready := false
  payload := [recoveryVersion, fileMask (existingFiles job files),
    fileMask (trackedFiles job files)]
  createdAt := job.now
  origin := job.origin

/-- Apply the SQLite snapshot of the backup, with the operation record and the audit log kept. -/
def databaseRestore : Step δ φ Unit := do
  act (faults .openBackup) id
  if job.databaseChanges then
    let current ← look (·.database)
    replaceDatabase faults { current with data := job.replace current.data }

def restoreBackupCertificate : Step δ φ Unit := do
  let files ← look (·.files)
  match job.certificate with
  | none => pure ()
  | some identity =>
    if certificateChanges job files then
      act (faults (.installFile .certificate))
        (setFile .certificate (some (identity (files .certificate))))

def restoreBackupTotpKey (faults : Faults) (job : RestoreJob δ φ) : Step δ φ Unit := do
  if totpKeyChanges job then
    act (faults (.installFile .totpKey)) (setFile .totpKey (some job.totpKey))

def restoreBackupClientCa (faults : Faults) (job : RestoreJob δ φ) : Step δ φ Unit := do
  let files ← look (·.files)
  if clientCaChanges job files then
    act (faults (.installFile .clientCa)) (setFile .clientCa job.clientCa)

def publishPolicyChange : Step δ φ Unit := do
  act (faults .advanceSync) (fun state => setData (job.advance state.database.data) state)
  let published := job.hasRuntime && job.runtimeReloads
  act (faults .recordSync)
    (fun state => setData (job.recordSync published state.database.data) state)
  if job.hasRuntime && !published then fail eIo

def applyRestore (faults : Faults) (job : RestoreJob δ φ) : Step δ φ Unit := do
  databaseRestore faults job
  restoreBackupCertificate faults job
  restoreBackupTotpKey faults job
  restoreBackupClientCa faults job
  publishPolicyChange faults job

/-- Inspect whether the files that will change currently exist. -/
def inspectTracked (tracked : RecoveryFile → Bool) : Step δ φ Unit :=
  each (fun file => act (faults (.inspectFile file)) id) ([.certificate, .clientCa].filter tracked)

/-- An applied restore with changes, once its checkpoint archive exists. -/
def executeBackupRestoreJob (faults : Faults) (call : RecoveryCall δ φ)
    (job : RestoreJob δ φ) : Step δ φ Unit := do
  let files ← look (·.files)
  inspectTracked faults (trackedFiles job files)
  let intent := restoreIntent job files
  startRecoveryOperation faults intent (fileMask (existingFiles job files)) true
  match ← attempt (applyRestore faults job) with
  | .error status => abortRecoveryOperation call status
  | .ok _ =>
    finishRecoveryOperation faults call {
      occurredAt := job.now
      action := .restore
      operation := { intent with ready := true } }

end Recovery

end JanusGate
