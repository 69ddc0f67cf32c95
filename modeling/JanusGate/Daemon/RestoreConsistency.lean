import JanusGate.Daemon.RestoreInvariant
import JanusGate.Foundation.Runs

/-!
# Crash consistency of a restore

Recovery keeps the invariant of a restore, except between the copy of the
checkpoint over the database and the statement that marks the copied record
ready again.  A restore stopped anywhere and recovered by calls that are not cut
there leaves everything old or everything new.
-/

namespace JanusGate

open Crash Runs List

namespace Recovery

variable {δ φ : Type}

/-- Once the checkpoint is copied over the database, every step up to the mark of the copied record
succeeds, or the check of the copy fails and the previous database is copied back. -/
def Uncut (faults : Faults) : Prop :=
  faults .copyDatabase = .done → (faults .checkDatabase = .done ∧ faults .closeSaved = .done ∧
        faults .closeCheckpoint = .done ∧ faults .markReady = .done) ∨
      (faults .checkDatabase ≠ .done ∧ faults .checkDatabase ≠ .stopped ∧ faults .copyBack = .done)
  deriving Decidable

theorem keeps_replaceDatabase_uncut {faults : Faults} (uncut : Uncut faults)
    (replacement : ManagementDatabase δ) :
    Keeps pre pre (replaceDatabase faults replacement) fun _ later =>
      (faults .closeCheckpoint = .done ∧ faults .markReady = .done) ∧
        ∃ state, pre state ∧ later = setDatabase replacement state := by
  intro state holds
  rw [replaceDatabase_eq]
  cases faults .saveCurrent with
  | failed status | stopped => exact holds
  | done =>
    cases copy : faults .copyDatabase with
    | failed status => cases faults .copyBack <;> exact holds
    | stopped => exact holds
    | done =>
      rcases uncut copy with ⟨check, saved, closed, ready⟩ | ⟨notDone, notStopped, back⟩
      · rw [check, saved]
        exact ⟨⟨closed, ready⟩, state, holds, rfl⟩
      cases check : faults .checkDatabase with
      | done => exact absurd check notDone
      | stopped => exact absurd check notStopped
      | failed status =>
        rw [back]
        exact holds

variable (faults : Faults)

theorem keeps_reconcileBackups (before : ∀ state, pre state → cut state) :
    Keeps cut pre (reconcileBackups faults) fun _ => pre := by
  have checked : Keeps pre pre (act (faults .reconcile) id) fun _ => pre := Keeps.check fun _ => id
  apply Keeps.bind (Keeps.attempt checked before)
  intro result
  cases result with
  | ok _ => exact .pure fun _ => id
  | error status =>
    dsimp only
    split
    · exact .pure fun _ => id
    · exact .fail before

variable [DecidableEq φ] {job : RestoreJob δ φ} {start : ManagementState δ φ}

/-! ## Recovery -/

def FilesOld (start state : ManagementState δ φ) : Prop :=
  ∀ file, state.files file = start.files file

instance (start state : ManagementState δ φ) : Decidable (FilesOld start state) :=
  decidableForallFile _

/-- An uncut recovery restores the database and the record as one step. -/
theorem keeps_rearm_uncut {faults : Faults} (uncut : Uncut faults) :
    Keeps (Armed job start) (Armed job start) (rearm faults)
      fun _ state => Armed job start state ∧ state.database.data = start.database.data := by
  -- the restored database holds the record as it was being prepared
  have restore : Keeps (Armed job start) (Armed job start)
      (recoveryCheckpointRestore faults) fun _ later =>
        faults .markReady = .done ∧ ∃ saved state, Armed job start state ∧
          saved.data = start.database.data ∧
          saved.operation = some (restoreIntent job start.files) ∧
          later = setDatabase saved state := by
    apply Keeps.find
    · exact .fail fun _ holds => holds.2
    intro saved
    apply Keeps.bind (.check fun _ holds => holds.2)
    intro _
    apply Keeps.bind ((keeps_replaceDatabase_uncut uncut saved).weaken
      (fun _ => id) (fun _ _ holds => holds)
      fun _ holds => holds.2)
    intro _
    by_cases closed : faults .closeCheckpoint = .done
    case neg =>
      intro state holds
      exact absurd holds.1.1 closed
    case pos =>
      apply Keeps.done closed
      rintro later ⟨⟨_, ready⟩, state, ⟨isSaved, armed⟩, rfl⟩
      obtain ⟨other, isOther, data, operation⟩ := armed.checkpoint
      have same : saved = other := Option.some.inj (isSaved.trans isOther)
      subst same
      exact ⟨ready, saved, state, armed, data, operation, rfl⟩
  apply Keeps.bind restore
  intro _
  apply Keeps.bind (.look _)
  intro found
  by_cases ready : faults .markReady = .done
  case neg =>
    intro state holds
    exact absurd holds.2.1 ready
  case pos =>
    cases found with
    | none =>
      rintro later ⟨isFound, _, saved, state, _, _, operation, rfl⟩
      have missing : none = some (restoreIntent job start.files) := isFound.trans operation
      cases missing
    | some operation =>
      dsimp only
      split
      case isTrue isReady =>
        rintro later ⟨isFound, _, saved, state, _, _, intent, rfl⟩
        have same : operation = restoreIntent job start.files :=
          Option.some.inj (isFound.trans intent)
        rw [same] at isReady
        cases isReady
      case isFalse =>
        apply Keeps.done ready
        rintro later ⟨isFound, _, saved, state, armed, data, intent, rfl⟩
        have same : operation = restoreIntent job start.files :=
          Option.some.inj (isFound.trans intent)
        subst same
        exact ⟨{ armed with operation := rfl }, data⟩

theorem keeps_rearm_old : Keeps (Consistent job start)
      (fun state => Armed job start state ∧ FilesOld start state)
      (rearm faults)
      fun _ state => Armed job start state ∧ state.database.data = start.database.data := by
  have restore : Keeps (Consistent job start)
      (fun state => Armed job start state ∧ FilesOld start state)
      (recoveryCheckpointRestore faults) fun _ => Copied job start := by
    apply Keeps.find
    · exact .fail fun _ holds => Consistent.of_armed holds.2.1
    intro saved
    apply Keeps.bind (.check fun _ holds => Consistent.of_armed holds.2.1)
    intro _
    have copied : ∀ state, (some saved = state.checkpoint ∧
        Armed job start state ∧ FilesOld start state) →
        Copied job start (setDatabase saved state) := by
      rintro state ⟨isSaved, armed, old⟩
      obtain ⟨other, isOther, data, operation⟩ := armed.checkpoint
      have same : saved = other := Option.some.inj (isSaved.trans isOther)
      subst same
      exact ⟨⟨operation, data, old⟩, armed.snapshots, saved, isOther, data, operation⟩
    have replaced : Keeps (Consistent job start) (fun state => some saved = state.checkpoint ∧
          Armed job start state ∧ FilesOld start state)
        (replaceDatabase faults saved) fun _ => Copied job start :=
      keeps_replaceDatabase faults (fun _ holds => Consistent.of_armed holds.2.1)
        (fun state holds => Consistent.of_prepared (copied state holds).1) copied
    apply Keeps.bind replaced
    intro _
    exact .check fun _ holds => Consistent.of_prepared holds.1
  apply Keeps.bind restore
  intro _
  exact (keeps_markReady faults).weaken (fun _ => id)
    (fun _ _ holds => ⟨holds.1, holds.2.1⟩) fun _ => Consistent.of_prepared

theorem keeps_restoreTrackedFile (tracked : trackedFiles job start.files file = true)
    (past : List RecoveryFile) :
    Keeps (Armed job start) (fun state => Armed job start state ∧
        state.database.data = start.database.data ∧
        ∀ other ∈ past, state.files other = start.files other)
      (restoreTrackedFile faults (fileMask (existingFiles job start.files)) file)
      fun _ state => Armed job start state ∧ state.database.data = start.database.data ∧
        ∀ other ∈ past ++ [file], state.files other = start.files other := by
  -- the file gets its old content and the others keep theirs
  have restored : ∀ (state : ManagementState δ φ) (content : Option φ), content = start.files file →
      (Armed job start state ∧ state.database.data = start.database.data ∧
        ∀ other ∈ past, state.files other = start.files other) →
      Armed job start (setFile file content state) ∧ state.database.data = start.database.data ∧
        ∀ other ∈ past ++ [file], (setFile file content state).files other = start.files other := by
    rintro state content isOld ⟨armed, data, earlier⟩
    refine ⟨armed_setFile content tracked armed, data, fun other member => ?_⟩
    change Function.update state.files file content other = start.files other
    by_cases same : other = file
    · rw [same, Function.update_self, isOld]
    · rw [Function.update_of_ne same]
      rcases mem_append.mp member with inPast | last
      · exact earlier other inPast
      · exact absurd (mem_singleton.mp last) same
  have fromSnapshot : existingFiles job start.files file = true → Keeps (Armed job start)
        (fun state => Armed job start state ∧ state.database.data = start.database.data ∧
          ∀ other ∈ past, state.files other = start.files other)
        (restoreRecoveryFile faults file true)
        fun _ state => Armed job start state ∧ state.database.data = start.database.data ∧
          ∀ other ∈ past ++ [file], state.files other = start.files other := by
    intro existing
    apply Keeps.find
    · exact .fail fun _ holds => holds.2.1
    · intro content
      apply Keeps.act fun _ holds => holds.2.1
      rintro state ⟨isContent, holds⟩
      exact restored state (some content) (isContent.trans (holds.1.snapshots file existing)) holds
  unfold restoreTrackedFile
  rw [selects_fileMask]
  split
  case isTrue isKey =>
    subst isKey
    have existing : existingFiles job start.files .totpKey = true := tracked
    rw [existing]
    apply Keeps.bind (fromSnapshot existing)
    intro _
    exact .check fun _ holds => holds.1
  case isFalse =>
    cases existing : existingFiles job start.files file with
    | true => exact fromSnapshot existing
    | false =>
      have absent := absent_of_not_existing tracked existing
      apply Keeps.find
      · apply Keeps.pure
        rintro state ⟨isMissing, armed, data, earlier⟩
        refine ⟨armed, data, fun other member => ?_⟩
        rcases mem_append.mp member with inPast | last
        · exact earlier other inPast
        · rw [mem_singleton.mp last, absent]
          exact isMissing.symm
      · intro _
        apply Keeps.act fun _ holds => holds.2.1
        rintro state ⟨_, holds⟩
        exact restored state none absent.symm holds

theorem keeps_restoreRecoveryFiles : Keeps (Armed job start)
      (fun state => Armed job start state ∧ state.database.data = start.database.data)
      (restoreRecoveryFiles faults (fileMask (existingFiles job start.files))
        (fileMask (trackedFiles job start.files)))
      fun _ state => Armed job start state ∧ IsBefore start state := by
  unfold restoreRecoveryFiles
  rw [filter_fileMask]
  have loop : Keeps (Armed job start) (fun state => Armed job start state ∧
        state.database.data = start.database.data ∧
        ∀ other ∈ ([] : List RecoveryFile), state.files other = start.files other)
      (each (restoreTrackedFile faults (fileMask (existingFiles job start.files)))
        (fileOrder.filter (trackedFiles job start.files)))
      fun _ state => Armed job start state ∧ state.database.data = start.database.data ∧
        ∀ other ∈ fileOrder.filter (trackedFiles job start.files),
          state.files other = start.files other := by
    apply @Keeps.each _ _ _ _ _ fun past state =>
      Armed job start state ∧ state.database.data = start.database.data ∧
        ∀ other ∈ past, state.files other = start.files other
    intro past file future whole
    have listed : file ∈ fileOrder.filter (trackedFiles job start.files) := by
      rw [whole]
      simp
    exact keeps_restoreTrackedFile faults (mem_filter.mp listed).2 past
  refine loop.weaken (fun _ holds => ⟨holds.1, holds.2, nofun⟩) ?_ fun _ armed => armed
  rintro _ state ⟨armed, data, restored⟩
  refine ⟨armed, data, fun file => ?_⟩
  cases tracked : trackedFiles job start.files file with
  | true => exact restored file (mem_filter.mpr ⟨mem_fileOrder file, tracked⟩)
  | false => exact armed.untracked file tracked

/-- What `restore_operation` leaves to the transaction that retires the
record. -/
def Restored (job : RestoreJob δ φ) (start state : ManagementState δ φ) : Prop :=
  Consistent job start state ∧ IsBefore start state

theorem keeps_restoreOperation (call : RecoveryCall δ φ) : Keeps (Consistent job start)
      (fun state => Armed job start state ∧ (Uncut call.faults ∨ FilesOld start state))
      (restoreOperation call (readyIntent job start.files))
      fun _ => Restored job start := by
  obtain ⟨subset, valid⟩ := restoreIntent_masks job start.files
  have rearmed : Keeps (Consistent job start) (fun state => Armed job start state ∧
        (Uncut call.faults ∨ FilesOld start state)) (rearm call.faults)
      fun _ state => Armed job start state ∧ state.database.data = start.database.data := by
    by_cases uncut : Uncut call.faults
    · exact (keeps_rearm_uncut uncut).weaken (fun _ holds => holds.1)
        (fun _ _ holds => holds) fun _ => Consistent.of_armed
    · exact (keeps_rearm_old call.faults).weaken
        (fun _ holds => ⟨holds.1, holds.2.resolve_left uncut⟩)
        (fun _ _ holds => holds) fun _ => id
  have files := (keeps_restoreRecoveryFiles call.faults).weaken
    (fun _ => id) (fun _ _ holds => holds)
    (fun _ => @Consistent.of_armed _ _ _ job start _)
  have passes : ¬ (recoveryVersion ≠ recoveryVersion ∨ fileMask (existingFiles job start.files) &&&
        ~~~fileMask (trackedFiles job start.files) ≠ 0 ∨
      trackedValid .backupRestore (fileMask (existingFiles job start.files))
        (fileMask (trackedFiles job start.files)) = false) := by
    simp [subset, valid]
  have unfolded : restoreOperation call (readyIntent job start.files) =
      (rearm call.faults >>= fun _ => restoreRecoveryFiles call.faults
        (fileMask (existingFiles job start.files))
        (fileMask (trackedFiles job start.files))) :=
    if_neg passes
  rw [unfolded]
  apply (Keeps.bind rearmed fun _ => files).weaken (fun _ => id) _ fun _ => id
  exact fun _ state holds => ⟨Consistent.of_armed holds.1, holds.2⟩

theorem keeps_finishRecovered (call : RecoveryCall δ φ) (operation : ManagementOperation) :
    Keeps (Consistent job start) (Restored job start) (finishRecoveredOperation call operation)
      fun _ => Settled job start := by
  unfold finishRecoveredOperation
  split
  · exact .fail fun _ holds => holds.1
  apply Keeps.bind (.look _)
  intro found
  cases found with
  | none => exact .fail fun _ holds => holds.2.1
  | some record => exact .act (fun _ holds => holds.2.1) fun state holds => ⟨rfl, Or.inl holds.2.2⟩

theorem keeps_cleanup_settled : Keeps (Consistent job start) (Settled job start)
      (cleanupRecoverySnapshots faults) fun _ => Settled job start :=
  (keeps_cleanup faults (fun _ _ holds => holds) fun _ => id).weaken
    (fun _ => id) (fun _ _ holds => holds) fun _ => Or.inl

theorem keeps_recover (call : RecoveryCall δ φ) : Keeps (Consistent job start)
      (fun state => Consistent job start state ∧ (Uncut call.faults ∨ FilesOld start state))
      (recoverPendingOperation call) fun _ => Settled job start := by
  apply Keeps.bind (keeps_reconcileBackups _ fun _ holds => holds.1)
  intro _
  apply Keeps.bind (.check fun _ holds => holds.1)
  intro _
  apply Keeps.find
  · apply (keeps_cleanup_settled call.faults).weaken _ (fun _ _ holds => holds) fun _ => id
    exact fun state holds => holds.2.1.settled holds.1.symm
  intro operation
  have restored : Keeps (Consistent job start)
      (fun state => some operation = state.database.operation ∧ Consistent job start state ∧
        (Uncut call.faults ∨ FilesOld start state))
      (restoreOperation call operation) fun _ => Restored job start := by
    rintro state ⟨isRecord, consistent, closed⟩
    rcases consistent.record isRecord.symm with ⟨rfl, before⟩ | ⟨rfl, armed⟩
    · exact ⟨consistent, before⟩
    · exact keeps_restoreOperation call state ⟨armed, closed⟩
  apply Keeps.bind restored
  intro _
  apply Keeps.bind (keeps_finishRecovered call operation)
  intro _
  exact keeps_cleanup_settled call.faults

/-! ## The restore and its recoveries -/

theorem keeps_retire (event : RecoveryAudit) : Keeps (Armed job start)
      (fun state => Armed job start state ∧ IsCompleted job start state)
      (retireOperation faults event) fun _ => Settled job start := by
  apply Keeps.find
  · exact .fail fun _ holds => holds.2.1
  · exact fun _ => .act (fun _ holds => holds.2.1) fun state holds => ⟨rfl, Or.inr holds.2.2⟩

variable {call : RecoveryCall δ φ}

theorem keeps_abort (uncut : Uncut call.faults) (failure : Int) :
    Keeps (Consistent job start) (Consistent job start)
      (abortRecoveryOperation call failure) fun _ => Settled job start := by
  have recovered := (@keeps_recover _ _ _ job start call).weaken
    (fun state holds => ⟨holds, Or.inl uncut⟩) (fun _ _ holds => holds)
    fun _ => id
  apply Keeps.bind (Keeps.attempt recovered fun _ => id)
  intro result
  cases result with
  | ok _ => exact .fail fun _ => Or.inl
  | error _ => exact .fail fun _ => id

theorem keeps_finish (uncut : Uncut call.faults) (event : RecoveryAudit) :
    Keeps (Consistent job start) (fun state => Armed job start state ∧ IsCompleted job start state)
      (finishRecoveryOperation faults call event)
      fun _ => Settled job start := by
  apply Keeps.bind (Keeps.attempt (keeps_retire faults event) fun _ => Consistent.of_armed)
  intro result
  cases result with
  | ok _ =>
    have cleaned : Keeps (Settled job start) (Settled job start)
        (cleanupRecoverySnapshots faults) fun _ => Settled job start :=
      keeps_cleanup faults (fun _ _ holds => holds) fun _ => id
    apply Keeps.bind (Keeps.attempt cleaned fun _ => Or.inl)
    intro _
    exact .pure (Caught.elim (fun _ _ holds => holds) fun _ => id)
  | error status =>
    exact (keeps_abort uncut status).weaken (fun _ => Consistent.of_armed)
      (fun _ _ holds => holds) fun _ => id

/-- The job keeps the invariant when the recovery it may start itself is not
cut. -/
theorem keeps_job (uncut : Uncut call.faults) (idle : start.database.operation = none) :
    Keeps (Consistent job start) (fun state => state = start)
      (executeBackupRestoreJob faults call job)
      fun _ => Settled job start := by
  have untouched : ∀ state : ManagementState δ φ, state = start → Idle start state := by
    rintro state rfl
    exact ⟨idle, rfl, fun _ => rfl⟩
  apply Keeps.bind (.look _)
  intro files
  have inspected : Keeps (Consistent job start) (fun state => files = state.files ∧ state = start)
      (inspectTracked faults (trackedFiles job files))
      fun _ state => files = start.files ∧ Idle start state := by
    have loop : Keeps (Consistent job start) (fun state => files = start.files ∧ Idle start state)
        (inspectTracked faults (trackedFiles job files))
        fun _ state => files = start.files ∧ Idle start state := by
      apply @Keeps.each _ _ _ _ _ fun _ state => files = start.files ∧ Idle start state
      intro _ _ _ _
      exact .check fun _ holds => holds.2.consistent
    apply loop.weaken _ (fun _ _ holds => holds) fun _ => id
    rintro state ⟨isFiles, rfl⟩
    exact ⟨isFiles, untouched state rfl⟩
  apply Keeps.bind inspected
  intro _
  by_cases same : files = start.files
  case neg =>
    intro state holds
    exact absurd holds.1 same
  case pos =>
    subst same
    apply Keeps.bind ((keeps_start faults).weaken (fun _ holds => holds.2)
      (fun _ _ holds => holds) fun _ => id)
    intro _
    apply Keeps.bind (Keeps.attempt (keeps_applyRestore faults) fun _ => Consistent.of_armed)
    intro result
    cases result with
    | ok _ => exact keeps_finish faults uncut _
    | error status =>
      exact (keeps_abort uncut status).weaken
        (fun _ => Consistent.of_armed) (fun _ _ holds => holds)
        fun _ => id

def recoverStep (state : ManagementState δ φ) (call : RecoveryCall δ φ) :
    ManagementState δ φ × Ending Unit :=
  recoverPendingOperation call state

/-- The recovery is not cut behind the copy, or all files are the old ones when it starts. -/
def Protected (start state : ManagementState δ φ) (call : RecoveryCall δ φ) : Prop :=
  Uncut call.faults ∨ FilesOld start state

instance (start state : ManagementState δ φ) (call : RecoveryCall δ φ) :
    Decidable (Protected start state call) :=
  inferInstanceAs (Decidable (_ ∨ _))

theorem consistent_recoverStep (consistent : Consistent job start state)
    (protect : Protected start state call) :
    Consistent job start (recoverStep state call).1 ∧ ((recoverStep state call).2 = .returned () →
        Settled job start (recoverStep state call).1) := by
  have kept := keeps_recover call state ⟨consistent, protect⟩
  unfold recoverStep
  revert kept
  rcases recoverPendingOperation call state with ⟨later, ending⟩
  cases ending with
  | returned value => exact fun settled => ⟨Or.inl settled, fun _ => settled⟩
  | failed status | stopped => exact fun kept => ⟨kept, nofun⟩

def restored (faults : Faults) (call : RecoveryCall δ φ) (job : RestoreJob δ φ)
    (start : ManagementState δ φ) : ManagementState δ φ :=
  (executeBackupRestoreJob faults call job start).1

/-- A restore stopped anywhere, then recoveries stopped anywhere but between the copy of the
checkpoint and the mark: without a record everything is old or everything is new. -/
theorem restore_all_or_nothing (job : RestoreJob δ φ) {start : ManagementState δ φ}
    (idle : start.database.operation = none) (faults : Faults)
    {call : RecoveryCall δ φ} (uncut : Uncut call.faults)
    (recoveries : List (RecoveryCall δ φ))
    (protect : Meets (fun _ => Protected start)
      (run recoverStep (restored faults call job start) recoveries)) :
    ((restored faults call job start).database.operation = none →
      IsBefore start (restored faults call job start) ∨
        IsCompleted job start (restored faults call job start)) ∧
    ∀ event ∈ run recoverStep (restored faults call job start) recoveries,
      (event.answer = .returned () → event.after.database.operation = none) ∧
      (event.after.database.operation = none →
        IsBefore start event.after ∨ IsCompleted job start event.after) := by
  have started : Consistent job start (restored faults call job start) :=
    (keeps_job faults uncut idle).always (fun _ _ => Or.inl) (fun _ => id) rfl
  refine ⟨fun gone => (started.settled gone).2, ?_⟩
  intro event reached
  obtain ⟨past, future, split⟩ := append_of_mem reached
  have kept : ∀ state (call : RecoveryCall δ φ),
      Consistent job start state → Protected start state call →
        Consistent job start (recoverStep state call).1 :=
    fun _ _ consistent covered => (consistent_recoverStep consistent covered).1
  have before : Consistent job start event.before :=
    (invariant_run (fun _ state => Consistent job start state)
      (fun _ => kept) started protect split).1
  have step := consistent_recoverStep before (protect past event future split)
  rw [event_eq reached]
  exact ⟨fun returned => (step.2 returned).1, fun gone => (step.1.settled gone).2⟩

/-- Every step is done but the given one, at which the process stops. -/
def stoppedAt (site : Option Site) : Faults := fun reached =>
  if some reached = site then .stopped else .done

def recoveryUntil (site : Option Site) : RecoveryCall Nat Nat where
  faults := stoppedAt site
  wallClock := 0
  recoverBackupCreation := fun _ => pure ()
  restoreRecoveryNetwork := fun _ => pure ()

def firstGateway : ManagementState Nat Nat where
  database := { data := 1, operation := none, audit := [] }
  checkpoint := none
  files := fun file => if file = .certificate then some 10 else none
  snapshots := fun _ => none

def secondBackup : RestoreJob Nat Nat where
  replace := fun _ => 2
  databaseChanges := true
  certificate := some fun _ => 20
  sameIdentity := fun held given => held == given
  portable := false
  totpKey := 0
  loadedTotpKey := 0
  clientCa := none
  hasRuntime := false
  runtimeReloads := true
  advance := id
  recordSync := fun _ data => data
  origin := {
    actorType := .user
    actorId := some 1
    source := "::1".toUTF8.toList
    requestId := "r".toUTF8.toList
    requestedAction := "backup.restore".toUTF8.toList }
  now := 5

/-- The restore and the first recovery stop; the second one returns with everything old. -/
theorem restore_all_or_nothing_stopped_twice : ∃ event ∈ run recoverStep
        (restored (stoppedAt (some .advanceSync)) (recoveryUntil none) secondBackup firstGateway)
        [recoveryUntil (some .retire), recoveryUntil none],
      event.answer = .returned () ∧ event.after.database.operation = none ∧
        (IsBefore firstGateway event.after ∨
          IsCompleted secondBackup firstGateway event.after) := by
  have protect : Meets (fun _ => Protected firstGateway) (run recoverStep
        (restored (stoppedAt (some .advanceSync)) (recoveryUntil none) secondBackup firstGateway)
        [recoveryUntil (some .retire), recoveryUntil none]) :=
    meets_of_meetsFrom (by decide +kernel)
  have all := (restore_all_or_nothing secondBackup rfl
    (stoppedAt (some .advanceSync)) (by decide) _ protect).2
  refine ⟨_, mem_cons_of_mem _ mem_cons_self, ?_⟩
  have last := all _ (mem_cons_of_mem _ mem_cons_self)
  have returned : (recoverStep (recoverStep
      (restored (stoppedAt (some .advanceSync)) (recoveryUntil none)
        secondBackup firstGateway) (recoveryUntil (some .retire))).1
      (recoveryUntil none)).2 = .returned () := by decide +kernel
  exact ⟨returned, last.1 returned, last.2 (last.1 returned)⟩

/-- A first recovery that stops between the copy and the mark: the second returns with the old
database and the new certificate. -/
theorem recovery_mixes_database_and_files :
    let run := run recoverStep (restored (stoppedAt (some .advanceSync)) (recoveryUntil none)
        secondBackup firstGateway)
      [recoveryUntil (some .markReady), recoveryUntil none]
    ∃ event ∈ run, event.answer = .returned () ∧ event.after.database.operation = none ∧
      event.after.database.data = firstGateway.database.data ∧
      event.after.files .certificate = some 20 ∧
      ¬ IsBefore firstGateway event.after ∧
      ¬ IsCompleted secondBackup firstGateway event.after := by
  refine ⟨_, mem_cons_of_mem _ mem_cons_self, ?_⟩
  decide +kernel

end Recovery

end JanusGate
