import JanusGate.Daemon.ManagementRecovery

/-!
# The invariant of a restore

While a backup restore is under way there is no record and everything is old or
everything is new, or the record is being prepared and everything is old, or it
is ready and the copies aside are those of the state before.  Every action of
the restore keeps this, wherever the process stops.
-/

namespace JanusGate

open Crash List Function

namespace Recovery

variable {δ φ : Type} (faults : Faults)

theorem keeps_cleanup {condition : ManagementState δ φ → Prop}
    (snapshot : ∀ file state, condition state → condition (setSnapshot file none state))
    (checkpoint : ∀ state, condition state → condition (setCheckpoint none state)) :
    Keeps condition condition (cleanupRecoverySnapshots faults) fun _ => condition := by
  apply Keeps.tryAll
  intro step member
  rcases mem_append.mp member with ofFile | ofCheckpoint
  · obtain ⟨file, _, rfl⟩ := mem_map.mp ofFile
    apply Keeps.find
    · exact .pure fun _ holds => holds.2
    · exact fun _ => .act (fun _ holds => holds.2) fun state holds => snapshot file state holds.2
  · rw [mem_singleton.mp ofCheckpoint]
    apply Keeps.find
    · exact .pure fun _ holds => holds.2
    · exact fun _ => .act (fun _ holds => holds.2) fun state holds => checkpoint state holds.2

theorem replaceDatabase_eq (replacement : ManagementDatabase δ) (state : ManagementState δ φ) :
    replaceDatabase faults replacement state = match faults .saveCurrent with
      | .failed status => (state, .failed status)
      | .stopped => (state, .stopped)
      | .done =>
        match faults .copyDatabase, faults .checkDatabase with
        | .stopped, _ => (state, .stopped)
        | .failed status, _ =>
          (state, match faults .copyBack with
            | .done => .failed status
            | .failed _ => .failed eIo
            | .stopped => .stopped)
        | .done, .stopped => (setDatabase replacement state, .stopped)
        | .done, .failed status =>
          match faults .copyBack with
          | .done => (state, .failed status)
          | .failed _ => (setDatabase replacement state, .failed eIo)
          | .stopped => (setDatabase replacement state, .stopped)
        | .done, .done =>
          (setDatabase replacement state, match faults .closeSaved with
            | .done => .returned ()
            | .failed status => .failed status
            | .stopped => .stopped) := by
  unfold replaceDatabase
  cases faults .saveCurrent <;> cases faults .copyDatabase <;>
    cases faults .checkDatabase <;> cases faults .copyBack <;>
    cases faults .closeSaved <;> rfl

theorem keeps_replaceDatabase {cut pre : ManagementState δ φ → Prop}
    (before : ∀ state, pre state → cut state)
    (between : ∀ state, pre state → cut (setDatabase replacement state))
    (after : ∀ state, pre state → post () (setDatabase replacement state)) :
    Keeps cut pre (replaceDatabase faults replacement) post := by
  intro state holds
  have unchanged := before state holds
  have replaced := between state holds
  have returned := after state holds
  rw [replaceDatabase_eq]
  cases faults .saveCurrent with
  | failed status | stopped => exact unchanged
  | done =>
    cases faults .copyDatabase with
    | failed status => cases faults .copyBack <;> exact unchanged
    | stopped => exact unchanged
    | done =>
      cases faults .checkDatabase with
      | failed status =>
        cases faults .copyBack with
        | done => exact unchanged
        | failed failure | stopped => exact replaced
      | stopped => exact replaced
      | done =>
        cases faults .closeSaved with
        | done => exact returned
        | failed status | stopped => exact replaced

variable [DecidableEq φ]

/-! ## Old and new -/

def completedData (job : RestoreJob δ φ) (data : δ) : δ :=
  job.recordSync (job.hasRuntime && job.runtimeReloads)
    (job.advance (if job.databaseChanges then job.replace data else data))

def completedFiles (job : RestoreJob δ φ) (files : RecoveryFile → Option φ) :
    RecoveryFile → Option φ
  | .certificate =>
    match job.certificate with
    | none => files .certificate
    | some identity =>
      if certificateChanges job files then some (identity (files .certificate))
      else files .certificate
  | .pendingKey => files .pendingKey
  | .clientCa => if clientCaChanges job files then job.clientCa else files .clientCa
  | .totpKey => if totpKeyChanges job then some job.totpKey else files .totpKey

/-- The database and all files are those from before the operation. -/
def IsBefore (start state : ManagementState δ φ) : Prop :=
  state.database.data = start.database.data ∧ ∀ file, state.files file = start.files file

/-- The database and all files are those of the completed operation. -/
def IsCompleted (job : RestoreJob δ φ) (start state : ManagementState δ φ) : Prop :=
  state.database.data = completedData job start.database.data ∧
    ∀ file, state.files file = completedFiles job start.files file

instance [DecidableEq δ] (start state : ManagementState δ φ) : Decidable (IsBefore start state) :=
  inferInstanceAs (Decidable (_ ∧ _))

instance [DecidableEq δ] (job : RestoreJob δ φ) (start state : ManagementState δ φ) :
    Decidable (IsCompleted job start state) :=
  inferInstanceAs (Decidable (_ ∧ _))

def Settled (job : RestoreJob δ φ) (start state : ManagementState δ φ) : Prop :=
  state.database.operation = none ∧ (IsBefore start state ∨ IsCompleted job start state)

/-! ## The invariant -/

def Prepared (job : RestoreJob δ φ) (start state : ManagementState δ φ) : Prop :=
  state.database.operation = some (restoreIntent job start.files) ∧ IsBefore start state

def readyIntent (job : RestoreJob δ φ) (files : RecoveryFile → Option φ) : ManagementOperation :=
  { restoreIntent job files with ready := true }

/-- The record is ready, and the copies aside are those of the state before
the operation. -/
structure Armed (job : RestoreJob δ φ) (start state : ManagementState δ φ) : Prop where
  operation : state.database.operation = some (readyIntent job start.files)
  checkpoint : ∃ saved, state.checkpoint = some saved ∧ saved.data = start.database.data ∧
    saved.operation = some (restoreIntent job start.files)
  snapshots : ∀ file, existingFiles job start.files file = true →
    state.snapshots file = start.files file
  untracked : ∀ file, trackedFiles job start.files file = false →
    state.files file = start.files file

variable (data : δ)

/-- What holds of the durable state at every moment. -/
def Consistent (job : RestoreJob δ φ) (start state : ManagementState δ φ) : Prop :=
  Settled job start state ∨ Prepared job start state ∨ Armed job start state

variable {job : RestoreJob δ φ} {start : ManagementState δ φ}

theorem Consistent.of_armed (armed : Armed job start state) : Consistent job start state :=
  Or.inr (Or.inr armed)

variable {state : ManagementState δ φ} {file : RecoveryFile}

theorem Consistent.of_prepared (prepared : Prepared job start state) : Consistent job start state :=
  Or.inr (Or.inl prepared)

theorem Consistent.settled (consistent : Consistent job start state)
    (idle : state.database.operation = none) : Settled job start state := by
  rcases consistent with settled | prepared | armed
  · exact settled
  · rw [prepared.1] at idle
    cases idle
  · rw [armed.operation] at idle
    cases idle

theorem Consistent.record (consistent : Consistent job start state)
    (recorded : state.database.operation = some operation) :
    (operation = restoreIntent job start.files ∧ IsBefore start state) ∨
      (operation = readyIntent job start.files ∧ Armed job start state) := by
  rcases consistent with settled | prepared | armed
  · rw [settled.1] at recorded
    cases recorded
  · rw [prepared.1] at recorded
    exact Or.inl ⟨(Option.some.inj recorded).symm, prepared.2⟩
  · rw [armed.operation] at recorded
    exact Or.inr ⟨(Option.some.inj recorded).symm, armed⟩

/-! ## Masks -/

theorem selects_fileMask (chosen : RecoveryFile → Bool) (file : RecoveryFile) :
    selects (fileMask chosen) file = chosen file := by
  unfold fileMask
  cases certificate : chosen .certificate <;>
    cases pendingKey : chosen .pendingKey <;>
    cases clientCa : chosen .clientCa <;>
    cases totpKey : chosen .totpKey <;>
    cases file <;> simp only [certificate, pendingKey, clientCa, totpKey] <;>
    rfl

theorem filter_fileMask (chosen : RecoveryFile → Bool) :
    fileOrder.filter (selects (fileMask chosen)) = fileOrder.filter chosen :=
  filter_congr fun file _ => selects_fileMask chosen file

theorem restoreIntent_masks (job : RestoreJob δ φ) (files : RecoveryFile → Option φ) :
    fileMask (existingFiles job files) &&& ~~~fileMask (trackedFiles job files) = 0 ∧
      trackedValid .backupRestore (fileMask (existingFiles job files))
        (fileMask (trackedFiles job files)) = true := by
  unfold fileMask trackedFiles existingFiles
  cases certificateChanges job files <;> cases clientCaChanges job files <;>
    cases totpKeyChanges job <;> cases (files .certificate).isSome <;>
    cases (files .clientCa).isSome <;> decide

theorem absent_of_not_existing (tracked : trackedFiles job files file = true)
    (absent : existingFiles job files file = false) : files file = none := by
  cases file with
  | certificate =>
    simp only [trackedFiles] at tracked
    simpa [existingFiles, tracked] using absent
  | pendingKey => cases tracked
  | clientCa =>
    simp only [trackedFiles] at tracked
    simpa [existingFiles, tracked] using absent
  | totpKey =>
    simp only [trackedFiles, existingFiles] at tracked absent
    rw [tracked] at absent
    cases absent

/-! ## Arming the operation -/

def Copied (job : RestoreJob δ φ) (start state : ManagementState δ φ) : Prop :=
  Prepared job start state ∧ (∀ file, existingFiles job start.files file = true →
      state.snapshots file = start.files file) ∧
    ∃ saved, state.checkpoint = some saved ∧ saved.data = start.database.data ∧
      saved.operation = some (restoreIntent job start.files)

theorem keeps_createSnapshots : Keeps (Prepared job start) (Prepared job start)
      (createRecoverySnapshots faults (fileMask (existingFiles job start.files)) true)
      fun _ => Copied job start := by
  unfold createRecoverySnapshots
  rw [filter_fileMask]
  -- the snapshots of the files copied so far
  have loop : Keeps (Prepared job start)
      (fun state => Prepared job start state ∧ ∀ file ∈ ([] : List RecoveryFile),
        state.snapshots file = start.files file)
      (each (copyAside faults) (fileOrder.filter (existingFiles job start.files)))
      fun _ state => Prepared job start state ∧
        ∀ file ∈ fileOrder.filter (existingFiles job start.files),
          state.snapshots file = start.files file := by
    apply @Keeps.each _ _ _ _ _ fun past state =>
      Prepared job start state ∧ ∀ file ∈ past, state.snapshots file = start.files file
    intro past file future _
    apply Keeps.find
    · exact .fail fun _ holds => holds.2.1
    intro content
    apply Keeps.act (fun _ holds => holds.2.1)
    rintro state ⟨isContent, prepared, copied⟩
    refine ⟨prepared, fun other member => ?_⟩
    change update state.snapshots file (some content) other = start.files other
    by_cases same : other = file
    · rw [same, update_self, isContent]
      exact prepared.2.2 file
    · rw [update_of_ne same]
      rcases mem_append.mp member with earlier | last
      · exact copied other earlier
      · exact absurd (mem_singleton.mp last) same
  apply Keeps.bind (loop.weaken (fun state prepared => ⟨prepared, fun _ member => by cases member⟩)
    (fun _ _ copied => copied) fun _ prepared => prepared)
  intro _
  apply Keeps.act fun _ holds => holds.1
  rintro state ⟨prepared, copied⟩
  refine ⟨prepared, fun file existing => ?_, state.database, rfl, prepared.2.1, prepared.1⟩
  exact copied file (mem_filter.mpr ⟨mem_fileOrder file, existing⟩)

theorem keeps_markReady :
    Keeps (Prepared job start) (Copied job start) (operationMarkReady faults)
      fun _ state => Armed job start state ∧ IsBefore start state := by
  apply Keeps.find
  · exact .fail fun _ holds => holds.2.1
  intro operation
  dsimp only
  split
  · exact .fail fun _ holds => holds.2.1
  apply Keeps.act fun _ holds => holds.2.1
  rintro state ⟨isOperation, prepared, copied, saved⟩
  obtain rfl : operation = restoreIntent job start.files :=
    Option.some.inj (isOperation.trans prepared.1)
  exact ⟨⟨rfl, saved, copied, fun file _ => prepared.2.2 file⟩, prepared.2⟩

def Idle (start state : ManagementState δ φ) : Prop :=
  state.database.operation = none ∧ IsBefore start state

theorem Idle.consistent (idle : Idle start state) : Consistent job start state :=
  Or.inl ⟨idle.1, Or.inl idle.2⟩

theorem keeps_start : Keeps (Consistent job start) (Idle start)
      (startRecoveryOperation faults (restoreIntent job start.files)
        (fileMask (existingFiles job start.files)) true)
      fun _ state => Armed job start state ∧ IsBefore start state := by
  have prepare : Keeps (Consistent job start) (Idle start)
      (operationPrepare faults (restoreIntent job start.files))
      fun _ => Prepared job start := by
    apply Keeps.find
    · exact .act (fun _ holds => holds.2.consistent) fun state holds => ⟨rfl, holds.2.2⟩
    · exact fun _ => .fail fun _ holds => holds.2.consistent
  apply Keeps.bind prepare
  intro _
  have arm := Keeps.bind (@keeps_createSnapshots _ _ faults _ job start)
    fun _ => keeps_markReady faults
  apply arm.handle fun _ => Consistent.of_prepared
  · exact fun _ => .pure fun _ => id
  intro status
  have clean := @keeps_cleanup _ _ faults (Prepared job start) (fun _ _ holds => holds) fun _ => id
  have clear : Keeps (Prepared job start) (Prepared job start)
      (operationClear faults) fun _ => Idle start := by
    apply Keeps.find
    · exact .fail fun _ holds => holds.2
    · exact fun _ => .act (fun _ holds => holds.2) fun state holds => ⟨rfl, holds.2.2⟩
  apply clean.handle fun _ => Consistent.of_prepared
  all_goals
    intro _
    apply clear.handle fun _ => Consistent.of_prepared
    · exact fun _ => .fail fun _ => Idle.consistent
    · exact fun _ => .fail fun _ => Consistent.of_prepared

/-! ## Applying the backup -/

theorem armed_setData (armed : Armed job start state) : Armed job start (setData data state) :=
  { armed with }

theorem armed_setFile (content : Option φ) (tracked : trackedFiles job start.files file = true)
    (armed : Armed job start state) :
    Armed job start (setFile file content state) := by
  refine { armed with untracked := ?_ }
  intro other untracked
  have different : other ≠ file := by
    intro same
    rw [same, tracked] at untracked
    cases untracked
  change update state.files file content other = start.files other
  rw [update_of_ne different]
  exact armed.untracked other untracked

/-- The data are known, the files in `past` are new and the other files are old. -/
def Applying (job : RestoreJob δ φ) (start : ManagementState δ φ) (data : δ)
    (past : List RecoveryFile) (state : ManagementState δ φ) : Prop :=
  Armed job start state ∧ state.database.data = data ∧ ∀ file, state.files file =
      if file ∈ past then completedFiles job start.files file else start.files file

theorem applying_setFile {data : δ} (tracked : trackedFiles job start.files file = true)
    (completed : completedFiles job start.files file = content)
    (applying : Applying job start data past state) :
    Applying job start data (past ++ [file]) (setFile file content state) := by
  refine ⟨armed_setFile content tracked applying.1, applying.2.1, ?_⟩
  intro other
  by_cases same : other = file
  · subst same
    change update state.files other content other = _
    rw [update_self, if_pos (by simp), completed]
  · change update state.files file content other = _
    rw [update_of_ne same, applying.2.2 other]
    simp [same]

theorem applying_skip {data : δ}
    (completed : completedFiles job start.files file = start.files file)
    (applying : Applying job start data past state) :
    Applying job start data (past ++ [file]) state := by
  refine ⟨applying.1, applying.2.1, fun other => ?_⟩
  rw [applying.2.2 other]
  by_cases same : other = file
  · subst same
    simp [completed]
  · simp [same]

theorem keeps_databaseRestore : Keeps (Armed job start)
      (fun state => Armed job start state ∧ IsBefore start state)
      (databaseRestore faults job)
      fun _ => Applying job start (if job.databaseChanges then job.replace start.database.data
          else start.database.data) [] := by
  have nothing : ∀ state : ManagementState δ φ, IsBefore start state → ∀ file, state.files file =
        if file ∈ ([] : List RecoveryFile) then completedFiles job start.files file
        else start.files file := by
    intro state before file
    simp [before.2 file]
  apply Keeps.bind (.check fun _ holds => holds.1)
  intro _
  cases changes : job.databaseChanges with
  | false => exact .pure fun state holds => ⟨holds.1, holds.2.1, nothing state holds.2⟩
  | true =>
    apply Keeps.bind (.look _)
    intro current
    apply keeps_replaceDatabase
    · exact fun _ holds => holds.2.1
    · rintro state ⟨rfl, armed, before⟩
      exact armed_setData _ armed
    · rintro state ⟨rfl, armed, before⟩
      refine ⟨armed_setData _ armed, ?_, nothing state before⟩
      rw [before.1]
      rfl

theorem keeps_restoreBackupCertificate :
    Keeps (Armed job start) (Applying job start data []) (restoreBackupCertificate faults job)
      fun _ => Applying job start data [.certificate] := by
  apply Keeps.bind (.look _)
  intro files
  cases archived : job.certificate with
  | none =>
    apply Keeps.pure
    rintro state ⟨_, applying⟩
    exact applying_skip (by simp [completedFiles, archived]) applying
  | some identity =>
    dsimp only
    -- the file is still the old one when the change is computed again
    have old : ∀ state, Applying job start data [] state →
        state.files .certificate = start.files .certificate := by
      intro state applying
      simpa using applying.2.2 .certificate
    have same : ∀ state, Applying job start data [] state → certificateChanges job state.files =
          certificateChanges job start.files := by
      intro state applying
      simp only [certificateChanges, old state applying]
    split
    case isTrue changes =>
      apply Keeps.act fun _ holds => holds.2.1
      rintro state ⟨rfl, applying⟩
      have tracked : trackedFiles job start.files .certificate = true :=
        (same state applying).symm.trans changes
      apply applying_setFile tracked _ applying
      have again : certificateChanges job start.files = true := tracked
      simp [completedFiles, archived, again, old state applying]
    case isFalse unchanged =>
      apply Keeps.pure
      rintro state ⟨rfl, applying⟩
      rw [same state applying] at unchanged
      exact applying_skip (by simp [completedFiles, archived, unchanged]) applying

theorem keeps_restoreBackupTotpKey :
    Keeps (Armed job start) (Applying job start data [.certificate])
      (restoreBackupTotpKey faults job)
      fun _ => Applying job start data [.certificate, .totpKey] := by
  unfold restoreBackupTotpKey
  split
  case isTrue changes =>
    apply Keeps.act fun _ holds => holds.1
    intro state applying
    have tracked : trackedFiles job start.files .totpKey = true := changes
    exact applying_setFile tracked (by simp [completedFiles, changes]) applying
  case isFalse unchanged =>
    apply Keeps.pure
    intro state applying
    exact applying_skip (by simp [completedFiles, unchanged]) applying

theorem keeps_restoreBackupClientCa : Keeps (Armed job start)
      (Applying job start data [.certificate, .totpKey])
      (restoreBackupClientCa faults job)
      fun _ => Applying job start data [.certificate, .totpKey, .clientCa] := by
  have same : ∀ state, Applying job start data [.certificate, .totpKey] state →
        clientCaChanges job state.files = clientCaChanges job start.files := by
    intro state applying
    have old : state.files .clientCa = start.files .clientCa := by
      simpa using applying.2.2 .clientCa
    simp only [clientCaChanges, old]
  apply Keeps.bind (.look _)
  intro files
  split
  case isTrue changes =>
    apply Keeps.act fun _ holds => holds.2.1
    rintro state ⟨rfl, applying⟩
    have tracked : trackedFiles job start.files .clientCa = true :=
      (same state applying).symm.trans changes
    have again : clientCaChanges job start.files = true := tracked
    exact applying_setFile tracked (by simp [completedFiles, again]) applying
  case isFalse unchanged =>
    apply Keeps.pure
    rintro state ⟨rfl, applying⟩
    rw [same state applying] at unchanged
    exact applying_skip (by simp [completedFiles, unchanged]) applying

theorem keeps_publishPolicyChange (past : List RecoveryFile) :
    Keeps (Armed job start) (Applying job start data past) (publishPolicyChange faults job)
      fun _ => Applying job start (job.recordSync (job.hasRuntime && job.runtimeReloads)
          (job.advance data)) past := by
  -- both transactions of the publication rewrite the data
  have rewrite : ∀ (fate : Fate) (change : δ → δ) (data : δ),
      Keeps (Armed job start) (Applying job start data past)
        (act fate fun state => setData (change state.database.data) state)
        fun _ => Applying job start (change data) past := by
    intro fate change data
    apply Keeps.act fun _ holds => holds.1
    rintro state ⟨armed, rfl, files⟩
    exact ⟨armed_setData _ armed, rfl, files⟩
  apply Keeps.bind (rewrite _ job.advance data)
  intro _
  apply Keeps.bind (rewrite _ (job.recordSync _) _)
  intro _
  split
  · exact .fail fun _ holds => holds.1
  · exact .pure fun _ => id

/-- The stages between arming and retiring keep the operation armed and end
in the completed state. -/
theorem keeps_applyRestore : Keeps (Armed job start)
      (fun state => Armed job start state ∧ IsBefore start state)
      (applyRestore faults job)
      fun _ state => Armed job start state ∧ IsCompleted job start state := by
  have stages := Keeps.bind (@keeps_databaseRestore _ _ faults _ job start)
    fun _ => Keeps.bind (keeps_restoreBackupCertificate faults _)
    fun _ => Keeps.bind (keeps_restoreBackupTotpKey faults _)
    fun _ => Keeps.bind (keeps_restoreBackupClientCa faults _)
    fun _ => keeps_publishPolicyChange faults _ _
  refine .weaken stages (fun _ => id) ?_ fun _ => id
  rintro _ state ⟨armed, data, files⟩
  refine ⟨armed, data, fun file => ?_⟩
  rw [files file]
  cases file <;> simp [completedFiles]

end Recovery

end JanusGate
