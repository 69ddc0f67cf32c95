import JanusGate.Daemon.NetworkConfirm

/-!
# What a network confirmation leaves behind

The stored row and the helper agree after a confirmation, and after one that
was compensated.  A compensation that fails part way leaves the intent recorded
and the management degraded; a request that is refused earlier changes neither
side.
-/

namespace JanusGate.NetworkConfirm

open Crash Network List Recovery

variable {φ : Type}

def StoredNetwork (config : NetworkConfig) (plant : NetworkPlant φ) : Prop :=
  ∃ row, networkRow plant = some row ∧ networkConfigDecode row.value = .ok config ∧ row.revision ≠ 0

def ActiveNetwork (config : NetworkConfig) (plant : NetworkPlant φ) : Prop :=
  plant.netd.current = some config ∧ plant.netd.pending = none ∧ plant.netd.Carries config

def AgreesOn (config : NetworkConfig) (plant : NetworkPlant φ) : Prop :=
  StoredNetwork config plant ∧ ActiveNetwork config plant

/-- The database and every durable action of the recovery succeed. -/
structure Performed (calls : ConfirmCalls φ) : Prop where
  store : ∀ site, calls.store site = .done
  recovery : ∀ site, calls.recovery.faults site = .done

/-! ## The row -/

section Row

variable {calls : ConfirmCalls φ} {condition : NetworkPlant φ → Prop}

def Loaded (record : NetworkRecord) (plant : NetworkPlant φ) : Prop :=
  ∃ row, networkRow plant = some row ∧ networkConfigDecode row.value = .ok record.config ∧
    row.revision = record.revision ∧ row.revision ≠ 0

variable {plant : NetworkPlant φ} {record : NetworkRecord}

theorem Loaded.stored (loaded : Loaded record plant) : StoredNetwork record.config plant := by
  obtain ⟨row, found, decoded, _, positive⟩ := loaded
  exact ⟨row, found, decoded, positive⟩

theorem Loaded.config_eq (loaded : Loaded record plant) (stored : StoredNetwork config plant) :
    record.config = config := by
  obtain ⟨row, found, decoded, _⟩ := loaded
  obtain ⟨storedRow, storedFound, storedDecoded, _⟩ := stored
  cases found.symm.trans storedFound
  cases decoded.symm.trans storedDecoded
  rfl

theorem load_completes (performed : fate = .done) :
    Completes condition (loadNetworkConfigRecord fate)
      (fun record plant => condition plant ∧ Loaded record plant)
      fun status plant => condition plant ∧ status ≠ eAgain ∧
        ∀ config, ¬ StoredNetwork config plant := by
  apply Completes.bind (.check performed)
  intro _
  apply Completes.bind (.look networkRow)
  intro row
  cases row with
  | none =>
    refine .fail fun plant holds => ⟨holds.2, by decide, ?_⟩
    rintro config ⟨row, found, _⟩
    cases holds.1.trans found
  | some row =>
    dsimp only
    cases decoded : networkConfigDecode row.value with
    | error result =>
      refine .fail fun plant holds => ⟨holds.2, by decide, ?_⟩
      rintro config ⟨_, found, valid, _⟩
      cases holds.1.trans found
      cases decoded.symm.trans valid
    | ok config =>
      by_cases initial : row.revision = 0
      · simp only [if_pos initial]
        refine .fail fun plant holds => ⟨holds.2, by decide, ?_⟩
        rintro config ⟨_, found, _, positive⟩
        cases holds.1.trans found
        exact positive initial
      · simp only [if_neg initial]
        exact .pure fun plant holds => ⟨holds.2, row, holds.1.symm, decoded, rfl, initial⟩

theorem storedNetwork_setRow (encoded : networkConfigEncode config outputSize = .ok wire)
    (updatedAt revision : Nat) (plant : NetworkPlant φ) :
    StoredNetwork config (setRow {
      value := wire
      updatedAt := updatedAt
      revision := revision + 1 } plant) :=
  ⟨_, rfl, networkConfigDecode_encode encoded, Nat.succ_ne_zero _⟩

variable (performed : Performed calls) (call : StoreCall) (config : NetworkConfig)

include performed

/-- A replacement that returns stored its configuration, one that fails changed nothing. -/
theorem replace_completes {after : NetworkPlant φ → Prop} (expectedRevision : Nat)
    (keeps : ∀ row plant, condition plant → after (setRow row plant)) :
    Completes condition (replaceNetworkConfig calls call config expectedRevision)
      (fun _ plant => after plant ∧ StoredNetwork config plant)
      fun status plant => condition plant ∧ (status = eAgain → ∀ row, networkRow plant = some row →
          row.revision ≠ expectedRevision) := by
  unfold replaceNetworkConfig
  split
  · exact .fail fun _ holds => ⟨holds, fun again => nomatch again⟩
  split
  case h_1 result refused =>
    refine .fail fun _ holds => ⟨holds, fun again => ?_⟩
    rcases networkConfigEncode_error refused with rfl | rfl | rfl
    · cases again
    · cases again
    · cases again
  case h_2 wire encoded =>
    apply Completes.bind (.look networkRow)
    intro row
    split
    case h_1 row _ =>
      apply Completes.bind (@Completes.act _ _ _ _ _
        (fun _ plant => after plant ∧ StoredNetwork config plant)
        (performed.store _) fun plant holds =>
          ⟨keeps _ plant holds.2, storedNetwork_setRow encoded _ _ plant⟩)
      intro _
      exact (load_completes (performed.store _)).weaken
        (fun _ => id) (fun _ _ holds => holds.1)
        fun _ _ holds => absurd holds.1.2 (holds.2.2 config)
    case h_2 =>
      apply Completes.bind (.check (performed.store _))
      intro _
      apply Completes.bind ((load_completes (performed.store _)).weaken
        (fun _ holds => holds.2) (fun _ _ holds => holds)
        fun _ _ holds => ⟨holds.1, fun again => absurd again holds.2.1⟩)
      intro current
      split
      case isTrue other =>
        refine .fail fun plant holds => ⟨holds.1, ?_⟩
        intro _ row found
        obtain ⟨loadedRow, loaded, _, same, _⟩ := holds.2
        cases found.symm.trans loaded
        exact fun expected => other (same.symm.trans expected)
      case isFalse => split <;> exact .fail fun _ holds => ⟨holds.1, fun again => nomatch again⟩

theorem restorePersistent_completes
    (keeps : ∀ row plant, condition plant → condition (setRow row plant)) :
    Completes condition (restorePersistentNetwork calls call config)
      (fun _ plant => condition plant ∧ StoredNetwork config plant)
      fun _ => condition := by
  apply Completes.bind ((load_completes (performed.store _)).weaken
    (fun _ => id) (fun _ _ holds => holds) fun _ _ holds => holds.1)
  intro current
  by_cases same : current.config = config
  · simp only [same, ne_eq, not_true, if_false]
    exact .pure fun _ holds => ⟨holds.1, same ▸ holds.2.stored⟩
  simp only [same, ne_eq, not_false_iff, if_true]
  apply Completes.bind ((replace_completes performed call config
    current.revision keeps).weaken (fun _ holds => holds.1)
      (fun _ _ holds => holds) fun _ _ holds => holds.1)
  intro _
  exact .pure fun _ => id

end Row

/-! ## The helper -/

def Recorded (intent : ManagementOperation) (plant : NetworkPlant φ) : Prop :=
  plant.management.database.operation = some intent

/-- The helper confirmed the configuration and goes back to it on a rollback. -/
def Based (config : NetworkConfig) (netd : Netd.NetdState) : Prop :=
  netd.current = some config ∧ match netd.pending with
    | none => netd.Carries config
    | some pending => pending.checkpoint = some config

def Reapplied (config : NetworkConfig) (netd : Netd.NetdState) : Prop :=
  netd.Carries config ∧ ∃ pending, netd.pending = some pending ∧ pending.config = config

variable {config : NetworkConfig}

theorem Based.rollback (based : Based config netd) :
    Based config (Netd.rollbackNetwork netd Netd.allSucceed).1 := by
  obtain ⟨kernel, current, pending⟩ := netd
  obtain ⟨confirmed, back⟩ := based
  cases confirmed
  cases pending with
  | none => exact ⟨rfl, back⟩
  | some pending => exact ⟨rfl, back, rfl⟩

theorem Based.apply {now : Nat} (based : Based config netd)
    (applied : (Netd.applyNetwork netd config now Netd.allSucceed).2 = 0) :
    Reapplied config (Netd.applyNetwork netd config now Netd.allSucceed).1 := by
  obtain ⟨kernel, current, pending⟩ := netd
  cases pending with
  | some pending => cases applied
  | none =>
    by_cases late : now > uint64Max - Netd.confirmTimeoutSeconds
    · simp [Netd.applyNetwork, Netd.monotonicSeconds, Netd.allSucceed, late, eOverflow] at applied
    · simp [Netd.applyNetwork, Netd.monotonicSeconds, Netd.allSucceed,
        late, Reapplied, Netd.NetdState.Carries]

theorem Reapplied.confirm (applied : Reapplied config netd) :
    (Netd.confirmNetwork netd).1.current = some config ∧
      (Netd.confirmNetwork netd).1.pending = none ∧
      (Netd.confirmNetwork netd).1.Carries config := by
  obtain ⟨carries, pending, waiting, same⟩ := applied
  unfold Netd.confirmNetwork
  rw [waiting]
  exact ⟨congrArg some same, rfl, carries⟩

variable {pre : NetworkPlant φ → Prop} {serve : Netd.NetdState → Netd.NetdState × Int}

section Helper

variable {calls : ConfirmCalls φ} {request : NetdCall}

/-- A request reaches the helper and is served, is refused there, or changes
nothing. -/
theorem netdRequest_completes (unreached : ∀ plant, pre plant → fails plant)
    (refused : ∀ plant, pre plant → (serve plant.netd).2 ≠ 0 →
      fails { plant with netd := (serve plant.netd).1 })
    (served : ∀ plant, pre plant → (serve plant.netd).2 = 0 →
      post { plant with netd := (serve plant.netd).1 }) :
    Completes pre (netdRequest calls request serve) (fun _ => post) fun _ => fails := by
  intro plant holds
  unfold netdRequest
  by_cases failed : calls.requests request = 0
  · rw [if_neg (not_not_intro failed)]
    by_cases result : (serve plant.netd).2 = 0
    · rw [if_neg (not_not_intro result)]
      exact served plant holds result
    · rw [if_pos result]
      exact refused plant holds result
  · rw [if_pos failed]
    exact unreached plant holds

theorem getNetworkState_pending
    (read : Netd.getNetworkState netd clock Netd.allSucceed = .ok state) :
    state.pendingConfig = netd.pending.map (·.config) := by
  unfold Netd.getNetworkState at read
  cases waiting : netd.pending with
  | none =>
    rw [waiting] at read
    cases read
    rfl
  | some pending =>
    rw [waiting] at read
    cases read
    rfl

theorem state_completes :
    Completes pre (netdClientState calls request) (fun state plant => pre plant ∧
        state.pendingConfig = plant.netd.pending.map (·.config))
      fun _ => pre := by
  apply Completes.bind (.look NetworkPlant.netd)
  intro netd
  split
  · exact .fail fun _ holds => holds.2
  split
  · exact .fail fun _ holds => holds.2
  case h_2 state read =>
    exact .pure fun plant holds => ⟨holds.2, holds.1 ▸ getNetworkState_pending read⟩

end Helper

/-! ## Compensation -/

section Compensation

variable {calls : ConfirmCalls φ} {previous replacement : NetworkConfig}
  {intent : ManagementOperation}

/-- The intent is recorded and the helper is based on a configuration. -/
def Retractable (intent : ManagementOperation) (config : NetworkConfig)
    (plant : NetworkPlant φ) : Prop :=
  Recorded intent plant ∧ Based config plant.netd

variable {request : NetdCall}

theorem rollback_completes : Completes (Retractable intent previous)
      (netdClientRollback calls request)
      (fun _ => Retractable intent previous)
      fun _ => Retractable intent previous :=
  netdRequest_completes (fun _ => id) (fun _ holds _ => ⟨holds.1, holds.2.rollback⟩)
    fun _ holds _ => ⟨holds.1, holds.2.rollback⟩

theorem retractPending_completes : Completes (Retractable intent previous) (retractPending calls)
      (fun _ => Retractable intent previous) fun _ => Recorded intent := by
  have asked : Completes (Retractable intent previous) (do
      let state ← netdClientState calls .recoveryState
      if state.pendingConfig.isSome then netdClientRollback calls .recoveryRollback)
      (fun _ => Retractable intent previous)
      (fun _ => Retractable intent previous) := by
    apply Completes.bind (state_completes.weaken (fun _ => id)
      (fun _ _ holds => holds.1) fun _ _ holds => holds)
    intro state
    split
    · exact rollback_completes
    · exact .pure fun _ => id
  apply Completes.handle asked
  · exact fun _ => .pure fun _ => id
  intro _
  dsimp only
  split
  · exact .pure fun _ => id
  · exact .fail fun _ holds => holds.1

theorem apply_completes : Completes (Retractable intent previous)
      (netdClientApply calls .recoveryApply previous)
      (fun _ plant => Recorded intent plant ∧ Reapplied previous plant.netd)
      fun _ => Recorded intent := by
  unfold netdClientApply
  split
  case h_1 => exact .fail fun _ holds => holds.1
  case h_2 body encoded =>
    simp only [networkConfigDecode_encode encoded]
    exact netdRequest_completes (fun _ holds => holds.1) (fun _ holds _ => holds.1)
      fun _ holds applied => ⟨holds.1, holds.2.apply applied⟩

theorem netdRequest_recorded :
    Completes (Recorded intent) (netdRequest calls request serve)
      (fun _ => Recorded (φ := φ) intent) fun _ => Recorded intent :=
  netdRequest_completes (fun _ => id) (fun _ holds _ => holds) fun _ holds _ => holds

section

variable (performed : Performed calls)

include performed

theorem storePrevious_completes : Completes
      (fun plant => Recorded intent plant ∧ Reapplied previous plant.netd)
      (storePrevious calls previous)
      (fun _ plant => (Recorded intent plant ∧
        Reapplied previous plant.netd) ∧ StoredNetwork previous plant)
      fun _ => Recorded intent := by
  apply Completes.handle (restorePersistent_completes performed .previous
    previous fun _ _ holds => holds)
  · exact fun _ => .pure fun _ => id
  intro _
  apply Completes.bind (netdRequest_recorded.attempt.weaken
    (fun _ holds => holds.1) (fun _ _ holds => holds)
    fun _ _ holds => holds)
  intro result
  cases result with
  | ok _ | error _ => exact .fail fun _ => id

theorem reinstatePrevious_completes :
    Completes (Retractable intent previous) (reinstatePrevious calls previous)
      (fun _ plant => Recorded intent plant ∧ AgreesOn previous plant)
      fun _ => Recorded intent := by
  apply Completes.bind retractPending_completes
  intro _
  apply Completes.bind apply_completes
  intro _
  apply Completes.bind (storePrevious_completes performed)
  intro _
  exact netdRequest_completes (fun _ holds => holds.1.1) (fun _ holds _ => holds.1.1)
    fun _ holds _ => ⟨holds.1.1, holds.2, holds.1.2.confirm⟩

theorem abandonPrevious_completes (status : Int) :
    Completes (Recorded intent) (abandonPrevious calls replacement status)
      post fun _ => Recorded intent := by
  apply Completes.bind netdRequest_recorded.attempt
  intro rolledBack
  have stored := @restorePersistent_completes φ calls (Recorded intent)
    performed .replacement replacement fun _ _ holds => holds
  apply Completes.bind (stored.attempt.weaken (fun _ holds => by
    cases rolledBack <;> exact holds) (fun _ _ holds => holds)
    fun _ _ holds => holds)
  intro result
  cases result with
  | error _ => cases rolledBack <;> exact .fail fun _ => id
  | ok _ => cases rolledBack <;> exact .fail fun _ holds => holds.1

/-- A compensation that returns left the previous configuration on both
sides. -/
theorem restoreRecoveryNetwork_completes
    (configs : recoveryConfigs payload = some (previous, replacement)) :
    Completes (Retractable intent previous) (restoreRecoveryNetwork calls payload)
      (fun _ plant => Recorded intent plant ∧ AgreesOn previous plant)
      fun _ => Recorded intent := by
  unfold restoreRecoveryNetwork
  rw [configs]
  apply Completes.handle (reinstatePrevious_completes performed)
  · exact fun _ => .pure fun _ => id
  · exact fun status => abandonPrevious_completes performed status

end

/-! ### The record -/

section Database

variable {faults : Recovery.Faults} {δ : Type} {database : ManagementDatabase δ}

def HasDatabase (database : ManagementDatabase δ) (state : ManagementState δ φ) : Prop :=
  state.database = database

variable (performed : ∀ site, faults site = .done)

include performed

theorem reconcileBackups_database : Completes (HasDatabase (φ := φ) database)
      (reconcileBackups faults) (fun _ => HasDatabase database)
      fun _ => HasDatabase database := by
  apply Completes.handle (Completes.check (performed _))
  · exact fun _ => .pure fun _ => id
  intro _
  dsimp only
  split
  · exact .pure fun _ => id
  · exact .fail fun _ => id

theorem cleanup_database :
    Completes (HasDatabase (φ := φ) database) (cleanupRecoverySnapshots faults)
      (fun _ => HasDatabase database) fun _ => HasDatabase database := by
  apply Completes.tryAll
  intro step member
  rcases mem_append.mp member with listed | last
  · obtain ⟨file, _, rfl⟩ := mem_map.mp listed
    apply Completes.find
    · exact .pure fun _ holds => holds.2
    · exact fun _ => .act (performed _) fun _ holds => holds.2
  · obtain rfl := mem_singleton.mp last
    apply Completes.find
    · exact .pure fun _ holds => holds.2
    · exact fun _ => .act (performed _) fun _ holds => holds.2

/-- An operation without files is armed at once, unless another one is on record. -/
theorem startRecovery_alone (operation : ManagementOperation) (state : ManagementState δ φ) :
    Completes (fun earlier => earlier = state)
      (startRecoveryOperation faults operation 0 false)
      (fun _ later => later = setOperation (some { operation with ready := true }) state)
      fun _ later => later = state := by
  have prepared : Completes (fun earlier => earlier = state)
      (operationPrepare faults operation)
      (fun _ later => later = setOperation (some { operation with ready := false }) state)
      (fun _ later => later = state) := by
    apply Completes.find
    · exact .act (performed _) fun _ holds => congrArg (setOperation _) holds.2
    · exact fun _ => .fail fun _ holds => holds.2
  have armed : Completes (fun earlier => earlier = setOperation
        (some { operation with ready := false }) state)
      (do
        createRecoverySnapshots faults 0 false
        operationMarkReady faults)
      (fun _ later => later = setOperation (some { operation with ready := true }) state)
      (fun _ _ => False) := by
    apply Completes.bind (.look _)
    intro found earlier holds
    obtain ⟨rfl, rfl⟩ := holds
    exact Completes.act (performed _) (fun _ holds => holds ▸ rfl) _ rfl
  apply Completes.bind prepared
  intro _
  apply Completes.handle armed
  · exact fun _ => .pure fun _ => id
  · exact fun _ _ holds => holds.elim

end Database

def DatabaseOnly (condition : NetworkPlant φ → Prop) : Prop :=
  ∀ plant management, management.database = plant.management.database →
      condition plant → condition { plant with management := management }

variable {condition : NetworkPlant φ → Prop}

theorem onManagement_completes {step : Recovery.Step NetworkData φ Unit}
    (keeps : ∀ database, Completes (HasDatabase database) step
      (fun _ => HasDatabase database) fun _ => HasDatabase database)
    (frame : DatabaseOnly condition) :
    Completes condition (onManagement step) (fun _ => condition) fun _ => condition := by
  apply Completes.zoom
  intro plant holds
  exact (keeps plant.management.database).weaken
    (fun _ same => congrArg ManagementState.database same)
    (fun _ _ same => frame plant _ same holds)
    fun _ _ same => frame plant _ same holds

theorem recorded_databaseOnly : DatabaseOnly (Recorded (φ := φ) intent) :=
  fun _ _ same recorded => (congrArg ManagementDatabase.operation same).trans recorded

theorem agreesOn_databaseOnly : DatabaseOnly (AgreesOn (φ := φ) previous) := by
  intro plant management same agrees
  obtain ⟨⟨row, stored, rest⟩, active⟩ := agrees
  have sameRow : management.database.data.row = some row :=
    (congrArg (fun database => database.data.row) same).trans stored
  exact ⟨⟨row, sameRow, rest⟩, active⟩

theorem retractable_databaseOnly : DatabaseOnly (Retractable (φ := φ) intent previous) :=
  fun plant management same holds => ⟨recorded_databaseOnly plant management same holds.1, holds.2⟩

theorem finishRecovered_completes (performed : Performed calls) : Completes
      (fun plant => Recorded intent plant ∧ AgreesOn previous plant)
      (onManagement (finishRecoveredOperation calls.recovery intent))
      (fun _ => AgreesOn previous) fun _ => Recorded intent := by
  apply Completes.zoom
  intro plant holds
  unfold finishRecoveredOperation
  split
  · exact .fail fun _ same => by
      subst same
      exact holds.1
  apply Completes.bind (.look _)
  intro operation
  cases operation with
  | none =>
    exact .fail fun _ same => by
      obtain ⟨absent, rfl⟩ := same
      cases absent.trans holds.1
  | some operation =>
    exact .act (performed.recovery _) fun _ same => by
      obtain ⟨_, rfl⟩ := same
      exact holds.2

theorem recoverPending_completes (performed : Performed calls)
    (confirms : intent.kind = .networkConfirm) (ready : intent.ready = true)
    (configs : recoveryConfigs intent.payload = some (previous, replacement)) :
    Completes (Retractable intent previous) (recoverPendingOperation calls)
      (fun _ => AgreesOn previous)
      fun _ plant => Recorded intent plant ∨ AgreesOn previous plant := by
  have arrives : ∀ {step : Recovery.Step NetworkData φ Unit},
      (∀ database, Completes (HasDatabase database) step
        (fun _ => HasDatabase database) fun _ => HasDatabase database) →
      Completes (Retractable intent previous) (onManagement step)
        (fun _ => Retractable intent previous)
        (fun _ plant => Recorded intent plant ∨ AgreesOn previous plant) :=
    fun keeps => (onManagement_completes keeps
      retractable_databaseOnly).weaken (fun _ => id)
        (fun _ _ holds => holds) fun _ _ holds => Or.inl holds.1
  apply Completes.bind (arrives fun _ => reconcileBackups_database performed.recovery)
  intro _
  apply Completes.bind (arrives fun _ => Completes.check (performed.recovery _))
  intro _
  apply Completes.find
  · intro plant holds
    cases holds.1.trans holds.2.1
  intro operation plant holds
  obtain ⟨found, retractable⟩ := holds
  obtain rfl : operation = intent := Option.some.inj (found.trans retractable.1)
  have resources : Completes (Retractable operation previous) (do
      restoreOperation calls operation
      onManagement (finishRecoveredOperation calls.recovery operation)
      onManagement (cleanupRecoverySnapshots calls.recovery.faults))
      (fun _ => AgreesOn previous)
      (fun _ plant => Recorded operation plant ∨ AgreesOn previous plant) := by
    unfold restoreOperation
    rw [if_pos ⟨confirms, ready⟩]
    apply Completes.bind ((restoreRecoveryNetwork_completes performed
      configs).weaken (fun _ => id) (fun _ _ holds => holds) fun _ _ holds => Or.inl holds)
    intro _
    apply Completes.bind ((finishRecovered_completes performed).weaken
      (fun _ => id) (fun _ _ holds => holds) fun _ _ holds => Or.inl holds)
    intro _
    exact (onManagement_completes (fun _ =>
      cleanup_database performed.recovery) agreesOn_databaseOnly).weaken
        (fun _ => id) (fun _ _ holds => holds)
        fun _ _ holds => Or.inr holds
  exact resources plant retractable

/-! ### The intent -/

def confirmIntent (previous replacement : NetworkConfig)
    (origin : OperationOrigin) (now : Nat) : ManagementOperation where
  kind := .networkConfirm
  ready := true
  payload := recoveryVersion :: (configBody previous ++ configBody replacement)
  createdAt := now
  origin := origin

theorem recoveryConfigs_confirmIntent (previousValid : networkConfigValidate previous = 0)
    (replacementValid : networkConfigValidate replacement = 0)
    (origin : OperationOrigin) (now : Nat) :
    recoveryConfigs (confirmIntent previous replacement origin now).payload =
      some (previous, replacement) := by
  have firstSize := configBody_length previousValid
  have secondSize := configBody_length replacementValid
  have size : (recoveryVersion :: (configBody previous ++ configBody replacement)).length =
        1 + configWireSize * 2 := by
    simp only [length_cons, length_append, firstSize, secondSize]
    omega
  have first : slice (recoveryVersion ::
      (configBody previous ++ configBody replacement)) 1 configWireSize = configBody previous := by
    simp [slice, ← firstSize]
  have second : slice (recoveryVersion ::
      (configBody previous ++ configBody replacement)) (1 + configWireSize)
        configWireSize = configBody replacement := by
    simp [slice, ← firstSize, Nat.add_comm 1, firstSize.trans secondSize.symm]
  have version : byteAt (recoveryVersion ::
      (configBody previous ++ configBody replacement)) 0 = recoveryVersion := rfl
  unfold recoveryConfigs confirmIntent
  rw [if_neg (not_or.mpr ⟨not_not_intro size, not_not_intro version⟩), first,
    second, networkConfigDecode_eq_ok.mpr ⟨previousValid, rfl⟩,
    networkConfigDecode_eq_ok.mpr ⟨replacementValid, rfl⟩]

def Unchanged (start plant : NetworkPlant φ) : Prop :=
  networkRow plant = networkRow start ∧ plant.netd = start.netd

theorem startNetworkRecovery_completes (performed : Performed calls)
    (origin : OperationOrigin) (now : Nat) (start : NetworkPlant φ) :
    Completes (Unchanged start) (startNetworkRecovery calls previous replacement origin now)
      (fun _ plant =>
        (Recorded (confirmIntent previous replacement origin now) plant ∧ recoveryConfigs
              (confirmIntent previous replacement origin now).payload =
            some (previous, replacement)) ∧
        Unchanged start plant)
      fun _ => Unchanged start := by
  unfold startNetworkRecovery
  split
  case h_1 => exact .fail fun _ => id
  case h_2 => exact .fail fun _ => id
  case h_3 previousEncoded replacementEncoded =>
    obtain ⟨previousValid, -, rfl⟩ := networkConfigEncode_eq_ok.mp previousEncoded
    obtain ⟨replacementValid, -, rfl⟩ := networkConfigEncode_eq_ok.mp replacementEncoded
    have configs := recoveryConfigs_confirmIntent previousValid replacementValid origin now
    apply Completes.zoom
    intro plant holds
    exact (startRecovery_alone performed.recovery _ plant.management).weaken (fun _ same => same)
      (fun _ _ armed => by
        subst armed
        exact ⟨⟨rfl, configs⟩, holds⟩)
      fun _ _ same => by
        subst same
        exact holds

/-! ## The whole request -/

/-- The intent of a confirmation waits on record for a recovery, and the
management is degraded. -/
def AwaitsRecovery (previous replacement : NetworkConfig) (plant : NetworkPlant φ) : Prop :=
  plant.externalRecoveryDegraded = true ∧
    ∃ intent, Recorded intent plant ∧ intent.kind = .networkConfirm ∧ intent.ready = true ∧
      recoveryConfigs intent.payload = some (previous, replacement)

/-- What an answer says about the two sides. -/
def ConfirmOutcome (previous pending : NetworkConfig) (start : NetworkPlant φ)
    (response : ConfirmResponse) (plant : NetworkPlant φ) : Prop :=
  match response with
  | .confirmed _ _ => AgreesOn pending plant
  | .refused .confirmFailure | .refused .storeFailure => AgreesOn previous plant
  | .refused .confirmNotRecovered | .refused .storeNotRecovered =>
    AgreesOn previous plant ∨ AwaitsRecovery previous pending plant
  | .refused _ => Unchanged start plant

def Aborted (previous replacement : NetworkConfig) (plant : NetworkPlant φ) : Prop :=
  AgreesOn previous plant ∨ AwaitsRecovery previous replacement plant

/-- What an aborted confirmation leaves, by the result it reports. -/
def AbortedWith (previous replacement : NetworkConfig) (operationResult : Int)
    (result : Int) (plant : NetworkPlant φ) : Prop :=
  (result = operationResult ∧ AgreesOn previous plant) ∨
    (result = eIo ∧ Aborted previous replacement plant)

variable {operationResult : Int} {record : NetworkRecord}

section

variable {result : Int} {plant : NetworkPlant φ}
  (left : AbortedWith previous replacement operationResult result plant)

include left

theorem AbortedWith.aborted : Aborted previous replacement plant :=
  left.elim (fun agrees => Or.inl agrees.2) fun left => left.2

theorem AbortedWith.agrees (recovered : result ≠ eIo) : AgreesOn previous plant :=
  left.elim (fun agrees => agrees.2) fun left => absurd left.1 recovered

end

variable {origin : OperationOrigin} {now : Nat} {error : Int → NetworkPlant φ → Prop}

section

variable (performed : Performed calls)

include performed

/-- An aborted confirmation reports its result when it was compensated. -/
theorem abort_completes (configs : recoveryConfigs
        (confirmIntent previous replacement origin now).payload =
      some (previous, replacement)) (operationResult : Int) :
    Completes (Retractable (confirmIntent previous replacement origin now) previous)
      (abortRecoveryOperation calls operationResult)
      (AbortedWith previous replacement operationResult) error := by
  apply Completes.handle (recoverPending_completes performed rfl rfl configs)
  · exact fun _ => .pure fun _ holds => Or.inl ⟨rfl, holds⟩
  intro _
  apply Completes.bind (@Completes.act _ _ _ _ _ (fun _ => Aborted previous replacement) rfl
    fun plant holds => holds.elim (fun recorded => Or.inr ⟨rfl, _, recorded, rfl, rfl, configs⟩)
      fun agrees => Or.inl agrees)
  intro _
  exact .pure fun _ holds => Or.inr ⟨rfl, holds⟩

theorem append_completes {event : NetworkAudit}
    (keeps : ∀ plant, condition plant → condition (addAudit event plant)) :
    Completes condition (appendNetworkAudit calls event) (fun _ => condition) error :=
  Completes.act (performed.store _) keeps

theorem audited_completes
    (keeps : ∀ event plant, condition plant → condition (addAudit event plant))
    (event : NetworkAudit) (unaudited answer : ConfirmError) :
    Completes condition (audited calls event unaudited answer) (fun response plant =>
        response = .refused answer ∧ condition plant) error := by
  have appended := @append_completes φ calls condition (fun _ _ => False)
    performed event (keeps event)
  apply Completes.handle appended
  · exact fun _ => .pure fun _ holds => ⟨rfl, holds⟩
  · exact fun _ _ holds => holds.elim

theorem audited_outcome (event : NetworkAudit)
    (unaudited answer : ConfirmError) (condition : NetworkPlant φ → Prop)
    (keeps : ∀ event plant, condition plant → condition (addAudit event plant))
    (enters : ∀ plant, pre plant → condition plant) (answers : ∀ plant, condition plant →
      ConfirmOutcome previous replacement start (.refused answer) plant) :
    Completes pre (audited calls event unaudited answer)
      (ConfirmOutcome previous replacement start) fun _ _ => False :=
  (audited_completes performed keeps event unaudited answer).weaken enters (fun _ plant holds => by
      obtain ⟨rfl, reached⟩ := holds
      exact answers plant reached)
    fun _ _ holds => holds

end

section

variable (performed : Performed calls)
  (configs : recoveryConfigs (confirmIntent previous replacement origin now).payload = some
    (previous, replacement))
  (request : ConfirmRequest) (record : NetworkRecord)

include performed configs

theorem storeFailed_completes (current : operationResult ≠ eAgain) (start : NetworkPlant φ) :
    Completes (Retractable (confirmIntent previous replacement origin now) previous)
      (storeFailed calls request record replacement operationResult)
      (ConfirmOutcome previous replacement start) fun _ _ => False := by
  apply Completes.bind (abort_completes performed configs operationResult)
  intro recoveryResult
  by_cases unrecovered : recoveryResult = eIo
  · simp only [if_pos unrecovered]
    exact audited_outcome performed _ _ _ (Aborted previous replacement)
      (fun _ _ left => left) (fun _ left => left.aborted)
      fun _ left => left
  · simp only [if_neg unrecovered, if_neg current]
    exact audited_outcome performed _ _ _ (AgreesOn previous)
      (fun _ _ agrees => agrees) (fun _ left => left.agrees unrecovered)
      fun _ agrees => agrees

theorem confirmFailed_completes (operationResult : Int) (start : NetworkPlant φ) :
    Completes (Retractable (confirmIntent previous replacement origin now) previous)
      (confirmFailed calls request record replacement operationResult)
      (ConfirmOutcome previous replacement start) fun _ _ => False := by
  apply Completes.bind (abort_completes performed configs operationResult)
  intro recoveryResult
  apply Completes.bind (Completes.attempted
    (load_completes (performed.store _)) (fun _ _ holds => holds.1)
    fun _ _ holds => holds.1)
  intro recovered
  by_cases unrecovered : recoveryResult = eIo
  · simp only [if_pos unrecovered]
    exact audited_outcome performed _ _ _ (Aborted previous replacement)
      (fun _ _ left => left) (fun _ left => left.aborted)
      fun _ left => left
  · simp only [if_neg unrecovered]
    exact audited_outcome performed _ _ _ (AgreesOn previous)
      (fun _ _ agrees => agrees) (fun _ left => left.agrees unrecovered)
      fun _ agrees => agrees

end

/-- Both sides have the configuration and the intent is on record. -/
def Finishing (intent : ManagementOperation) (config : NetworkConfig)
    (plant : NetworkPlant φ) : Prop :=
  Recorded intent plant ∧ AgreesOn config plant

theorem clear_completes (performed : Performed calls) :
    Completes (Finishing (φ := φ) intent replacement)
      (onManagement (operationClear calls.recovery.faults))
      (fun _ => AgreesOn replacement) fun _ _ => False := by
  apply Completes.zoom
  intro plant holds
  apply Completes.find
  · exact .fail fun _ same => by
      obtain ⟨absent, rfl⟩ := same
      cases absent.trans holds.1
  · intro _
    exact .act (performed.recovery _) fun _ same => by
      obtain ⟨_, rfl⟩ := same
      exact holds.2

theorem finish_completes (performed : Performed calls) (event : NetworkAudit) :
    Completes (Finishing intent replacement) (finishRecoveryOperation calls event)
      (fun result plant => result = 0 ∧ AgreesOn replacement plant)
      fun _ _ => False := by
  have retired : Completes (Finishing intent replacement)
      (retireConfirmed calls event) (fun _ => AgreesOn replacement)
      (fun _ _ => False) := by
    apply Completes.transaction _ fun _ _ _ _ failed => failed
    apply Completes.bind (append_completes performed fun _ => id)
    intro _
    apply Completes.bind (clear_completes performed)
    intro _
    exact .check (performed.recovery _)
  apply Completes.handle retired
  · intro _
    have cleaned := @onManagement_completes φ _ _ (fun _ =>
      cleanup_database performed.recovery)
      (@agreesOn_databaseOnly φ replacement)
    apply Completes.bind (cleaned.attempted (fun _ _ agrees => agrees) fun _ _ agrees => agrees)
    intro result
    exact .pure fun plant agrees => ⟨rfl, agrees⟩
  · exact fun _ _ holds => holds.elim

theorem confirmSucceeded_completes (performed : Performed calls) (request : ConfirmRequest)
    (record updated : NetworkRecord) (start : NetworkPlant φ) :
    Completes (Finishing intent replacement) (confirmSucceeded calls request record updated)
      (ConfirmOutcome previous replacement start) fun _ _ => False := by
  apply Completes.bind (finish_completes performed _)
  intro result plant holds
  obtain ⟨rfl, agrees⟩ := holds
  have answered : Completes (AgreesOn (φ := φ) replacement) (do
      let state ← attempt (netdClientState calls .confirmedState)
      pure (ConfirmResponse.confirmed updated state.toOption))
      (ConfirmOutcome previous replacement start) (fun _ _ => False) := by
    apply Completes.bind (state_completes.attempted
      (fun _ _ agrees => agrees.1) fun _ _ agrees => agrees)
    intro state
    exact .pure fun _ agrees => agrees
  exact answered plant agrees

/-- The helper has a transaction pending over a confirmed configuration, which
is the stored one. -/
structure Awaiting (previous pending : NetworkConfig) (plant : NetworkPlant φ) : Prop where
  stored : StoredNetwork previous plant
  confirmed : plant.netd.current = some previous
  waiting : ∃ transaction, plant.netd.pending = some transaction ∧ transaction.config = pending
  consistent : Netd.Consistent false plant.netd

variable {start : NetworkPlant φ}

theorem Awaiting.based (awaiting : Awaiting previous replacement start) :
    Based previous start.netd := by
  obtain ⟨transaction, pending, _⟩ := awaiting.waiting
  refine ⟨awaiting.confirmed, ?_⟩
  rw [pending]
  exact awaiting.consistent.checkpoint transaction previous pending awaiting.confirmed

theorem Awaiting.reapplied (awaiting : Awaiting previous replacement start) :
    Reapplied replacement start.netd := by
  obtain ⟨transaction, pending, same⟩ := awaiting.waiting
  refine ⟨⟨?_, ?_⟩, transaction, pending, same⟩
  · exact (awaiting.consistent.bridge transaction pending).trans (congrArg some same)
  · exact (awaiting.consistent.rules transaction pending rfl).trans (congrArg some same)

/-- The intent is on record and neither side was touched. -/
def Armed (intent : ManagementOperation) (start plant : NetworkPlant φ) : Prop :=
  Recorded intent plant ∧ Unchanged start plant

theorem storePending_completes (performed : Performed calls)
    (awaiting : Awaiting previous replacement start) (loaded : Loaded record start) :
    Completes (Armed intent start) (replaceNetworkConfig calls .handler replacement record.revision)
      (fun _ plant => (Recorded intent plant ∧ plant.netd = start.netd) ∧
        StoredNetwork replacement plant)
      fun status plant => status ≠ eAgain ∧ Retractable intent previous plant := by
  apply (replace_completes performed .handler replacement record.revision
    fun _ _ armed => ⟨armed.1, armed.2.2⟩).weaken (fun _ armed => armed) fun _ _ holds => holds
  intro status plant failed
  obtain ⟨⟨recorded, row, helper⟩, conflict⟩ := failed
  constructor
  · intro again
    obtain ⟨loadedRow, found, _, same, _⟩ := loaded
    exact conflict again loadedRow (row.trans found) same
  · exact ⟨recorded, helper ▸ awaiting.based⟩

theorem confirm_completes (awaiting : Awaiting previous replacement start) : Completes
      (fun plant => (Recorded intent plant ∧ plant.netd = start.netd) ∧
        StoredNetwork replacement plant)
      (netdClientConfirm calls .confirm)
      (fun _ => Finishing intent replacement)
      fun _ => Retractable intent previous := by
  apply netdRequest_completes
  · rintro plant ⟨⟨recorded, helper⟩, _⟩
    exact ⟨recorded, helper ▸ awaiting.based⟩
  · rintro plant ⟨⟨_, helper⟩, _⟩ refused
    obtain ⟨transaction, pending, _⟩ := awaiting.waiting
    refine absurd ?_ refused
    unfold Netd.confirmNetwork
    rw [helper, pending]
  · rintro plant ⟨⟨recorded, helper⟩, stored⟩ _
    have applied : Reapplied replacement plant.netd := helper ▸ awaiting.reapplied
    exact ⟨recorded, stored, applied.confirm⟩

variable (performed : Performed calls) (awaiting : Awaiting previous replacement start)

include performed awaiting

theorem confirmPending_completes
    (configs : recoveryConfigs (confirmIntent previous replacement origin now).payload =
      some (previous, replacement)) (request : ConfirmRequest) (loaded : Loaded record start) :
    Completes (Armed (confirmIntent previous replacement origin now) start)
      (confirmPending calls request record replacement)
      (ConfirmOutcome previous replacement start) fun _ _ => False := by
  apply Completes.handle (storePending_completes performed awaiting loaded)
  · intro updated
    apply Completes.bind (confirm_completes awaiting).attempt
    intro result
    cases result with
    | error operationResult =>
      exact confirmFailed_completes performed configs request record operationResult start
    | ok _ => exact confirmSucceeded_completes performed request record updated start
  · intro _ plant failed
    exact storeFailed_completes performed configs request record failed.1 start plant failed.2

theorem confirmRecord_completes (request : ConfirmRequest) (revision : Nat)
    (loaded : Loaded record start) :
    Completes (Unchanged start) (confirmRecord calls request revision record)
      (ConfirmOutcome previous replacement start) fun _ _ => False := by
  have refuses : ∀ (event : NetworkAudit) (unaudited answer : ConfirmError)
      {pre : NetworkPlant φ → Prop}, (∀ plant, pre plant → Unchanged start plant) →
      (∀ plant, Unchanged start plant →
        ConfirmOutcome previous replacement start (.refused answer) plant) →
      Completes pre (audited calls event unaudited answer)
        (ConfirmOutcome previous replacement start) fun _ _ => False :=
    fun event unaudited answer _ enters answers =>
      audited_outcome performed event unaudited answer (Unchanged start)
        (fun _ _ same => same) enters answers
  unfold confirmRecord
  split
  · exact refuses _ _ _ (fun _ same => same) fun _ same => same
  apply Completes.handle state_completes
  · intro _
    obtain ⟨transaction, waiting, configured⟩ := awaiting.waiting
    intro plant read
    obtain ⟨same, pending⟩ := read
    rw [same.2, waiting, Option.map_some, configured] at pending
    dsimp only
    rw [pending, loaded.config_eq awaiting.stored]
    refine Completes.handle (startNetworkRecovery_completes performed request.origin request.now
      start) ?_ ?_ plant same
    · intro _ plant holds
      obtain ⟨⟨recorded, configs⟩, same⟩ := holds
      exact confirmPending_completes performed awaiting configs request loaded plant
        ⟨recorded, same⟩
    · intro status
      refine .pure fun plant same => ?_
      split <;> exact same
  · intro _
    apply refuses _ _ _ fun _ same => same
    intro plant same
    split <;> exact same

theorem loadedConfirm_completes (request : ConfirmRequest) (revision : Nat) :
    Completes (fun plant => plant = start) (do
      match ← attempt (loadNetworkConfigRecord (calls.store (.load .handler))) with
      | .error result =>
        pure (.refused (if result = eNoEnt
          then .networkUnconfigured else .networkUnavailable))
      | .ok record => confirmRecord calls request revision record)
      (ConfirmOutcome previous replacement start) fun _ _ => False := by
  apply Completes.bind (Completes.attempt (load_completes (performed.store _)))
  intro result
  cases result with
  | error status =>
    rintro plant ⟨rfl, _, absent⟩
    exact absurd awaiting.stored (absent previous)
  | ok record =>
    rintro plant ⟨rfl, loaded⟩
    exact confirmRecord_completes performed awaiting request revision loaded plant ⟨rfl, rfl⟩

end Compensation

/-- A confirmation over a pending change, in which only requests to the helper fail: after a success
both sides have the pending configuration, after a compensated failure the previous one. -/
theorem network_confirm_outcome {previous pending : NetworkConfig} (calls : ConfirmCalls φ)
    (request : ConfirmRequest) (start : NetworkPlant φ)
    (performed : Performed calls) (awaiting : Awaiting previous pending start) :
    ∃ plant response, handleNetworkConfirm calls request start = (plant, .returned response) ∧
        ConfirmOutcome previous pending start response plant := by
  have untouched : Unchanged start start := ⟨rfl, rfl⟩
  apply Completed.returned
  unfold handleNetworkConfirm
  split
  · unfold respondActorError
    split
    · exact untouched
    split <;> exact untouched
  cases request.query with
  | cons _ _ => exact untouched
  | nil =>
    cases request.revision with
    | error _ => exact untouched
    | ok revision => exact loadedConfirm_completes performed awaiting request revision start rfl

/-! ### A sample appliance -/

/-- The previous configuration is stored and confirmed, the next one waits. -/
def sampleStart : NetworkPlant Unit where
  management := {
    database := {
      data := {
        row := some {
          value := configBody Netd.firstConfig
          updatedAt := 0
          revision := 1 }
        audit := [] }
      operation := none
      audit := [] }
    checkpoint := none
    files := fun _ => none
    snapshots := fun _ => none }
  netd := {
    kernel := {
      bridge := some Netd.secondConfig
      rules := some Netd.secondConfig }
    current := some Netd.firstConfig
    pending := some {
      config := Netd.secondConfig
      checkpoint := some Netd.firstConfig
      expiresAt := 120 } }
  externalRecoveryDegraded := false

def sampleRequest : ConfirmRequest where
  actor := 0
  query := []
  revision := .ok 1
  origin := {
    actorType := .user
    actorId := some 1
    source := []
    requestId := []
    requestedAction := [] }
  now := 5

def failing (requests : List NetdCall) : ConfirmCalls Unit where
  recovery := {
    faults := fun _ => .done
    wallClock := 5
    recoverBackupCreation := fun _ => fail eIo
    restoreRecoveryNetwork := fun _ => fail eIo }
  store := fun _ => .done
  requests := fun request => if request ∈ requests then -110 else 0
  helperClock := fun _ => 10
  unixEpoch := fun _ => 5

theorem failing_performed (requests : List NetdCall) : Performed (failing requests) :=
  ⟨fun _ => rfl, fun _ => rfl⟩

theorem sampleStart_awaiting : Awaiting Netd.firstConfig Netd.secondConfig sampleStart where
  stored := ⟨_, rfl, networkConfigDecode_eq_ok.mpr ⟨by decide, rfl⟩, by decide⟩
  confirmed := rfl
  waiting := ⟨_, rfl, rfl⟩
  consistent := by
    constructor
    · exact fun idle => nomatch idle
    · rintro _ ⟨⟩
      rfl
    · rintro _ ⟨⟩ _
      rfl
    · rintro _ _ ⟨⟩ ⟨⟩
      rfl

theorem network_confirm_outcome_timeout : Performed (failing [.confirm]) ∧
      Awaiting Netd.firstConfig Netd.secondConfig sampleStart ∧
      ∃ plant response, handleNetworkConfirm (failing [.confirm]) sampleRequest sampleStart =
            (plant, .returned response) ∧
          ConfirmOutcome Netd.firstConfig Netd.secondConfig sampleStart response plant :=
  ⟨failing_performed _, sampleStart_awaiting, network_confirm_outcome _ _ _ (failing_performed _)
      sampleStart_awaiting⟩

def persistentNetwork (plant : NetworkPlant φ) : Option NetworkConfig :=
  (networkRow plant).bind fun row => (networkConfigDecode row.value).toOption

def sampleConfirm (requests : List NetdCall) : NetworkPlant Unit × Ending ConfirmResponse :=
  handleNetworkConfirm (failing requests) sampleRequest sampleStart

/-- The two sides differ after a refusal when the pending state cannot be read and when the
compensation fails at its last step. -/
theorem network_confirm_disagrees : Netd.firstConfig ≠ Netd.secondConfig ∧
      ((sampleConfirm [.pendingState]).2 = .returned (.refused .stateUnavailable) ∧
        persistentNetwork (sampleConfirm [.pendingState]).1 = some Netd.firstConfig ∧
        (sampleConfirm [.pendingState]).1.netd.Carries Netd.secondConfig) ∧
      ((sampleConfirm [.confirm, .recoveryConfirm]).2 = .returned (.refused .confirmNotRecovered) ∧
        persistentNetwork (sampleConfirm [.confirm, .recoveryConfirm]).1 = some Netd.secondConfig ∧
        (sampleConfirm [.confirm, .recoveryConfirm]).1.netd.Carries Netd.firstConfig) := by
  decide +kernel

end JanusGate.NetworkConfirm
