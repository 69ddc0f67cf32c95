import JanusGate.Common.Blocklist

/-!
# Refreshing a remote blocklist

The schedule of `jg_blocklist_remote_update`: a failed transfer waits for a
capped and jittered power of two, a success for the update interval.  What
the transfer, the verification and the import of the body answer are inputs.
-/

namespace JanusGate.BlocklistRemote

open Blocklist

def etagMax : Nat := 1024
def lastModifiedMax : Nat := 128
def timeMax : UInt64 := 0xffffffffffffffff

structure RemoteConfig where
  url : Bytes
  signatureUrl : Option Bytes
  importLimits : BlocklistLimits
  maxDownloadBytes : Nat
  (connectTimeoutMs transferTimeoutMs redirectLimit : UInt32)
  (updateIntervalSeconds retryBaseSeconds retryMaxSeconds : UInt64)
  hasSignature : Bool

structure RemoteState where
  etag : Bytes := []
  lastModified : Bytes := []
  (lastAttemptAt lastSuccessAt nextAttemptAt : UInt64 := 0)
  consecutiveFailures : UInt32 := 0

def isHttpsUrl (url : Bytes) : Bool :=
  spanEqualsCaseInsensitive (url.take 8) "https://" && decide (url.length > 8)

def httpValidatorValid (maximum : Nat) (value : Bytes) : Bool :=
  value.all (fun byte => decide (0x20 ≤ byte) && decide (byte ≤ 0x7e)) &&
    decide (value.length ≤ maximum)

/-- Formats and modes are always in range. -/
def configValid (config : RemoteConfig) : Bool :=
  isHttpsUrl config.url && config.importLimits.maxFileBytes != 0 &&
    config.importLimits.maxLineBytes != 0 && config.importLimits.maxEntries != 0 &&
    config.maxDownloadBytes != 0 && decide (config.maxDownloadBytes < 2 ^ 63) &&
    config.connectTimeoutMs != 0 && decide (config.connectTimeoutMs ≤ 30000) &&
    config.transferTimeoutMs != 0 && decide (config.transferTimeoutMs ≤ 300000) &&
    decide (config.redirectLimit ≤ 20) && config.updateIntervalSeconds != 0 &&
    config.retryBaseSeconds != 0 && decide (config.retryBaseSeconds ≤ config.retryMaxSeconds) &&
    if config.hasSignature then config.signatureUrl.any isHttpsUrl else config.signatureUrl.isNone

/-- The headers are copied only when they are valid. -/
structure DownloadResponse where
  status : Int
  etag : {value : Bytes // httpValidatorValid etagMax value = true}
  lastModified : {value : Bytes // httpValidatorValid lastModifiedMax value = true}

/-- One call: its time, what the calls it makes answer, and its random number. -/
structure Attempt where
  now : UInt64
  sodiumReady : Bool
  fetched : Int
  response : DownloadResponse
  verified : Int
  imported : Int
  random : UInt32

def scheduleAfter (now delay : UInt64) : UInt64 :=
  if delay > timeMax - now then timeMax else now + delay

/-- The loop of `retry_delay`. -/
def doubled (maximum : UInt64) : Nat → UInt64 → UInt64
  | 0, delay => delay
  | exponent + 1, delay =>
    if delay < maximum then
      doubled maximum exponent (if delay > maximum / 2 then maximum else delay * 2)
    else delay

section Update

variable (config : RemoteConfig)

def retryDelay (failures random : UInt32) : UInt64 :=
  let exponent := failures.toNat - 1
  let delay := doubled config.retryMaxSeconds exponent config.retryBaseSeconds
  let delay := if delay > config.retryMaxSeconds then config.retryMaxSeconds else delay
  let jitterLimit := delay / 4
  let jitter := if jitterLimit ≠ 0 then random.toUInt64 % (jitterLimit + 1) else 0
  if delay > timeMax - jitter then timeMax else delay + jitter

def recordFailure (state : RemoteState) (now : UInt64) (random : UInt32) : RemoteState :=
  let failures := if state.consecutiveFailures < 0xffffffff then state.consecutiveFailures + 1
    else state.consecutiveFailures
  { state with
    consecutiveFailures := failures
    nextAttemptAt := scheduleAfter now (retryDelay config failures random) }

def recordSuccess (state : RemoteState) (response : DownloadResponse) (now : UInt64)
    (replaceValidators : Bool) : RemoteState :=
  { etag := if replaceValidators || response.etag.val ≠ [] then response.etag else state.etag
    lastModified :=
      if replaceValidators || response.lastModified.val ≠ [] then response.lastModified
      else state.lastModified
    lastAttemptAt := state.lastAttemptAt
    lastSuccessAt := now
    nextAttemptAt := scheduleAfter now config.updateIntervalSeconds
    consecutiveFailures := 0 }

def blocklistRemoteUpdate (state : RemoteState) (attempt : Attempt) : Int × RemoteState :=
  if !configValid config || !httpValidatorValid etagMax state.etag ||
      !httpValidatorValid lastModifiedMax state.lastModified then
    (eInval, state)
  else if !attempt.sodiumReady then (eIo, state)
  else
    let state := { state with lastAttemptAt := attempt.now }
    let result :=
      if attempt.fetched ≠ 0 ∨ attempt.response.status = 304 then attempt.fetched
      else if attempt.response.status ≠ 200 then eProto
      else if attempt.verified ≠ 0 then attempt.verified
      else attempt.imported
    if result ≠ 0 then (result, recordFailure config state attempt.now attempt.random)
    else
      (0, recordSuccess config state attempt.response attempt.now (attempt.response.status = 200))

/-- The state after a call, and the failed transfers since the last success. -/
def follow (reached : RemoteState × Nat) (attempt : Attempt) : RemoteState × Nat :=
  let update := blocklistRemoteUpdate config reached.1 attempt
  (update.2, if !attempt.sodiumReady then reached.2 else if update.1 = 0 then 0 else reached.2 + 1)

end Update

/-! ## The closed form -/

theorem scheduleAfter_toNat (now delay : UInt64) :
    (scheduleAfter now delay).toNat = min (now.toNat + delay.toNat) uint64Max := by
  have bound := now.toNat_lt
  have room : (timeMax - now).toNat = uint64Max - now.toNat :=
    UInt64.toNat_sub_of_le _ _ (UInt64.le_iff_toNat_le.mpr (by simp [timeMax]; omega))
  unfold scheduleAfter
  split <;> simp [timeMax, uint64Max, UInt64.lt_iff_toNat_lt] at * <;> omega

/-- Doubling stops at the maximum, before it could wrap. -/
theorem doubled_toNat (exponent : Nat) (below : delay.toNat ≤ maximum.toNat) :
    (doubled maximum exponent delay).toNat = min (delay.toNat * 2 ^ exponent) maximum.toNat := by
  induction exponent generalizing delay with
  | zero => simp [doubled, below]
  | succ exponent ih =>
    have grows : ∀ value : Nat, value ≤ value * 2 ^ exponent := fun value =>
      Nat.le_mul_of_pos_right value (Nat.two_pow_pos exponent)
    have doubling := grows (delay.toNat * 2)
    rw [doubled, Nat.pow_succ', ← Nat.mul_assoc]
    simp only [UInt64.lt_iff_toNat_lt, gt_iff_lt, UInt64.toNat_div]
    split
    · split
      · rw [ih (Nat.le_refl _)]
        have := grows maximum.toNat
        simp at *
        omega
      · have twice : (delay * 2).toNat = delay.toNat * 2 := by
          have := maximum.toNat_lt
          rw [UInt64.toNat_mul]
          exact Nat.mod_eq_of_lt (by simp at *; omega)
        rw [ih (by simp at *; omega), twice]
    · omega

/-- The delay after so many failures, before the jitter. -/
def delayAfter (config : RemoteConfig) (failures : Nat) : Nat :=
  min (config.retryBaseSeconds.toNat * 2 ^ (failures - 1)) config.retryMaxSeconds.toNat

theorem retryDelay_toNat (valid : config.retryBaseSeconds ≤ config.retryMaxSeconds)
    (failures random : UInt32) : ∃ jitter ≤ delayAfter config failures.toNat / 4,
      (retryDelay config failures random).toNat =
        min (delayAfter config failures.toNat + jitter) uint64Max := by
  have delay := doubled_toNat (failures.toNat - 1) (UInt64.le_iff_toNat_le.mp valid)
  change _ = delayAfter config failures.toNat at delay
  have uncapped : ¬ doubled config.retryMaxSeconds (failures.toNat - 1) config.retryBaseSeconds >
      config.retryMaxSeconds := by
    rw [gt_iff_lt, UInt64.lt_iff_toNat_lt, delay]
    unfold delayAfter
    omega
  simp only [retryDelay, if_neg uncapped]
  generalize doubled config.retryMaxSeconds (failures.toNat - 1) config.retryBaseSeconds = reached
    at *
  rw [← delay]
  generalize drawn : (if reached / 4 ≠ 0 then random.toUInt64 % (reached / 4 + 1) else 0) = jitter
  refine ⟨jitter.toNat, ?_, ?_⟩
  · rw [← drawn]
    split
    · have range : (reached / 4 + 1).toNat = reached.toNat / 4 + 1 := by
        have := reached.toNat_lt
        rw [UInt64.toNat_add, UInt64.toNat_div]
        exact Nat.mod_eq_of_lt (by simp; omega)
      rw [UInt64.toNat_mod, range]
      exact Nat.le_of_lt_succ (Nat.mod_lt _ (Nat.succ_pos _))
    · exact Nat.zero_le _
  · rw [UInt64.add_comm, Nat.add_comm]
    exact scheduleAfter_toNat jitter reached

/-- So many failures in a row, the last one now: the retry waits for the delay
and at most a quarter of it, where times saturate. -/
structure Backoff (config : RemoteConfig) (failures : Nat) (now : UInt64) (state : RemoteState) :
    Prop where
  counted : state.consecutiveFailures.toNat = failures
  earliest : min (now.toNat + delayAfter config failures) uint64Max ≤ state.nextAttemptAt.toNat
  latest : state.nextAttemptAt.toNat ≤
    min (now.toNat + delayAfter config failures + delayAfter config failures / 4) uint64Max

theorem recordFailure_backoff (ordered : config.retryBaseSeconds ≤ config.retryMaxSeconds)
    (last : min (state.consecutiveFailures.toNat + 1) uint32Max = failures) (now : UInt64)
    (random : UInt32) : Backoff config failures now (recordFailure config state now random) := by
  have bound := state.consecutiveFailures.toNat_lt
  unfold recordFailure
  generalize count : (if state.consecutiveFailures < 0xffffffff then _ else _ : UInt32) = counted
  obtain rfl : counted.toNat = failures := by
    rw [← last, ← count]
    simp only [uint32Max, UInt32.lt_iff_toNat_lt]
    split <;> simp at * <;> omega
  obtain ⟨jitter, within, waits⟩ := retryDelay_toNat ordered counted random
  have next := scheduleAfter_toNat now (retryDelay config counted random)
  constructor <;> dsimp only <;> omega

/-! ## Runs -/

theorem ordered (valid : configValid config = true) :
    config.retryBaseSeconds ≤ config.retryMaxSeconds := by
  simp only [configValid, Bool.and_eq_true, decide_eq_true_eq] at valid
  exact valid.1.2

/-- The validators may be sent, and the state counts the failures. -/
structure Counts (state : RemoteState) (failures : Nat) : Prop where
  etag : httpValidatorValid etagMax state.etag = true
  lastModified : httpValidatorValid lastModifiedMax state.lastModified = true
  counted : state.consecutiveFailures.toNat = min failures uint32Max

theorem blocklistRemoteUpdate_cases (valid : configValid config = true)
    (counts : Counts state failures) (ready : attempt.sodiumReady = true) :
    let update := blocklistRemoteUpdate config state attempt
    (update.1 ≠ 0 ∧ update.2 = recordFailure config { state with lastAttemptAt := attempt.now }
      attempt.now attempt.random) ∨
    (update.1 = 0 ∧ update.2 = recordSuccess config { state with lastAttemptAt := attempt.now }
      attempt.response attempt.now (attempt.response.status = 200)) := by
  simp only [blocklistRemoteUpdate, valid, counts.etag, counts.lastModified, ready]
  generalize (if attempt.fetched ≠ 0 ∨ attempt.response.status = 304 then _ else _ : Int) = result
  by_cases failed : result = 0 <;> simp [failed]

theorem follow_counts (valid : configValid config = true) (counts : Counts state failures) :
    Counts (follow config (state, failures) attempt).1
      (follow config (state, failures) attempt).2 := by
  cases ready : attempt.sodiumReady with
  | false => simpa [follow, blocklistRemoteUpdate, valid, counts.etag, counts.lastModified, ready]
  | true =>
    rcases blocklistRemoteUpdate_cases valid counts ready with ⟨failed, after⟩ | ⟨done, after⟩
    · simp only [follow, after, failed, ready]
      refine ⟨counts.etag, counts.lastModified, ?_⟩
      have counted := counts.counted
      exact (recordFailure_backoff (ordered valid) (by simp; omega) _ _).counted
    · simp only [follow, after, done, ready]
      refine ⟨?_, ?_, rfl⟩ <;> simp only [recordSuccess] <;> split
      · exact attempt.response.etag.2
      · exact counts.etag
      · exact attempt.response.lastModified.2
      · exact counts.lastModified

theorem foldl_counts (valid : configValid config = true) (history : List Attempt) :
    ∀ {reached : RemoteState × Nat}, Counts reached.1 reached.2 →
      Counts (history.foldl (follow config) reached).1
        (history.foldl (follow config) reached).2 := by
  induction history with
  | nil => exact id
  | cons attempt history ih => exact fun counts => ih (follow_counts valid counts)

/-- After any calls, a failed transfer backs off by the failures since the last
success, and a success waits for the update interval. -/
theorem refresh_schedule (valid : configValid config = true) (history : List Attempt)
    (ready : attempt.sodiumReady = true) :
    let reached := history.foldl (follow config) ({}, 0)
    let update := blocklistRemoteUpdate config reached.1 attempt
    (update.1 ≠ 0 → reached.2 < uint32Max → Backoff config (reached.2 + 1) attempt.now update.2) ∧
    (update.1 = 0 → update.2.consecutiveFailures = 0 ∧ update.2.nextAttemptAt.toNat =
      min (attempt.now.toNat + config.updateIntervalSeconds.toNat) uint64Max) := by
  intro reached update
  have counts : Counts reached.1 reached.2 := foldl_counts valid history ⟨rfl, rfl, rfl⟩
  rcases blocklistRemoteUpdate_cases valid counts ready with ⟨failed, after⟩ | ⟨done, after⟩
  · refine ⟨fun _ room => ?_, fun done => absurd done failed⟩
    have counted := counts.counted
    rw [after]
    exact recordFailure_backoff (ordered valid) (by dsimp only; omega) _ _
  · refine ⟨fun failed => absurd done failed, fun _ => ?_⟩
    rw [after]
    exact ⟨rfl, scheduleAfter_toNat _ _⟩

def hourlyConfig : RemoteConfig where
  url := "https://example".toUTF8.toList
  signatureUrl := none
  importLimits := {}
  maxDownloadBytes := 4096
  connectTimeoutMs := 1000
  transferTimeoutMs := 1000
  redirectLimit := 0
  updateIntervalSeconds := 3600
  retryBaseSeconds := 60
  retryMaxSeconds := 3600
  hasSignature := false

def timedOut (now : UInt64) : Attempt :=
  ⟨now, true, -110, ⟨0, ⟨[], rfl⟩, ⟨[], rfl⟩⟩, 0, 0, 7⟩

def failedTwice : RemoteState × Nat :=
  [timedOut 0, timedOut 100].foldl (follow hourlyConfig) ({}, 0)

theorem refresh_schedule_third : Backoff hourlyConfig 3 1000
    (blocklistRemoteUpdate hourlyConfig failedTwice.1 (timedOut 1000)).2 := by
  have counted : failedTwice.2 = 2 := by decide +kernel
  have third := (@refresh_schedule hourlyConfig (timedOut 1000) (by decide +kernel)
    [timedOut 0, timedOut 100] rfl).1 (by decide +kernel) (by decide +kernel)
  rwa [show List.foldl _ _ _ = failedTwice from rfl, counted] at third

/-! ## Pacing -/

def blocklistRemoteDue (state : RemoteState) (now : UInt64) : Bool := now ≥ state.nextAttemptAt

/-- A pass of `update_due_blocklists_now` over a source, with the transfers so far. Assumes that
`update_source` commits; a refused activation rolls back the new schedule. -/
def updateDue (config : RemoteConfig) (reached : RemoteState × Nat) (attempt : Attempt) :
    RemoteState × Nat :=
  if blocklistRemoteDue reached.1 attempt.now && attempt.sodiumReady then
    ((blocklistRemoteUpdate config reached.1 attempt).2, reached.2 + 1)
  else reached

def shortestWait (config : RemoteConfig) : Nat :=
  min config.retryBaseSeconds.toNat config.updateIntervalSeconds.toNat

/-- The next attempt is a shortest wait behind the first one for every transfer. -/
def Spaced (config : RemoteConfig) (first : Nat) (reached : RemoteState × Nat) : Prop :=
  (∃ failures, Counts reached.1 failures) ∧
    min (first + reached.2 * shortestWait config) uint64Max ≤ reached.1.nextAttemptAt.toNat

theorem updateDue_spaced (valid : configValid config = true)
    (spaced : Spaced config first reached) :
    Spaced config first (updateDue config reached attempt) := by
  unfold updateDue
  split
  case isFalse => exact spaced
  case isTrue called =>
    obtain ⟨⟨failures, counts⟩, waits⟩ := spaced
    simp only [blocklistRemoteDue, Bool.and_eq_true, decide_eq_true_eq, ge_iff_le,
      UInt64.le_iff_toNat_le] at called
    have counted := @follow_counts _ _ _ attempt valid counts
    refine ⟨⟨_, counted⟩, ?_⟩
    rw [Nat.succ_mul, shortestWait] at *
    rcases blocklistRemoteUpdate_cases valid counts called.2 with ⟨_, after⟩ | ⟨_, after⟩
    · obtain ⟨count, retry⟩ : ∃ count, Backoff config count attempt.now
          (blocklistRemoteUpdate config reached.1 attempt).2 :=
        ⟨_, after ▸ recordFailure_backoff (ordered valid) rfl attempt.now attempt.random⟩
      -- no delay is shorter than the one after the first failure
      have grows : config.retryBaseSeconds.toNat ≤ delayAfter config count := Nat.le_min.mpr
        ⟨Nat.le_mul_of_pos_right _ (Nat.two_pow_pos _), UInt64.le_iff_toNat_le.mp (ordered valid)⟩
      have earliest := retry.earliest
      dsimp only
      omega
    · have next := scheduleAfter_toNat attempt.now config.updateIntervalSeconds
      rw [after]
      dsimp only [recordSuccess]
      omega

/-- Transfers keep the shortest wait between them, whatever their results are. -/
theorem transfers_spaced (valid : configValid config = true) (counts : Counts state failures)
    (passes : List.foldl (updateDue config) (state, 0) history = reached)
    (due : blocklistRemoteDue reached.1 now = true) :
    min (state.nextAttemptAt.toNat + reached.2 * shortestWait config) uint64Max ≤ now.toNat := by
  have spaced : Spaced config state.nextAttemptAt.toNat reached := by
    rw [← passes]
    exact List.foldlRecOn history _ ⟨⟨failures, counts⟩, by simp⟩ fun _ spaced _ _ =>
      updateDue_spaced valid spaced
  refine Nat.le_trans spaced.2 ?_
  simpa [blocklistRemoteDue, UInt64.le_iff_toNat_le] using due

theorem transfers_spaced_hourly :
    let reached := [timedOut 100, timedOut 120].foldl (updateDue hourlyConfig) ({}, 0)
    reached.2 = 1 ∧ min (0 + reached.2 * shortestWait hourlyConfig) uint64Max ≤ 200 :=
  ⟨by decide +kernel, @transfers_spaced hourlyConfig {} 0 _ _ 200 (by decide +kernel)
    ⟨rfl, rfl, rfl⟩ rfl (by decide +kernel)⟩

end JanusGate.BlocklistRemote
