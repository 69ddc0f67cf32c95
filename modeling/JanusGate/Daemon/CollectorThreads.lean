import JanusGate.Daemon.StatsBatches
import Mathlib.Logic.Function.Basic

/-!
# The threads of the statistics collector

`policy_stats_collector.c` at the granularity of its critical sections.  The
writer works on its private batch outside the lock, so the beginning and the
end of a batch write are moves of their own, and a pause that finds the writer
active waits on the condition until a later move lets it return.  A list of
moves is one interleaving.  Locks and waits on the condition succeed.
-/

namespace JanusGate.CollectorThreads

open Runs PolicyStats

def cleanupContinueSeconds : Nat := 1
def cleanupRetrySeconds : Nat := 60
def cleanupIntervalSeconds : Nat := 86400

/-- One round of `collector_main`: the private batch and what the round has
read under the lock. -/
structure Round where
  batch : List PolicyStatsEvent
  stopping : Bool
  cleanupDue : Bool

/-- `ready` is in front of the lock or in `wait_for_work`, `taken` has released the lock with its
batch, `finishing` is in front of the second lock. -/
inductive Writer where
  | ready
  | taken (round : Round)
  | writing (round : Round)
  | written (round : Round)
  | cleaning (round : Round) (now : Nat)
  | finishing (round : Round)
  | exited

/-- The collector with its writer and the threads inside
`jg_policy_stats_collector_pause`. -/
structure Threads (Thread : Type) where
  collector : PolicyStatsCollector
  nextCleanupAt : Nat
  writerActive : Bool
  writer : Writer
  waiting : Thread → Bool

structure CleanupResult where
  loaded : Int := 0
  retentionEnabled : Bool := false
  cleaned : Int := 0
  complete : Bool := true

/-- What a turn of the writer finds outside the collector. -/
structure Surroundings where
  waitClock : Int := 0
  clock : Int := 0
  write : List PolicyTrafficSample → List PolicyRuleSample → Int := fun _ _ => 0
  storage : Int := 0
  cleanup : CleanupResult := {}

inductive Move (Thread : Type) where
  | submit (event : PolicyStatsEvent) (trylock : Int)
  | pause (thread : Thread) (restore : Bool)
  | wake (thread : Thread)
  | resume (generation : Nat) (storage : Int)
  | requestStop
  | join
  | writer (around : Surroundings)

/-- What a move makes visible.  A pause that `waits` has not returned yet. -/
inductive Answer where
  | silent
  | refused (result : Int)
  | accepted (event : PolicyStatsEvent)
  | paused (discarded : List PolicyStatsEvent) (waits : Bool)
  | pauseReturned
  | resumed (generation : Nat)
  | stopped
  | joined
  | took (batch : List PolicyStatsEvent)
  | writeBegan (batch : List PolicyStatsEvent)
  | writeEnded (batch : List PolicyStatsEvent)
  | exited
  deriving DecidableEq

/-! ## The writer -/

def cleanupDue (nextCleanupAt : Nat) (clock : Int) : Bool :=
  decide (clock < 0 ∨ (nextCleanupAt : Int) ≤ clock)

/-- Add bounded seconds to a wall-clock time. -/
def futureTime (now delay : Nat) : Nat := if delay > uint64Max - now then uint64Max else now + delay

/-- The next retention deadline after one run of `run_cleanup`. -/
def runCleanup (now : Nat) (outcome : CleanupResult) : Nat :=
  let result :=
    if outcome.loaded = 0 ∧ outcome.retentionEnabled then outcome.cleaned
    else outcome.loaded
  if result ≠ 0 then futureTime now cleanupRetrySeconds
  else if !outcome.retentionEnabled || outcome.complete then futureTime now cleanupIntervalSeconds
  else futureTime now cleanupContinueSeconds

section Steps

variable {Thread : Type}

section

variable (threads : Threads Thread)

/-- `wait_for_work` returns instead of waiting on the condition. -/
def waitForWork (clock : Int) : Bool :=
  let collector := threads.collector
  !((decide (collector.queue.count = 0) || collector.paused) && !collector.stopping) ||
    (!collector.paused && cleanupDue threads.nextCleanupAt clock)

def takeBatch (clock : Int) : Threads Thread × Answer :=
  let stopping := threads.collector.stopping
  if threads.collector.paused then
    ({ threads with
        writerActive := false
        writer := .taken ⟨[], stopping, false⟩ }, .took [])
  else
    let (batch, collector) := drainBatch threads.collector
    let due := cleanupDue threads.nextCleanupAt clock
    ({ threads with
        collector := collector
        writerActive := !batch.isEmpty || due
        writer := .taken ⟨batch, stopping, due⟩ }, .took batch)

/-- The next part of `collector_main`. -/
def collectorMain (around : Surroundings) : Threads Thread × Answer :=
  match threads.writer with
  | .ready =>
    if waitForWork threads around.waitClock then takeBatch threads around.clock
    else (threads, .silent)
  | .taken round =>
    if round.batch.isEmpty then ({ threads with writer := .written round }, .silent)
    else ({ threads with writer := .writing round }, .writeBegan round.batch)
  | .writing round =>
    ({ threads with
        collector := writeBatch threads.collector around.write around.storage round.batch
        writer := .written round }, .writeEnded round.batch)
  | .written round =>
    if !round.stopping && round.cleanupDue && decide (0 ≤ around.clock) then
      ({ threads with writer := .cleaning round around.clock.toNat }, .silent)
    else ({ threads with writer := .finishing round }, .silent)
  | .cleaning round now =>
    ({ threads with
        nextCleanupAt := runCleanup now around.cleanup
        writer := .finishing round }, .silent)
  | .finishing round =>
    if round.stopping && round.batch.isEmpty then
      ({ threads with writerActive := false, writer := .exited }, .exited)
    else ({ threads with writerActive := false, writer := .ready }, .silent)
  | .exited => (threads, .silent)

/-! ## The callers -/

/-- `jg_policy_stats_collector_submit`. -/
def submit (event : PolicyStatsEvent) (trylock : Int) : Threads Thread × Answer :=
  let (collector, result) := policyStatsCollectorSubmit threads.collector event trylock
  ({ threads with collector := collector }, if result = 0 then .accepted event else .refused result)

/-- `jg_policy_stats_collector_resume`. -/
def resume (generation : Nat) (storage : Int) : Threads Thread × Answer :=
  let (collector, result) := policyStatsCollectorResume threads.collector generation storage
  ({ threads with collector := collector },
    if result = 0 then .resumed generation else .refused result)

/-- `jg_policy_stats_collector_request_stop`. -/
def requestStop : Threads Thread × Answer :=
  let (collector, result) := policyStatsCollectorRequestStop threads.collector
  ({ threads with collector := collector }, if result = 0 then .stopped else .refused result)

/-- `jg_policy_stats_collector_join`, which waits for the writer's exit. -/
def join : Threads Thread × Answer :=
  let (collector, result) := policyStatsCollectorJoin threads.collector
  if result ≠ 0 then (threads, .refused result)
  else
    match threads.writer with
    | .exited => ({ threads with collector := collector }, .joined)
    | _ => (threads, .silent)

end

variable [DecidableEq Thread]

/-- `jg_policy_stats_collector_pause` up to its return or its wait. -/
def pause (threads : Threads Thread) (thread : Thread) (restore : Bool) : Threads Thread × Answer :=
  if threads.waiting thread then (threads, .silent)
  else
    let discarded := threads.collector.queue.contents
    let (collector, result) := policyStatsCollectorPause threads.collector restore
    if result ≠ 0 then (threads, .refused result)
    else
      ({ threads with
          collector := collector
          waiting := Function.update threads.waiting thread
            threads.writerActive }, .paused discarded threads.writerActive)

/-- The wait of a pause ends once the writer is not active. -/
def wake (threads : Threads Thread) (thread : Thread) : Threads Thread × Answer :=
  if threads.waiting thread && !threads.writerActive then
    ({ threads with waiting := Function.update threads.waiting thread false }, .pauseReturned)
  else (threads, .silent)

def step (threads : Threads Thread) : Move Thread → Threads Thread × Answer
  | .submit event trylock => submit threads event trylock
  | .pause thread restore => pause threads thread restore
  | .wake thread => wake threads thread
  | .resume generation storage => resume threads generation storage
  | .requestStop => requestStop threads
  | .join => join threads
  | .writer around => collectorMain threads around

/-- A collector whose writer thread has just been started. -/
def start (collector : PolicyStatsCollector) (clock : Int) : Threads Thread where
  collector := (policyStatsCollectorStart collector).1
  nextCleanupAt := if clock < 0 then 0 else clock.toNat
  writerActive := false
  writer := .ready
  waiting := fun _ => false

end Steps

/-- A writer that nobody interrupts does in three turns what `writerRound` does at once. -/
theorem collectorMain_writerRound {Thread : Type} {threads : Threads Thread}
    (ready : threads.writer = .ready) (woken : waitForWork threads around.waitClock = true) :
    let turn := fun threads : Threads Thread => (collectorMain threads around).1
    (turn (turn (turn threads))).collector =
      writerRound threads.collector around.write around.storage := by
  have taken : collectorMain threads around = takeBatch threads around.clock := by
    rw [collectorMain, ready]
    exact if_pos woken
  intro turn
  simp only [turn, taken, takeBatch, writerRound]
  cases threads.collector.paused with
  | true =>
    simp only [collectorMain, List.isEmpty_nil, if_true]
    split <;> rfl
  | false =>
    cases empty : (drainBatch threads.collector).1.isEmpty with
    | true =>
      -- without a batch the third turn is already in front of the cleanup
      simp only [collectorMain, empty, Bool.false_eq_true, if_true, if_false]
      split <;> rfl
    | false => simp [collectorMain, empty]

/-! ## What one move does -/

/-- Counters apart, the collector is the same. -/
structure Keeps (collector later : PolicyStatsCollector) : Prop where
  queue : later.queue = collector.queue
  started : later.started = collector.started
  batchCapacity : later.batchCapacity = collector.batchCapacity
  generation : later.generation = collector.generation
  stopping : later.stopping = collector.stopping
  paused : later.paused = collector.paused

/-- A pause has emptied the queue into the counters. -/
structure Discards (collector later : PolicyStatsCollector) (restore : Bool) : Prop where
  queue : later.queue = collector.queue.clear
  started : later.started = collector.started
  batchCapacity : later.batchCapacity = collector.batchCapacity
  generation : later.generation = collector.generation
  stopping : later.stopping = collector.stopping
  paused : later.paused = true
  dropped : later.dropped = saturatingAdd collector.dropped collector.queue.contents.length
  restoreDropped : later.restoreDropped = if restore then
      saturatingAdd collector.restoreDropped collector.queue.contents.length
    else collector.restoreDropped
  staleGenerationDropped : later.staleGenerationDropped =
    if restore then collector.staleGenerationDropped
    else saturatingAdd collector.staleGenerationDropped collector.queue.contents.length

def Writer.round? : Writer → Option Round
  | .ready | .exited => none
  | .taken round | .writing round | .written round | .cleaning round _
  | .finishing round => some round

def Writer.active (writer : Writer) : Bool :=
  match writer.round? with
  | none => false
  | some round => !round.batch.isEmpty || round.cleanupDue

def Writer.working : Writer → Bool
  | .writing _ | .cleaning _ _ => true
  | _ => false

/-- The events of a batch that the database does not have yet. -/
def Writer.inHand : Writer → List PolicyStatsEvent
  | .taken round | .writing round => round.batch
  | .ready | .written _ | .cleaning _ _ | .finishing _ | .exited => []

/-- What one move does: nothing, one critical section of a caller, or one
part of the writer's round. -/
inductive Effect {Thread : Type} [DecidableEq Thread] (threads : Threads Thread) :
    Move Thread → Threads Thread → Answer → Prop
  | skipped {move} : Effect threads move threads .silent
  | refused {move} (kept : Keeps threads.collector collector) :
      Effect threads move { threads with collector := collector } (.refused result)
  | accepted (running : threads.collector.stopping = false)
      (unpaused : threads.collector.paused = false)
      (current : event.policyGeneration = threads.collector.generation)
      (room : threads.collector.queue.count < threads.collector.queue.capacity)
      (queue : collector.queue = threads.collector.queue.push event room)
      (kept : Keeps { threads.collector with queue := collector.queue } collector) :
      Effect threads (.submit event trylock)
        { threads with collector := collector } (.accepted event)
  | paused (unpaused : threads.collector.paused = false)
      (discards : Discards threads.collector collector restore) :
      Effect threads (.pause thread restore)
        { threads with
          collector := collector
          waiting := Function.update threads.waiting thread threads.writerActive }
        (.paused threads.collector.queue.contents threads.writerActive)
  | returned (waited : threads.waiting thread = true) (idle : threads.writerActive = false) :
      Effect threads (.wake thread)
        { threads with waiting := Function.update threads.waiting thread false }
        .pauseReturned
  | resumed (paused : threads.collector.paused = true) :
      Effect threads (.resume generation storage)
        { threads with
          collector := { threads.collector with
            generation := generation
            paused := false
            restorePause := false } }
        (.resumed generation)
  | stopped : Effect threads .requestStop
        { threads with collector := { threads.collector with stopping := true } } .stopped
  | joined : Effect threads .join
        { threads with collector := { threads.collector with started := false } } .joined
  | tookPaused {around} (paused : threads.collector.paused = true)
      (phase : threads.writer = .ready) :
      Effect threads (.writer around)
        { threads with
          writerActive := false
          writer := .taken ⟨[], threads.collector.stopping, false⟩ }
        (.took [])
  | took {around} (unpaused : threads.collector.paused = false)
      (phase : threads.writer = .ready) (due : Bool) :
      Effect threads (.writer around)
        { threads with
          collector := (drainBatch threads.collector).2
          writerActive := !(drainBatch threads.collector).1.isEmpty || due
          writer := .taken ⟨(drainBatch threads.collector).1, threads.collector.stopping, due⟩ }
        (.took (drainBatch threads.collector).1)
  | began {around round} (phase : threads.writer = .taken round) (stored : round.batch ≠ []) :
      Effect threads (.writer around) { threads with writer := .writing round }
        (.writeBegan round.batch)
  | ended {around round} (phase : threads.writer = .writing round)
      (kept : Keeps threads.collector collector) :
      Effect threads (.writer around)
        { threads with collector := collector, writer := .written round }
        (.writeEnded round.batch)
  | advanced {around round} (phase : threads.writer.round? = some round)
      (handled : threads.writer.inHand = []) (later : writer.round? = some round)
      (nothing : writer.inHand = []) (works : writer.working = true → writer.active = true) :
      Effect threads (.writer around)
        { threads with nextCleanupAt := nextCleanupAt, writer := writer }
        .silent
  | finished {around round} (phase : threads.writer = .finishing round) :
      Effect threads (.writer around)
        { threads with writerActive := false, writer := .ready } .silent
  | exited {around round} (phase : threads.writer = .finishing round)
      (stopping : round.stopping = true) (empty : round.batch = []) :
      Effect threads (.writer around)
        { threads with writerActive := false, writer := .exited } .exited

section Effects

variable {Thread : Type} [DecidableEq Thread] (threads : Threads Thread)
  (collector : PolicyStatsCollector)

theorem Keeps.refl : Keeps collector collector := ⟨rfl, rfl, rfl, rfl, rfl, rfl⟩

theorem writeBatch_keeps (write : List PolicyTrafficSample → List PolicyRuleSample → Int)
    (storage : Int) (events : List PolicyStatsEvent) :
    Keeps collector (writeBatch collector write storage events) := by
  obtain ⟨requests, rules, failures, written⟩ := writeBatch_frame collector write storage events
  rw [written]
  exact ⟨rfl, rfl, rfl, rfl, rfl, rfl⟩

theorem submit_effect (event : PolicyStatsEvent) (trylock : Int) :
    Effect threads (.submit event trylock) (submit threads event trylock).1
      (submit threads event trylock).2 := by
  have counted : ∀ {later : PolicyStatsCollector} {result : Int},
      policyStatsCollectorSubmit threads.collector event trylock = (later, result) →
        result ≠ 0 → Keeps threads.collector later → Effect threads (.submit event trylock)
            (submit threads event trylock).1
            (submit threads event trylock).2 := by
    intro later result submitted failed kept
    simp only [submit, submitted, if_neg failed]
    exact .refused kept
  generalize submitted : policyStatsCollectorSubmit threads.collector event trylock = outcome
  have unfolded := submitted
  unfold policyStatsCollectorSubmit at unfolded
  split at unfolded
  · subst unfolded
    exact counted submitted (by decide) (.refl _)
  split at unfolded
  · subst unfolded
    exact counted submitted (by decide) ⟨rfl, rfl, rfl, rfl, rfl, rfl⟩
  split at unfolded
  · next failed =>
    subst unfolded
    exact counted submitted (Int.neg_ne_zero.mpr failed) ⟨rfl, rfl, rfl, rfl, rfl, rfl⟩
  split at unfolded
  · subst unfolded
    exact counted submitted (by decide) ⟨rfl, rfl, rfl, rfl, rfl, rfl⟩
  next running =>
  split at unfolded
  · split at unfolded <;> subst unfolded <;>
      exact counted submitted (by decide) ⟨rfl, rfl, rfl, rfl, rfl, rfl⟩
  next unpaused =>
  split at unfolded
  · subst unfolded
    exact counted submitted (by decide) ⟨rfl, rfl, rfl, rfl, rfl, rfl⟩
  next current =>
  split at unfolded
  · next room =>
    subst unfolded
    simp only [submit, submitted, if_true]
    refine .accepted ?_ (by simpa using unpaused) (not_not.mp current) room
      rfl ⟨rfl, rfl, rfl, rfl, rfl, rfl⟩
    simp only [Bool.or_eq_true, Bool.not_eq_true', not_or, Bool.not_eq_true] at running
    exact running.2
  · subst unfolded
    exact counted submitted (by decide) ⟨rfl, rfl, rfl, rfl, rfl, rfl⟩

theorem policyStatsCollectorPause_cases (restore : Bool) :
    (∃ result, result ≠ 0 ∧ policyStatsCollectorPause collector restore = (collector, result) ∧
      (collector.started = true → collector.stopping = false → result = eAlready)) ∨
    (collector.paused = false ∧ ∃ later, policyStatsCollectorPause collector restore = (later, 0) ∧
        Discards collector later restore) := by
  unfold policyStatsCollectorPause
  split
  · next refused =>
    exact .inl ⟨_, by decide, rfl, fun started running => by simp [started, running] at refused⟩
  split
  · exact .inl ⟨_, by decide, rfl, fun _ _ => rfl⟩
  next unpaused =>
  refine .inr ⟨by simpa using unpaused, ?_⟩
  cases restore <;>
    exact ⟨_, rfl, ⟨rfl, rfl, rfl, rfl, rfl, rfl, by rw [RingBuffer.contents_length],
      by rw [RingBuffer.contents_length]; rfl, by rw [RingBuffer.contents_length]; rfl⟩⟩

theorem pause_effect (thread : Thread) (restore : Bool) :
    Effect threads (.pause thread restore) (pause threads thread restore).1
      (pause threads thread restore).2 := by
  unfold pause
  split
  · exact .skipped
  rcases policyStatsCollectorPause_cases threads.collector restore with
    ⟨result, failed, refused, _⟩ | ⟨unpaused, later, done, discards⟩
  · simp only [refused, if_pos failed]
    exact .refused (.refl _)
  · simp only [done, ne_eq, not_true_eq_false, if_false]
    exact .paused unpaused discards

theorem wake_effect (thread : Thread) :
    Effect threads (.wake thread) (wake threads thread).1 (wake threads thread).2 := by
  unfold wake
  split
  · next ends =>
    rw [Bool.and_eq_true, Bool.not_eq_true'] at ends
    exact .returned ends.1 ends.2
  · exact .skipped

theorem policyStatsCollectorResume_cases (generation : Nat) (storage : Int) :
    (∃ result, result ≠ 0 ∧ policyStatsCollectorResume collector generation storage =
        (collector, result)) ∨
    (collector.paused = true ∧ policyStatsCollectorResume collector generation storage =
        ({ collector with
            generation := generation
            paused := false
            restorePause := false }, 0)) := by
  unfold policyStatsCollectorResume
  split
  · exact .inl ⟨_, by decide, rfl⟩
  split
  · exact .inl ⟨_, by decide, rfl⟩
  split
  · exact .inl ⟨_, by decide, rfl⟩
  next paused =>
  split
  · next failed => exact .inl ⟨_, failed, rfl⟩
  · exact .inr ⟨by simpa using paused, rfl⟩

theorem resume_effect (generation : Nat) (storage : Int) :
    Effect threads (.resume generation storage) (resume threads generation storage).1
      (resume threads generation storage).2 := by
  unfold resume
  rcases policyStatsCollectorResume_cases threads.collector generation
      storage with ⟨result, failed, refused⟩ | ⟨paused, done⟩
  · simp only [refused, if_neg failed]
    exact .refused (.refl _)
  · simp only [done, if_true]
    exact .resumed paused

theorem requestStop_effect :
    Effect threads .requestStop (requestStop threads).1 (requestStop threads).2 := by
  unfold requestStop
  by_cases started : threads.collector.started = true
  · have done : policyStatsCollectorRequestStop threads.collector =
        ({ threads.collector with stopping := true }, 0) := by
      simp [policyStatsCollectorRequestStop, started]
    simp only [done, if_true]
    exact .stopped
  · have refused : policyStatsCollectorRequestStop threads.collector =
        (threads.collector, eCanceled) := by
      simp [policyStatsCollectorRequestStop, started]
    simp only [refused]
    exact .refused (.refl _)

theorem join_effect : Effect threads .join (join threads).1 (join threads).2 := by
  unfold join
  by_cases refused : (!threads.collector.started || !threads.collector.stopping) = true
  · have failed : policyStatsCollectorJoin threads.collector = (threads.collector, eInval) := by
      rw [policyStatsCollectorJoin, if_pos refused]
    simp only [failed]
    exact .refused (.refl _)
  · have done : policyStatsCollectorJoin threads.collector =
        ({ threads.collector with started := false }, 0) := by
      rw [policyStatsCollectorJoin, if_neg refused]
    simp only [done, ne_eq, not_true_eq_false, if_false]
    split
    · exact .joined
    · exact .skipped

theorem takeBatch_effect (around : Surroundings) (phase : threads.writer = .ready) :
    Effect threads (.writer around) (takeBatch threads around.clock).1
      (takeBatch threads around.clock).2 := by
  unfold takeBatch
  split
  · next paused => exact .tookPaused paused phase
  · next unpaused => exact .took (by simpa using unpaused) phase _

theorem collectorMain_effect (around : Surroundings) :
    Effect threads (.writer around) (collectorMain threads around).1
      (collectorMain threads around).2 := by
  unfold collectorMain
  cases phase : threads.writer with
  | ready =>
    dsimp only
    split
    · exact takeBatch_effect threads around phase
    · exact .skipped
  | taken round =>
    dsimp only
    split
    · next empty =>
      have nothing : round.batch = [] := List.isEmpty_iff.mp empty
      refine .advanced (by rw [phase]; rfl) ?_ rfl rfl nofun
      rw [phase]
      exact nothing
    · next stored => exact .began phase (fun empty => stored (List.isEmpty_iff.mpr empty))
  | writing round => exact .ended phase (writeBatch_keeps _ _ _ _)
  | written round =>
    dsimp only
    split
    · next due =>
      refine .advanced (by rw [phase]; rfl) (by rw [phase]; rfl) rfl rfl ?_
      simp only [Bool.and_eq_true] at due
      simp [Writer.active, Writer.round?, due.1.2]
    · exact .advanced (by rw [phase]; rfl) (by rw [phase]; rfl) rfl rfl nofun
  | cleaning round now => exact .advanced (by rw [phase]; rfl) (by rw [phase]; rfl) rfl rfl nofun
  | finishing round =>
    dsimp only
    split
    · next ends =>
      rw [Bool.and_eq_true, List.isEmpty_iff] at ends
      exact .exited phase ends.1 ends.2
    · exact .finished phase
  | exited => exact .skipped

theorem step_effect (move : Move Thread) :
    Effect threads move (step threads move).1 (step threads move).2 := by
  cases move with
  | submit event trylock => exact submit_effect threads event trylock
  | pause thread restore => exact pause_effect threads thread restore
  | wake thread => exact wake_effect threads thread
  | resume generation storage => exact resume_effect threads generation storage
  | requestStop => exact requestStop_effect threads
  | join => exact join_effect threads
  | writer around => exact collectorMain_effect threads around

end Effects

/-! ## What holds in every interleaving -/

def Writer.pending : Writer → List (List PolicyStatsEvent)
  | .taken round => if round.batch.isEmpty then [] else [round.batch]
  | _ => []

def Answer.entered : Answer → List PolicyStatsEvent
  | .accepted event => [event]
  | _ => []

/-- The events that leave the queue, with a batch or with a pause. -/
def Answer.left : Answer → List PolicyStatsEvent
  | .took batch => batch
  | .paused discarded _ => discarded
  | _ => []

def Answer.taken : Answer → List (List PolicyStatsEvent)
  | .took batch => if batch.isEmpty then [] else [batch]
  | _ => []

def Answer.begun : Answer → List (List PolicyStatsEvent)
  | .writeBegan batch => [batch]
  | _ => []

variable {writer : Writer}

theorem Writer.inHand_of_round {round} (inRound : writer.round? = some round) :
    writer.inHand = [] ∨ writer.inHand = round.batch := by
  cases writer <;> simp_all [Writer.round?, Writer.inHand]

theorem Writer.inHand_of_idle (idle : writer.active = false) : writer.inHand = [] := by
  unfold Writer.active at idle
  split at idle
  · next outside => cases writer <;> first | rfl | cases outside
  next round inside =>
  rw [Bool.or_eq_false_iff, Bool.not_eq_false', List.isEmpty_iff] at idle
  rcases Writer.inHand_of_round inside with nothing | all
  · exact nothing
  · rw [all, idle.1]

theorem Writer.pending_of_inHand (nothing : writer.inHand = []) : writer.pending = [] := by
  cases writer <;> simp_all [Writer.pending, Writer.inHand]

section Guard

variable {Thread : Type}

/-- What ties the queue, the flags and the writer together. -/
structure Guarded (capacity : Nat) (threads : Threads Thread) : Prop where
  capacity : threads.collector.queue.capacity = capacity
  batchCapacity : 0 < threads.collector.batchCapacity
  active : threads.writerActive = threads.writer.active
  quiet : threads.collector.paused = true → threads.collector.queue.contents = []
  current : ∀ event ∈ threads.collector.queue.contents,
    event.policyGeneration = threads.collector.generation
  barrier : threads.collector.paused = true → threads.writerActive = true →
    ∃ thread, threads.waiting thread = true
  stopped : ∀ round, threads.writer.round? = some round →
    round.stopping = true → threads.collector.stopping = true
  drained : ∀ round, threads.writer.round? = some round → round.stopping = true → round.batch = [] →
      threads.collector.queue.contents = []
  works : threads.writer.working = true → threads.writer.active = true

variable {collector : PolicyStatsCollector}

section

variable {capacity : Nat} {generation : Nat}
  (created : policyStatsCollectorCreate capacity generation = .ok collector) (clock : Int)

include created

theorem start_guarded : Guarded capacity (start collector clock : Threads Thread) := by
  unfold policyStatsCollectorCreate at created
  split at created
  · cases created
  next bounds =>
  obtain rfl := Except.ok.inj created
  simp only [queueMin] at bounds
  refine ⟨?_, ?_, rfl, fun _ => rfl, by simp [start, policyStatsCollectorStart], by simp [start],
    by simp [start, Writer.round?], by simp [start, Writer.round?], by simp [start, Writer.working]⟩
  · simp [start, policyStatsCollectorStart, RingBuffer.capacity, RingBuffer.empty]
  · change 0 < min capacity 128
    omega

theorem start_contents :
    (start collector clock : Threads Thread).collector.queue.contents = [] := by
  unfold policyStatsCollectorCreate at created
  split at created
  · cases created
  · obtain rfl := Except.ok.inj created
    rfl

end

variable {capacity : Nat} {threads next : Threads Thread}

section

variable (guarded : Guarded capacity threads)

include guarded

theorem Guarded.of_keeps (kept : Keeps threads.collector collector) :
    Guarded capacity { threads with collector := collector } := by
  obtain ⟨queue, _, batchCapacity, generation, stopping, paused⟩ := kept
  constructor <;> dsimp only
  · rw [queue]
    exact guarded.capacity
  · rw [batchCapacity]
    exact guarded.batchCapacity
  · exact guarded.active
  · rw [queue, paused]
    exact guarded.quiet
  · rw [queue, generation]
    exact guarded.current
  · rw [paused]
    exact guarded.barrier
  · rw [stopping]
    exact guarded.stopped
  · rw [queue]
    exact guarded.drained
  · exact guarded.works

theorem Guarded.of_round {round} (phase : threads.writer.round? = some round)
    (later : writer.round? = some round) (works : writer.working = true → writer.active = true) :
    Guarded capacity { threads with nextCleanupAt := nextCleanupAt, writer := writer } :=
  { guarded with
    active := by
      have active := guarded.active
      rw [Writer.active, phase] at active
      rw [Writer.active, later]
      exact active
    stopped := by
      rw [later, ← phase]
      exact guarded.stopped
    drained := by
      rw [later, ← phase]
      exact guarded.drained
    works }

theorem Guarded.of_idle (outside : writer.round? = none) :
    Guarded capacity { threads with writerActive := false, writer := writer } :=
  { guarded with
    active := by rw [Writer.active, outside]
    barrier := by simp
    stopped := by simp [outside]
    drained := by simp [outside]
    works := by cases writer <;> simp_all [Writer.working, Writer.round?] }

theorem Guarded.accept (running : threads.collector.stopping = false)
    (unpaused : threads.collector.paused = false)
    (current : event.policyGeneration = threads.collector.generation)
    (room : threads.collector.queue.count < threads.collector.queue.capacity)
    (queue : collector.queue = threads.collector.queue.push event room)
    (kept : Keeps { threads.collector with queue := collector.queue } collector) :
    Guarded capacity { threads with collector := collector } := by
  have pushed : Guarded capacity { threads with
      collector := { threads.collector with queue := collector.queue } } := by
    rw [queue]
    refine ⟨?_, guarded.batchCapacity, guarded.active, ?_, ?_,
      guarded.barrier, guarded.stopped, ?_, guarded.works⟩
    · exact (RingBuffer.capacity_push _ _ room).trans guarded.capacity
    · intro paused
      cases unpaused.symm.trans paused
    · intro queued member
      rw [RingBuffer.contents_push, List.mem_append, List.mem_singleton] at member
      rcases member with older | rfl
      · exact guarded.current queued older
      · exact current
    · intro round inside stopping
      cases running.symm.trans (guarded.stopped round inside stopping)
  exact pushed.of_keeps kept

theorem Guarded.discard {restore : Bool} {waiting : Thread → Bool} {thread : Thread}
    (discards : Discards threads.collector collector restore)
    (waits : waiting thread = threads.writerActive) :
    Guarded capacity { threads with collector := collector, waiting := waiting } := by
  have empty : collector.queue.contents = [] := by
    rw [discards.queue]
    rfl
  refine ⟨?_, ?_, guarded.active, fun _ => empty, ?_, ?_, ?_, fun _ _ _ _ => empty, guarded.works⟩
  · rw [discards.queue]
    exact guarded.capacity
  · rw [discards.batchCapacity]
    exact guarded.batchCapacity
  · intro event member
    rw [empty] at member
    cases member
  · intro _ active
    exact ⟨thread, waits.trans active⟩
  · intro round inside stopping
    rw [discards.stopping]
    exact guarded.stopped round inside stopping

theorem Guarded.take (unpaused : threads.collector.paused = false) (due : Bool) : Guarded capacity
      { threads with
        collector := (drainBatch threads.collector).2
        writerActive := !(drainBatch threads.collector).1.isEmpty || due
        writer := .taken ⟨(drainBatch threads.collector).1, threads.collector.stopping, due⟩ } := by
  have kept := (RingBuffer.contents_drain threads.collector.batchCapacity threads.collector.queue).2
  have taken := (RingBuffer.contents_drain threads.collector.batchCapacity
    threads.collector.queue).1
  refine ⟨?_, guarded.batchCapacity, rfl, ?_, ?_, ?_, ?_, ?_, nofun⟩
  · exact (RingBuffer.capacity_drain _ _).trans guarded.capacity
  · intro paused
    cases unpaused.symm.trans paused
  · intro event member
    change event ∈ (RingBuffer.drain _ _).2.contents at member
    rw [kept] at member
    exact guarded.current event (List.mem_of_mem_drop member)
  · intro paused
    cases unpaused.symm.trans paused
  · rintro round inside stopping
    cases inside
    exact stopping
  · rintro round inside stopping empty
    cases inside
    change (RingBuffer.drain _ _).1 = [] at empty
    change (RingBuffer.drain _ _).2.contents = []
    rw [taken, List.take_eq_nil_iff] at empty
    rw [kept]
    rcases empty with zero | nothing
    · exact absurd zero (Nat.ne_of_gt guarded.batchCapacity)
    · rw [nothing, List.drop_nil]

theorem Guarded.count_le : threads.collector.queue.count ≤ capacity :=
  threads.collector.queue.countBound.trans (Nat.le_of_eq guarded.capacity)

end

variable [DecidableEq Thread] {move : Move Thread} {answer : Answer}

section

variable (effect : Effect threads move next answer)

include effect

theorem Effect.guarded (guarded : Guarded capacity threads) : Guarded capacity next := by
  cases effect with
  | skipped => exact guarded
  | refused kept => exact guarded.of_keeps kept
  | accepted running unpaused current room queue kept =>
    exact guarded.accept running unpaused current room queue kept
  | paused unpaused discards => exact guarded.discard discards (Function.update_self ..)
  | returned waited idle =>
    refine { guarded with barrier := ?_ }
    intro _ active
    cases idle.symm.trans active
  | resumed paused =>
    have empty := guarded.quiet paused
    refine { guarded with quiet := by simp, current := ?_, barrier := by simp }
    intro event member
    rw [show _ = [] from empty] at member
    cases member
  | stopped => exact { guarded with stopped := fun _ _ _ => rfl }
  | joined => exact { guarded with }
  | tookPaused paused phase =>
    refine { guarded with
      active := rfl, barrier := by simp, stopped := ?_, drained := ?_, works := nofun }
    · rintro round inside stopping
      cases inside
      exact stopping
    · rintro round inside stopping empty
      exact guarded.quiet paused
  | took unpaused phase due => exact guarded.take unpaused due
  | began phase stored =>
    refine guarded.of_round (by rw [phase]; rfl) rfl ?_
    simp [Writer.active, Writer.round?, stored]
  | ended phase kept => exact (guarded.of_keeps kept).of_round (by rw [phase]; rfl) rfl nofun
  | advanced phase handled later nothing works => exact guarded.of_round phase later works
  | finished phase | exited phase stopping empty => exact guarded.of_idle rfl

/-- Events enter the queue behind the others and leave it from the front. -/
theorem Effect.queued :
    threads.collector.queue.contents ++ answer.entered =
      answer.left ++ next.collector.queue.contents := by
  cases effect with
  | accepted running unpaused current room queue kept =>
    simp [Answer.entered, Answer.left, queue, RingBuffer.contents_push]
  | paused unpaused discards => simp [Answer.entered, Answer.left, discards.queue]
  | took unpaused phase due =>
    obtain ⟨taken, kept⟩ := RingBuffer.contents_drain
      threads.collector.batchCapacity threads.collector.queue
    simp [Answer.entered, Answer.left, drainBatch, taken, kept]
  | refused kept | ended phase kept => simp [Answer.entered, Answer.left, kept.queue]
  | _ => simp [Answer.entered, Answer.left]

/-- The batches go to the database one by one, in the order they were taken. -/
theorem Effect.handled :
    threads.writer.pending ++ answer.taken = answer.begun ++ next.writer.pending := by
  cases effect with
  | tookPaused _ phase | took _ phase | ended phase | finished phase | exited phase =>
    simp [Answer.taken, Answer.begun, phase, Writer.pending]
  | began phase stored => simp [Answer.taken, Answer.begun, phase, Writer.pending, stored]
  | advanced phase handled later nothing works =>
    simp [Answer.taken, Answer.begun, Writer.pending_of_inHand handled,
      Writer.pending_of_inHand nothing]
  | _ => simp [Answer.taken, Answer.begun]

end

theorem Effect.counted (effect : Effect threads move next (.paused discarded waits)) :
    ∃ thread restore, move = .pause thread restore ∧ discarded = threads.collector.queue.contents ∧
      Discards threads.collector next.collector restore := by
  cases effect with
  | paused unpaused discards => exact ⟨_, _, rfl, rfl, discards⟩

theorem Effect.exit_empty (effect : Effect threads move next .exited)
    (guarded : Guarded capacity threads) :
    threads.collector.stopping = true ∧ threads.collector.queue.contents = [] := by
  cases effect with
  | exited phase stopping empty =>
    have inside := congrArg Writer.round? phase
    exact ⟨guarded.stopped _ inside stopping, guarded.drained _ inside stopping empty⟩

/-- Only a pause that still waits is there when the collector is paused. -/
structure Fresh (threads : Threads Thread) : Prop where
  waits : ∀ thread, threads.waiting thread = true → threads.collector.paused = true
  current : ∀ event ∈ threads.writer.inHand, event.policyGeneration = threads.collector.generation

def Settled (threads : Threads Thread) : Move Thread → Prop
  | .resume _ _ => ∀ thread, threads.waiting thread = false
  | _ => True

theorem Effect.fresh (effect : Effect threads move next answer) (guarded : Guarded capacity threads)
    (fresh : Fresh threads) (settled : Settled threads move) : Fresh next := by
  cases effect with
  | skipped | stopped | joined => exact ⟨fresh.waits, fresh.current⟩
  | refused kept | accepted _ _ _ _ _ kept =>
    refine ⟨?_, ?_⟩
    · rw [kept.paused]
      exact fresh.waits
    · rw [kept.generation]
      exact fresh.current
  | paused unpaused discards =>
    refine ⟨fun _ _ => discards.paused, ?_⟩
    rw [discards.generation]
    exact fresh.current
  | @returned thread waited idle =>
    refine ⟨?_, fresh.current⟩
    intro other waiting
    exact fresh.waits thread waited
  | resumed paused =>
    -- Nobody waits, so the pause has returned and the writer is idle.
    have idle : threads.writerActive = false := by
      by_contra active
      obtain ⟨thread, waiting⟩ := guarded.barrier paused (by simpa using active)
      cases waiting.symm.trans (settled thread)
    have nothing : threads.writer.inHand = [] :=
      Writer.inHand_of_idle (guarded.active.symm.trans idle)
    refine ⟨?_, ?_⟩
    · intro thread waiting
      cases waiting.symm.trans (settled thread)
    · rw [nothing]
      simp
  | tookPaused paused phase => exact ⟨fresh.waits, by simp [Writer.inHand]⟩
  | took unpaused phase due =>
    refine ⟨fresh.waits, ?_⟩
    intro event member
    change event ∈ (RingBuffer.drain _ _).1 at member
    rw [(RingBuffer.contents_drain _ _).1] at member
    exact guarded.current event (List.mem_of_mem_take member)
  | began phase stored =>
    refine ⟨fresh.waits, ?_⟩
    have current := fresh.current
    rw [phase] at current
    exact current
  | ended phase kept =>
    refine ⟨?_, by simp [Writer.inHand]⟩
    rw [kept.paused]
    exact fresh.waits
  | advanced phase handled later nothing works =>
    refine ⟨fresh.waits, ?_⟩
    rw [nothing]
    simp
  | finished phase | exited phase stopping empty => exact ⟨fresh.waits, by simp [Writer.inHand]⟩

structure Quiesced (threads : Threads Thread) : Prop where
  paused : threads.collector.paused = true
  idle : threads.writerActive = false

def Answer.pauseDone : Answer → Bool
  | .paused _ waits => !waits
  | .pauseReturned => true
  | _ => false

def Answer.resumeDone : Answer → Bool
  | .resumed _ => true
  | _ => false

section

variable (effect : Effect threads move next answer)

include effect

theorem Effect.quiesces (fresh : Fresh threads) (returned : answer.pauseDone = true) :
    Quiesced next := by
  cases effect with
  | paused unpaused discards =>
    refine ⟨discards.paused, ?_⟩
    simpa [Answer.pauseDone] using returned
  | returned waited idle => exact ⟨fresh.waits _ waited, idle⟩
  | _ => cases returned

theorem Effect.paused_kept (paused : threads.collector.paused = true)
    (unresumed : answer.resumeDone = false) :
    next.collector.paused = true := by
  cases effect with
  | refused kept | ended _ kept | accepted _ _ _ _ _ kept => exact kept.paused.trans paused
  | paused _ discards => exact discards.paused
  | resumed _ => cases unresumed
  | _ => exact paused

theorem Effect.idle_kept (quiesced : Quiesced threads) : next.writerActive = false := by
  cases effect with
  | took unpaused => cases unpaused.symm.trans quiesced.paused
  | tookPaused | finished | exited => rfl
  | _ => exact quiesced.idle

theorem Effect.quiesced (quiesced : Quiesced threads) (unresumed : answer.resumeDone = false) :
    Quiesced next :=
  ⟨effect.paused_kept quiesced.paused unresumed, effect.idle_kept quiesced⟩

end

/-- The writer of a quiesced collector is not inside a write and does not
begin one. -/
theorem Quiesced.no_write (quiesced : Quiesced threads) (guarded : Guarded capacity threads) :
    threads.writer.working = false ∧ ∀ {move next batch},
        ¬ Effect threads move next (.writeBegan batch) := by
  have idle := guarded.active.symm.trans quiesced.idle
  have nothing := Writer.inHand_of_idle idle
  refine ⟨Bool.eq_false_iff.mpr fun working => ?_, ?_⟩
  · cases idle.symm.trans (guarded.works working)
  intro move next batch effect
  cases effect with
  | began phase stored =>
    rw [phase] at nothing
    exact stored nothing

theorem Effect.written_inHand (effect : Effect threads move next answer)
    (written : answer = .writeBegan batch ∨ answer = .writeEnded batch) :
    threads.writer.inHand = batch := by
  cases effect with
  | began phase | ended phase =>
    rcases written with same | same <;> cases same
    rw [phase]
    rfl
  | _ => rcases written with same | same <;> cases same

theorem Effect.resumed_generation (effect : Effect threads move next (.resumed generation)) :
    next.collector.generation = generation := by
  cases effect with
  | resumed paused => rfl

theorem Effect.generation (effect : Effect threads move next answer)
    (unresumed : answer.resumeDone = false) :
    next.collector.generation = threads.collector.generation := by
  cases effect with
  | refused kept | ended phase kept | accepted _ _ _ _ _ kept => exact kept.generation
  | paused unpaused discards => exact discards.generation
  | resumed paused => cases unresumed
  | _ => rfl

end Guard

/-! ## Whole interleavings -/

section Interleavings

variable {Thread : Type} [DecidableEq Thread]

abbrev Events (Thread : Type) := List (Event (Threads Thread) (Move Thread) Answer)

def Bounded (capacity : Nat) (events : Events Thread) : Prop :=
  ∀ event ∈ events, event.before.collector.queue.count ≤ capacity ∧
      event.after.collector.queue.count ≤ capacity

/-- The accepted events are those that left with one batch or one pause, then the queued ones, in
the order of their acceptance. -/
structure EachOnce (events : Events Thread) : Prop where
  left : ∀ past event future, events = past ++ event :: future →
    (past ++ [event]).flatMap (fun made => made.answer.entered) =
      (past ++ [event]).flatMap (fun made => made.answer.left) ++
        event.after.collector.queue.contents
  written : ∀ past event future, events = past ++ event :: future →
    (past ++ [event]).flatMap (fun made => made.answer.taken) =
      (past ++ [event]).flatMap (fun made => made.answer.begun) ++ event.after.writer.pending
  counted : ∀ event ∈ events, ∀ discarded waits, event.answer = .paused discarded waits →
      ∃ thread restore, event.input = .pause thread restore ∧
        discarded = event.before.collector.queue.contents ∧
        Discards event.before.collector event.after.collector restore

variable (events : Events Thread)

/-- The writer exits behind a stop, and only with an empty queue. -/
def Drains : Prop :=
  ∀ event ∈ events, event.answer = .exited → event.before.collector.stopping = true ∧
      event.before.collector.queue.contents = []

/-- From the return of a pause to the next resume no batch write is running
and none begins. -/
def Barrier : Prop :=
  ∀ past returned middle future, events = past ++ returned :: (middle ++ future) →
      returned.answer.pauseDone = true →
      (∀ event ∈ middle, event.answer.resumeDone = false) → returned.after.writer.working = false ∧
          ∀ event ∈ middle, event.after.writer.working = false ∧
            ∀ batch, event.answer ≠ .writeBegan batch

/-- What is written behind a resume carries the generation of that resume. -/
def Generations : Prop :=
  ∀ past resumed middle last future generation batch,
    events = past ++ resumed :: (middle ++ last :: future) → resumed.answer = .resumed generation →
      (∀ event ∈ middle, event.answer.resumeDone = false) →
      last.answer = .writeBegan batch ∨ last.answer = .writeEnded batch →
        ∀ event ∈ batch, event.policyGeneration = generation

/-- Every resume is called after the pause has returned. -/
def ResumesSettled : Prop := ∀ event ∈ events, Settled event.before event.input

variable {event : Event (Threads Thread) (Move Thread) Answer}

theorem event_effect (member : event ∈ run step threads moves) :
    Effect event.before event.input event.after event.answer := by
  rw [event_eq member]
  exact step_effect event.before event.input

variable {capacity generation : Nat} {collector : PolicyStatsCollector}
  {clock : Int} {moves : List (Move Thread)}

section

variable (created : policyStatsCollectorCreate capacity generation = .ok collector)

include created

theorem run_guarded (member : event ∈ run step (start collector clock) moves) :
    Guarded capacity event.before ∧ Guarded capacity event.after :=
  invariant_always (Guarded capacity)
    (fun threads move guarded => (step_effect threads move).guarded guarded)
    (start_guarded created clock) member

theorem run_fresh (settled : ResumesSettled (run step (start collector clock) moves))
    (member : event ∈ run step (start collector clock) moves) :
    Fresh event.before ∧ Fresh event.after := by
  obtain ⟨past, future, split⟩ := List.append_of_mem member
  have both := invariant_run (fun _ threads => Guarded capacity threads ∧ Fresh threads)
    (fun _ threads move holds settled =>
      ⟨(step_effect threads move).guarded holds.1,
        (step_effect threads move).fresh holds.1 holds.2 settled⟩)
    ⟨start_guarded created clock, by simp [start], by simp [start, Writer.inHand]⟩
    (meets_of_forall settled) split
  exact ⟨both.1.2, both.2.2⟩

theorem run_eachOnce :
    EachOnce (run step (start collector clock) moves : Events Thread) where
  left := by
    intro past event future split
    exact entered_eq_left_append (fun threads move => (step_effect threads move).queued)
      (start_contents created clock) split
  written := by
    intro past event future split
    have started : (start collector clock : Threads Thread).writer.pending = [] := rfl
    exact entered_eq_left_append
      (fun threads move => (step_effect threads move).handled) started split
  counted := by
    intro event member discarded waits answered
    have effect := event_effect member
    rw [answered] at effect
    exact effect.counted

section

variable (settled : ResumesSettled (run step (start collector clock) moves))

include settled

theorem run_barrier : Barrier (run step (start collector clock) moves) := by
  intro past returned middle future split done unresumed
  have member := mem_of_split split
  have guarded := (run_guarded created member).2
  have quiesced := (event_effect member).quiesces (run_fresh created settled member).1 done
  have stretch := (carried_along
    (fun threads move (holds : Guarded capacity threads ∧ Quiesced threads)
        (unresumed : (step threads move).2.resumeDone = false) =>
      ⟨(step_effect threads move).guarded holds.1,
        (step_effect threads move).quiesced holds.2 unresumed⟩)
    split ⟨guarded, quiesced⟩ unresumed).1
  refine ⟨(quiesced.no_write guarded).1, ?_⟩
  intro event inside
  obtain ⟨before, after⟩ := stretch event inside
  refine ⟨(after.2.no_write after.1).1, ?_⟩
  intro batch answered
  have later : event ∈ run step (start collector clock) moves := by
    rw [split]
    simp [inside]
  have effect := event_effect later
  rw [answered] at effect
  exact (before.2.no_write before.1).2 effect

theorem run_generations : Generations (run step (start collector clock) moves) := by
  intro past resumed middle last future resumedGeneration batch split answered
    unresumed written event stored
  have lastMember := mem_of_split_later split
  have resumedMember := mem_of_split split
  have set : resumed.after.collector.generation = resumedGeneration := by
    have effect := event_effect resumedMember
    rw [answered] at effect
    exact effect.resumed_generation
  have kept := (carried_along (fun threads move
        (holds : threads.collector.generation = resumedGeneration)
        (unresumed : (step threads move).2.resumeDone = false) =>
      ((step_effect threads move).generation unresumed).trans holds)
    split set unresumed).2 last future rfl
  rw [← kept]
  apply (run_fresh created settled lastMember).1.current
  rw [(event_effect lastMember).written_inHand written]
  exact stored

end

end

/-- The collector in every interleaving of submissions, the writer, pauses,
resumes and stops. -/
theorem collector_interleavings {capacity generation : Nat} {collector : PolicyStatsCollector}
    (created : policyStatsCollectorCreate capacity generation = .ok collector)
    (clock : Int) (moves : List (Move Thread)) :
    Bounded capacity (run step (start collector clock) moves) ∧
      EachOnce (run step (start collector clock) moves) ∧
      Drains (run step (start collector clock) moves) ∧
      (ResumesSettled (run step (start collector clock) moves) →
        Barrier (run step (start collector clock) moves) ∧
          Generations (run step (start collector clock) moves)) := by
  refine ⟨?_, run_eachOnce created, ?_, ?_⟩
  · intro event member
    obtain ⟨before, after⟩ := run_guarded created member
    exact ⟨before.count_le, after.count_le⟩
  · intro event member exited
    have effect := event_effect member
    rw [exited] at effect
    exact effect.exit_empty (run_guarded created member).1
  · intro settled
    exact ⟨run_barrier created settled, run_generations created settled⟩

end Interleavings

instance (threads : Threads Unit) : (move : Move Unit) → Decidable (Settled threads move)
  | .resume _ _ =>
    decidable_of_iff (threads.waiting () = false)
      ⟨fun settled _ => settled, fun settled => settled ()⟩
  | .submit _ _ | .pause _ _ | .wake _ | .requestStop | .join | .writer _ => .isTrue trivial

/-- The collector is paused with a batch in hand, and a new generation starts after the pause. -/
def swapMoves : List (Move Unit) :=
  [.submit (sampleEvent .dns .domain) 0, .writer {}, .pause () false,
    .writer {}, .writer {}, .writer {}, .writer {}, .writer {}, .wake (), .resume 2 0,
    .submit { sampleEvent .dns .domain with policyGeneration := 2 } 0, .writer {}, .writer {}]

theorem collector_interleavings_swap : policyStatsCollectorCreate 4 1 = .ok sampleCollector ∧
      ResumesSettled (run step (start sampleCollector 0) swapMoves) ∧
      (∃ event ∈ run step (start sampleCollector 0) swapMoves, event.answer = .pauseReturned) ∧
      Generations (run step (start sampleCollector 0) swapMoves) := by
  have settled : ResumesSettled (run step (start sampleCollector 0) swapMoves) := by
    unfold ResumesSettled
    decide +kernel
  have all := collector_interleavings (rfl :
    policyStatsCollectorCreate 4 1 = .ok sampleCollector) 0 swapMoves
  exact ⟨rfl, settled, by decide +kernel, (all.2.2.2 settled).2⟩

/-- A second thread resumes while the pause still waits for the writer. -/
def overlapMoves : List (Move Unit) :=
  [.submit (sampleEvent .dns .domain) 0, .writer {}, .pause () false,
    .resume 2 0, .writer {}, .writer {}, .writer {}, .writer {}, .writer {}, .wake (),
    .submit { sampleEvent .dns .domain with policyGeneration := 2 } 0, .writer {}, .writer {}]

/-- The batch of the old generation is written behind the resume. -/
theorem overlapping_resume_breaks_barrier : policyStatsCollectorCreate 4 1 = .ok sampleCollector ∧
      ¬ Generations (run step (start sampleCollector 0) overlapMoves) ∧
      ¬ Barrier (run step (start sampleCollector 0) overlapMoves) := by
  refine ⟨rfl, fun carried => ?_, fun silent => ?_⟩
  · have written := carried [_, _, _] _ [] _ _ 2 [sampleEvent .dns .domain]
      rfl (by decide +kernel) (by simp) (.inl (by decide +kernel)) _
      (List.mem_singleton_self _)
    exact absurd written (by decide)
  · have stretch := (silent [_, _, _, _, _, _, _, _, _] _ [_, _, _] [] rfl
      (by decide +kernel) (by decide +kernel)).2 _
      (List.mem_of_getElem? (rfl : _[2]? = some _))
    exact stretch.2 [{ sampleEvent .dns .domain with policyGeneration := 2 }] (by decide +kernel)

end JanusGate.CollectorThreads
