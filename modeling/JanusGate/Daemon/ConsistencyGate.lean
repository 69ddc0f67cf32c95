import JanusGate.Daemon.CollectorThreads
import JanusGate.Daemon.Runtime

/-!
# The management consistency gate

`management_consistency.c` over the statistics collector of the runtime,
together with the policy reloads of `daemon_runtime.c` that pause and resume
the same collector.  A restore waits for the active mutations on the gate's
condition, and for the collector inside the gate's mutex; nobody else enters
the gate meanwhile.  The policy mutex admits one reload at a time.  Gate users
live between the start and the stop of the collector.
-/

namespace JanusGate.ConsistencyGate

open PolicyStats CollectorThreads Runs Function

inductive Caller (Thread : Type) where
  | restore (thread : Thread)
  | reload
  deriving DecidableEq

/-- `draining` waits for the mutations, `pausing` for the collector. -/
inductive Restorer where
  | idle
  | draining
  | pausing
  | active
  deriving DecidableEq

/-- The reload behind the policy mutex.  `resumes` says that its own pause
returned 0. -/
inductive Reload where
  | idle
  | pausing
  | loading (resumes : Bool)
  | finishing (resumes : Bool) (result : Int)
  deriving DecidableEq

/-- `mutating` counts the mutations under way, `locked` is the mutex of a restore that waits. -/
structure Gate (Thread : Type) where
  activeMutations : Nat
  restoreActive : Bool
  mutating : Nat
  locked : Bool
  restorers : Thread → Restorer
  reload : Reload
  policyGeneration : Nat
  degraded : Bool
  threads : Threads (Caller Thread)

inductive Step (Thread : Type) where
  | mutationBegin
  | mutationEnd
  | restoreBegin (thread : Thread)
  | restoreDrained (thread : Thread)
  | restoreWake (thread : Thread)
  | restoreEnd (thread : Thread) (storage : Int)
  | reloadBegin
  | reloadWake
  | reloadPublish (loaded : Int)
  | reloadEnd (storage : Int)
  | submit (event : PolicyStatsEvent) (trylock : Int)
  | writer (around : Surroundings)

inductive Reply where
  | silent
  | returned (result : Int)
  deriving DecidableEq

section Steps

variable {Thread : Type}

def managementMutationBegin (gate : Gate Thread) : Gate Thread × Reply :=
  if gate.locked then (gate, .silent)
  else if gate.restoreActive then (gate, .returned eBusy)
  else
    ({ gate with
        activeMutations := gate.activeMutations + 1
        mutating := gate.mutating + 1 }, .returned 0)

/-- `management_mutation_end` of a thread inside a mutation. -/
def managementMutationEnd (gate : Gate Thread) : Gate Thread × Reply :=
  if gate.locked ∨ gate.mutating = 0 then (gate, .silent)
  else
    ({ gate with
        activeMutations := gate.activeMutations - 1
        mutating := gate.mutating - 1 }, .returned 0)

variable [DecidableEq Thread]

section

variable (gate : Gate Thread)

section

variable (thread : Thread)

def Gate.setRestorer (restorer : Restorer) : Gate Thread :=
  { gate with restorers := update gate.restorers thread restorer }

/-- `jg_daemon_runtime_pause_policy_statistics` inside a restore. -/
def pausePolicyStatistics : Gate Thread × Reply :=
  match pause gate.threads (.restore thread) true with
  | (threads, .paused _ true) =>
    ({ gate with threads := threads, locked := true }.setRestorer thread .pausing, .silent)
  | (threads, .paused _ false) =>
    ({ gate with threads := threads }.setRestorer thread .active, .returned 0)
  | (_, .refused result) =>
    if result = eCanceled then (gate.setRestorer thread .active, .returned 0)
    else ({ gate with restoreActive := false }.setRestorer thread .idle, .returned result)
  | _ => (gate, .silent)

/-- `management_restore_begin` up to its return or its wait. -/
def managementRestoreBegin : Gate Thread × Reply :=
  if gate.locked ∨ gate.restorers thread ≠ .idle then (gate, .silent)
  else if gate.restoreActive then (gate, .returned eBusy)
  else
    let gate := { gate with restoreActive := true }.setRestorer thread .draining
    if gate.activeMutations ≠ 0 then (gate, .silent)
    else pausePolicyStatistics gate thread

def restoreDrained : Gate Thread × Reply :=
  if gate.locked ∨ gate.restorers thread ≠ .draining ∨ gate.activeMutations ≠ 0 then (gate, .silent)
  else pausePolicyStatistics gate thread

def restoreWake : Gate Thread × Reply :=
  if gate.restorers thread ≠ .pausing then (gate, .silent)
  else
    match wake gate.threads (.restore thread) with
    | (threads, .pauseReturned) =>
      ({ gate with threads := threads, locked := false }.setRestorer thread .active, .returned 0)
    | _ => (gate, .silent)

def managementRestoreEnd (storage : Int) : Gate Thread × Reply :=
  if gate.locked ∨ gate.restorers thread ≠ .active then (gate, .silent)
  else
    let (threads, answer) := resume gate.threads gate.policyGeneration storage
    let failed := match answer with
      | .refused result => decide (result ≠ eAlready ∧ result ≠ eCanceled)
      | _ => false
    ({ gate with
        threads := threads
        degraded := gate.degraded || failed
        restoreActive := false }.setRestorer thread .idle, .returned 0)

end

/-- What the runtime keeps of the gate; the store follows the published generation. -/
def Gate.runtime : DaemonRuntime where
  policyGeneration := gate.policyGeneration
  storeGeneration := gate.policyGeneration
  collector := gate.threads.collector

/-- `jg_daemon_runtime_reload_policy_from_database` up to the return of its
pause or its wait. -/
def reloadBegin : Gate Thread × Reply :=
  if gate.reload ≠ .idle then (gate, .silent)
  else
    match pause gate.threads .reload false with
    | (threads, .paused _ true) => ({ gate with threads := threads, reload := .pausing }, .silent)
    | (threads, .paused _ false) =>
      ({ gate with threads := threads, reload := .loading true }, .silent)
    | (_, .refused result) =>
      if result = eAlready ∨ result = eCanceled then
        ({ gate with reload := .loading false }, .silent)
      else (gate, .returned result)
    | _ => (gate, .silent)

def reloadWake : Gate Thread × Reply :=
  if gate.reload ≠ .pausing then (gate, .silent)
  else
    match wake gate.threads .reload with
    | (threads, .pauseReturned) =>
      ({ gate with threads := threads, reload := .loading true }, .silent)
    | _ => (gate, .silent)

def reloadPublish (loaded : Int) : Gate Thread × Reply :=
  match gate.reload with
  | .loading resumes =>
    let (runtime, result) := gate.runtime.publishNext { load := loaded }
    ({ gate with
        reload := .finishing resumes result
        policyGeneration := runtime.policyGeneration }, .silent)
  | _ => (gate, .silent)

def reloadEnd (storage : Int) : Gate Thread × Reply :=
  match gate.reload with
  | .finishing true result =>
    let (threads, answer) := resume gate.threads gate.policyGeneration storage
    ({ gate with threads := threads, reload := .idle }, .returned (match answer with
        | .refused refusal => if result = 0 then refusal else result
        | _ => result))
  | .finishing false result => ({ gate with reload := .idle }, .returned result)
  | _ => (gate, .silent)

def gateStep : Step Thread → Gate Thread × Reply
  | .mutationBegin => managementMutationBegin gate
  | .mutationEnd => managementMutationEnd gate
  | .restoreBegin thread => managementRestoreBegin gate thread
  | .restoreDrained thread => restoreDrained gate thread
  | .restoreWake thread => restoreWake gate thread
  | .restoreEnd thread storage => managementRestoreEnd gate thread storage
  | .reloadBegin => reloadBegin gate
  | .reloadWake => reloadWake gate
  | .reloadPublish loaded => reloadPublish gate loaded
  | .reloadEnd storage => reloadEnd gate storage
  | .submit event trylock =>
    ({ gate with threads := (submit gate.threads event trylock).1 }, .silent)
  | .writer around => ({ gate with threads := (collectorMain gate.threads around).1 }, .silent)

end

def gateStart (collector : PolicyStatsCollector) (clock : Int) : Gate Thread where
  activeMutations := 0
  restoreActive := false
  mutating := 0
  locked := false
  restorers := fun _ => .idle
  reload := .idle
  policyGeneration := collector.generation
  degraded := false
  threads := start collector clock

end Steps

/-- Undisturbed, the parts of a reload do in a row what the runtime does at once. -/
theorem reload_runtime {Thread : Type} [DecidableEq Thread] {gate : Gate Thread}
    (idle : gate.reload = .idle) (alone : gate.threads.waiting .reload = false)
    (quiet : gate.threads.writerActive = false) (started : gate.threads.collector.started = true)
    (running : gate.threads.collector.stopping = false) (loaded storage : Int) :
    let ended := reloadEnd (reloadPublish (reloadBegin gate).1 loaded).1 storage
    let reloaded := runtimeReloadPolicyFromDatabase gate.runtime { load := loaded, storage }
    ended.1.runtime = reloaded.1 ∧ ended.2 = .returned reloaded.2 := by
  rcases policyStatsCollectorPause_cases gate.threads.collector false with
    ⟨_, _, refused, already⟩ | ⟨_, later, done, _⟩
  · obtain rfl := already started running
    have begun : (reloadBegin gate).1 = { gate with reload := .loading false } := by
      simp [reloadBegin, idle, pause, alone, refused, eAlready]
    simp only [begun, reloadPublish, reloadEnd, runtimeReloadPolicyFromDatabase, Gate.runtime,
      refused, DaemonRuntime.publishNext]
    split_ifs <;> simp_all [DaemonRuntime.publish, eAlready]
  · have begun : ∃ threads : Threads (Caller Thread), threads.collector = later ∧
        (reloadBegin gate).1 = { gate with threads, reload := .loading true } := by
      simp [reloadBegin, idle, pause, alone, quiet, done]
    obtain ⟨threads, rfl, begun⟩ := begun
    simp only [begun, reloadPublish, reloadEnd, resume, runtimeReloadPolicyFromDatabase,
      Gate.runtime, done, DaemonRuntime.publishNext]
    split_ifs <;> simp_all [DaemonRuntime.publish]

/-! ## What the calls of the collector do between its start and its stop -/

section Calls

variable {Thread : Type} {capacity : Nat} {threads next : Threads Thread}

structure Running (capacity : Nat) (threads : Threads Thread) : Prop where
  guarded : Guarded capacity threads
  started : threads.collector.started = true
  stopping : threads.collector.stopping = false

/-- A paused collector stays paused, and a quiesced one quiesced. -/
structure StaysPaused (threads next : Threads Thread) : Prop where
  paused : threads.collector.paused = true → next.collector.paused = true
  idle : Quiesced threads → next.writerActive = false

variable [DecidableEq Thread] {move : Move Thread} {answer : Answer}

theorem Running.effect (running : Running capacity threads)
    (effect : Effect threads move next answer) (unstopped : answer ≠ .stopped ∧ answer ≠ .joined) :
    Running capacity next := by
  refine ⟨effect.guarded running.guarded, ?_, ?_⟩ <;> cases effect with
  | refused kept | ended _ kept | accepted _ _ _ _ _ kept =>
    simp [kept.started, kept.stopping, running.started, running.stopping]
  | paused _ discards =>
    simp [discards.started, discards.stopping, running.started, running.stopping]
  | stopped | joined => simp at unstopped
  | _ => simp [drainBatch, running.started, running.stopping]

theorem StaysPaused.of_effect (effect : Effect threads move next answer)
    (unresumed : answer.resumeDone = false) : StaysPaused threads next :=
  ⟨fun paused => effect.paused_kept paused unresumed, effect.idle_kept⟩

/-- A pause is refused with `EALREADY`, or it marks a collector that was not paused. -/
theorem pause_running (running : Running capacity threads) (thread : Thread) (restore : Bool) :
    pause threads thread restore = (threads, .silent) ∨
      pause threads thread restore = (threads, .refused eAlready) ∨
      threads.collector.paused = false ∧ ∃ next discarded, pause threads thread restore =
            (next, .paused discarded next.writerActive) ∧
          Running capacity next ∧ next.collector.paused = true := by
  have effect := pause_effect threads thread restore
  unfold pause at effect ⊢
  split at effect
  · next waiting => exact .inl (if_pos waiting)
  next waiting =>
  rw [if_neg waiting]
  rcases policyStatsCollectorPause_cases threads.collector restore with
    ⟨result, failed, refused, already⟩ | ⟨unpaused, later, done, discards⟩
  · simp only [refused, if_pos failed]
    rw [already running.started running.stopping]
    exact .inr (.inl rfl)
  · simp only [done, ne_eq, not_true_eq_false, if_false] at effect ⊢
    exact .inr (.inr ⟨unpaused, _, _, rfl, running.effect effect (by simp), discards.paused⟩)

theorem wake_returned (returned : wake threads thread = (next, .pauseReturned)) :
    next.collector = threads.collector ∧ next.writerActive = false := by
  unfold wake at returned
  split at returned
  · next ends =>
    obtain ⟨rfl, _⟩ := Prod.mk.inj returned
    rw [Bool.and_eq_true, Bool.not_eq_true'] at ends
    exact ⟨rfl, ends.2⟩
  · cases (Prod.mk.inj returned).2

end Calls

/-! ## What holds in every interleaving -/

def Restorer.owns : Restorer → Bool
  | .pausing | .active => true
  | .idle | .draining => false

def Reload.owns : Reload → Bool
  | .pausing | .loading true | .finishing true _ => true
  | .idle | .loading false | .finishing false _ => false

section Exclusion

variable {Thread : Type} {capacity : Nat} {gate : Gate Thread} {thread : Thread}

/-- What ties the gate, the collector and the threads together. -/
structure Exclusive (capacity : Nat) (gate : Gate Thread) : Prop where
  running : Running capacity gate.threads
  counted : gate.activeMutations = gate.mutating
  single : ∀ thread other, gate.restorers thread ≠ .idle →
    gate.restorers other ≠ .idle → thread = other
  closed : gate.restoreActive = true ↔ ∃ thread, gate.restorers thread ≠ .idle
  drained : ∀ thread, (gate.restorers thread).owns = true → gate.activeMutations = 0
  paused : ∀ thread, (gate.restorers thread).owns = true → gate.threads.collector.paused = true
  idle : ∀ thread, gate.restorers thread = .active → gate.threads.writerActive = false
  reload : gate.reload.owns = true → gate.threads.collector.paused = true ∧
      ∀ thread, (gate.restorers thread).owns = false

variable {next : Threads (Caller Thread)}

section

variable (exclusive : Exclusive capacity gate)

include exclusive

theorem Exclusive.collect (running : Running capacity next)
    (stays : StaysPaused gate.threads next) :
    Exclusive capacity { gate with threads := next } where
  running := running
  counted := exclusive.counted
  single := exclusive.single
  closed := exclusive.closed
  drained := exclusive.drained
  paused := fun thread owns => stays.paused (exclusive.paused thread owns)
  idle := fun thread active => stays.idle ⟨exclusive.paused thread (by rw [active]; rfl),
      exclusive.idle thread active⟩
  reload := fun owns => ⟨stays.paused (exclusive.reload owns).1, (exclusive.reload owns).2⟩

theorem Exclusive.alone (inside : gate.restorers thread ≠ .idle) :
    ∀ other, other ≠ thread → gate.restorers other = .idle := by
  intro other apart
  by_contra active
  exact apart (exclusive.single other thread active inside)

theorem Exclusive.free (opened : gate.restoreActive = false) (thread : Thread) :
    gate.restorers thread = .idle := by
  by_contra active
  cases opened.symm.trans (exclusive.closed.mpr ⟨thread, active⟩)

end

theorem gateStart_exclusive
    (created : policyStatsCollectorCreate capacity generation = .ok collector) (clock : Int) :
    Exclusive capacity (gateStart collector clock : Gate Thread) := by
  have guarded : Guarded capacity (start collector clock :
      Threads (Caller Thread)) := start_guarded created clock
  unfold policyStatsCollectorCreate at created
  split at created
  · cases created
  · obtain rfl := Except.ok.inj created
    refine ⟨⟨guarded, rfl, rfl⟩, rfl, ?_, ?_, ?_, ?_, ?_, ?_⟩ <;>
      simp [gateStart, Restorer.owns, Reload.owns]

variable [DecidableEq Thread]

theorem advance_exclusive (restorer : Restorer) (locked : Bool)
    (counted : gate.activeMutations = gate.mutating) (active : gate.restoreActive = true)
    (alone : ∀ other, other ≠ thread → gate.restorers other = .idle) (inside : restorer ≠ .idle)
    (running : Running capacity next) (owned : restorer.owns = true → gate.activeMutations = 0 ∧
      next.collector.paused = true ∧ gate.reload.owns = false)
    (idle : restorer = .active → next.writerActive = false)
    (reload : gate.reload.owns = true → next.collector.paused = true) :
    Exclusive capacity (Gate.setRestorer { gate with locked := locked, threads := next } thread
        restorer) := by
  have self : update gate.restorers thread restorer thread =
      restorer := update_self ..
  have others : ∀ other, other ≠ thread →
      update gate.restorers thread restorer other = .idle :=
    fun other apart => (update_of_ne apart ..).trans (alone other apart)
  have only : ∀ other, update gate.restorers thread restorer other ≠
      .idle → other = thread := fun other active =>
    not_not.mp fun apart => active (others other apart)
  have owner : ∀ other, (update gate.restorers thread restorer
      other).owns = true → restorer.owns = true := by
    intro other owns
    by_cases same : other = thread
    · rwa [same, self] at owns
    · rw [others other same] at owns
      cases owns
  constructor <;> dsimp only [Gate.setRestorer]
  · exact running
  · exact counted
  · intro first second firstActive secondActive
    rw [only first firstActive, only second secondActive]
  · exact ⟨fun _ => ⟨thread, by rwa [self]⟩, fun _ => active⟩
  · exact fun other owns => (owned (owner other owns)).1
  · exact fun other owns => (owned (owner other owns)).2.1
  · intro other active
    rw [only other (by simp [active]), self] at active
    exact idle active
  · intro owns
    refine ⟨reload owns, fun other => Bool.eq_false_iff.mpr fun held => ?_⟩
    cases (owned (owner other held)).2.2.symm.trans owns

section

variable (exclusive : Exclusive capacity gate)

include exclusive

theorem Exclusive.leave (alone : ∀ other, other ≠ thread → gate.restorers other = .idle)
    (running : Running capacity next)
    (reload : gate.reload.owns = true → next.collector.paused = true) :
    Exclusive capacity (Gate.setRestorer
        { gate with
          restoreActive := false
          degraded := degraded
          threads := next } thread .idle) := by
  have all : ∀ other, update gate.restorers thread .idle other = .idle := by
    intro other
    by_cases same : other = thread
    · rw [same, update_self]
    · rw [update_of_ne same, alone other same]
  constructor <;> simp only [Gate.setRestorer, all]
  · exact running
  · exact exclusive.counted
  · simp
  · simp
  · simp [Restorer.owns]
  · simp [Restorer.owns]
  · simp
  · exact fun owns => ⟨reload owns, fun _ => rfl⟩

theorem pausePolicyStatistics_exclusive (draining : gate.restorers thread = .draining)
    (drained : gate.activeMutations = 0) :
    Exclusive capacity (pausePolicyStatistics gate thread).1 := by
  have inside : gate.restorers thread ≠ .idle := by simp [draining]
  have alone := exclusive.alone inside
  have active := exclusive.closed.mpr ⟨thread, inside⟩
  unfold pausePolicyStatistics
  rcases pause_running exclusive.running (.restore thread) true with
    same | already | ⟨unpaused, next, discarded, done, running, paused⟩
  · rw [same]
    exact exclusive
  · rw [already]
    exact exclusive.leave alone exclusive.running (fun owns => (exclusive.reload owns).1)
  rw [done]
  have free : gate.reload.owns = false := by
    by_contra owns
    have held := (exclusive.reload (by simpa using owns)).1
    cases unpaused.symm.trans held
  cases waits : next.writerActive with
  | true =>
    exact advance_exclusive .pausing true exclusive.counted active alone
      (by simp) running (fun _ => ⟨drained, paused, free⟩) (by simp)
      (fun _ => paused)
  | false =>
    exact advance_exclusive .active gate.locked exclusive.counted active
      alone (by simp) running (fun _ => ⟨drained, paused, free⟩)
      (fun _ => waits) (fun _ => paused)

theorem managementRestoreBegin_exclusive (thread : Thread) :
    Exclusive capacity (managementRestoreBegin gate thread).1 := by
  unfold managementRestoreBegin
  split
  · exact exclusive
  split
  · exact exclusive
  next opened =>
  have free := exclusive.free (by simpa using opened)
  have begun : Exclusive capacity
      ({ gate with restoreActive := true }.setRestorer thread .draining) :=
    @advance_exclusive _ _ { gate with restoreActive := true } thread
      gate.threads _ .draining gate.locked exclusive.counted rfl
      (fun other _ => free other) nofun exclusive.running nofun nofun
      (fun owns => (exclusive.reload owns).1)
  dsimp only
  split
  · exact begun
  · next drained =>
    exact pausePolicyStatistics_exclusive begun (update_self ..) (not_not.mp drained)

theorem restoreDrained_exclusive (thread : Thread) :
    Exclusive capacity (restoreDrained gate thread).1 := by
  unfold restoreDrained
  split
  · exact exclusive
  · next drained =>
    simp only [not_or, not_not] at drained
    exact pausePolicyStatistics_exclusive exclusive drained.2.1 drained.2.2

theorem restoreWake_exclusive (thread : Thread) :
    Exclusive capacity (restoreWake gate thread).1 := by
  unfold restoreWake
  split
  · exact exclusive
  next pausing =>
  have phase : gate.restorers thread = .pausing := not_not.mp pausing
  have inside : gate.restorers thread ≠ .idle := by simp [phase]
  have owns : (gate.restorers thread).owns = true := by rw [phase]; rfl
  have effect := wake_effect gate.threads (.restore thread)
  split
  · next threads woken =>
    obtain ⟨same, idle⟩ := wake_returned woken
    rw [woken] at effect
    have paused : threads.collector.paused = true := by
      rw [same]
      exact exclusive.paused thread owns
    have free : gate.reload.owns = false := Bool.eq_false_iff.mpr fun held =>
      absurd ((exclusive.reload held).2 thread) (by simp [owns])
    exact advance_exclusive .active false exclusive.counted
      (exclusive.closed.mpr ⟨thread, inside⟩) (exclusive.alone inside)
      (by simp) (exclusive.running.effect effect (by simp))
      (fun _ => ⟨exclusive.drained thread owns, paused, free⟩)
      (fun _ => idle) (fun _ => paused)
  · exact exclusive

end

theorem resume_running (running : Running capacity gate.threads) (storage : Int) :
    Running capacity (resume gate.threads gate.policyGeneration storage).1 := by
  have effect := resume_effect gate.threads gate.policyGeneration storage
  refine running.effect effect ?_
  unfold resume
  dsimp only
  split <;> simp

section

variable (exclusive : Exclusive capacity gate)

include exclusive

theorem managementRestoreEnd_exclusive (thread : Thread) (storage : Int) :
    Exclusive capacity (managementRestoreEnd gate thread storage).1 := by
  unfold managementRestoreEnd
  split
  · exact exclusive
  next active =>
  have phase : gate.restorers thread = .active := by simpa using (not_or.mp active).2
  refine exclusive.leave (exclusive.alone (by simp [phase]))
    (resume_running exclusive.running storage) ?_
  intro held
  exact absurd ((exclusive.reload held).2 thread) (by simp [phase, Restorer.owns])

theorem reloadBegin_exclusive : Exclusive capacity (reloadBegin gate).1 := by
  unfold reloadBegin
  split
  · exact exclusive
  rcases pause_running exclusive.running .reload false with
    same | already | ⟨unpaused, next, discarded, done, running, paused⟩
  · rw [same]
    exact exclusive
  · rw [already]
    exact { exclusive with reload := by simp [Reload.owns] }
  rw [done]
  have free : ∀ thread, (gate.restorers thread).owns = false :=
    fun thread => Bool.eq_false_iff.mpr fun owns => by
      cases unpaused.symm.trans (exclusive.paused thread owns)
  have inactive : ∀ thread, gate.restorers thread ≠ .active := by
    intro thread active
    have := free thread
    rw [active] at this
    cases this
  cases next.writerActive <;>
    exact { exclusive with
      running
      paused := fun _ _ => paused
      idle := fun thread active => absurd active (inactive thread)
      reload := fun _ => ⟨paused, free⟩ }

theorem reloadWake_exclusive : Exclusive capacity (reloadWake gate).1 := by
  unfold reloadWake
  split
  · exact exclusive
  next pausing =>
  have owns : gate.reload.owns = true := by
    rw [not_not.mp pausing]
    rfl
  have effect := wake_effect gate.threads Caller.reload
  split
  · next threads woken =>
    rw [woken] at effect
    have collected := exclusive.collect
      (exclusive.running.effect effect (by simp)) (.of_effect effect rfl)
    exact { collected with reload := fun _ => collected.reload owns }
  · exact exclusive

theorem reloadEnd_exclusive (storage : Int) : Exclusive capacity (reloadEnd gate storage).1 := by
  unfold reloadEnd
  split
  · next phase =>
    have free := (exclusive.reload (by rw [phase]; rfl)).2
    refine ⟨resume_running exclusive.running storage, exclusive.counted,
      exclusive.single, exclusive.closed, exclusive.drained, ?_, ?_, by simp [Reload.owns]⟩
    · intro thread owns
      cases (free thread).symm.trans owns
    · intro thread active
      have := free thread
      rw [show gate.restorers thread = .active from active] at this
      cases this
  · exact { exclusive with reload := by simp [Reload.owns] }
  · exact exclusive

theorem gateStep_exclusive (step : Step Thread) : Exclusive capacity (gateStep gate step).1 := by
  cases step with
  | mutationBegin =>
    simp only [gateStep, managementMutationBegin]
    split
    · exact exclusive
    split
    · exact exclusive
    next opened =>
    have free := exclusive.free (by simpa using opened)
    refine { exclusive with counted := congrArg (· + 1) exclusive.counted, drained := ?_ }
    intro thread owns
    rw [show gate.restorers thread = .idle from free thread] at owns
    cases owns
  | mutationEnd =>
    simp only [gateStep, managementMutationEnd]
    split
    · exact exclusive
    · refine { exclusive with counted := congrArg (· - 1) exclusive.counted, drained := ?_ }
      intro thread owns
      simp [exclusive.drained thread owns]
  | restoreBegin thread => exact managementRestoreBegin_exclusive exclusive thread
  | restoreDrained thread => exact restoreDrained_exclusive exclusive thread
  | restoreWake thread => exact restoreWake_exclusive exclusive thread
  | restoreEnd thread storage => exact managementRestoreEnd_exclusive exclusive thread storage
  | reloadBegin => exact reloadBegin_exclusive exclusive
  | reloadWake => exact reloadWake_exclusive exclusive
  | reloadPublish loaded =>
    simp only [gateStep, reloadPublish]
    split
    · next resumes phase =>
      have held := exclusive.reload
      rw [phase] at held
      cases resumes <;> exact { exclusive with reload := held }
    · exact exclusive
  | reloadEnd storage => exact reloadEnd_exclusive exclusive storage
  | submit event trylock =>
    have effect := submit_effect gate.threads event trylock
    have answer : (submit gate.threads event trylock).2.resumeDone = false ∧
        (submit gate.threads event trylock).2 ≠ .stopped ∧
        (submit gate.threads event trylock).2 ≠ .joined := by
      unfold submit
      dsimp only
      split <;> simp [Answer.resumeDone]
    exact exclusive.collect (exclusive.running.effect effect answer.2) (.of_effect effect answer.1)
  | writer around =>
    have effect := collectorMain_effect gate.threads around
    simp only [gateStep]
    generalize collectorMain gate.threads around = outcome at effect ⊢
    obtain ⟨next, answer⟩ := outcome
    have visible : answer.resumeDone = false ∧ answer ≠ .stopped ∧ answer ≠ .joined := by
      cases effect <;> simp [Answer.resumeDone]
    exact exclusive.collect (exclusive.running.effect effect visible.2)
      (.of_effect effect visible.1)

end

theorem pausePolicyStatistics_failed
    (failed : (pausePolicyStatistics gate thread).2 = .returned result) (nonzero : result ≠ 0) :
    (pausePolicyStatistics gate thread).1.restorers thread = .idle := by
  unfold pausePolicyStatistics at failed ⊢
  split at failed
  · cases failed
  · cases failed
    exact absurd rfl nonzero
  · split at failed
    · cases failed
      exact absurd rfl nonzero
    · next other =>
      rw [if_neg other]
      exact update_self ..
  · cases failed

theorem restoreBegin_failed {step : Step Thread}
    (called : step = .restoreBegin thread ∨ step = .restoreDrained thread)
    (failed : (gateStep gate step).2 = .returned result) (nonzero : result ≠ 0) :
    (gateStep gate step).1.restorers thread = .idle := by
  rcases called with rfl | rfl
  · simp only [gateStep, managementRestoreBegin] at failed ⊢
    split at failed
    · cases failed
    next free =>
    rw [if_neg free]
    split at failed
    · next busy =>
      rw [if_pos busy]
      exact not_not.mp (not_or.mp free).2
    next opened =>
    rw [if_neg opened]
    split at failed
    · cases failed
    · next drained =>
      rw [if_neg drained]
      exact pausePolicyStatistics_failed failed nonzero
  · simp only [gateStep, restoreDrained] at failed ⊢
    split at failed
    · cases failed
    · next drained =>
      rw [if_neg drained]
      exact pausePolicyStatistics_failed failed nonzero

/-- In every interleaving an active restore is alone, and one that fails leaves the gate open unless
another restore keeps it closed. -/
theorem restore_excludes {capacity generation : Nat} {collector : PolicyStatsCollector}
    (created : policyStatsCollectorCreate capacity generation = .ok collector) (clock : Int)
    (steps : List (Step Thread)) {event : Event (Gate Thread) (Step Thread) Reply}
    (member : event ∈ run gateStep (gateStart collector clock) steps) :
    (∀ thread, event.after.restorers thread = .active →
      (∀ other, event.after.restorers other = .active → other = thread) ∧ event.after.mutating = 0 ∧
        event.after.threads.writer.working = false) ∧
      ∀ thread result, event.input = .restoreBegin thread ∨ event.input = .restoreDrained thread →
        event.answer = .returned result → result ≠ 0 → event.after.restoreActive = false ∨
            ∃ other, other ≠ thread ∧ event.after.restorers other ≠ .idle := by
  have exclusive := (invariant_always (Exclusive capacity)
    (fun _ step holds => gateStep_exclusive holds step)
    (gateStart_exclusive created clock) member).2
  refine ⟨?_, ?_⟩
  · intro thread active
    have owns : (event.after.restorers thread).owns = true := by
      rw [active]
      rfl
    have quiesced : Quiesced event.after.threads :=
      ⟨exclusive.paused thread owns, exclusive.idle thread active⟩
    refine ⟨?_, exclusive.counted.symm.trans (exclusive.drained thread owns),
      (quiesced.no_write exclusive.running.guarded).1⟩
    intro other otherActive
    exact exclusive.single other thread (by simp [otherActive]) (by simp [active])
  · intro thread result called returned nonzero
    have made := event_eq member
    have free : event.after.restorers thread = .idle := by
      rw [made] at returned ⊢
      exact restoreBegin_failed called returned nonzero
    rcases Bool.eq_false_or_eq_true event.after.restoreActive with closed | opened
    · obtain ⟨other, active⟩ := exclusive.closed.mp closed
      refine .inr ⟨other, ?_, active⟩
      rintro rfl
      exact active free
    · exact .inl opened

end Exclusion

def waitingRestore : List (Step Unit) :=
  [.submit (sampleEvent .dns .domain) 0, .writer {}, .mutationBegin,
    .restoreBegin (), .mutationEnd, .restoreDrained (), .writer {},
    .writer {}, .writer {}, .writer {}, .writer {}, .restoreWake ()]

theorem restore_excludes_waiting : policyStatsCollectorCreate 4 1 = .ok sampleCollector ∧
      ∃ event ∈ run gateStep (gateStart sampleCollector 0) waitingRestore,
        event.after.restorers () = .active ∧ event.after.mutating = 0 ∧
          event.after.threads.writer.working = false := by
  have begun : ∃ event ∈ run gateStep (gateStart sampleCollector 0)
      waitingRestore, event.after.restorers () = .active := by
    decide +kernel
  obtain ⟨event, member, active⟩ := begun
  have excluded := (restore_excludes (rfl : policyStatsCollectorCreate 4 1 =
    .ok sampleCollector) 0 waitingRestore member).1 () active
  exact ⟨rfl, event, member, active, excluded.2⟩

/-- A restore that fails because of another one finds the gate closed and
leaves it so. -/
theorem busy_restore_leaves_gate_closed : policyStatsCollectorCreate 4 1 = .ok sampleCollector ∧
      (run gateStep (gateStart sampleCollector 0)
          [.restoreBegin false, .restoreBegin true, .mutationBegin]).map
        Event.answer = [.returned 0, .returned eBusy, .returned eBusy] :=
  ⟨rfl, by decide +kernel⟩

end JanusGate.ConsistencyGate
