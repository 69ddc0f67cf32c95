import JanusGate.Daemon.WorkerSteps
import JanusGate.Daemon.FragmentPayload

/-!
# Fragments through the worker

A fragment that the worker accepts is either one piece of a datagram the
tracker still holds, or the piece that completed a datagram whose rebuilt
frame was accepted.  `Stores` ties an accepted piece to the entry that holds
it; along a run the live entry of a key stores every accepted piece of it.
-/

namespace JanusGate

open Runs SlotTable Fragment Dataplane Worker List

namespace Fragment

/-! ## Stored fragments along a run of the tracker -/

/-- Every live entry stores the recorded pieces of its key. -/
def Recorded (entries : List (Option FragmentEntry))
    (pieces : FragmentKey → List PacketView) : Prop :=
  ∀ index entry, At entries index entry →
    entry.rejected = false → ∀ piece ∈ pieces entry.key, Stores entry piece

def record (pieces : FragmentKey → List PacketView) (packet : PacketView) :
    FragmentKey → List PacketView :=
  fun key => if key = buildKey packet then pieces key ++ [packet] else pieces key

theorem record_same (pieces : FragmentKey → List PacketView) (packet : PacketView) :
    record pieces packet (buildKey packet) = pieces (buildKey packet) ++ [packet] := by
  simp [record]

theorem record_other (different : key ≠ buildKey packet) :
    record pieces packet key = pieces key := by
  simp [record, different]

theorem Recorded.live (recorded : Recorded entries pieces) (nowMs : Nat) :
    Recorded (liveEntries entries nowMs) pieces :=
  fun index entry holds => recorded index entry (at_expire_iff.mp holds).1

/-- The key of the packet has a live entry, or nothing was recorded for it. -/
def HeldOrNew (entries : List (Option FragmentEntry)) (pieces : FragmentKey → List PacketView)
    (packet : PacketView) (nowMs : Nat) : Prop :=
  (∃ slot ∈ liveEntries entries nowMs, ∃ entry ∈ slot, entry.key = buildKey packet) ∨
    pieces (buildKey packet) = []

theorem OwnsSlot.stores
    (owns : OwnsSlot limits (liveEntries entries nowMs) (buildKey packet) nowMs index base)
    (recorded : Recorded entries pieces) (held : HeldOrNew entries pieces packet nowMs) :
    ∀ piece ∈ pieces (buildKey packet), Stores base piece := by
  intro piece member
  rcases owns with ⟨holds, sameKey, alive⟩ | ⟨_, absent, _⟩
  · exact recorded.live nowMs index base holds alive piece (by rw [sameKey]; exact member)
  rcases held with ⟨slot, slotMember, entry, inSlot, sameKey⟩ | empty
  · obtain ⟨other, holds⟩ := mem_iff_getElem?.mp slotMember
    rw [Option.mem_def.mp inSlot] at holds
    exact absurd sameKey (absent other entry holds)
  · rw [empty] at member
    cases member

/-- Writing the slot of the key keeps the record when the new content stores its pieces. -/
theorem Recorded.write {live : List (Option FragmentEntry)} (recorded : Recorded live pieces)
    (inside : index < live.length)
    (alone : ∀ other held, At live other held → held.key = buildKey packet → other = index)
    (stored : ∀ entry, slot = some entry → entry.rejected = false → entry.key = buildKey packet ∧
        ∀ piece ∈ pieces (buildKey packet) ++ [packet], Stores entry piece) :
    Recorded (live.set index slot) (record pieces packet) := by
  intro other held holds alive piece member
  rcases (at_set_iff inside).mp holds with ⟨_, same⟩ | ⟨elsewhere, old⟩
  · obtain ⟨sameKey, stores⟩ := stored held same alive
    rw [sameKey, record_same] at member
    exact stores piece member
  · have different : held.key ≠ buildKey packet := fun sameKey =>
      elsewhere (alone other held old sameKey)
    rw [record_other different] at member
    exact recorded other held old alive piece member

/-- One call keeps the record, and only the returned payload is assembled by its pieces. -/
theorem addFragment_recorded {limits : FragmentLimits} (outputSize : Nat)
    (wf : EntriesWf limits entries) (valid : packetValid packet = true)
    (condition : LastEndsInside entries packet nowMs) (recorded : Recorded entries pieces)
    (held : HeldOrNew entries pieces packet nowMs) :
    Recorded (addFragment limits entries packet nowMs outputSize).1 (record pieces packet) ∧
      ∀ payload, Assembles (pieces (buildKey packet) ++ [packet]) payload →
        match (addFragment limits entries packet nowMs outputSize).2 with
        | .ok .stored | .ok .duplicate => False
        | .ok (.complete result) => payload = result
        | _ => True := by
  have live := wf.live nowMs
  have recordedLive := recorded.live nowMs
  have rejecting : ∀ index, index < (liveEntries entries nowMs).length →
      (∀ other held, At (liveEntries entries nowMs) other held →
        held.key = buildKey packet → other = index) →
      Recorded ((liveEntries entries nowMs).set index
        (some (rejectEntry limits (buildKey packet) nowMs))) (record pieces packet) := by
    intro index inside alone
    refine recordedLive.write inside alone ?_
    rintro entry same alive
    cases same
    cases alive
  rcases addFragment_cases wf.unique packet nowMs outputSize with
    ⟨answer, result, kind, rejected⟩ |
      ⟨index, entry, answer, holds, sameKey, _, result, kind⟩ |
      ⟨index, base, owns, wellSized, fits, result⟩
  · rw [result]
    refine ⟨?_, fun _ _ => by rcases kind with rfl | rfl | rfl <;> exact trivial⟩
    intro index entry holds alive piece member
    have different : entry.key ≠ buildKey packet := by
      intro sameKey
      rw [rejected index entry holds sameKey] at alive
      cases alive
    rw [record_other different] at member
    exact recordedLive index entry holds alive piece member
  · rw [result]
    refine ⟨rejecting index holds.lt_length ?_,
      fun _ _ => by rcases kind with rfl | rfl <;> exact trivial⟩
    intro other held holdsOther otherKey
    exact live.unique other index held entry holdsOther holds (otherKey.trans sameKey.symm)
  · rw [result]
    have alone := owns.alone live.unique
    have baseKey := owns.key_eq
    obtain ⟨baseWf, endsLast⟩ := owns.base_wf wf condition
    have baseStores := owns.stores recorded held
    -- an entry that stores every piece is written, and not complete
    have storing : ∀ entry, entry.key = buildKey packet → EntryWf limits entry →
        entryComplete entry = false →
        (∀ piece ∈ pieces (buildKey packet) ++ [packet], Stores entry piece) →
        Recorded ((liveEntries entries nowMs).set index (some entry)) (record pieces packet) ∧
          ∀ payload, Assembles (pieces (buildKey packet) ++ [packet]) payload → False := by
      intro entry sameKey entryWf incomplete stores
      refine ⟨recordedLive.write owns.lt_length alone ?_, fun payload assembles => ?_⟩
      · rintro written same _
        cases same
        exact ⟨sameKey, stores⟩
      · have complete := entryComplete_of_covered entryWf (assembles.covered stores)
        rw [incomplete] at complete
        cases complete
    rcases addToEntry_cases limits packet nowMs outputSize base with
      ⟨answer, added, kind⟩ | ⟨duplicate, added⟩ | ⟨consistent, stored, kept⟩
    · rw [added, baseKey]
      exact ⟨rejecting index owns.lt_length alone,
        fun _ _ => by rcases kind with rfl | rfl | rfl <;> exact trivial⟩
    · rw [added]
      have incomplete := owns.base_incomplete live
      exact storing base baseKey baseWf incomplete (forall_mem_append.mpr ⟨baseStores,
        forall_mem_singleton.mpr (stores_of_duplicate valid duplicate)⟩)
    · have stores : ∀ piece ∈ pieces (buildKey packet) ++ [packet],
          Stores (retainFragment limits packet nowMs base) piece :=
        forall_mem_append.mpr
          ⟨fun piece old => (baseStores piece old).retain valid fits baseWf.payloadLength stored,
            forall_mem_singleton.mpr (retainFragment_stores valid fits baseWf.payloadLength)⟩
      have retainedWf : EntryWf limits (retainFragment limits packet nowMs base) :=
        retainFragment_wf baseWf valid wellSized fits consistent stored endsLast
      rcases kept with ⟨incomplete, added⟩ | ⟨_, added⟩
      · rw [added]
        exact storing _ baseKey retainedWf incomplete stores
      · rw [added]
        exact ⟨recordedLive.write owns.lt_length alone (by simp),
          fun payload assembles => (assembles.eq_payload retainedWf stores).symm⟩

end Fragment

theorem fragmentTrackerAdd_error
    (failed : (fragmentTrackerAdd tracker packet nowMs outputSize).2 = .error status) :
    status ≠ 0 := by
  have entryFailed : ∀ entry, (addToEntry tracker.limits packet nowMs
      outputSize entry).2 = .error status → status ≠ 0 := by
    intro entry failed
    rcases addToEntry_cases tracker.limits packet nowMs outputSize entry with
      ⟨answer, added, rfl | rfl | rfl⟩ | ⟨_, added⟩ |
        ⟨_, _, ⟨_, added⟩ | ⟨_, added⟩⟩ <;> rw [added] at failed
    case inl.inr.inr =>
      cases failed
      decide
    all_goals cases failed
  unfold fragmentTrackerAdd at failed
  split at failed
  · cases failed
    decide
  unfold addFragment at failed
  dsimp only at failed
  split at failed
  · split at failed
    · cases failed
    split at failed
    · cases failed
    · split at failed
      · cases failed
      · exact entryFailed _ failed
  · split at failed
    · cases failed
    split at failed
    · cases failed
    split at failed
    · cases failed
    · split at failed
      · cases failed
      · exact entryFailed _ failed

theorem fragmentBuildFrame_error
    (failed : fragmentBuildFrame packet payload outputSize = .error status) : status ≠ 0 := by
  unfold fragmentBuildFrame at failed
  split at failed
  · cases failed
    decide
  dsimp only at failed
  generalize (if packet.ipVersion = .v4 then 20 else 40) = networkSize at failed
  split at failed
  · cases failed
    decide
  · split at failed
    · cases failed
      decide
    · cases failed

namespace Worker

/-! ## Fragments of a run of the worker -/

abbrev WorkerEvent := Event DataplaneWorker WorkerInput NfqueueVerdict

def fragmentView (limits : PacketLimits) (frame : Bytes) : Option PacketView :=
  match packetParse frame limits with
  | (.ok, view) => if view.fragmented then some view else none
  | _ => none

def fragmentHanded (limits : PacketLimits) (input : WorkerInput) : Option (PacketView × Nat) :=
  match input.snapshot, input.fragmentClock with
  | some snapshot, some nowMs =>
    let evaluated := dataplaneEvaluate input.frame limits snapshot
    if evaluated.1 = 0 ∧ evaluated.2.reason = .fragmentPending ∧
        packetValid evaluated.2.packet = true then
      some (evaluated.2.packet, nowMs)
    else none
  | _, _ => none

def fragmentsOfKey (fragment : WorkerEvent → Option PacketView)
    (events : List WorkerEvent) (key : FragmentKey) : List PacketView :=
  (events.filterMap fragment).filter fun packet => decide (buildKey packet = key)

def handedFragments : List WorkerEvent → FragmentKey → List PacketView :=
  fragmentsOfKey fun event => (fragmentHanded event.before.limits event.input).map Prod.fst

def acceptedFragments : List WorkerEvent → FragmentKey → List PacketView :=
  fragmentsOfKey fun event =>
    if event.answer = .accept then fragmentView event.before.limits event.input.frame
    else none

/-- Evaluation of the frame rebuilt from a payload around a fragment. -/
def reassembledVerdict (worker : DataplaneWorker) (snapshot : PolicySnapshot)
    (template : PacketView) (payload : Bytes) : NfqueueVerdict :=
  match fragmentBuildFrame template payload
      (worker.fragments.limits.maxBytesPerDatagram + frameOverheadMax) with
  | .error _ => .drop
  | .ok frame =>
    let evaluated := dataplaneEvaluate frame worker.limits snapshot
    if evaluated.1 ≠ 0 then .drop else evaluated.2.verdict

/-- The key of a fragment has a live entry or is new in the run, and a last fragment does not end
before bytes its key already stored. -/
def FragmentInOrder (past : List WorkerEvent) (worker : DataplaneWorker)
    (input : WorkerInput) : Prop :=
  ∀ handed ∈ fragmentHanded worker.limits input,
    HeldOrNew worker.fragments.entries (handedFragments past) handed.1 handed.2 ∧
      LastEndsInside worker.fragments.entries handed.1 handed.2

instance (past : List WorkerEvent) (worker : DataplaneWorker) (input : WorkerInput) :
    Decidable (FragmentInOrder past worker input) := by
  unfold FragmentInOrder HeldOrNew
  infer_instance

/-! ## One call in terms of the tracker -/

theorem process_fragments (worker : DataplaneWorker) (input : WorkerInput) :
    (dataplaneWorkerProcess worker input).1.fragments =
      match fragmentHanded worker.limits input with
      | none => worker.fragments
      | some (packet, nowMs) =>
        (fragmentTrackerAdd worker.fragments packet nowMs
          worker.fragments.limits.maxBytesPerDatagram).1 := by
  unfold dataplaneWorkerProcess fragmentHanded
  cases acquired : input.snapshot with
  | none => rfl
  | some snapshot =>
    rw [(classify_fragments worker snapshot input).2]
    unfold inspectFrame
    dsimp only
    cases clock : input.fragmentClock with
    | none => split <;> rfl
    | some nowMs =>
      dsimp only
      by_cases zero : (dataplaneEvaluate input.frame worker.limits snapshot).1 = 0 ∧
        (dataplaneEvaluate input.frame worker.limits snapshot).2.reason = .fragmentPending
      · rw [if_pos zero]
        cases valid : packetValid (dataplaneEvaluate input.frame
            worker.limits snapshot).2.packet with
        | false => simp [processFragment, fragmentTrackerAdd, valid]
        | true =>
          rw [if_pos ⟨zero.1, zero.2, rfl⟩]
          unfold processFragment
          dsimp only
          split
          · rfl
          · split <;> rfl
          all_goals rfl
      · rw [if_neg zero, if_neg (fun all => zero ⟨all.1, all.2.1⟩)]

theorem fragmentHanded_valid (handed : fragmentHanded limits input = some (packet, nowMs)) :
    packetValid packet = true := by
  unfold fragmentHanded at handed
  split at handed
  · obtain ⟨all, same⟩ := Option.ite_none_right_eq_some.mp handed
    cases same
    exact all.2.2
  · cases handed

theorem fragmentView_parsed (fragment : fragmentView limits frame = some view) :
    packetParse frame limits = (.ok, view) ∧ view.fragmented = true := by
  unfold fragmentView at fragment
  split at fragment
  case h_1 parsedView parsed =>
    obtain ⟨fragmented, same⟩ := Option.ite_none_right_eq_some.mp fragment
    cases same
    exact ⟨parsed, fragmented⟩
  case h_2 => cases fragment

/-- An accepted fragment was stored, or it completed a datagram whose frame is accepted. -/
theorem accepted_fragment_handed (acquired : input.snapshot = some snapshot)
    (fragment : fragmentView worker.limits input.frame = some view)
    (accepted : (dataplaneWorkerProcess worker input).2 = .accept) :
    ∃ nowMs answer, fragmentHanded worker.limits input = some (view, nowMs) ∧
      (fragmentTrackerAdd worker.fragments view nowMs
        worker.fragments.limits.maxBytesPerDatagram).2 = .ok answer ∧
      (answer = .stored ∨ answer = .duplicate ∨ ∃ payload, answer = .complete payload ∧
          reassembledVerdict worker snapshot view payload = .accept) := by
  obtain ⟨zero, verdict⟩ := process_accept acquired accepted
  obtain ⟨parsed, fragmented⟩ := fragmentView_parsed fragment
  have packet := @dataplaneEvaluate_packet _ _ snapshot _ parsed
  have pending := @dataplaneEvaluate_fragment _ _ snapshot _ parsed fragmented
  unfold inspectFrame at zero verdict
  dsimp only at zero verdict
  by_cases handed : (dataplaneEvaluate input.frame worker.limits snapshot).1 = 0 ∧
    (dataplaneEvaluate input.frame worker.limits snapshot).2.reason = .fragmentPending
  · rw [if_pos handed] at zero verdict
    unfold processFragment at zero verdict
    cases clock : input.fragmentClock with
    | none => simp [clock, eInval] at zero
    | some nowMs =>
      simp only [clock, packet] at zero verdict
      cases added : (fragmentTrackerAdd worker.fragments view nowMs
          worker.fragments.limits.maxBytesPerDatagram).2 with
      | error status =>
        simp only [added] at zero
        exact absurd zero (fragmentTrackerAdd_error added)
      | ok answer =>
        have valid : packetValid view = true := by
          by_contra invalid
          unfold fragmentTrackerAdd at added
          rw [if_pos (by simpa using invalid)] at added
          cases added
        refine ⟨nowMs, answer, ?_, added, ?_⟩
        · simp [fragmentHanded, acquired, clock, handed, packet, valid]
        simp only [added] at zero verdict
        cases answer with
        | stored => exact .inl rfl
        | duplicate => exact .inr (.inl rfl)
        | complete payload =>
          refine .inr (.inr ⟨payload, rfl, ?_⟩)
          unfold reassembledVerdict
          cases built : fragmentBuildFrame view payload
              (worker.fragments.limits.maxBytesPerDatagram + frameOverheadMax) with
          | error status =>
            simp only [built] at zero
            exact absurd zero (fragmentBuildFrame_error built)
          | ok frame =>
            simp only [built] at zero verdict
            simp [zero, verdict]
        | malformed | overlap | exhausted => cases verdict
  · rw [if_neg handed] at zero verdict
    exact absurd ⟨zero, pending verdict⟩ handed

/-! ## Runs of the worker -/

theorem handedFragments_none (other : fragmentHanded event.before.limits event.input = none) :
    handedFragments (past ++ [event]) = handedFragments past := by
  funext key
  simp [handedFragments, fragmentsOfKey, other]

theorem handedFragments_some
    (handed : fragmentHanded event.before.limits event.input = some (packet, nowMs)) :
    handedFragments (past ++ [event]) = record (handedFragments past) packet := by
  funext key
  by_cases same : key = buildKey packet
  · subst same
    simp [handedFragments, fragmentsOfKey, handed, record]
  · have different : buildKey packet ≠ key := fun equal => same equal.symm
    simp [handedFragments, fragmentsOfKey, handed, record, same, different]

theorem acceptedFragments_subset (made : ∀ event ∈ events, event =
      eventOf dataplaneWorkerProcess event.before event.input) (key : FragmentKey) :
    acceptedFragments events key ⊆ handedFragments events key := by
  intro packet member
  obtain ⟨found, sameKey⟩ := mem_filter.mp member
  obtain ⟨event, eventMember, view⟩ := mem_filterMap.mp found
  refine mem_filter.mpr ⟨mem_filterMap.mpr ⟨event, eventMember, ?_⟩, sameKey⟩
  by_cases accepted : event.answer = .accept
  · rw [if_pos accepted] at view
    have answered : (dataplaneWorkerProcess event.before event.input).2 = .accept := by
      rw [made event eventMember] at accepted
      exact accepted
    cases acquired : event.input.snapshot with
    | none => simp [dataplaneWorkerProcess, acquired] at answered
    | some snapshot =>
      obtain ⟨nowMs, _, handed, _⟩ := accepted_fragment_handed acquired view answered
      rw [handed]
      rfl
  · rw [if_neg accepted] at view
    cases view

/-- Well-formed entries that store every fragment of their key that reached the tracker. -/
structure FragmentsKept (past : List WorkerEvent) (worker : DataplaneWorker) : Prop where
  wellFormed : EntriesWf worker.fragments.limits worker.fragments.entries
  recorded : Recorded worker.fragments.entries (handedFragments past)

theorem fragmentsKept_step (kept : FragmentsKept past worker)
    (inOrder : FragmentInOrder past worker input) :
    FragmentsKept (past ++ [eventOf dataplaneWorkerProcess worker input])
      (dataplaneWorkerProcess worker input).1 := by
  obtain ⟨wellFormed, recorded⟩ := kept
  have tracker := process_fragments worker input
  cases handed : fragmentHanded worker.limits input with
  | none =>
    rw [handed] at tracker
    refine ⟨by rw [tracker]; exact wellFormed, ?_⟩
    rw [tracker, handedFragments_none handed]
    exact recorded
  | some reached =>
    obtain ⟨held, endsInside⟩ := inOrder _ handed
    have valid := fragmentHanded_valid handed
    rw [handed] at tracker
    simp only [fragmentTrackerAdd, valid, Bool.not_true, Bool.false_eq_true, if_false] at tracker
    refine ⟨?_, ?_⟩
    · rw [tracker]
      exact addFragment_wf wellFormed valid endsInside
    · rw [tracker, handedFragments_some handed]
      exact (addFragment_recorded _ wellFormed valid endsInside recorded held).1

theorem fragmentsKept_created
    (created : dataplaneWorkerCreate limits fragmentLimits streamLimits = .ok worker) :
    FragmentsKept [] worker :=
  ⟨created_wf (dataplaneWorkerCreate_ok created).1, fun _ _ _ _ _ member => nomatch member⟩

/-- The accepted fragments of a key never make up a datagram whose rebuilt frame is dropped, when
each fragment meets `FragmentInOrder`. -/
theorem accepted_fragments_not_blocked {limits : PacketLimits} {fragmentLimits : FragmentLimits}
    {streamLimits : TcpStreamLimits} {worker : DataplaneWorker}
    (created : dataplaneWorkerCreate limits fragmentLimits streamLimits = .ok worker)
    (inputs : List WorkerInput)
    (meets : Meets FragmentInOrder (run dataplaneWorkerProcess worker inputs)) :
    ∀ past event future, run dataplaneWorkerProcess worker inputs = past ++ event :: future →
      event.answer = .accept →
      ∀ snapshot view, event.input.snapshot = some snapshot →
        fragmentView event.before.limits event.input.frame = some view →
        ∀ payload, Assembles (acceptedFragments (past ++ [event]) (buildKey view)) payload →
          reassembledVerdict event.before snapshot view payload = .accept := by
  intro past event future split accepted snapshot view acquired fragment payload assembles
  obtain ⟨kept, _⟩ := invariant_run FragmentsKept
    (fun _ _ _ kept inOrder => fragmentsKept_step kept inOrder)
    (fragmentsKept_created created) meets split
  have made : ∀ other ∈ past ++ [event], other =
      eventOf dataplaneWorkerProcess other.before other.input := by
    intro other member
    have inRun : other ∈ run dataplaneWorkerProcess worker inputs := by
      rw [split]
      simp only [mem_append, mem_cons] at member ⊢
      tauto
    exact event_eq inRun
  have answered : (dataplaneWorkerProcess event.before event.input).2 = .accept := by
    rw [made event (by simp)] at accepted
    exact accepted
  obtain ⟨nowMs, answer, handed, added, kind⟩ := accepted_fragment_handed acquired fragment answered
  obtain ⟨held, endsInside⟩ := meets past event future split _ handed
  have valid := fragmentHanded_valid handed
  have whole : Assembles (handedFragments past (buildKey view) ++ [view]) payload := by
    rw [← record_same, ← handedFragments_some handed]
    exact assembles.mono (acceptedFragments_subset made _)
  simp only [fragmentTrackerAdd, valid, Bool.not_true, Bool.false_eq_true, if_false] at added
  have decided := (addFragment_recorded event.before.fragments.limits.maxBytesPerDatagram
    kept.wellFormed valid endsInside kept.recorded held).2 payload whole
  rw [added] at decided
  rcases kind with rfl | rfl | ⟨result, rfl, verdict⟩
  · exact decided.elim
  · exact decided.elim
  · rw [show payload = result from decided]
    exact verdict

/-! ## A blocked query whose last fragment is sent again -/

def blockingRule : PolicyRuleInput where
  id := 1
  statisticsId := replicate 16 1
  domain := [0x61]
  includeSubdomains := false
  effect := .block
  enforcement := .enforce
  source := .explicit
  target := .dns
  scope := .global
  attribution := [0x61]

def blockingSnapshot : Option PolicySnapshot :=
  (policySnapshotBuildConfigured some (fun _ => 0) [blockingRule] [] none 1).toOption

def queryDatagram (letter : UInt8) : Bytes :=
  [0x10, 0, 0, 53, 0, 27, 0, 0, 0, 1, 1, 0, 0, 1, 0, 0, 0, 0, 0, 0, 1, letter, 0, 0, 1, 0, 1]

def firstHalf (letter : UInt8) : Bytes := sampleFrame 0 true ((queryDatagram letter).take 16)

def lastHalf (letter : UInt8) : Bytes := sampleFrame 16 false ((queryDatagram letter).drop 16)

def sampleStreamLimits : TcpStreamLimits where
  maxFlows := 4
  maxFlowsPerSource := 4
  maxBufferedBytes := 64
  maxOutOfOrderSegments := 4
  maxDnsMessageSize := 32
  maxMessagesPerPacket := 4
  idleTimeoutMs := 1000
  connectionTimeoutMs := 5000

def sampleStreams : TcpStreamTracker where
  limits := sampleStreamLimits
  limitsValid := by decide
  entries := replicate 4 none

def sampleWorker : DataplaneWorker where
  limits := packetLimitsDefault
  limitsValid := by decide
  fragments := sampleTracker
  streams := sampleStreams
  tlsStreams := sampleStreams
  tlsParsers := replicate 4 {}

def fragmentInput (frame : Bytes) (nowMs : Nat) : WorkerInput where
  frame := frame
  snapshot := blockingSnapshot
  fragmentClock := some nowMs
  streamClock := some nowMs
  responseStatus := 0
  resetStatus := 0

def allowedInputs : List WorkerInput :=
  [fragmentInput (firstHalf 0x62) 0, fragmentInput (lastHalf 0x62) 1]

theorem accepted_fragments_not_blocked_allowed : (blockingSnapshot.isSome = true ∧
      (fragmentView packetLimitsDefault (lastHalf 0x62)).isSome = true) ∧
    ∀ snapshot ∈ blockingSnapshot, ∀ view ∈ fragmentView packetLimitsDefault (lastHalf 0x62),
        Assembles (acceptedFragments (run dataplaneWorkerProcess
          sampleWorker allowedInputs) (buildKey view)) (queryDatagram 0x62) ∧
        reassembledVerdict (dataplaneWorkerProcess sampleWorker
          (fragmentInput (firstHalf 0x62) 0)).1 snapshot view (queryDatagram 0x62) = .accept := by
  have assembles : ∀ view ∈ fragmentView packetLimitsDefault (lastHalf 0x62),
      Assembles (acceptedFragments (run dataplaneWorkerProcess
        sampleWorker allowedInputs) (buildKey view)) (queryDatagram 0x62) := by
    decide +kernel
  refine ⟨by decide +kernel, fun snapshot acquired view fragment => ⟨assembles view fragment, ?_⟩⟩
  exact @accepted_fragments_not_blocked packetLimitsDefault sampleLimits
    sampleStreamLimits sampleWorker rfl allowedInputs
    (meets_of_meetsFrom (by decide +kernel))
    [eventOf dataplaneWorkerProcess sampleWorker (fragmentInput (firstHalf 0x62) 0)]
    (eventOf dataplaneWorkerProcess (dataplaneWorkerProcess sampleWorker
        (fragmentInput (firstHalf 0x62) 0)).1
      (fragmentInput (lastHalf 0x62) 1)) [] rfl (by decide +kernel) snapshot
    view acquired fragment _ (assembles view fragment)

/-- A query for the blocked domain whose last fragment is sent again. -/
def resentInputs : List WorkerInput :=
  [fragmentInput (firstHalf 0x61) 0, fragmentInput (lastHalf 0x61) 1,
    fragmentInput (lastHalf 0x61) 2]

/-- The last fragment of a blocked query is dropped; sent again, it opens a new entry and is
accepted. -/
theorem resent_last_fragment_accepted : ((run dataplaneWorkerProcess sampleWorker
        resentInputs).map fun event => event.answer) =
      [.accept, .drop, .accept] ∧
    ∃ snapshot ∈ blockingSnapshot, ∃ view ∈ fragmentView packetLimitsDefault (lastHalf 0x61),
        Assembles (acceptedFragments (run dataplaneWorkerProcess
          sampleWorker resentInputs) (buildKey view)) (queryDatagram 0x61) ∧
        reassembledVerdict sampleWorker snapshot view (queryDatagram 0x61) = .drop := by
  decide +kernel

end Worker

end JanusGate
