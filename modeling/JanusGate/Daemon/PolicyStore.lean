import JanusGate.Common.Network
import JanusGate.Foundation.Runs
import Mathlib.Logic.Function.Basic

/-!
# The hazard-pointer policy store

`policy_store.c` at the granularity of its sequentially consistent atomic
operations.  Every thread is a small program counter, a move lets one thread
make its next atomic operation, and a list of moves is one interleaving.
Snapshots are addresses: the allocator may give the address of a destroyed
snapshot to a new one, and every comparison of the source is a comparison of
addresses.
-/

namespace JanusGate.PolicyStore

open Runs Function

/-- `JG_POLICY_STORE_READER_MAX`. -/
def policyStoreReaderMax : Nat := Network.queueCountMax.toNat + 1

/-- `loading` is in front of the first load, `loaded` has read `current`, `stored` has written its
hazard slot and `holding` has returned. -/
inductive Reader (Address : Type) where
  | idle
  | loading
  | loaded (snapshot : Address)
  | stored (snapshot : Address)
  | holding (snapshot : Address)
  deriving DecidableEq

/-- `exchanging` has passed the comparison with `current`, `waiting` is in front of the load of one
reader slot, or behind the last of them. -/
inductive Writer (Address : Type) where
  | idle
  | exchanging (replacement : Address)
  | waiting (previous : Address) (index : Nat)
  deriving DecidableEq

/-- The store, the threads that use it and the live snapshots. -/
structure Store (Address Snapshot : Type) where
  heap : Address → Option Snapshot
  current : Address
  slots : Fin policyStoreReaderMax → Option Address
  readerCount : Nat
  readerCount_le : readerCount ≤ policyStoreReaderMax
  readers : Fin policyStoreReaderMax → Reader Address
  writer : Writer Address

inductive Move (Address Snapshot : Type) where
  | build (address : Address) (snapshot : Snapshot)
  | acquire (reader : Fin policyStoreReaderMax)
  | continueAcquire (reader : Fin policyStoreReaderMax)
  | release (reader : Fin policyStoreReaderMax)
  | replace (replacement : Option Address)
  | continueReplace

/-- What a move makes visible to the callers. -/
inductive Answer (Address : Type) where
  | silent
  | acquired (reader : Fin policyStoreReaderMax) (snapshot : Option Address)
  | released (reader : Fin policyStoreReaderMax)
  | refused (result : Int)
  | destroyed (snapshot : Address)
  deriving DecidableEq

section Steps

variable {Address Snapshot : Type}

section

variable (store : Store Address Snapshot) (reader : Fin policyStoreReaderMax)

def Store.setReader (next : Reader Address) : Store Address Snapshot :=
  { store with readers := update store.readers reader next }

def Store.setSlot (snapshot : Option Address) : Store Address Snapshot :=
  { store with slots := update store.slots reader snapshot }

@[simp] theorem Store.setReader_readers (next : Reader Address) :
    (store.setReader reader next).readers = update store.readers reader next := rfl

end

def policyStoreCreate (heap : Address → Option Snapshot) (initial : Option Address)
    (readerCount : Nat) : Except Int (Store Address Snapshot) :=
  match initial with
  | none => .error eInval
  | some initial =>
    if bounded : readerCount = 0 ∨ readerCount > policyStoreReaderMax then .error eInval
    else
      .ok {
        heap := heap
        current := initial
        slots := fun _ => none
        readerCount := readerCount
        readerCount_le := Nat.le_of_not_lt fun above => bounded (.inr above)
        readers := fun _ => .idle
        writer := .idle }

variable [DecidableEq Address] (store : Store Address Snapshot)

/-- A snapshot is built at an address that no live snapshot has. -/
def build (address : Address) (snapshot : Snapshot) : Store Address Snapshot × Answer Address :=
  match store.heap address with
  | none => ({ store with heap := update store.heap address (some snapshot) }, .silent)
  | some _ => (store, .silent)

section

variable (reader : Fin policyStoreReaderMax)

/-- The call of `jg_policy_store_acquire` up to its first load. -/
def policyStoreAcquire : Store Address Snapshot × Answer Address :=
  if store.readers reader ≠ .idle then (store, .silent)
  else if reader ≥ store.readerCount then (store, .acquired reader none)
  else (store.setReader reader .loading, .silent)

/-- The next atomic operation of an acquisition. -/
def continueAcquire : Store Address Snapshot × Answer Address :=
  match store.readers reader with
  | .loading => (store.setReader reader (.loaded store.current), .silent)
  | .loaded snapshot =>
    ((store.setSlot reader (some snapshot)).setReader reader (.stored snapshot), .silent)
  | .stored snapshot =>
    if snapshot ≠ store.current then (store.setReader reader .loading, .silent)
    else (store.setReader reader (.holding snapshot), .acquired reader (some snapshot))
  | .idle | .holding _ => (store, .silent)

/-- `jg_policy_store_release`, by the thread that acquired. -/
def policyStoreRelease : Store Address Snapshot × Answer Address :=
  match store.readers reader with
  | .holding _ => ((store.setSlot reader none).setReader reader .idle, .released reader)
  | _ => (store, .silent)

end

/-- The call of `jg_policy_store_replace` up to the comparison with `current`. -/
def policyStoreReplace (replacement : Option Address) : Store Address Snapshot × Answer Address :=
  match store.writer, replacement with
  | .idle, none => (store, .refused eInval)
  | .idle, some replacement =>
    if store.current = replacement then (store, .refused eAlready)
    else ({ store with writer := .exchanging replacement }, .silent)
  | _, _ => (store, .silent)

/-- The next atomic operation of a replacement. -/
def continueReplace : Store Address Snapshot × Answer Address :=
  match store.writer with
  | .idle => (store, .silent)
  | .exchanging replacement =>
    ({ store with
        current := replacement
        writer := .waiting store.current 0 }, .silent)
  | .waiting previous index =>
    if inside : index < store.readerCount then
      if store.slots ⟨index, Nat.lt_of_lt_of_le inside store.readerCount_le⟩ = some previous then
        ({ store with writer := .waiting previous 0 }, .silent)
      else ({ store with writer := .waiting previous (index + 1) }, .silent)
    else
      ({ store with
          heap := update store.heap previous none
          writer := .idle }, .destroyed previous)

def step :
    Move Address Snapshot → Store Address Snapshot × Answer Address
  | .build address snapshot => build store address snapshot
  | .acquire reader => policyStoreAcquire store reader
  | .continueAcquire reader => continueAcquire store reader
  | .release reader => policyStoreRelease store reader
  | .replace replacement => policyStoreReplace store replacement
  | .continueReplace => continueReplace store

end Steps

/-! ## The atomic operations -/

/-- What one move does: nothing, or one atomic operation of a thread. -/
inductive Effect {Address Snapshot : Type} (store : Store Address Snapshot) :
    Move Address Snapshot → Store Address Snapshot → Answer Address → Prop
  | skipped {move} : Effect store move store .silent
  | refused {move} (result : Int) : Effect store move store (.refused result)
  | built {move} (heap : Address → Option Snapshot)
      (kept : ∀ address snapshot, store.heap address = some snapshot →
        heap address = some snapshot) :
      Effect store move { store with heap := heap } .silent
  | outside {move} {reader : Fin policyStoreReaderMax} (invalid : store.readerCount ≤ reader) :
      Effect store move store (.acquired reader none)
  | entered {move} (phase : store.readers reader = .idle)
      (inside : reader.val < store.readerCount) :
      Effect store move (store.setReader reader .loading) .silent
  | loaded {move} (phase : store.readers reader = .loading) :
      Effect store move (store.setReader reader (.loaded store.current)) .silent
  | stored {move} (phase : store.readers reader = .loaded snapshot) :
      Effect store move ((store.setSlot reader (some snapshot)).setReader reader
          (.stored snapshot)) .silent
  | repeated {move} (phase : store.readers reader = .stored snapshot) :
      Effect store move (store.setReader reader .loading) .silent
  | acquired {move} (phase : store.readers reader = .stored store.current) :
      Effect store move (store.setReader reader (.holding store.current))
        (.acquired reader (some store.current))
  | released {move} {reader : Fin policyStoreReaderMax} {snapshot : Address}
      (phase : store.readers reader = .holding snapshot) :
      Effect store move ((store.setSlot reader none).setReader reader .idle) (.released reader)
  | called (different : store.current ≠ replacement) :
      Effect store (.replace (some replacement))
        { store with writer := .exchanging replacement } .silent
  | exchanged {move} (phase : store.writer = .exchanging replacement) :
      Effect store move
        { store with
          current := replacement
          writer := .waiting store.current 0 } .silent
  | found {move} (phase : store.writer = .waiting previous index) :
      Effect store move { store with writer := .waiting previous 0 } .silent
  | passed {move} (phase : store.writer = .waiting previous index)
      (free : ∀ reader, reader.val = index → store.slots reader ≠ some previous) :
      Effect store move { store with writer := .waiting previous (index + 1) } .silent
  | destroyed {move} (phase : store.writer = .waiting previous index)
      (finished : store.readerCount ≤ index) (heap : Address → Option Snapshot)
      (kept : ∀ address, address ≠ previous → heap address = store.heap address) :
      Effect store move { store with heap := heap, writer := .idle } (.destroyed previous)

section Effects

variable {Address Snapshot : Type}

theorem policyStoreRelease_effect
    (store : Store Address Snapshot) (reader : Fin policyStoreReaderMax) :
    Effect store (.release reader) (policyStoreRelease store reader).1
      (policyStoreRelease store reader).2 := by
  unfold policyStoreRelease
  split
  · next phase => exact .released phase
  · exact .skipped

variable [DecidableEq Address] (store : Store Address Snapshot)

theorem build_effect (address : Address) (snapshot : Snapshot) :
    Effect store (.build address snapshot) (build store address snapshot).1
      (build store address snapshot).2 := by
  unfold build
  split
  · next free =>
    refine .built _ ?_
    intro other value live
    have different : other ≠ address := by
      rintro rfl
      rw [free] at live
      cases live
    rw [update_of_ne different, live]
  · exact .skipped

theorem policyStoreAcquire_effect (reader : Fin policyStoreReaderMax) :
    Effect store (.acquire reader) (policyStoreAcquire store reader).1
      (policyStoreAcquire store reader).2 := by
  unfold policyStoreAcquire
  split
  · exact .skipped
  · next idle =>
    split
    · next outside => exact .outside outside
    · next inside => exact .entered (not_not.mp idle) (Nat.lt_of_not_ge inside)

theorem continueAcquire_effect (reader : Fin policyStoreReaderMax) :
    Effect store (.continueAcquire reader) (continueAcquire store reader).1
      (continueAcquire store reader).2 := by
  unfold continueAcquire
  cases phase : store.readers reader with
  | idle => exact .skipped
  | loading => exact .loaded phase
  | loaded snapshot => exact .stored phase
  | stored snapshot =>
    dsimp only
    split
    · exact .repeated phase
    · next same =>
      rw [not_not.mp same] at phase ⊢
      exact .acquired phase
  | holding snapshot => exact .skipped

theorem policyStoreReplace_effect (replacement : Option Address) :
    Effect store (.replace replacement) (policyStoreReplace store replacement).1
      (policyStoreReplace store replacement).2 := by
  unfold policyStoreReplace
  split
  · exact .refused _
  · split
    · exact .refused _
    · next different => exact .called different
  · exact .skipped

theorem continueReplace_effect :
    Effect store .continueReplace (continueReplace store).1 (continueReplace store).2 := by
  unfold continueReplace
  cases phase : store.writer with
  | idle => exact .skipped
  | exchanging replacement => exact .exchanged phase
  | waiting previous index =>
    dsimp only
    split
    · split
      · exact .found phase
      · next free =>
        refine .passed phase ?_
        rintro reader rfl
        exact free
    · next finished =>
      exact .destroyed phase (Nat.le_of_not_lt finished) _
        (fun _ different => update_of_ne different _ _)

theorem step_effect (move : Move Address Snapshot) :
    Effect store move (step store move).1 (step store move).2 := by
  cases move with
  | build address snapshot => exact build_effect store address snapshot
  | acquire reader => exact policyStoreAcquire_effect store reader
  | continueAcquire reader => exact continueAcquire_effect store reader
  | release reader => exact policyStoreRelease_effect store reader
  | replace replacement => exact policyStoreReplace_effect store replacement
  | continueReplace => exact continueReplace_effect store

end Effects

/-! ## What holds in every interleaving -/

section Protection

variable {Address Snapshot : Type}

def Reader.announced : Reader Address → Option Address
  | .idle | .loading | .loaded _ => none
  | .stored snapshot | .holding snapshot => some snapshot

def Reader.acquiring : Reader Address → Bool
  | .loading | .loaded _ | .stored _ => true
  | .idle | .holding _ => false

/-- A writer that waits has taken its snapshot out of `current`, so a slot it has passed can
announce it again but its thread can no longer keep it. -/
structure Guarded (store : Store Address Snapshot) : Prop where
  inside : ∀ reader, store.readers reader ≠ .idle → reader.val < store.readerCount
  announced : ∀ reader snapshot, (store.readers reader).announced = some snapshot →
      store.slots reader = some snapshot
  exchanging : ∀ replacement, store.writer = .exchanging replacement → store.current ≠ replacement
  retired : ∀ previous index, store.writer = .waiting previous index → store.current ≠ previous
  passed : ∀ previous index, store.writer = .waiting previous index →
    ∀ reader, reader.val < index → store.readers reader ≠ .holding previous

variable {store : Store Address Snapshot} {reader : Fin policyStoreReaderMax}

theorem policyStoreCreate_guarded
    (created : policyStoreCreate heap initial readerCount = .ok store) :
    Guarded store ∧ ∀ reader, store.readers reader = .idle := by
  unfold policyStoreCreate at created
  cases initial with
  | none => cases created
  | some initial =>
    dsimp only at created
    split at created
    · cases created
    · cases created
      exact ⟨⟨by simp, by simp [Reader.announced], by simp, by simp, by simp⟩, fun _ => rfl⟩

theorem Guarded.setReader (guarded : Guarded store) (inside : reader.val < store.readerCount)
    (announces : ∀ snapshot, next.announced = some snapshot → slot = some snapshot)
    (fresh : ∀ snapshot, next = .holding snapshot → store.current = snapshot) :
    Guarded ((store.setSlot reader slot).setReader reader next) where
  inside := by
    intro other active
    by_cases same : other = reader
    · rw [same]
      exact inside
    · rw [Store.setReader_readers, update_of_ne same] at active
      exact guarded.inside other active
  announced := by
    intro other snapshot announced
    by_cases same : other = reader
    · subst same
      rw [Store.setReader_readers, update_self] at announced
      change update store.slots other slot other = some snapshot
      rw [update_self]
      exact announces snapshot announced
    · rw [Store.setReader_readers, update_of_ne same] at announced
      change update store.slots reader slot other = some snapshot
      rw [update_of_ne same]
      exact guarded.announced other snapshot announced
  exchanging := guarded.exchanging
  retired := guarded.retired
  passed := by
    intro previous index waiting other earlier held
    by_cases same : other = reader
    · subst same
      rw [Store.setReader_readers, update_self] at held
      exact guarded.retired previous index waiting (fresh previous held)
    · rw [Store.setReader_readers, update_of_ne same] at held
      exact guarded.passed previous index waiting other earlier held

theorem Guarded.setReader_silent (guarded : Guarded store) (inside : reader.val < store.readerCount)
    (announces : ∀ snapshot, next.announced = some snapshot → store.slots reader = some snapshot)
    (fresh : ∀ snapshot, next = .holding snapshot → store.current = snapshot) :
    Guarded (store.setReader reader next) := by
  have moved := guarded.setReader inside announces fresh
  rwa [Store.setSlot, update_eq_self] at moved

variable {store next : Store Address Snapshot}
  {move : Move Address Snapshot} {answer : Answer Address}

theorem Effect.guarded (effect : Effect store move next answer) (guarded : Guarded store) :
    Guarded next := by
  have inside := guarded.inside
  cases effect with
  | skipped | refused result | outside invalid => exact guarded
  | built heap kept => exact { guarded with }
  | entered phase bounded =>
    exact guarded.setReader_silent bounded (by simp [Reader.announced]) (by simp)
  | loaded phase =>
    exact guarded.setReader_silent (inside _ (by simp [phase]))
      (by simp [Reader.announced]) (by simp)
  | stored phase =>
    exact guarded.setReader (inside _ (by simp [phase])) (by simp [Reader.announced]) (by simp)
  | repeated phase =>
    exact guarded.setReader_silent (inside _ (by simp [phase]))
      (by simp [Reader.announced]) (by simp)
  | acquired phase =>
    have slot := guarded.announced _ _ (congrArg Reader.announced phase)
    exact guarded.setReader_silent (inside _ (by simp [phase]))
      (by simp [Reader.announced, slot]) (by simp)
  | released phase =>
    exact guarded.setReader (inside _ (by simp [phase])) (by simp [Reader.announced]) (by simp)
  | called different =>
    refine ⟨inside, guarded.announced, ?_, by simp, by simp⟩
    rintro other chosen
    cases chosen
    exact different
  | exchanged phase =>
    refine ⟨inside, guarded.announced, by simp, ?_, ?_⟩
    · rintro previous index waiting
      cases waiting
      exact (guarded.exchanging _ phase).symm
    · rintro previous index waiting reader earlier
      cases waiting
      omega
  | found phase =>
    refine ⟨inside, guarded.announced, by simp, ?_, ?_⟩
    · rintro other position waiting
      cases waiting
      exact guarded.retired _ _ phase
    · rintro other position waiting reader earlier
      cases waiting
      omega
  | passed phase free =>
    refine ⟨inside, guarded.announced, by simp, ?_, ?_⟩
    · rintro other position waiting
      cases waiting
      exact guarded.retired _ _ phase
    rintro other position waiting reader earlier held
    cases waiting
    -- The slot just read, or one that was passed before.
    rcases Nat.lt_succ_iff_lt_or_eq.mp earlier with before | here
    · exact guarded.passed _ _ phase reader before held
    · exact free reader here (guarded.announced reader _ (congrArg Reader.announced held))
  | destroyed phase finished heap kept =>
    exact ⟨inside, guarded.announced, by simp, by simp, by simp⟩

variable {snapshot : Address}

/-- A snapshot is destroyed at the end of a wait, when no thread has it. -/
theorem Effect.destroyed_free (effect : Effect store move next (.destroyed snapshot))
    (guarded : Guarded store) (reader : Fin policyStoreReaderMax) :
    store.readers reader ≠ .holding snapshot := by
  cases effect with
  | destroyed phase finished heap kept =>
    intro held
    have inside := guarded.inside reader (by simp [held])
    exact guarded.passed _ _ phase reader (by omega) held

variable {returned : Option Address}

section

variable (effect : Effect store move next (.acquired reader returned))

include effect

/-- An acquisition returns from the load that found its snapshot current. -/
theorem Effect.acquired_current : store.readerCount ≤ reader ∧ returned = none ∨
      (store.readers reader).acquiring ∧ returned = some store.current ∧
        next.readers reader = .holding store.current := by
  cases effect with
  | outside invalid => exact .inl ⟨invalid, rfl⟩
  | acquired phase =>
    refine .inr ⟨?_, rfl, update_self ..⟩
    rw [phase]
    rfl

theorem Effect.acquired_unmoved : next.current = store.current := by cases effect <;> rfl

end

theorem Effect.holding (effect : Effect store move next answer)
    (held : store.readers reader = .holding snapshot) (unreleased : answer ≠ .released reader) :
    next.readers reader = .holding snapshot := by
  have others : ∀ {other : Fin policyStoreReaderMax} {phase},
      store.readers other = phase → phase ≠ .holding snapshot → reader ≠ other := by
    rintro other phase reached different rfl
    exact different (reached.symm.trans held)
  cases effect with
  | skipped | refused | outside | built | called | exchanged | found | passed
  | destroyed => exact held
  | entered phase | loaded phase | stored phase | repeated phase
  | acquired phase =>
    rw [Store.setReader_readers, update_of_ne (others phase (by simp))]
    exact held
  | @released _ other _ phase =>
    have different : reader ≠ other := by
      rintro rfl
      exact unreleased rfl
    rw [Store.setReader_readers, update_of_ne different]
    exact held

theorem Effect.live {snapshot : Snapshot} (effect : Effect store move next answer)
    (guarded : Guarded store) (held : store.readers reader = .holding address)
    (live : store.heap address = some snapshot) : next.heap address = some snapshot := by
  have destroyedFree := effect
  cases effect with
  | skipped | refused | outside | called | exchanged | found | passed
  | entered | loaded | stored | repeated | acquired | released => exact live
  | built heap kept => exact kept address snapshot live
  | destroyed phase finished heap kept =>
    have different : address ≠ _ := fun same =>
      destroyedFree.destroyed_free guarded reader (held.trans (by rw [same]))
    rw [← live]
    exact kept address different

/-- The snapshots that the store and the call in progress own are live. -/
structure Owned (store : Store Address Snapshot) : Prop where
  current : ∃ snapshot, store.heap store.current = some snapshot
  handed : ∀ replacement, store.writer = .exchanging replacement →
    ∃ snapshot, store.heap replacement = some snapshot

/-- A caller that hands over a live snapshot keeps `current` live. -/
theorem Effect.owned (effect : Effect store move next answer) (guarded : Guarded store)
    (owned : Owned store)
    (live : ∀ replacement, move = .replace (some replacement) →
      ∃ snapshot, store.heap replacement = some snapshot) :
    Owned next := by
  cases effect with
  | skipped | refused | outside | entered | loaded | stored | repeated
  | acquired | released => exact ⟨owned.current, owned.handed⟩
  | found | passed => exact ⟨owned.current, by simp⟩
  | built heap kept =>
    obtain ⟨snapshot, found⟩ := owned.current
    refine ⟨⟨snapshot, kept _ _ found⟩, ?_⟩
    intro replacement exchanging
    obtain ⟨handed, foundHanded⟩ := owned.handed replacement exchanging
    exact ⟨handed, kept _ _ foundHanded⟩
  | called different =>
    refine ⟨owned.current, ?_⟩
    rintro other chosen
    cases chosen
    exact live _ rfl
  | exchanged phase => exact ⟨owned.handed _ phase, by simp⟩
  | destroyed phase finished heap kept =>
    obtain ⟨snapshot, found⟩ := owned.current
    refine ⟨⟨snapshot, ?_⟩, by simp⟩
    rw [← found]
    exact kept _ (guarded.retired _ _ phase)

end Protection

/-! ## Whole interleavings -/

section Interleavings

variable {Address Snapshot : Type} [DecidableEq Address]
  {heap : Address → Option Snapshot} {initial : Option Address}
  {readerCount : Nat} {store : Store Address Snapshot}

abbrev Events (Address Snapshot : Type) :=
  List (Event (Store Address Snapshot) (Move Address Snapshot) (Answer Address))

variable {moves : List (Move Address Snapshot)}
  {event : Event (Store Address Snapshot) (Move Address Snapshot) (Answer Address)}

theorem event_effect (member : event ∈ run step store moves) :
    Effect event.before event.input event.after event.answer := by
  rw [event_eq member]
  exact step_effect _ _

theorem run_guarded (guarded : Guarded store) (member : event ∈ run step store moves) :
    Guarded event.before ∧ Guarded event.after :=
  invariant_always Guarded
    (fun store move holds => (step_effect store move).guarded holds) guarded
    member

variable {reader : Fin policyStoreReaderMax} {future past : Events Address Snapshot}
    {address : Address}

/-- Until the thread releases, its address denotes the snapshot it acquired. -/
theorem acquired_until (guarded : Guarded store)
    (split : run step store moves = past ++ acquired :: (middle ++ later :: future))
    (returned : acquired.answer = .acquired reader (some address))
    (unreleased : ∀ event ∈ middle, event.answer ≠ .released reader) :
    later.before.readers reader = .holding address ∧
      ∀ snapshot, acquired.after.heap address = some snapshot →
        later.before.heap address = some snapshot := by
  have member := mem_of_split split
  have effect := event_effect member
  rw [returned] at effect
  have held : acquired.after.readers reader = .holding address := by
    obtain ⟨_, null⟩ | ⟨_, same, holding⟩ := effect.acquired_current
    · cases null
    · rw [Option.some.inj same]
      exact holding
  obtain ⟨rest, restEq⟩ := run_after split
  have carried := @carried_to _ _ _ step
    (fun store => Guarded store ∧ store.readers reader = .holding address ∧
      ∀ snapshot, acquired.after.heap address = some snapshot → store.heap address = some snapshot)
    (fun event => event.answer ≠ .released reader)
    (fun store move kept silent => by
      obtain ⟨keptGuarded, held, live⟩ := kept
      have effect := step_effect store move
      exact ⟨effect.guarded keptGuarded, effect.holding held silent, fun snapshot found =>
          effect.live keptGuarded held (live snapshot found)⟩)
    acquired.after rest middle future later restEq.symm
    ⟨(run_guarded guarded member).2, held, fun _ found => found⟩ unreleased
  exact carried.2

theorem acquired_live (guarded : Guarded store) (owned : Owned store) (handsLive : Meets
      (fun _ store move => ∀ replacement, move = .replace (some replacement) →
          ∃ snapshot, store.heap replacement = some snapshot)
      (run step store moves)) (split : run step store moves = past ++ event :: future)
    (returned : event.answer = .acquired reader (some address)) :
    ∃ snapshot, event.after.heap address = some snapshot := by
  have member := mem_of_split split
  have reached := invariant_run (fun _ store => Guarded store ∧ Owned store)
    (fun _ store move holds live =>
      have effect := step_effect store move
      ⟨effect.guarded holds.1, effect.owned holds.1 holds.2 live⟩)
    ⟨guarded, owned⟩ handsLive split
  have effect := event_effect member
  rw [returned] at effect
  cases effect.acquired_current with
  | inl refused => cases refused.2
  | inr granted =>
    obtain ⟨_, same, held⟩ := granted
    obtain ⟨snapshot, live⟩ := reached.2.2.current
    have unmoved : event.after.current = event.before.current := effect.acquired_unmoved
    rw [unmoved, ← Option.some.inj same] at live
    exact ⟨snapshot, live⟩

/-- A snapshot is destroyed only after every thread that acquired it has released it, and an
acquisition returns the snapshot that is current at its last load. -/
theorem policy_store_safe (created : policyStoreCreate heap initial readerCount = .ok store)
    (moves : List (Move Address Snapshot)) :
    (∀ past acquired middle destroyed future reader address, run step store moves =
          past ++ acquired :: (middle ++ destroyed :: future) →
        acquired.answer = .acquired reader (some address) →
        destroyed.answer = .destroyed address →
        ∃ event ∈ middle, event.answer = .released reader) ∧
      (∀ past acquired middle later future reader address snapshot, run step store moves =
            past ++ acquired :: (middle ++ later :: future) →
          acquired.answer = .acquired reader (some address) →
          acquired.after.heap address = some snapshot →
          (∀ event ∈ middle, event.answer ≠ .released reader) →
          later.before.heap address = some snapshot) ∧
      ∀ event ∈ run step store moves, ∀ reader returned,
        event.answer = .acquired reader returned →
          event.before.readerCount ≤ reader ∧ returned = none ∨
            (event.before.readers reader).acquiring ∧ returned = some event.before.current := by
  have guarded := (policyStoreCreate_guarded created).1
  refine ⟨?_, ?_, ?_⟩
  · intro past acquired middle destroyed future reader address split returned ended
    by_contra unreleased
    have held := (acquired_until guarded split returned (fun event member released =>
        unreleased ⟨event, member, released⟩)).1
    have member := mem_of_split_later split
    have effect := event_effect member
    rw [ended] at effect
    exact effect.destroyed_free (run_guarded guarded member).1 reader held
  · intro past acquired middle later future reader address snapshot split returned live unreleased
    exact (acquired_until guarded split returned unreleased).2 snapshot live
  · intro event member reader returned answered
    have effect := event_effect member
    rw [answered] at effect
    obtain invalid | ⟨acquiring, same, _⟩ := effect.acquired_current
    · exact .inl invalid
    · exact .inr ⟨acquiring, same⟩

/-- When only live snapshots are handed over, what a thread acquired is live
until it releases it. -/
theorem held_snapshot_live (created : policyStoreCreate heap initial readerCount = .ok store)
    (initialLive : ∀ address ∈ initial, ∃ snapshot, heap address = some snapshot)
    (handsLive : ∀ event ∈ run step store moves, ∀ replacement,
      event.input = .replace (some replacement) →
        ∃ snapshot, event.before.heap replacement = some snapshot)
    (split : run step store moves = past ++ acquired :: (middle ++ later :: future))
    (returned : acquired.answer = .acquired reader (some address))
    (unreleased : ∀ event ∈ middle, event.answer ≠ .released reader) :
    ∃ snapshot, later.before.heap address = some snapshot := by
  have guarded := (policyStoreCreate_guarded created).1
  have owned : Owned store := by
    unfold policyStoreCreate at created
    split at created
    · cases created
    split at created <;> cases created
    exact ⟨initialLive _ rfl, by simp⟩
  obtain ⟨snapshot, live⟩ :=
    acquired_live guarded owned (meets_of_forall handsLive) split returned
  exact ⟨snapshot, (acquired_until guarded split returned unreleased).2 snapshot live⟩

end Interleavings

theorem one_le_readerMax : 1 ≤ policyStoreReaderMax := by decide

def oneReader : Store Nat Nat where
  heap := update (fun _ => none) 1 (some 10)
  current := 1
  slots := fun _ => none
  readerCount := 1
  readerCount_le := one_le_readerMax
  readers := fun _ => .idle
  writer := .idle

def firstReader : Fin policyStoreReaderMax := ⟨0, one_le_readerMax⟩

/-- A replacement finds a reader in its slot and waits for the release. -/
def replacedWhileHeld : List (Move Nat Nat) :=
  [.acquire firstReader, .continueAcquire firstReader,
    .continueAcquire firstReader, .continueAcquire firstReader, .build 2 20,
    .replace (some 2), .continueReplace, .continueReplace, .release firstReader,
    .continueReplace, .continueReplace]

theorem policy_store_safe_replaced :
    policyStoreCreate (update (fun _ => none) 1 (some 10)) (some 1) 1 = .ok oneReader ∧
      ((run step oneReader replacedWhileHeld).map Event.answer).drop 3 =
        [.acquired firstReader (some 1), .silent, .silent, .silent, .silent,
          .released firstReader, .silent, .destroyed 1] ∧
      ∃ event ∈ ((run step oneReader replacedWhileHeld).drop 4).take 6,
        event.answer = .released firstReader := by
  have created : policyStoreCreate (update (fun _ => none) 1 (some 10)) (some 1) 1 =
        .ok oneReader := rfl
  exact ⟨created, by decide +kernel, (policy_store_safe created replacedWhileHeld).1
      ((run step oneReader replacedWhileHeld).take 3) _
      (((run step oneReader replacedWhileHeld).drop 4).take 6) _ []
      firstReader 1 rfl rfl rfl⟩

theorem held_snapshot_live_replaced : ∃ released ∈ run step oneReader replacedWhileHeld,
    released.answer = .released firstReader ∧ released.before.current = 2 ∧
      ∃ snapshot, released.before.heap 1 = some snapshot := by
  let events := run step oneReader replacedWhileHeld
  have split : events = events.take 3 ++ _ :: ((events.drop 4).take 4 ++ _ :: _) := rfl
  refine ⟨_, mem_of_split_later split, rfl, rfl, @held_snapshot_live _ _ _ _ (some 1) 1 oneReader
    replacedWhileHeld firstReader _ _ 1 _ _ _ rfl (by simp) ?_ split rfl (by decide +kernel)⟩
  -- only one move hands something over, which was built before
  simp only [run, replacedWhileHeld, eventOf, List.forall_mem_cons]
  simpa using ⟨20, rfl⟩

end JanusGate.PolicyStore
