import JanusGate.Common.Blocklist
import JanusGate.Foundation.Runs
import Mathlib.Data.List.MinMax

/-!
# Deliveries of the alert outbox

The outbox of `alert_incident.c`: how an entry is queued, and the claims and
completions as any number of delivery workers interleave them.  Every call is
one transaction of the database; a database call that fails rolls it back.
-/

namespace JanusGate.AlertOutbox

open Runs Outcome List

def attemptsMax : Nat := 10
def claimTimeout : Nat := 120
def claimSize : Nat := 16
def deliveryErrorMax : Nat := 512

inductive DeliveryStatus where
  | pending
  | delivered
  | abandoned
  deriving DecidableEq

/-- The columns of `alert_outbox` that a delivery reads or writes. -/
structure OutboxRow where
  id : Nat
  eventUuid : Bytes
  payload : Bytes
  status : DeliveryStatus
  nextAttemptAt : Nat
  attempts : Nat
  deliveredAt : Option Nat
  lastError : Option Bytes
  claim : Option (Bytes × Nat)

structure AlertDelivery where
  id : Nat
  eventId : Bytes
  claim : Bytes
  payload : Bytes
  attempts : Nat

structure EnqueueCall where
  eventUuid : Bytes
  payload : Bytes
  now : Nat
  fault : Int := 0

/-- One call of `jg_database_alert_delivery_claim` with the results it meets. -/
structure ClaimCall where
  now : Nat
  claim : Bytes
  webhookEnabled : Except Int Bool := .ok true
  secret : Int := 0
  fault : Int := 0

structure CompleteCall where
  id : Nat
  claim : Bytes
  delivered : Bool
  now : Nat
  error : Option Bytes := none
  fault : Int := 0

def hexDigit (value : UInt8) : UInt8 := if value < 10 then 0x30 + value else 0x57 + value

def encodeHex (bytes : Bytes) : Bytes :=
  bytes.flatMap fun byte : UInt8 => [hexDigit (byte >>> 4), hexDigit (byte &&& 0x0f)]

def staleBefore (now : Nat) : Nat := if now > claimTimeout then now - claimTimeout else 0

/-- The condition of both statements of a claim. -/
def due (now : Nat) (row : OutboxRow) : Bool :=
  decide (row.status = .pending ∧ row.nextAttemptAt ≤ now) &&
    row.claim.all fun claim => decide (claim.2 ≤ staleBefore now)

def firstRow : Option OutboxRow → Except Int OutboxRow
  | none => .error eNoEnt
  | some row => .ok row

/-- An `UPDATE`, unless it changes another number of rows than one. -/
def updateOne (selected : OutboxRow → Bool) (change : OutboxRow → OutboxRow)
    (outbox : List OutboxRow) : Except Int (List OutboxRow) :=
  if outbox.countP selected ≠ 1 then .error eAgain
  else .ok (outbox.map fun row => if selected row then change row else row)

/-- The key that SQLite gives a new row. -/
def nextId (outbox : List OutboxRow) : Nat := (outbox.map OutboxRow.id).foldr max 0 + 1

/-- `enqueue_payload`, behind the check of the clock that both of its callers make. -/
def enqueuePayload (outbox : List OutboxRow) (call : EnqueueCall) : Except Int (List OutboxRow) :=
  if call.now = 0 ∨ call.now > int64Max then .error eInval
  else if call.fault ≠ 0 then .error call.fault
  else .ok (outbox ++ [{
    id := nextId outbox
    eventUuid := call.eventUuid
    payload := call.payload
    status := .pending
    nextAttemptAt := call.now
    attempts := 0
    deliveredAt := none
    lastError := none
    claim := none }])

section Calls

-- the result of `read_text` on a stored payload, which the JSON library decides
variable (readText : Bytes → Int)

def alertDeliveryNext (outbox : List OutboxRow) (now : Nat) (claim : Bytes) (fault : Int) :
    Except Int (AlertDelivery × List OutboxRow) := do
  if now > int64Max then throw eInval
  if fault ≠ 0 then throw fault
  let row ← firstRow (outbox.find? (due now))
  if row.eventUuid.length ≠ claimSize then throw eIlSeq
  if readText row.payload ≠ 0 then throw (readText row.payload)
  if row.attempts ≥ attemptsMax then throw eIlSeq
  let claimed ← updateOne (fun other => decide (other.id = row.id) && due now other)
    (fun other => { other with claim := some (claim, now) }) outbox
  pure (⟨row.id, encodeHex row.eventUuid, claim, row.payload, row.attempts⟩, claimed)

def alertDeliveryClaim (outbox : List OutboxRow) (call : ClaimCall) :
    Except Int (AlertDelivery × List OutboxRow) := do
  if !(← call.webhookEnabled) then throw eNoEnt
  if call.secret ≠ 0 then throw call.secret
  alertDeliveryNext readText outbox call.now call.claim call.fault

variable (call : CompleteCall)

def CompleteCall.valid : Bool :=
  decide (call.id ≠ 0 ∧ call.id ≤ int64Max ∧ call.now ≤ int64Max) &&
    (call.delivered || call.error.any fun error =>
      decide (error.length ≤ deliveryErrorMax) && Blocklist.utf8TextValid error false)

/-- The claim that a completion names is the one on record. -/
def CompleteCall.holds (row : OutboxRow) : Bool :=
  decide (row.id = call.id ∧ row.status = .pending ∧ row.claim.map Prod.fst = some call.claim)

variable (attempts : Nat)

def backOff : Nat := min (30 <<< (if attempts > 7 then 7 else attempts - 1)) 3600

def CompleteCall.outcome : DeliveryStatus :=
  if call.delivered then .delivered
  else if attempts ≥ attemptsMax then .abandoned
  else .pending

def CompleteCall.delay : Nat := if call.outcome attempts = .pending then backOff attempts else 0

def CompleteCall.finish (row : OutboxRow) : OutboxRow :=
  { row with
    status := call.outcome attempts
    nextAttemptAt := call.now + call.delay attempts
    attempts := attempts
    deliveredAt := if call.delivered then some call.now else none
    lastError := if call.delivered then none else call.error
    claim := none }

def alertDeliveryComplete (outbox : List OutboxRow) (call : CompleteCall) :
    Except Int (List OutboxRow) := do
  if !call.valid then throw eInval
  if call.fault ≠ 0 then throw call.fault
  let row ← firstRow (outbox.find? call.holds)
  if row.attempts ≥ attemptsMax then throw eIlSeq
  if call.delay (row.attempts + 1) > int64Max - call.now then throw eOverflow
  updateOne call.holds (call.finish (row.attempts + 1)) outbox

inductive Move where
  | claim (call : ClaimCall)
  | complete (call : CompleteCall)

def Move.now : Move → Nat
  | .claim call => call.now
  | .complete call => call.now

def Move.token : Move → Option Bytes
  | .claim call => some call.claim
  | .complete _ => none

abbrev ClockOrdered (moves : List Move) : Prop :=
  moves.Pairwise fun earlier later => earlier.now ≤ later.now

abbrev TokensUnique (moves : List Move) : Prop :=
  moves.Pairwise fun earlier later => ∀ token ∈ earlier.token, later.token ≠ some token

inductive Answer where
  | refused (status : Int)
  | claimed (delivery : AlertDelivery)
  | completed

/-- A call that fails is rolled back. -/
def step (outbox : List OutboxRow) : Move → List OutboxRow × Answer
  | .claim call =>
    match alertDeliveryClaim readText outbox call with
    | .error status => (outbox, .refused status)
    | .ok (delivery, later) => (later, .claimed delivery)
  | .complete call =>
    match alertDeliveryComplete outbox call with
    | .error status => (outbox, .refused status)
    | .ok later => (later, .completed)

end Calls

/-! ## What one call does -/

/-- What a successful call does to the row that it selects. -/
inductive Changes (row : OutboxRow) : Move → Answer → OutboxRow → Prop
  | claimed (free : due call.now row = true)
      (names : delivery.id = row.id) (owns : delivery.claim = call.claim) :
      Changes row (.claim call) (.claimed delivery)
        { row with claim := some (call.claim, call.now) }
  | completed (held : call.holds row = true) (left : row.attempts < attemptsMax) :
      Changes row (.complete call) .completed (call.finish (row.attempts + 1) row)

def Distinct (outbox : List OutboxRow) : Prop := (outbox.map OutboxRow.id).Nodup

theorem Changes.id_eq (changes : Changes row move answer later) : later.id = row.id := by
  cases changes <;> rfl

theorem Changes.pending (changes : Changes row move answer later) : row.status = .pending := by
  cases changes with
  | claimed free => exact (of_decide_eq_true (Bool.and_eq_true_iff.mp free).1).1
  | completed held => exact (of_decide_eq_true held).2.1

theorem firstRow_eq_ok : firstRow found = .ok row ↔ found = some row := by
  cases found <;> simp [firstRow]

section

variable (distinct : Distinct outbox)

include distinct

theorem updateOne_ok (member : row ∈ outbox) (picked : selected row = true)
    (alone : ∀ other, selected other = true → other.id = row.id)
    (done : updateOne selected change outbox = .ok updated) :
    updated = outbox.map fun other => if other.id = row.id then change row else other := by
  obtain ⟨_, made⟩ := guard_eq_ok.mp done
  obtain rfl := Except.ok.inj made
  apply map_congr_left
  intro other others
  by_cases same : other.id = row.id
  · obtain rfl := inj_on_of_nodup_map distinct others member same
    rw [if_pos picked, if_pos rfl]
  · rw [if_neg fun chosen => same (alone other chosen), if_neg same]

/-- A call is refused and leaves the table, or it changes one row. -/
theorem step_effect (move : Move) :
    (∃ status, step readText outbox move = (outbox, .refused status)) ∨
      ∃ row ∈ outbox, ∃ answer later, Changes row move answer later ∧
        step readText outbox move =
          (outbox.map fun other => if other.id = row.id then later else other, answer) := by
  cases move with
  | claim call =>
    rw [step]
    cases claimed : alertDeliveryClaim readText outbox call with
    | error status => exact .inl ⟨status, rfl⟩
    | ok made =>
      simp only [alertDeliveryClaim, alertDeliveryNext, bind_eq_ok, throw_bind,
        guard_eq_ok, pure_eq_ok, firstRow_eq_ok, Except.ok.injEq] at claimed
      obtain ⟨_, _, _, _, _, _, row, found, _, _, _, updated, changed, rfl⟩ := claimed
      have free := find?_some found
      rw [updateOne_ok distinct (mem_of_find?_eq_some found) (by simp [free]) (by simp_all) changed]
      exact .inr ⟨row, mem_of_find?_eq_some found, _, _, .claimed free rfl rfl, rfl⟩
  | complete call =>
    rw [step]
    cases completed : alertDeliveryComplete outbox call with
    | error status => exact .inl ⟨status, rfl⟩
    | ok updated =>
      simp only [alertDeliveryComplete, bind_eq_ok, throw_bind,
        guard_eq_ok, firstRow_eq_ok] at completed
      obtain ⟨_, _, row, found, left, _, changed⟩ := completed
      have held := find?_some found
      have sameId : ∀ other, call.holds other = true → other.id = call.id :=
        fun other holds => (of_decide_eq_true holds).1
      rw [updateOne_ok distinct (mem_of_find?_eq_some found) held
        (fun other holds => (sameId other holds).trans (sameId row held).symm) changed]
      exact .inr ⟨row, mem_of_find?_eq_some found, _, _, .completed held (by omega), rfl⟩

theorem step_distinct (move : Move) : Distinct (step readText outbox move).1 := by
  rcases step_effect distinct move with ⟨_, same⟩ | ⟨row, _, _, later, changes, made⟩
  · rwa [same]
  rw [made, Distinct, map_map]
  have ids : outbox.map (OutboxRow.id ∘ fun other => if other.id = row.id then later else other) =
      outbox.map OutboxRow.id := by
    apply map_congr_left
    intro other _
    by_cases same : other.id = row.id <;> simp [same, changes.id_eq]
  rwa [ids]

/-- A row is as it was, or it is the one that the call has changed. -/
theorem mem_step (member : later ∈ (step readText outbox move).1) :
    later ∈ outbox ∨ ∃ row ∈ outbox, Changes row move (step readText outbox move).2 later := by
  rcases step_effect distinct move with ⟨_, same⟩ | ⟨row, stored, _, changed, changes, made⟩
  · rw [same] at member
    exact .inl member
  rw [made] at member ⊢
  obtain ⟨other, others, rfl⟩ := mem_map.mp member
  split
  · exact .inr ⟨row, stored, changes⟩
  · exact .inl others

end

theorem Changes.claim (changes : Changes row move (.claimed delivery) later) :
    ∃ call, move = .claim call ∧ due call.now row = true ∧ delivery.id = row.id ∧
      delivery.claim = call.claim ∧ later.claim = some (call.claim, call.now) := by
  cases changes with
  | claimed free names owns => exact ⟨_, rfl, free, names, owns, rfl⟩

theorem Changes.attempts_le (changes : Changes row move answer later)
    (bounded : row.attempts ≤ attemptsMax) : later.attempts ≤ attemptsMax := by
  cases changes with
  | claimed => exact bounded
  | completed _ left => exact left

theorem backOff_pos (attempts : Nat) : 0 < backOff attempts := by
  rw [backOff, Nat.shiftLeft_eq]
  exact Nat.lt_min.mpr ⟨Nat.mul_pos (by decide) (Nat.two_pow_pos _), by decide⟩

theorem Changes.scheduled (changes : Changes row move answer later)
    (scheduled : row.status = .pending → row.nextAttemptAt ≠ 0)
    (pending : later.status = .pending) : later.nextAttemptAt ≠ 0 := by
  cases changes with
  | claimed => exact scheduled pending
  | @completed call =>
    have delayed : call.delay (row.attempts + 1) = backOff (row.attempts + 1) := if_pos pending
    have positive := backOff_pos (row.attempts + 1)
    rw [CompleteCall.finish, delayed]
    dsimp only
    omega

theorem step_finished (distinct : Distinct outbox) (stored : row ∈ outbox)
    (done : row.status ≠ .pending) : row ∈ (step readText outbox move).1 := by
  rcases step_effect distinct move with ⟨_, same⟩ | ⟨other, others, _, _, changes, made⟩
  · rwa [same]
  have apart : row.id ≠ other.id := by
    intro sameId
    obtain rfl := inj_on_of_nodup_map distinct stored others sameId
    exact done changes.pending
  rw [made]
  exact mem_map.mpr ⟨row, stored, if_neg apart⟩

/-! ## The tables that the calls lead to -/

/-- What every call keeps: the keys differ, no entry has more attempts than the maximum, and a
pending one waits for a time after clock zero. -/
structure Consistent (outbox : List OutboxRow) : Prop where
  distinct : Distinct outbox
  bounded : ∀ row ∈ outbox, row.attempts ≤ attemptsMax
  scheduled : ∀ row ∈ outbox, row.status = .pending → row.nextAttemptAt ≠ 0

theorem consistent_nil : Consistent [] := ⟨.nil, nofun, nofun⟩

theorem id_lt_nextId (stored : row ∈ outbox) : row.id < nextId outbox :=
  Nat.lt_succ_of_le (le_max_of_le' 0 (mem_map_of_mem stored) le_rfl)

theorem Consistent.enqueue (consistent : Consistent outbox)
    (queued : enqueuePayload outbox call = .ok longer) : Consistent longer := by
  obtain ⟨clock, _, made⟩ := (guard_eq_ok.trans (and_congr_right fun _ => guard_eq_ok)).mp queued
  obtain rfl := Except.ok.inj made
  refine ⟨?_, ?_, ?_⟩
  · rw [Distinct, map_append]
    refine consistent.distinct.append (nodup_singleton _) ?_
    rintro _ used new
    obtain ⟨row, stored, rfl⟩ := mem_map.mp used
    exact absurd (mem_singleton.mp new) (Nat.ne_of_lt (id_lt_nextId stored))
  · simpa [or_imp, forall_and] using consistent.bounded
  · simp only [mem_append, mem_singleton, or_imp, forall_and, forall_eq]
    exact ⟨consistent.scheduled, fun _ => (not_or.mp clock).1⟩

theorem Consistent.step (consistent : Consistent outbox) (move : Move) :
    Consistent (step readText outbox move).1 := by
  refine ⟨step_distinct consistent.distinct move, ?_, ?_⟩
  all_goals
    intro later member
    rcases mem_step consistent.distinct member with same | ⟨row, stored, changes⟩
  · exact consistent.bounded later same
  · exact changes.attempts_le (consistent.bounded row stored)
  · exact consistent.scheduled later same
  · exact changes.scheduled (consistent.scheduled row stored)

/-! ## What holds in every interleaving -/

abbrev OutboxEvent := Event (List OutboxRow) Move Answer

variable (events : List OutboxEvent)

/-- Two claims of an entry are a time-out apart, unless the first has been
completed. -/
def ClaimsApart : Prop :=
  ∀ past first middle second future, events = past ++ first :: (middle ++ second :: future) →
    ∀ delivery again, first.answer = .claimed delivery → second.answer = .claimed again →
      again.id = delivery.id → second.input.now < first.input.now + claimTimeout →
      ∃ event ∈ middle, event.answer = .completed ∧ ∃ call, event.input = .complete call ∧
        call.id = delivery.id ∧ call.claim = delivery.claim

/-- A completion whose claim has been taken over finds no row. -/
def SupersededRefused : Prop :=
  ∀ past first middle second rest last future,
    events = past ++ first :: (middle ++ second :: (rest ++ last :: future)) →
    ∀ delivery again call, first.answer = .claimed delivery → second.answer = .claimed again →
      again.id = delivery.id → last.input = .complete call → call.id = delivery.id →
      call.claim = delivery.claim → last.after = last.before ∧
        (call.valid = true → call.fault = 0 → last.answer = .refused eNoEnt)

/-- An entry whose delivery has failed is not claimed before its back-off. -/
def BackOffKept : Prop :=
  ∀ past first middle second future, events = past ++ first :: (middle ++ second :: future) →
    ∀ call row delivery, first.input = .complete call → first.answer = .completed →
      row ∈ first.after → row.id = call.id → row.status = .pending →
      second.answer = .claimed delivery → delivery.id = call.id →
        call.now + backOff row.attempts ≤ second.input.now

/-- A delivered or abandoned entry stays as it is. -/
def FinishedKept : Prop :=
  ∀ past event future, events = past ++ event :: future → ∀ row ∈ event.before,
    row.status ≠ .pending → ∀ later ∈ event :: future, row ∈ later.after

theorem due_claim (free : due now row = true) (claimed : row.claim = some (token, claimedAt))
    (started : claimedAt ≠ 0) : claimedAt + claimTimeout ≤ now := by
  simp only [due, claimed, Bool.and_eq_true, Option.all_some, decide_eq_true_eq] at free
  have stale := free.2
  unfold staleBefore at stale
  split at stale <;> omega

theorem due_next (free : due now row = true) : row.nextAttemptAt ≤ now :=
  (of_decide_eq_true (Bool.and_eq_true_iff.mp free).1).2

theorem step_missing (none : outbox.find? call.holds = none) :
    (step readText outbox (.complete call)).1 = outbox ∧ (call.valid = true → call.fault = 0 →
      (step readText outbox (.complete call)).2 = .refused eNoEnt) := by
  rw [step, alertDeliveryComplete, none]
  cases call.valid with
  | false => exact ⟨rfl, nofun⟩
  | true =>
    by_cases fault : call.fault = 0
    · rw [fault]
      exact ⟨rfl, fun _ _ => rfl⟩
    · simp [fault, throw_bind]

theorem run_consistent (consistent : Consistent outbox)
    (member : event ∈ run (step readText) outbox moves) :
    Consistent event.before ∧ Consistent event.after :=
  invariant_always Consistent (fun _ move kept => kept.step move) consistent member

section Runs

variable (distinct : Distinct outbox)

include distinct

section

variable (member : event ∈ run (step readText) outbox moves)

include member

theorem run_distinct : Distinct event.before ∧ Distinct event.after :=
  invariant_always Distinct (fun _ move kept => step_distinct kept move) distinct member

/-- The row that a call which was not refused has changed. -/
theorem event_row (done : ∀ status, event.answer ≠ .refused status) :
    ∃ row ∈ event.before, ∃ changed, Changes row event.input event.answer changed ∧
      ∀ later ∈ event.after, later.id = row.id → later = changed := by
  have made := event_eq member
  rw [made] at done ⊢
  dsimp only [eventOf] at done ⊢
  rcases step_effect (run_distinct distinct member).1 event.input with
    ⟨status, same⟩ | ⟨row, stored, _, changed, changes, after⟩
  · exact absurd (congrArg Prod.snd same) (done status)
  rw [after]
  refine ⟨row, stored, changed, changes, ?_⟩
  intro later written sameId
  obtain ⟨other, _, rfl⟩ := mem_map.mp written
  by_cases same : other.id = row.id
  · rw [if_pos same]
  · rw [if_neg same] at sameId
    exact absurd sameId same

theorem run_claimed (answered : event.answer = .claimed delivery) :
    ∃ call, event.input = .claim call ∧ delivery.claim = call.claim ∧
      (∃ row ∈ event.before, row.id = delivery.id ∧ due call.now row = true) ∧
      ∀ row ∈ event.after, row.id = delivery.id → row.claim = some (call.claim, call.now) := by
  obtain ⟨row, stored, changed, changes, only⟩ := event_row distinct member (by simp [answered])
  rw [answered] at changes
  obtain ⟨call, isClaim, free, names, owns, token⟩ := changes.claim
  refine ⟨call, isClaim, owns, ⟨row, stored, names.symm, free⟩, ?_⟩
  intro later written sameId
  rw [only later written (sameId.trans names), token]

end

/-- What the changes of a stretch preserve holds of every row behind it. -/
theorem carried (P : OutboxRow → Prop) (condition : Move → Answer → Prop)
    (stable : ∀ move answer row later, Changes row move answer later →
      condition move answer → P row → P later)
    (split : run (step readText) outbox moves = past ++ first :: (middle ++ last :: future))
    (holds : ∀ row ∈ first.after, P row)
    (meets : ∀ event ∈ middle, condition event.input event.answer) :
    ∀ row ∈ last.before, P row := by
  have start := (run_distinct distinct (mem_of_split split)).2
  refine ((carried_along (fun state move (kept : Distinct state ∧ ∀ row ∈ state, P row) met =>
    ⟨step_distinct kept.1 move, ?_⟩) split ⟨start, holds⟩ meets).2 last future rfl).2
  intro later member
  rcases mem_step kept.1 member with same | ⟨row, stored, changes⟩
  · exact kept.2 later same
  · exact stable move _ row later changes met (kept.2 row stored)

theorem run_finishedKept : FinishedKept (run (step readText) outbox moves) := by
  intro past event future split row stored done later member
  obtain ⟨state, inputs, kept, rest⟩ :=
    run_suffix (fun state move (kept : Distinct state) => step_distinct kept move) distinct split
  obtain ⟨_, _, _, rfl, _⟩ := run_eq_cons rest.symm
  rw [rest] at member
  exact (invariant_always (fun state => Distinct state ∧ row ∈ state)
    (fun _ move held => ⟨step_distinct held.1 move, step_finished held.1 held.2 done⟩)
    ⟨kept, stored⟩ member).2.2

theorem run_superseded (unique : TokensUnique moves) :
    SupersededRefused (run (step readText) outbox moves) := by
  intro past first middle second rest last future split delivery again call answered claimed
    sameId isComplete names owns
  obtain ⟨claim, isClaim, firstOwns, _⟩ := run_claimed distinct (mem_of_split split) answered
  have fresh : ∀ event ∈ middle ++ second :: (rest ++ last :: future),
      event.input.token ≠ some delivery.claim := by
    have apart : (run (step readText) outbox moves).Pairwise fun earlier later =>
        ∀ token ∈ earlier.input.token, later.input.token ≠ some token := pairwise_events unique
    rw [split, pairwise_append, pairwise_cons] at apart
    exact fun event member => apart.2.1.1 event member _ (by rw [isClaim, firstOwns]; rfl)
  have regroup : run (step readText) outbox moves =
      (past ++ first :: middle) ++ second :: (rest ++ last :: future) := by
    simp [split]
  obtain ⟨other, isOther, _, _, holds⟩ := run_claimed distinct (mem_of_split regroup) claimed
  have kept := carried distinct
    (fun row => row.id = delivery.id → row.claim.map Prod.fst ≠ some delivery.claim)
    (fun move _ => move.token ≠ some delivery.claim)
    (fun _ _ _ _ changes met _ _ => by
      cases changes with
      | claimed => exact met
      | completed => simp [CompleteCall.finish])
    regroup
    (fun row member same => by
      rw [holds row member (same.trans sameId.symm)]
      simpa [isOther, Move.token] using fresh second (by simp))
    (fun event member => fresh event (by simp [member]))
  have none : last.before.find? call.holds = none := by
    refine find?_eq_none.mpr fun row member held => ?_
    obtain ⟨sameRow, _, token⟩ := of_decide_eq_true held
    exact kept row member (sameRow.trans names) (token.trans (congrArg some owns))
  rw [event_eq (mem_of_split_later regroup)]
  simpa [eventOf, isComplete] using step_missing none

variable (ordered : ClockOrdered moves)

omit distinct in
include ordered in
theorem run_clock
    (split : run (step readText) outbox moves = past ++ first :: (middle ++ last :: future)) :
    ∀ event ∈ middle, event.input.now ≤ last.input.now := by
  have clock : (run (step readText) outbox moves).Pairwise fun earlier later =>
      earlier.input.now ≤ later.input.now := pairwise_events ordered
  rw [split, pairwise_append, pairwise_cons, pairwise_append] at clock
  exact fun event member => clock.2.1.2.2.2 event member last (by simp)

include ordered

omit distinct in
theorem run_claimsApart (consistent : Consistent outbox) :
    ClaimsApart (run (step readText) outbox moves) := by
  have distinct := consistent.distinct
  intro past first middle second future split delivery again answered claimed sameId young
  by_contra unfinished
  obtain ⟨call, isClaim, owns, ⟨earlier, listed, _, taken⟩, holds⟩ :=
    run_claimed distinct (mem_of_split split) answered
  obtain ⟨other, isOther, _, ⟨row, stored, rowId, free⟩, _⟩ :=
    run_claimed distinct (mem_of_split_later split) claimed
  -- A claim at clock zero would need an entry that waits for clock zero.
  have positive : call.now ≠ 0 := by
    have scheduled := (run_consistent consistent (mem_of_split split)).1.scheduled earlier listed
    have waited := of_decide_eq_true (Bool.and_eq_true_iff.mp taken).1
    have positive := scheduled waited.1
    omega
  -- As long as the claim is young, only its own completion can end it.
  have kept := carried distinct
    (fun row => row.id = delivery.id → row.claim = some (call.claim, call.now))
    (fun move answer => move.now < call.now + claimTimeout ∧
      ¬ (answer = .completed ∧ ∃ made, move = .complete made ∧ made.id = delivery.id ∧
        made.claim = delivery.claim))
    (fun _ _ _ _ changes met kept same => by
      cases changes with
      | claimed free => exact absurd met.1 (Nat.not_lt.mpr (due_claim free (kept same) positive))
      | completed held =>
        obtain ⟨sameRow, _, token⟩ := of_decide_eq_true held
        rw [kept same] at token
        exact absurd ⟨rfl, _, rfl, sameRow.symm.trans same,
          (Option.some.inj token).symm.trans owns.symm⟩ met.2)
    split holds
    (fun event member => ⟨by
        have before := run_clock ordered split event member
        rw [isClaim] at young
        exact Nat.lt_of_le_of_lt before young,
      fun completed => unfinished ⟨event, member, completed⟩⟩)
  have late := due_claim free (kept row stored (rowId.trans sameId)) positive
  rw [isClaim, isOther] at young
  exact absurd young (Nat.not_lt.mpr late)

theorem run_backOff : BackOffKept (run (step readText) outbox moves) := by
  intro past first middle second future split call row delivery isComplete answered stored names
    pending claimed sameId
  by_contra early
  obtain ⟨other, isOther, _, ⟨due, atDue, dueId, free⟩, _⟩ :=
    run_claimed distinct (mem_of_split_later split) claimed
  obtain ⟨old, _, changed, changes, only⟩ :=
    event_row distinct (mem_of_split split) (by simp [answered])
  rw [isComplete, answered] at changes
  cases changes with
  | completed held left =>
    have oldId := (of_decide_eq_true held).1
    obtain rfl := only row stored (names.trans oldId.symm)
    have delayed : call.delay (old.attempts + 1) = backOff (old.attempts + 1) := if_pos pending
    -- Without a claim no completion can move the time of the next attempt.
    have kept := carried distinct
      (fun row => row.id = call.id → row.claim = none ∧
        call.now + backOff (old.attempts + 1) ≤ row.nextAttemptAt)
      (fun move _ => move.now < call.now + backOff (old.attempts + 1))
      (fun _ _ _ _ changes met kept same => by
        cases changes with
        | claimed free => exact absurd met (Nat.not_lt.mpr ((kept same).2.trans (due_next free)))
        | completed held =>
          have token := (of_decide_eq_true held).2.2
          rw [(kept same).1] at token
          cases token)
      split
      (fun later written same => by
        obtain rfl := only later written (same.trans oldId.symm)
        exact ⟨rfl, by rw [← delayed]; rfl⟩)
      (fun event member => Nat.lt_of_le_of_lt (run_clock ordered split event member)
        (Nat.lt_of_not_le early))
    have late := (kept due atDue (dueId.trans sameId)).2.trans (due_next free)
    rw [isOther] at early
    exact early late

end Runs

/-- In every interleaving the leases of the outbox are kept. -/
theorem outbox_leases_kept {readText : Bytes → Int} {outbox : List OutboxRow} {moves : List Move}
    (consistent : Consistent outbox) (ordered : ClockOrdered moves) (unique : TokensUnique moves) :
    let events := run (step readText) outbox moves
    ClaimsApart events ∧ (∀ event ∈ events, ∀ row ∈ event.after, row.attempts ≤ attemptsMax) ∧
      FinishedKept events ∧ SupersededRefused events ∧ BackOffKept events :=
  ⟨run_claimsApart ordered consistent,
    fun _ member => (run_consistent consistent member).2.bounded,
    run_finishedKept consistent.distinct, run_superseded consistent.distinct unique,
    run_backOff consistent.distinct ordered⟩

def sampleEvent : EnqueueCall where
  eventUuid := replicate 16 7
  payload := [0x7b, 0x7d]
  now := 5

def sampleOutbox : List OutboxRow := (enqueuePayload [] sampleEvent).toOption.getD []

def sampleMoves : List Move :=
  [.claim { now := 10, claim := [1] },
    .complete { id := 1, claim := [1], delivered := false, now := 20, error := some [0x78] },
    .claim { now := 49, claim := [2] }, .claim { now := 50, claim := [3] }]

theorem outbox_leases_kept_retry :
    ((run (step fun _ => 0) sampleOutbox sampleMoves).map fun event =>
        event.answer matches .claimed _) = [true, false, false, true] ∧
      BackOffKept (run (step fun _ => 0) sampleOutbox sampleMoves) := by
  have queued : enqueuePayload [] sampleEvent = .ok sampleOutbox := rfl
  exact ⟨by decide,
    (outbox_leases_kept (consistent_nil.enqueue queued) (by decide) (by decide)).2.2.2.2⟩

end JanusGate.AlertOutbox
