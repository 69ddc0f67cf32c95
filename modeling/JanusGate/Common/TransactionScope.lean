import JanusGate.Common.Checked

/-!
# Nested transaction scopes

The scope counter of `database.c` on top of the connection that it counts for.
A statement succeeds, fails, or fails and ends the transaction, which SQLite
does on some errors; a plan says which.  An operation opens a scope, writes and
calls other operations, and stops at its first error.
-/

namespace JanusGate.Scope

open List

def uintMax : Nat := 2 ^ 32 - 1

inductive Statement where
  | begin
  | write
  | commit
  | rollback
  deriving DecidableEq

inductive StatementResult where
  | done
  | failed (status : Int)
  | ended (status : Int)
  deriving DecidableEq

/-- What becomes of each statement, by its kind and its number. -/
abbrev Plan := Statement → Nat → StatementResult

/-- A connection and its scopes; `clock` counts the statements executed so far. -/
structure Database (ω : Type) where
  stored : List ω
  pending : List ω := []
  autocommit : Bool := true
  transactionDepth : Nat := 0
  transactionFailed : Bool := false
  clock : Nat := 0
  deriving DecidableEq

section

variable {ω : Type} (plan : Plan) (database : Database ω)

def execute (statement : Statement) (change : Database ω → Database ω) :
    Except Int Unit × Database ω :=
  let next := { database with clock := database.clock + 1 }
  match plan statement database.clock with
  | .done => (.ok (), change next)
  | .failed status => (.error status, next)
  | .ended status => (.error status, { next with pending := [], autocommit := true })

/-- Outside of a transaction a write is stored at once. -/
def executeWrite (row : ω) : Except Int Unit × Database ω :=
  execute plan database .write fun next =>
    if next.autocommit then { next with stored := next.stored ++ [row] }
    else { next with pending := next.pending ++ [row] }

def transactionBegin : Except Int Unit × Database ω :=
  if database.transactionDepth = uintMax then (.error eOverflow, database)
  else if database.transactionFailed then (.error eIo, database)
  else if (database.transactionDepth == 0) != database.autocommit then
    (.error eIo, { database with transactionFailed := true })
  else if database.transactionDepth = 0 then
    execute plan database .begin fun next =>
      { next with autocommit := false, transactionDepth := 1 }
  else (.ok (), { database with transactionDepth := database.transactionDepth + 1 })

def transactionRecover : Except Int Unit × Database ω :=
  let (result, after) :=
    if database.autocommit then (.ok (), database)
    else execute plan database .rollback fun next => { next with pending := [], autocommit := true }
  if after.autocommit then
    (.ok (), { after with transactionDepth := 0, transactionFailed := false })
  else (result.bind fun _ => .error eIo, { after with transactionFailed := true })

def transactionCommit : Except Int Unit × Database ω :=
  if database.transactionDepth = 0 then (.error eInval, database)
  else if database.transactionFailed then (.error eIo, database)
  else if database.autocommit then (.error eIo, { database with transactionDepth := 0 })
  else if database.transactionDepth > 1 then
    (.ok (), { database with transactionDepth := database.transactionDepth - 1 })
  else
    match execute plan database .commit fun next => { next with
      stored := next.stored ++ next.pending, pending := [], autocommit := true } with
    | (.ok _, after) => (.ok (), { after with transactionDepth := 0 })
    | (.error status, after) =>
      let recovered := transactionRecover plan after
      (.error (if recovered.1.isOk then status else eIo), recovered.2)

def transactionRollback : Except Int Unit × Database ω := transactionRecover plan database

end

/-! ## Operations -/

structure Style where
  rollsBackUnopened : Bool
  rollsBackUncommitted : Bool
  deriving DecidableEq

inductive Operation (ω : Type) where
  | done
  | write (row : ω) (rest : Operation ω)
  | call (style : Style) (inner rest : Operation ω)
  deriving DecidableEq

def Operation.writes {ω : Type} : Operation ω → List ω
  | .done => []
  | .write row rest => row :: rest.writes
  | .call _ inner rest => inner.writes ++ rest.writes

/-- An operation with its scope around the given body. -/
def scope {ω : Type} (plan : Plan) (style : Style)
    (body : Database ω → Except Int Unit × Database ω) (database : Database ω) :
    Except Int Unit × Database ω :=
  match transactionBegin plan database with
  | (.error status, unopened) =>
    (.error status, if style.rollsBackUnopened then (transactionRollback plan unopened).2
      else unopened)
  | (.ok _, opened) =>
    match body opened with
    | (.error status, stopped) => (.error status, (transactionRollback plan stopped).2)
    | (.ok _, written) =>
      match transactionCommit plan written with
      | (.error status, uncommitted) =>
        (.error status, if style.rollsBackUncommitted then
          (transactionRollback plan uncommitted).2 else uncommitted)
      | (.ok _, committed) => (.ok (), committed)

def Operation.run {ω : Type} (plan : Plan) : Operation ω → Database ω → Except Int Unit × Database ω
  | .done, database => (.ok (), database)
  | .write row rest, database =>
    match executeWrite plan database row with
    | (.error status, after) => (.error status, after)
    | (.ok _, after) => rest.run plan after
  | .call style inner rest, database =>
    match scope plan style (fun opened => inner.run plan opened) database with
    | (.error status, after) => (.error status, after)
    | (.ok _, after) => rest.run plan after

/-! ## Inside a transaction -/

variable {ω : Type} {plan : Plan} {style : Style} {stored pending writes : List ω}
  {depth clock : Nat}

/-- The last statement was a ROLLBACK that failed. -/
def RollbackFailed (plan : Plan) (database : Database ω) : Prop :=
  database.transactionFailed = true ∧ ∃ number status, database.clock = number + 1 ∧
    plan .rollback number = .failed status

def Settled (database : Database ω) : Prop :=
  database.transactionDepth = 0 ∧ database.autocommit = true

theorem transactionRecover_effect :
    (transactionRecover plan database).2.stored = database.stored ∧
      (Settled (transactionRecover plan database).2 ∨
        RollbackFailed plan (transactionRecover plan database).2) := by
  unfold transactionRecover execute
  cases idle : database.autocommit with
  | true => simp [Settled, idle]
  | false =>
    cases rolled : plan .rollback database.clock with
    | done | ended => exact ⟨rfl, .inl ⟨rfl, rfl⟩⟩
    | failed status => exact ⟨by simp, .inr ⟨by simp, _, status, by simp, rolled⟩⟩

/-- A connection with an open transaction inside of `depth + 1` scopes. -/
def opened (stored pending : List ω) (depth clock : Nat) : Database ω :=
  { stored, pending, autocommit := false, transactionDepth := depth + 1, clock }

/-- A part of an operation adds its writes to the open transaction, or fails and
stores nothing. -/
def Added (stored pending : List ω) (depth : Nat) : Except Int Unit × Database ω → Prop
  | (.ok _, after) => ∃ clock, after = opened stored pending depth clock
  | (.error _, after) => after.stored = stored

theorem executeWrite_added (row : ω) :
    Added stored (pending ++ [row]) depth
      (executeWrite plan (opened stored pending depth clock) row) := by
  unfold executeWrite execute
  cases plan .write (opened stored pending depth clock).clock with
  | done => exact ⟨_, rfl⟩
  | failed | ended => rfl

theorem scope_added (added : ∀ depth, Added stored (pending ++ writes) depth
      (body (opened stored pending depth clock))) :
    Added stored (pending ++ writes) depth
      (scope plan style body (opened stored pending depth clock)) := by
  have recovered : ∀ after : Database ω, after.stored = stored →
      (transactionRollback plan after).2.stored = stored :=
    fun after same => transactionRecover_effect.1.trans same
  unfold scope
  by_cases overflow : depth + 1 = uintMax
  · have refused : transactionBegin plan (opened stored pending depth clock) =
        (.error eOverflow, opened stored pending depth clock) := if_pos overflow
    rw [refused]
    dsimp only [Added]
    split
    · exact recovered _ rfl
    · rfl
  · have begun : transactionBegin plan (opened stored pending depth clock) =
        (.ok (), opened stored pending (depth + 1) clock) := if_neg overflow
    have inner := added (depth + 1)
    rw [begun]
    dsimp only
    generalize body (opened stored pending (depth + 1) clock) = ran at inner ⊢
    obtain ⟨_ | _, after⟩ := ran
    · exact recovered after inner
    · obtain ⟨_, rfl⟩ := inner
      exact ⟨_, rfl⟩

theorem Operation.run_added (operation : Operation ω) :
    Added stored (pending ++ operation.writes) depth
      (operation.run plan (opened stored pending depth clock)) := by
  induction operation generalizing pending depth clock with
  | done => exact ⟨clock, by rw [writes, append_nil]⟩
  | write row rest ih =>
    have first := @executeWrite_added ω plan stored pending depth clock row
    unfold run
    generalize executeWrite plan (opened stored pending depth clock) row = ran at first ⊢
    obtain ⟨_ | _, after⟩ := ran
    · exact first
    · obtain ⟨_, rfl⟩ := first
      rw [writes, append_cons]
      exact ih
  | call style inner rest innerIh restIh =>
    have first := @scope_added ω plan style stored pending inner.writes depth clock
      (fun opened => inner.run plan opened) fun _ => innerIh
    unfold run
    generalize scope plan style (fun opened => inner.run plan opened)
      (opened stored pending depth clock) = ran at first ⊢
    obtain ⟨_ | _, after⟩ := ran
    · exact first
    · obtain ⟨_, rfl⟩ := first
      rw [writes, ← append_assoc]
      exact restIh

/-! ## Whole trees -/

/-- What an outermost scope leaves: all writes or none, and no transaction unless a ROLLBACK fails.
-/
def Resolved (plan : Plan) (stored writes : List ω) : Except Int Unit × Database ω → Prop
  | (result, after) => after.stored = (if result.isOk then stored ++ writes else stored) ∧
      (Settled after ∨ RollbackFailed plan after)

theorem Resolved.recovered (status : Int) (same : database.stored = stored) :
    Resolved plan stored writes (.error status, (transactionRecover plan database).2) :=
  ⟨transactionRecover_effect.1.trans same, transactionRecover_effect.2⟩

theorem transactionCommit_resolved :
    Resolved plan stored pending (transactionCommit plan (opened stored pending 0 clock)) := by
  unfold transactionCommit execute
  cases plan .commit (opened stored pending 0 clock).clock with
  | done => exact ⟨rfl, .inl ⟨rfl, rfl⟩⟩
  | failed status | ended status => exact .recovered _ rfl

/-- The writes of a tree of operations are stored together or not at all. -/
theorem tree_atomic (plan : Plan) (style : Style) (operation : Operation ω) (stored : List ω) :
    Resolved plan stored operation.writes (scope plan style (operation.run plan) { stored }) := by
  have unopened : ∀ status, Resolved plan stored operation.writes (.error status,
      if style.rollsBackUnopened then (transactionRollback plan { stored, clock := 1 }).2
      else { stored, clock := 1 }) := by
    intro status
    split
    · exact .recovered status rfl
    · exact ⟨rfl, .inl ⟨rfl, rfl⟩⟩
  unfold scope transactionBegin execute
  cases plan .begin 0 with
  | failed status | ended status => exact unopened status
  | done =>
    have added := @Operation.run_added ω plan stored [] 0 1 operation
    change Resolved plan stored operation.writes
      (match operation.run plan (opened stored [] 0 1) with
        | (.error status, stopped) => (.error status, (transactionRollback plan stopped).2)
        | (.ok _, written) => _)
    generalize operation.run plan (opened stored [] 0 1) = ran at added ⊢
    obtain ⟨status | _, after⟩ := ran
    · exact .recovered status added
    obtain ⟨clock, rfl⟩ := added
    have committed := @transactionCommit_resolved ω plan stored operation.writes clock
    dsimp only [nil_append]
    generalize transactionCommit plan (opened stored operation.writes 0 clock) = ran at committed ⊢
    obtain ⟨status | _, last⟩ := ran
    · dsimp only
      split
      · exact .recovered status committed.1
      · exact committed
    · exact committed

end JanusGate.Scope
