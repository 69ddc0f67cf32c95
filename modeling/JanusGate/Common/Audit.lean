import JanusGate.Common.Wire

/-!
# The audit chain

`audit.c`: the validation of an event, the bytes that its digest covers, the
append to the table and the verification of the whole table.  The digest
function of the crypto library is a parameter.  A row has the column types of
its STRICT table, and a table is the list of its rows in the order of their
identifiers.
-/

namespace JanusGate.Audit

open Wire

def hashSize : Nat := 32
def sourceMax : Nat := 255
def actionMax : Nat := 128
def objectTypeMax : Nat := 128
def objectIdMax : Nat := 255
def detailsMax : Nat := 4096
def requestIdMax : Nat := 128

/-- `JG_AUDIT_HASH_SIZE` bytes. -/
abbrev Digest := { bytes : Bytes // bytes.length = hashSize }

def zeroDigest : Digest := ⟨List.replicate hashSize 0, List.length_replicate ..⟩

inductive AuditActorType where
  | system
  | user
  | token
  | local
  deriving DecidableEq

def AuditActorType.value : AuditActorType → UInt8
  | .system => 1
  | .user => 2
  | .token => 3
  | .local => 4

/-- `struct jg_audit_event`; a null text is `none`. -/
structure AuditEvent where
  occurredAt : UInt64
  actorType : AuditActorType
  actorId : Option UInt64
  source : Option Bytes
  action : Option Bytes
  objectType : Option Bytes
  objectId : Option Bytes
  details : Option Bytes
  previousRevision : Option UInt64
  newRevision : Option UInt64
  success : Bool
  requestId : Option Bytes
  deriving DecidableEq

/-- The fields that take part in an audit hash. -/
structure AuditMaterial where
  occurredAt : UInt64
  actorType : AuditActorType
  actorId : Option UInt64
  source : Bytes
  action : Bytes
  objectType : Bytes
  objectId : Option Bytes
  details : Bytes
  previousRevision : Option UInt64
  newRevision : Option UInt64
  success : Bool
  requestId : Bytes
  deriving DecidableEq

/-! ## Validation -/

def int64Max : UInt64 := 0x7fffffffffffffff

variable (text : Option Bytes)

def requiredText (minimum maximum : Nat) : Option Bytes :=
  match text with
  | none => none
  | some text => if minimum ≤ text.length ∧ text.length ≤ maximum then some text else none

def optionalText (maximum : Nat) : Option (Option Bytes) :=
  match text with
  | none => some none
  | some text => (requiredText (some text) 1 maximum).map some

def actorValid (type : AuditActorType) (identifier : Option UInt64) : Bool :=
  match type, identifier with
  | .system, none => true
  | .local, none => true
  | .user, some identifier => 0 < identifier && identifier ≤ int64Max
  | .token, some identifier => 0 < identifier && identifier ≤ int64Max
  | _, _ => false

def eventTexts (event : AuditEvent) :
    Option (Bytes × Bytes × Bytes × Option Bytes × Bytes × Bytes) := do
  let source ← requiredText event.source 1 sourceMax
  let action ← requiredText event.action 1 actionMax
  let objectType ← requiredText event.objectType 1 objectTypeMax
  let objectId ← optionalText event.objectId objectIdMax
  let details ← requiredText event.details 0 detailsMax
  let requestId ← requiredText event.requestId 0 requestIdMax
  return (source, action, objectType, objectId, details, requestId)

def eventMaterial (event : AuditEvent) : Except Int AuditMaterial :=
  if !actorValid event.actorType event.actorId then .error eInval
  else if event.previousRevision = some 0 ∨ event.newRevision = some 0 then .error eInval
  else if event.occurredAt > int64Max ∨ (∃ revision ∈ event.previousRevision, revision > int64Max) ∨
      (∃ revision ∈ event.newRevision, revision > int64Max) then
    .error eOverflow
  else
    match eventTexts event with
    | none => .error eInval
    | some (source, action, objectType, objectId, details, requestId) =>
      .ok {
        occurredAt := event.occurredAt
        actorType := event.actorType
        actorId := event.actorId
        source := source
        action := action
        objectType := objectType
        objectId := objectId
        details := details
        previousRevision := event.previousRevision
        newRevision := event.newRevision
        success := event.success
        requestId := requestId }

/-! ## The hashed bytes -/

def auditHashTag : Bytes := [0x4a, 0x47, 0x41, 0x55, 0x44, 0x49, 0x54, 1]

def hashU64 (value : UInt64) : Bytes :=
  encodeU32 (value >>> 32).toUInt32 ++ encodeU32 value.toUInt32

def hashText (text : Bytes) : Bytes := encodeU32 (UInt32.ofNat text.length) ++ text

def hashOptionalText : Bytes := text.elim [0] fun text => 1 :: hashText text

def hashOptionalU64 (value : Option UInt64) : Bytes :=
  value.elim [0] fun value => 1 :: hashU64 value

def hashByte (value : UInt8) : Bytes := [value]

def eventBytes (previous : Digest) (material : AuditMaterial) : Bytes :=
  auditHashTag ++ (previous.val ++ (hashU64 material.occurredAt ++
    (hashByte material.actorType.value ++
    (hashOptionalU64 material.actorId ++ (hashText material.source ++
    (hashText material.action ++ (hashText material.objectType ++
    (hashOptionalText material.objectId ++ (hashText material.details ++
    (hashOptionalU64 material.previousRevision ++
    (hashOptionalU64 material.newRevision ++
    (hashByte (if material.success then 1 else 0) ++ hashText material.requestId))))))))))))

/-! ## Rows -/

/-- A row of `audit_events`. -/
structure AuditRow where
  id : Int
  occurredAt : Int64
  actorType : Bytes
  actorId : Option Int64
  action : Bytes
  objectType : Bytes
  objectId : Option Bytes
  details : Bytes
  previousHash : Option Bytes
  eventHash : Bytes
  source : Bytes
  previousRevision : Option Int64
  newRevision : Option Int64
  success : Int64
  requestId : Bytes
  deriving DecidableEq

def actorName : AuditActorType → Bytes
  | .system => [0x73, 0x79, 0x73, 0x74, 0x65, 0x6d]
  | .user => [0x75, 0x73, 0x65, 0x72]
  | .token => [0x74, 0x6f, 0x6b, 0x65, 0x6e]
  | .local => [0x6c, 0x6f, 0x63, 0x61, 0x6c]

def parseActor (text : Bytes) : Option AuditActorType :=
  if text = actorName .system then some .system
  else if text = actorName .user then some .user
  else if text = actorName .token then some .token
  else if text = actorName .local then some .local
  else none

def readU64 (stored : Int64) : Option UInt64 := if stored < 0 then none else some stored.toUInt64

def readOptionalU64 (stored : Option Int64) : Option (Option UInt64) :=
  match stored with
  | none => some none
  | some stored =>
    match readU64 stored with
    | none => none
    | some value => if 0 < value then some (some value) else none

def storedMaterialValid (material : AuditMaterial) : Bool :=
  actorValid material.actorType material.actorId &&
    decide (1 ≤ material.source.length) &&
    decide (material.source.length ≤ sourceMax) &&
    decide (1 ≤ material.action.length) &&
    decide (material.action.length ≤ actionMax) &&
    decide (1 ≤ material.objectType.length) &&
    decide (material.objectType.length ≤ objectTypeMax) &&
    (material.objectId.all fun objectId =>
      decide (1 ≤ objectId.length) &&
        decide (objectId.length ≤ objectIdMax)) &&
    decide (material.details.length ≤ detailsMax) &&
    decide (material.requestId.length ≤ requestIdMax)

def readColumns (row : AuditRow) : Option AuditMaterial := do
  let occurredAt ← readU64 row.occurredAt
  let actorType ← parseActor row.actorType
  let actorId ← readOptionalU64 row.actorId
  let previousRevision ← readOptionalU64 row.previousRevision
  let newRevision ← readOptionalU64 row.newRevision
  let success ← readU64 row.success
  if success > 1 then none
  else
    some {
      occurredAt := occurredAt
      actorType := actorType
      actorId := actorId
      source := row.source
      action := row.action
      objectType := row.objectType
      objectId := row.objectId
      details := row.details
      previousRevision := previousRevision
      newRevision := newRevision
      success := success ≠ 0
      requestId := row.requestId }

def readMaterial (row : AuditRow) : Option AuditMaterial :=
  if row.id ≤ 0 then none
  else
    match readColumns row with
    | none => none
    | some material => if storedMaterialValid material then some material else none

/-! ## Verification -/

section Digests

variable (hash : Bytes → Digest)

def computeEventHash (previous : Digest) (material : AuditMaterial) : Digest :=
  hash (eventBytes previous material)

/-- The stored link of a row in front of its own digest. -/
def linkValid (first : Bool) (previous : Digest) (row : AuditRow) : Bool :=
  if first then row.previousHash.isNone else row.previousHash = some previous.val

def verifyRow (first : Bool) (previous : Digest) (row : AuditRow) : Option Digest :=
  match readMaterial row with
  | none => none
  | some material =>
    if linkValid first previous row = true ∧
        row.eventHash = (computeEventHash hash previous material).val then
      some (computeEventHash hash previous material)
    else none

structure AuditVerification where
  recordsInspected : Nat
  valid : Bool
  firstInvalidId : Nat
  deriving DecidableEq

def verifyRows (first : Bool) (previous : Digest) (inspected : Nat) :
    List AuditRow → Except Int AuditVerification
  | [] => .ok { recordsInspected := inspected, valid := true, firstInvalidId := 0 }
  | row :: rows =>
    if inspected = uint64Max then .error eOverflow
    else
      match verifyRow hash first previous row with
      | none =>
        .ok {
          recordsInspected := inspected + 1
          valid := false
          firstInvalidId := row.id.toNat }
      | some next => verifyRows false next (inspected + 1) rows

variable (rows : List AuditRow)

def databaseAuditVerify : Except Int AuditVerification := verifyRows hash true zeroDigest 0 rows

/-! ## Append -/

/-- The latest stored digest; a digest of another size is refused. -/
def readLatestHash : Except Int (Option Digest) :=
  match rows.getLast? with
  | none => .ok none
  | some row =>
    if size : row.eventHash.length = hashSize then .ok (some ⟨row.eventHash, size⟩)
    else .error eIlSeq

def rowOf (id : Int) (previous : Option Digest) (digest : Digest)
    (material : AuditMaterial) : AuditRow where
  id := id
  occurredAt := material.occurredAt.toInt64
  actorType := actorName material.actorType
  actorId := material.actorId.map UInt64.toInt64
  action := material.action
  objectType := material.objectType
  objectId := material.objectId
  details := material.details
  previousHash := previous.map (·.val)
  eventHash := digest.val
  source := material.source
  previousRevision := material.previousRevision.map UInt64.toInt64
  newRevision := material.newRevision.map UInt64.toInt64
  success := if material.success then 1 else 0
  requestId := material.requestId

/-- The identifier that the database gives to a new row: one more than the
largest, while there is one. -/
def nextId : Option Int :=
  match rows.getLast? with
  | none => some 1
  | some row => if row.id < int64Max.toNat then some (row.id + 1) else none

def insertEvent (previous : Option Digest) (digest : Digest) (material : AuditMaterial) :
    Except Int (List AuditRow) :=
  if rows.any (·.eventHash = digest.val) then .error eIo
  else
    match nextId rows with
    | none => .error eIo
    | some id =>
      if id ≤ 0 then .error eOverflow
      else .ok (rows ++ [rowOf id previous digest material])

/-- `jg_database_audit_append`: the rows after it and its result.  Any failure is rolled back. -/
def databaseAuditAppend (fault : Option Int) (event : AuditEvent)
    (rows : List AuditRow) : Except Int (List AuditRow) := do
  let material ← eventMaterial event
  match fault with
  | some status => throw status
  | none =>
    let previous ← readLatestHash rows
    let digest := computeEventHash hash (previous.getD zeroDigest) material
    insertEvent rows previous digest material

end Digests

end JanusGate.Audit
