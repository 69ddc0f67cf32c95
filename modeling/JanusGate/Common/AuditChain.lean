import JanusGate.Common.Audit
import JanusGate.Common.WireParse
import JanusGate.Foundation.HashChain

/-!
# What the audit chain proves

Appended events verify, and a verified table is bound by its last digest: the
bytes that a digest covers determine the digest before it and every field of
the event, so two tables with one last digest differ only where the hash
function has a collision.
-/

namespace JanusGate.Audit

open Wire HashChain List

/-! ## The hashed bytes determine the event -/

theorem encodeU32_injective (same : encodeU32 first = encodeU32 second) : first = second := by
  have whole : ∀ value, readU32Be (encodeU32 value) 0 = some value :=
    fun value => readU32Be_eq_some.mpr rfl
  have firstRead := whole first
  rw [same, whole second] at firstRead
  exact (Option.some.inj firstRead).symm

theorem encodeU32_unambiguous : Unambiguous (fun _ : UInt32 => True) encodeU32 :=
  .ofLength (fun value _ => encodeU32_length value) fun _ _ _ _ => encodeU32_injective

theorem hashU64_injective (same : hashU64 first = hashU64 second) : first = second := by
  obtain ⟨high, low⟩ := append_inj same rfl
  have highNat := congrArg UInt32.toNat (encodeU32_injective high)
  have lowNat := congrArg UInt32.toNat (encodeU32_injective low)
  have firstBound := first.toNat_lt
  have secondBound := second.toNat_lt
  simp only [UInt64.toNat_toUInt32, UInt64.toNat_shiftRight,
    UInt64.reduceToNat, Nat.reduceMod, Nat.shiftRight_eq_div_pow, Nat.reducePow] at highNat lowNat
  apply UInt64.toNat_inj.mp
  omega

theorem hashU64_length (value : UInt64) : (hashU64 value).length = 8 := rfl

theorem hashU64_unambiguous : Unambiguous (fun _ : UInt64 => True) hashU64 :=
  .ofLength (fun value _ => hashU64_length value) fun _ _ _ _ => hashU64_injective

theorem hashOptionalU64_unambiguous : Unambiguous (fun _ : Option UInt64 => True) hashOptionalU64 :=
  (hashU64_unambiguous.optional (by decide)).imp fun _ _ _ _ => trivial

/-- A text shorter than its 32-bit size allows. -/
def Sized (text : Bytes) : Prop := text.length < 2 ^ 32

theorem hashText_unambiguous : Unambiguous Sized hashText := by
  have lengths : ∀ first second : Bytes, Sized first → Sized second →
      UInt32.ofNat first.length = UInt32.ofNat second.length → first.length = second.length := by
    intro first second firstSized secondSized same
    have sameNat := congrArg UInt32.toNat same
    simp only [UInt32.toNat_ofNat'] at sameNat
    rwa [Nat.mod_eq_of_lt firstSized, Nat.mod_eq_of_lt secondSized] at sameNat
  exact encodeU32_unambiguous.sized (fun _ _ => trivial) lengths fun _ _ _ _ same => same

theorem hashOptionalText_unambiguous :
    Unambiguous (fun text : Option Bytes => ∀ inner ∈ text, Sized inner) hashOptionalText :=
  hashText_unambiguous.optional (by decide)

theorem hashByte_unambiguous : Unambiguous (fun _ : UInt8 => True) hashByte :=
  .ofLength (fun value _ => length_singleton (a := value))
    fun _ _ _ _ same => (cons.inj same).1

theorem AuditActorType.value_injective {first second : AuditActorType}
    (same : first.value = second.value) : first = second := by
  revert same
  cases first <;> cases second <;> decide

/-- The texts of a material fit the sizes in front of them. -/
structure TextsSized (material : AuditMaterial) : Prop where
  source : Sized material.source
  action : Sized material.action
  objectType : Sized material.objectType
  objectId : ∀ inner ∈ material.objectId, Sized inner
  details : Sized material.details
  requestId : Sized material.requestId

variable {material : AuditMaterial}

theorem storedMaterialValid_sized (valid : storedMaterialValid material = true) :
    TextsSized material := by
  simp only [storedMaterialValid, Bool.and_eq_true, decide_eq_true_eq, Option.all_eq_true] at valid
  obtain ⟨⟨⟨⟨⟨⟨⟨⟨⟨_, _⟩, source⟩, _⟩, action⟩, _⟩, objectType⟩, objectId⟩,
    details⟩, requestId⟩ := valid
  have bounded : ∀ {size bound : Nat}, size ≤ bound → bound ≤ 4096 → size < 2 ^ 32 := by omega
  exact ⟨bounded source (by decide), bounded action (by decide), bounded objectType (by decide),
    fun inner member => bounded (objectId inner member).2 (by decide),
    bounded details (by decide), bounded requestId (by decide)⟩

/-- The hashed bytes determine the digest before the event and every field of
the event. -/
theorem eventBytes_injective {previous other : Digest} (firstSized : TextsSized first)
    (secondSized : TextsSized second) (same : eventBytes previous first = eventBytes other second) :
    previous = other ∧ first = second := by
  have behindTag := append_cancel_left same
  obtain ⟨samePrevious, behind⟩ := append_inj behindTag
    (previous.property.trans other.property.symm)
  obtain ⟨occurredAt, behind⟩ := hashU64_unambiguous _ _ _ _ trivial trivial behind
  obtain ⟨actorType, behind⟩ := hashByte_unambiguous _ _ _ _ trivial trivial behind
  obtain ⟨actorId, behind⟩ := hashOptionalU64_unambiguous _ _ _ _ trivial trivial behind
  obtain ⟨source, behind⟩ :=
    hashText_unambiguous _ _ _ _ firstSized.source secondSized.source behind
  obtain ⟨action, behind⟩ :=
    hashText_unambiguous _ _ _ _ firstSized.action secondSized.action behind
  obtain ⟨objectType, behind⟩ := hashText_unambiguous _ _ _ _
    firstSized.objectType secondSized.objectType behind
  obtain ⟨objectId, behind⟩ := hashOptionalText_unambiguous _ _ _ _
    firstSized.objectId secondSized.objectId behind
  obtain ⟨details, behind⟩ := hashText_unambiguous _ _ _ _
    firstSized.details secondSized.details behind
  obtain ⟨previousRevision, behind⟩ := hashOptionalU64_unambiguous _ _ _ _ trivial trivial behind
  obtain ⟨newRevision, behind⟩ := hashOptionalU64_unambiguous _ _ _ _ trivial trivial behind
  obtain ⟨success, behind⟩ := hashByte_unambiguous _ _ _ _ trivial trivial behind
  have requestId := hashText_unambiguous.injective firstSized.requestId secondSized.requestId behind
  have sameActor := AuditActorType.value_injective actorType
  have sameSuccess : first.success = second.success := by
    revert success
    cases first.success <;> cases second.success <;> decide
  refine ⟨Subtype.ext samePrevious, ?_⟩
  cases first
  simp_all

/-! ## Stored events are read back -/

structure MaterialValid (material : AuditMaterial) : Prop where
  stored : storedMaterialValid material = true
  occurredAt : material.occurredAt ≤ int64Max
  actorId : ∀ value ∈ material.actorId, 0 < value ∧ value ≤ int64Max
  previousRevision : ∀ value ∈ material.previousRevision, 0 < value ∧ value ≤ int64Max
  newRevision : ∀ value ∈ material.newRevision, 0 < value ∧ value ≤ int64Max

theorem readU64_toInt64 (bounded : value ≤ int64Max) : readU64 value.toInt64 = some value := by
  have nonnegative : ¬ value.toInt64 < 0 := by
    have small : value.toNat ≤ 2 ^ 63 - 1 := UInt64.le_iff_toNat_le.mp bounded
    have positive : value.toInt64.toInt = value.toNat :=
      BitVec.toInt_eq_toNat_of_lt (by
        rw [UInt64.toBitVec_toInt64, UInt64.toNat_toBitVec]
        omega)
    rw [Int64.lt_iff_toInt_lt, positive, Int64.toInt_zero]
    omega
  rw [readU64, if_neg nonnegative]
  rfl

theorem readOptionalU64_toInt64 (bounded : ∀ inner ∈ value, 0 < inner ∧ inner ≤ int64Max) :
    readOptionalU64 (value.map UInt64.toInt64) = some value := by
  cases value with
  | none => rfl
  | some inner =>
    obtain ⟨positive, inRange⟩ := bounded inner rfl
    simp [readOptionalU64, readU64_toInt64 inRange, if_pos positive]

theorem parseActor_actorName (type : AuditActorType) : parseActor (actorName type) = some type := by
  cases type <;> decide

theorem readColumns_rowOf (valid : MaterialValid material) (id : Int) (previous : Option Digest)
    (digest : Digest) :
    readColumns (rowOf id previous digest material) = some material := by
  have success : readU64 (if material.success then 1 else 0) =
      some (if material.success then 1 else 0) := by
    cases material.success <;> decide
  simp only [readColumns, rowOf, readU64_toInt64 valid.occurredAt,
    parseActor_actorName, readOptionalU64_toInt64 valid.actorId,
    readOptionalU64_toInt64 valid.previousRevision,
    readOptionalU64_toInt64 valid.newRevision, success, Option.bind_eq_bind, Option.bind_some]
  obtain ⟨occurredAt, actorType, actorId, source, action, objectType, objectId,
    details, previousRevision, newRevision, successful, requestId⟩ := material
  cases successful <;> rfl

variable {id : Int}

theorem readMaterial_rowOf (valid : MaterialValid material) (positive : 0 < id)
    (previous : Option Digest) (digest : Digest) :
    readMaterial (rowOf id previous digest material) = some material := by
  have identified : ¬ (rowOf id previous digest material).id ≤ 0 := by
    change ¬ id ≤ 0
    omega
  rw [readMaterial, if_neg identified, readColumns_rowOf valid]
  simp [valid.stored]

theorem requiredText_ok {minimum maximum} {span : Bytes}
    (accepted : requiredText text minimum maximum = some span) :
    minimum ≤ span.length ∧ span.length ≤ maximum := by
  unfold requiredText at accepted
  cases text with
  | none => cases accepted
  | some text =>
    simp only at accepted
    split at accepted
    · next bounded =>
      cases accepted
      exact bounded
    · cases accepted

theorem optionalText_ok {span : Option Bytes} {maximum : Nat}
    (accepted : optionalText text maximum = some span) :
    ∀ inner ∈ span, 1 ≤ inner.length ∧ inner.length ≤ maximum := by
  cases text with
  | none =>
    cases accepted
    rintro inner ⟨⟩
  | some text =>
    obtain ⟨span, required, rfl⟩ := Option.map_eq_some_iff.mp accepted
    rintro inner ⟨⟩
    exact requiredText_ok required

theorem actorValid_bounds (valid : actorValid type identifier = true) :
    ∀ value ∈ identifier, 0 < value ∧ value ≤ int64Max := by
  rintro value rfl
  cases type with
  | system => cases valid
  | «local» => cases valid
  | user | token => simpa [actorValid] using valid

theorem eventTexts_ok (accepted : eventTexts event =
      some (source, action, objectType, objectId, details, requestId)) :
    (1 ≤ source.length ∧ source.length ≤ sourceMax) ∧
      (1 ≤ action.length ∧ action.length ≤ actionMax) ∧
      (1 ≤ objectType.length ∧ objectType.length ≤ objectTypeMax) ∧
      (∀ inner ∈ objectId, 1 ≤ inner.length ∧ inner.length ≤ objectIdMax) ∧
      details.length ≤ detailsMax ∧ requestId.length ≤ requestIdMax := by
  obtain ⟨_, sourceText, accepted⟩ := Option.bind_eq_some_iff.mp accepted
  obtain ⟨_, actionText, accepted⟩ := Option.bind_eq_some_iff.mp accepted
  obtain ⟨_, typeText, accepted⟩ := Option.bind_eq_some_iff.mp accepted
  obtain ⟨_, idText, accepted⟩ := Option.bind_eq_some_iff.mp accepted
  obtain ⟨_, detailsText, accepted⟩ := Option.bind_eq_some_iff.mp accepted
  obtain ⟨_, requestText, accepted⟩ := Option.bind_eq_some_iff.mp accepted
  cases accepted
  exact ⟨requiredText_ok sourceText, requiredText_ok actionText,
    requiredText_ok typeText, optionalText_ok idText,
    (requiredText_ok detailsText).2, (requiredText_ok requestText).2⟩

theorem revision_bounds (nonzero : revision ≠ some 0)
    (inRange : ¬ ∃ value ∈ revision, value > int64Max) :
    ∀ value ∈ revision, 0 < value ∧ value ≤ int64Max := by
  rintro value rfl
  constructor
  · rw [UInt64.pos_iff_ne_zero]
    rintro rfl
    exact nonzero rfl
  · exact UInt64.not_lt.mp fun above => inRange ⟨value, rfl, above⟩

theorem eventMaterial_valid (accepted : eventMaterial event = .ok material) :
    MaterialValid material := by
  unfold eventMaterial at accepted
  split at accepted
  · cases accepted
  next actor =>
  split at accepted
  · cases accepted
  next nonzero =>
  split at accepted
  · cases accepted
  next inRange =>
  split at accepted
  · cases accepted
  next texts =>
  cases accepted
  rw [not_or] at nonzero
  rw [not_or, not_or] at inRange
  have actorAccepted : actorValid event.actorType event.actorId = true := by simpa using actor
  obtain ⟨source, action, objectType, objectId, details, requestId⟩ := eventTexts_ok texts
  refine ⟨?_, UInt64.not_lt.mp inRange.1, actorValid_bounds actorAccepted,
    revision_bounds nonzero.1 inRange.2.1, revision_bounds nonzero.2 inRange.2.2⟩
  simp only [storedMaterialValid, Bool.and_eq_true, decide_eq_true_eq, Option.all_eq_true]
  exact ⟨⟨⟨⟨⟨⟨⟨⟨⟨actorAccepted, source.1⟩, source.2⟩, action.1⟩,
    action.2⟩, objectType.1⟩, objectType.2⟩, objectId⟩, details⟩, requestId⟩

/-! ## Verified chains -/

section Chains

variable (hash : Bytes → Digest)

/-- The digest behind rows that all verify. -/
def chainFrom (first : Bool) (previous : Digest) : List AuditRow → Option Digest
  | [] => some previous
  | row :: rows => (verifyRow hash first previous row).bind fun next => chainFrom false next rows

variable {hash} {previous digest : Digest} {rows : List AuditRow}

theorem verifyRows_chain (chain : chainFrom hash first previous rows = some digest)
    (bounded : inspected + rows.length ≤ uint64Max) :
    verifyRows hash first previous inspected rows =
      .ok {
        recordsInspected := inspected + rows.length
        valid := true
        firstInvalidId := 0 } := by
  induction rows generalizing first previous inspected with
  | nil => rfl
  | cons row rows ih =>
    obtain ⟨next, verified, rest⟩ := Option.bind_eq_some_iff.mp chain
    rw [length_cons] at bounded
    have room : inspected ≠ uint64Max := by omega
    rw [verifyRows, if_neg room, verified]
    dsimp only
    rw [ih rest (by omega), length_cons, Nat.add_right_comm, Nat.add_assoc]

theorem chain_of_verifyRows
    (verified : verifyRows hash first previous inspected rows = .ok verification)
    (valid : verification.valid = true) :
    ∃ digest, chainFrom hash first previous rows = some digest := by
  induction rows generalizing first previous inspected with
  | nil => exact ⟨previous, rfl⟩
  | cons row rows ih =>
    rw [verifyRows] at verified
    split at verified
    · cases verified
    cases linked : verifyRow hash first previous row with
    | none =>
      rw [linked] at verified
      cases verified
      cases valid
    | some next =>
      rw [linked] at verified
      obtain ⟨digest, rest⟩ := ih verified
      exact ⟨digest, by rw [chainFrom, linked, Option.bind_some, rest]⟩

theorem chainFrom_concat (row : AuditRow) : chainFrom hash first previous (rows ++ [row]) =
      (chainFrom hash first previous rows).bind fun digest =>
        verifyRow hash (first && rows.isEmpty) digest row := by
  induction rows generalizing first previous with
  | nil =>
    rw [nil_append, chainFrom, chainFrom, Option.bind_some, isEmpty_nil, Bool.and_true]
    exact Option.bind_fun_some _
  | cons head tail ih =>
    rw [cons_append, chainFrom, chainFrom, Option.bind_assoc]
    simp only [ih, Bool.false_and, isEmpty_cons, Bool.and_false]

theorem chainFrom_of_append (chain : chainFrom hash first previous (rows ++ later) = some digest) :
    ∃ digest, chainFrom hash first previous rows = some digest := by
  induction rows generalizing first previous with
  | nil => exact ⟨previous, rfl⟩
  | cons row rows ih =>
    obtain ⟨next, verified, rest⟩ := Option.bind_eq_some_iff.mp chain
    rw [chainFrom, verified]
    exact ih rest

theorem verifyRow_digest (verified : verifyRow hash first previous row = some digest) :
    row.eventHash = digest.val ∧ ∃ material, readMaterial row = some material ∧
      digest = hash (eventBytes previous material) := by
  unfold verifyRow at verified
  cases read : readMaterial row with
  | none =>
    rw [read] at verified
    cases verified
  | some material =>
    rw [read] at verified
    dsimp only at verified
    split at verified
    · next linked =>
      cases verified
      exact ⟨linked.2, material, rfl, rfl⟩
    · cases verified

theorem chainFrom_last (chain : chainFrom hash first previous rows = some digest) :
    rows = [] ∧ digest = previous ∨
      ∃ row, rows.getLast? = some row ∧ row.eventHash = digest.val := by
  induction rows using reverseRecOn with
  | nil => exact .inl ⟨rfl, (Option.some.inj chain).symm⟩
  | append_singleton rows row _ =>
    rw [chainFrom_concat] at chain
    obtain ⟨_, _, verified⟩ := Option.bind_eq_some_iff.mp chain
    exact .inr ⟨row, by simp, (verifyRow_digest verified).1⟩

theorem chainFrom_materials (chain : chainFrom hash first previous rows = some digest) :
    ∃ materials, rows.map readMaterial = materials.map some ∧
      digest = last hash eventBytes previous materials := by
  induction rows generalizing first previous with
  | nil => exact ⟨[], rfl, (Option.some.inj chain).symm⟩
  | cons row rows ih =>
    obtain ⟨next, verified, rest⟩ := Option.bind_eq_some_iff.mp chain
    obtain ⟨_, material, read, rfl⟩ := verifyRow_digest verified
    obtain ⟨materials, reads, rfl⟩ := ih rest
    exact ⟨material :: materials, by simp [read, reads], rfl⟩

/-! ## Appended events -/

/-- A table that was filled by appends: its rows verify and are numbered from
one. -/
structure Grown (hash : Bytes → Digest) (rows : List AuditRow) : Prop where
  chain : ∃ digest, chainFrom hash true zeroDigest rows = some digest
  numbered : ∀ row ∈ rows.getLast?, row.id = rows.length
  bounded : rows.length ≤ int64Max.toNat

theorem Grown.empty : Grown hash [] := ⟨⟨zeroDigest, rfl⟩, by simp, by simp⟩

variable {link : Option Digest}

theorem verifyRow_rowOf (valid : MaterialValid material) (positive : 0 < id)
    (linked : first = link.isNone ∧ previous = link.getD zeroDigest) :
    verifyRow hash first previous
        (rowOf id link (computeEventHash hash previous material) material) =
      some (computeEventHash hash previous material) := by
  have link_valid : linkValid first previous
      (rowOf id link (computeEventHash hash previous material) material) = true := by
    obtain ⟨rfl, rfl⟩ := linked
    cases link with
    | none => rfl
    | some digest => simp [linkValid, rowOf]
  rw [verifyRow, readMaterial_rowOf valid positive]
  exact if_pos ⟨link_valid, rfl⟩

/-- The link that an append stores is the digest of the chain so far. -/
theorem readLatestHash_chain (chain : chainFrom hash true zeroDigest rows = some digest)
    (read : readLatestHash rows = .ok link) :
    rows.isEmpty = link.isNone ∧ digest = link.getD zeroDigest := by
  unfold readLatestHash at read
  rcases chainFrom_last chain with ⟨rfl, rfl⟩ | ⟨row, latest, stored⟩
  · cases read
    exact ⟨rfl, rfl⟩
  have nonempty : rows.isEmpty = false := by
    cases rows with
    | nil => cases latest
    | cons => rfl
  rw [latest] at read
  dsimp only at read
  split at read
  · cases read
    exact ⟨nonempty, Subtype.ext stored.symm⟩
  · cases read

variable {after : List AuditRow}

theorem insertEvent_ok (inserted : insertEvent rows link digest material = .ok after) :
    ∃ id, nextId rows = some id ∧ 0 < id ∧ after = rows ++ [rowOf id link digest material] := by
  unfold insertEvent at inserted
  split at inserted
  · cases inserted
  cases chosen : nextId rows with
  | none =>
    rw [chosen] at inserted
    cases inserted
  | some id =>
    rw [chosen] at inserted
    dsimp only at inserted
    split at inserted
    · cases inserted
    · cases inserted
      exact ⟨id, rfl, by omega, rfl⟩

theorem Grown.nextId (grown : Grown hash rows) (chosen : Audit.nextId rows = some id) :
    id = rows.length + 1 ∧ rows.length < int64Max.toNat := by
  unfold Audit.nextId at chosen
  cases latest : rows.getLast? with
  | none =>
    rw [latest] at chosen
    cases chosen
    rw [getLast?_eq_none_iff.mp latest]
    decide
  | some row =>
    have number := grown.numbered row latest
    rw [latest] at chosen
    dsimp only at chosen
    split at chosen
    · cases chosen
      omega
    · cases chosen

theorem databaseAuditAppend_grown (grown : Grown hash rows)
    (appended : databaseAuditAppend hash fault event rows = .ok after) :
    Grown hash after ∧ after.length = rows.length + 1 := by
  obtain ⟨material, accepted, rest⟩ := Outcome.bind_eq_ok.mp appended
  have valid := eventMaterial_valid accepted
  cases fault with
  | some status => cases rest
  | none =>
    obtain ⟨link, read, inserted⟩ := Outcome.bind_eq_ok.mp rest
    obtain ⟨digest, chain⟩ := grown.chain
    obtain ⟨empty, rfl⟩ := readLatestHash_chain chain read
    obtain ⟨id, chosen, positive, rfl⟩ := insertEvent_ok inserted
    obtain ⟨number, room⟩ := grown.nextId chosen
    refine ⟨⟨⟨computeEventHash hash (link.getD zeroDigest) material, ?_⟩, ?_, ?_⟩, by simp⟩
    · rw [chainFrom_concat, chain, Option.bind_some, Bool.true_and]
      exact verifyRow_rowOf valid positive ⟨empty, rfl⟩
    · intro row latest
      rw [getLast?_concat] at latest
      cases latest
      simp [rowOf, number]
    · rw [length_append, length_singleton]
      exact room

/-- Appends in turn, with the number of those that succeeded.  A failed one
leaves the table as it was. -/
def appendRun (hash : Bytes → Digest) :
    List (Option Int × AuditEvent) → List AuditRow → List AuditRow × Nat
  | [], rows => (rows, 0)
  | (fault, event) :: calls, rows =>
    match databaseAuditAppend hash fault event rows with
    | .error _ => appendRun hash calls rows
    | .ok after => ((appendRun hash calls after).1, (appendRun hash calls after).2 + 1)

theorem appendRun_grown (calls : List (Option Int × AuditEvent)) (grown : Grown hash rows) :
    Grown hash (appendRun hash calls rows).1 ∧ (appendRun hash calls rows).1.length =
        rows.length + (appendRun hash calls rows).2 := by
  induction calls generalizing rows with
  | nil => exact ⟨grown, rfl⟩
  | cons call calls ih =>
    obtain ⟨fault, event⟩ := call
    rw [appendRun]
    cases appended : databaseAuditAppend hash fault event rows with
    | error status => exact ih grown
    | ok after =>
      obtain ⟨grownAfter, length⟩ := databaseAuditAppend_grown grown appended
      obtain ⟨grownEnd, total⟩ := ih grownAfter
      refine ⟨grownEnd, ?_⟩
      dsimp only
      omega

theorem databaseAuditVerify_grown (grown : Grown hash rows) : databaseAuditVerify hash rows =
      .ok {
        recordsInspected := rows.length
        valid := true
        firstInvalidId := 0 } := by
  obtain ⟨digest, chain⟩ := grown.chain
  have small : int64Max.toNat ≤ uint64Max := by decide
  have bounded := grown.bounded
  rw [databaseAuditVerify, verifyRows_chain chain (by omega), Nat.zero_add]

/-- A log whose latest rows were removed verifies like the whole one. -/
theorem truncated_log_verifies (calls : List (Option Int × AuditEvent)) (kept : Nat) :
    databaseAuditVerify hash ((appendRun hash calls []).1.take kept) =
      .ok ⟨min kept (appendRun hash calls []).2, true, 0⟩ := by
  obtain ⟨⟨⟨_, chain⟩, _, bounded⟩, total⟩ := appendRun_grown calls (@Grown.empty hash)
  rw [← take_append_drop kept (appendRun hash calls []).1] at chain
  obtain ⟨_, shorter⟩ := chainFrom_of_append chain
  have small : int64Max.toNat ≤ uint64Max := by decide
  rw [databaseAuditVerify, verifyRows_chain shorter (by simp; omega), length_take, total]
  simp

/-! ## Tables with one last digest -/

def hashedMessages (hash : Bytes → Digest) (rows : List AuditRow) : List Bytes :=
  messages hash eventBytes zeroDigest (rows.filterMap readMaterial)

theorem readMaterial_sized (read : readMaterial row = some material) : TextsSized material := by
  unfold readMaterial at read
  split at read
  · cases read
  split at read
  · cases read
  split at read
  · next valid =>
    cases read
    exact storedMaterialValid_sized valid
  · cases read

variable {materials : List AuditMaterial}

theorem filterMap_readMaterial (reads : rows.map readMaterial = materials.map some) :
    rows.filterMap readMaterial = materials := by
  have both : rows.filterMap readMaterial = (rows.map readMaterial).filterMap id := by
    rw [filterMap_map, Function.id_comp]
  rw [both, reads, filterMap_map, Function.id_comp, filterMap_some]

theorem materials_sized (reads : rows.map readMaterial = materials.map some) :
    ∀ material ∈ materials, TextsSized material := by
  intro material member
  rw [← filterMap_readMaterial reads] at member
  obtain ⟨row, _, read⟩ := mem_filterMap.mp member
  exact readMaterial_sized read

variable {left : List AuditRow} {right : List AuditRow}
  (leftChain : chainFrom hash true zeroDigest left = some leftDigest)
  (rightChain : chainFrom hash true zeroDigest right = some rightDigest)
  (sameLength : left.length = right.length)
  (sameLast : left.getLast?.map AuditRow.eventHash = right.getLast?.map AuditRow.eventHash)

include leftChain rightChain sameLength sameLast

theorem digests_eq : leftDigest = rightDigest := by
  rcases chainFrom_last leftChain with ⟨rfl, rfl⟩ | ⟨leftRow, leftEnd, leftHash⟩
  · cases length_eq_zero_iff.mp sameLength.symm
    exact Option.some.inj rightChain
  rcases chainFrom_last rightChain with ⟨rfl, rfl⟩ | ⟨rightRow, rightEnd, rightHash⟩
  · cases length_eq_zero_iff.mp sameLength
    cases leftEnd
  · rw [leftEnd, rightEnd, Option.map_some, Option.map_some, leftHash, rightHash] at sameLast
    exact Subtype.ext (Option.some.inj sameLast)

/-- Verified tables of one length and one last digest hold the same events, unless messages collide.
-/
theorem verified_materials_eq (apart : Set.InjOn hash {text |
      text ∈ hashedMessages hash left ∨ text ∈ hashedMessages hash right}) :
    left.map readMaterial = right.map readMaterial := by
  have sameDigest := digests_eq leftChain rightChain sameLength sameLast
  obtain ⟨leftMaterials, leftReads, rfl⟩ := chainFrom_materials leftChain
  obtain ⟨rightMaterials, rightReads, rfl⟩ := chainFrom_materials rightChain
  have lengths : leftMaterials.length = rightMaterials.length := by
    have leftLength := congrArg length leftReads
    have rightLength := congrArg length rightReads
    simp only [length_map] at leftLength rightLength
    omega
  rw [hashedMessages, hashedMessages, filterMap_readMaterial leftReads,
    filterMap_readMaterial rightReads] at apart
  have same : leftMaterials = rightMaterials :=
    items_eq (fun first second previous other firstSized secondSized =>
        eventBytes_injective firstSized secondSized)
      lengths (materials_sized leftReads) (materials_sized rightReads) apart
      sameDigest
  rw [leftReads, rightReads, same]

end Chains

/-- Appended events verify, and tables that verify with as many rows and the same last digest agree
on all hashed fields, as far as no two of their messages collide. -/
theorem audit_chain_binds (hash : Bytes → Digest) : (∀ calls : List (Option Int × AuditEvent),
      databaseAuditVerify hash (appendRun hash calls []).1 =
        .ok {
          recordsInspected := (appendRun hash calls []).2
          valid := true
          firstInvalidId := 0 }) ∧
      (∀ previous other first second,
        storedMaterialValid first = true → storedMaterialValid second = true →
          eventBytes previous first = eventBytes other second → previous = other ∧ first = second) ∧
      ∀ left right leftVerification rightVerification,
        databaseAuditVerify hash left = .ok leftVerification →
        leftVerification.valid = true →
        databaseAuditVerify hash right = .ok rightVerification →
        rightVerification.valid = true →
        left.length = right.length →
        left.getLast?.map AuditRow.eventHash = right.getLast?.map AuditRow.eventHash →
        Set.InjOn hash {text |
          text ∈ hashedMessages hash left ∨ text ∈ hashedMessages hash right} →
          left.map readMaterial = right.map readMaterial := by
  refine ⟨?_, ?_, ?_⟩
  · intro calls
    have empty : Grown hash [] := Grown.empty
    obtain ⟨grown, length⟩ := appendRun_grown calls empty
    rw [databaseAuditVerify_grown grown, length, length_nil, Nat.zero_add]
  · intro previous other first second firstValid secondValid
    exact eventBytes_injective (storedMaterialValid_sized firstValid)
      (storedMaterialValid_sized secondValid)
  · intro left right leftVerification rightVerification leftVerified leftValid
      rightVerified rightValid sameLength sameLast apart
    obtain ⟨_, leftChain⟩ := chain_of_verifyRows leftVerified leftValid
    obtain ⟨_, rightChain⟩ := chain_of_verifyRows rightVerified rightValid
    exact verified_materials_eq leftChain rightChain sameLength sameLast apart

theorem lastBytes_length (message : Bytes) :
    ((replicate hashSize 0 ++ message).drop message.length).length = hashSize := by
  simp

/-- A stand-in for the hash function: the end of the message. -/
def lastBytes (message : Bytes) : Digest :=
  ⟨(replicate hashSize 0 ++ message).drop message.length, lastBytes_length message⟩

def loginAndCreate : List (Option Int × AuditEvent) :=
  [(none, {
      occurredAt := 1700000000
      actorType := .system
      actorId := none
      source := some [0x6c]
      action := some [0x69]
      objectType := some [0x73]
      objectId := none
      details := some []
      previousRevision := none
      newRevision := none
      success := true
      requestId := some [0x31] }),
    (none, {
      occurredAt := 1700000001
      actorType := .user
      actorId := some 7
      source := some [0x6c]
      action := some [0x63]
      objectType := some [0x72]
      objectId := some [0x39]
      details := some [0x7b, 0x7d]
      previousRevision := none
      newRevision := some 1
      success := true
      requestId := some [0x32] })]

def loggedRows : List AuditRow := (appendRun lastBytes loginAndCreate []).1

/-- The digests do not cover the key of a row. -/
def renumberedRows : List AuditRow := loggedRows.map fun row => { row with id := row.id + 10 }

theorem audit_chain_binds_login : loggedRows ≠ renumberedRows ∧
    databaseAuditVerify lastBytes loggedRows =
      .ok { recordsInspected := 2, valid := true, firstInvalidId := 0 } ∧
    loggedRows.map readMaterial = renumberedRows.map readMaterial := by
  obtain ⟨appended, _, binds⟩ := audit_chain_binds lastBytes
  have verified := appended loginAndCreate
  have facts : loggedRows ≠ renumberedRows ∧
      databaseAuditVerify lastBytes renumberedRows =
        .ok { recordsInspected := 2, valid := true, firstInvalidId := 0 } ∧
      loggedRows.getLast?.map AuditRow.eventHash = renumberedRows.getLast?.map AuditRow.eventHash ∧
      hashedMessages lastBytes renumberedRows = hashedMessages lastBytes loggedRows ∧
      ∀ first ∈ hashedMessages lastBytes loggedRows, ∀ second ∈ hashedMessages lastBytes loggedRows,
        lastBytes first = lastBytes second → first = second := by
    decide +kernel
  obtain ⟨differ, renumbered, sameLast, sameMessages, apart⟩ := facts
  refine ⟨differ, verified, binds _ _ _ _ verified rfl renumbered rfl rfl sameLast ?_⟩
  rw [sameMessages]
  intro first firstMember second secondMember same
  exact apart first (firstMember.elim id id) second (secondMember.elim id id) same

end JanusGate.Audit
