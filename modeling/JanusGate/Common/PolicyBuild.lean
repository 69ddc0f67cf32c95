import Mathlib.Data.List.Perm.Basic
import JanusGate.Common.PolicyDestination

/-!
# Building is canonical

Rules that arrive in another order, or again under larger identifiers, build
the same snapshot: the same stored rules and scopes, hence the same bytes for
the checksum and the same answer to every query.  Only the random key of the
lookup table may differ.
-/

namespace JanusGate

namespace Policy

open Std Outcome List

/-! ## The checksum input -/

/-- Big-endian bytes of an unsigned 64-bit integer. -/
def checksumU64 (value : Nat) : Bytes :=
  (range 8).map fun index => UInt8.ofNat (value >>> (8 * (7 - index)))

def checksumString (value : Bytes) : Bytes := checksumU64 value.length ++ value

def addressBytes (address : Bytes) (size : Nat) : Bytes := (range size).map (byteAt address)

def checksumScope (scope : PolicyScope) : Bytes :=
  UInt8.ofNat scope.code ::
    match scope with
    | .global => []
    | .mac address => addressBytes address 6
    | .ipv4 address prefixLength => prefixLength :: addressBytes address 4
    | .ipv6 address prefixLength => prefixLength :: addressBytes address 16
    | .vlan vlanId => checksumU64 vlanId.toNat

def checksumRule (rule : StoredRule) : Bytes :=
  checksumU64 rule.id ++ checksumString rule.domain ++
    [UInt8.ofNat rule.includeSubdomains.toNat, UInt8.ofNat rule.effect.code,
      UInt8.ofNat rule.enforcement.code, UInt8.ofNat rule.source.code,
      UInt8.ofNat rule.target.code] ++
    checksumScope rule.scope ++ checksumString rule.attribution

def checksumDestinationRule (rule : StoredDestinationRule) : Bytes :=
  checksumU64 rule.id ++ [UInt8.ofNat rule.effect.code, UInt8.ofNat rule.enforcement.code,
      UInt8.ofNat rule.source.code, UInt8.ofNat rule.transport.code,
      UInt8.ofNat rule.hasAddress.toNat] ++
    (if rule.hasAddress then
      UInt8.ofNat rule.addressFamily.code :: rule.prefixLength :: addressBytes rule.address
          (if rule.addressFamily = .ipv4 then 4 else 16)
    else []) ++
    [UInt8.ofNat rule.hasPort.toNat] ++
    (if rule.hasPort then checksumU64 rule.port.toNat else []) ++
    checksumScope rule.scope ++ checksumString rule.attribution

def checksumFormat : Bytes :=
  "JanusGate policy snapshot 5".toList.map fun character => UInt8.ofNat character.toNat

/-- Everything that `snapshot_checksum` feeds to SHA-256, in order. -/
def snapshotChecksumInput (snapshot : PolicySnapshot) : Bytes :=
  checksumFormat ++ [UInt8.ofNat snapshot.globalEnforcement.code] ++
    checksumU64 snapshot.observedScopes.length ++
    snapshot.observedScopes.flatMap checksumScope ++
    checksumU64 snapshot.rules.length ++
    checksumU64 snapshot.destinationRules.length ++
    snapshot.rules.flatMap checksumRule ++
    snapshot.destinationRules.flatMap checksumDestinationRule

theorem flatMap_eq_of_forall₂ {α : Type} {relation : α → α → Prop} {encode : α → Bytes}
    (same : ∀ left right, relation left right → encode left = encode right)
    {left right : List α} (related : List.Forall₂ relation left right) :
    left.flatMap encode = right.flatMap encode := by
  induction related with
  | nil => rfl
  | cons headSame _ ih => rw [flatMap_cons, flatMap_cons, same _ _ headSame, ih]

/-! ## Observed scopes -/

def scopeCanon : Canon PolicyScope where
  content := scopeCompare
  identifier _ := 0
  same left right := scopeCompare left right == .eq
  contentTrans := inferInstance
  same_iff _ _ := beq_iff_eq

/-- One step of the loop over the configured scopes. -/
def normalizeObserved (scope : PolicyScope) : Except Int PolicyScope :=
  if scope = .global then .error eInval else policyScopeNormalize scope

/-- The mode of the whole policy; without a configuration it is enforced. -/
def configuredGlobal (config : Option PolicyEnforcementConfig) : PolicyEnforcement :=
  (config.map PolicyEnforcementConfig.global).getD .enforce

def configuredScopes (config : Option PolicyEnforcementConfig) : List PolicyScope :=
  (config.map PolicyEnforcementConfig.observedScopes).getD []

theorem scopeCanon_retained (scopes : List PolicyScope) : scopeCanon.retained scopes =
      retainDistinct (fun left right => scopeCompare left right == .eq) none
        (scopes.insertionSort fun left right => scopeCompare left right ≠ .gt) := by
  have sameOrder : ∀ left right, scopeCanon.order left right = scopeCompare left right := by
    intro left right
    change (scopeCompare left right).then (compare 0 0) = _
    cases scopeCompare left right <;> rfl
  unfold Canon.retained Canon.sorted
  congr 1
  simp only [sameOrder]

theorem mapM_eq_ok_iff {α β : Type} {step : α → Except Int β} {inputs : List α} {outputs : List β} :
    inputs.mapM step = .ok outputs ↔
      List.Forall₂ (fun input output => step input = .ok output) inputs
        outputs := by
  induction inputs generalizing outputs with
  | nil =>
    rw [mapM_nil, forall₂_nil_left_iff]
    exact ⟨fun same => (Except.ok.inj same).symm, fun same => congrArg Except.ok same.symm⟩
  | cons input rest ih =>
    rw [mapM_cons, forall₂_cons_left_iff]
    simp only [bind_eq_ok, pure_eq_ok, Except.ok.injEq, ih]
    constructor
    · rintro ⟨output, outputOk, others, othersOk, rfl⟩
      exact ⟨output, others, outputOk, othersOk, rfl⟩
    · rintro ⟨output, others, outputOk, othersOk, rfl⟩
      exact ⟨output, outputOk, others, othersOk, rfl⟩

theorem populateEnforcement_ok {config : Option PolicyEnforcementConfig}
    {global : PolicyEnforcement} {scopes : List PolicyScope}
    (populated : populateEnforcement config = .ok (global, scopes)) :
    global = configuredGlobal config ∧ ∃ normalized, List.Forall₂ (fun input scope =>
          normalizeObserved input = .ok scope) (configuredScopes config) normalized ∧
        scopes = scopeCanon.retained normalized := by
  cases config with
  | none =>
    cases populated
    exact ⟨rfl, [], .nil, rfl⟩
  | some config =>
    unfold populateEnforcement at populated
    simp only [throw_bind, guard_eq_ok, bind_eq_ok] at populated
    obtain ⟨_, normalized, normalizedOk, result⟩ := populated
    cases result
    refine ⟨rfl, normalized, mapM_eq_ok_iff.mp normalizedOk, ?_⟩
    rw [scopeCanon_retained]

/-! ## Inputs with the same meaning -/

/-- Every input of the first list has one of the same meaning and no larger identifier in the
second. -/
def InputsCover {ι α : Type} (canon : Canon α) (step : ι → Except Int α)
    (identifier : ι → Nat) (left right : List ι) : Prop :=
  ∀ input ∈ left, ∃ other ∈ right, identifier other ≤ identifier input ∧
    ∃ item otherItem, step input = .ok item ∧ step other = .ok otherItem ∧
      canon.content otherItem item = .eq

/-- The same meanings, each with the same smallest identifier. -/
def SameInputs {ι α : Type} (canon : Canon α) (step : ι → Except Int α)
    (identifier : ι → Nat) (left right : List ι) : Prop :=
  InputsCover canon step identifier left right ∧ InputsCover canon step identifier right left

section Inputs

variable {ι α : Type} {canon : Canon α} {step : ι → Except Int α}
  {identifier : ι → Nat} {leftInputs rightInputs : List ι}
  {leftItems rightItems : List α}

/-- Accepted inputs keep their meaning when they are permuted and repeated. -/
theorem SameInputs.of_repeats (permuted : rightInputs.Perm (leftInputs ++ repeats))
    (leftOk : List.Forall₂ (fun input item => step input = .ok item) leftInputs leftItems)
    (repeated : InputsCover canon step identifier repeats leftInputs) :
    SameInputs canon step identifier leftInputs rightInputs := by
  have accepted : ∀ input ∈ leftInputs, ∃ item, step input = .ok item :=
    fun _ member => exists_ok_of_mem leftOk member
  constructor
  · intro input member
    obtain ⟨item, itemOk⟩ := accepted input member
    have inRight := permuted.mem_iff.mpr (mem_append_left _ member)
    exact ⟨input, inRight, le_rfl, item, item, itemOk, itemOk, Canon.content_self item⟩
  · intro input member
    rcases mem_append.mp (permuted.mem_iff.mp member) with original | repetition
    · obtain ⟨item, itemOk⟩ := accepted input original
      exact ⟨input, original, le_rfl, item, item, itemOk, itemOk, Canon.content_self item⟩
    · exact repeated input repetition

theorem InputsCover.nil : InputsCover canon step identifier [] rightInputs :=
  fun _ member => absurd member not_mem_nil

/-- Covered inputs are accepted. -/
theorem InputsCover.accepted (covers : InputsCover canon step identifier leftInputs rightInputs) :
    ∃ items, List.Forall₂ (fun input item => step input = .ok item) leftInputs items := by
  apply exists_forall₂_ok
  intro input member
  obtain ⟨_, _, _, item, _, itemOk, _⟩ := covers input member
  exact ⟨item, itemOk⟩

variable
  (identified : ∀ input item, step input = .ok item → canon.identifier item = identifier input)
  (leftOk : List.Forall₂ (fun input item => step input = .ok item) leftInputs leftItems)
  (rightOk : List.Forall₂ (fun input item => step input = .ok item) rightInputs rightItems)

include identified leftOk rightOk

theorem InputsCover.covers (covers : InputsCover canon step identifier leftInputs rightInputs) :
    canon.Covers leftItems rightItems := by
  intro item member
  obtain ⟨input, inputMember, inputOk⟩ := (mem_forall₂_ok_iff leftOk).mp member
  obtain ⟨other, otherMember, smaller, same, otherItem, sameOk, otherOk,
    content⟩ := covers input inputMember
  rw [inputOk] at sameOk
  cases sameOk
  refine ⟨otherItem, (mem_forall₂_ok_iff rightOk).mpr ⟨other, otherMember, otherOk⟩, content, ?_⟩
  rw [identified other otherItem otherOk, identified input item inputOk]
  exact smaller

variable (same : SameInputs canon step identifier leftInputs rightInputs)

include same

theorem SameInputs.retained_agree :
    List.Forall₂ (fun item other => canon.Agree item other ∧ item ∈ leftItems ∧ other ∈ rightItems)
      (canon.retained leftItems) (canon.retained rightItems) :=
  Canon.retained_agree (same.1.covers identified leftOk rightOk)
    (same.2.covers identified rightOk leftOk)

theorem SameInputs.retained_eq (equal : ∀ item other, canon.Agree item other → item ∈ leftItems →
      other ∈ rightItems → item = other) :
    canon.retained leftItems = canon.retained rightItems := by
  have agree := same.retained_agree identified leftOk rightOk
  rw [← forall₂_eq_eq_eq]
  apply agree.imp
  intro item other related
  exact equal item other related.1 related.2.1 related.2.2

theorem SameInputs.stored {ρ : Type} {store : α → ρ} {encode : ρ → Bytes} {statistics : ι → Bytes}
    (sameBytes : ∀ item other, canon.Agree item other → encode (store item) = encode (store other))
    (equal : ∀ input item otherInput other, step input = .ok item →
      step otherInput = .ok other → canon.Agree item other →
        statistics input = statistics otherInput → item = other) :
    ((canon.retained leftItems).map store).length = ((canon.retained rightItems).map store).length ∧
      ((canon.retained leftItems).map store).flatMap encode =
        ((canon.retained rightItems).map store).flatMap encode ∧
      ((∀ first ∈ leftInputs, ∀ second ∈ rightInputs, identifier first = identifier second →
            statistics first = statistics second) →
        (canon.retained leftItems).map store = (canon.retained rightItems).map store) := by
  have agree := same.retained_agree identified leftOk rightOk
  refine ⟨?_, ?_, ?_⟩
  · rw [length_map, length_map]
    exact agree.length_eq
  · rw [flatMap_map, flatMap_map]
    exact flatMap_eq_of_forall₂ (fun item other related => sameBytes item other related.1) agree
  intro byIdentifier
  apply congrArg (map store)
  apply same.retained_eq identified leftOk rightOk
  intro item other related itemMember otherMember
  obtain ⟨input, inputMember, inputOk⟩ := (mem_forall₂_ok_iff leftOk).mp itemMember
  obtain ⟨otherInput, otherInputMember, otherOk⟩ := (mem_forall₂_ok_iff rightOk).mp otherMember
  apply equal input item otherInput other inputOk otherOk related
  apply byIdentifier input inputMember otherInput otherInputMember
  rw [← identified input item inputOk, ← identified otherInput other otherOk]
  exact related.2

end Inputs

/-! ## Inputs within the limits are accepted -/

/-- The bytes that accepted inputs take in a snapshot. -/
def packedSize {ι α : Type} (step : ι → Except Int α) (packed : α → Nat) (inputs : List ι) : Nat :=
  (inputs.map fun input => (step input).toOption.elim 0 packed).sum

/-- The sizes up to which the builder takes its inputs. -/
structure WithinLimits (idn2LookupU8 : Bytes → Option Bytes) (inputs : List PolicyRuleInput)
    (destinations : List PolicyDestinationRuleInput)
    (config : Option PolicyEnforcementConfig) : Prop where
  rules : inputs.length ≤ uint32Max ∧
    packedSize (prepareRule idn2LookupU8) packedRule inputs ≤ uint32Max
  destinations : destinations.length ≤ uint32Max ∧
    packedSize prepareDestinationRule packedDestination destinations ≤ uint32Max
  scopes : (configuredScopes config).length ≤ observedScopeLimit

theorem packedSize_eq {ι α : Type} {step : ι → Except Int α} {inputs : List ι} {items : List α}
    (pairs : List.Forall₂ (fun input item => step input = .ok item) inputs items)
    (packed : α → Nat) : packedSize step packed inputs = (items.map packed).sum := by
  unfold packedSize
  induction pairs with
  | nil => rfl
  | cons headOk _ ih => rw [map_cons, map_cons, sum_cons, sum_cons, ih, headOk, Except.toOption,
      Option.elim]

variable {idn2LookupU8 : Bytes → Option Bytes} {left right : PolicySnapshot}

theorem populateEnforcement_accepts
    (counted : (configuredScopes config).length ≤ observedScopeLimit)
    {normalized : List PolicyScope}
    (pairs : List.Forall₂ (fun input scope =>
      normalizeObserved input = .ok scope) (configuredScopes config) normalized) :
    populateEnforcement config = .ok (configuredGlobal config, scopeCanon.retained normalized) := by
  cases config with
  | none =>
    cases pairs
    rfl
  | some config =>
    have normalizedOk : config.observedScopes.mapM normalizeObserved =
        .ok normalized := mapM_eq_ok_iff.mpr pairs
    unfold normalizeObserved at normalizedOk
    have fits : ¬ config.observedScopes.length > observedScopeLimit := Nat.not_lt.mpr counted
    unfold populateEnforcement
    rw [scopeCanon_retained]
    simp only [if_neg fits, normalizedOk]
    rfl

variable {stored : PolicyEnforcement × List PolicyScope}

theorem populateEnforcement_counted (populated : populateEnforcement config = .ok stored) :
    (configuredScopes config).length ≤ observedScopeLimit := by
  cases config with
  | none => exact Nat.zero_le _
  | some config =>
    unfold populateEnforcement at populated
    simp only [throw_bind, guard_eq_ok] at populated
    exact Nat.not_lt.mp populated.1

theorem domainGroups_congr {left right : List StoredRule}
    (same : left.map StoredRule.domain = right.map StoredRule.domain) :
    ∀ first, domainGroups first left = domainGroups first right := by
  induction left generalizing right with
  | nil =>
    intro first
    cases right with
    | nil => rfl
    | cons rule rest => cases same
  | cons rule rest ih =>
    intro first
    cases right with
    | nil => cases same
    | cons other others =>
      obtain ⟨sameDomain, sameRest⟩ := cons.inj same
      unfold domainGroups
      rw [ih sameRest (first + 1), sameDomain]

variable {table : List (Option PolicySlot)}

theorem populateTable_accepts (rightHash : Bytes → UInt64)
    {left right : List StoredRule} (same : left.map StoredRule.domain = right.map StoredRule.domain)
    (populated : populateTable leftHash left = .ok table) :
    ∃ other, populateTable rightHash right = .ok other := by
  unfold populateTable at populated ⊢
  rw [domainGroups_congr same 0] at populated
  by_cases empty : (domainGroups 0 right).length = 0
  · exact ⟨[], if_pos empty⟩
  rw [if_neg empty] at populated ⊢
  cases multiplied : sizeMultiply (domainGroups 0 right).length 2 with
  | none =>
    rw [multiplied] at populated
    cases populated
  | some required =>
    rw [multiplied] at populated
    simp only [bind_eq_ok] at populated ⊢
    obtain ⟨slots, slotsOk, capacity, capacityOk, _⟩ := populated
    exact ⟨_, slots, slotsOk, capacity, capacityOk, rfl⟩

theorem policySnapshotBuildConfigured_enforcement
    (built : policySnapshotBuildConfigured idn2LookupU8 domainHash inputs
      destinationInputs config generation = .ok snapshot) :
    populateEnforcement config = .ok (snapshot.globalEnforcement, snapshot.observedScopes) ∧
      generation ≠ 0 := by
  unfold policySnapshotBuildConfigured at built
  simp only [throw_bind, guard_eq_ok, bind_eq_ok] at built
  obtain ⟨nonzero, _, _, _, _, ⟨global, scopes⟩, populated, table, tableOk, result⟩ := built
  cases result
  exact ⟨populated, nonzero⟩

theorem policySnapshotBuildConfigured_accepts (nonzero : generation ≠ 0)
    (preparedOk : prepareRules idn2LookupU8 inputs = .ok prepared)
    (destinationsOk : prepareDestinationRules destinationInputs = .ok destinations)
    (populated : populateEnforcement config = .ok stored) (tableOk : populateTable domainHash
      ((domainCanon.retained prepared).map storeRule) = .ok table) :
    ∃ snapshot, policySnapshotBuildConfigured idn2LookupU8 domainHash inputs
      destinationInputs config generation = .ok snapshot := by
  unfold policySnapshotBuildConfigured
  simp only [throw_bind, guard_eq_ok, bind_eq_ok]
  exact ⟨_, nonzero, prepared, preparedOk, destinations, destinationsOk,
    stored, populated, table, tableOk, rfl⟩

/-! ## The same snapshot -/

/-- Two inputs of the builder that say the same. -/
structure SamePolicy (idn2LookupU8 : Bytes → Option Bytes)
    (leftInputs rightInputs : List PolicyRuleInput)
    (leftDestinations rightDestinations : List PolicyDestinationRuleInput)
    (leftConfig rightConfig : Option PolicyEnforcementConfig) : Prop where
  rules : SameInputs domainCanon (prepareRule idn2LookupU8)
    PolicyRuleInput.id leftInputs rightInputs
  destinations : SameInputs destinationCanon prepareDestinationRule
    PolicyDestinationRuleInput.id leftDestinations rightDestinations
  scopes : SameInputs scopeCanon normalizeObserved (fun _ => 0)
    (configuredScopes leftConfig) (configuredScopes rightConfig)
  global : configuredGlobal leftConfig = configuredGlobal rightConfig

theorem checksumRule_agree {left right : BuildRule} (agree : domainCanon.Agree left right) :
    checksumRule (storeRule left) = checksumRule (storeRule right) := by
  have same := buildRuleContentCompare_eq_iff.mp agree.1
  have sameId : left.id = right.id := agree.2
  unfold checksumRule storeRule
  rw [sameId, same.domain, same.includeSubdomains, same.effect,
    same.enforcement, same.source, same.target, same.scope, same.attribution]

theorem checksumDestinationRule_agree {left right : BuildDestinationRule}
    (agree : destinationCanon.Agree left right) :
    checksumDestinationRule (storeDestinationRule left) =
      checksumDestinationRule (storeDestinationRule right) := by
  have same := destinationRuleContentCompare_eq_iff.mp agree.1
  have sameId : left.id = right.id := agree.2
  unfold checksumDestinationRule storeDestinationRule
  rw [sameId, same.effect, same.enforcement, same.source, same.transport,
    same.hasAddress, same.addressFamily, same.prefixLength, same.address,
    same.hasPort, same.port, same.scope, same.attribution]

/-- Only the statistics identity is not part of content and identifier. -/
theorem buildRule_eq_of_agree {left right : BuildRule} (agree : domainCanon.Agree left right)
    (sameStatistics : left.statisticsId = right.statisticsId) :
    left = right := by
  obtain ⟨content, sameId⟩ := agree
  have same := buildRuleContentCompare_eq_iff.mp content
  obtain ⟨domain, subdomains, target, source, effect, enforcement, scope, attribution⟩ := same
  rw [BuildRule.mk.injEq]
  exact ⟨sameId, sameStatistics, domain, attribution, subdomains, effect,
    enforcement, source, target, scope⟩

theorem buildDestinationRule_eq_of_agree {left right : BuildDestinationRule}
    (agree : destinationCanon.Agree left right)
    (sameStatistics : left.statisticsId = right.statisticsId) :
    left = right := by
  obtain ⟨content, sameId⟩ := agree
  have same := destinationRuleContentCompare_eq_iff.mp content
  obtain ⟨hasAddress, family, length, address, hasPort, port, transport,
    source, effect, enforcement, scope, attribution⟩ := same
  rw [BuildDestinationRule.mk.injEq]
  exact ⟨sameId, sameStatistics, attribution, effect, enforcement, source,
    transport, hasAddress, family, address, length, hasPort, port, scope⟩

theorem effectiveEnforcement_congr (sameGlobal : left.globalEnforcement = right.globalEnforcement)
    (sameScopes : left.observedScopes = right.observedScopes) :
    effectiveEnforcement left = effectiveEnforcement right := by
  unfold effectiveEnforcement clientIsObserved
  rw [sameGlobal, sameScopes]

section

variable (sameModes : effectiveEnforcement left = effectiveEnforcement right)

include sameModes

theorem reportScan_congr (client : Option PolicyClient) (target : PolicyDomainTarget)
    (domain : Bytes) (rules : List StoredRule) :
    reportScan left client target domain rules = reportScan right client target domain rules := by
  unfold reportScan reportSelected ruleEnforced
  rw [sameModes]

theorem reportDestination_congr (destination : PolicyDestination) (client : Option PolicyClient)
    (rules : List StoredDestinationRule) :
    reportDestination left client (destinationWinners left destination client rules) =
      reportDestination right client (destinationWinners right destination client rules) := by
  unfold reportDestination destinationWinners destinationRuleEnforced
  rw [sameModes]

end

section Pair

variable {leftHash rightHash : Bytes → UInt64} {leftInputs rightInputs : List PolicyRuleInput}
  {leftDestinations rightDestinations : List PolicyDestinationRuleInput}
  {leftConfig rightConfig : Option PolicyEnforcementConfig} {leftGeneration rightGeneration : Nat}
  (same : SamePolicy idn2LookupU8 leftInputs rightInputs leftDestinations rightDestinations
    leftConfig rightConfig)
  (leftBuilt : policySnapshotBuildConfigured idn2LookupU8 leftHash leftInputs leftDestinations
    leftConfig leftGeneration = .ok left)
  (rightBuilt : policySnapshotBuildConfigured idn2LookupU8 rightHash rightInputs rightDestinations
    rightConfig rightGeneration = .ok right)

include same leftBuilt rightBuilt

theorem SamePolicy.modes :
    left.globalEnforcement = right.globalEnforcement ∧
      left.observedScopes = right.observedScopes := by
  obtain ⟨leftGlobal, leftNormalized, leftOk, leftScopes⟩ :=
    populateEnforcement_ok (policySnapshotBuildConfigured_enforcement leftBuilt).1
  obtain ⟨rightGlobal, rightNormalized, rightOk, rightScopes⟩ :=
    populateEnforcement_ok (policySnapshotBuildConfigured_enforcement rightBuilt).1
  constructor
  · rw [leftGlobal, rightGlobal]
    exact same.global
  · rw [leftScopes, rightScopes]
    apply same.scopes.retained_eq (fun _ _ _ => rfl) leftOk rightOk
    intro scope other agree _ _
    exact scopeCompare_eq_iff.mp agree.1

/-- The stored domain rules agree one by one. -/
theorem SamePolicy.stored_rules :
    left.rules.length = right.rules.length ∧
      left.rules.flatMap checksumRule = right.rules.flatMap checksumRule ∧
      ((∀ first ∈ leftInputs, ∀ second ∈ rightInputs,
          first.id = second.id → first.statisticsId = second.statisticsId) →
        left.rules = right.rules) := by
  obtain ⟨leftPrepared, leftOk, leftRules, _⟩ := policySnapshotBuildConfigured_rules leftBuilt
  obtain ⟨rightPrepared, rightOk, rightRules, _⟩ := policySnapshotBuildConfigured_rules rightBuilt
  rw [leftRules, rightRules]
  apply same.rules.stored (fun _ _ ok => (prepareRule_accepted ok).id)
    (prepareRules_forall₂ leftOk) (prepareRules_forall₂ rightOk)
  · intro rule other agree
    exact checksumRule_agree agree
  · intro input rule otherInput other inputOk otherOk agree statistics
    apply buildRule_eq_of_agree agree
    rw [(prepareRule_accepted inputOk).statisticsId,
      (prepareRule_accepted otherOk).statisticsId, statistics]

theorem SamePolicy.stored_destinations :
    left.destinationRules.length = right.destinationRules.length ∧
      left.destinationRules.flatMap checksumDestinationRule =
        right.destinationRules.flatMap checksumDestinationRule ∧
      ((∀ first ∈ leftDestinations, ∀ second ∈ rightDestinations,
          first.id = second.id → first.statisticsId = second.statisticsId) →
        left.destinationRules = right.destinationRules) := by
  obtain ⟨leftPrepared, leftOk, leftRules⟩ := policySnapshotBuildConfigured_destinations leftBuilt
  obtain ⟨rightPrepared, rightOk, rightRules⟩ :=
    policySnapshotBuildConfigured_destinations rightBuilt
  rw [leftRules, rightRules]
  apply same.destinations.stored (fun _ _ ok => (prepareDestinationRule_accepted ok).id)
    (prepareDestinationRules_forall₂ leftOk)
    (prepareDestinationRules_forall₂ rightOk)
  · intro rule other agree
    exact checksumDestinationRule_agree agree
  · intro input rule otherInput other inputOk otherOk agree statistics
    apply buildDestinationRule_eq_of_agree agree
    rw [(prepareDestinationRule_accepted inputOk).statisticsId,
      (prepareDestinationRule_accepted otherOk).statisticsId, statistics]

end Pair

/-! ## The builder is canonical -/

theorem WithinLimits.of_built (built : policySnapshotBuildConfigured idn2LookupU8 domainHash inputs
      destinationInputs config generation = .ok snapshot) :
    WithinLimits idn2LookupU8 inputs destinationInputs config := by
  obtain ⟨_, preparedOk, _⟩ := policySnapshotBuildConfigured_rules built
  obtain ⟨_, destinationsOk, _⟩ := policySnapshotBuildConfigured_destinations built
  obtain ⟨counted, pairs, total⟩ := prepareRules_eq_ok_iff.mp preparedOk
  obtain ⟨destinationsCounted, destinationPairs, destinationTotal⟩ :=
    prepareDestinationRules_eq_ok_iff.mp destinationsOk
  rw [← packedSize_eq pairs] at total
  rw [← packedSize_eq destinationPairs] at destinationTotal
  exact ⟨⟨counted, total⟩, ⟨destinationsCounted, destinationTotal⟩,
    populateEnforcement_counted (policySnapshotBuildConfigured_enforcement built).1⟩

theorem WithinLimits.perm
    (within : WithinLimits idn2LookupU8 leftInputs leftDestinations leftConfig)
    (rules : leftInputs.Perm rightInputs) (destinations : leftDestinations.Perm rightDestinations)
    (scopes : (configuredScopes leftConfig).Perm (configuredScopes rightConfig)) :
    WithinLimits idn2LookupU8 rightInputs rightDestinations rightConfig := by
  obtain ⟨ruleLimits, destinationLimits, scopeLimit⟩ := within
  unfold packedSize at ruleLimits destinationLimits
  rw [rules.length_eq, (rules.map _).sum_nat] at ruleLimits
  rw [destinations.length_eq, (destinations.map _).sum_nat] at destinationLimits
  rw [scopes.length_eq] at scopeLimit
  exact ⟨ruleLimits, destinationLimits, scopeLimit⟩

/-- What says the same as an accepted policy is accepted within the limits. -/
theorem SamePolicy.accepts (same : SamePolicy idn2LookupU8 leftInputs rightInputs leftDestinations
      rightDestinations leftConfig rightConfig)
    (leftBuilt : policySnapshotBuildConfigured idn2LookupU8 leftHash leftInputs leftDestinations
      leftConfig leftGeneration = .ok left)
    (within : WithinLimits idn2LookupU8 rightInputs rightDestinations rightConfig)
    (nonzero : rightGeneration ≠ 0) (rightHash : Bytes → UInt64) :
    ∃ right, policySnapshotBuildConfigured idn2LookupU8 rightHash rightInputs rightDestinations
      rightConfig rightGeneration = .ok right := by
  obtain ⟨_, preparedOk, rules, filled⟩ := policySnapshotBuildConfigured_rules leftBuilt
  obtain ⟨items, pairs⟩ := same.rules.2.accepted
  obtain ⟨_, destinationPairs⟩ := same.destinations.2.accepted
  obtain ⟨_, scopesOk⟩ := same.scopes.2.accepted
  have ruleLimits := within.rules
  have destinationLimits := within.destinations
  rw [packedSize_eq pairs] at ruleLimits
  rw [packedSize_eq destinationPairs] at destinationLimits
  have agree := same.rules.retained_agree (fun _ _ ok => (prepareRule_accepted ok).id)
    (prepareRules_forall₂ preparedOk) pairs
  have sameDomains : left.rules.map StoredRule.domain =
      ((domainCanon.retained items).map storeRule).map StoredRule.domain := by
    rw [rules, map_map, map_map, ← forall₂_eq_eq_eq,
      forall₂_map_left_iff, forall₂_map_right_iff]
    apply agree.imp
    intro rule other related
    exact (buildRuleContentCompare_eq_iff.mp related.1.1).domain
  obtain ⟨table, tableOk⟩ := populateTable_accepts rightHash sameDomains filled
  exact policySnapshotBuildConfigured_accepts nonzero
    (prepareRules_eq_ok_iff.mpr ⟨ruleLimits.1, pairs, ruleLimits.2⟩)
    (prepareDestinationRules_eq_ok_iff.mpr
      ⟨destinationLimits.1, destinationPairs, destinationLimits.2⟩)
    (populateEnforcement_accepts within.scopes scopesOk) tableOk

/-- Building is canonical.  Permuted inputs with repeats that carry no smaller identifier say the
same, and inputs that say the same are accepted within the limits, with the same checksum input and
counts.  Every answer is the same when an identifier has one statistics identity. -/
theorem snapshot_build_canonical {idn2LookupU8 : Bytes → Option Bytes}
    {leftHash : Bytes → UInt64} (rightHash : Bytes → UInt64)
    {leftInputs rightInputs repeats : List PolicyRuleInput}
    {leftDestinations rightDestinations destinationRepeats : List PolicyDestinationRuleInput}
    {leftConfig rightConfig : Option PolicyEnforcementConfig} {scopeRepeats : List PolicyScope}
    {leftGeneration rightGeneration : Nat} {left : PolicySnapshot}
    (leftBuilt : policySnapshotBuildConfigured idn2LookupU8 leftHash
      leftInputs leftDestinations leftConfig leftGeneration = .ok left)
    (permuted : rightInputs.Perm (leftInputs ++ repeats))
    (repeated : InputsCover domainCanon (prepareRule idn2LookupU8) PolicyRuleInput.id repeats
      leftInputs)
    (destinationsPermuted : rightDestinations.Perm (leftDestinations ++ destinationRepeats))
    (destinationsRepeated : InputsCover destinationCanon prepareDestinationRule
      PolicyDestinationRuleInput.id destinationRepeats leftDestinations)
    (scopesPermuted : (configuredScopes rightConfig).Perm
      (configuredScopes leftConfig ++ scopeRepeats))
    (scopesRepeated : InputsCover scopeCanon normalizeObserved (fun _ => 0) scopeRepeats
      (configuredScopes leftConfig))
    (sameGlobal : configuredGlobal leftConfig = configuredGlobal rightConfig)
    (nonzero : rightGeneration ≠ 0) :
    (repeats = [] → destinationRepeats = [] → scopeRepeats = [] →
      WithinLimits idn2LookupU8 rightInputs rightDestinations rightConfig) ∧
    (WithinLimits idn2LookupU8 rightInputs rightDestinations rightConfig →
      ∃ right, policySnapshotBuildConfigured idn2LookupU8 rightHash rightInputs
          rightDestinations rightConfig rightGeneration = .ok right ∧
        snapshotChecksumInput left = snapshotChecksumInput right ∧
        left.rules.length = right.rules.length ∧
        left.destinationRules.length = right.destinationRules.length ∧
        ((∀ first ∈ leftInputs, ∀ second ∈ rightInputs,
            first.id = second.id → first.statisticsId = second.statisticsId) →
          ∀ domain client target, matchDomainTarget left domain client target =
              matchDomainTarget right domain client target) ∧
        ((∀ first ∈ leftDestinations, ∀ second ∈ rightDestinations,
            first.id = second.id → first.statisticsId = second.statisticsId) →
          ∀ destination client, policyMatchDestination left destination client =
              policyMatchDestination right destination client)) := by
  constructor
  · rintro rfl rfl rfl
    rw [append_nil] at permuted destinationsPermuted scopesPermuted
    exact (WithinLimits.of_built leftBuilt).perm permuted.symm destinationsPermuted.symm
      scopesPermuted.symm
  intro within
  obtain ⟨_, preparedOk, _⟩ := policySnapshotBuildConfigured_rules leftBuilt
  obtain ⟨_, destinationsOk, _⟩ := policySnapshotBuildConfigured_destinations leftBuilt
  obtain ⟨_, _, normalizedOk, _⟩ :=
    populateEnforcement_ok (policySnapshotBuildConfigured_enforcement leftBuilt).1
  have same : SamePolicy idn2LookupU8 leftInputs rightInputs leftDestinations rightDestinations
      leftConfig rightConfig :=
    ⟨.of_repeats permuted (prepareRules_forall₂ preparedOk) repeated,
      .of_repeats destinationsPermuted (prepareDestinationRules_forall₂ destinationsOk)
        destinationsRepeated,
      .of_repeats scopesPermuted normalizedOk scopesRepeated, sameGlobal⟩
  obtain ⟨right, rightBuilt⟩ := same.accepts leftBuilt within nonzero rightHash
  obtain ⟨sameGlobal, sameScopes⟩ := same.modes leftBuilt rightBuilt
  obtain ⟨ruleCount, ruleBytes, sameRules⟩ := same.stored_rules leftBuilt rightBuilt
  obtain ⟨destinationCount, destinationBytes, sameDestinations⟩ :=
    same.stored_destinations leftBuilt rightBuilt
  have sameModes := effectiveEnforcement_congr sameGlobal sameScopes
  refine ⟨right, rightBuilt, ?_, ruleCount, destinationCount, ?_, ?_⟩
  · unfold snapshotChecksumInput
    rw [sameGlobal, sameScopes, ruleCount, destinationCount, ruleBytes, destinationBytes]
  · intro statistics domain client target
    by_cases checks : domainIsNormalized domain = true ∧ clientValid client = true
    · rw [matchDomainTarget_rules leftBuilt checks.1 checks.2,
        matchDomainTarget_rules rightBuilt checks.1 checks.2,
        sameRules statistics, reportScan_congr sameModes]
    · rw [matchDomainTarget_refuses left checks, matchDomainTarget_refuses right checks]
  · intro statistics destination client
    by_cases checks : destinationValid destination = true ∧ clientValid client = true
    · rw [policyMatchDestination_eq left checks.1 checks.2,
        policyMatchDestination_eq right checks.1 checks.2,
        sameDestinations statistics, reportDestination_congr sameModes]
    · rw [policyMatchDestination_refuses left checks, policyMatchDestination_refuses right checks]

def repeatedRule : PolicyRuleInput := sampleRule 3 [0x61, 0x2e, 0x62] .allow

/-- Two rules in the other order, one of them a second time, under another key. -/
theorem snapshot_build_canonical_reversed : ∃ left right,
      policySnapshotBuildConfigured some (fun _ => 0) sampleRules [] none 1 = .ok left ∧
      policySnapshotBuildConfigured some (fun name => UInt64.ofNat name.length)
        (sampleRules ++ [repeatedRule]).reverse [] none 2 = .ok right ∧
      snapshotChecksumInput left = snapshotChecksumInput right ∧
      ∀ domain client target, matchDomainTarget left domain client target =
          matchDomainTarget right domain client target := by
  obtain ⟨left, found⟩ := Option.isSome_iff_exists.mp
    (show (policySnapshotBuildConfigured some (fun _ => 0) sampleRules [] none 1).toOption.isSome =
      true by decide +kernel)
  have leftBuilt := eq_ok_of_mem_toOption found
  have repeated : InputsCover domainCanon (prepareRule some) PolicyRuleInput.id [repeatedRule]
      sampleRules := by
    have covered : ∃ other ∈ sampleRules, other.id ≤ repeatedRule.id ∧
        ∃ item ∈ (prepareRule some repeatedRule).toOption,
        ∃ otherItem ∈ (prepareRule some other).toOption,
          buildRuleContentCompare otherItem item = .eq := by decide +kernel
    obtain ⟨other, member, smaller, item, itemOk, otherItem, otherOk, content⟩ := covered
    intro input only
    rw [mem_singleton.mp only]
    exact ⟨other, member, smaller, item, otherItem, eq_ok_of_mem_toOption itemOk,
      eq_ok_of_mem_toOption otherOk, content⟩
  have within : WithinLimits some (sampleRules ++ [repeatedRule]).reverse [] none :=
    ⟨by decide +kernel, by decide, by decide⟩
  have canonical := snapshot_build_canonical (fun name => UInt64.ofNat name.length) leftBuilt
    (reverse_perm (sampleRules ++ [repeatedRule])) repeated (.refl []) .nil
    (.refl (configuredScopes none)) .nil rfl (show 2 ≠ 0 by decide)
  obtain ⟨right, rightBuilt, checksum, _, _, answers, _⟩ := canonical.2 within
  refine ⟨left, right, leftBuilt, rightBuilt, checksum, answers ?_⟩
  decide

def sharedIdRules : List PolicyRuleInput :=
  [[1], [2]].map fun statisticsId => { sampleRule 7 [0x62] .block with statisticsId }

/-- Of two rules with one identifier and one meaning the first is kept: the order of the inputs
decides which statistics identity an answer names. -/
theorem shared_id_statistics_ordered :
    ∃ left ∈ (policySnapshotBuildConfigured some (fun _ => 0) sharedIdRules [] none 1).toOption,
      ∃ right ∈ (policySnapshotBuildConfigured some (fun _ => 0) sharedIdRules.reverse [] none
          1).toOption,
        (matchDomainTarget left [0x62] none .dns).toOption ≠
          (matchDomainTarget right [0x62] none .dns).toOption := by
  decide +kernel

end Policy

end JanusGate
