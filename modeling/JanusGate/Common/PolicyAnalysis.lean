import JanusGate.Common.PolicyObserve

/-!
# Static analysis of stored rules

The snapshot loader of `database_policy.c` and the relation queries of
`database_policy_analysis.c`.  A stored rule is its decoded row: equal columns
decode to equal values.  The two rule tables differ in the columns that the
queries compare, so the queries are written once over both.  The list of allow
exceptions is left out, and with it the flag that some list was cut.
-/

namespace JanusGate.PolicyAnalysis

open Policy FirstBest Outcome List

/-- `JG_POLICY_ANALYSIS_RELATED_MAX`. -/
def analysisRelatedMax : Nat := 16
def policyRuleLimit : Nat := 1000000

/-- The columns that the queries over a rule table compare. -/
class PolicyRule (ρ : Type) where
  id : ρ → Nat
  effect : ρ → PolicyEffect
  source : ρ → PolicySource
  enforcement : ρ → PolicyEnforcement
  scope : ρ → PolicyScope
  samePredicate : ρ → ρ → Bool
  sameContent : ρ → ρ → Bool
  withEnforcement : PolicyEnforcement → ρ → ρ
  predicate_of_content : ∀ {c t : ρ}, sameContent c t = true →
    samePredicate c t = true ∧ effect c = effect t ∧ source c = source t ∧
      enforcement c = enforcement t := by
    intro c t same
    rw [eq_of_beq same]
    simp
  scope_of_predicate : ∀ {c t : ρ}, samePredicate c t = true → scope c = scope t := by
    intro c t same
    simp only [Bool.and_eq_true, beq_iff_eq] at same
    exact same.2
  withEnforcement_columns : ∀ (own : PolicyEnforcement) (rule : ρ),
    id (withEnforcement own rule) = id rule ∧
    effect (withEnforcement own rule) = effect rule ∧
    source (withEnforcement own rule) = source rule ∧
    scope (withEnforcement own rule) = scope rule := by
    exact fun _ _ => ⟨rfl, rfl, rfl, rfl⟩
  withEnforcement_predicate : ∀ (first second : PolicyEnforcement) (c t : ρ),
    samePredicate (withEnforcement first c) (withEnforcement second t) = samePredicate c t := by
    exact fun _ _ _ _ => rfl
  withEnforcement_content : ∀ (own : PolicyEnforcement) (c t : ρ), sameContent c t = true →
      sameContent (withEnforcement own c) (withEnforcement own t) = true := by
    intro own c t same
    rw [eq_of_beq same]
    exact beq_self_eq_true _

instance : PolicyRule PolicyRuleInput where
  id := PolicyRuleInput.id
  effect := PolicyRuleInput.effect
  source := PolicyRuleInput.source
  enforcement := PolicyRuleInput.enforcement
  scope := PolicyRuleInput.scope
  samePredicate c t := c.domain == t.domain &&
    c.includeSubdomains == t.includeSubdomains && c.target == t.target &&
    c.scope == t.scope
  sameContent c t := c == { t with id := c.id, statisticsId := c.statisticsId }
  withEnforcement enforcement rule := { rule with enforcement }

instance : PolicyRule PolicyDestinationRuleInput where
  id := PolicyDestinationRuleInput.id
  effect := PolicyDestinationRuleInput.effect
  source := PolicyDestinationRuleInput.source
  enforcement := PolicyDestinationRuleInput.enforcement
  scope := PolicyDestinationRuleInput.scope
  samePredicate c t := c.transport == t.transport &&
    c.hasAddress == t.hasAddress && c.addressFamily == t.addressFamily &&
    c.address == t.address && c.prefixLength == t.prefixLength &&
    c.hasPort == t.hasPort && c.port == t.port && c.scope == t.scope
  sameContent c t := c == { t with id := c.id, statisticsId := c.statisticsId }
  withEnforcement enforcement rule := { rule with enforcement }

/-- One row of a rule table; a destination rule has no blocklist source. -/
structure RuleRow (ρ : Type) where
  rule : ρ
  groupId : Option Nat := none
  blocklistSourceId : Option Nat := none
  enabled : Bool := true

/-- A row of `policy_groups` or of `blocklist_sources`. -/
structure RuleControl where
  enabled : Bool
  enforcement : PolicyEnforcement

/-- The tables, in the order of their keys; endpoints are numbered above every stored rule. -/
structure PolicyDatabase where
  domainRules : List (RuleRow PolicyRuleInput)
  destinationRules : List (RuleRow PolicyDestinationRuleInput)
  encryptedEndpoints : List PolicyDestinationRuleInput
  policyGroup : Nat → Option RuleControl
  blocklistSource : Nat → Option RuleControl
  enforcement : PolicyEnforcementConfig
  domainKeys : (domainRules.map fun row => row.rule.id).Pairwise (· < ·)
  destinationKeys : ((destinationRules.map RuleRow.rule ++
    encryptedEndpoints).map PolicyDestinationRuleInput.id).Pairwise (· < ·)
  keysPositive : ∀ row ∈ domainRules, 0 < row.rule.id ∧ row.rule.id ≤ int64Max
  destinationKeysPositive : ∀ row ∈ destinationRules, 0 < row.rule.id ∧ row.rule.id ≤ int64Max
  unsourced : ∀ row ∈ destinationRules, row.blocklistSourceId = none

section Queries

variable {ρ : Type} [PolicyRule ρ] (database : PolicyDatabase)

/-- The row filter of the loader. -/
def rowLoaded (row : RuleRow ρ) : Bool :=
  row.enabled && (PolicyRule.source row.rule != .blocklist ||
      row.blocklistSourceId.all fun source =>
        (database.blocklistSource source).any RuleControl.enabled) &&
    row.groupId.all fun group => (database.policyGroup group).any RuleControl.enabled

/-- A rule observes with its source or its group. -/
def rowEnforcement (row : RuleRow ρ) : PolicyEnforcement :=
  loadedEnforcement (PolicyRule.enforcement row.rule)
    ((row.blocklistSourceId.bind database.blocklistSource).map RuleControl.enforcement)
    ((row.groupId.bind database.policyGroup).map RuleControl.enforcement)

def readRules (rows : List (RuleRow ρ)) : List ρ :=
  (rows.filter (rowLoaded database)).map fun row =>
    PolicyRule.withEnforcement (rowEnforcement database row) row.rule

/-- The loaded domain rows, with the modes that they have from their source and group. -/
def domainRuleRows : List DomainRuleRow :=
  (database.domainRules.filter (rowLoaded database)).map fun row =>
    ⟨row.rule, (row.blocklistSourceId.bind database.blocklistSource).map RuleControl.enforcement,
      (row.groupId.bind database.policyGroup).map RuleControl.enforcement⟩

def destinationRuleRows : List DestinationRuleRow :=
  (database.destinationRules.filter (rowLoaded database)).map fun row =>
    ⟨row.rule, (row.groupId.bind database.policyGroup).map RuleControl.enforcement⟩

theorem readRules_domain :
    readRules database database.domainRules = (domainRuleRows database).map DomainRuleRow.load := by
  rw [domainRuleRows, map_map]
  rfl

theorem readRules_destination : readRules database database.destinationRules =
    (destinationRuleRows database).map DestinationRuleRow.load := by
  rw [destinationRuleRows, map_map]
  apply map_congr_left
  intro row member
  have unsourced := database.unsourced row (mem_filter.mp member).1
  simp only [rowEnforcement, unsourced]
  rfl

def loadPolicySnapshot (idn2LookupU8 : Bytes → Option Bytes) (domainHash : Bytes → UInt64)
    (generation : Nat) : Except Int PolicySnapshot :=
  let rules := readRules database database.domainRules
  let destinations := readRules database database.destinationRules ++ database.encryptedEndpoints
  if generation = 0 then .error eInval
  else if rules.length > policyRuleLimit ∨ destinations.length > policyRuleLimit then
    .error eOverflow
  else if rules.any fun rule => !domainIsNormalized rule.domain then .error eIlSeq
  else
    policySnapshotBuildConfigured idn2LookupU8 domainHash rules destinations
      (some database.enforcement) generation

/-- The `CASE` expression of the shadowing queries. -/
def ruleRank (rule : ρ) : Nat :=
  let limited := PolicyRule.scope rule ≠ .global
  if PolicyRule.source rule = .emergency then 6
  else if PolicyRule.source rule = .explicit ∧ PolicyRule.effect rule = .allow ∧ limited then 5
  else if PolicyRule.source rule = .explicit ∧ PolicyRule.effect rule = .allow then 4
  else if PolicyRule.source rule = .explicit ∧ PolicyRule.effect rule = .block ∧ limited then 3
  else if PolicyRule.source rule = .explicit ∧ PolicyRule.effect rule = .block then 2
  else 1

def outranks (c t : ρ) : Bool :=
  decide (ruleRank c > ruleRank t) ||
    (ruleRank c == ruleRank t && decide (PolicyRule.id c < PolicyRule.id t))

def duplicates (t c : RuleRow ρ) : Bool :=
  PolicyRule.id c.rule != PolicyRule.id t.rule &&
    PolicyRule.sameContent c.rule t.rule && c.groupId == t.groupId &&
    c.blocklistSourceId == t.blocklistSourceId && c.enabled == t.enabled

def conflicts (t c : RuleRow ρ) : Bool :=
  PolicyRule.id c.rule != PolicyRule.id t.rule &&
    PolicyRule.samePredicate c.rule t.rule && t.enabled && c.enabled &&
    PolicyRule.effect c.rule != PolicyRule.effect t.rule

def shadows (t c : RuleRow ρ) : Bool :=
  PolicyRule.id c.rule != PolicyRule.id t.rule &&
    PolicyRule.samePredicate c.rule t.rule && t.enabled && c.enabled &&
    outranks c.rule t.rule

structure RuleRelations where
  duplicateIds : List Nat
  conflictIds : List Nat
  shadowingIds : List Nat
  unreachable : Bool
  disabled : Bool
  deriving DecidableEq

def relatedIds (rows : List (RuleRow ρ)) (related : RuleRow ρ → Bool) : List Nat :=
  (rows.filter related).map fun row => PolicyRule.id row.rule

/-- `jg_database_analyze_policy_rule` over the rows of its table. -/
def analyzePolicyRule (rows : List (RuleRow ρ)) (ruleId : Nat) : Except Int RuleRelations :=
  if ruleId = 0 ∨ ruleId > int64Max then .error eInval
  else
    match rows.find? fun row => PolicyRule.id row.rule == ruleId with
    | none => .error eNoEnt
    | some t =>
      let duplicateIds := (relatedIds rows (duplicates t)).take analysisRelatedMax
      .ok {
        duplicateIds
        conflictIds := (relatedIds rows (conflicts t)).take analysisRelatedMax
        shadowingIds := (relatedIds rows (shadows t)).take analysisRelatedMax
        unreachable := !t.enabled || duplicateIds.any fun id => decide (id < ruleId)
        disabled := !t.enabled }

end Queries

/-! ## The best rule of a predicate -/

section Foremost

variable {ρ : Type} [PolicyRule ρ]

/-- The identifier of a rule that no rule like it outranks. -/
def Foremost (alike : ρ → ρ → Bool) (rules : List ρ) (id : Nat) : Prop :=
  ∃ rule ∈ rules, PolicyRule.id rule = id ∧ ∀ other ∈ rules,
    alike other rule = true → outranks other rule = false

theorem ruleRank_eq (rule : ρ) : ruleRank rule = policyPriority
    (PolicyRule.effect rule) (PolicyRule.source rule)
    (PolicyRule.scope rule) := by
  unfold ruleRank policyPriority
  cases PolicyRule.source rule <;> cases PolicyRule.effect rule <;>
    by_cases global : PolicyRule.scope rule = .global <;> simp

theorem not_outranks_iff {c t : ρ} : outranks c t = false ↔
    ¬ (ruleRank c > ruleRank t ∨ (ruleRank c = ruleRank t ∧
      PolicyRule.id c < PolicyRule.id t)) := by
  simp [outranks]

theorem policyPriority_normalized (success : policyScopeNormalize scope = .ok normalized)
    (effect : PolicyEffect) (source : PolicySource) :
    policyPriority effect source normalized = policyPriority effect source scope := by
  have same : normalized = .global ↔ scope = .global := by
    cases scope <;> simp only [policyScopeNormalize] at success
    all_goals
      first
        | split at success <;> cases success
        | cases success
      simp
  unfold policyPriority
  simp only [same]

/-- The winner comes from an input, and no input that the query cannot tell from it is better. -/
theorem retained_winner {ι α σ : Type} {canon : Canon α} {store : α → σ} {better : σ → σ → Bool}
    {chosen : σ → Bool} (stores : Canon.Stores canon store better chosen) {step : ι → Except Int α}
    {inputs : List ι} {prepared : List α}
    (pairs : List.Forall₂ (fun input item => step input = .ok item) inputs prepared) {winner : σ}
    (found : scan better (((canon.retained prepared).map store).filter chosen) = some winner) :
    ∃ input ∈ inputs, ∃ kept, step input = .ok kept ∧ store kept = winner ∧
      ∀ other ∈ inputs, ∃ otherKept, step other = .ok otherKept ∧
        (chosen (store otherKept) = chosen (store kept) →
          better (store otherKept) (store kept) = false) := by
  have permuted := canon.sorted_perm prepared
  rw [Canon.scan_retained stores permuted (.inr rfl)] at found
  obtain ⟨member, picked⟩ := mem_filter.mp (scan_mem stores.ranking found)
  obtain ⟨kept, keptMember, rfl⟩ := mem_map.mp member
  obtain ⟨input, inputMember, inputOk⟩ :=
    (mem_forall₂_ok_iff pairs).mp (permuted.mem_iff.mp keptMember)
  refine ⟨input, inputMember, kept, inputOk, rfl, fun other otherMember => ?_⟩
  obtain ⟨otherKept, otherOk⟩ := exists_ok_of_mem pairs otherMember
  have listed := permuted.mem_iff.mpr ((mem_forall₂_ok_iff pairs).mpr ⟨other, otherMember, otherOk⟩)
  exact ⟨otherKept, otherOk, fun same => scan_best stores.ranking found _
    (mem_filter.mpr ⟨mem_map_of_mem listed, same.trans picked⟩)⟩

end Foremost

section Snapshot

variable {rules : List PolicyRuleInput} {destinations : List PolicyDestinationRuleInput}
  {snapshot : PolicySnapshot} {id : Nat}

section

variable (snapshot : PolicySnapshot)

def DomainSelects (id : Nat) : Prop :=
  ∃ domain client target result, matchDomainTarget snapshot domain client target = .ok result ∧
      result.matched = true ∧ result.ruleId = id

def DomainEnforces (id : Nat) : Prop :=
  ∃ domain client target result, matchDomainTarget snapshot domain client target = .ok result ∧
      result.enforcingMatched = true ∧ result.enforcingRuleId = id

def DestinationSelects (id : Nat) : Prop :=
  ∃ destination client result, policyMatchDestination snapshot destination client = .ok result ∧
      result.matched = true ∧ result.ruleId = id

def DestinationEnforces (id : Nat) : Prop :=
  ∃ destination client result, policyMatchDestination snapshot destination client = .ok result ∧
      result.enforcingMatched = true ∧ result.enforcingRuleId = id

end

theorem prepareRule_alike (ruleOk : prepareRule idn2LookupU8 rule = .ok built)
    (otherOk : prepareRule idn2LookupU8 other = .ok otherBuilt)
    (same : PolicyRule.samePredicate other rule = true) :
    built.domain = otherBuilt.domain ∧ built.includeSubdomains = otherBuilt.includeSubdomains ∧
      built.target = otherBuilt.target ∧ built.scope = otherBuilt.scope := by
  simp only [PolicyRule.samePredicate, Bool.and_eq_true, beq_iff_eq] at same
  obtain ⟨⟨⟨sameDomain, sameKind⟩, sameTarget⟩, sameScope⟩ := same
  obtain ⟨_, _, scope, domain, scopeOk, domainOk, rfl⟩ := prepareRule_eq ruleOk
  obtain ⟨_, _, _, _, otherScope, otherDomain, rfl⟩ := prepareRule_eq otherOk
  rw [sameScope, scopeOk] at otherScope
  rw [sameDomain, domainOk] at otherDomain
  cases otherScope
  cases otherDomain
  exact ⟨rfl, sameKind.symm, sameTarget.symm, rfl⟩

theorem prepareDestinationRule_alike (ruleOk : prepareDestinationRule rule = .ok built)
    (otherOk : prepareDestinationRule other = .ok otherBuilt)
    (same : PolicyRule.samePredicate other rule = true) :
    built = { otherBuilt with
      id := rule.id, statisticsId := rule.statisticsId
      attribution := rule.attribution, effect := rule.effect
      enforcement := rule.enforcement, source := rule.source } := by
  simp only [PolicyRule.samePredicate, Bool.and_eq_true, beq_iff_eq] at same
  obtain ⟨⟨⟨⟨⟨⟨⟨sameTransport, sameHas⟩, sameFamily⟩, sameAddress⟩,
    sameLength⟩, sameHasPort⟩, samePort⟩, sameScope⟩ := same
  obtain ⟨_, _, _, _, _, _, addressOk, scopeOk, rfl⟩ := prepareDestinationRule_eq ruleOk
  obtain ⟨_, _, _, _, _, _, otherAddress, otherScope, rfl⟩ := prepareDestinationRule_eq otherOk
  unfold destinationAddressNormalize at addressOk otherAddress
  rw [sameHas, sameFamily, sameAddress, sameLength, addressOk] at otherAddress
  rw [sameScope, scopeOk] at otherScope
  cases otherAddress
  cases otherScope
  simp [sameTransport, sameHas, sameHasPort, samePort]

theorem policyMatchDestination_winners
    (matched : policyMatchDestination snapshot destination client = .ok result) :
    (result.matched = true → ∃ winner, (destinationWinners snapshot destination client
      snapshot.destinationRules).selected = some winner ∧ result.ruleId = winner.id) ∧
    (result.enforcingMatched = true → ∃ winner, (destinationWinners snapshot destination client
      snapshot.destinationRules).enforcing = some winner ∧ result.enforcingRuleId = winner.id) := by
  by_cases valid : destinationValid destination = true ∧ clientValid client = true
  · rw [policyMatchDestination_eq snapshot valid.1 valid.2] at matched
    cases matched
    obtain ⟨selected, enforcing⟩ :=
      destinationWinners snapshot destination client snapshot.destinationRules
    cases selected <;> cases enforcing <;> simp [reportDestination]
  · rw [policyMatchDestination_refuses snapshot valid] at matched
    cases matched

variable (built : policySnapshotBuildConfigured idn2LookupU8 domainHash rules destinations
    enforcement generation = .ok snapshot)

include built

theorem domain_winner {chosen : StoredRule → Bool} {winner : StoredRule}
    (found : linearScan chosen snapshot.rules = some winner)
    (byContent : ∀ left right, SameContent left right →
      chosen (storeRule left) = chosen (storeRule right))
    {alike : PolicyRuleInput → PolicyRuleInput → Bool}
    (indistinct : ∀ {rule other built otherBuilt}, prepareRule idn2LookupU8 rule = .ok built →
      prepareRule idn2LookupU8 other = .ok otherBuilt →
      alike other rule = true → built.domain = otherBuilt.domain ∧
        chosen (storeRule built) = chosen (storeRule otherBuilt)) :
    Foremost alike rules winner.id := by
  obtain ⟨prepared, preparedOk, stored, _⟩ := policySnapshotBuildConfigured_rules built
  rw [stored] at found
  obtain ⟨rule, ruleMember, kept, ruleOk, rfl, best⟩ := retained_winner
    (domainStores byContent) (prepareRules_forall₂ preparedOk) found
  refine ⟨rule, ruleMember, (prepareRule_accepted ruleOk).id.symm, ?_⟩
  intro other otherMember like
  obtain ⟨otherKept, otherOk, best⟩ := best other otherMember
  obtain ⟨sameDomain, sameChosen⟩ := indistinct ruleOk otherOk like
  have notBetter := best sameChosen.symm
  obtain ⟨_, _, scope, domain, scopeOk, _, rfl⟩ := prepareRule_eq ruleOk
  obtain ⟨_, _, otherScope, otherDomain, otherScopeOk, _, rfl⟩ := prepareRule_eq otherOk
  rw [← Bool.not_eq_true, ruleBetter_iff] at notBetter
  simp only [storeRule, policyPriority_normalized scopeOk,
    policyPriority_normalized otherScopeOk] at notBetter sameDomain
  rw [not_outranks_iff, ruleRank_eq, ruleRank_eq]
  simp only [sameDomain, gt_iff_lt, lt_irrefl, false_or, true_and] at notBetter
  exact notBetter

theorem matchDomainTarget_winners
    (matched : matchDomainTarget snapshot domain client target = .ok result) :
    (result.matched = true → ∃ winner, linearScan (ruleMatches client target domain)
      snapshot.rules = some winner ∧ result.ruleId = winner.id) ∧
    (result.enforcingMatched = true → ∃ winner, linearScan (fun rule =>
      ruleMatches client target domain rule && ruleEnforced snapshot client rule)
        snapshot.rules = some winner ∧ result.enforcingRuleId = winner.id) := by
  by_cases valid : domainIsNormalized domain = true ∧ clientValid client = true
  · rw [matchDomainTarget_rules built valid.1 valid.2] at matched
    cases matched
    unfold reportScan
    cases linearScan (ruleMatches client target domain) snapshot.rules <;>
      cases linearScan (fun rule => ruleMatches client target domain rule &&
        ruleEnforced snapshot client rule) snapshot.rules <;>
      simp [reportEnforcing, reportSelected]
  · rw [matchDomainTarget_refuses snapshot valid] at matched
    cases matched

theorem domain_selected (selects : DomainSelects snapshot id) :
    Foremost PolicyRule.samePredicate rules id := by
  obtain ⟨domain, client, target, result, matched, flag, rfl⟩ := selects
  obtain ⟨winner, found, named⟩ := (matchDomainTarget_winners built matched).1 flag
  rw [named]
  refine domain_winner built found (fun left right same =>
    same.ruleMatches_eq client target domain) ?_
  intro rule other _ _ ruleOk otherOk like
  obtain ⟨sameDomain, sameKind, sameTarget, sameScope⟩ := prepareRule_alike ruleOk otherOk like
  exact ⟨sameDomain, by
    simp only [ruleMatches, storeRule, sameDomain, sameKind, sameTarget, sameScope]⟩

theorem domain_enforced (enforces : DomainEnforces snapshot id) :
    Foremost PolicyRule.sameContent rules id := by
  obtain ⟨domain, client, target, result, matched, flag, rfl⟩ := enforces
  obtain ⟨winner, found, named⟩ := (matchDomainTarget_winners built matched).2 flag
  rw [named]
  refine domain_winner built found (fun left right same => by
    rw [same.ruleMatches_eq, same.ruleEnforced_eq]) ?_
  intro rule other _ _ ruleOk otherOk like
  obtain ⟨samePredicate, (sameEffect : other.effect = rule.effect), _,
      (sameEnforcement : other.enforcement = rule.enforcement)⟩ :=
    PolicyRule.predicate_of_content like
  obtain ⟨sameDomain, sameKind, sameTarget, sameScope⟩ :=
    prepareRule_alike ruleOk otherOk samePredicate
  refine ⟨sameDomain, ?_⟩
  simp only [ruleMatches, ruleEnforced, storeRule, sameDomain, sameKind, sameTarget, sameScope]
  rw [(prepareRule_accepted ruleOk).effect, (prepareRule_accepted otherOk).effect,
    (prepareRule_accepted ruleOk).enforcement,
    (prepareRule_accepted otherOk).enforcement, sameEffect, sameEnforcement]

theorem destination_winner {chosen : StoredDestinationRule → Bool} {winner : StoredDestinationRule}
    (found : scan destinationBetter (snapshot.destinationRules.filter chosen) = some winner)
    (byContent : ∀ left right, SameDestination left right →
      chosen (storeDestinationRule left) = chosen (storeDestinationRule right))
    {alike : PolicyDestinationRuleInput → PolicyDestinationRuleInput → Bool}
    (indistinct : ∀ {rule other built otherBuilt}, prepareDestinationRule rule = .ok built →
      prepareDestinationRule other = .ok otherBuilt →
      alike other rule = true → PolicyRule.samePredicate other rule = true ∧
        chosen (storeDestinationRule built) = chosen (storeDestinationRule otherBuilt)) :
    Foremost alike destinations winner.id := by
  obtain ⟨prepared, preparedOk, stored⟩ := policySnapshotBuildConfigured_destinations built
  rw [stored] at found
  obtain ⟨rule, ruleMember, kept, ruleOk, rfl, best⟩ := retained_winner
    (destinationStores chosen byContent) (prepareDestinationRules_forall₂ preparedOk) found
  refine ⟨rule, ruleMember, (prepareDestinationRule_accepted ruleOk).id.symm, ?_⟩
  intro other otherMember like
  obtain ⟨otherKept, otherOk, best⟩ := best other otherMember
  obtain ⟨same, sameChosen⟩ := indistinct ruleOk otherOk like
  have notBetter := best sameChosen.symm
  have specificity : destinationRuleSpecificity (storeDestinationRule otherKept) =
        destinationRuleSpecificity (storeDestinationRule kept) := by
    rw [prepareDestinationRule_alike ruleOk otherOk same]
    rfl
  rw [← Bool.not_eq_true, destinationBetter_iff, specificity] at notBetter
  obtain ⟨_, _, _, _, _, _, _, otherScopeOk, rfl⟩ := prepareDestinationRule_eq otherOk
  obtain ⟨_, _, _, _, _, _, _, scopeOk, rfl⟩ := prepareDestinationRule_eq ruleOk
  simp only [storeDestinationRule, policyPriority_normalized scopeOk,
    policyPriority_normalized otherScopeOk, gt_iff_lt, lt_irrefl, false_or, true_and] at notBetter
  rw [not_outranks_iff, ruleRank_eq, ruleRank_eq]
  exact notBetter

theorem destination_selected (selects : DestinationSelects snapshot id) :
    Foremost PolicyRule.samePredicate destinations id := by
  obtain ⟨destination, client, result, matched, flag, rfl⟩ := selects
  obtain ⟨winner, found, named⟩ := (policyMatchDestination_winners matched).1 flag
  rw [named]
  refine destination_winner built found (fun left right same =>
    same.matches_eq destination client) ?_
  intro rule other _ _ ruleOk otherOk like
  refine ⟨like, ?_⟩
  rw [prepareDestinationRule_alike ruleOk otherOk like]
  rfl

theorem destination_enforced (enforces : DestinationEnforces snapshot id) :
    Foremost PolicyRule.sameContent destinations id := by
  obtain ⟨destination, client, result, matched, flag, rfl⟩ := enforces
  obtain ⟨winner, found, named⟩ := (policyMatchDestination_winners matched).2 flag
  rw [named]
  refine destination_winner built found (fun left right same => by
    rw [same.matches_eq, same.enforced_eq]) ?_
  intro rule other _ _ ruleOk otherOk like
  obtain ⟨samePredicate, (sameEffect : other.effect = rule.effect), _,
      (sameEnforcement : other.enforcement = rule.enforcement)⟩ :=
    PolicyRule.predicate_of_content like
  have accepted := prepareDestinationRule_accepted otherOk
  refine ⟨samePredicate, ?_⟩
  rw [prepareDestinationRule_alike ruleOk otherOk samePredicate]
  simp only [destinationRuleEnforced, storeDestinationRule,
    accepted.effect, accepted.enforcement, sameEffect, sameEnforcement]
  rfl

end Snapshot

/-! ## What the loader reads -/

section Loader

variable {ρ : Type} [PolicyRule ρ] (database : PolicyDatabase)

theorem outranks_withEnforcement (first second : PolicyEnforcement) (c t : ρ) :
    outranks (PolicyRule.withEnforcement first c) (PolicyRule.withEnforcement second t) =
      outranks c t := by
  unfold outranks ruleRank
  simp only [PolicyRule.withEnforcement_columns]

variable {rows : List (RuleRow ρ)} {t : RuleRow ρ} {others : List ρ}

theorem foremost_loaded
    (keys : ((rows.map RuleRow.rule ++ others).map PolicyRule.id).Pairwise (· < ·))
    (member : t ∈ rows)
    (foremost : Foremost alike (readRules database rows ++ others) (PolicyRule.id t.rule)) :
    rowLoaded database t = true ∧ ∀ c ∈ rows, rowLoaded database c = true →
      alike (PolicyRule.withEnforcement (rowEnforcement database c) c.rule)
        (PolicyRule.withEnforcement (rowEnforcement database t) t.rule) =
          true → outranks c.rule t.rule = false := by
  obtain ⟨rule, ruleMember, sameId, best⟩ := foremost
  rw [map_append, pairwise_append, map_map] at keys
  obtain ⟨rowKeys, _, apart⟩ := keys
  rcases mem_append.mp ruleMember with read | endpoint
  · obtain ⟨row, rowMember, rfl⟩ := mem_map.mp read
    obtain ⟨rowMember, loaded⟩ := mem_filter.mp rowMember
    rw [(PolicyRule.withEnforcement_columns ..).1] at sameId
    cases inj_on_of_nodup_map (rowKeys.imp Nat.ne_of_lt) rowMember member sameId
    refine ⟨loaded, fun c cMember cLoaded like => ?_⟩
    have notBetter := best _ (mem_append_left _ (mem_map_of_mem
      (mem_filter.mpr ⟨cMember, cLoaded⟩))) like
    rwa [outranks_withEnforcement] at notBetter
  · have less := apart _ (mem_map_of_mem member) _ (mem_map_of_mem endpoint)
    simp only [Function.comp_apply] at less
    omega

theorem analyzePolicyRule_reports
    (keys : (rows.map fun row => PolicyRule.id row.rule).Pairwise (· < ·)) (member : t ∈ rows)
    (bounds : 0 < PolicyRule.id t.rule ∧ PolicyRule.id t.rule ≤ int64Max) :
    ∃ relations, analyzePolicyRule rows (PolicyRule.id t.rule) = .ok relations ∧
      (∀ c ∈ rows, PolicyRule.id c.rule ∈ relations.shadowingIds → shadows t c = true) ∧
      (relations.unreachable = true ↔ t.enabled = false ∨ ∃ c ∈ rows, duplicates t c = true ∧
          PolicyRule.id c.rule < PolicyRule.id t.rule) := by
  have unique := inj_on_of_nodup_map (keys.imp Nat.ne_of_lt)
  have found : rows.find? (fun row => PolicyRule.id row.rule == PolicyRule.id t.rule) = some t := by
    cases search : rows.find? fun row => PolicyRule.id row.rule == PolicyRule.id t.rule with
    | none => simpa using find?_eq_none.mp search t member
    | some row => rw [unique (mem_of_find?_eq_some search) member
        (by simpa using find?_some search)]
  unfold analyzePolicyRule
  rw [found, if_neg (by omega)]
  refine ⟨_, rfl, ?_, ?_⟩
  · intro c cMember reported
    obtain ⟨row, rowMember, sameId⟩ := mem_map.mp (mem_of_mem_take reported)
    obtain ⟨rowMember, related⟩ := mem_filter.mp rowMember
    rwa [unique rowMember cMember sameId] at related
  · simp only [Bool.or_eq_true, Bool.not_eq_true', any_eq_true, decide_eq_true_eq]
    refine or_congr_right ⟨?_, ?_⟩
    · rintro ⟨id, reported, smaller⟩
      obtain ⟨c, cMember, rfl⟩ := mem_map.mp (mem_of_mem_take reported)
      obtain ⟨cMember, related⟩ := mem_filter.mp cMember
      exact ⟨c, cMember, related, smaller⟩
    · rintro ⟨c, cMember, related, smaller⟩
      -- the smallest identifier comes first and is never cut off
      have listed : PolicyRule.id c.rule ∈ relatedIds rows (duplicates t) :=
        mem_map_of_mem (mem_filter.mpr ⟨cMember, related⟩)
      have ordered : (relatedIds rows (duplicates t)).Pairwise (· < ·) :=
        keys.sublist (filter_sublist.map _)
      generalize relatedIds rows (duplicates t) = ids at listed ordered
      cases ids with
      | nil => cases listed
      | cons first others =>
        refine ⟨first, mem_cons_self .., ?_⟩
        rcases mem_cons.mp listed with same | later
        · omega
        · exact (rel_of_pairwise_cons ordered later).trans smaller

/-- Functional duplicates are loaded together, and the smaller identifier
outranks the other. -/
theorem duplicates_loaded (duplicate : duplicates t c = true)
    (smaller : PolicyRule.id c.rule < PolicyRule.id t.rule) :
    rowLoaded database c = rowLoaded database t ∧ PolicyRule.sameContent
        (PolicyRule.withEnforcement (rowEnforcement database c) c.rule)
        (PolicyRule.withEnforcement (rowEnforcement database t) t.rule) = true ∧
      outranks c.rule t.rule = true := by
  simp only [duplicates, Bool.and_eq_true, beq_iff_eq] at duplicate
  obtain ⟨⟨⟨⟨_, content⟩, sameGroup⟩, sameSource⟩, sameEnabled⟩ := duplicate
  obtain ⟨predicate, effect, source, enforcement⟩ := PolicyRule.predicate_of_content content
  have sameEnforcement : rowEnforcement database c = rowEnforcement database t := by
    unfold rowEnforcement
    rw [enforcement, sameGroup, sameSource]
  refine ⟨?_, ?_, ?_⟩
  · unfold rowLoaded
    rw [source, sameGroup, sameSource, sameEnabled]
  · rw [sameEnforcement]
    exact PolicyRule.withEnforcement_content _ _ _ content
  · have sameRank : ruleRank c.rule = ruleRank t.rule := by
      rw [ruleRank_eq, ruleRank_eq, effect, source, PolicyRule.scope_of_predicate predicate]
    simp [outranks, sameRank, smaller]

theorem unreachable_not_foremost
    (keys : ((rows.map RuleRow.rule ++ others).map PolicyRule.id).Pairwise (· < ·))
    (member : t ∈ rows) (unreachable : t.enabled = false ∨ ∃ c ∈ rows, duplicates t c = true ∧
      PolicyRule.id c.rule < PolicyRule.id t.rule)
    (coarser : ∀ {c t : ρ}, PolicyRule.sameContent c t = true → alike c t = true) :
    ¬ Foremost alike (readRules database rows ++ others) (PolicyRule.id t.rule) := by
  intro foremost
  obtain ⟨loaded, best⟩ := foremost_loaded database keys member foremost
  rcases unreachable with disabled | ⟨c, cMember, duplicate, smaller⟩
  · simp [rowLoaded, disabled] at loaded
  · obtain ⟨sameLoaded, content, better⟩ := duplicates_loaded database duplicate smaller
    rw [best c cMember (sameLoaded.trans loaded) (coarser content)] at better
    contradiction

end Loader

/-! ## Soundness of the analysis -/

/-- A reported shadowing rule keeps the rule from being selected, if it is
loaded when the rule is. -/
def ShadowsSoundly {ρ : Type} [PolicyRule ρ] (database : PolicyDatabase)
    (rows : List (RuleRow ρ)) (selects : Nat → Prop) : Prop :=
  ∀ t ∈ rows, ∃ relations, analyzePolicyRule rows (PolicyRule.id t.rule) = .ok relations ∧
    ∀ c ∈ rows, PolicyRule.id c.rule ∈ relations.shadowingIds →
      (rowLoaded database t = true → rowLoaded database c = true) →
      ¬ selects (PolicyRule.id t.rule)

/-- Exactly the rules left out are reported, when an earlier functional duplicate of one exists. -/
def ReportsUnreachable {ρ : Type} [PolicyRule ρ] (database : PolicyDatabase)
    (rows : List (RuleRow ρ)) (selects enforces : Nat → Prop) : Prop :=
  ∀ t ∈ rows, ∃ relations, analyzePolicyRule rows (PolicyRule.id t.rule) = .ok relations ∧
    (((rowLoaded database t = false → relations.unreachable = true) ∧
        (relations.unreachable = true → ¬ selects (PolicyRule.id t.rule) ∧
            ¬ enforces (PolicyRule.id t.rule))) ↔
      (t.enabled = true → rowLoaded database t = false → ∃ c ∈ rows, duplicates t c = true ∧
          PolicyRule.id c.rule < PolicyRule.id t.rule))

section Soundness

variable {ρ : Type} [PolicyRule ρ] {database : PolicyDatabase}
  {rows : List (RuleRow ρ)} {others : List ρ}
  (keys : ((rows.map RuleRow.rule ++ others).map PolicyRule.id).Pairwise (· < ·))
  (bounds : ∀ row ∈ rows, 0 < PolicyRule.id row.rule ∧ PolicyRule.id row.rule ≤ int64Max)
  {selects enforces : Nat → Prop}
  (selected : ∀ {id}, selects id → Foremost PolicyRule.samePredicate
    (readRules database rows ++ others) id)

include keys bounds selected

theorem shadowsSoundly_of_foremost : ShadowsSoundly database rows selects := by
  intro t member
  have rowKeys := keys.sublist ((sublist_append_left ..).map _)
  rw [map_map] at rowKeys
  obtain ⟨relations, reports, shadowing, _⟩ :=
    analyzePolicyRule_reports rowKeys member (bounds t member)
  refine ⟨relations, reports, fun c cMember reported together selects => ?_⟩
  obtain ⟨loaded, best⟩ := foremost_loaded database keys member (selected selects)
  have shadow := shadowing c cMember reported
  simp only [shadows, Bool.and_eq_true] at shadow
  have notBetter := best c cMember (together loaded)
    ((PolicyRule.withEnforcement_predicate ..).trans shadow.1.1.1.2)
  rw [notBetter] at shadow
  exact absurd shadow.2 (by decide)

theorem reportsUnreachable_of_foremost
    (enforced : ∀ {id}, enforces id → Foremost PolicyRule.sameContent
      (readRules database rows ++ others) id) :
    ReportsUnreachable database rows selects enforces := by
  intro t member
  have rowKeys := keys.sublist ((sublist_append_left ..).map _)
  rw [map_map] at rowKeys
  obtain ⟨relations, reports, _, unreachable⟩ :=
    analyzePolicyRule_reports rowKeys member (bounds t member)
  refine ⟨relations, reports, ?_, ?_⟩
  · rintro ⟨leftOut, _⟩ enabled out
    rcases unreachable.mp (leftOut out) with disabled | duplicate
    · simp [enabled] at disabled
    · exact duplicate
  · refine fun earlier => ⟨fun out => unreachable.mpr ?_, fun reported => ?_⟩
    · cases enabled : t.enabled with
      | false => exact .inl rfl
      | true => exact .inr (earlier enabled out)
    have kept := unreachable.mp reported
    exact ⟨fun selects => unreachable_not_foremost database keys member kept
        (fun same => (PolicyRule.predicate_of_content same).1)
        (selected selects),
      fun enforces => unreachable_not_foremost database keys member kept id (enforced enforces)⟩

end Soundness

section Loaded

variable {database : PolicyDatabase} {snapshot : PolicySnapshot}

theorem loadPolicySnapshot_built
    (loads : loadPolicySnapshot database idn2LookupU8 domainHash generation = .ok snapshot) :
    policySnapshotBuildConfigured idn2LookupU8 domainHash
      (readRules database database.domainRules ++ [])
      (readRules database database.destinationRules ++ database.encryptedEndpoints)
      (some database.enforcement) generation = .ok snapshot := by
  rw [append_nil]
  unfold loadPolicySnapshot at loads
  dsimp only at loads
  split_ifs at loads
  exact loads

theorem domainKeys_append (database : PolicyDatabase) :
    ((database.domainRules.map RuleRow.rule ++ []).map
      (PolicyRule.id : PolicyRuleInput → Nat)).Pairwise (· < ·) := by
  rw [append_nil, map_map]
  exact database.domainKeys

/-- A reported shadowing rule keeps the shadowed rule from ever being selected. -/
theorem shadowed_never_selected
    (loads : loadPolicySnapshot database idn2LookupU8 domainHash generation = .ok snapshot) :
    ShadowsSoundly database database.domainRules (DomainSelects snapshot) ∧
      ShadowsSoundly database database.destinationRules (DestinationSelects snapshot) :=
  ⟨shadowsSoundly_of_foremost (domainKeys_append database)
      database.keysPositive (domain_selected (loadPolicySnapshot_built loads)),
    shadowsSoundly_of_foremost database.destinationKeys database.destinationKeysPositive
      (destination_selected (loadPolicySnapshot_built loads))⟩

/-- The analysis calls unreachable what the loader leaves out, as far as `ReportsUnreachable` says.
-/
theorem unreachable_iff_left_out
    (loads : loadPolicySnapshot database idn2LookupU8 domainHash generation = .ok snapshot) :
    ReportsUnreachable database database.domainRules (DomainSelects snapshot)
        (DomainEnforces snapshot) ∧
      ReportsUnreachable database database.destinationRules
        (DestinationSelects snapshot) (DestinationEnforces snapshot) :=
  have built := loadPolicySnapshot_built loads
  ⟨reportsUnreachable_of_foremost (domainKeys_append database)
      database.keysPositive (domain_selected built) (domain_enforced built),
    reportsUnreachable_of_foremost database.destinationKeys
      database.destinationKeysPositive (destination_selected built)
      (destination_enforced built)⟩

end Loaded

/-- An allow rule of a group before a block rule of the same domain. -/
def groupedDatabase (groupEnabled : Bool) : PolicyDatabase where
  domainRules := [{ rule := sampleRule 1 [0x62] .allow, groupId := some 1 },
    { rule := sampleRule 2 [0x62] .block }]
  destinationRules := []
  encryptedEndpoints := []
  policyGroup := fun _ => some ⟨groupEnabled, .enforce⟩
  blocklistSource := fun _ => none
  enforcement := ⟨.enforce, []⟩
  domainKeys := by decide
  destinationKeys := List.Pairwise.nil
  keysPositive := by decide
  destinationKeysPositive := by decide
  unsourced := by decide

def groupedSnapshot (groupEnabled : Bool) : Except Int PolicySnapshot :=
  loadPolicySnapshot (groupedDatabase groupEnabled) some (fun _ => 0) 1

/-- With the group enabled the block rule is shadowed and never selected. -/
theorem shadowed_never_selected_grouped :
    ∃ snapshot relations, groupedSnapshot true = .ok snapshot ∧
      analyzePolicyRule (groupedDatabase true).domainRules 2 = .ok relations ∧
      relations.shadowingIds = [1] ∧ ¬ DomainSelects snapshot 2 := by
  have accepted : (groupedSnapshot true).toOption.isSome = true := by decide +kernel
  obtain ⟨snapshot, found⟩ := Option.isSome_iff_exists.mp accepted
  have loads := eq_ok_of_mem_toOption found
  obtain ⟨relations, reports, sound⟩ := (shadowed_never_selected loads).1
    { rule := sampleRule 2 [0x62] .block } (by simp [groupedDatabase])
  have shadowing : (analyzePolicyRule (groupedDatabase true).domainRules
      2).toOption.map RuleRelations.shadowingIds = some [1] := by
    decide +kernel
  have reports' : analyzePolicyRule (groupedDatabase true).domainRules 2 = .ok relations := reports
  rw [reports'] at shadowing
  refine ⟨snapshot, relations, loads, reports', Option.some.inj shadowing, ?_⟩
  refine sound { rule := sampleRule 1 [0x62] .allow, groupId := some 1 }
    (by simp [groupedDatabase]) ?_ (fun _ => by decide +kernel)
  rw [Option.some.inj shadowing]
  exact mem_cons_self ..

/-- With the group disabled the allow rule still counts as shadowing, and the
block rule is selected. -/
theorem disabled_group_reported_as_shadowing :
    ∃ snapshot relations, groupedSnapshot false = .ok snapshot ∧
      analyzePolicyRule (groupedDatabase false).domainRules 2 = .ok relations ∧
      1 ∈ relations.shadowingIds ∧ DomainSelects snapshot 2 := by
  have selected : (groupedSnapshot false).toOption.map (fun snapshot =>
      (matchDomainTarget snapshot [0x62] none .dns).toOption.map
        fun result => (result.matched, result.ruleId)) =
      some (some (true, 2)) := by
    decide +kernel
  have shadowing : (analyzePolicyRule (groupedDatabase false).domainRules
      2).toOption.map RuleRelations.shadowingIds = some [1] := by
    decide +kernel
  obtain ⟨snapshot, found, selected⟩ := Option.map_eq_some_iff.mp selected
  obtain ⟨result, matched, named⟩ := Option.map_eq_some_iff.mp selected
  obtain ⟨relations, reports, listed⟩ := Option.map_eq_some_iff.mp shadowing
  exact ⟨snapshot, relations, eq_ok_of_mem_toOption found,
    eq_ok_of_mem_toOption reports, listed ▸ mem_cons_self ..,
    _, _, _, result, eq_ok_of_mem_toOption matched,
    congrArg Prod.fst named, congrArg Prod.snd named⟩

/-- The enabled rules of the sample are reported as they are loaded. -/
theorem unreachable_iff_left_out_grouped : ∃ snapshot, groupedSnapshot true = .ok snapshot ∧
      ReportsUnreachable (groupedDatabase true)
        (groupedDatabase true).domainRules (DomainSelects snapshot)
        (DomainEnforces snapshot) := by
  have accepted : (groupedSnapshot true).toOption.isSome = true := by decide +kernel
  obtain ⟨snapshot, found⟩ := Option.isSome_iff_exists.mp accepted
  have loads := eq_ok_of_mem_toOption found
  exact ⟨snapshot, loads, (unreachable_iff_left_out loads).1⟩

/-- A rule that its disabled group leaves out is not reported. -/
theorem disabled_group_not_reported : ∃ relations, (groupedSnapshot false).toOption.isSome = true ∧
      analyzePolicyRule (groupedDatabase false).domainRules 1 = .ok relations ∧
      relations.unreachable = false ∧
      rowLoaded (groupedDatabase false) { rule := sampleRule 1 [0x62] .allow, groupId := some 1 } =
          false := by
  have reported : (analyzePolicyRule (groupedDatabase false).domainRules
      1).toOption.map RuleRelations.unreachable = some false := by
    decide +kernel
  obtain ⟨relations, reports, flag⟩ := Option.map_eq_some_iff.mp reported
  exact ⟨relations, by decide +kernel, eq_ok_of_mem_toOption reports, flag, by decide +kernel⟩

end JanusGate.PolicyAnalysis
