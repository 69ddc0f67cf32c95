import JanusGate.Common.PolicyDestination

/-!
# Observed rules do not interfere

A block rule is only observed for a client when the rule itself, its group or
its source, the client, or the whole policy is in observe mode.  The loader
folds the modes of groups and sources into the rule, so that the snapshot
knows the mode of the rule and the modes of clients only.

The enforced effect comes from the rules that enforce for the client alone:
whatever is observed may change which rule is reported, and nothing else.
-/

namespace JanusGate

namespace Policy

open FirstBest List

/-! ## Stored rows -/

/-- The mode that the loader gives a rule. -/
def loadedEnforcement (rule : PolicyEnforcement)
    (source group : Option PolicyEnforcement) : PolicyEnforcement :=
  if rule = .observe ∨ source = some .observe ∨ group = some .observe then .observe
  else .enforce

/-- One active domain rule, with the modes of its blocklist source and its
group where it has them. -/
structure DomainRuleRow where
  rule : PolicyRuleInput
  source : Option PolicyEnforcement
  group : Option PolicyEnforcement

/-- The rule that `read_domain_rules` hands to the builder. -/
def DomainRuleRow.load (row : DomainRuleRow) : PolicyRuleInput :=
  { row.rule with enforcement := loadedEnforcement row.rule.enforcement row.source row.group }

/-- One active destination rule, with the mode of its group. -/
structure DestinationRuleRow where
  rule : PolicyDestinationRuleInput
  group : Option PolicyEnforcement

/-- The rule that `read_destination_rules` hands to the builder. -/
def DestinationRuleRow.load (row : DestinationRuleRow) : PolicyDestinationRuleInput :=
  { row.rule with enforcement := loadedEnforcement row.rule.enforcement none row.group }

/-- A block rule that some mode keeps from being enforced for a client. -/
def onlyObserved (snapshot : PolicySnapshot) (client : Option PolicyClient) (effect : PolicyEffect)
    (rule : PolicyEnforcement) (source group : Option PolicyEnforcement) : Prop :=
  effect = .block ∧ (rule = .observe ∨ source = some .observe ∨ group = some .observe ∨
      clientIsObserved snapshot client = true)

def DomainRuleRow.observed (client : Option PolicyClient)
    (snapshot : PolicySnapshot) (row : DomainRuleRow) : Prop :=
  onlyObserved snapshot client row.rule.effect row.rule.enforcement row.source row.group

def DestinationRuleRow.observed (client : Option PolicyClient)
    (snapshot : PolicySnapshot) (row : DestinationRuleRow) : Prop :=
  onlyObserved snapshot client row.rule.effect row.rule.enforcement none row.group

variable (snapshot : PolicySnapshot)

theorem effectiveEnforcement_loaded (client : Option PolicyClient) (effect : PolicyEffect)
    (rule : PolicyEnforcement) (source group : Option PolicyEnforcement) :
    effectiveEnforcement snapshot effect (loadedEnforcement rule source group) client = .enforce ↔
      ¬ onlyObserved snapshot client effect rule source group := by
  unfold effectiveEnforcement loadedEnforcement onlyObserved
  by_cases observed : rule = .observe ∨ source = some .observe ∨ group = some .observe
  · rw [if_pos observed]
    have grouped : rule = .observe ∨ source = some .observe ∨
        group = some .observe ∨ clientIsObserved snapshot client = true := by
      tauto
    cases effect <;> simp [grouped]
  · cases effect <;> cases clientIsObserved snapshot client <;> simp

/-! ## Effects of accepted rules -/

theorem policyPriority_block (valid : effectSourceValid effect source = true)
    (scope : PolicyScope) :
    effect = .block ↔ policyPriority effect source scope ≤ 3 := by
  unfold policyPriority
  by_cases isGlobal : scope = .global
  · cases effect <;> cases source <;> simp_all [effectSourceValid]
  · cases effect <;> cases source <;> simp_all [effectSourceValid]

/-! ## The highest rule -/

def HighestBlocks {ρ : Type} (better : ρ → ρ → Bool)
    (effect : ρ → PolicyEffect) (candidates : List ρ) : Prop :=
  ∃ rule ∈ candidates, effect rule = .block ∧ ∀ other ∈ candidates, better other rule = false

variable {ρ : Type} {effect : ρ → PolicyEffect}

theorem HighestBlocks.congr (same : ∀ rule, rule ∈ left ↔ rule ∈ right) :
    HighestBlocks better effect left ↔ HighestBlocks better effect right := by
  unfold HighestBlocks
  simp only [same]

theorem scan_blocks_iff (ranking : Ranking better) {priority : ρ → Nat}
    (ranked : ∀ rule ∈ candidates, effect rule = .block ↔ priority rule ≤ 3)
    (tied : ∀ left right, better left right = false →
      better right left = false → priority left = priority right) :
    (∃ best, scan better candidates = some best ∧ effect best = .block) ↔
      HighestBlocks better effect candidates := by
  apply scan_satisfies_iff ranking
  intro left leftMember right rightMember notBetter notWorse blocks
  rw [ranked right rightMember, ← tied left right notBetter notWorse, ← ranked left leftMember]
  exact blocks

def enforcedRules (snapshot : PolicySnapshot) (client : Option PolicyClient)
    (target : PolicyDomainTarget) (domain : Bytes) (rules : List StoredRule) : List StoredRule :=
  rules.filter fun rule => ruleMatches client target domain rule &&
    ruleEnforced snapshot client rule

def enforcedDestinations (snapshot : PolicySnapshot)
    (destination : PolicyDestination) (client : Option PolicyClient)
    (rules : List StoredDestinationRule) : List StoredDestinationRule :=
  rules.filter fun rule => destinationRuleMatches rule destination client &&
    destinationRuleEnforced snapshot client rule

theorem reportScan_effect (client : Option PolicyClient) (target : PolicyDomainTarget)
    (domain : Bytes) (rules : List StoredRule) :
    (reportScan snapshot client target domain rules).effect = .block ↔
      ∃ best, scan ruleBetter (enforcedRules snapshot client target domain
        rules) = some best ∧ best.effect = .block := by
  unfold reportScan linearScan enforcedRules
  cases scan ruleBetter (rules.filter (ruleMatches client target domain)) <;>
    cases scan ruleBetter (rules.filter fun rule =>
      ruleMatches client target domain rule && ruleEnforced snapshot client rule) <;>
    simp [reportEnforcing, reportSelected]

theorem reportDestination_effect (destination : PolicyDestination) (client : Option PolicyClient)
    (rules : List StoredDestinationRule) :
    (reportDestination snapshot client (destinationWinners snapshot
        destination client rules)).effect = .block ↔
      ∃ best, scan destinationBetter (enforcedDestinations snapshot
        destination client rules) = some best ∧ best.effect = .block := by
  unfold reportDestination destinationWinners enforcedDestinations
  cases scan destinationBetter (rules.filter fun rule =>
      destinationRuleMatches rule destination client) <;>
    cases scan destinationBetter (rules.filter fun rule =>
      destinationRuleMatches rule destination client &&
        destinationRuleEnforced snapshot client rule) <;>
    simp

/-! ## Effects of built snapshots -/

section Built

variable {idn2LookupU8 : Bytes → Option Bytes} {enforcement : Option PolicyEnforcementConfig}
  {snapshot : PolicySnapshot}
  (built : policySnapshotBuildConfigured idn2LookupU8 domainHash inputs destinationInputs
    enforcement generation = .ok snapshot)

include built

variable {client : Option PolicyClient}

theorem matchDomainTarget_blocks_iff {accepted : List BuildRule}
    (acceptedOk : prepareRules idn2LookupU8 inputs = .ok accepted)
    (matched : matchDomainTarget snapshot domain client target = .ok result) :
    result.effect = .block ↔ HighestBlocks ruleBetter StoredRule.effect
        (enforcedRules snapshot client target domain (accepted.map storeRule)) := by
  have checks : domainIsNormalized domain = true ∧ clientValid client = true := by
    unfold matchDomainTarget at matched
    split at matched
    · cases matched
    case isFalse passed => simpa using passed
  obtain ⟨prepared, preparedOk, rules, _⟩ := policySnapshotBuildConfigured_rules built
  rw [acceptedOk] at preparedOk
  cases preparedOk
  have canonical : ScanOrder accepted (canonicalRules accepted) :=
    ⟨domainCanon.sorted_perm accepted, .inr rfl⟩
  rw [matchDomainTarget_rules built checks.1 checks.2, rules,
    reportScan_retained client target snapshot domain canonical] at matched
  cases matched
  have ranked : ∀ rule ∈ enforcedRules snapshot client target domain
      ((canonicalRules accepted).map storeRule), rule.effect = .block ↔ rule.priority ≤ 3 := by
    intro rule member
    obtain ⟨build, buildMember, rfl⟩ := mem_map.mp (mem_filter.mp member).1
    obtain ⟨input, _, inputOk⟩ := (mem_prepareRules_iff acceptedOk).mp
      (canonical.1.mem_iff.mp buildMember)
    exact policyPriority_block (prepareRule_accepted inputOk).effectSource build.scope
  rw [reportScan_effect, scan_blocks_iff ruleBetter_ranking ranked]
  · apply HighestBlocks.congr
    intro rule
    unfold enforcedRules
    rw [mem_filter, mem_filter, (canonical.1.map storeRule).mem_iff]
  · intro left right notBetter notWorse
    rw [← Bool.not_eq_true, ruleBetter_iff] at notBetter notWorse
    omega

theorem policyMatchDestination_blocks_iff {accepted : List BuildDestinationRule}
    (acceptedOk : prepareDestinationRules destinationInputs = .ok accepted)
    (matched : policyMatchDestination snapshot destination client = .ok result) :
    result.effect = .block ↔ HighestBlocks destinationBetter StoredDestinationRule.effect
        (enforcedDestinations snapshot destination client (accepted.map storeDestinationRule)) := by
  have checks : destinationValid destination = true ∧ clientValid client = true := by
    unfold policyMatchDestination at matched
    split at matched
    · cases matched
    case isFalse passed => simpa using passed
  obtain ⟨prepared, preparedOk, rules⟩ := policySnapshotBuildConfigured_destinations built
  rw [acceptedOk] at preparedOk
  cases preparedOk
  rw [policyMatchDestination_eq snapshot checks.1 checks.2, rules,
    destinationWinners_retained] at matched
  cases matched
  have permuted := destinationCanon.sorted_perm accepted
  have ranked : ∀ rule ∈ enforcedDestinations snapshot destination client
      ((destinationCanon.sorted accepted).map storeDestinationRule),
        rule.effect = .block ↔ rule.priority ≤ 3 := by
    intro rule member
    obtain ⟨build, buildMember, rfl⟩ := mem_map.mp (mem_filter.mp member).1
    obtain ⟨input, _, inputOk⟩ := (Outcome.mem_forall₂_ok_iff
      (prepareDestinationRules_forall₂ acceptedOk)).mp (permuted.mem_iff.mp buildMember)
    exact policyPriority_block (prepareDestinationRule_accepted inputOk).effectSource build.scope
  rw [reportDestination_effect, scan_blocks_iff destinationBetter_ranking ranked]
  · apply HighestBlocks.congr
    intro rule
    unfold enforcedDestinations
    rw [mem_filter, mem_filter, (permuted.map storeDestinationRule).mem_iff]
  · intro left right notBetter notWorse
    rw [← Bool.not_eq_true, destinationBetter_iff] at notBetter notWorse
    omega

end Built

/-! ## Two snapshots -/

/-- The same rows enforce in two snapshots: any other row of either one is
only observed there. -/
def SameEnforced {ι : Type} (observed : PolicySnapshot → ι → Prop)
    (left right : PolicySnapshot) (leftRows rightRows : List ι) : Prop :=
  ∀ row, (row ∈ leftRows ∧ ¬ observed left row) ↔ (row ∈ rightRows ∧ ¬ observed right row)

/-- Rules that come from rows which enforce alike are enforced alike. -/
theorem mem_enforced_iff {ι : Type} {step : ι → Except Int ρ} {observed : PolicySnapshot → ι → Prop}
    {leftRows rightRows : List ι} (same : SameEnforced observed left right leftRows rightRows)
    (leftOk : List.Forall₂ (fun row rule => step row = .ok rule) leftRows leftRules)
    (rightOk : List.Forall₂ (fun row rule => step row = .ok rule) rightRows rightRules)
    {enforced : PolicySnapshot → ρ → Prop} (byRow : ∀ snapshot row rule, step row = .ok rule →
      (enforced snapshot rule ↔ ¬ observed snapshot row)) (rule : ρ) :
    (rule ∈ leftRules ∧ enforced left rule) ↔ (rule ∈ rightRules ∧ enforced right rule) := by
  rw [Outcome.mem_forall₂_ok_iff leftOk, Outcome.mem_forall₂_ok_iff rightOk]
  constructor
  · rintro ⟨⟨row, member, rowOk⟩, isEnforced⟩
    rw [byRow left row rule rowOk] at isEnforced
    obtain ⟨otherMember, otherEnforced⟩ := (same row).mp ⟨member, isEnforced⟩
    exact ⟨⟨row, otherMember, rowOk⟩, (byRow right row rule rowOk).mpr otherEnforced⟩
  · rintro ⟨⟨row, member, rowOk⟩, isEnforced⟩
    rw [byRow right row rule rowOk] at isEnforced
    obtain ⟨otherMember, otherEnforced⟩ := (same row).mpr ⟨member, isEnforced⟩
    exact ⟨⟨row, otherMember, rowOk⟩, (byRow left row rule rowOk).mpr otherEnforced⟩

theorem mem_candidates_iff {α : Type} {store : α → ρ} {leftEnforced rightEnforced : ρ → Bool}
    {leftRules rightRules : List α}
    (same : ∀ rule, (rule ∈ leftRules ∧ leftEnforced (store rule) = true) ↔
        (rule ∈ rightRules ∧ rightEnforced (store rule) = true)) (matching : ρ → Bool)
    (stored : ρ) :
    stored ∈ (leftRules.map store).filter (fun rule => matching rule && leftEnforced rule) ↔
      stored ∈ (rightRules.map store).filter (fun rule => matching rule && rightEnforced rule) := by
  simp only [mem_filter, mem_map, Bool.and_eq_true]
  constructor
  · rintro ⟨⟨rule, member, rfl⟩, fits, enforced⟩
    obtain ⟨otherMember, otherEnforced⟩ := (same rule).mp ⟨member, enforced⟩
    exact ⟨⟨rule, otherMember, rfl⟩, fits, otherEnforced⟩
  · rintro ⟨⟨rule, member, rfl⟩, fits, enforced⟩
    obtain ⟨otherMember, otherEnforced⟩ := (same rule).mpr ⟨member, enforced⟩
    exact ⟨⟨rule, otherMember, rfl⟩, fits, otherEnforced⟩

theorem effect_eq_of_block_iff {left right : PolicyEffect} (same : left = .block ↔ right = .block) :
    left = right := by
  cases left <;> cases right <;> simp_all

section Pair

variable {idn2LookupU8 : Bytes → Option Bytes} {leftHash rightHash : Bytes → UInt64}
  {leftRows rightRows : List DomainRuleRow}
  {leftDestinations rightDestinations : List DestinationRuleRow}
  {leftConfig rightConfig : Option PolicyEnforcementConfig}
  {leftGeneration rightGeneration : Nat} {left right : PolicySnapshot}
  {client : Option PolicyClient}
  (leftBuilt : policySnapshotBuildConfigured idn2LookupU8 leftHash (leftRows.map DomainRuleRow.load)
    (leftDestinations.map DestinationRuleRow.load) leftConfig leftGeneration = .ok left)
  (rightBuilt : policySnapshotBuildConfigured idn2LookupU8 rightHash
    (rightRows.map DomainRuleRow.load) (rightDestinations.map DestinationRuleRow.load) rightConfig
    rightGeneration = .ok right)

include leftBuilt rightBuilt

theorem domain_effect_eq
    (same : SameEnforced (DomainRuleRow.observed client) left right leftRows rightRows)
    (domain : Bytes) (target : PolicyDomainTarget) :
    (matchDomainTarget left domain client target).map PolicyMatch.effect =
      (matchDomainTarget right domain client target).map PolicyMatch.effect := by
  by_cases checks : domainIsNormalized domain = true ∧ clientValid client = true
  · obtain ⟨normalized, valid⟩ := checks
    have leftMatch := matchDomainTarget_rules leftBuilt normalized valid target
    have rightMatch := matchDomainTarget_rules rightBuilt normalized valid target
    obtain ⟨leftAccepted, leftOk, _⟩ := policySnapshotBuildConfigured_rules leftBuilt
    obtain ⟨rightAccepted, rightOk, _⟩ := policySnapshotBuildConfigured_rules rightBuilt
    have byRow : ∀ snapshot (row : DomainRuleRow) rule,
        prepareRule idn2LookupU8 row.load = .ok rule →
          (ruleEnforced snapshot client (storeRule rule) = true ↔
            ¬ row.observed client snapshot) := by
      intro snapshot row rule rowOk
      have accepted := prepareRule_accepted rowOk
      unfold ruleEnforced storeRule
      rw [beq_iff_eq, accepted.effect, accepted.enforcement]
      exact effectiveEnforcement_loaded ..
    have sameRules := mem_enforced_iff same
      (forall₂_map_left_iff.mp (prepareRules_forall₂ leftOk))
      (forall₂_map_left_iff.mp (prepareRules_forall₂ rightOk)) byRow
    rw [leftMatch, rightMatch]
    apply congrArg Except.ok
    apply effect_eq_of_block_iff
    rw [matchDomainTarget_blocks_iff leftBuilt leftOk leftMatch,
      matchDomainTarget_blocks_iff rightBuilt rightOk rightMatch]
    exact HighestBlocks.congr (mem_candidates_iff sameRules (ruleMatches client target domain))
  · rw [matchDomainTarget_refuses left checks, matchDomainTarget_refuses right checks]

theorem destination_effect_eq (same : SameEnforced (DestinationRuleRow.observed client) left right
      leftDestinations rightDestinations)
    (destination : PolicyDestination) :
    (policyMatchDestination left destination client).map PolicyDestinationMatch.effect =
      (policyMatchDestination right destination client).map PolicyDestinationMatch.effect := by
  by_cases checks : destinationValid destination = true ∧ clientValid client = true
  · obtain ⟨destinationOk, valid⟩ := checks
    have leftMatch := policyMatchDestination_eq left destinationOk valid
    have rightMatch := policyMatchDestination_eq right destinationOk valid
    obtain ⟨leftAccepted, leftOk, _⟩ := policySnapshotBuildConfigured_destinations leftBuilt
    obtain ⟨rightAccepted, rightOk, _⟩ := policySnapshotBuildConfigured_destinations rightBuilt
    have byRow : ∀ snapshot (row : DestinationRuleRow) rule,
        prepareDestinationRule row.load = .ok rule → (destinationRuleEnforced snapshot client
              (storeDestinationRule rule) = true ↔
            ¬ row.observed client snapshot) := by
      intro snapshot row rule rowOk
      have accepted := prepareDestinationRule_accepted rowOk
      unfold destinationRuleEnforced storeDestinationRule
      rw [beq_iff_eq, accepted.effect, accepted.enforcement]
      exact effectiveEnforcement_loaded ..
    have sameRules := mem_enforced_iff same
      (forall₂_map_left_iff.mp (prepareDestinationRules_forall₂ leftOk))
      (forall₂_map_left_iff.mp (prepareDestinationRules_forall₂ rightOk))
      byRow
    rw [leftMatch, rightMatch]
    apply congrArg Except.ok
    apply effect_eq_of_block_iff
    rw [policyMatchDestination_blocks_iff leftBuilt leftOk leftMatch,
      policyMatchDestination_blocks_iff rightBuilt rightOk rightMatch]
    exact HighestBlocks.congr (mem_candidates_iff sameRules
      fun rule => destinationRuleMatches rule destination client)
  · rw [policyMatchDestination_refuses left checks, policyMatchDestination_refuses right checks]

end Pair

/-- The enforced effect depends on the rules that enforce for the client only. -/
theorem observed_rules_do_not_interfere {idn2LookupU8 : Bytes → Option Bytes}
    {leftHash rightHash : Bytes → UInt64}
    {leftRows rightRows : List DomainRuleRow}
    {leftDestinations rightDestinations : List DestinationRuleRow}
    {leftConfig rightConfig : Option PolicyEnforcementConfig}
    {leftGeneration rightGeneration : Nat} {left right : PolicySnapshot}
    (leftBuilt : policySnapshotBuildConfigured idn2LookupU8 leftHash
      (leftRows.map DomainRuleRow.load)
      (leftDestinations.map DestinationRuleRow.load) leftConfig
      leftGeneration = .ok left)
    (rightBuilt : policySnapshotBuildConfigured idn2LookupU8 rightHash
      (rightRows.map DomainRuleRow.load)
      (rightDestinations.map DestinationRuleRow.load) rightConfig
      rightGeneration = .ok right)
    {client : Option PolicyClient}
    (sameRules : SameEnforced (DomainRuleRow.observed client) left right leftRows rightRows)
    (sameDestinations : SameEnforced (DestinationRuleRow.observed client) left
      right leftDestinations rightDestinations) :
    (∃ accepted acceptedDestinations, prepareRules idn2LookupU8 (leftRows.map DomainRuleRow.load) =
        .ok accepted ∧
      prepareDestinationRules (leftDestinations.map DestinationRuleRow.load) =
          .ok acceptedDestinations ∧
      (∀ domain target result, matchDomainTarget left domain client target = .ok result →
          (result.effect = .block ↔ HighestBlocks ruleBetter StoredRule.effect
              (enforcedRules left client target domain (accepted.map storeRule)))) ∧
      (∀ destination result, policyMatchDestination left destination client = .ok result →
          (result.effect = .block ↔ HighestBlocks destinationBetter StoredDestinationRule.effect
              (enforcedDestinations left destination client
                (acceptedDestinations.map storeDestinationRule))))) ∧
    (∀ domain target, (matchDomainTarget left domain client target).map PolicyMatch.effect =
        (matchDomainTarget right domain client target).map PolicyMatch.effect) ∧
    (∀ destination, (policyMatchDestination left destination client).map
          PolicyDestinationMatch.effect =
        (policyMatchDestination right destination client).map PolicyDestinationMatch.effect) := by
  obtain ⟨accepted, acceptedOk, _⟩ := policySnapshotBuildConfigured_rules leftBuilt
  obtain ⟨acceptedDestinations, destinationsOk, _⟩ :=
    policySnapshotBuildConfigured_destinations leftBuilt
  refine ⟨⟨accepted, acceptedDestinations, acceptedOk, destinationsOk, ?_, ?_⟩, ?_, ?_⟩
  · intro domain target result matched
    exact matchDomainTarget_blocks_iff leftBuilt acceptedOk matched
  · intro destination result matched
    exact policyMatchDestination_blocks_iff leftBuilt destinationsOk matched
  · exact domain_effect_eq leftBuilt rightBuilt sameRules
  · exact destination_effect_eq leftBuilt rightBuilt sameDestinations

def enforcedSample : List DomainRuleRow := [⟨sampleRule 2 [0x62] .block, none, none⟩]

def observedSample : List DomainRuleRow :=
  ⟨sampleRule 1 [0x61, 0x2e, 0x62] .block, none, some .observe⟩ :: enforcedSample

/-- The observed rule becomes the reported one for "a.b", which stays blocked
by the enforced rule. -/
theorem observed_rules_do_not_interfere_reported : ∃ left right,
      policySnapshotBuildConfigured some (fun _ => 0)
        (enforcedSample.map DomainRuleRow.load) [] none 1 = .ok left ∧
      policySnapshotBuildConfigured some (fun _ => 0)
        (observedSample.map DomainRuleRow.load) [] none 2 = .ok right ∧
      (∀ domain target, (matchDomainTarget left domain none target).map PolicyMatch.effect =
          (matchDomainTarget right domain none target).map PolicyMatch.effect) ∧
      (matchDomainTarget left [0x61, 0x2e, 0x62] none .dns).toOption.map
        (fun result => (result.effect, result.ruleId)) = some (.block, 2) ∧
      (matchDomainTarget right [0x61, 0x2e, 0x62] none .dns).toOption.map
        (fun result => (result.effect, result.ruleId)) = some (.block, 1) := by
  have leftFacts : (policySnapshotBuildConfigured some (fun _ => 0)
      (enforcedSample.map DomainRuleRow.load) [] none 1).toOption.map (fun snapshot =>
        (clientIsObserved snapshot none,
          (matchDomainTarget snapshot [0x61, 0x2e, 0x62] none .dns).toOption.map
            fun result => (result.effect, result.ruleId))) =
      some (false, some (.block, 2)) := by
    decide +kernel
  have rightFacts : (policySnapshotBuildConfigured some (fun _ => 0)
      (observedSample.map DomainRuleRow.load) [] none 2).toOption.map (fun snapshot =>
        (clientIsObserved snapshot none,
          (matchDomainTarget snapshot [0x61, 0x2e, 0x62] none .dns).toOption.map
            fun result => (result.effect, result.ruleId))) =
      some (false, some (.block, 1)) := by
    decide +kernel
  cases leftBuilt : policySnapshotBuildConfigured some (fun _ => 0)
      (enforcedSample.map DomainRuleRow.load) [] none 1 with
  | error status =>
    rw [leftBuilt] at leftFacts
    cases leftFacts
  | ok left =>
    cases rightBuilt : policySnapshotBuildConfigured some (fun _ => 0)
        (observedSample.map DomainRuleRow.load) [] none 2 with
    | error status =>
      rw [rightBuilt] at rightFacts
      cases rightFacts
    | ok right =>
      rw [leftBuilt] at leftFacts
      rw [rightBuilt] at rightFacts
      simp only [Except.toOption, Option.map_some, Option.some.injEq,
        Prod.mk.injEq] at leftFacts rightFacts
      obtain ⟨leftEnforces, leftReport⟩ := leftFacts
      obtain ⟨rightEnforces, rightReport⟩ := rightFacts
      have sameRules : SameEnforced (DomainRuleRow.observed none) left
          right enforcedSample observedSample := by
        intro row
        unfold DomainRuleRow.observed onlyObserved
        rw [leftEnforces, rightEnforces]
        constructor
        · rintro ⟨member, enforced⟩
          exact ⟨mem_cons_of_mem _ member, enforced⟩
        · rintro ⟨member, enforced⟩
          rcases mem_cons.mp member with rfl | kept
          · simp [sampleRule] at enforced
          · exact ⟨kept, enforced⟩
      have apart := @observed_rules_do_not_interfere some (fun _ => 0)
        (fun _ => 0) enforcedSample observedSample [] [] none none 1 2
        left right leftBuilt rightBuilt none sameRules
        (fun row => by simp)
      exact ⟨left, right, rfl, rfl, apart.2.1, leftReport, rightReport⟩

end Policy

end JanusGate
