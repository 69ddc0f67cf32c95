import Mathlib.Data.Prod.Lex
import Mathlib.Order.WithBot
import JanusGate.Common.PolicyLookup

/-!
# Destination rules in order of precedence

Destination matching folds one comparison over all rules of a snapshot.  The
comparison packs transport, port and prefix length into one number; it is the
lexicographic order of priority, transport, port, prefix and identifier.
-/

namespace JanusGate

namespace Policy

open FirstBest Outcome List

def destinationRuleEnforced (snapshot : PolicySnapshot)
    (client : Option PolicyClient) (rule : StoredDestinationRule) : Bool :=
  effectiveEnforcement snapshot rule.effect rule.enforcement client == .enforce

/-- `destinationRulePrecedes` between two rules. -/
def destinationBetter (candidate current : StoredDestinationRule) : Bool :=
  destinationRulePrecedes candidate (some current)

/-- The prefix length of a rule; a rule without an address has none. -/
def prefixRank (rule : StoredDestinationRule) : WithBot ℕ :=
  if rule.hasAddress then WithBot.some rule.prefixLength.toNat else ⊥

/-- Priority, then one transport, then one port, then the longer prefix, then the smaller
identifier. -/
def destinationRank (rule : StoredDestinationRule) : ℕ ×ₗ Bool ×ₗ Bool ×ₗ WithBot ℕ ×ₗ ℕᵒᵈ :=
  toLex (rule.priority, toLex (decide (rule.transport ≠ .any), toLex (rule.hasPort,
        toLex (prefixRank rule, OrderDual.toDual rule.id))))

/-! ## The packed comparison -/

theorem destinationBetter_iff :
    destinationBetter candidate current = true ↔ candidate.priority > current.priority ∨
        (candidate.priority = current.priority ∧ (destinationRuleSpecificity candidate >
              destinationRuleSpecificity current ∨
            (destinationRuleSpecificity candidate = destinationRuleSpecificity current ∧
              candidate.id < current.id))) := by
  simp only [destinationBetter, destinationRulePrecedes, Bool.or_eq_true,
    Bool.and_eq_true, decide_eq_true_eq, beq_iff_eq]
  tauto

theorem destinationBetter_ranking :
    Ranking destinationBetter where
  asymm first second better := by
    rw [← Bool.not_eq_true]
    rw [destinationBetter_iff] at *
    omega
  negTrans first second third notFirst notSecond := by
    rw [← Bool.not_eq_true] at *
    rw [destinationBetter_iff] at *
    omega

def prefixValue (rule : StoredDestinationRule) : ℕ :=
  if rule.hasAddress then rule.prefixLength.toNat + 1 else 0

theorem prefixRank_lt_iff :
    prefixRank left < prefixRank right ↔ prefixValue left < prefixValue right := by
  unfold prefixRank prefixValue
  cases left.hasAddress <;> cases right.hasAddress <;> simp

theorem prefixRank_eq_iff :
    prefixRank left = prefixRank right ↔ prefixValue left = prefixValue right := by
  unfold prefixRank prefixValue
  cases left.hasAddress <;> cases right.hasAddress <;> simp

theorem boolLt_iff {left right : Bool} : left < right ↔ left.toNat < right.toNat := by
  cases left <;> cases right <;> decide

theorem prefixValue_le (bounded : rule.prefixLength.toNat ≤ 128) : prefixValue rule ≤ 129 := by
  unfold prefixValue
  split <;> omega

theorem destinationRuleSpecificity_eq (rule : StoredDestinationRule) :
    destinationRuleSpecificity rule = prefixValue rule + 256 * rule.hasPort.toNat +
        512 * (decide (rule.transport ≠ .any)).toNat := by
  unfold destinationRuleSpecificity prefixValue
  by_cases anyTransport : rule.transport = .any
  · cases rule.hasPort <;> simp [anyTransport]
  · cases rule.hasPort <;> simp [anyTransport]

/-- A prefix of at most 128 bits keeps the packed value below `2 ^ 16`. -/
theorem destinationRuleSpecificity_lt (bounded : rule.prefixLength.toNat ≤ 128) :
    destinationRuleSpecificity rule < 2 ^ 16 := by
  have prefixBound := prefixValue_le bounded
  have portBound := rule.hasPort.toNat_le
  have transportBound := (decide (rule.transport ≠ .any)).toNat_le
  rw [destinationRuleSpecificity_eq]
  omega

/-- The packed value orders rules by transport, port and prefix. -/
theorem destinationBetter_iff_rank (candidateBound : candidate.prefixLength.toNat ≤ 128)
    (currentBound : current.prefixLength.toNat ≤ 128) :
    destinationBetter candidate current = true ↔
      destinationRank current < destinationRank candidate := by
  have candidatePrefix := prefixValue_le candidateBound
  have currentPrefix := prefixValue_le currentBound
  have candidatePort := candidate.hasPort.toNat_le
  have currentPort := current.hasPort.toNat_le
  rw [destinationBetter_iff]
  unfold destinationRank
  simp only [destinationRuleSpecificity_eq, Prod.Lex.toLex_lt_toLex, OrderDual.toDual_lt_toDual,
    prefixRank_lt_iff, prefixRank_eq_iff, boolLt_iff, ← boolToNat_inj]
  omega

/-! ## The scan of a snapshot -/

def reportDestination (snapshot : PolicySnapshot) (client : Option PolicyClient)
    (winners : Winners StoredDestinationRule) : PolicyDestinationMatch :=
  let selectedHalf : PolicyDestinationMatch :=
    match winners.selected with
    | none => {}
    | some rule =>
      let enforcement := effectiveEnforcement snapshot rule.effect rule.enforcement client
      { configuredEffect := rule.effect
        enforcement := enforcement
        wouldHaveBlocked := rule.effect == .block && enforcement == .observe
        matched := true
        ruleId := rule.id
        statisticsId := rule.statisticsId
        source := rule.source
        attribution := some rule.attribution }
  match winners.enforcing with
  | none => selectedHalf
  | some rule =>
    { selectedHalf with
      effect := rule.effect
      enforcingMatched := true
      enforcingRuleId := rule.id
      enforcingStatisticsId := rule.statisticsId
      enforcingSource := rule.source
      enforcingAttribution := some rule.attribution }

def destinationWinners (snapshot : PolicySnapshot)
    (destination : PolicyDestination) (client : Option PolicyClient)
    (rules : List StoredDestinationRule) : Winners StoredDestinationRule where
  selected := scan destinationBetter (rules.filter fun rule =>
    destinationRuleMatches rule destination client)
  enforcing := scan destinationBetter (rules.filter fun rule =>
    destinationRuleMatches rule destination client && destinationRuleEnforced snapshot client rule)

variable (snapshot : PolicySnapshot)

theorem considerDestinationRule_fold (destination : PolicyDestination)
    (client : Option PolicyClient) (rules : List StoredDestinationRule) :
    rules.foldl (considerDestinationRule snapshot destination client) {} =
      destinationWinners snapshot destination client rules := by
  apply Winners.foldl_eq
  intro winners rule
  have step : ∀ best : Option StoredDestinationRule,
      (if destinationRulePrecedes rule best then some rule else best) =
        improve destinationBetter best rule := by
    intro best
    cases best <;> rfl
  unfold considerDestinationRule
  simp only [step]
  cases enforced : destinationRuleEnforced snapshot client rule with
  | false =>
    unfold destinationRuleEnforced at enforced
    simp [enforced]
  | true =>
    unfold destinationRuleEnforced at enforced
    simp [enforced, step]

theorem policyMatchDestination_eq (destinationOk : destinationValid destination = true)
    (clientOk : clientValid client = true) :
    policyMatchDestination snapshot destination client =
      .ok (reportDestination snapshot client (destinationWinners snapshot
        destination client snapshot.destinationRules)) := by
  unfold policyMatchDestination reportDestination
  rw [destinationOk, clientOk, considerDestinationRule_fold]
  obtain ⟨selected, enforcing⟩ :=
    destinationWinners snapshot destination client snapshot.destinationRules
  cases enforcing <;> rfl

theorem policyMatchDestination_refuses
    (fails : ¬ (destinationValid destination = true ∧ clientValid client = true)) :
    policyMatchDestination snapshot destination client = .error eInval := by
  have refused : (!destinationValid destination || !clientValid client) = true := by
    simpa [or_iff_not_imp_left] using fails
  unfold policyMatchDestination
  rw [if_pos refused]

/-! ## Accepted rules -/

def packedDestination (rule : BuildDestinationRule) : Nat := rule.attribution.length + 1

theorem prepareDestinationRules_eq_ok_iff : prepareDestinationRules inputs = .ok prepared ↔
      inputs.length ≤ uint32Max ∧
      List.Forall₂ (fun input rule => prepareDestinationRule input = .ok rule) inputs prepared ∧
      (prepared.map packedDestination).sum ≤ uint32Max := by
  have loop := @packedLoop_eq_ok_iff _ _ prepareDestinationRule
    packedDestination prepareDestinationRulesFrom (fun _ => rfl)
    (fun _ _ _ => rfl) inputs 0 prepared (Nat.zero_le _)
  unfold prepareDestinationRules
  rw [guard_eq_ok, loop, Nat.not_lt, Nat.zero_add]

theorem prepareDestinationRules_forall₂ (success : prepareDestinationRules inputs = .ok prepared) :
    List.Forall₂ (fun input rule => prepareDestinationRule input = .ok rule) inputs prepared :=
  (prepareDestinationRules_eq_ok_iff.mp success).2.1

/-- What the builder keeps of an accepted destination rule. -/
structure AcceptedDestination (input : PolicyDestinationRuleInput)
    (rule : BuildDestinationRule) : Prop where
  id : rule.id = input.id
  statisticsId : rule.statisticsId = input.statisticsId
  effect : rule.effect = input.effect
  enforcement : rule.enforcement = input.enforcement
  effectSource : effectSourceValid rule.effect rule.source = true
  prefixLength : rule.prefixLength.toNat ≤ 128

theorem destinationAddressNormalize_prefix
    (normalized : destinationAddressNormalize input = .ok (family, address, prefixLength)) :
    prefixLength.toNat ≤ 128 := by
  unfold destinationAddressNormalize at normalized
  split at normalized
  · split at normalized
    · cases normalized
    · cases normalized
      decide
  · split at normalized
    · split at normalized
      · cases normalized
      case isFalse bounded =>
        cases normalized
        rw [UInt8.not_lt, UInt8.le_iff_toNat_le] at bounded
        exact bounded.trans (by decide)
    · split at normalized
      · cases normalized
      case isFalse bounded =>
        cases normalized
        rw [UInt8.not_lt, UInt8.le_iff_toNat_le] at bounded
        exact bounded
    · cases normalized

section

variable (success : prepareDestinationRule input = .ok rule)

include success

theorem prepareDestinationRule_eq : input.id ≠ 0 ∧
      effectSourceValid input.effect input.source = true ∧
      ∃ family address prefixLength scope,
        destinationAddressNormalize input = .ok (family, address, prefixLength) ∧
        policyScopeNormalize input.scope = .ok scope ∧
        rule = ⟨input.id, input.statisticsId, input.attribution, input.effect,
          input.enforcement, input.source, input.transport, input.hasAddress,
          family, address, prefixLength, input.hasPort, input.port, scope⟩ := by
  unfold prepareDestinationRule at success
  split at success
  · cases success
  case isFalse checks =>
    simp only [not_or, Bool.not_eq_false] at checks
    split at success
    case h_1 family address prefixLength scope _ addressOk scopeOk _ =>
      cases success
      exact ⟨checks.1, checks.2.1, family, address, prefixLength, scope, addressOk, scopeOk, rfl⟩
    case h_2 => cases success

theorem prepareDestinationRule_accepted : AcceptedDestination input rule := by
  obtain ⟨_, valid, _, _, _, _, addressOk, _, rfl⟩ := prepareDestinationRule_eq success
  exact ⟨rfl, rfl, rfl, rfl, valid, destinationAddressNormalize_prefix addressOk⟩

end

theorem policySnapshotBuildConfigured_destinations {snapshot : PolicySnapshot}
    (built : policySnapshotBuildConfigured idn2LookupU8 domainHash inputs
      destinationInputs enforcement generation = .ok snapshot) :
    ∃ prepared, prepareDestinationRules destinationInputs = .ok prepared ∧
      snapshot.destinationRules =
        (destinationCanon.retained prepared).map storeDestinationRule := by
  unfold policySnapshotBuildConfigured at built
  simp only [throw_bind, guard_eq_ok, bind_eq_ok] at built
  obtain ⟨_, _, _, prepared, preparedOk, ⟨_, _⟩, _, table, tableOk, result⟩ := built
  cases result
  exact ⟨prepared, preparedOk, rfl⟩

theorem SameDestination.matches_eq (same : SameDestination left right)
    (destination : PolicyDestination) (client : Option PolicyClient) :
    destinationRuleMatches (storeDestinationRule left) destination client =
      destinationRuleMatches (storeDestinationRule right) destination
        client := by
  unfold destinationRuleMatches storeDestinationRule
  rw [same.transport, same.hasPort, same.port, same.hasAddress,
    same.addressFamily, same.address, same.prefixLength, same.scope]

theorem SameDestination.enforced_eq
    (same : SameDestination left right) (snapshot : PolicySnapshot) (client : Option PolicyClient) :
    destinationRuleEnforced snapshot client (storeDestinationRule left) =
      destinationRuleEnforced snapshot client (storeDestinationRule right) := by
  unfold destinationRuleEnforced storeDestinationRule
  rw [same.effect, same.enforcement]

theorem destinationStores (chosen : StoredDestinationRule → Bool)
    (byContent : ∀ left right, SameDestination left right → chosen (storeDestinationRule left) =
        chosen (storeDestinationRule right)) :
    Canon.Stores destinationCanon storeDestinationRule destinationBetter chosen where
  ranking := destinationBetter_ranking
  byContent left right same := byContent left right (destinationRuleContentCompare_eq_iff.mp same)
  notBetter kept item sameContent smaller := by
    have same := destinationRuleContentCompare_eq_iff.mp sameContent
    have idOrder : kept.id ≤ item.id := smaller
    have sameSpecificity : destinationRuleSpecificity (storeDestinationRule item) =
          destinationRuleSpecificity (storeDestinationRule kept) := by
      unfold destinationRuleSpecificity storeDestinationRule
      rw [same.hasAddress, same.prefixLength, same.hasPort, same.transport]
    rw [← Bool.not_eq_true, destinationBetter_iff, sameSpecificity]
    unfold storeDestinationRule
    dsimp only
    rw [same.effect, same.source, same.scope]
    omega

theorem destinationWinners_retained (destination : PolicyDestination) (client : Option PolicyClient)
    (prepared : List BuildDestinationRule) :
    destinationWinners snapshot destination client
        ((destinationCanon.retained prepared).map storeDestinationRule) =
      destinationWinners snapshot destination client
        ((destinationCanon.sorted prepared).map storeDestinationRule) := by
  have same : ∀ chosen : StoredDestinationRule → Bool, (∀ left right, SameDestination left right →
        chosen (storeDestinationRule left) = chosen (storeDestinationRule right)) →
      scan destinationBetter (((destinationCanon.retained prepared).map
          storeDestinationRule).filter chosen) =
        scan destinationBetter (((destinationCanon.sorted prepared).map
          storeDestinationRule).filter chosen) := by
    intro chosen byContent
    exact Canon.scan_retained (destinationStores chosen byContent)
      (destinationCanon.sorted_perm prepared) (.inr rfl)
  unfold destinationWinners
  rw [same, same]
  · intro left right sameContent
    rw [sameContent.matches_eq destination client, sameContent.enforced_eq snapshot client]
  · intro left right sameContent
    exact sameContent.matches_eq destination client

/-! ## The greatest matching rule -/

/-- The greatest chosen rule in order of precedence, if any is chosen. -/
def GreatestRule (rules : List StoredDestinationRule) (chosen : StoredDestinationRule → Bool) :
    Option StoredDestinationRule → Prop
  | none => ∀ rule ∈ rules, chosen rule = false
  | some best => best ∈ rules ∧ chosen best = true ∧ ∀ rule ∈ rules, chosen rule = true →
        destinationRank rule ≤ destinationRank best

theorem scan_greatestRule (bounded : ∀ rule ∈ rules, rule.prefixLength.toNat ≤ 128)
    (chosen : StoredDestinationRule → Bool) :
    GreatestRule rules chosen (scan destinationBetter (rules.filter chosen)) := by
  cases found : scan destinationBetter (rules.filter chosen) with
  | none =>
    rw [scan_eq_none_iff, filter_eq_nil_iff] at found
    intro rule member
    simpa using found rule member
  | some best =>
    obtain ⟨member, picked⟩ := mem_filter.mp (scan_mem destinationBetter_ranking found)
    refine ⟨member, picked, fun rule ruleMember rulePicked => ?_⟩
    have notBetter := scan_best destinationBetter_ranking found rule
      (mem_filter.mpr ⟨ruleMember, rulePicked⟩)
    rw [← Bool.not_eq_true, destinationBetter_iff_rank
      (bounded rule ruleMember) (bounded best member), not_lt] at notBetter
    exact notBetter

theorem GreatestRule.of_mem_iff (greatest : GreatestRule rules chosen best)
    (same : ∀ rule, rule ∈ rules ↔ rule ∈ others) : GreatestRule others chosen best := by
  cases best with
  | none =>
    intro rule member
    exact greatest rule ((same rule).mpr member)
  | some best =>
    obtain ⟨member, picked, top⟩ := greatest
    exact ⟨(same best).mp member, picked, fun rule ruleMember =>
      top rule ((same rule).mpr ruleMember)⟩

theorem id_of_destinationRank_eq (same : destinationRank left = destinationRank right) :
    left.id = right.id := by
  simp only [destinationRank, EmbeddingLike.apply_eq_iff_eq, Prod.mk.injEq] at same
  exact same.2.2.2.2

theorem GreatestRule.strict (greatest : GreatestRule rules chosen (some best))
    (distinct : (rules.map StoredDestinationRule.id).Nodup) :
    ∀ rule ∈ rules, chosen rule = true → rule ≠ best →
      destinationRank rule < destinationRank best := by
  obtain ⟨member, _, top⟩ := greatest
  intro rule ruleMember picked differs
  apply lt_of_le_of_ne (top rule ruleMember picked)
  intro tied
  exact differs (inj_on_of_nodup_map distinct ruleMember member (id_of_destinationRank_eq tied))

theorem destinationWinners_perm (destination : PolicyDestination) (client : Option PolicyClient)
    (permuted : first.Perm second) (distinct : (first.map StoredDestinationRule.id).Nodup) :
    destinationWinners snapshot destination client first =
      destinationWinners snapshot destination client second := by
  have same : ∀ chosen : StoredDestinationRule → Bool,
      scan destinationBetter (first.filter chosen) =
        scan destinationBetter (second.filter chosen) := by
    intro chosen
    apply scan_perm destinationBetter_ranking (permuted.filter chosen)
    intro left leftMember right rightMember notBetter notWorse
    have sameId : left.id = right.id := by
      rw [← Bool.not_eq_true, destinationBetter_iff] at notBetter notWorse
      omega
    exact inj_on_of_nodup_map distinct
      (mem_filter.mp leftMember).1 (mem_filter.mp rightMember).1
      sameId
  unfold destinationWinners
  rw [same, same]

theorem prepareDestinationRules_ids (success : prepareDestinationRules inputs = .ok prepared) :
    prepared.map BuildDestinationRule.id = inputs.map PolicyDestinationRuleInput.id := by
  have pairs := prepareDestinationRules_forall₂ success
  clear success
  induction pairs with
  | nil => rfl
  | cons headOk _ ih => rw [map_cons, map_cons, ih, (prepareDestinationRule_accepted headOk).id]

/-- Destination matching reports the greatest of the accepted rules that match, and the greatest of
those that are also enforced.  With distinct identifiers it is the only one, in any order. -/
theorem destination_match_greatest
    {idn2LookupU8 : Bytes → Option Bytes} {domainHash : Bytes → UInt64}
    {inputs : List PolicyRuleInput}
    {destinationInputs : List PolicyDestinationRuleInput}
    {enforcement : Option PolicyEnforcementConfig} {generation : Nat}
    {snapshot : PolicySnapshot}
    (built : policySnapshotBuildConfigured idn2LookupU8 domainHash inputs
      destinationInputs enforcement generation = .ok snapshot)
    {destination : PolicyDestination}
    (destinationOk : destinationValid destination = true)
    {client : Option PolicyClient} (clientOk : clientValid client = true) :
    ∃ prepared winners, prepareDestinationRules destinationInputs = .ok prepared ∧
      policyMatchDestination snapshot destination client =
        .ok (reportDestination snapshot client winners) ∧
      GreatestRule (prepared.map storeDestinationRule)
        (fun rule => destinationRuleMatches rule destination client)
        winners.selected ∧
      GreatestRule (prepared.map storeDestinationRule)
        (fun rule => destinationRuleMatches rule destination client &&
          destinationRuleEnforced snapshot client rule)
        winners.enforcing ∧
      (∀ rule ∈ prepared.map storeDestinationRule, destinationRuleSpecificity rule < 2 ^ 16 ∧
        ∀ other ∈ prepared.map storeDestinationRule,
          destinationRulePrecedes rule (some other) = true ↔
            destinationRank other < destinationRank rule) ∧
      ((destinationInputs.map PolicyDestinationRuleInput.id).Nodup → (∀ best ∈ winners.selected,
          ∀ rule ∈ prepared.map storeDestinationRule,
            destinationRuleMatches rule destination client = true →
              rule ≠ best → destinationRank rule < destinationRank best) ∧
        ∀ reordered, reordered.Perm snapshot.destinationRules → policyMatchDestination
              { snapshot with destinationRules := reordered } destination
              client =
            policyMatchDestination snapshot destination client) := by
  obtain ⟨prepared, preparedOk, rules⟩ := policySnapshotBuildConfigured_destinations built
  have bounded : ∀ rule ∈ prepared.map storeDestinationRule, rule.prefixLength.toNat ≤ 128 := by
    intro rule member
    obtain ⟨accepted, acceptedMember, rfl⟩ := mem_map.mp member
    obtain ⟨input, _, inputOk⟩ := (mem_forall₂_ok_iff
      (prepareDestinationRules_forall₂ preparedOk)).mp acceptedMember
    exact (prepareDestinationRule_accepted inputOk).prefixLength
  have sameRules : ∀ rule, rule ∈ (destinationCanon.sorted prepared).map storeDestinationRule ↔
        rule ∈ prepared.map storeDestinationRule :=
    fun rule => ((destinationCanon.sorted_perm prepared).map storeDestinationRule).mem_iff
  have greatest : ∀ chosen, GreatestRule (prepared.map storeDestinationRule)
      chosen (scan destinationBetter (((destinationCanon.sorted prepared).map
        storeDestinationRule).filter chosen)) := by
    intro chosen
    apply (scan_greatestRule _ chosen).of_mem_iff sameRules
    intro rule member
    exact bounded rule ((sameRules rule).mp member)
  have reported := policyMatchDestination_eq snapshot destinationOk clientOk
  have winnersSame : destinationWinners snapshot destination client
      snapshot.destinationRules = destinationWinners snapshot destination
        client ((destinationCanon.sorted prepared).map storeDestinationRule) := by
    rw [rules]
    exact destinationWinners_retained snapshot destination client prepared
  refine ⟨prepared, destinationWinners snapshot destination client
    ((destinationCanon.sorted prepared).map storeDestinationRule), preparedOk,
    ?_, greatest _, greatest _, ?_, ?_⟩
  · rw [reported, winnersSame]
  · intro rule member
    refine ⟨destinationRuleSpecificity_lt (bounded rule member), ?_⟩
    intro other otherMember
    exact destinationBetter_iff_rank (bounded rule member) (bounded other otherMember)
  · intro distinct
    rw [← prepareDestinationRules_ids preparedOk] at distinct
    constructor
    · intro best chosen
      have top : GreatestRule (prepared.map storeDestinationRule)
          (fun rule => destinationRuleMatches rule destination client)
          (destinationWinners snapshot destination client ((destinationCanon.sorted prepared).map
              storeDestinationRule)).selected := greatest _
      rw [Option.mem_def.mp chosen] at top
      apply top.strict
      rw [map_map]
      exact distinct
    · intro reordered permuted
      have snapshotDistinct : (snapshot.destinationRules.map StoredDestinationRule.id).Nodup := by
        rw [rules, map_map]
        have sortedDistinct := ((destinationCanon.sorted_perm prepared).map
          BuildDestinationRule.id).nodup_iff.mpr distinct
        exact sortedDistinct.sublist ((retainDistinct_sublist
          destinationCanon.same none _).map BuildDestinationRule.id)
      rw [reported, policyMatchDestination_eq _ destinationOk clientOk]
      have sameWinners := destinationWinners_perm snapshot destination client
        permuted.symm snapshotDistinct
      rw [sameWinners]
      rfl

/-- An explicit rule of every client for one transport, network and port. -/
def sampleDestinationRule (id : Nat) (effect : PolicyEffect)
    (transport : PolicyTransport) (address : Option (Bytes × UInt8))
    (port : UInt16) : PolicyDestinationRuleInput where
  id := id
  statisticsId := []
  effect := effect
  enforcement := .enforce
  source := .explicit
  transport := transport
  hasAddress := address.isSome
  addressFamily := if address.isSome then .ipv4 else .none
  address := (address.map Prod.fst).getD []
  prefixLength := (address.map Prod.snd).getD 0
  hasPort := port != 0
  port := port
  scope := .global
  attribution := [0x61]

def sampleDestinationRules : List PolicyDestinationRuleInput :=
  [sampleDestinationRule 1 .block .any (some ([10, 0, 0, 0], 8)) 0,
    sampleDestinationRule 2 .block .tcp none 443]

def sampleDestination : PolicyDestination where
  transport := .tcp
  addressFamily := .ipv4
  address := [10, 1, 2, 3]
  port := 443

/-- Both rules match, and the one for the transport is selected in any order. -/
theorem destination_match_greatest_transport : ∃ snapshot,
      policySnapshotBuildConfigured some (fun _ => 0) []
        sampleDestinationRules none 1 = .ok snapshot ∧
      (∀ reordered, reordered.Perm snapshot.destinationRules → policyMatchDestination
          { snapshot with destinationRules := reordered } sampleDestination none =
        policyMatchDestination snapshot sampleDestination none) ∧
      (policyMatchDestination snapshot sampleDestination none).toOption.map
        PolicyDestinationMatch.ruleId = some 2 := by
  have accepted : ∃ snapshot ∈ (policySnapshotBuildConfigured some (fun _ => 0) []
      sampleDestinationRules none 1).toOption,
        (policyMatchDestination snapshot sampleDestination none).toOption.map
          PolicyDestinationMatch.ruleId = some 2 := by
    decide +kernel
  obtain ⟨snapshot, found, selected⟩ := accepted
  have built := eq_ok_of_mem_toOption found
  obtain ⟨_, _, _, _, _, _, _, unique⟩ := @destination_match_greatest some (fun _ => 0) []
    sampleDestinationRules none 1 snapshot built sampleDestination rfl none rfl
  exact ⟨snapshot, built, (unique (by decide)).2, selected⟩

def sharedIdDestinations : List PolicyDestinationRuleInput :=
  [[0x61], [0x62]].map fun attribution =>
    { sampleDestinationRule 7 .block .tcp none 443 with attribution }

/-- Of two rules with one identifier neither is greater, and the first in the snapshot is found. -/
theorem shared_id_match_ordered :
    ∃ snapshot ∈ (policySnapshotBuildConfigured some (fun _ => 0) [] sharedIdDestinations none
        1).toOption,
      (policyMatchDestination { snapshot with
          destinationRules := snapshot.destinationRules.reverse } sampleDestination
          none).toOption ≠
        (policyMatchDestination snapshot sampleDestination none).toOption := by
  decide +kernel

end Policy

end JanusGate
