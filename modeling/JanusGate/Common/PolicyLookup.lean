import JanusGate.Common.PolicyTable

/-!
# The suffix walk is a linear scan

The reference for domain matching is one pass over all accepted rules that
keeps the best matching one: the highest priority, then the longest domain,
then the smallest identifier.  The walk over the suffixes of a domain, each
looked up in the hash table, returns the same two rules.
-/

namespace JanusGate

namespace Policy

open FirstBest Outcome List

/-! ## The reference -/

variable (candidate current : StoredRule)

/-- Higher priority, then longer domain, then smaller identifier. -/
def ruleBetter : Bool :=
  decide (candidate.priority > current.priority) ||
    (candidate.priority == current.priority &&
      (decide (candidate.domain.length > current.domain.length) ||
        (candidate.domain.length == current.domain.length &&
          decide (candidate.id < current.id))))

def ruleMatches (client : Option PolicyClient) (target : PolicyDomainTarget)
    (domain : Bytes) (rule : StoredRule) : Bool :=
  rule.target == target && domainMatches domain rule.domain rule.includeSubdomains &&
    scopeMatches rule.scope client

def ruleEnforced (snapshot : PolicySnapshot) (client : Option PolicyClient)
    (rule : StoredRule) : Bool :=
  effectiveEnforcement snapshot rule.effect rule.enforcement client == .enforce

def linearScan (chosen : StoredRule → Bool) (rules : List StoredRule) : Option StoredRule :=
  scan ruleBetter (rules.filter chosen)

theorem ruleBetter_iff {candidate current : StoredRule} : ruleBetter candidate current = true ↔
      candidate.priority > current.priority ∨ (candidate.priority = current.priority ∧
          (candidate.domain.length > current.domain.length ∨
            (candidate.domain.length = current.domain.length ∧ candidate.id < current.id))) := by
  simp [ruleBetter]

theorem ruleBetter_ranking :
    Ranking ruleBetter where
  asymm first second better := by
    rw [← Bool.not_eq_true]
    rw [ruleBetter_iff] at *
    omega
  negTrans first second third notFirst notSecond := by
    rw [← Bool.not_eq_true] at *
    rw [ruleBetter_iff] at *
    omega

/-! ## Suffixes of a domain -/

variable {domain parent : Bytes} {rule : BuildRule} {prepared order : List BuildRule}

theorem mem_parentDomains :
    parent ∈ parentDomains domain ↔ ∃ label, domain = label ++ dotByte :: parent := by
  induction domain with
  | nil => simp [parentDomains]
  | cons value rest ih =>
    unfold parentDomains
    cases dot : value == dotByte with
    | true =>
      rw [beq_iff_eq] at dot
      subst dot
      rw [if_pos rfl, mem_cons, ih]
      constructor
      · rintro (rfl | ⟨label, rfl⟩)
        · exact ⟨[], rfl⟩
        · exact ⟨dotByte :: label, rfl⟩
      · rintro ⟨label, split⟩
        cases label with
        | nil => exact .inl (cons.inj split).2.symm
        | cons first label => exact .inr ⟨label, (cons.inj split).2⟩
    | false =>
      rw [if_neg (by simp), ih]
      constructor
      · rintro ⟨label, rfl⟩
        exact ⟨value :: label, rfl⟩
      rintro ⟨label, split⟩
      cases label with
      | nil =>
        rw [(cons.inj split).1] at dot
        simp at dot
      | cons first label => exact ⟨label, (cons.inj split).2⟩

theorem length_parentDomains (member : parent ∈ parentDomains domain) :
    parent.length < domain.length := by
  obtain ⟨label, rfl⟩ := mem_parentDomains.mp member
  rw [length_append, length_cons]
  omega

theorem ne_of_mem_parentDomains (member : parent ∈ parentDomains domain) : parent ≠ domain := by
  rintro rfl
  exact Nat.lt_irrefl _ (length_parentDomains member)

theorem parentDomains_decreasing (domain : Bytes) :
    (domain :: parentDomains domain).Pairwise fun longer shorter =>
      shorter.length < longer.length := by
  rw [pairwise_cons]
  refine ⟨fun parent member => length_parentDomains member, ?_⟩
  induction domain with
  | nil => exact List.Pairwise.nil
  | cons value rest ih =>
    unfold parentDomains
    split
    · rw [pairwise_cons]
      exact ⟨fun parent member => length_parentDomains member, ih⟩
    · exact ih

theorem suffix_eq_of_length (firstMember : first ∈ domain :: parentDomains domain)
    (secondMember : second ∈ domain :: parentDomains domain)
    (length : first.length = second.length) : first = second := by
  have isSuffix : ∀ {candidate}, candidate ∈ domain :: parentDomains domain →
      candidate <:+ domain := by
    intro candidate member
    rcases mem_cons.mp member with rfl | parent
    · exact suffix_rfl
    · obtain ⟨label, split⟩ := mem_parentDomains.mp parent
      exact ⟨label ++ [dotByte], by rw [split]; simp⟩
  exact List.IsSuffix.eq_of_length (suffix_of_suffix_length_le (isSuffix firstMember)
      (isSuffix secondMember) (by omega)) length

theorem domainMatches_iff {name rule : Bytes} (nameNormalized : domainIsNormalized name = true)
    (ruleNormalized : domainIsNormalized rule = true) :
    domainMatches name rule includeSubdomains = true ↔ name = rule ∨
        (includeSubdomains = true ∧ rule ∈ parentDomains name) := by
  have suffix : name.length > rule.length ∧ byteAt name (name.length - rule.length - 1) = dotByte ∧
      slice name (name.length - rule.length) rule.length = rule ↔ rule ∈ parentDomains name := by
    rw [mem_parentDomains]
    constructor
    · rintro ⟨longer, dot, same⟩
      refine ⟨name.take (name.length - rule.length - 1), ?_⟩
      have position : name.length - rule.length - 1 < name.length := by omega
      have next : name.length - rule.length - 1 + 1 = name.length - rule.length := by omega
      have rest : name.drop (name.length - rule.length) = rule := by
        unfold slice at same
        rwa [take_of_length_le (by rw [length_drop]; omega)] at same
      unfold byteAt at dot
      rw [getD_eq_getElem?_getD, getElem?_eq_getElem position, Option.getD_some] at dot
      calc name = name.take (name.length - rule.length - 1) ++
              name.drop (name.length - rule.length - 1) :=
            (take_append_drop ..).symm
        _ = name.take (name.length - rule.length - 1) ++ dotByte :: rule := by
            rw [drop_eq_getElem_cons position, dot, next, rest]
    · rintro ⟨label, rfl⟩
      have lengths : (label ++ dotByte :: rule).length - rule.length = label.length + 1 := by
        rw [length_append, length_cons]
        omega
      rw [lengths]
      refine ⟨by simp; omega, ?_, ?_⟩
      · simp [byteAt]
      · unfold slice
        simp
  unfold domainMatches
  rw [nameNormalized, ruleNormalized]
  simp only [Bool.not_true, Bool.or_self, Bool.false_eq_true, if_false]
  by_cases same : name = rule
  · simp [same]
  simp only [beq_iff_eq, same, if_false, false_or]
  cases includeSubdomains with
  | false => simp
  | true =>
    simp only [Bool.not_true, Bool.false_eq_true, if_false,
      Bool.and_eq_true, decide_eq_true_eq, beq_iff_eq, true_and, and_assoc]
    exact suffix

/-! ## Winners of one group -/

/-- `domainRulePrecedes` between two rules. -/
def groupBetter : Bool := domainRulePrecedes candidate (some current)

theorem Winners.foldl_eq {ρ : Type} {better : ρ → ρ → Bool} {applies enforced : ρ → Bool}
    {consider : Winners ρ → ρ → Winners ρ}
    (step : ∀ winners rule, consider winners rule = if applies rule then
        { selected := improve better winners.selected rule
          enforcing :=
            if enforced rule then improve better winners.enforcing rule
            else winners.enforcing }
      else winners)
    (rules : List ρ) (winners : Winners ρ) :
    rules.foldl consider winners =
      { selected := (rules.filter applies).foldl (improve better) winners.selected
        enforcing := (rules.filter fun rule => applies rule && enforced rule).foldl (improve better)
          winners.enforcing } := by
  induction rules generalizing winners with
  | nil => rfl
  | cons rule rest ih =>
    rw [foldl_cons, ih, step]
    cases passes : applies rule with
    | false => simp [passes]
    | true =>
      cases isEnforced : enforced rule with
      | false | true => simp [passes, isEnforced]

variable (client : Option PolicyClient) (target : PolicyDomainTarget)

theorem considerRule_fold (exactDomain : Bool) (rules : List StoredRule)
    (winners : Winners StoredRule) :
    rules.foldl (considerRule snapshot client exactDomain target) winners =
      { selected := (rules.filter fun rule => ruleApplies client exactDomain target rule).foldl
          (improve groupBetter) winners.selected
        enforcing := (rules.filter fun rule =>
            ruleApplies client exactDomain target rule && ruleEnforced snapshot client rule).foldl
          (improve groupBetter) winners.enforcing } := by
  apply Winners.foldl_eq
  intro winners rule
  have step : ∀ best : Option StoredRule,
      (if domainRulePrecedes rule best then some rule else best) =
        improve groupBetter best rule := by
    intro best
    cases best <;> rfl
  unfold considerRule
  simp only [step]
  cases enforced : ruleEnforced snapshot client rule with
  | false =>
    unfold ruleEnforced at enforced
    simp [enforced]
  | true =>
    unfold ruleEnforced at enforced
    simp [enforced, step]

def groupWinner (rules : List StoredRule) (client : Option PolicyClient)
    (target : PolicyDomainTarget) (domain : Bytes)
    (kind : StoredRule → Bool) (candidate : Bytes) : Option StoredRule :=
  scan ruleBetter (rules.filter fun rule =>
    rule.domain == candidate && (ruleApplies client (candidate == domain) target rule && kind rule))

variable {rules : List StoredRule}

theorem domain_of_mem_group {candidate : Bytes} {rule : StoredRule} {test : StoredRule → Bool}
    (member : rule ∈ rules.filter fun rule => rule.domain == candidate && test rule) :
    rule.domain = candidate := by
  have inGroup := (mem_filter.mp member).2
  rw [Bool.and_eq_true, beq_iff_eq] at inGroup
  exact inGroup.1

theorem groupWinner_eq (rules : List StoredRule) (kind : StoredRule → Bool) (candidate : Bytes) :
    scan groupBetter ((rulesOf rules candidate).filter fun rule =>
        ruleApplies client (candidate == domain) target rule && kind rule) =
      groupWinner rules client target domain kind candidate := by
  unfold groupWinner rulesOf
  rw [filter_filter]
  have sameList : (rules.filter fun rule =>
      (ruleApplies client (candidate == domain) target rule && kind rule) &&
        rule.domain == candidate) =
      rules.filter fun rule => rule.domain == candidate &&
        (ruleApplies client (candidate == domain) target rule && kind rule) := by
    apply filter_congr
    intro rule _
    rw [Bool.and_comm]
  rw [sameList]
  apply (scan_congr _).1
  apply List.Pairwise.imp_of_mem _ (pairwise_of_forall fun _ _ => trivial)
  intro earlier later earlierMember laterMember _
  unfold groupBetter domainRulePrecedes ruleBetter
  rw [domain_of_mem_group earlierMember, domain_of_mem_group laterMember]
  simp

/-! ## The suffix walk -/

def anyKind : StoredRule → Bool := fun _ => true

theorem matchSlot_findSlot (sorted : DomainsSorted snapshot.rules)
    (filled : TableFilled snapshot) (domain candidate : Bytes) :
    matchSlot snapshot (findSlot snapshot candidate) client (candidate == domain) target =
      { selected := groupWinner snapshot.rules client target domain anyKind candidate
        enforcing := groupWinner snapshot.rules client target domain
          (ruleEnforced snapshot client) candidate } := by
  have viaRules : matchSlot snapshot (findSlot snapshot candidate) client
      (candidate == domain) target =
      (slotRules snapshot (findSlot snapshot candidate)).foldl
        (considerRule snapshot client (candidate == domain) target) {} := by
    cases findSlot snapshot candidate <;> rfl
  rw [viaRules, slotRules_findSlot sorted filled, considerRule_fold,
    ← groupWinner_eq, ← groupWinner_eq]
  simp [scan, anyKind]

def priorityBetter : Bool := decide (candidate.priority > current.priority)

theorem laterWinner_eq (winner current : Option StoredRule) : laterWinner winner current =
      match current with
      | some candidate => improve priorityBetter winner candidate
      | none => winner := by
  cases current with
  | none => rfl
  | some candidate =>
    cases winner with
    | none => rfl
    | some best => simp [laterWinner, improve, priorityBetter]

theorem walkCandidates_eq (sorted : DomainsSorted snapshot.rules)
    (filled : TableFilled snapshot) (domain : Bytes) (exactDomain : Bool) :
    ∀ (candidates : List Bytes) (winners : Winners StoredRule),
      (∀ candidate ∈ candidates, (candidate == domain) = exactDomain) → candidates.foldl
            (considerCandidate snapshot client target exactDomain) winners =
          { selected := (candidates.filterMap (groupWinner snapshot.rules
                client target domain anyKind)).foldl
              (improve priorityBetter) winners.selected
            enforcing := (candidates.filterMap (groupWinner snapshot.rules
                client target domain (ruleEnforced snapshot client))).foldl
              (improve priorityBetter) winners.enforcing } := by
  intro candidates
  induction candidates with
  | nil =>
    intro winners _
    rfl
  | cons candidate rest ih =>
    intro winners exactness
    have exactHere := exactness candidate (mem_cons_self ..)
    have current := matchSlot_findSlot client target sorted filled domain candidate
    rw [exactHere] at current
    rw [foldl_cons, ih _ fun later member => exactness later (mem_cons_of_mem _ member)]
    unfold considerCandidate
    rw [current]
    simp only [laterWinner_eq, foldl_filterMap, foldl_cons]
    cases groupWinner snapshot.rules client target domain anyKind candidate <;>
      cases groupWinner snapshot.rules client target domain
        (ruleEnforced snapshot client) candidate <;> rfl

def walkCandidates (domain : Bytes) : List Bytes := domain :: parentDomains domain

theorem walkDomain_eq (sorted : DomainsSorted snapshot.rules)
    (filled : TableFilled snapshot) (domain : Bytes) :
    walkDomain snapshot domain client target =
      { selected := scan priorityBetter ((walkCandidates domain).filterMap
          (groupWinner snapshot.rules client target domain anyKind))
        enforcing := scan priorityBetter ((walkCandidates domain).filterMap
          (groupWinner snapshot.rules client target domain (ruleEnforced snapshot client))) } := by
  have parents : ∀ parent ∈ parentDomains domain, (parent == domain) = false := by
    intro parent member
    exact beq_eq_false_iff_ne.mpr (ne_of_mem_parentDomains member)
  have first := walkCandidates_eq client target sorted filled domain true [domain] {} (by simp)
  rw [foldl_cons, foldl_nil] at first
  unfold walkDomain walkCandidates
  rw [walkCandidates_eq client target sorted filled domain false _ _ parents, first]
  have together : ∀ kind, ((parentDomains domain).filterMap
      (groupWinner snapshot.rules client target domain kind)).foldl (improve priorityBetter)
        (([domain].filterMap (groupWinner snapshot.rules client target domain
          kind)).foldl (improve priorityBetter) none) =
      scan priorityBetter ((domain :: parentDomains domain).filterMap
        (groupWinner snapshot.rules client target domain kind)) := by
    intro kind
    rw [← foldl_append, ← filterMap_append]
    rfl
  rw [together, together]

/-- A rule matches when the walk reaches its group and the group tests let it
pass. -/
theorem ruleMatches_iff (domainNormalized : domainIsNormalized domain = true)
    {rule : StoredRule} (normalized : domainIsNormalized rule.domain = true) :
    ruleMatches client target domain rule = true ↔ rule.domain ∈ walkCandidates domain ∧
        ruleApplies client (rule.domain == domain) target rule = true := by
  unfold ruleMatches ruleApplies walkCandidates
  simp only [Bool.and_eq_true, Bool.or_eq_true, beq_iff_eq, mem_cons,
    domainMatches_iff domainNormalized normalized]
  constructor
  · rintro ⟨⟨sameTarget, same | ⟨subdomains, parent⟩⟩, scope⟩
    · exact ⟨.inl same.symm, ⟨sameTarget, .inl same.symm⟩, scope⟩
    · exact ⟨.inr parent, ⟨sameTarget, .inr subdomains⟩, scope⟩
  rintro ⟨reached, ⟨sameTarget, covered⟩, scope⟩
  refine ⟨⟨sameTarget, ?_⟩, scope⟩
  rcases reached with same | parent
  · exact .inl same.symm
  · exact .inr ⟨covered.resolve_left (ne_of_mem_parentDomains parent), parent⟩

/-- The walk over the winners of the groups is a scan over all rules. -/
theorem scan_walkCandidates (normalized : ∀ rule ∈ rules, domainIsNormalized rule.domain = true)
    (domainNormalized : domainIsNormalized domain = true) (kind : StoredRule → Bool) :
    scan priorityBetter ((walkCandidates domain).filterMap
        (groupWinner rules client target domain kind)) =
      linearScan (fun rule => ruleMatches client target domain rule && kind rule) rules := by
  have winnerDomain : ∀ candidate winner,
      groupWinner rules client target domain kind candidate = some winner →
        winner.domain = candidate := by
    intro candidate winner found
    exact domain_of_mem_group (scan_mem ruleBetter_ranking found)
  have decreasing : ((walkCandidates domain).filterMap
      (groupWinner rules client target domain kind)).Pairwise
        fun earlier later => later.domain.length < earlier.domain.length := by
    rw [pairwise_filterMap]
    apply (parentDomains_decreasing domain).imp
    intro longer shorter shrinks first firstWins second secondWins
    rw [winnerDomain longer first firstWins, winnerDomain shorter second secondWins]
    exact shrinks
  have byPriority : scan priorityBetter ((walkCandidates domain).filterMap
      (groupWinner rules client target domain kind)) =
      scan ruleBetter ((walkCandidates domain).filterMap
        (groupWinner rules client target domain kind)) := by
    apply (scan_congr _).1
    apply decreasing.imp
    intro earlier later shorter
    rw [Bool.eq_iff_iff, ruleBetter_iff]
    unfold priorityBetter
    rw [decide_eq_true_eq]
    omega
  rw [byPriority]
  symm
  have chosenIff : ∀ rule ∈ rules, (ruleMatches client target domain rule && kind rule) = true ↔
        rule.domain ∈ walkCandidates domain ∧
          (ruleApplies client (rule.domain == domain) target rule && kind rule) = true := by
    intro rule member
    rw [Bool.and_eq_true, Bool.and_eq_true, ruleMatches_iff client target domainNormalized
      (normalized rule member), and_assoc]
  apply scan_classes ruleBetter_ranking
  · intro rule member
    rw [chosenIff rule member]
    constructor
    · rintro ⟨reached, passes⟩
      refine ⟨rule.domain, reached, ?_⟩
      rw [Bool.and_eq_true]
      exact ⟨beq_self_eq_true _, passes⟩
    · rintro ⟨candidate, reached, inGroup⟩
      rw [Bool.and_eq_true, beq_iff_eq] at inGroup
      obtain ⟨rfl, passes⟩ := inGroup
      exact ⟨reached, passes⟩
  · intro candidate reached first _ second secondMember inGroup chosen notBetter notWorse
    rw [Bool.and_eq_true, beq_iff_eq] at inGroup
    obtain ⟨secondReached, passes⟩ := (chosenIff second secondMember).mp chosen
    -- rules that tie have domains of one length, hence the same suffix
    have sameLength : second.domain.length = candidate.length := by
      rw [← inGroup.1]
      rw [← Bool.not_eq_true, ruleBetter_iff] at notBetter notWorse
      omega
    have sameDomain := suffix_eq_of_length secondReached reached sameLength
    rw [sameDomain] at passes
    rw [Bool.and_eq_true, beq_iff_eq]
    exact ⟨sameDomain, passes⟩

/-! ## Retained rules -/

theorem domainStores (byContent : ∀ left right, SameContent left right →
      chosen (storeRule left) = chosen (storeRule right)) :
    Canon.Stores domainCanon storeRule ruleBetter chosen where
  ranking := ruleBetter_ranking
  byContent left right same := byContent left right (buildRuleContentCompare_eq_iff.mp same)
  notBetter kept item sameContent smaller := by
    have same := buildRuleContentCompare_eq_iff.mp sameContent
    have idOrder : kept.id ≤ item.id := smaller
    rw [← Bool.not_eq_true, ruleBetter_iff]
    unfold storeRule
    dsimp only
    rw [same.effect, same.source, same.scope, same.domain]
    omega

/-! ## Built snapshots -/

theorem prepareRule_eq (prepared : prepareRule idn2LookupU8 input = .ok rule) :
    input.id ≠ 0 ∧ effectSourceValid input.effect input.source = true ∧
      ∃ scope domain, policyScopeNormalize input.scope = .ok scope ∧
        domainNormalize idn2LookupU8 input.domain (domainNameMax + 1) = .ok domain ∧
        rule = ⟨input.id, input.statisticsId, domain, input.attribution,
          input.includeSubdomains, input.effect, input.enforcement,
          input.source, input.target, scope⟩ := by
  unfold prepareRule at prepared
  split at prepared
  · cases prepared
  case isFalse checks =>
    simp only [not_or, Bool.not_eq_false, ruleClassValid, Bool.and_eq_true] at checks
    split at prepared
    case h_1 scope domain _ scopeOk domainOk _ =>
      cases prepared
      exact ⟨checks.1, checks.2.1.1, scope, domain, scopeOk, domainOk, rfl⟩
    case h_2 => cases prepared

theorem prepareRule_normalized (prepared : prepareRule idn2LookupU8 input = .ok rule) :
    domainIsNormalized rule.domain = true := by
  obtain ⟨_, _, _, _, _, domainOk, rfl⟩ := prepareRule_eq prepared
  exact (Domain.domainNormalize_isNormalized domainOk).1

/-- What the builder keeps of an accepted domain rule. -/
structure AcceptedRule (input : PolicyRuleInput) (rule : BuildRule) : Prop where
  id : rule.id = input.id
  statisticsId : rule.statisticsId = input.statisticsId
  effect : rule.effect = input.effect
  enforcement : rule.enforcement = input.enforcement
  effectSource : effectSourceValid rule.effect rule.source = true

theorem prepareRule_accepted (prepared : prepareRule idn2LookupU8 input = .ok rule) :
    AcceptedRule input rule := by
  obtain ⟨_, valid, _, _, _, _, rfl⟩ := prepareRule_eq prepared
  exact ⟨rfl, rfl, rfl, rfl, valid⟩

/-- A loop that prepares every input succeeds when each is accepted and the packed total fits. -/
theorem packedLoop_eq_ok_iff {ι α : Type} {step : ι → Except Int α} {size : α → Nat}
    {loop : Nat → List ι → Except Int (List α)}
    (nil : ∀ packedSize, loop packedSize [] = .ok [])
    (cons : ∀ packedSize input inputs, loop packedSize (input :: inputs) = do
      let item ← step input
      if packedSize + size item > uint32Max then throw eOverflow
      let items ← loop (packedSize + size item) inputs
      return item :: items)
    {inputs : List ι} :
    ∀ {packedSize : Nat} {items : List α}, packedSize ≤ uint32Max →
      (loop packedSize inputs = .ok items ↔
        List.Forall₂ (fun input item => step input = .ok item) inputs items ∧
          packedSize + (items.map size).sum ≤ uint32Max) := by
  induction inputs with
  | nil =>
    intro packedSize items bounded
    rw [nil, forall₂_nil_left_iff]
    constructor
    · intro success
      cases success
      exact ⟨rfl, by simpa using bounded⟩
    · rintro ⟨rfl, _⟩
      rfl
  | cons input rest ih =>
    intro packedSize items bounded
    rw [cons]
    simp only [throw_bind, guard_eq_ok, bind_eq_ok,
      pure_eq_ok, Except.ok.injEq, forall₂_cons_left_iff]
    constructor
    · rintro ⟨item, itemOk, fits, others, othersOk, rfl⟩
      obtain ⟨pairs, total⟩ := (ih (Nat.not_lt.mp fits)).mp othersOk
      refine ⟨⟨item, others, itemOk, pairs, rfl⟩, ?_⟩
      rw [map_cons, sum_cons]
      omega
    · rintro ⟨⟨item, others, itemOk, pairs, rfl⟩, total⟩
      rw [map_cons, sum_cons] at total
      have fits : packedSize + size item ≤ uint32Max := by omega
      have restFits : packedSize + size item + (others.map size).sum ≤ uint32Max := by omega
      exact ⟨item, itemOk, Nat.not_lt.mpr fits, others, (ih fits).mpr ⟨pairs, restFits⟩, rfl⟩

def packedRule (rule : BuildRule) : Nat := (rule.domain.length + 1) + (rule.attribution.length + 1)

theorem prepareRules_eq_ok_iff : prepareRules idn2LookupU8 inputs = .ok prepared ↔
      inputs.length ≤ uint32Max ∧
      List.Forall₂ (fun input rule => prepareRule idn2LookupU8 input = .ok rule) inputs prepared ∧
      (prepared.map packedRule).sum ≤ uint32Max := by
  have loop := @packedLoop_eq_ok_iff _ _ (prepareRule idn2LookupU8) packedRule
    (prepareRulesFrom idn2LookupU8) (fun _ => rfl)
    (by
      intro packedSize input rest
      unfold packedRule
      simp only [← Nat.add_assoc]
      rfl) inputs 0 prepared (Nat.zero_le _)
  unfold prepareRules
  rw [guard_eq_ok, loop, Nat.not_lt, Nat.zero_add]

section

variable (success : prepareRules idn2LookupU8 inputs = .ok prepared)

include success

theorem prepareRules_forall₂ :
    List.Forall₂ (fun input rule => prepareRule idn2LookupU8 input = .ok rule) inputs prepared :=
  (prepareRules_eq_ok_iff.mp success).2.1

theorem mem_prepareRules_iff :
    rule ∈ prepared ↔ ∃ input ∈ inputs, prepareRule idn2LookupU8 input = .ok rule :=
  mem_forall₂_ok_iff (prepareRules_forall₂ success)

theorem prepareRules_normalized : ∀ rule ∈ prepared, domainIsNormalized rule.domain = true := by
  intro rule member
  obtain ⟨input, _, ruleOk⟩ := (mem_prepareRules_iff success).mp member
  exact prepareRule_normalized ruleOk

end

theorem policySnapshotBuildConfigured_rules
    (built : policySnapshotBuildConfigured idn2LookupU8 domainHash inputs
      destinationInputs enforcement generation = .ok snapshot) :
    ∃ prepared, prepareRules idn2LookupU8 inputs = .ok prepared ∧
      snapshot.rules = (retainDistinct buildRuleSameContent none
        (canonicalRules prepared)).map storeRule ∧
      TableFilled snapshot := by
  unfold policySnapshotBuildConfigured at built
  simp only [throw_bind, guard_eq_ok, bind_eq_ok] at built
  obtain ⟨_, prepared, preparedOk, _, _, ⟨_, _⟩, _, table, tableOk, result⟩ := built
  cases result
  exact ⟨prepared, preparedOk, rfl, tableOk⟩

theorem SameContent.ruleMatches_eq (same : SameContent left right) (domain : Bytes) :
    ruleMatches client target domain (storeRule left) =
      ruleMatches client target domain (storeRule right) := by
  unfold ruleMatches storeRule
  rw [same.target, same.domain, same.includeSubdomains, same.scope]

theorem SameContent.ruleEnforced_eq (same : SameContent left right) (snapshot : PolicySnapshot)
    (client : Option PolicyClient) :
    ruleEnforced snapshot client (storeRule left) =
      ruleEnforced snapshot client (storeRule right) := by
  unfold ruleEnforced storeRule
  rw [same.effect, same.enforcement]

/-- An order in which the accepted rules may be scanned. -/
def ScanOrder (prepared order : List BuildRule) : Prop :=
  order.Perm prepared ∧ ((order.map BuildRule.id).Nodup ∨ order = canonicalRules prepared)

theorem linearScan_retained (scanned : ScanOrder prepared order)
    (byContent : ∀ left right, SameContent left right →
      chosen (storeRule left) = chosen (storeRule right)) :
    linearScan chosen ((retainDistinct buildRuleSameContent none
        (canonicalRules prepared)).map storeRule) =
      linearScan chosen (order.map storeRule) := by
  apply Canon.scan_retained (domainStores byContent) scanned.1
  rcases scanned.2 with distinct | canonical
  · refine .inl ⟨distinct, fun left right notBetter notWorse => ?_⟩
    rw [← Bool.not_eq_true, ruleBetter_iff] at notBetter notWorse
    unfold storeRule at notBetter notWorse
    dsimp only at notBetter notWorse
    change left.id = right.id
    omega
  · exact .inr canonical

theorem retained_sorted (prepared : List BuildRule)
    (normalized : ∀ rule ∈ prepared, domainIsNormalized rule.domain = true) :
    DomainsSorted ((retainDistinct buildRuleSameContent none
        (canonicalRules prepared)).map storeRule) ∧
      ∀ rule ∈ (retainDistinct buildRuleSameContent none (canonicalRules prepared)).map storeRule,
          domainIsNormalized rule.domain = true := by
  have sublist := retainDistinct_sublist buildRuleSameContent none (canonicalRules prepared)
  constructor
  · unfold DomainsSorted
    rw [pairwise_map]
    apply ((canonicalRules_sorted prepared).sublist sublist).imp
    intro left right order
    exact ruleNotAfter_domain order
  · intro stored member
    obtain ⟨rule, kept, rfl⟩ := mem_map.mp member
    exact normalized rule (domainCanon.mem_of_mem_retained kept)

theorem linearScan_eq_none (permuted : order.Perm prepared) (chosen : StoredRule → Bool) :
    linearScan chosen (order.map storeRule) = none ↔
      ∀ rule ∈ prepared, chosen (storeRule rule) = false := by
  unfold linearScan
  rw [scan_eq_none_iff, filter_eq_nil_iff, forall_mem_map]
  constructor
  · intro nothing rule member
    simpa using nothing rule (permuted.mem_iff.mpr member)
  · intro nothing rule member
    simpa using nothing rule (permuted.mem_iff.mp member)

def reportScan (snapshot : PolicySnapshot) (client : Option PolicyClient)
    (target : PolicyDomainTarget) (domain : Bytes) (rules : List StoredRule) : PolicyMatch :=
  reportEnforcing (linearScan (fun rule => ruleMatches client target domain rule &&
      ruleEnforced snapshot client rule) rules)
    (reportSelected snapshot client (linearScan (ruleMatches client target domain) rules) {})

theorem reportScan_flags (snapshot : PolicySnapshot) (domain : Bytes) (rules : List StoredRule) :
    (reportScan snapshot client target domain rules).matched =
        (linearScan (ruleMatches client target domain) rules).isSome ∧
      (reportScan snapshot client target domain rules).enforcingMatched =
        (linearScan (fun rule => ruleMatches client target domain rule &&
          ruleEnforced snapshot client rule) rules).isSome := by
  unfold reportScan
  cases linearScan (ruleMatches client target domain) rules <;>
    cases linearScan (fun rule => ruleMatches client target domain rule &&
      ruleEnforced snapshot client rule) rules <;>
    exact ⟨rfl, rfl⟩

theorem matchDomainTarget_refuses (snapshot : PolicySnapshot)
    {client : Option PolicyClient} {target : PolicyDomainTarget}
    (fails : ¬ (domainIsNormalized domain = true ∧ clientValid client = true)) :
    matchDomainTarget snapshot domain client target = .error eInval := by
  have refused : (!domainIsNormalized domain || !clientValid client) = true := by
    simpa [or_iff_not_imp_left] using fails
  unfold matchDomainTarget
  rw [if_pos refused]

theorem matchDomainTarget_rules
    (built : policySnapshotBuildConfigured idn2LookupU8 domainHash inputs
      destinationInputs enforcement generation = .ok snapshot)
    (normalized : domainIsNormalized domain = true) {client : Option PolicyClient}
    (valid : clientValid client = true) (target : PolicyDomainTarget) :
    matchDomainTarget snapshot domain client target =
      .ok (reportScan snapshot client target domain snapshot.rules) := by
  obtain ⟨prepared, preparedOk, rules, filled⟩ := policySnapshotBuildConfigured_rules built
  obtain ⟨sorted, rulesNormalized⟩ := retained_sorted prepared (prepareRules_normalized preparedOk)
  rw [← rules] at sorted rulesNormalized
  unfold matchDomainTarget
  rw [normalized, valid, walkDomain_eq client target sorted filled,
    scan_walkCandidates client target rulesNormalized normalized,
    scan_walkCandidates client target rulesNormalized normalized]
  simp [anyKind, reportScan]

theorem reportScan_retained (snapshot : PolicySnapshot) (domain : Bytes)
    (scanned : ScanOrder prepared order) :
    reportScan snapshot client target domain ((retainDistinct buildRuleSameContent none
          (canonicalRules prepared)).map storeRule) =
      reportScan snapshot client target domain (order.map storeRule) := by
  have matching : ∀ left right, SameContent left right →
      ruleMatches client target domain (storeRule left) =
        ruleMatches client target domain (storeRule right) :=
    fun left right same => same.ruleMatches_eq client target domain
  have enforced : ∀ left right, SameContent left right →
      (ruleMatches client target domain (storeRule left) &&
          ruleEnforced snapshot client (storeRule left)) =
        (ruleMatches client target domain (storeRule right) &&
          ruleEnforced snapshot client (storeRule right)) := by
    intro left right same
    rw [same.ruleMatches_eq, same.ruleEnforced_eq]
  unfold reportScan
  rw [linearScan_retained scanned matching, linearScan_retained scanned enforced]

/-- Matching a normalized domain reports the rules that a linear scan picks. -/
theorem domain_match_linear_scan {idn2LookupU8 : Bytes → Option Bytes} {domainHash : Bytes → UInt64}
    {inputs : List PolicyRuleInput}
    {destinationInputs : List PolicyDestinationRuleInput}
    {enforcement : Option PolicyEnforcementConfig} {generation : Nat}
    {snapshot : PolicySnapshot}
    (built : policySnapshotBuildConfigured idn2LookupU8 domainHash inputs
      destinationInputs enforcement generation = .ok snapshot)
    {domain : Bytes} (normalized : domainIsNormalized domain = true)
    {client : Option PolicyClient} (valid : clientValid client = true)
    (target : PolicyDomainTarget) :
    ∃ prepared, prepareRules idn2LookupU8 inputs = .ok prepared ∧
      ∀ order, ScanOrder prepared order → matchDomainTarget snapshot domain client target =
          .ok (reportScan snapshot client target domain (order.map storeRule)) ∧
        ((reportScan snapshot client target domain (order.map storeRule)).matched = false ↔
          ∀ rule ∈ prepared, ruleMatches client target domain (storeRule rule) = false) ∧
        ((reportScan snapshot client target domain (order.map storeRule)).enforcingMatched = false ↔
          ∀ rule ∈ prepared, (ruleMatches client target domain (storeRule rule) &&
              ruleEnforced snapshot client (storeRule rule)) = false) := by
  obtain ⟨prepared, preparedOk, rules, _⟩ := policySnapshotBuildConfigured_rules built
  refine ⟨prepared, preparedOk, fun order scanned => ⟨?_, ?_, ?_⟩⟩
  · rw [matchDomainTarget_rules built normalized valid, rules,
      reportScan_retained client target snapshot domain scanned]
  · rw [(reportScan_flags client target snapshot domain _).1,
      Option.isSome_eq_false_iff, Option.isNone_iff_eq_none, linearScan_eq_none scanned.1]
  · rw [(reportScan_flags client target snapshot domain _).2,
      Option.isSome_eq_false_iff, Option.isNone_iff_eq_none, linearScan_eq_none scanned.1]

def sampleRule (id : Nat) (domain : Bytes) (effect : PolicyEffect) : PolicyRuleInput where
  id := id
  statisticsId := []
  domain := domain
  includeSubdomains := true
  effect := effect
  enforcement := .enforce
  source := .explicit
  target := .dns
  scope := .global
  attribution := [0x61]

def sampleRules : List PolicyRuleInput :=
  [sampleRule 1 [0x62] .block, sampleRule 2 [0x61, 0x2e, 0x62] .allow]

/-- Both groups hash to one slot, and the query goes to "c.a.b". -/
theorem domain_match_linear_scan_collision : ∃ snapshot prepared,
      policySnapshotBuildConfigured some (fun _ => 0) sampleRules [] none 1 = .ok snapshot ∧
      prepareRules some sampleRules = .ok prepared ∧
      matchDomainTarget snapshot [0x63, 0x2e, 0x61, 0x2e, 0x62] none .dns =
        .ok (reportScan snapshot none .dns [0x63, 0x2e, 0x61, 0x2e, 0x62]
          ((canonicalRules prepared).map storeRule)) := by
  have accepted : (policySnapshotBuildConfigured some (fun _ => 0) sampleRules
      [] none 1).toOption.isSome = true := by
    decide +kernel
  cases built : policySnapshotBuildConfigured some (fun _ => 0) sampleRules [] none 1 with
  | error status =>
    rw [built] at accepted
    cases accepted
  | ok snapshot =>
    have normalized : domainIsNormalized [0x63, 0x2e, 0x61, 0x2e, 0x62] = true := by decide +kernel
    obtain ⟨prepared, preparedOk, scans⟩ :=
      @domain_match_linear_scan some (fun _ => 0) sampleRules [] none 1
        snapshot built _ normalized none rfl .dns
    have canonical : ScanOrder prepared (canonicalRules prepared) :=
      ⟨perm_insertionSort _ prepared, .inr rfl⟩
    exact ⟨snapshot, prepared, rfl, preparedOk, (scans _ canonical).1⟩

end Policy

end JanusGate
