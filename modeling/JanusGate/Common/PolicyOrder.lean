import JanusGate.Common.PolicyCanonical

/-!
# The canonical order of rules and scopes

The comparison functions of `policy.c` are total orders up to their ties, so
that sorting puts the rules of one domain next to each other and, among rules
that differ only in their identifier, the smallest identifier first.
-/

namespace JanusGate

open Std

namespace Policy

/-! ## Transitive comparisons -/

theorem transCmp_on {α β : Type} (compareBase : β → β → Ordering) (project : α → β)
    [TransCmp compareBase] :
    TransCmp fun left right => compareBase (project left) (project right) where
  eq_swap := OrientedCmp.eq_swap
  isLE_trans := TransCmp.isLE_trans

theorem compareBytes_eq_compareLex : compareBytes = List.compareLex (compareOn UInt8.toNat) := by
  funext left right
  induction left generalizing right with
  | nil => cases right <;> rfl
  | cons head tail ih =>
    cases right with
    | nil => rfl
    | cons other rest =>
      unfold compareBytes
      rw [ih, List.compareLex_cons_cons]
      rfl

instance : TransCmp compareBytes := by
  rw [compareBytes_eq_compareLex]
  infer_instance

theorem compareBytes_eq_iff : compareBytes left right = .eq ↔ left = right := by
  induction left generalizing right with
  | nil => cases right <;> simp [compareBytes]
  | cons head tail ih =>
    cases right with
    | nil => simp [compareBytes]
    | cons other rest =>
      rw [compareBytes, Ordering.then_eq_eq, ih,
        Nat.compare_eq_eq, UInt8.toNat_inj, List.cons.injEq]

/-- The numbers and bytes that `scope_compare` looks at. -/
def scopeKey : PolicyScope → Nat × Nat × Bytes
  | .global => (0, 0, [])
  | .mac address => (1, 0, address)
  | .ipv4 address prefixLength => (2, prefixLength.toNat, address)
  | .ipv6 address prefixLength => (3, prefixLength.toNat, address)
  | .vlan vlanId => (4, vlanId.toNat, [])

def scopeKeyCompare : Nat × Nat × Bytes → Nat × Nat × Bytes → Ordering :=
  compareLex (compareOn fun key => key.1) (compareLex (compareOn fun key => key.2.1)
      fun left right => compareBytes left.2.2 right.2.2)

instance : TransCmp scopeKeyCompare := by
  have := transCmp_on compareBytes fun key : Nat × Nat × Bytes => key.2.2
  unfold scopeKeyCompare
  infer_instance

theorem scopeCompare_eq (left right : PolicyScope) :
    scopeCompare left right = scopeKeyCompare (scopeKey left) (scopeKey right) := by
  cases left with
  | vlan leftId =>
    cases right with
    | vlan rightId =>
      simp [scopeCompare, scopeKeyCompare, scopeKey, compareLex,
        compareOn, compareBytes, PolicyScope.code]
    | _ => rfl
  | _ => cases right <;> rfl

theorem scopeKey_injective (same : scopeKey left = scopeKey right) : left = right := by
  cases left <;> cases right <;> simp_all [scopeKey, UInt8.toNat_inj, UInt16.toNat_inj]

theorem scopeCompare_eq_iff : scopeCompare left right = .eq ↔ left = right := by
  rw [scopeCompare_eq]
  constructor
  · intro same
    apply scopeKey_injective
    simp only [scopeKeyCompare, compareLex, compareOn, Ordering.then_eq_eq,
      Nat.compare_eq_eq, compareBytes_eq_iff] at same
    exact Prod.ext same.1 (Prod.ext same.2.1 same.2.2)
  · rintro rfl
    exact ReflCmp.compare_self

instance : TransCmp scopeCompare := by
  have same : scopeCompare = fun left right =>
      scopeKeyCompare (scopeKey left) (scopeKey right) := by
    funext left right
    exact scopeCompare_eq left right
  rw [same]
  exact transCmp_on scopeKeyCompare scopeKey

instance : TransCmp buildRuleContentCompare := by
  have := transCmp_on compareBytes BuildRule.domain
  have := transCmp_on compareBytes BuildRule.attribution
  have := transCmp_on scopeCompare BuildRule.scope
  exact inferInstanceAs (TransCmp (compareLex
      (fun left right => compareBytes left.domain right.domain)
      (compareLex (compareOn fun rule => rule.includeSubdomains.toNat)
        (compareLex (compareOn fun rule => rule.target.code)
          (compareLex (compareOn fun rule => rule.source.code)
            (compareLex (compareOn fun rule => rule.effect.code)
              (compareLex (compareOn fun rule => rule.enforcement.code) (compareLex
                  (fun left right => scopeCompare left.scope right.scope)
                  (fun left right : BuildRule =>
                    compareBytes left.attribution right.attribution)))))))))

/-! ## Domain rules -/

theorem PolicyDomainTarget.code_inj {left right : PolicyDomainTarget} :
    left.code = right.code ↔ left = right := by
  cases left <;> cases right <;> decide

theorem PolicySource.code_inj {left right : PolicySource} :
    left.code = right.code ↔ left = right := by
  cases left <;> cases right <;> decide

theorem PolicyEffect.code_inj {left right : PolicyEffect} :
    left.code = right.code ↔ left = right := by
  cases left <;> cases right <;> decide

theorem PolicyEnforcement.code_inj {left right : PolicyEnforcement} :
    left.code = right.code ↔ left = right := by
  cases left <;> cases right <;> decide

theorem PolicyTransport.code_inj {left right : PolicyTransport} :
    left.code = right.code ↔ left = right := by
  cases left <;> cases right <;> decide

theorem PolicyAddressFamily.code_inj {left right : PolicyAddressFamily} :
    left.code = right.code ↔ left = right := by
  cases left <;> cases right <;> decide

theorem boolToNat_inj {left right : Bool} : left.toNat = right.toNat ↔ left = right := by
  cases left <;> cases right <;> decide

/-- What `build_rule_same_content` compares. -/
@[mk_iff]
structure SameContent (left right : BuildRule) : Prop where
  domain : left.domain = right.domain
  includeSubdomains : left.includeSubdomains = right.includeSubdomains
  target : left.target = right.target
  source : left.source = right.source
  effect : left.effect = right.effect
  enforcement : left.enforcement = right.enforcement
  scope : left.scope = right.scope
  attribution : left.attribution = right.attribution

theorem buildRuleSameContent_iff :
    buildRuleSameContent left right = true ↔ SameContent left right := by
  simp [buildRuleSameContent, compareBytes_eq_iff, scopeCompare_eq_iff, sameContent_iff, and_assoc]

theorem buildRuleContentCompare_eq_iff :
    buildRuleContentCompare left right = .eq ↔ SameContent left right := by
  simp [buildRuleContentCompare, compareBytes_eq_iff, scopeCompare_eq_iff, boolToNat_inj,
    PolicyDomainTarget.code_inj, PolicySource.code_inj, PolicyEffect.code_inj,
    PolicyEnforcement.code_inj, sameContent_iff]

def domainCanon : Canon BuildRule where
  content := buildRuleContentCompare
  identifier := BuildRule.id
  same := buildRuleSameContent
  contentTrans := inferInstance
  same_iff _ _ := buildRuleSameContent_iff.trans buildRuleContentCompare_eq_iff.symm

def ruleNotAfter (left right : BuildRule) : Prop := buildRuleCompare left right ≠ .gt

def canonicalRules (prepared : List BuildRule) : List BuildRule :=
  prepared.insertionSort fun left right => buildRuleCompare left right ≠ .gt

theorem canonicalRules_sorted (prepared : List BuildRule) :
    (canonicalRules prepared).Pairwise ruleNotAfter :=
  domainCanon.sorted_pairwise prepared

theorem ruleNotAfter_domain (order : ruleNotAfter left right) :
    compareBytes left.domain right.domain ≠ .gt := by
  intro after
  apply order
  unfold buildRuleCompare buildRuleContentCompare
  rw [after]
  rfl

/-! ## Destination rules -/

/-- What `destination_rule_same_content` compares. -/
@[mk_iff]
structure SameDestination (left right : BuildDestinationRule) : Prop where
  hasAddress : left.hasAddress = right.hasAddress
  addressFamily : left.addressFamily = right.addressFamily
  prefixLength : left.prefixLength = right.prefixLength
  address : left.address = right.address
  hasPort : left.hasPort = right.hasPort
  port : left.port = right.port
  transport : left.transport = right.transport
  source : left.source = right.source
  effect : left.effect = right.effect
  enforcement : left.enforcement = right.enforcement
  scope : left.scope = right.scope
  attribution : left.attribution = right.attribution

theorem destinationRuleSameContent_iff :
    destinationRuleSameContent left right = true ↔ SameDestination left right := by
  simp [destinationRuleSameContent, compareBytes_eq_iff, scopeCompare_eq_iff, sameDestination_iff,
    and_assoc]

theorem destinationRuleContentCompare_eq_iff {left right : BuildDestinationRule} :
    destinationRuleContentCompare left right = .eq ↔ SameDestination left right := by
  simp [destinationRuleContentCompare, compareBytes_eq_iff, scopeCompare_eq_iff, boolToNat_inj,
    UInt8.toNat_inj, UInt16.toNat_inj, PolicyAddressFamily.code_inj, PolicyTransport.code_inj,
    PolicySource.code_inj, PolicyEffect.code_inj, PolicyEnforcement.code_inj, sameDestination_iff]

instance : TransCmp destinationRuleContentCompare := by
  have := transCmp_on compareBytes BuildDestinationRule.address
  have := transCmp_on compareBytes BuildDestinationRule.attribution
  have := transCmp_on scopeCompare BuildDestinationRule.scope
  exact inferInstanceAs (TransCmp (compareLex (compareOn fun rule => rule.hasAddress.toNat)
      (compareLex (compareOn fun rule => rule.addressFamily.code)
        (compareLex (compareOn fun rule => rule.prefixLength.toNat) (compareLex
            (fun left right => compareBytes left.address right.address)
            (compareLex (compareOn fun rule => rule.hasPort.toNat)
              (compareLex (compareOn fun rule => rule.port.toNat)
                (compareLex (compareOn fun rule => rule.transport.code)
                  (compareLex (compareOn fun rule => rule.source.code)
                    (compareLex (compareOn fun rule => rule.effect.code) (compareLex
                        (compareOn fun rule => rule.enforcement.code)
                        (compareLex (fun left right => scopeCompare left.scope right.scope)
                          (fun left right : BuildDestinationRule =>
                            compareBytes left.attribution right.attribution)))))))))))))

def destinationCanon : Canon BuildDestinationRule where
  content := destinationRuleContentCompare
  identifier := BuildDestinationRule.id
  same := destinationRuleSameContent
  contentTrans := inferInstance
  same_iff _ _ := destinationRuleSameContent_iff.trans destinationRuleContentCompare_eq_iff.symm

end Policy

end JanusGate
