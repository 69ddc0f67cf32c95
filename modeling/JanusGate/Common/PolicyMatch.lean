import JanusGate.Common.Policy

/-!
# Policy matching

The lookup side of `policy.c`: the probe of the open-addressing table, the
walk over the label suffixes of a domain, and the scan over the destination
rules.  Every matcher keeps two winners, the rule that would decide and the
rule that is enforced.
-/

namespace JanusGate

structure PolicyMatch where
  effect : PolicyEffect := .allow
  configuredEffect : PolicyEffect := .allow
  enforcement : PolicyEnforcement := .enforce
  wouldHaveBlocked : Bool := false
  matched : Bool := false
  ruleId : Nat := 0
  statisticsId : Bytes := []
  source : PolicySource := .default
  domain : Option Bytes := none
  attribution : Option Bytes := none
  enforcingMatched : Bool := false
  enforcingRuleId : Nat := 0
  enforcingStatisticsId : Bytes := []
  enforcingSource : PolicySource := .default
  enforcingDomain : Option Bytes := none
  enforcingAttribution : Option Bytes := none
  deriving DecidableEq

structure PolicyDestinationMatch where
  effect : PolicyEffect := .allow
  configuredEffect : PolicyEffect := .allow
  enforcement : PolicyEnforcement := .enforce
  wouldHaveBlocked : Bool := false
  matched : Bool := false
  ruleId : Nat := 0
  statisticsId : Bytes := []
  source : PolicySource := .default
  attribution : Option Bytes := none
  enforcingMatched : Bool := false
  enforcingRuleId : Nat := 0
  enforcingStatisticsId : Bytes := []
  enforcingSource : PolicySource := .default
  enforcingAttribution : Option Bytes := none
  deriving DecidableEq

variable (snapshot : PolicySnapshot) (destination : PolicyDestination) (domain : Bytes)

namespace Policy

/-- The probe loop of `find_slot`. -/
def probeSlot (snapshot : PolicySnapshot) (hash : UInt64) (domain : Bytes) :
    Nat → Nat → Option PolicySlot
  | 0, _ => none
  | fuel + 1, slotIndex =>
    match snapshot.table.getD slotIndex none with
    | none => none
    | some slot =>
      let storedDomain := (snapshot.rules[slot.firstRule]?.map StoredRule.domain).getD []
      if slot.hash == hash && storedDomain == domain then some slot
      else probeSlot snapshot hash domain fuel ((slotIndex + 1) &&& (snapshot.table.length - 1))

def findSlot : Option PolicySlot :=
  if snapshot.table.length = 0 then none
  else
    let hash := snapshot.domainHash domain
    probeSlot snapshot hash domain snapshot.table.length
      (hash.toNat &&& (snapshot.table.length - 1))

def clientValid : Option PolicyClient → Bool
  | none => true
  | some client => !client.hasVlan || decide (client.vlanId ≤ 4094)

def addressMatches (client network : Bytes) (prefixLength : UInt8) : Bool :=
  let completeBytes := prefixLength.toNat / 8
  ((List.range completeBytes).all fun index => byteAt client index == byteAt network index) &&
    (prefixLength % 8 == 0 ||
      byteAt client completeBytes &&& remainingMask prefixLength == byteAt network completeBytes)

def scopeMatches (scope : PolicyScope) (client : Option PolicyClient) : Bool :=
  match scope, client with
  | .global, _ => true
  | _, none => false
  | .mac address, some client => client.hasMac && client.mac == address
  | .ipv4 address prefixLength, some client =>
    client.addressFamily == .ipv4 && addressMatches client.address address prefixLength
  | .ipv6 address prefixLength, some client =>
    client.addressFamily == .ipv6 && addressMatches client.address address prefixLength
  | .vlan vlanId, some client => client.hasVlan && client.vlanId == vlanId

variable (client : Option PolicyClient)

def clientIsObserved : Bool :=
  snapshot.globalEnforcement == .observe ||
    snapshot.observedScopes.any fun scope => scopeMatches scope client

def effectiveEnforcement (effect : PolicyEffect) (ruleEnforcement : PolicyEnforcement)
    (client : Option PolicyClient) : PolicyEnforcement :=
  if effect == .block && (ruleEnforcement == .observe || clientIsObserved snapshot client) then
    .observe
  else .enforce

def domainRulePrecedes (candidate : StoredRule) : Option StoredRule → Bool
  | none => true
  | some current =>
    decide (candidate.priority > current.priority) ||
      (candidate.priority == current.priority &&
        decide (candidate.id < current.id))

structure Winners (ρ : Type) where
  selected : Option ρ := none
  enforcing : Option ρ := none
  deriving DecidableEq

/-- The tests at the head of the `match_slot` loop. -/
def ruleApplies (exactDomain : Bool) (target : PolicyDomainTarget) (rule : StoredRule) : Bool :=
  rule.target == target && (exactDomain || rule.includeSubdomains) && scopeMatches rule.scope client

def considerRule (exactDomain : Bool) (target : PolicyDomainTarget)
    (winners : Winners StoredRule) (rule : StoredRule) : Winners StoredRule :=
  if ruleApplies client exactDomain target rule then
    { selected := if domainRulePrecedes rule winners.selected then some rule else winners.selected
      enforcing :=
        if effectiveEnforcement snapshot rule.effect rule.enforcement client == .enforce &&
            domainRulePrecedes rule winners.enforcing then some rule
        else winners.enforcing }
  else winners

def matchSlot (slot : Option PolicySlot) (client : Option PolicyClient) (exactDomain : Bool)
    (target : PolicyDomainTarget) : Winners StoredRule :=
  match slot with
  | none => {}
  | some slot =>
    ((snapshot.rules.drop slot.firstRule).take slot.ruleCount).foldl
      (considerRule snapshot client exactDomain target) {}

/-- Keep the current winner unless a later group has a higher priority. -/
def laterWinner (winner current : Option StoredRule) : Option StoredRule :=
  match current, winner with
  | some candidate, none => some candidate
  | some candidate, some best =>
    if candidate.priority > best.priority then some candidate else some best
  | none, _ => winner

/-- The suffixes of a domain right after a dot, longest first, as the `strchr` walk takes them. -/
def parentDomains : Bytes → List Bytes
  | [] => []
  | value :: rest => if value == dotByte then rest :: parentDomains rest else parentDomains rest

def considerCandidate (target : PolicyDomainTarget)
    (exactDomain : Bool) (winners : Winners StoredRule) (candidate : Bytes) : Winners StoredRule :=
  let current := matchSlot snapshot (findSlot snapshot candidate) client exactDomain target
  { selected := laterWinner winners.selected current.selected
    enforcing := laterWinner winners.enforcing current.enforcing }

/-- The winners of the whole suffix walk; only the first candidate is the
domain itself. -/
def walkDomain (client : Option PolicyClient) (target : PolicyDomainTarget) : Winners StoredRule :=
  (parentDomains domain).foldl (considerCandidate snapshot client target false)
    (considerCandidate snapshot client target true {} domain)

def reportSelected (selected : Option StoredRule) (result : PolicyMatch) : PolicyMatch :=
  match selected with
  | none => result
  | some rule =>
    let enforcement := effectiveEnforcement snapshot rule.effect rule.enforcement client
    { result with
      configuredEffect := rule.effect
      enforcement := enforcement
      wouldHaveBlocked := rule.effect == .block && enforcement == .observe
      matched := true
      ruleId := rule.id
      statisticsId := rule.statisticsId
      source := rule.source
      domain := some rule.domain
      attribution := some rule.attribution }

def reportEnforcing (enforcing : Option StoredRule) (result : PolicyMatch) : PolicyMatch :=
  match enforcing with
  | none => result
  | some rule =>
    { result with
      effect := rule.effect
      enforcingMatched := true
      enforcingRuleId := rule.id
      enforcingStatisticsId := rule.statisticsId
      enforcingSource := rule.source
      enforcingDomain := some rule.domain
      enforcingAttribution := some rule.attribution }

def matchDomainTarget (client : Option PolicyClient) (target : PolicyDomainTarget) :
    Except Int PolicyMatch :=
  if !domainIsNormalized domain || !clientValid client then .error eInval
  else
    let winners := walkDomain snapshot domain client target
    .ok <| reportEnforcing winners.enforcing <| reportSelected snapshot client winners.selected {}

def destinationValid : Bool :=
  destination.addressFamily == .ipv4 || destination.addressFamily == .ipv6

def destinationRuleMatches (rule : StoredDestinationRule)
    (destination : PolicyDestination) (client : Option PolicyClient) : Bool :=
  (rule.transport == .any || rule.transport == destination.transport) &&
    (!rule.hasPort || rule.port == destination.port) &&
    (!rule.hasAddress ||
      (rule.addressFamily == destination.addressFamily &&
        addressMatches destination.address rule.address rule.prefixLength)) &&
    scopeMatches rule.scope client

def destinationRuleSpecificity (rule : StoredDestinationRule) : Nat :=
  (if rule.hasAddress then rule.prefixLength.toNat + 1 else 0) + (if rule.hasPort then 256 else 0) +
    (if rule.transport ≠ .any then 512 else 0)

def destinationRulePrecedes (candidate : StoredDestinationRule) :
    Option StoredDestinationRule → Bool
  | none => true
  | some current =>
    let candidateSpecificity := destinationRuleSpecificity candidate
    let currentSpecificity := destinationRuleSpecificity current
    decide (candidate.priority > current.priority) ||
      (candidate.priority == current.priority &&
        decide (candidateSpecificity > currentSpecificity)) ||
      (candidate.priority == current.priority && candidateSpecificity == currentSpecificity &&
        decide (candidate.id < current.id))

def considerDestinationRule (client : Option PolicyClient) (winners : Winners StoredDestinationRule)
    (current : StoredDestinationRule) : Winners StoredDestinationRule :=
  if destinationRuleMatches current destination client then
    { selected :=
        if destinationRulePrecedes current winners.selected then some current
        else winners.selected
      enforcing :=
        if effectiveEnforcement snapshot current.effect current.enforcement client == .enforce &&
            destinationRulePrecedes current winners.enforcing then
          some current
        else winners.enforcing }
  else winners

end Policy

open Policy

def policyMatchDomain (client : Option PolicyClient) : Except Int PolicyMatch :=
  matchDomainTarget snapshot domain client .dns

def policyMatchVisibleSni (serverName : Bytes) (client : Option PolicyClient) :
    Except Int PolicyMatch :=
  matchDomainTarget snapshot serverName client .tlsSni

def policyMatchDestination (client : Option PolicyClient) : Except Int PolicyDestinationMatch :=
  if !destinationValid destination || !clientValid client then .error eInval
  else
    let winners := snapshot.destinationRules.foldl
      (considerDestinationRule snapshot destination client) {}
    let base : PolicyDestinationMatch := {}
    let selectedHalf : PolicyDestinationMatch :=
      match winners.selected with
      | none => base
      | some rule =>
        let enforcement := effectiveEnforcement snapshot rule.effect rule.enforcement client
        { base with
          configuredEffect := rule.effect
          enforcement := enforcement
          wouldHaveBlocked := rule.effect == .block && enforcement == .observe
          matched := true
          ruleId := rule.id
          statisticsId := rule.statisticsId
          source := rule.source
          attribution := some rule.attribution }
    match winners.enforcing with
    | none => .ok selectedHalf
    | some rule =>
      .ok { selectedHalf with
        effect := rule.effect
        enforcingMatched := true
        enforcingRuleId := rule.id
        enforcingStatisticsId := rule.statisticsId
        enforcingSource := rule.source
        enforcingAttribution := some rule.attribution }

end JanusGate
