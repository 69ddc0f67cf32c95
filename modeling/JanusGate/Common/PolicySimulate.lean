import JanusGate.Common.PolicyLookup

/-!
# Policy simulation

`jg_policy_simulate` explains the decision on one name without a packet: it
runs the destination matcher and the domain matcher and combines their
answers.  A text longer than its output array stays empty.
-/

namespace JanusGate

inductive PolicyMatchDimension where
  | default
  | domain
  | destination
  deriving DecidableEq

structure PolicySimulationMatch where
  effect : PolicyEffect := .allow
  configuredEffect : PolicyEffect := .allow
  enforcement : PolicyEnforcement := .enforce
  wouldHaveBlocked : Bool := false
  matched : Bool := false
  ruleId : Nat := 0
  source : PolicySource := .default
  domain : Bytes := []
  attribution : Bytes := []
  enforcingMatched : Bool := false
  enforcingRuleId : Nat := 0
  enforcingSource : PolicySource := .default
  enforcingDomain : Bytes := []
  enforcingAttribution : Bytes := []
  deriving DecidableEq

structure PolicySimulation where
  generation : Nat
  target : PolicyDomainTarget
  effect : PolicyEffect := .allow
  configuredEffect : PolicyEffect := .allow
  wouldHaveBlocked : Bool := false
  selected : PolicyMatchDimension := .default
  effectiveSelected : PolicyMatchDimension := .default
  normalizedDomain : Bytes
  domain : PolicySimulationMatch := {}
  destination : PolicySimulationMatch := {}
  destinationEvaluated : Bool := false
  deriving DecidableEq

namespace Policy

/-- Copy one optional rule text that fits its output array. -/
def copySimulationText (outputSize : Nat) : Option Bytes → Bytes
  | none => []
  | some text => if text.length < outputSize then text else []

def copyDomainSimulation (found : PolicyMatch) : PolicySimulationMatch where
  effect := found.effect
  configuredEffect := found.configuredEffect
  enforcement := found.enforcement
  wouldHaveBlocked := found.wouldHaveBlocked
  matched := found.matched
  ruleId := found.ruleId
  source := found.source
  domain := copySimulationText (domainNameMax + 1) found.domain
  attribution := copySimulationText (attributionMax + 1) found.attribution
  enforcingMatched := found.enforcingMatched
  enforcingRuleId := found.enforcingRuleId
  enforcingSource := found.enforcingSource
  enforcingDomain := copySimulationText (domainNameMax + 1) found.enforcingDomain
  enforcingAttribution := copySimulationText (attributionMax + 1) found.enforcingAttribution

def copyDestinationSimulation (found : PolicyDestinationMatch) : PolicySimulationMatch where
  effect := found.effect
  configuredEffect := found.configuredEffect
  enforcement := found.enforcement
  wouldHaveBlocked := found.wouldHaveBlocked
  matched := found.matched
  ruleId := found.ruleId
  source := found.source
  attribution := copySimulationText (attributionMax + 1) found.attribution
  enforcingMatched := found.enforcingMatched
  enforcingRuleId := found.enforcingRuleId
  enforcingSource := found.enforcingSource
  enforcingAttribution := copySimulationText (attributionMax + 1) found.enforcingAttribution

/-- `theoretical_selected`: the destination rule that would decide blocks. -/
def destinationSelected (found : PolicyDestinationMatch) : Bool :=
  found.matched && found.configuredEffect == .block

def simulateDestination (simulation : PolicySimulation)
    (found : PolicyDestinationMatch) : PolicySimulation :=
  let simulation := { simulation with
    destinationEvaluated := true
    destination := copyDestinationSimulation found }
  if destinationSelected found then
    { simulation with
      configuredEffect := .block
      wouldHaveBlocked := found.wouldHaveBlocked
      selected := .destination }
  else simulation

def simulateDestinationBlock (simulation : PolicySimulation)
    (found : PolicyDestinationMatch) : PolicySimulation :=
  let simulation := { simulation with
    effect := .block
    effectiveSelected := .destination }
  if destinationSelected found then simulation
  else
    { simulation with
      configuredEffect := found.configuredEffect
      selected := .destination }

def simulateDomain (theoreticalSelected : Bool) (simulation : PolicySimulation)
    (found : PolicyMatch) : PolicySimulation :=
  let simulation := { simulation with
    domain := copyDomainSimulation found
    effect := found.effect }
  let simulation :=
    if !theoreticalSelected && found.matched then
      { simulation with
        selected := .domain
        configuredEffect := found.configuredEffect
        wouldHaveBlocked := found.wouldHaveBlocked }
    else if !theoreticalSelected && simulation.destination.matched then
      { simulation with
        selected := .destination
        configuredEffect := simulation.destination.configuredEffect
        wouldHaveBlocked := simulation.destination.wouldHaveBlocked }
    else simulation
  if found.enforcingMatched then { simulation with effectiveSelected := .domain }
  else if simulation.destination.enforcingMatched then
    { simulation with
      effect := simulation.destination.effect
      effectiveSelected := .destination }
  else simulation

end Policy

open Policy

/-- Simulate destination and domain policy through the production matchers. -/
def policySimulate (idn2LookupU8 : Bytes → Option Bytes)
    (snapshot : PolicySnapshot) (target : PolicyDomainTarget)
    (domain : Bytes) (client : Option PolicyClient)
    (destination : Option PolicyDestination) :
    Except Int PolicySimulation := do
  let normalizedDomain ← domainNormalize idn2LookupU8 domain (domainNameMax + 1)
  let simulation : PolicySimulation := {
    generation := snapshot.generation
    target := target
    normalizedDomain := normalizedDomain }
  match destination with
  | none =>
    let found ← matchDomainTarget snapshot normalizedDomain client target
    return simulateDomain false simulation found
  | some destination =>
    let destinationFound ← policyMatchDestination snapshot destination client
    let simulation := simulateDestination simulation destinationFound
    if destinationFound.effect = .block then
      return simulateDestinationBlock simulation destinationFound
    else
      let found ← matchDomainTarget snapshot normalizedDomain client target
      return simulateDomain (destinationSelected destinationFound) simulation found

namespace Policy

theorem matchDomainTarget_enforcing
    (matched : matchDomainTarget snapshot domain client target = .ok found)
    (blocks : found.effect = .block) : found.enforcingMatched = true := by
  unfold matchDomainTarget at matched
  split at matched
  · cases matched
  cases matched
  cases enforcing : (walkDomain snapshot domain client target).enforcing with
  | none =>
    rw [enforcing] at blocks
    cases selected : (walkDomain snapshot domain client target).selected <;>
      simp [selected, reportEnforcing, reportSelected] at blocks
  | some rule => rfl

theorem simulateDomain_effect (enforced : found.effect = .block → found.enforcingMatched = true)
    (permitted : simulation.destination.effect = .allow) :
    (simulateDomain theoreticalSelected simulation found).effect = found.effect := by
  have lastStep : ∀ middle : PolicySimulation,
      middle.destination.effect = .allow → middle.effect = found.effect →
      (if found.enforcingMatched then { middle with effectiveSelected := .domain }
      else if middle.destination.enforcingMatched then
        { middle with
          effect := middle.destination.effect
          effectiveSelected := .destination }
      else middle).effect = found.effect := by
    intro middle allowed sameEffect
    cases isEnforced : found.enforcingMatched with
    | true => simpa using sameEffect
    | false =>
      have allows : found.effect = .allow := by
        cases effect : found.effect with
        | allow => rfl
        | block => rw [enforced effect] at isEnforced; cases isEnforced
      cases middle.destination.enforcingMatched <;> simp [sameEffect, allowed, allows]
  apply lastStep
  · split
    · exact permitted
    · split <;> exact permitted
  · split
    · rfl
    · split <;> rfl

theorem policySimulate_effect (normalized : domainIsNormalized domain = true)
    (destinationMatched : policyMatchDestination snapshot destination client = .ok destinationFound)
    (matched : matchDomainTarget snapshot domain client target = .ok found) :
    ∃ simulation, policySimulate idn2LookupU8 snapshot target domain client
        (some destination) = .ok simulation ∧
      simulation.effect = if destinationFound.effect = .block then .block else found.effect := by
  unfold policySimulate
  have bounded := (Domain.domainIsNormalized_iff.mp normalized).1
  rw [Domain.domainNormalize_of_isNormalized normalized (Nat.lt_succ_of_le bounded)]
  simp only [Outcome.ok_bind, destinationMatched]
  by_cases blocks : destinationFound.effect = .block
  · rw [if_pos blocks, if_pos blocks]
    refine ⟨_, rfl, ?_⟩
    unfold simulateDestinationBlock
    split <;> rfl
  · rw [if_neg blocks, if_neg blocks, matched]
    refine ⟨_, rfl, ?_⟩
    apply simulateDomain_effect (matchDomainTarget_enforcing matched)
    have permitted : destinationFound.effect = .allow := by
      cases effect : destinationFound.effect with
      | allow => rfl
      | block => exact absurd effect blocks
    unfold simulateDestination
    split <;> exact permitted

end Policy

end JanusGate
