import JanusGate.Common.PolicySimulate
import JanusGate.Daemon.DataplaneDns

/-!
# Simulated decisions and packet verdicts

The simulation and the packet path combine destination and domain policy in
two separate pieces of code.  For traffic that asks for the simulated name,
from the simulated client to the simulated destination, they agree.
-/

namespace JanusGate

open Dataplane Policy

namespace Dataplane

def effectVerdict : PolicyEffect → NfqueueVerdict
  | .allow => .accept
  | .block => .drop

/-- An evaluation without an error, with the verdict of an effect. -/
def CarriesOut (answer : Int × DataplaneResult) (effect : PolicyEffect) : Prop :=
  answer.1 = 0 ∧ answer.2.verdict = effectVerdict effect

def AsksFor (dns : DnsMessage) (name : Bytes) : Prop :=
  dns.questions ≠ [] ∧ ∀ question ∈ dns.questions, question.name = name

theorem evaluateDns_sameName (matched : policyMatchDomain snapshot name (some client) = .ok found)
    (sameName : ∀ question ∈ questions, question.name = name)
    (asked : questions ≠ [] ∨ found.effect = .allow) (index : Nat) (result : DataplaneResult) :
    CarriesOut (evaluateDns client snapshot index questions result) found.effect := by
  induction questions generalizing index result with
  | nil =>
    have allows := asked.resolve_left (by simp)
    rw [allows]
    exact ⟨rfl, rfl⟩
  | cons question rest ih =>
    have nameHere := sameName question (List.mem_cons_self ..)
    unfold evaluateDns
    simp only [nameHere, matched]
    by_cases blocks : found.effect = .block
    · rw [if_pos blocks, blocks]
      exact ⟨rfl, rfl⟩
    have allows : found.effect = .allow := by
      cases effect : found.effect with
      | allow => rfl
      | block => exact absurd effect blocks
    have restSame : ∀ other ∈ rest, other.name = name :=
      fun other member => sameName other (List.mem_cons_of_mem _ member)
    rw [if_neg blocks]
    split <;> exact ih restSame (.inr allows) _ _

theorem evaluateDnsPayload_sameName
    (matched : policyMatchDomain snapshot name (some client) = .ok found)
    (query : dnsParseQuery message = .ok dns) (asks : AsksFor dns name) (result : DataplaneResult) :
    CarriesOut (evaluateDnsPayload client snapshot message result) found.effect := by
  have loop := evaluateDns_sameName matched asks.2 (.inl asks.1) 0 { result with dnsResult := .ok }
  unfold evaluateDnsPayload
  simp only [query]
  rw [if_pos loop.1]
  exact ⟨rfl, by simpa using loop.2⟩

/-- A destination that is blocked ends the evaluation with a drop; otherwise
the rest of it decides. -/
theorem evaluateDestination_then (destinationMatched : policyMatchDestination snapshot
      (packetDestination packet) (some client) = .ok destinationFound)
    (undecided : result.reason = .malformed) {next : DataplaneResult → Int × DataplaneResult}
    (continues : ∀ later : DataplaneResult, later.packet = result.packet →
      CarriesOut (next later) effect) :
    CarriesOut (match evaluateDestination packet client snapshot result with
      | (0, result) => if result.reason = .policyBlock then (0, result) else next result
      | (_, result) => (eInval, result))
      (if destinationFound.effect = .block then .block else effect) := by
  unfold evaluateDestination
  simp only [destinationMatched]
  by_cases blocks : destinationFound.effect = .block
  · rw [if_pos blocks, if_pos blocks]
    exact ⟨rfl, rfl⟩
  · rw [if_neg blocks, if_neg blocks]
    simp only [undecided, reduceCtorEq, if_false]
    exact continues _ rfl

/-- The effect of a simulation is the verdict of the packet path. -/
theorem simulated_effect_is_verdict {idn2LookupU8 : Bytes → Option Bytes}
    {snapshot : PolicySnapshot} {view : PacketView} {client : PolicyClient} {name : Bytes}
    (normalized : domainIsNormalized name = true) (built : buildClient view = .ok client) :
    (∃ simulation, policySimulate idn2LookupU8 snapshot .dns name (some client)
        (some (packetDestination view)) = .ok simulation ∧
      (∀ frame limits dns, packetParse frame limits = (.ok, view) →
        view.fragmented = false → view.transport = .udp →
        view.destinationPort = 53 →
        dnsParseQuery (slice view.frame view.payloadOffset
          view.payloadSize) = .ok dns → AsksFor dns name →
          CarriesOut (dataplaneEvaluate frame limits snapshot) simulation.effect) ∧
      (∀ message dns, tcpPacketSelected view = true →
        view.destinationPort = 53 → dnsParseQuery message = .ok dns →
        AsksFor dns name → CarriesOut (dataplaneEvaluateTcpDns view message snapshot)
            simulation.effect)) ∧
    (∃ simulation, policySimulate idn2LookupU8 snapshot .tlsSni name (some client)
        (some (packetDestination view)) = .ok simulation ∧
      (tcpPacketSelected view = true → view.destinationPort = 443 ∨ view.destinationPort = 853 →
          CarriesOut (dataplaneEvaluateVisibleSni view name snapshot) simulation.effect)) := by
  have valid := buildClient_valid built
  obtain ⟨destinationFound, destinationMatched⟩ := policyMatchDestination_ok built snapshot
  have decided : ∀ target, ∃ found,
      matchDomainTarget snapshot name (some client) target = .ok found := by
    intro target
    unfold matchDomainTarget
    rw [if_neg (by simp [normalized, valid])]
    exact ⟨_, rfl⟩
  constructor
  · obtain ⟨found, matched⟩ := decided .dns
    obtain ⟨simulation, simulated, effect⟩ :=
      policySimulate_effect normalized destinationMatched matched
    refine ⟨simulation, simulated, ?_, ?_⟩
    · intro frame limits dns parsed whole udp port query asks
      have complete := (Packet.packetParse_parsed parsed).wholeComplete whole
      rw [effect]
      unfold dataplaneEvaluate
      simp only [parsed, built]
      apply evaluateDestination_then destinationMatched rfl
      intro later samePacket
      rw [evaluateSelected_query samePacket whole udp port complete]
      exact evaluateDnsPayload_sameName matched query asks later
    · intro message dns selected port query asks
      rw [effect]
      unfold dataplaneEvaluateTcpDns
      rw [if_neg (by simp [selected, port])]
      unfold evaluateDnsMessage
      simp only [built]
      apply evaluateDestination_then destinationMatched rfl
      intro later _
      exact evaluateDnsPayload_sameName matched query asks later
  · obtain ⟨found, matched⟩ := decided .tlsSni
    obtain ⟨simulation, simulated, effect⟩ :=
      policySimulate_effect normalized destinationMatched matched
    refine ⟨simulation, simulated, ?_⟩
    intro selected port
    rw [effect]
    unfold dataplaneEvaluateVisibleSni
    rw [if_neg (by rcases port with port | port <;> simp [selected, port])]
    simp only [built]
    apply evaluateDestination_then destinationMatched rfl
    intro later _
    have sni : policyMatchVisibleSni snapshot name (some client) = .ok found := matched
    simp only [sni]
    cases found.effect with
    | allow | block => exact ⟨rfl, rfl⟩

def viewClient (view : PacketView) : Option PolicyClient := (buildClient view).toOption

/-- A blocked name is simulated as a block and dropped on the packet path. -/
theorem simulated_effect_is_verdict_blocked : ∃ snapshot ∈ Worker.blockingSnapshot,
      ∃ client ∈ viewClient (queryView 0x61), ∃ simulation,
        policySimulate some snapshot .dns [0x61] (some client)
          (some (packetDestination (queryView 0x61))) = .ok simulation ∧
        CarriesOut (dataplaneEvaluate (queryFrame 0x61) packetLimitsDefault
          snapshot) simulation.effect ∧
        simulation.effect = .block := by
  obtain ⟨snapshot, isBlocking, client, isClient, dropped⟩ : ∃ snapshot ∈ Worker.blockingSnapshot,
        ∃ client ∈ viewClient (queryView 0x61),
          (dataplaneEvaluate (queryFrame 0x61) packetLimitsDefault snapshot).2.verdict = .drop := by
    decide +kernel
  obtain ⟨dns, accepted, asks⟩ : ∃ dns ∈ viewQuery (queryView 0x61), dns.questions ≠ [] ∧
        ∀ question ∈ dns.questions, question.name = [0x61] := by
    decide +kernel
  have parsed : packetParse (queryFrame 0x61) packetLimitsDefault =
      (.ok, queryView 0x61) := Prod.ext (by decide +kernel) rfl
  have built : buildClient (queryView 0x61) = .ok client := Outcome.eq_ok_of_mem_toOption isClient
  obtain ⟨⟨simulation, simulated, overUdp, _⟩, _⟩ :=
    @simulated_effect_is_verdict some snapshot (queryView 0x61) client [0x61]
      (by decide +kernel) built
  have carried := overUdp (queryFrame 0x61) packetLimitsDefault dns parsed
    (by decide +kernel) (by decide +kernel) (by decide +kernel)
    (viewQuery_ok accepted) asks
  refine ⟨snapshot, isBlocking, client, isClient, simulation, simulated, carried, ?_⟩
  have verdict := carried.2
  rw [dropped] at verdict
  cases effect : simulation.effect with
  | allow =>
    rw [effect] at verdict
    cases verdict
  | block => rfl

end Dataplane

end JanusGate
