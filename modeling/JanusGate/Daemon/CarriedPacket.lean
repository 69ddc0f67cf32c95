import JanusGate.Common.WireDatagram
import JanusGate.Daemon.DataplaneDns

/-!
# Evaluation of frames that carry the same datagram

The evaluation reads a view through its client, its destination and its
transport payload.
-/

namespace JanusGate

open Packet Layout Wire

namespace Dataplane

/-! ## The packet of a result -/

def withPacket (packet : PacketView) (answer : Int × DataplaneResult) : Int × DataplaneResult :=
  (answer.1, { answer.2 with packet := packet })

theorem evaluateDns_withPacket (client : PolicyClient) (snapshot : PolicySnapshot) (index : Nat)
    (questions : List DnsQuestion) (result : DataplaneResult) (packet : PacketView) :
    evaluateDns client snapshot index questions { result with packet := packet } = withPacket packet
        (evaluateDns client snapshot index questions result) := by
  induction questions generalizing index result with
  | nil => rfl
  | cons question questions ih =>
    unfold evaluateDns
    cases policyMatchDomain snapshot question.name (some client) with
    | error status => rfl
    | ok found =>
      dsimp only
      split
      · rfl
      · split
        · exact ih (index + 1) { result with questionIndex := some index, policy := found }
        · exact ih (index + 1) result

theorem retainDnsQuestion_withPacket (questions : List DnsQuestion) (result : DataplaneResult)
    (packet : PacketView) :
    retainDnsQuestion questions { result with packet := packet } =
      { retainDnsQuestion questions result with packet := packet } := by
  unfold retainDnsQuestion
  dsimp only
  split <;> rfl

theorem evaluateDnsPayload_withPacket (client : PolicyClient) (snapshot : PolicySnapshot)
    (message : Bytes) (result : DataplaneResult) (packet : PacketView) :
    evaluateDnsPayload client snapshot message { result with packet := packet } = withPacket packet
        (evaluateDnsPayload client snapshot message result) := by
  unfold evaluateDnsPayload
  cases dnsParseQuery message with
  | error dnsResult => rfl
  | ok dns =>
    have loop := evaluateDns_withPacket client snapshot 0 dns.questions
      { result with dnsResult := .ok } packet
    dsimp only at loop ⊢
    rw [loop]
    cases evaluateDns client snapshot 0 dns.questions { result with dnsResult := .ok } with
    | mk status inner =>
      dsimp only [withPacket]
      by_cases zero : status = 0
      · simp [zero, retainDnsQuestion_withPacket]
      · simp [zero]

/-! ## The client -/

theorem buildClient_congr (leftLong : 12 ≤ left.frame.length) (rightLong : 12 ≤ right.frame.length)
    (mac : slice left.frame 6 6 = slice right.frame 6 6)
    (version : left.ipVersion = right.ipVersion) (source : left.sourceAddress = right.sourceAddress)
    (vlan : left.vlanTci = right.vlanTci) : buildClient left = buildClient right := by
  have leftEnough : ¬ left.frame.length < 6 + 6 := by omega
  have rightEnough : ¬ right.frame.length < 6 + 6 := by omega
  unfold buildClient
  simp [ethernetSourceOffset, ethernetAddressSize, leftEnough, rightEnough, source, vlan, version,
    mac]

end Dataplane

namespace Wire

theorem encode_mac {link : LinkHeader} (encoded : Holds frame 0 (link.encode etherType)) :
    slice frame 6 6 = link.source ∧ 12 ≤ frame.length := by
  have whole := encoded.length_le
  rw [link.encode_length] at whole
  refine ⟨?_, by omega⟩
  have behind := (holds_append.mp encoded).2
  rw [link.destinationLength] at behind
  exact slice_holds (holds_append.mp behind).1 link.sourceLength

end Wire

end JanusGate
