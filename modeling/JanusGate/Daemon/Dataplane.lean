import JanusGate.Common.Packet
import JanusGate.Common.Dns
import JanusGate.Common.PolicyMatch
import JanusGate.Common.PolicyStats

/-!
# Stateless packet evaluation

The functions of `dataplane.c`.  Each returns its status and the result
structure, which the worker also reads after an error.
-/

namespace JanusGate

inductive NfqueueVerdict where
  | accept
  | drop
  deriving DecidableEq

inductive DataplaneReason where
  | pass
  | policyAllow
  | policyBlock
  | malformed
  | fragmentPending
  | streamPending
  | sniEncryptedOrUnavailable
  deriving DecidableEq

/-- Result of one packet evaluation; the question index `SIZE_MAX` is `none`. -/
structure DataplaneResult where
  verdict : NfqueueVerdict := .drop
  reason : DataplaneReason := .malformed
  packetResult : PacketResult := .malformed
  dnsResult : DnsResult := .malformed
  packet : PacketView := {}
  questionIndex : Option Nat := none
  policy : PolicyMatch := {}
  destinationPolicy : PolicyDestinationMatch := {}
  policyGeneration : Nat := 0
  policyPath : Option PolicyStatsPath := none
  client : PolicyClient := {}
  inspectedDomain : Bytes := []
  queryType : UInt16 := 0
  deriving DecidableEq

variable (packet : PacketView)

namespace Dataplane

def ethernetSourceOffset : Nat := 6
def ethernetAddressSize : Nat := 6
def udpHeaderSize : Nat := 8
def vlanIdMax : UInt16 := 4094

def initializeResult (snapshot : PolicySnapshot) : DataplaneResult :=
  { policyGeneration := snapshot.generation }

def parsedResult (snapshot : PolicySnapshot) (packet : PacketView) : DataplaneResult :=
  { initializeResult snapshot with packetResult := .ok, packet := packet }

variable (snapshot : PolicySnapshot)

@[simp]
theorem parsedResult_packet : (parsedResult snapshot packet).packet = packet := rfl

@[simp]
theorem parsedResult_reason : (parsedResult snapshot packet).reason = .malformed := rfl

@[simp]
theorem parsedResult_verdict : (parsedResult snapshot packet).verdict = .drop := rfl

def addressFamily : IpVersion → PolicyAddressFamily
  | .v4 => .ipv4
  | .v6 => .ipv6
  | .none => .none

def buildClient : Except Int PolicyClient :=
  if packet.frame.length < ethernetSourceOffset + ethernetAddressSize ∨
      packet.sourceAddress.length = 0 ∨
      packet.sourceAddress.length > Packet.addressSize ∨
      packet.vlanTci.length > Packet.vlanLimit then
    .error eInval
  else
    let client : PolicyClient := {
      hasMac := true
      mac := slice packet.frame ethernetSourceOffset ethernetAddressSize
      addressFamily := addressFamily packet.ipVersion
      address := packet.sourceAddress }
    match packet.vlanTci.getLast? with
    | none => .ok client
    | some tci =>
      let vlanId := tci &&& 0x0fff
      if vlanId > vlanIdMax then .error eInval
      else .ok { client with hasVlan := true, vlanId := vlanId }

/-- Without a transport header they are any transport and port zero. -/
def packetDestination : PolicyDestination where
  transport :=
    match packet.transport with
    | .tcp => .tcp
    | .udp => .udp
    | _ => .any
  addressFamily := if packet.ipVersion = .v4 then .ipv4 else .ipv6
  address := packet.destinationAddress
  port := packet.destinationPort

variable (client : PolicyClient)

def evaluateDestination (snapshot : PolicySnapshot) (result : DataplaneResult) :
    Int × DataplaneResult :=
  match policyMatchDestination snapshot (packetDestination packet) (some client) with
  | .error _ => (eInval, result)
  | .ok found =>
    let result := { result with
      destinationPolicy := found
      policyPath := some .networkDestination
      client := client }
    if found.effect = .block then (0, { result with verdict := .drop, reason := .policyBlock })
    else (0, result)

/-- The question loop of `evaluate_dns`; `index` is the number of the head. -/
def evaluateDns (client : PolicyClient) (snapshot : PolicySnapshot) :
    Nat → List DnsQuestion → DataplaneResult → Int × DataplaneResult
  | _, [], result => (0, { result with verdict := .accept, reason := .policyAllow })
  | index, question :: questions, result =>
    match policyMatchDomain snapshot question.name (some client) with
    | .error status => (status, result)
    | .ok found =>
      if found.effect = .block then
        (0, { result with
          verdict := .drop
          reason := .policyBlock
          questionIndex := some index
          policy := found })
      else if index = 0 ∨ (found.matched = true ∧ (result.policy.matched = false ∨
            found.source.code > result.policy.source.code)) then
        evaluateDns client snapshot (index + 1) questions
          { result with questionIndex := some index, policy := found }
      else evaluateDns client snapshot (index + 1) questions result

def retainDnsQuestion (questions : List DnsQuestion) (result : DataplaneResult) : DataplaneResult :=
  match result.questionIndex.bind fun index => questions[index]? with
  | none => result
  | some question =>
    { result with
      inspectedDomain := question.name
      queryType := question.type
      policyPath := some .dns }

def evaluateDnsPayload (snapshot : PolicySnapshot)
    (message : Bytes) (result : DataplaneResult) : Int × DataplaneResult :=
  match dnsParseQuery message with
  | .error dnsResult => (0, { result with dnsResult := dnsResult })
  | .ok dns =>
    let (status, result) := evaluateDns client snapshot 0 dns.questions
      { result with dnsResult := .ok }
    if status = 0 then (0, retainDnsQuestion dns.questions result) else (eInval, result)

def evaluateDnsMessage (message : Bytes) (snapshot : PolicySnapshot) (result : DataplaneResult) :
    Int × DataplaneResult :=
  match buildClient packet with
  | .error _ => (eInval, result)
  | .ok client =>
    match evaluateDestination packet client snapshot result with
    | (0, result) =>
      if result.reason = .policyBlock then (0, result)
      else evaluateDnsPayload client snapshot message result
    | (_, result) => (eInval, result)

def isStreamPort (port : UInt16) : Bool := port == 53 || port == 443 || port == 853

def evaluateSelected (snapshot : PolicySnapshot)
    (result : DataplaneResult) : Int × DataplaneResult :=
  let packet := result.packet
  if packet.fragmented then (0, { result with verdict := .accept, reason := .fragmentPending })
  else if packet.transport = .tcp ∧ isStreamPort packet.destinationPort = true then
    (0, { result with verdict := .accept, reason := .streamPending })
  else if packet.transport ≠ .udp ∨ packet.destinationPort ≠ 53 then
    (0, { result with verdict := .accept, reason := .pass })
  else if !packet.transportComplete then (0, result)
  else
    evaluateDnsPayload client snapshot
      (slice packet.frame packet.payloadOffset packet.payloadSize) result

end Dataplane

open Dataplane

def dataplaneEvaluate (frame : Bytes) (limits : PacketLimits)
    (snapshot : PolicySnapshot) : Int × DataplaneResult :=
  match packetParse frame limits with
  | (.nonIp, view) =>
    (0, { initializeResult snapshot with
      packetResult := .nonIp
      packet := view
      verdict := .accept
      reason := .pass })
  | (.ok, view) =>
    let result := parsedResult snapshot view
    match buildClient view with
    | .error _ => (0, result)
    | .ok client =>
      match evaluateDestination view client snapshot result with
      | (0, result) =>
        if result.reason = .policyBlock then (0, result)
        else evaluateSelected client snapshot result
      | (_, result) => (eInval, result)
  | (failed, view) =>
    (0, { initializeResult snapshot with
      packetResult := failed
      packet := view })

def dataplaneEvaluateReassembledUdp (payload : Bytes)
    (snapshot : PolicySnapshot) : Int × DataplaneResult :=
  if !packet.fragmented || packet.ipProtocol != Packet.ipProtoUdp then
    (eInval, initializeResult snapshot)
  else if payload.length < udpHeaderSize then (0, parsedResult snapshot packet)
  else
    match readU16Be payload 0, readU16Be payload 2, readU16Be payload 4 with
    | some sourcePort, some destinationPort, some udpSize =>
      if udpSize.toNat ≠ payload.length then (0, parsedResult snapshot packet)
      else
        let packet := { packet with
          fragmented := false
          moreFragments := false
          fragmentOffset := 0
          transport := .udp
          sourcePort := sourcePort
          destinationPort := destinationPort
          transportComplete := true }
        let result := parsedResult snapshot packet
        if destinationPort ≠ 53 then (0, { result with verdict := .accept, reason := .pass })
        else evaluateDnsMessage packet (payload.drop udpHeaderSize) snapshot result
    | _, _, _ => (0, parsedResult snapshot packet)

def tcpPacketSelected : Bool :=
  !packet.fragmented && packet.transport == .tcp && packet.ipProtocol == Packet.ipProtoTcp

def dataplaneEvaluateTcpDns (message : Bytes) (snapshot : PolicySnapshot) : Int × DataplaneResult :=
  if !tcpPacketSelected packet || packet.destinationPort != 53 then
    (eInval, initializeResult snapshot)
  else evaluateDnsMessage packet message snapshot (parsedResult snapshot packet)

def dataplaneEvaluateVisibleSni (serverName : Bytes)
    (snapshot : PolicySnapshot) : Int × DataplaneResult :=
  if !tcpPacketSelected packet ||
      (packet.destinationPort != 443 && packet.destinationPort != 853) then
    (eInval, initializeResult snapshot)
  else
    match buildClient packet with
    | .error _ => (eInval, initializeResult snapshot)
    | .ok client =>
      let result := parsedResult snapshot packet
      match evaluateDestination packet client snapshot result with
      | (0, result) =>
        if result.reason = .policyBlock then (0, result)
        else
          match policyMatchVisibleSni snapshot serverName (some client) with
          | .error _ => (eInval, result)
          | .ok found =>
            (0, { result with
              policy := found
              verdict := if found.effect = .block then .drop else .accept
              reason := if found.effect = .block then .policyBlock else .policyAllow
              policyPath := some .tlsSni
              inspectedDomain := serverName })
      | (_, result) => (eInval, result)

end JanusGate
