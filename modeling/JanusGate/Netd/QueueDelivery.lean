import JanusGate.Netd.Nftables

/-!
# Which worker queue a packet reaches

The kernel's reading of the owned table.  The first rule that selects a packet
decides, and a queue range is spread by flow hash.  All packets of one TCP
flow meet in one queue exactly when its unfragmented packets reach the queue
of the fragments.
-/

namespace JanusGate

namespace Nftables

/-! ## Packets at the hook -/

/-- The network header of a packet at the bridge hook. -/
inductive NftNetwork where
  | ip (source destination : Bytes) (fragOff : UInt16)
  | ip6 (source destination : Bytes) (fragmentHeader : Bool)
  | other
  deriving DecidableEq

/-- A packet at the bridge hook.  Ports are absent where the transport header
is, as in later fragments. -/
structure NftPacket where
  iifname : String
  network : NftNetwork
  l4proto : Option L4Proto
  ports : Option (UInt16 × UInt16)
  deriving DecidableEq

def NftNetwork.fragmented : NftNetwork → Bool
  | .ip _ _ fragOff => fragOff &&& 0x3fff != 0
  | .ip6 _ _ fragmentHeader => fragmentHeader
  | .other => false

def NftNetwork.endpoints : NftNetwork → Option (IpFamily × Bytes × Bytes)
  | .ip source destination _ => some (.ip, source, destination)
  | .ip6 source destination _ => some (.ip6, source, destination)
  | .other => none

abbrev AddressSets := AddressSet → IpFamily → Bytes → Bool

/-- Whether a selector holds of a packet from the ingress port. -/
def NftSelector.selects (sets : AddressSets) (packet : NftPacket) : NftSelector → Bool
  | .fragments family =>
    packet.network.fragmented && packet.network.endpoints.any fun (same, _) => same == family
  | .addressSet set family =>
    packet.network.endpoints.any fun (same, _, destination) =>
      same == family && sets set family destination
  | .port proto number =>
    packet.l4proto == some proto && packet.ports.any fun (_, destination) => destination == number
  | .everything => true

def NftTable.decidingQueue (table : NftTable) (sets : AddressSets)
    (packet : NftPacket) : Option NftQueue :=
  if packet.iifname = table.ingress then
    (table.rules.find? fun rule => rule.selector.selects sets packet).bind NftRule.queue
  else none

/-- What the flow hash of the kernel may depend on. -/
structure FlowKey where
  endpoints : Option (IpFamily × Bytes × Bytes)
  l4proto : Option L4Proto
  ports : Option (UInt16 × UInt16)
  deriving DecidableEq

def NftPacket.flowKey (packet : NftPacket) : FlowKey where
  endpoints := packet.network.endpoints
  l4proto := packet.l4proto
  ports := packet.ports

def NftQueue.pick (queue : NftQueue) (hash : Nat) : Nat :=
  queue.first + hash % (queue.last - queue.first + 1)

def deliveredQueue (flowHash : FlowKey → Nat) (table : NftTable)
    (sets : AddressSets) (packet : NftPacket) : Option Nat :=
  (table.decidingQueue sets packet).map fun queue => queue.pick (flowHash packet.flowKey)

/-! ## TCP flows -/

/-- One direction of a TCP connection. -/
structure TcpFlow where
  family : IpFamily
  source : Bytes
  destination : Bytes
  sourcePort : UInt16
  destinationPort : UInt16
  deriving DecidableEq

def TcpFlow.key (flow : TcpFlow) : FlowKey where
  endpoints := some (flow.family, flow.source, flow.destination)
  l4proto := some .tcp
  ports := some (flow.sourcePort, flow.destinationPort)

/-- A packet of a flow that enters at the ingress port.  Only an unfragmented
packet is sure to show its transport header. -/
structure TcpFlow.Carries (flow : TcpFlow) (ingress : String) (packet : NftPacket) : Prop where
  fromIngress : packet.iifname = ingress
  endpoints : packet.network.endpoints = some (flow.family, flow.source, flow.destination)
  transport : packet.network.fragmented = false → packet.l4proto = some .tcp ∧
      packet.ports = some (flow.sourcePort, flow.destinationPort)

def TcpFlow.selectedByAddress (flow : TcpFlow) (sets : AddressSets) : Bool :=
  sets .destination flow.family flow.destination || sets .encryptedDns flow.family flow.destination

variable {flow : TcpFlow} {config : NetworkConfig}

theorem TcpFlow.Carries.flowKey (carried : flow.Carries ingress packet)
    (whole : packet.network.fragmented = false) : packet.flowKey = flow.key := by
  obtain ⟨proto, ports⟩ := carried.transport whole
  unfold NftPacket.flowKey TcpFlow.key
  rw [carried.endpoints, proto, ports]

section

variable {packet : NftPacket} (carried : flow.Carries config.ingress packet)

include carried

theorem decidingQueue_fragment (fragment : packet.network.fragmented = true) :
    (nftTable config).decidingQueue sets packet = some (statefulQueue config) := by
  have ingress : packet.iifname = (nftTable config).ingress := carried.fromIngress
  unfold NftTable.decidingQueue
  rw [if_pos ingress]
  cases family : flow.family <;>
    simp [nftTable, NftSelector.selects, carried.endpoints, fragment, family]

theorem decidingQueue_selected (whole : packet.network.fragmented = false)
    (selected : flow.selectedByAddress sets = true) :
    (nftTable config).decidingQueue sets packet = some (balancedQueue config) := by
  have ingress : packet.iifname = (nftTable config).ingress := carried.fromIngress
  unfold NftTable.decidingQueue
  rw [if_pos ingress]
  unfold TcpFlow.selectedByAddress at selected
  cases listed : sets .destination flow.family flow.destination with
  | true =>
    cases family : flow.family <;>
      rw [family] at listed <;>
      simp [nftTable, NftSelector.selects, carried.endpoints, whole, family, listed]
  | false =>
    have encrypted : sets .encryptedDns flow.family flow.destination = true := by
      simpa [listed] using selected
    cases family : flow.family <;>
      rw [family] at listed encrypted <;>
      simp [nftTable, NftSelector.selects, carried.endpoints, whole, family, listed, encrypted]

theorem decidingQueue_port (whole : packet.network.fragmented = false)
    (unlisted : flow.selectedByAddress sets = false)
    (port : flow.destinationPort = 53 ∨ flow.destinationPort = 443 ∨ flow.destinationPort = 853) :
    (nftTable config).decidingQueue sets packet =
      some (if flow.destinationPort = 53 then statefulQueue config
        else balancedQueue config) := by
  have ingress : packet.iifname = (nftTable config).ingress := carried.fromIngress
  obtain ⟨proto, ports⟩ := carried.transport whole
  have absent : ∀ set, sets set flow.family flow.destination = false := by
    unfold TcpFlow.selectedByAddress at unlisted
    rw [Bool.or_eq_false_iff] at unlisted
    intro set
    cases set with
    | destination => exact unlisted.1
    | encryptedDns => exact unlisted.2
  unfold NftTable.decidingQueue
  rw [if_pos ingress]
  cases family : flow.family <;>
    rw [family] at absent <;>
    rcases port with number | number | number <;>
    simp [nftTable, NftSelector.selects, carried.endpoints, whole, family,
      absent, proto, ports, number]

end

/-! ## One queue for a flow -/

theorem statefulQueue_pick (config : NetworkConfig) (hash : Nat) :
    (statefulQueue config).pick hash = config.queueFirst.toNat := by
  simp [statefulQueue, NftQueue.pick, Nat.mod_one]

theorem balancedQueue_pick (valid : networkConfigValidate config = 0) (hash : Nat) :
    (balancedQueue config).pick hash =
      config.queueFirst.toNat + hash % config.queueCount.toNat := by
  have positive := (Network.networkConfigValidate_queues valid).1
  have count : config.queueFirst.toNat + config.queueCount.toNat - 1 -
      config.queueFirst.toNat + 1 = config.queueCount.toNat := by omega
  simp [balancedQueue, NftQueue.pick, count]

theorem deliveredQueue_flow (valid : networkConfigValidate config = 0)
    (port : flow.destinationPort = 53 ∨ flow.destinationPort = 443 ∨ flow.destinationPort = 853)
    (carried : flow.Carries config.ingress packet) :
    deliveredQueue flowHash (nftTable config) sets packet = some (if packet.network.fragmented ∨
          (flow.destinationPort = 53 ∧ flow.selectedByAddress sets = false)
        then config.queueFirst.toNat
        else config.queueFirst.toNat + flowHash flow.key % config.queueCount.toNat) := by
  unfold deliveredQueue
  cases fragment : packet.network.fragmented with
  | true =>
    rw [decidingQueue_fragment carried fragment]
    simp [statefulQueue_pick]
  | false =>
    rw [carried.flowKey fragment]
    cases listed : flow.selectedByAddress sets with
    | true =>
      rw [decidingQueue_selected carried fragment listed]
      simp [balancedQueue_pick valid]
    | false =>
      rw [decidingQueue_port carried fragment listed port]
      by_cases dns : flow.destinationPort = 53
      · simp [dns, statefulQueue_pick]
      · simp [dns, balancedQueue_pick valid]

def TcpFlow.packet (flow : TcpFlow) (ingress : String) (fragment : Bool) : NftPacket where
  iifname := ingress
  network := match flow.family with
    | .ip => .ip flow.source flow.destination (if fragment then 0x2000 else 0)
    | .ip6 => .ip6 flow.source flow.destination fragment
  l4proto := some .tcp
  ports := some (flow.sourcePort, flow.destinationPort)

section

variable (flow : TcpFlow) (ingress : String) (fragment : Bool)

theorem TcpFlow.packet_fragmented :
    (flow.packet ingress fragment).network.fragmented = fragment := by
  unfold TcpFlow.packet
  cases flow.family <;> cases fragment <;> rfl

theorem TcpFlow.carries_packet : flow.Carries ingress (flow.packet ingress fragment) := by
  refine ⟨rfl, ?_, fun _ => ⟨rfl, rfl⟩⟩
  unfold TcpFlow.packet
  cases family : flow.family <;> simp [NftNetwork.endpoints]

end

/-- All packets of a TCP flow to an inspected port reach one worker queue
exactly when the flow hash picks the first queue, or the flow is DNS to an
address outside the sets. -/
theorem flow_reaches_one_queue {config : NetworkConfig} {replaceOwned : Bool} {outputSize : Nat}
    {rules : String} (built : netdBuildNftRules config replaceOwned outputSize = .ok rules)
    (flowHash : FlowKey → Nat) (sets : AddressSets) {flow : TcpFlow}
    (port : flow.destinationPort = 53 ∨ flow.destinationPort = 443 ∨ flow.destinationPort = 853) :
    rules = (nftTable config).render replaceOwned ∧
      ((∃ queue, ∀ packet, flow.Carries config.ingress packet →
          deliveredQueue flowHash (nftTable config) sets packet = some queue) ↔
        flowHash flow.key % config.queueCount.toNat = 0 ∨ (flow.destinationPort = 53 ∧
            flow.selectedByAddress sets = false)) := by
  obtain ⟨valid, printed⟩ := netdBuildNftRules_ok built
  refine ⟨printed, ?_⟩
  constructor
  · rintro ⟨queue, together⟩
    have fragment := together _ (flow.carries_packet config.ingress true)
    have whole := together _ (flow.carries_packet config.ingress false)
    rw [deliveredQueue_flow valid port (flow.carries_packet _ _),
      TcpFlow.packet_fragmented] at fragment whole
    by_cases dns : flow.destinationPort = 53 ∧ flow.selectedByAddress sets = false
    · exact .inr dns
    apply Or.inl
    rw [if_pos (.inl rfl)] at fragment
    rw [if_neg (by simpa using dns)] at whole
    have same := Option.some.inj (whole.trans fragment.symm)
    omega
  · intro condition
    refine ⟨config.queueFirst.toNat, fun packet carried => ?_⟩
    rw [deliveredQueue_flow valid port carried]
    by_cases first : packet.network.fragmented = true ∨
        (flow.destinationPort = 53 ∧ flow.selectedByAddress sets = false)
    · rw [if_pos first]
    · rw [if_neg first]
      have zero : flowHash flow.key % config.queueCount.toNat = 0 :=
        condition.resolve_right fun dns => first (.inr dns)
      rw [zero, Nat.add_zero]

def sampleFlow (port : UInt16) : TcpFlow where
  family := .ip
  source := [10, 0, 0, 1]
  destination := [10, 0, 0, 2]
  sourcePort := 4096
  destinationPort := port

theorem flow_reaches_one_queue_dns : ∃ queue, ∀ packet, (sampleFlow 53).Carries "lan0" packet →
      deliveredQueue (fun _ => 1) (nftTable sampleConfig)
        (fun _ _ _ => false) packet = some queue := by
  have built : netdBuildNftRules sampleConfig false 8192 =
      .ok ((nftTable sampleConfig).render false) := by
    decide +kernel
  exact (flow_reaches_one_queue built (fun _ => 1) (fun _ _ _ => false)
    (.inl rfl)).2.mpr (.inr ⟨rfl, rfl⟩)

/-- A connection to port 443 that the hash sends to the second queue: its
fragments go to the first one. -/
theorem tls_fragments_other_queue : netdBuildNftRules sampleConfig false 8192 =
      .ok ((nftTable sampleConfig).render false) ∧
    (sampleFlow 443).Carries "lan0" ((sampleFlow 443).packet "lan0" false) ∧
    (sampleFlow 443).Carries "lan0" ((sampleFlow 443).packet "lan0" true) ∧
    deliveredQueue (fun _ => 1) (nftTable sampleConfig) (fun _ _ _ => false)
      ((sampleFlow 443).packet "lan0" false) = some 101 ∧
    deliveredQueue (fun _ => 1) (nftTable sampleConfig) (fun _ _ _ => false)
      ((sampleFlow 443).packet "lan0" true) = some 100 := by
  refine ⟨by decide +kernel, TcpFlow.carries_packet _ _ _,
    TcpFlow.carries_packet _ _ _, by decide +kernel, by decide +kernel⟩

end Nftables

end JanusGate
