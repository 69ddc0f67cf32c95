import JanusGate.Common.Network

/-!
# The owned nftables transaction

`nftables.c` prints one table.  The table is a value here, with the rules of
its chain in order, and `NftTable.render` gives the text of the source.  The
kernel side reads the same value: the first rule that selects a packet decides
and a queue range is spread by flow hash.
-/

namespace JanusGate

variable (config : NetworkConfig)

namespace Nftables

/-! ## The table and its text -/

inductive IpFamily where
  | ip
  | ip6
  deriving DecidableEq

inductive L4Proto where
  | tcp
  | udp
  deriving DecidableEq

/-- The two kinds of address sets; each kind has a set per family. -/
inductive AddressSet where
  | destination
  | encryptedDns
  deriving DecidableEq

/-- What a rule selects among the packets of the ingress port. -/
inductive NftSelector where
  | fragments (family : IpFamily)
  | addressSet (set : AddressSet) (family : IpFamily)
  | port (proto : L4Proto) (number : UInt16)
  | everything
  deriving DecidableEq

/-- A queue statement; one queue is a range of length one. -/
structure NftQueue where
  bypass : Bool
  fanout : Bool
  first : Nat
  last : Nat
  deriving DecidableEq

structure NftRule where
  selector : NftSelector
  queue : Option NftQueue
  comment : String
  deriving DecidableEq

structure NftTable where
  ingress : String
  rules : List NftRule
  deriving DecidableEq

def NftSelector.render : NftSelector → String
  | .fragments .ip => "ether type ip ip frag-off & 0x3fff != 0 "
  | .fragments .ip6 => "ether type ip6 exthdr frag exists "
  | .addressSet .destination .ip => "ether type ip ip daddr @destination_ipv4 "
  | .addressSet .destination .ip6 => "ether type ip6 ip6 daddr @destination_ipv6 "
  | .addressSet .encryptedDns .ip => "ether type ip ip daddr @encrypted_dns_ipv4 "
  | .addressSet .encryptedDns .ip6 => "ether type ip6 ip6 daddr @encrypted_dns_ipv6 "
  | .port .udp number => "meta l4proto udp udp dport " ++ toString number ++ " "
  | .port .tcp number => "meta l4proto tcp tcp dport " ++ toString number ++ " "
  | .everything => ""

def queueFlags (bypass fanout : Bool) : String :=
  if bypass && fanout then " flags bypass,fanout"
  else if bypass then " flags bypass"
  else if fanout then " flags fanout"
  else ""

def queueRange (first last : Nat) : String :=
  if first = last then toString first else toString first ++ "-" ++ toString last

def NftQueue.render (queue : NftQueue) : String :=
  "queue" ++ queueFlags queue.bypass queue.fanout ++ " to " ++ queueRange queue.first queue.last

def NftRule.render (rule : NftRule) : String :=
  "    iifname @ingress_port " ++ rule.selector.render ++ "counter " ++ (match rule.queue with
      | some queue => queue.render ++ " "
      | none => "") ++
    "comment \"" ++ rule.comment ++ "\"\n"

/-- The text of the table, after a flush when it replaces an owned one. -/
def NftTable.render (table : NftTable) (replaceOwned : Bool) : String :=
  (if replaceOwned then "flush table bridge janusgate\n" else "") ++
    "table bridge janusgate \x7b\n" ++
    "  comment \"JanusGate owned table\"\n" ++
    "  set ingress_port \x7b type ifname; elements = \x7b \"" ++
    table.ingress ++ "\" \x7d; \x7d\n" ++
    "  set destination_ipv4 \x7b type ipv4_addr; flags interval; \x7d\n" ++
    "  set destination_ipv6 \x7b type ipv6_addr; flags interval; \x7d\n" ++
    "  set encrypted_dns_ipv4 \x7b type ipv4_addr; flags interval; \x7d\n" ++
    "  set encrypted_dns_ipv6 \x7b type ipv6_addr; flags interval; \x7d\n" ++
    "  chain inspect \x7b\n" ++
    "    type filter hook prerouting priority -300; policy accept;\n" ++
    String.join (table.rules.map NftRule.render) ++
    "  \x7d\n" ++
    "\x7d\n"

/-- The queue of stateless selectors: the whole configured range. -/
def balancedQueue : NftQueue where
  bypass := config.failureMode == .failOpen
  fanout := config.queueCpuFanout && decide (config.queueCount > 1)
  first := config.queueFirst.toNat
  last := config.queueFirst.toNat + config.queueCount.toNat - 1

def statefulQueue : NftQueue where
  bypass := config.failureMode == .failOpen
  fanout := false
  first := config.queueFirst.toNat
  last := config.queueFirst.toNat

/-- The table that `jg_netd_build_nft_rules` prints. -/
def nftTable : NftTable where
  ingress := config.ingress
  rules :=
    [⟨.fragments .ip, some (statefulQueue config), "JanusGate IPv4 fragments"⟩,
      ⟨.fragments .ip6, some (statefulQueue config), "JanusGate IPv6 fragments"⟩,
      ⟨.addressSet .destination .ip, some (balancedQueue config), "JanusGate destination IPv4"⟩,
      ⟨.addressSet .destination .ip6, some (balancedQueue config), "JanusGate destination IPv6"⟩,
      ⟨.addressSet .encryptedDns .ip, some (balancedQueue config), "JanusGate encrypted DNS IPv4"⟩,
      ⟨.addressSet .encryptedDns .ip6, some (balancedQueue config), "JanusGate encrypted DNS IPv6"⟩,
      ⟨.port .udp 53, some (balancedQueue config), "JanusGate DNS UDP"⟩,
      ⟨.port .tcp 53, some (statefulQueue config), "JanusGate DNS TCP"⟩,
      ⟨.port .udp 853, some (balancedQueue config), "JanusGate encrypted DNS UDP"⟩,
      ⟨.port .tcp 853, some (balancedQueue config), "JanusGate encrypted DNS TCP"⟩,
      ⟨.port .udp 443, some (balancedQueue config), "JanusGate UDP 443 destination enforcement"⟩,
      ⟨.port .tcp 443, some (balancedQueue config), "JanusGate TLS inspection"⟩,
      ⟨.everything, none, "JanusGate pass-through"⟩]

end Nftables

open Nftables

def netdBuildNftRules (replaceOwned : Bool) (outputSize : Nat) : Except Int String :=
  if networkConfigValidate config ≠ 0 then .error (networkConfigValidate config)
  else if (balancedQueue config).render.utf8ByteSize ≥ 128 then .error eNoSpc
  else if (statefulQueue config).render.utf8ByteSize ≥ 64 then .error eNoSpc
  else
    let rules := (nftTable config).render replaceOwned
    if rules.utf8ByteSize ≥ outputSize then .error eNoSpc else .ok rules

namespace Nftables

theorem netdBuildNftRules_ok {config : NetworkConfig}
    (built : netdBuildNftRules config replaceOwned outputSize = .ok rules) :
    networkConfigValidate config = 0 ∧ rules = (nftTable config).render replaceOwned := by
  unfold netdBuildNftRules at built
  split at built
  · cases built
  case isFalse valid =>
    split at built
    · cases built
    split at built
    · cases built
    dsimp only at built
    split at built
    · cases built
    · cases built
      exact ⟨not_not.mp valid, rfl⟩

def sampleConfig : NetworkConfig where
  bridge := "jgbr0"
  ingress := "lan0"
  egress := "wan0"
  management := "mgmt0"
  bridgeMtu := 0
  queueFirst := 100
  queueCount := 2
  queueLength := 4096
  failureMode := .failOpen
  stp := true
  multicastSnooping := false
  queueCpuFanout := true

example : (balancedQueue sampleConfig).render =
    "queue flags bypass,fanout to 100-101" := by decide +kernel

end Nftables

end JanusGate
