import JanusGate.Common.Policy

/-!
# Persistent policy statistics

The samples of `policy_stats.h` and the checks that
`jg_database_record_policy_stats` makes before it opens a transaction.  The
statements behind the checks belong to the database and enter as one write.
-/

namespace JanusGate

inductive PolicyStatsDimension where
  | domain
  | destination
  deriving DecidableEq

inductive PolicyStatsPath where
  | dns
  | tlsSni
  | networkDestination
  deriving DecidableEq

structure PolicyTrafficSample where
  occurredAt : Nat
  path : PolicyStatsPath
  matched : Bool
  wouldBlock : Bool
  enforcedBlock : Bool
  deriving DecidableEq

structure PolicyRuleSample where
  occurredAt : Nat
  dimension : PolicyStatsDimension
  ruleId : Nat
  statisticsId : Bytes
  path : PolicyStatsPath
  client : PolicyClient
  domain : Bytes
  queryType : UInt16
  decision : Bool
  wouldBlock : Bool
  enforcedBlock : Bool
  allowDecision : Bool
  shadowed : Bool
  deriving DecidableEq

namespace PolicyStats

def counterMax : Nat := 2 ^ 63 - 1

def batchMax : Nat := 1024

def identityEmpty (statisticsId : Bytes) : Bool := statisticsId.all (· == 0)

def clientValid (client : PolicyClient) : Bool := !client.hasVlan || decide (client.vlanId ≤ 4094)

def trafficSampleValid (sample : PolicyTrafficSample) : Bool :=
  decide (sample.occurredAt ≤ counterMax) && (!sample.wouldBlock || sample.matched) &&
    (!sample.enforcedBlock || sample.wouldBlock)

def ruleSampleValid (sample : PolicyRuleSample) : Bool :=
  if sample.ruleId = 0 ∨ sample.ruleId > counterMax ∨ identityEmpty sample.statisticsId = true ∨
      sample.occurredAt > counterMax ∨ clientValid sample.client = false ∨
      sample.decision = sample.shadowed ∨
      (sample.enforcedBlock = true ∧ sample.wouldBlock = false) ∨
      (sample.allowDecision = true ∧ (sample.wouldBlock = true ∨ sample.enforcedBlock = true)) then
    false
  else
    match sample.dimension with
    | .domain =>
      domainIsNormalized sample.domain &&
        ((decide (sample.path = .dns) && decide (sample.queryType ≠ 0)) ||
          (decide (sample.path = .tlsSni) && decide (sample.queryType = 0)))
    | .destination =>
      decide (sample.path = .networkDestination) &&
        decide (sample.domain = []) && decide (sample.queryType = 0)

/-- The argument and sample checks of `jg_database_record_policy_stats`. -/
def samplesAccepted (traffic : List PolicyTrafficSample) (rules : List PolicyRuleSample) : Bool :=
  decide (traffic.length ≤ batchMax) && decide (rules.length ≤ batchMax) &&
    (!traffic.isEmpty || !rules.isEmpty) &&
    traffic.all trafficSampleValid && rules.all ruleSampleValid

end PolicyStats

open PolicyStats

def databaseRecordPolicyStats (write : List PolicyTrafficSample → List PolicyRuleSample → Int)
    (traffic : List PolicyTrafficSample) (rules : List PolicyRuleSample) : Int :=
  if samplesAccepted traffic rules then write traffic rules else eInval

end JanusGate
