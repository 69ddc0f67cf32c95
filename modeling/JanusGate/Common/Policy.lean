import Mathlib.Data.List.Sort
import JanusGate.Common.Domain

/-!
# Immutable policy snapshots

Rule types, validation, canonical ordering and the snapshot builder of
`policy.c`.  A packed string with its offset is the string itself.  The keyed
short hash of libsodium is a field of the snapshot: nothing below looks inside
it.  The checksum and the build time are not read by any matcher and are left
out.
-/

namespace JanusGate

inductive PolicyEffect where
  | allow
  | block
  deriving DecidableEq

inductive PolicyEnforcement where
  | enforce
  | observe
  deriving DecidableEq

/-- Rule origin; `default` appears in match results only. -/
inductive PolicySource where
  | default
  | blocklist
  | explicit
  | emergency
  deriving DecidableEq

/-- Protocol context in which a domain rule may match. -/
inductive PolicyDomainTarget where
  | dns
  | tlsSni
  deriving DecidableEq

inductive PolicyAddressFamily where
  | none
  | ipv4
  | ipv6
  deriving DecidableEq

inductive PolicyTransport where
  | any
  | tcp
  | udp
  deriving DecidableEq

/-- Client scope: the tag and the union member it selects. -/
inductive PolicyScope where
  | global
  | mac (address : Bytes)
  | ipv4 (address : Bytes) (prefixLength : UInt8)
  | ipv6 (address : Bytes) (prefixLength : UInt8)
  | vlan (vlanId : UInt16)
  deriving DecidableEq

/-- Numeric values of the source enumerations, used for ordering. -/
def PolicyEffect.code : PolicyEffect → Nat
  | .allow => 1
  | .block => 2

def PolicyEnforcement.code : PolicyEnforcement → Nat
  | .enforce => 0
  | .observe => 1

def PolicySource.code : PolicySource → Nat
  | .default => 0
  | .blocklist => 1
  | .explicit => 2
  | .emergency => 3

def PolicyDomainTarget.code : PolicyDomainTarget → Nat
  | .dns => 0
  | .tlsSni => 1

def PolicyAddressFamily.code : PolicyAddressFamily → Nat
  | .none => 0
  | .ipv4 => 4
  | .ipv6 => 6

def PolicyTransport.code : PolicyTransport → Nat
  | .any => 0
  | .tcp => 6
  | .udp => 17

def PolicyScope.code : PolicyScope → Nat
  | .global => 0
  | .mac _ => 1
  | .ipv4 _ _ => 2
  | .ipv6 _ _ => 3
  | .vlan _ => 4

structure PolicyClient where
  hasMac : Bool := false
  mac : Bytes := []
  addressFamily : PolicyAddressFamily := .none
  address : Bytes := []
  hasVlan : Bool := false
  vlanId : UInt16 := 0
  deriving DecidableEq

structure PolicyRuleInput where
  id : Nat
  statisticsId : Bytes
  domain : Bytes
  includeSubdomains : Bool
  effect : PolicyEffect
  enforcement : PolicyEnforcement
  source : PolicySource
  target : PolicyDomainTarget
  scope : PolicyScope
  attribution : Bytes
  deriving DecidableEq

structure PolicyDestinationRuleInput where
  id : Nat
  statisticsId : Bytes
  effect : PolicyEffect
  enforcement : PolicyEnforcement
  source : PolicySource
  transport : PolicyTransport
  hasAddress : Bool
  addressFamily : PolicyAddressFamily
  address : Bytes
  prefixLength : UInt8
  hasPort : Bool
  port : UInt16
  scope : PolicyScope
  attribution : Bytes
  deriving DecidableEq

structure PolicyEnforcementConfig where
  global : PolicyEnforcement
  observedScopes : List PolicyScope
  deriving DecidableEq

structure PolicyDestination where
  transport : PolicyTransport := .any
  addressFamily : PolicyAddressFamily
  address : Bytes
  port : UInt16
  deriving DecidableEq

structure StoredRule where
  id : Nat
  statisticsId : Bytes
  domain : Bytes
  attribution : Bytes
  priority : Nat
  includeSubdomains : Bool
  effect : PolicyEffect
  enforcement : PolicyEnforcement
  source : PolicySource
  target : PolicyDomainTarget
  scope : PolicyScope
  deriving DecidableEq

structure StoredDestinationRule where
  id : Nat
  statisticsId : Bytes
  attribution : Bytes
  priority : Nat
  effect : PolicyEffect
  enforcement : PolicyEnforcement
  source : PolicySource
  transport : PolicyTransport
  hasAddress : Bool
  addressFamily : PolicyAddressFamily
  address : Bytes
  prefixLength : UInt8
  hasPort : Bool
  port : UInt16
  scope : PolicyScope
  deriving DecidableEq

/-- One occupied table slot; an empty slot is `none`. -/
structure PolicySlot where
  hash : UInt64
  firstRule : Nat
  ruleCount : Nat
  deriving DecidableEq

/-- Private immutable snapshot layout.  `table_capacity` is the length of
`table`. -/
structure PolicySnapshot where
  generation : Nat
  globalEnforcement : PolicyEnforcement
  observedScopes : List PolicyScope
  rules : List StoredRule
  destinationRules : List StoredDestinationRule
  table : List (Option PolicySlot)
  domainHash : Bytes → UInt64

variable (effect : PolicyEffect)

namespace Policy

def attributionMax : Nat := 255
def observedScopeLimit : Nat := 65536

/-- Length of a nonempty bounded string without control characters. -/
def attributionLength (value : Bytes) : Except Int Nat :=
  if value.length = 0 ∨ value.length > attributionMax then .error eInval
  else if value.all fun byte => decide (0x20 ≤ byte) && byte != 0x7f then .ok value.length
  else .error eInval

def effectSourceValid : PolicySource → Bool
  | .blocklist => effect == .block
  | .explicit => true
  | .emergency => effect == .allow
  | .default => false

def enforcementValid (enforcement : PolicyEnforcement) : Bool :=
  enforcement == .enforce || (enforcement == .observe && effect == .block)

def ruleClassValid (rule : PolicyRuleInput) : Bool :=
  effectSourceValid rule.effect rule.source && enforcementValid rule.effect rule.enforcement &&
    !(rule.target == .tlsSni && rule.source != .explicit)

/-- `0xff << (8 - remaining_bits)`, the mask of a partly covered byte. -/
def remainingMask (prefixLength : UInt8) : UInt8 := 0xff <<< (8 - prefixLength % 8)

def maskAddress (address : Bytes) (prefixLength : UInt8) (addressSize : Nat) : Bytes :=
  (List.range addressSize).map fun index =>
    if index < prefixLength.toNat / 8 then byteAt address index
    else if index = prefixLength.toNat / 8 ∧ prefixLength % 8 ≠ 0 then
      byteAt address index &&& remainingMask prefixLength
    else 0

/-- Lexicographic order of two byte strings, as `strcmp` and `memcmp`. -/
def compareBytes : Bytes → Bytes → Ordering
  | [], [] => .eq
  | [], _ :: _ => .lt
  | _ :: _, [] => .gt
  | left :: lefts, right :: rights =>
    (compare left.toNat right.toNat).then (compareBytes lefts rights)

end Policy

open Policy

def policyScopeNormalize : PolicyScope → Except Int PolicyScope
  | .global => .ok .global
  | .mac address => .ok (.mac address)
  | .ipv4 address prefixLength =>
    if prefixLength > 32 then .error eInval
    else .ok (.ipv4 (maskAddress address prefixLength 4) prefixLength)
  | .ipv6 address prefixLength =>
    if prefixLength > 128 then .error eInval
    else .ok (.ipv6 (maskAddress address prefixLength 16) prefixLength)
  | .vlan vlanId => if vlanId > 4094 then .error eInval else .ok (.vlan vlanId)

variable (idn2LookupU8 : Bytes → Option Bytes) (domainHash : Bytes → UInt64)

namespace Policy

def scopeCompare (left right : PolicyScope) : Ordering :=
  (compare left.code right.code).then <|
    match left, right with
    | .mac leftAddress, .mac rightAddress => compareBytes leftAddress rightAddress
    | .ipv4 leftAddress leftLength, .ipv4 rightAddress rightLength
    | .ipv6 leftAddress leftLength, .ipv6 rightAddress rightLength =>
      (compare leftLength.toNat rightLength.toNat).then (compareBytes leftAddress rightAddress)
    | .vlan leftId, .vlan rightId => compare leftId.toNat rightId.toNat
    | _, _ => .eq

structure BuildRule where
  id : Nat
  statisticsId : Bytes
  domain : Bytes
  attribution : Bytes
  includeSubdomains : Bool
  effect : PolicyEffect
  enforcement : PolicyEnforcement
  source : PolicySource
  target : PolicyDomainTarget
  scope : PolicyScope
  deriving DecidableEq

def buildRuleContentCompare (left right : BuildRule) : Ordering :=
  (compareBytes left.domain right.domain).then <|
  (compare left.includeSubdomains.toNat right.includeSubdomains.toNat).then <|
  (compare left.target.code right.target.code).then <|
  (compare left.source.code right.source.code).then <|
  (compare left.effect.code right.effect.code).then <|
  (compare left.enforcement.code right.enforcement.code).then <|
  (scopeCompare left.scope right.scope).then (compareBytes left.attribution right.attribution)

def buildRuleCompare (left right : BuildRule) : Ordering :=
  (buildRuleContentCompare left right).then (compare left.id right.id)

def buildRuleSameContent (left right : BuildRule) : Bool :=
  compareBytes left.domain right.domain == .eq &&
    left.includeSubdomains == right.includeSubdomains &&
    left.target == right.target && left.source == right.source &&
    left.effect == right.effect && left.enforcement == right.enforcement &&
    scopeCompare left.scope right.scope == .eq &&
    compareBytes left.attribution right.attribution == .eq

def prepareRule (input : PolicyRuleInput) : Except Int BuildRule :=
  if input.id = 0 ∨ ruleClassValid input = false then .error eInval
  else
    match policyScopeNormalize input.scope,
        domainNormalize idn2LookupU8 input.domain (domainNameMax + 1),
        attributionLength input.attribution with
    | .ok scope, .ok domain, .ok _ =>
      .ok {
        id := input.id
        statisticsId := input.statisticsId
        domain := domain
        attribution := input.attribution
        includeSubdomains := input.includeSubdomains
        effect := input.effect
        enforcement := input.enforcement
        source := input.source
        target := input.target
        scope := scope }
    | _, _, _ => .error eInval

/-- The two passes of `prepare_rules`, with the packed string size so far. -/
def prepareRulesFrom (idn2LookupU8 : Bytes → Option Bytes) :
    Nat → List PolicyRuleInput → Except Int (List BuildRule)
  | _, [] => .ok []
  | packedSize, input :: inputs => do
      let rule ← prepareRule idn2LookupU8 input
      let packedSize := packedSize + (rule.domain.length + 1) + (rule.attribution.length + 1)
      if packedSize > uint32Max then throw eOverflow
      let rules ← prepareRulesFrom idn2LookupU8 packedSize inputs
      return rule :: rules

/-- Normalize all external rules.  The count bound makes the allocation size
representable. -/
def prepareRules (inputs : List PolicyRuleInput) : Except Int (List BuildRule) :=
  if inputs.length > uint32Max then .error eOverflow
  else prepareRulesFrom idn2LookupU8 0 inputs

structure BuildDestinationRule where
  id : Nat
  statisticsId : Bytes
  attribution : Bytes
  effect : PolicyEffect
  enforcement : PolicyEnforcement
  source : PolicySource
  transport : PolicyTransport
  hasAddress : Bool
  addressFamily : PolicyAddressFamily
  address : Bytes
  prefixLength : UInt8
  hasPort : Bool
  port : UInt16
  scope : PolicyScope
  deriving DecidableEq

/-- Canonical address part of a destination rule: family, address and
prefix length. -/
def destinationAddressNormalize (input : PolicyDestinationRuleInput) :
    Except Int (PolicyAddressFamily × Bytes × UInt8) :=
  if !input.hasAddress then
    if input.addressFamily ≠ .none ∨ input.prefixLength ≠ 0 then .error eInval
    else .ok (.none, [], 0)
  else
    match input.addressFamily with
    | .ipv4 =>
      if input.prefixLength > 32 then .error eInval
      else .ok (.ipv4, maskAddress input.address input.prefixLength 4, input.prefixLength)
    | .ipv6 =>
      if input.prefixLength > 128 then .error eInval
      else .ok (.ipv6, maskAddress input.address input.prefixLength 16, input.prefixLength)
    | .none => .error eInval

variable (left right : BuildDestinationRule)

def destinationRuleContentCompare : Ordering :=
  (compare left.hasAddress.toNat right.hasAddress.toNat).then <|
  (compare left.addressFamily.code right.addressFamily.code).then <|
  (compare left.prefixLength.toNat right.prefixLength.toNat).then <|
  (compareBytes left.address right.address).then <|
  (compare left.hasPort.toNat right.hasPort.toNat).then <|
  (compare left.port.toNat right.port.toNat).then <|
  (compare left.transport.code right.transport.code).then <|
  (compare left.source.code right.source.code).then <|
  (compare left.effect.code right.effect.code).then <|
  (compare left.enforcement.code right.enforcement.code).then <|
  (scopeCompare left.scope right.scope).then (compareBytes left.attribution right.attribution)

def destinationRuleCompare : Ordering :=
  (destinationRuleContentCompare left right).then (compare left.id right.id)

def destinationRuleSameContent : Bool :=
  left.hasAddress == right.hasAddress &&
    left.addressFamily == right.addressFamily &&
    left.prefixLength == right.prefixLength &&
    compareBytes left.address right.address == .eq &&
    left.hasPort == right.hasPort && left.port == right.port &&
    left.transport == right.transport && left.source == right.source &&
    left.effect == right.effect && left.enforcement == right.enforcement &&
    scopeCompare left.scope right.scope == .eq &&
    compareBytes left.attribution right.attribution == .eq

def prepareDestinationRule (input : PolicyDestinationRuleInput) : Except Int BuildDestinationRule :=
  if input.id = 0 ∨ effectSourceValid input.effect input.source = false ∨
      enforcementValid input.effect input.enforcement = false ∨
      (input.hasAddress = false ∧ input.hasPort = false) ∨
      (input.hasPort = true ∧ input.port = 0) ∨
      (input.hasPort = false ∧ input.port ≠ 0) then
    .error eInval
  else
    match destinationAddressNormalize input, policyScopeNormalize input.scope,
        attributionLength input.attribution with
    | .ok (family, address, prefixLength), .ok scope, .ok _ =>
      .ok {
        id := input.id
        statisticsId := input.statisticsId
        attribution := input.attribution
        effect := input.effect
        enforcement := input.enforcement
        source := input.source
        transport := input.transport
        hasAddress := input.hasAddress
        addressFamily := family
        address := address
        prefixLength := prefixLength
        hasPort := input.hasPort
        port := input.port
        scope := scope }
    | _, _, _ => .error eInval

def prepareDestinationRulesFrom : Nat → List PolicyDestinationRuleInput →
      Except Int (List BuildDestinationRule)
  | _, [] => .ok []
  | packedSize, input :: inputs => do
      let rule ← prepareDestinationRule input
      let packedSize := packedSize + (rule.attribution.length + 1)
      if packedSize > uint32Max then throw eOverflow
      let rules ← prepareDestinationRulesFrom packedSize inputs
      return rule :: rules

def prepareDestinationRules (inputs : List PolicyDestinationRuleInput) :
    Except Int (List BuildDestinationRule) :=
  if inputs.length > uint32Max then .error eOverflow
  else prepareDestinationRulesFrom 0 inputs

/-- Keep the first of every run of adjacent equal elements, comparing with
the element retained last. -/
def retainDistinct {α : Type} (same : α → α → Bool) : Option α → List α → List α
  | _, [] => []
  | some last, item :: items =>
    if same last item then retainDistinct same (some last) items
    else item :: retainDistinct same (some item) items
  | none, item :: items => item :: retainDistinct same (some item) items

def policyPriority (source : PolicySource) (scope : PolicyScope) : Nat :=
  if source = .emergency then 6
  else if source = .explicit ∧ effect = .allow then if scope = .global then 4 else 5
  else if source = .explicit ∧ effect = .block then if scope = .global then 2 else 3
  else 1

def storeRule (rule : BuildRule) : StoredRule where
  id := rule.id
  statisticsId := rule.statisticsId
  domain := rule.domain
  attribution := rule.attribution
  priority := policyPriority rule.effect rule.source rule.scope
  includeSubdomains := rule.includeSubdomains
  effect := rule.effect
  enforcement := rule.enforcement
  source := rule.source
  target := rule.target
  scope := rule.scope

def storeDestinationRule (rule : BuildDestinationRule) : StoredDestinationRule where
  id := rule.id
  statisticsId := rule.statisticsId
  attribution := rule.attribution
  priority := policyPriority rule.effect rule.source rule.scope
  effect := rule.effect
  enforcement := rule.enforcement
  source := rule.source
  transport := rule.transport
  hasAddress := rule.hasAddress
  addressFamily := rule.addressFamily
  address := rule.address
  prefixLength := rule.prefixLength
  hasPort := rule.hasPort
  port := rule.port
  scope := rule.scope

/-- One maximal run of stored rules with the same domain. -/
structure DomainGroup where
  domain : Bytes
  firstRule : Nat
  ruleCount : Nat
  deriving DecidableEq

/-- The runs of equal domains, in order; `first` is the index of the head. -/
def domainGroups : Nat → List StoredRule → List DomainGroup
  | _, [] => []
  | first, rule :: rules =>
    match domainGroups (first + 1) rules with
    | [] => [⟨rule.domain, first, 1⟩]
    | group :: groups =>
      if group.domain = rule.domain then ⟨rule.domain, first, group.ruleCount + 1⟩ :: groups
      else ⟨rule.domain, first, 1⟩ :: group :: groups

def growCapacity (required : Nat) : Nat → Nat → Except Int Nat
  | 0, _ => .error eOverflow
  | fuel + 1, capacity =>
    if capacity < required then
      if capacity > sizeMax / 2 then .error eOverflow
      else growCapacity required fuel (capacity * 2)
    else .ok capacity

def probeFree (table : List (Option PolicySlot)) : Nat → Nat → Nat
  | 0, slotIndex => slotIndex
  | fuel + 1, slotIndex =>
    if (table.getD slotIndex none).isSome then
      probeFree table fuel ((slotIndex + 1) &&& (table.length - 1))
    else slotIndex

def insertGroup (table : List (Option PolicySlot)) (group : DomainGroup) :
    List (Option PolicySlot) :=
  let hash := domainHash group.domain
  let slotIndex := probeFree table table.length (hash.toNat &&& (table.length - 1))
  table.set slotIndex (some ⟨hash, group.firstRule, group.ruleCount⟩)

def populateTable (rules : List StoredRule) : Except Int (List (Option PolicySlot)) :=
  let groups := domainGroups 0 rules
  if groups.length = 0 then .ok []
  else do
    let requiredSlots ←
      match sizeMultiply groups.length 2 with
      | some required => pure required
      | none => throw eOverflow
    let capacity ← growCapacity requiredSlots 65 1
    return groups.foldl (insertGroup domainHash) (List.replicate capacity none)

def populateEnforcement (config : Option PolicyEnforcementConfig) :
    Except Int (PolicyEnforcement × List PolicyScope) :=
  match config with
  | none => .ok (.enforce, [])
  | some config => do
      if config.observedScopes.length > observedScopeLimit then throw eInval
      let scopes ← config.observedScopes.mapM fun scope =>
        if scope = .global then .error eInval else policyScopeNormalize scope
      let sorted := scopes.insertionSort fun left right => scopeCompare left right ≠ .gt
      return (config.global, retainDistinct (fun left right => scopeCompare left right == .eq)
          none sorted)

end Policy

def policySnapshotBuildConfigured (rules : List PolicyRuleInput)
    (destinationRules : List PolicyDestinationRuleInput)
    (enforcement : Option PolicyEnforcementConfig) (generation : Nat) :
    Except Int PolicySnapshot := do
  if generation = 0 then throw eInval
  let prepared ← prepareRules idn2LookupU8 rules
  let preparedDestinations ← prepareDestinationRules destinationRules
  let retained := retainDistinct buildRuleSameContent none <|
    prepared.insertionSort fun left right => buildRuleCompare left right ≠ .gt
  let retainedDestinations :=
    retainDistinct destinationRuleSameContent none <|
      preparedDestinations.insertionSort fun left right => destinationRuleCompare left right ≠ .gt
  let (globalEnforcement, observedScopes) ← populateEnforcement enforcement
  let stored := retained.map storeRule
  let table ← populateTable domainHash stored
  return {
    generation := generation
    globalEnforcement := globalEnforcement
    observedScopes := observedScopes
    rules := stored
    destinationRules := retainedDestinations.map storeDestinationRule
    table := table
    domainHash := domainHash }

end JanusGate
