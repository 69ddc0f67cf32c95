import JanusGate.Common.PolicyDestination
import JanusGate.Daemon.CarriedPacket
import JanusGate.Daemon.RebuiltFrame

/-!
# The two evaluations of a reassembled UDP payload

One path rebuilds a frame and evaluates it, the other decodes the UDP header by
hand.  The decoder by hand passes every port but 53 without asking destination
policy, and refuses a payload with bytes behind the UDP datagram, which the
packet parser accepts.
-/

namespace JanusGate

open Packet Layout Wire Dataplane Policy Fragment FirstBest List

namespace Reassembled

/-! ## What is compared -/

structure Decision where
  verdict : NfqueueVerdict := .drop
  reason : DataplaneReason := .malformed
  policy : PolicyMatch := {}
  destinationPolicy : PolicyDestinationMatch := {}
  deriving DecidableEq

def decision (result : DataplaneResult) : Decision where
  verdict := result.verdict
  reason := result.reason
  policy := result.policy
  destinationPolicy := result.destinationPolicy

/-- A frame is built around the payload, and its evaluation decides what the
decoder by hand decides. -/
def PathsAgree (packet : PacketView) (payload : Bytes) (outputSize : Nat)
    (limits : PacketLimits) (snapshot : PolicySnapshot) : Prop :=
  (fragmentBuildFrame packet payload outputSize).map
      (fun rebuilt => decision (dataplaneEvaluate rebuilt limits snapshot).2) =
    .ok (decision (dataplaneEvaluateReassembledUdp packet payload snapshot).2)
  deriving Decidable

def udpDestination (packet : PacketView) (port : UInt16) : PolicyDestination :=
  packetDestination { packet with transport := .udp, destinationPort := port }

/-- No destination rule of the snapshot applies to the client's datagram. -/
def Unruled (packet : PacketView) (client : PolicyClient)
    (snapshot : PolicySnapshot) (port : UInt16) : Prop :=
  ∀ rule ∈ snapshot.destinationRules, destinationRuleMatches rule (udpDestination packet port)
      (some client) = false

/-- A name that the matcher refuses comes before every question for which a
domain rule applies. -/
def Unanswered (client : PolicyClient) (snapshot : PolicySnapshot)
    (questions : List DnsQuestion) : Prop :=
  ∃ before question after, questions = before ++ question :: after ∧
    domainIsNormalized question.name = false ∧
    ∀ earlier ∈ before, policyMatchDomain snapshot earlier.name (some client) = .ok {}

section

variable (packet : PacketView)

def ReservedVlan : Prop :=
  ∃ tci ∈ packet.vlanTci.getLast?, vlanIdMax < tci &&& 0x0fff

/-- A UDP header that fills the payload goes to port 53 or meets no rule. -/
def ExactAgrees (snapshot : PolicySnapshot) (port : UInt16) : Prop :=
  port = 53 ∨ ∃ client, buildClient packet = .ok client ∧ Unruled packet client snapshot port

/-- A UDP header in front of extra bytes belongs to a packet that no policy
decides. -/
def PaddedAgrees (snapshot : PolicySnapshot) (port : UInt16) (message : Bytes) : Prop :=
  ReservedVlan packet ∨ port = 53 ∧ ∃ client, buildClient packet = .ok client ∧
      Unruled packet client snapshot port ∧
      ∀ dns, dnsParseQuery message = .ok dns → Unanswered client snapshot dns.questions

/-- The payload fits a frame, and the decoder by hand does not decide a UDP datagram otherwise. -/
def Agreeable (payload : Bytes) (snapshot : PolicySnapshot) : Prop :=
  payload.length ≤ payloadMax packet.ipVersion ∧ ∀ sourcePort port length, 8 ≤ payload.length →
      UdpHeader payload sourcePort port length → 8 ≤ length.toNat →
      length.toNat ≤ payload.length →
      if length.toNat = payload.length then ExactAgrees packet snapshot port
      else PaddedAgrees packet snapshot port (slice payload 8 (length.toNat - 8))

end

/-! ## Policies without a match -/

theorem destination_unmatched_iff (valid : clientValid (some client) = true)
    (snapshot : PolicySnapshot) (destinationOk : destinationValid destination = true) :
    policyMatchDestination snapshot destination (some client) = .ok {} ↔
      ∀ rule ∈ snapshot.destinationRules,
        destinationRuleMatches rule destination (some client) = false := by
  have noneSelected : (destinationWinners snapshot destination (some client)
      snapshot.destinationRules).selected = none ↔ ∀ rule ∈ snapshot.destinationRules,
          destinationRuleMatches rule destination (some client) = false := by
    rw [destinationWinners, scan_eq_none_iff, filter_eq_nil_iff]
    simp
  rw [policyMatchDestination_eq snapshot destinationOk valid, ← noneSelected]
  constructor
  · intro unmatched
    have report := congrArg PolicyDestinationMatch.matched (Except.ok.inj unmatched)
    cases selected : (destinationWinners snapshot destination (some client)
        snapshot.destinationRules).selected with
    | none => rfl
    | some rule =>
      unfold reportDestination at report
      simp only [selected] at report
      split at report <;> cases report
  · intro nothing
    have noneMatch := noneSelected.mp nothing
    have noneEnforced : (destinationWinners snapshot destination
        (some client) snapshot.destinationRules).enforcing = none := by
      rw [destinationWinners, scan_eq_none_iff, filter_eq_nil_iff]
      intro rule stored
      simp [noneMatch rule stored]
    simp [reportDestination, nothing, noneEnforced]

def Backed (winners : Winners StoredRule) : Prop :=
  winners.selected = none → winners.enforcing = none

variable {client : Option PolicyClient} {snapshot : PolicySnapshot}

theorem considerRule_backed (backed : Backed winners) (rule : StoredRule) :
    Backed (considerRule snapshot client exactDomain target winners rule) := by
  unfold considerRule
  split
  · intro nothing
    cases selected : winners.selected with
    | none => simp [selected, domainRulePrecedes] at nothing
    | some best =>
      rw [selected] at nothing
      split at nothing <;> cases nothing
  · exact backed

theorem matchSlot_backed (snapshot : PolicySnapshot) (slot : Option PolicySlot)
    (client : Option PolicyClient) (exactDomain : Bool) (target : PolicyDomainTarget) :
    Backed (matchSlot snapshot slot client exactDomain target) := by
  cases slot with
  | none => exact fun _ => rfl
  | some slot =>
    exact foldlRecOn _ _ (motive := Backed) (fun _ => rfl)
      fun _ backed rule _ => considerRule_backed backed rule

theorem considerCandidate_backed (backed : Backed winners) (candidate : Bytes) :
    Backed (considerCandidate snapshot client target exactDomain winners candidate) := by
  have current := matchSlot_backed snapshot (findSlot snapshot candidate) client exactDomain target
  have bothNone : ∀ winner slotWinner : Option StoredRule, laterWinner winner slotWinner = none →
        winner = none ∧ slotWinner = none := by
    intro winner slotWinner nothing
    cases slotWinner with
    | none => exact ⟨nothing, rfl⟩
    | some candidate =>
      cases winner with
      | none => cases nothing
      | some best =>
        unfold laterWinner at nothing
        dsimp only at nothing
        split at nothing <;> cases nothing
  intro nothing
  obtain ⟨noneBefore, noneHere⟩ := bothNone _ _ nothing
  unfold considerCandidate
  dsimp only
  rw [backed noneBefore, current noneHere]
  rfl

theorem policyMatchDomain_unmatched (matched : policyMatchDomain snapshot name client = .ok found)
    (unmatched : found.matched = false) : found = {} := by
  unfold policyMatchDomain matchDomainTarget at matched
  split at matched
  · cases matched
  have backed : Backed (walkDomain snapshot name client .dns) := by
    exact foldlRecOn _ _ (motive := Backed) (considerCandidate_backed (fun _ => rfl) name)
      fun _ backed candidate _ => considerCandidate_backed backed candidate
  cases matched
  cases selected : (walkDomain snapshot name client .dns).selected with
  | none =>
    rw [backed selected]
    rfl
  | some rule =>
    rw [selected] at unmatched
    unfold reportEnforcing at unmatched
    split at unmatched <;> cases unmatched

/-! ## Queries without an answer -/

variable {questions : List DnsQuestion}

theorem unanswered_cons {client : PolicyClient} :
    Unanswered client snapshot (question :: questions) ↔ domainIsNormalized question.name = false ∨
        (policyMatchDomain snapshot question.name (some client) = .ok {} ∧
          Unanswered client snapshot questions) := by
  constructor
  · rintro ⟨before, refused, after, split, notNormalized, unmatched⟩
    cases before with
    | nil =>
      obtain ⟨rfl, _⟩ := cons.inj split
      exact .inl notNormalized
    | cons head before =>
      obtain ⟨rfl, rest⟩ := cons.inj split
      exact .inr ⟨unmatched _ (mem_cons_self ..), before, refused,
        after, rest, notNormalized, fun earlier member =>
          unmatched earlier (mem_cons_of_mem _ member)⟩
  · rintro (notNormalized | ⟨unmatched, before, refused, after, split,
      notNormalized, earlierUnmatched⟩)
    · exact ⟨[], question, questions, rfl, notNormalized, by simp⟩
    · exact ⟨question :: before, refused, after, by rw [split]; rfl, notNormalized,
        forall_mem_cons.mpr ⟨unmatched, earlierUnmatched⟩⟩

variable {result : DataplaneResult}

theorem evaluateDns_matched {client : PolicyClient} {snapshot : PolicySnapshot} {index : Nat}
    (later : index ≠ 0) (matched : result.policy.matched = true) :
    (evaluateDns client snapshot index questions result).2.reason = .policyBlock ∨
      (evaluateDns client snapshot index questions result).2.policy.matched = true := by
  induction questions generalizing index result with
  | nil => exact .inr matched
  | cons question questions ih =>
    unfold evaluateDns
    cases policyMatchDomain snapshot question.name (some client) with
    | error status => exact .inr matched
    | ok found =>
      dsimp only
      split
      · exact .inl rfl
      · split
        case isTrue better => exact ih (Nat.succ_ne_zero index) (better.resolve_left later).1
        case isFalse => exact ih (Nat.succ_ne_zero index) matched

structure Undecided (result : DataplaneResult) : Prop where
  verdict : result.verdict = .drop
  reason : result.reason = .malformed
  policy : result.policy = {}

theorem evaluateDns_undecided_iff {client : PolicyClient} {snapshot : PolicySnapshot}
    (valid : clientValid (some client) = true) {index : Nat} (undecided : Undecided result) :
    Undecided (evaluateDns client snapshot index questions result).2 ↔
      Unanswered client snapshot questions := by
  induction questions generalizing index result with
  | nil =>
    constructor
    · intro same
      cases same.verdict
    · rintro ⟨before, question, after, split, _⟩
      cases before <;> cases split
  | cons question questions ih =>
    rw [unanswered_cons]
    unfold evaluateDns
    rcases @policyMatchDomain_ok snapshot question.name client valid with
      ⟨normalized, found, matched⟩ | ⟨notNormalized, refused⟩
    · simp only [matched, normalized, Bool.true_eq_false, false_or, Except.ok.injEq]
      by_cases blocked : found.effect = .block
      · rw [if_pos blocked]
        constructor
        · intro same
          cases same.reason
        · rintro ⟨rfl, _⟩
          cases blocked
      · rw [if_neg blocked]
        cases isMatched : found.matched with
        | false =>
          have empty := policyMatchDomain_unmatched matched isMatched
          subst empty
          rw [and_iff_right rfl]
          split
          · exact ih ⟨undecided.verdict, undecided.reason, rfl⟩
          · exact ih undecided
        | true =>
          rw [if_pos (.inr ⟨rfl, .inl (by rw [undecided.policy])⟩)]
          have kept := @evaluateDns_matched questions
            { result with questionIndex := some index, policy := found } client snapshot (index + 1)
            (Nat.succ_ne_zero index) isMatched
          constructor
          · intro same
            rcases kept with blocks | stays
            · rw [same.reason] at blocks
              cases blocks
            · rw [same.policy] at stays
              cases stays
          · rintro ⟨rfl, _⟩
            cases isMatched
    · simp only [refused, notNormalized, true_or, iff_true]
      exact undecided

theorem decision_retainDnsQuestion (questions : List DnsQuestion) (result : DataplaneResult) :
    decision (retainDnsQuestion questions result) = decision result := by
  unfold retainDnsQuestion
  split <;> rfl

theorem undecided_of_decision (same : decision left = decision right)
    (undecided : Undecided right) :
    Undecided left :=
  ⟨(congrArg Decision.verdict same).trans undecided.verdict,
    (congrArg Decision.reason same).trans undecided.reason,
    (congrArg Decision.policy same).trans undecided.policy⟩

theorem evaluateDnsPayload_undecided_iff {client : PolicyClient} {snapshot : PolicySnapshot}
    (valid : clientValid (some client) = true) {message : Bytes} (undecided : Undecided result) :
    Undecided (evaluateDnsPayload client snapshot message result).2 ↔
      ∀ dns, dnsParseQuery message = .ok dns → Unanswered client snapshot dns.questions := by
  unfold evaluateDnsPayload
  cases parsed : dnsParseQuery message with
  | error dnsResult =>
    simp only [reduceCtorEq, false_implies, implies_true, iff_true]
    exact { undecided with }
  | ok dns =>
    have loop := @evaluateDns_undecided_iff dns.questions
      { result with dnsResult := .ok } client snapshot valid 0 { undecided with }
    simp only [Except.ok.injEq, forall_eq']
    rw [← loop]
    split
    · have same := decision_retainDnsQuestion dns.questions
        (evaluateDns client snapshot 0 dns.questions { result with dnsResult := .ok }).2
      exact ⟨undecided_of_decision same.symm, undecided_of_decision same⟩
    · rfl

theorem evaluateDnsPayload_destinationPolicy (client : PolicyClient) (snapshot : PolicySnapshot)
    (message : Bytes) (result : DataplaneResult) :
    (evaluateDnsPayload client snapshot message
      result).2.destinationPolicy = result.destinationPolicy := by
  unfold evaluateDnsPayload
  cases dnsParseQuery message with
  | error dnsResult => rfl
  | ok dns =>
    have loop : (evaluateDns client snapshot 0 dns.questions
        { result with dnsResult := .ok }).2.destinationPolicy = result.destinationPolicy := by
      obtain ⟨_, _, _, _, frame, _⟩ := evaluateDns_frame client snapshot dns.questions 0
        { result with dnsResult := .ok }
      rw [frame]
    dsimp only
    split
    · have same := congrArg Decision.destinationPolicy (decision_retainDnsQuestion dns.questions
          (evaluateDns client snapshot 0 dns.questions { result with dnsResult := .ok }).2)
      exact Eq.trans same loop
    · exact loop

theorem decision_eq_default_iff (result : DataplaneResult) :
    decision result = {} ↔ Undecided result ∧ result.destinationPolicy = {} := by
  constructor
  · intro same
    exact ⟨⟨congrArg Decision.verdict same, congrArg Decision.reason same,
      congrArg Decision.policy same⟩, congrArg Decision.destinationPolicy same⟩
  · rintro ⟨⟨verdict, reason, policy⟩, destinationPolicy⟩
    simp [decision, verdict, reason, policy, destinationPolicy]

/-! ## The evaluation of the rebuilt frame -/

/-- The frame parses as the packet without its fragment header, with the payload
behind the IP header. -/
structure Rebuilt (packet : PacketView) (payload : Bytes)
    (limits : PacketLimits) (rebuilt : Bytes) (view : PacketView) :
    Prop where
  parse : packetParse rebuilt limits = finishParse (parseTransport view)
  whole : view.fragmented = false
  isUdp : view.ipProtocol = ipProtoUdp
  holds : Holds view.frame view.transportOffset payload
  size : view.transportSize = payload.length
  client : ∀ sourcePort port length,
    buildClient (udpView view sourcePort port length) = buildClient packet
  destination : ∀ sourcePort port length, packetDestination (udpView view sourcePort port length) =
      udpDestination packet port

section Frame

variable {packet : PacketView} {payload : Bytes} {limits : PacketLimits}
  {rebuilt : Bytes} {view : PacketView}
  (stands : Rebuilt packet payload limits rebuilt view)
  (snapshot : PolicySnapshot)

include stands

theorem evaluate_short (short : payload.length < 8) :
    decision (dataplaneEvaluate rebuilt limits snapshot).2 = {} := by
  have parse := stands.parse
  rw [parseTransport_short stands.whole stands.isUdp stands.size short] at parse
  simp only [dataplaneEvaluate, parse, finishParse]
  rfl

variable {sourcePort port length : UInt16} (long : 8 ≤ payload.length)
  (header : UdpHeader payload sourcePort port length)

include long header

theorem evaluate_misfit (misfit : length.toNat < 8 ∨ payload.length < length.toNat) :
    decision (dataplaneEvaluate rebuilt limits snapshot).2 = {} := by
  have parse := stands.parse
  rw [parseTransport_long stands.whole stands.isUdp stands.holds stands.size long header] at parse
  by_cases small : length.toNat < 8
  · rw [if_pos small] at parse
    simp only [dataplaneEvaluate, parse, finishParse]
    rfl
  · rw [if_neg small, if_neg (by omega)] at parse
    simp only [dataplaneEvaluate, parse, finishParse]
    rfl

variable (enough : 8 ≤ length.toNat) (inside : length.toNat ≤ payload.length)

include enough inside

theorem parse_udp : packetParse rebuilt limits = (.ok, udpView view sourcePort port length) := by
  have parse := stands.parse
  rw [parseTransport_long stands.whole stands.isUdp stands.holds stands.size
    long header, if_neg (by omega), if_pos inside] at parse
  exact parse

theorem evaluate_noClient (noClient : buildClient packet = .error status) :
    decision (dataplaneEvaluate rebuilt limits snapshot).2 = {} := by
  have parse := parse_udp stands long header enough inside
  have client := stands.client sourcePort port length
  rw [noClient] at client
  simp only [dataplaneEvaluate, parse, client]
  rfl

def destined (packet : PacketView) (snapshot : PolicySnapshot) (client : PolicyClient)
    (found : PolicyDestinationMatch) : DataplaneResult :=
  { parsedResult snapshot packet with
    destinationPolicy := found
    policyPath := some .networkDestination
    client := client }

theorem evaluate_client {client : PolicyClient} (built : buildClient packet = .ok client)
    (matched : policyMatchDestination snapshot (udpDestination packet port)
      (some client) = .ok found) :
    dataplaneEvaluate rebuilt limits snapshot = if found.effect = .block then
        (0, { destined (udpView view sourcePort port length) snapshot client found with
          verdict := .drop, reason := .policyBlock })
      else if port ≠ 53 then
        (0, { destined (udpView view sourcePort port length) snapshot client found with
          verdict := .accept, reason := .pass })
      else
        evaluateDnsPayload client snapshot (slice payload 8 (length.toNat - 8))
          (destined (udpView view sourcePort port length) snapshot client found) := by
  have parse := parse_udp stands long header enough inside
  have sameClient := stands.client sourcePort port length
  have message : slice (udpView view sourcePort port length).frame
      (udpView view sourcePort port length).payloadOffset
      (udpView view sourcePort port length).payloadSize = slice payload 8 (length.toNat - 8) :=
    slice_part stands.holds (show 8 + (length.toNat - 8) ≤ payload.length by omega)
  rw [built] at sameClient
  rw [← stands.destination sourcePort port length] at matched
  simp only [dataplaneEvaluate, parse, sameClient, evaluateDestination, matched]
  by_cases blocked : found.effect = .block
  · simp only [blocked, if_true]
    rfl
  simp only [blocked, if_false, parsedResult_reason, reduceCtorEq]
  unfold evaluateSelected
  have whole : (udpView view sourcePort port length).fragmented = false := stands.whole
  have transport : (udpView view sourcePort port length).transport = .udp := rfl
  have samePort : (udpView view sourcePort port length).destinationPort = port := rfl
  have complete : (udpView view sourcePort port length).transportComplete = true := rfl
  simp only [parsedResult_packet, whole, transport, samePort, complete,
    message, Bool.false_eq_true, if_false, reduceCtorEq, false_and,
    ne_eq, not_true_eq_false, false_or, Bool.not_true]
  rfl

end Frame

/-! ## The decoder by hand -/

def decodedPacket (packet : PacketView) (sourcePort port : UInt16) : PacketView :=
  { packet with
    fragmented := false
    moreFragments := false
    fragmentOffset := 0
    transport := .udp
    sourcePort := sourcePort
    destinationPort := port
    transportComplete := true }

section Decoder

variable {packet : PacketView} {payload : Bytes} (fragmented : packet.fragmented = true)
  (isUdp : packet.ipProtocol = ipProtoUdp) (snapshot : PolicySnapshot)

include fragmented isUdp

theorem decoder_selected : (!packet.fragmented || packet.ipProtocol != ipProtoUdp) = false := by
  rw [fragmented, isUdp]
  rfl

theorem decode_short (short : payload.length < 8) :
    decision (dataplaneEvaluateReassembledUdp packet payload snapshot).2 = {} := by
  have few : payload.length < Dataplane.udpHeaderSize := short
  unfold dataplaneEvaluateReassembledUdp
  simp only [decoder_selected fragmented isUdp, few, Bool.false_eq_true, if_false, if_true]
  rfl

variable {sourcePort port length : UInt16} (long : 8 ≤ payload.length)
  (header : UdpHeader payload sourcePort port length)

include long header

theorem decode_header : dataplaneEvaluateReassembledUdp packet payload snapshot =
      if length.toNat ≠ payload.length then (0, parsedResult snapshot packet)
      else if port ≠ 53 then
        (0, { parsedResult snapshot (decodedPacket packet sourcePort port) with
          verdict := .accept, reason := .pass })
      else
        evaluateDnsMessage (decodedPacket packet sourcePort port) (payload.drop 8) snapshot
          (parsedResult snapshot (decodedPacket packet sourcePort port)) := by
  have enough : ¬ payload.length < Dataplane.udpHeaderSize := Nat.not_lt.mpr long
  unfold dataplaneEvaluateReassembledUdp
  simp only [decoder_selected fragmented isUdp, enough, header.sourcePort,
    header.destinationPort, header.length, Bool.false_eq_true, if_false]
  rfl

end Decoder

variable {packet : PacketView}

theorem evaluateDnsMessage_client {client : PolicyClient} (built : buildClient packet = .ok client)
    {snapshot : PolicySnapshot} {found : PolicyDestinationMatch}
    (matched : policyMatchDestination snapshot (packetDestination packet)
      (some client) = .ok found) (message : Bytes) :
    evaluateDnsMessage packet message snapshot (parsedResult snapshot packet) =
      if found.effect = .block then
        (0, { destined packet snapshot client found with verdict := .drop, reason := .policyBlock })
      else evaluateDnsPayload client snapshot message (destined packet snapshot client found) := by
  simp only [evaluateDnsMessage, built, evaluateDestination, matched]
  by_cases blocked : found.effect = .block
  · simp only [blocked, if_true]
    rfl
  · simp only [blocked, if_false, parsedResult_reason, reduceCtorEq]
    rfl

/-! ## Agreement -/

section Agreement

variable {payload : Bytes} {limits : PacketLimits} {rebuilt : Bytes} {view : PacketView}
  (stands : Rebuilt packet payload limits rebuilt view) {sourcePort port length : UInt16}
  (long : 8 ≤ payload.length) (header : UdpHeader payload sourcePort port length)
  (enough : 8 ≤ length.toNat) (inside : length.toNat ≤ payload.length) (snapshot : PolicySnapshot)

theorem udpDestination_valid : destinationValid (udpDestination packet port) = true := by
  unfold destinationValid udpDestination packetDestination
  by_cases version : packet.ipVersion = .v4 <;> simp [version]

theorem udpDestination_match {client : PolicyClient} (built : buildClient packet = .ok client) :
    ∃ found, policyMatchDestination snapshot (udpDestination packet port)
        (some client) = .ok found ∧
      (found = {} ↔ Unruled packet client snapshot port) := by
  have valid := buildClient_valid built
  have unmatched := destination_unmatched_iff valid snapshot (@udpDestination_valid packet port)
  have matched := policyMatchDestination_eq snapshot (@udpDestination_valid packet port) valid
  refine ⟨_, matched, ?_⟩
  rw [Unruled, ← unmatched, matched, Except.ok.injEq]

include stands long header enough inside

theorem decisions_port53 (fragmented : packet.fragmented = true)
    (isUdp : packet.ipProtocol = ipProtoUdp)
    (exact_ : length.toNat = payload.length) (dns : port = 53) :
    decision (dataplaneEvaluate rebuilt limits snapshot).2 =
      decision (dataplaneEvaluateReassembledUdp packet payload snapshot).2 := by
  rw [decode_header fragmented isUdp snapshot long header,
    if_neg (not_not.mpr exact_), if_neg (not_not.mpr dns)]
  cases built : buildClient packet with
  | error status =>
    have noClient : buildClient (decodedPacket packet sourcePort port) = .error status := built
    rw [evaluate_noClient stands snapshot long header enough inside built,
      evaluateDnsMessage, noClient]
    rfl
  | ok client =>
    obtain ⟨found, matched, _⟩ := @udpDestination_match packet port snapshot client built
    have whole : slice payload 8 (length.toNat - 8) = payload.drop 8 := by
      rw [slice, exact_]
      exact take_of_length_le (by rw [length_drop])
    have byHand := @evaluateDnsMessage_client
      (decodedPacket packet sourcePort port) client built snapshot found
      matched (payload.drop 8)
    rw [evaluate_client stands snapshot long header enough inside built
      matched, byHand, whole, if_neg (not_not.mpr dns)]
    split
    · rfl
    · have moved := evaluateDnsPayload_withPacket client snapshot (payload.drop 8)
        (destined (decodedPacket packet sourcePort port) snapshot client
          found) (udpView view sourcePort port length)
      exact congrArg (fun answer => decision answer.2) moved

/-- To another port the frame path passes the datagram when no destination rule applies. -/
theorem passes_iff (other : port ≠ 53) : decision (dataplaneEvaluate rebuilt limits snapshot).2 =
        { verdict := .accept, reason := .pass } ↔
      ∃ client, buildClient packet = .ok client ∧ Unruled packet client snapshot port := by
  cases built : buildClient packet with
  | error status =>
    rw [evaluate_noClient stands snapshot long header enough inside built]
    simp
  | ok client =>
    obtain ⟨found, matched, unruled⟩ := @udpDestination_match packet port snapshot client built
    rw [evaluate_client stands snapshot long header enough inside built matched, if_pos other]
    simp only [Except.ok.injEq, exists_eq_left', ← unruled]
    by_cases blocked : found.effect = .block
    · rw [if_pos blocked]
      constructor
      · intro same
        cases congrArg Decision.verdict same
      · rintro rfl
        cases blocked
    · rw [if_neg blocked]
      constructor
      · intro same
        exact congrArg Decision.destinationPolicy same
      · rintro rfl
        rfl

/-- The frame path leaves a datagram in front of extra bytes undecided. -/
theorem undecided_iff (parsed : ParsedView frame limits packet) :
    decision (dataplaneEvaluate rebuilt limits snapshot).2 = {} ↔ PaddedAgrees packet snapshot port
        (slice payload 8 (length.toNat - 8)) := by
  cases built : buildClient packet with
  | error status =>
    rw [evaluate_noClient stands snapshot long header enough inside built]
    refine iff_of_true rfl (.inl ?_)
    by_contra notReserved
    obtain ⟨client, success⟩ := buildClient_parsed parsed
      fun tci last => UInt16.not_lt.mp fun reserved => notReserved ⟨tci, last, reserved⟩
    rw [built] at success
    cases success
  | ok client =>
    have valid := buildClient_valid built
    have notReserved : ¬ ReservedVlan packet := by
      rintro ⟨tci, last, reserved⟩
      exact absurd reserved (UInt16.not_lt.mpr (buildClient_vlan built tci last))
    obtain ⟨found, matched, unruled⟩ := @udpDestination_match packet port snapshot client built
    rw [evaluate_client stands snapshot long header enough inside built matched]
    simp only [PaddedAgrees, notReserved, built, false_or,
      Except.ok.injEq, exists_eq_left', ← unruled]
    by_cases blocked : found.effect = .block
    · rw [if_pos blocked]
      constructor
      · intro same
        cases congrArg Decision.reason same
      · rintro ⟨_, rfl, _⟩
        cases blocked
    · rw [if_neg blocked]
      by_cases dns : port = 53
      · have payloadIff := @evaluateDnsPayload_undecided_iff
          (destined (udpView view sourcePort port length) snapshot client found) client snapshot
          valid (slice payload 8 (length.toNat - 8)) ⟨rfl, rfl, rfl⟩
        have kept := evaluateDnsPayload_destinationPolicy client snapshot
          (slice payload 8 (length.toNat - 8))
          (destined (udpView view sourcePort port length) snapshot client found)
        rw [if_neg (not_not.mpr dns), decision_eq_default_iff, payloadIff, kept]
        exact ⟨fun both => ⟨dns, both.2, both.1⟩, fun all => ⟨all.2.2, all.2.1⟩⟩
      · rw [if_pos dns]
        constructor
        · intro same
          cases congrArg Decision.verdict same
        · rintro ⟨isDns, _⟩
          exact absurd isDns dns

end Agreement

variable {limits : PacketLimits} {payload : Bytes}

/-- The two paths on a payload that starts with a UDP header. -/
theorem decisions_eq_iff (parsed : ParsedView frame limits packet)
    (fragmented : packet.fragmented = true) (isUdp : packet.ipProtocol = ipProtoUdp)
    (stands : Rebuilt packet payload limits rebuilt view) {sourcePort port length : UInt16}
    (long : 8 ≤ payload.length) (header : UdpHeader payload sourcePort port length)
    (snapshot : PolicySnapshot) :
    decision (dataplaneEvaluate rebuilt limits snapshot).2 =
        decision (dataplaneEvaluateReassembledUdp packet payload snapshot).2 ↔
      (8 ≤ length.toNat → length.toNat ≤ payload.length → if length.toNat = payload.length then
          ExactAgrees packet snapshot port
        else PaddedAgrees packet snapshot port (slice payload 8 (length.toNat - 8))) := by
  have byHand := decode_header fragmented isUdp snapshot long header
  by_cases fitting : 8 ≤ length.toNat ∧ length.toNat ≤ payload.length
  · obtain ⟨enough, inside⟩ := fitting
    simp only [enough, inside, forall_const]
    by_cases wholeLength : length.toNat = payload.length
    · rw [if_pos wholeLength, ExactAgrees]
      by_cases dns : port = 53
      · exact iff_of_true (decisions_port53 stands long header enough inside snapshot
            fragmented isUdp wholeLength dns) (.inl dns)
      · rw [byHand, if_neg (not_not.mpr wholeLength), if_pos dns, or_iff_right dns,
          ← passes_iff stands long header enough inside snapshot dns]
        rfl
    · rw [if_neg wholeLength, byHand, if_pos wholeLength,
        ← undecided_iff stands long header enough inside snapshot parsed]
      rfl
  · have misfit : length.toNat < 8 ∨ payload.length < length.toNat := by omega
    have notWhole : length.toNat ≠ payload.length := by omega
    rw [evaluate_misfit stands snapshot long header misfit, byHand, if_pos notWhole]
    exact iff_of_true rfl fun enough inside => absurd ⟨enough, inside⟩ fitting

theorem rebuilt_exists (parsed : packetParse frame limits = (.ok, packet))
    (fragmented : packet.fragmented = true) (isUdp : packet.ipProtocol = ipProtoUdp)
    (room : packet.networkOffset + 40 + payload.length ≤ outputSize)
    (fits : payload.length ≤ payloadMax packet.ipVersion) :
    ∃ rebuilt view, fragmentBuildFrame packet payload outputSize = .ok rebuilt ∧
        Rebuilt packet payload limits rebuilt view := by
  obtain ⟨link, etherType, datagram, rebuilt, view, behindLink, rebuilds, built, carries, whole,
    parse⟩ := fragmentBuildFrame_carries parsed fragmented (.inl isUdp) room fits
  refine ⟨rebuilt, view, built, parse, whole, carries.isProtocol.trans isUdp, carries.bytes,
    carries.size, ?_, ?_⟩
  · intro sourcePort port length
    have rebuiltMac := encode_mac carries.link
    have packetMac := encode_mac behindLink.encoded
    refine buildClient_congr rebuiltMac.2 packetMac.2 ?_ (carries.version.trans rebuilds.version)
      (carries.source.trans rebuilds.source) ?_
    · refine Eq.trans rebuiltMac.1 (Eq.trans ?_ packetMac.1.symm)
      rw [rebuilds.link]
    · refine Eq.trans carries.vlan (Eq.trans ?_ behindLink.vlan.symm)
      rw [rebuilds.link]
  · intro sourcePort port length
    have version : view.ipVersion = packet.ipVersion := carries.version.trans rebuilds.version
    have destination : view.destinationAddress = packet.destinationAddress :=
      carries.destination.trans rebuilds.destination
    simp only [packetDestination, udpDestination, udpView, version, destination]

/-- The two evaluations agree exactly when the payload fits a frame and no policy is asked for it
that the decoder by hand does not ask. -/
theorem reassembled_paths_agree_iff {frame : Bytes} {limits : PacketLimits} {packet : PacketView}
    {payload : Bytes} {outputSize : Nat} (parsed : packetParse frame limits = (.ok, packet))
    (fragmented : packet.fragmented = true) (isUdp : packet.ipProtocol = ipProtoUdp)
    (room : packet.networkOffset + 40 + payload.length ≤ outputSize) (snapshot : PolicySnapshot) :
    PathsAgree packet payload outputSize limits snapshot ↔ Agreeable packet payload snapshot := by
  have wellFormed := packetParse_parsed parsed
  by_cases fits : payload.length ≤ payloadMax packet.ipVersion
  · obtain ⟨rebuilt, view, built, stands⟩ := rebuilt_exists parsed fragmented isUdp room fits
    have compared : PathsAgree packet payload outputSize limits snapshot ↔
        decision (dataplaneEvaluate rebuilt limits snapshot).2 =
          decision (dataplaneEvaluateReassembledUdp packet payload snapshot).2 := by
      rw [PathsAgree, built, Except.map, Except.ok.injEq]
    rw [compared, Agreeable, and_iff_right fits]
    by_cases long : 8 ≤ payload.length
    · obtain ⟨sourcePort, port, length, header⟩ := udpHeader_exists long
      rw [decisions_eq_iff wellFormed fragmented isUdp stands long header snapshot]
      constructor
      · intro agrees otherSource otherPort otherLength _ other
        obtain ⟨rfl, rfl⟩ := header.unique other
        exact agrees
      · exact fun agrees => agrees sourcePort port length long header
    · have short : payload.length < 8 := by omega
      rw [evaluate_short stands snapshot short, decode_short fragmented isUdp snapshot short]
      exact iff_of_true rfl fun _ _ _ enough => absurd enough long
  · refine iff_of_false ?_ fun agreeable => fits agreeable.1
    intro agree
    rw [PathsAgree] at agree
    cases built : fragmentBuildFrame packet payload outputSize with
    | error status =>
      rw [built] at agree
      cases agree
    | ok rebuilt =>
      exact fragmentBuildFrame_tooLong outputSize wellFormed.isIp (by omega) rebuilt built

theorem reassembled_paths_agree_query : Worker.blockingSnapshot.isSome = true ∧
    ∀ snapshot ∈ Worker.blockingSnapshot,
      PathsAgree (sampleView 8 false) (Worker.queryDatagram 0x61) 96
        packetLimitsDefault snapshot := by
  refine ⟨by decide +kernel, fun snapshot _ => ?_⟩
  have parsed : packetParse (sampleFrame 8 false
      [0x10, 0, 0, 53, 0, 16, 0, 0]) packetLimitsDefault =
        (.ok, sampleView 8 false) := Prod.ext (by decide +kernel) rfl
  refine (reassembled_paths_agree_iff parsed (by decide +kernel)
    (by decide +kernel) (by decide +kernel) snapshot).mpr ⟨by decide +kernel, ?_⟩
  intro sourcePort port length _ header _ _
  have actual : UdpHeader (Worker.queryDatagram 0x61) 0x1000 53 27 :=
    ⟨by decide, by decide, by decide⟩
  obtain ⟨rfl, rfl⟩ := actual.unique header
  exact .inl rfl

def networkSnapshot : Option PolicySnapshot :=
  (policySnapshotBuildConfigured some (fun _ => 0) []
    [sampleDestinationRule 1 .block .any (some ([10, 0, 0, 0], 8)) 0] none
    1).toOption

/-- A datagram to port 853 of a blocked network, and a query with one byte behind it. -/
theorem reassembled_paths_differ : (networkSnapshot.map fun snapshot =>
      ((dataplaneEvaluateReassembledUdp (sampleView 8 false)
          [0x10, 0, 3, 0x55, 0, 8, 0, 0] snapshot).2.verdict,
        decide (PathsAgree (sampleView 8 false)
          [0x10, 0, 3, 0x55, 0, 8, 0, 0] 96 packetLimitsDefault
          snapshot))) = some (.accept, false) ∧
    (Worker.blockingSnapshot.map fun snapshot =>
      ((dataplaneEvaluateReassembledUdp (sampleView 8 false)
          (Worker.queryDatagram 0x62 ++ [0]) snapshot).2.verdict,
        decide (PathsAgree (sampleView 8 false)
          (Worker.queryDatagram 0x62 ++ [0]) 96 packetLimitsDefault
          snapshot))) = some (.drop, false) := by
  decide +kernel

end Reassembled

end JanusGate
