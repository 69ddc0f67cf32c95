import JanusGate.Daemon.WorkerFragments

/-!
# Verdicts on DNS queries over UDP

The wire decoder and the policy matcher accept different names.  A query gets
a policy verdict exactly when the question loop meets no name that only the
decoder accepts.
-/

namespace JanusGate

open Dataplane Policy

namespace Dataplane

/-! ## The matchers -/

theorem buildClient_valid (built : buildClient packet = .ok client) :
    clientValid (some client) = true := by
  have vlan := buildClient_vlan built
  unfold buildClient at built
  split at built
  · cases built
  cases last : packet.vlanTci.getLast? with
  | none =>
    rw [last] at built
    cases built
    rfl
  | some tci =>
    rw [last] at built
    dsimp only at built
    split at built
    · cases built
    · cases built
      have small := vlan tci last
      simpa [clientValid, vlanIdMax] using small

def destinationBlocks (packet : PacketView) (client : PolicyClient)
    (snapshot : PolicySnapshot) : Bool :=
  match policyMatchDestination snapshot (packetDestination packet) (some client) with
  | .ok found => found.effect == .block
  | .error _ => false

def domainBlocks (client : PolicyClient) (snapshot : PolicySnapshot) (name : Bytes) : Bool :=
  match policyMatchDomain snapshot name (some client) with
  | .ok found => found.effect == .block
  | .error _ => false

theorem policyMatchDomain_ok {snapshot : PolicySnapshot} {name : Bytes} {client : PolicyClient}
    (valid : clientValid (some client) = true) :
    (domainIsNormalized name = true ∧ ∃ found, policyMatchDomain snapshot name (some client) =
          .ok found) ∨
      (domainIsNormalized name = false ∧ policyMatchDomain snapshot name (some client) =
          .error eInval) := by
  unfold policyMatchDomain matchDomainTarget
  cases normalized : domainIsNormalized name with
  | true =>
    left
    refine ⟨rfl, ?_⟩
    rw [if_neg (by simp [valid])]
    exact ⟨_, rfl⟩
  | false =>
    right
    exact ⟨rfl, by simp⟩

section

variable (built : buildClient packet = .ok client) (snapshot : PolicySnapshot)

include built

theorem policyMatchDestination_ok :
    ∃ found, policyMatchDestination snapshot (packetDestination packet)
      (some client) = .ok found := by
  have valid := buildClient_valid built
  have destination : destinationValid (packetDestination packet) = true := by
    unfold destinationValid packetDestination
    by_cases version : packet.ipVersion = .v4 <;> simp [version]
  unfold policyMatchDestination
  rw [if_neg (by simp [destination, valid])]
  dsimp only
  split <;> exact ⟨_, rfl⟩

theorem evaluateDestination_eq (result : DataplaneResult) :
    ∃ found, evaluateDestination packet client snapshot result =
      (0, if destinationBlocks packet client snapshot then
          { result with
            destinationPolicy := found
            policyPath := some .networkDestination
            client := client
            verdict := .drop
            reason := .policyBlock }
        else
          { result with
            destinationPolicy := found
            policyPath := some .networkDestination
            client := client }) := by
  obtain ⟨found, matched⟩ := policyMatchDestination_ok built snapshot
  refine ⟨found, ?_⟩
  unfold evaluateDestination destinationBlocks
  simp only [matched, beq_iff_eq]
  split <;> rfl

end

/-! ## The question loop -/

def PolicyVerdict (answer : Int × DataplaneResult) : Prop :=
  answer.1 = 0 ∧ ((answer.2.verdict = .accept ∧ answer.2.reason = .policyAllow) ∨
      (answer.2.verdict = .drop ∧ answer.2.reason = .policyBlock))
  deriving Decidable

/-- Every question that the loop reaches has a normalized name. -/
def NamesNormalized (client : PolicyClient) (snapshot : PolicySnapshot)
    (questions : List DnsQuestion) : Prop :=
  ∀ before question after, questions = before ++ question :: after → (∀ earlier ∈ before,
      domainBlocks client snapshot earlier.name = false) → domainIsNormalized question.name = true

theorem namesNormalized_cons :
    NamesNormalized client snapshot (question :: questions) ↔
      domainIsNormalized question.name = true ∧
        (domainBlocks client snapshot question.name = false →
          NamesNormalized client snapshot questions) := by
  constructor
  · intro normalized
    refine ⟨normalized [] question questions rfl (by simp), ?_⟩
    intro passes before later after split earlier
    exact normalized (question :: before) later after (by rw [split]; rfl)
      (List.forall_mem_cons.mpr ⟨passes, earlier⟩)
  · rintro ⟨first, rest⟩ before later after split earlier
    cases before with
    | nil =>
      obtain ⟨rfl, _⟩ := List.cons.inj split
      exact first
    | cons head before =>
      obtain ⟨rfl, splitRest⟩ := List.cons.inj split
      exact rest (earlier _ (List.mem_cons_self ..)) before later after splitRest
        (fun other member => earlier other (List.mem_cons_of_mem _ member))

/-- The question loop ends with a policy verdict exactly when every name it reaches is normalized.
-/
theorem evaluateDns_verdict {client : PolicyClient} {snapshot : PolicySnapshot} {index : Nat}
    {questions : List DnsQuestion} {result : DataplaneResult}
    (valid : clientValid (some client) = true) :
    (NamesNormalized client snapshot questions ∧
        PolicyVerdict (evaluateDns client snapshot index questions result)) ∨
      (¬ NamesNormalized client snapshot questions ∧
        (evaluateDns client snapshot index questions result).1 ≠ 0) := by
  induction questions generalizing index result with
  | nil =>
    left
    refine ⟨?_, rfl, .inl ⟨rfl, rfl⟩⟩
    intro before question after split
    cases before <;> cases split
  | cons question rest ih =>
    rw [namesNormalized_cons]
    unfold evaluateDns
    rcases @policyMatchDomain_ok snapshot question.name client valid with
      ⟨normalized, found, matched⟩ | ⟨notNormalized, refused⟩
    · have blocks : domainBlocks client snapshot question.name = (found.effect == .block) := by
        simp [domainBlocks, matched]
      simp only [matched]
      by_cases blocked : found.effect = .block
      · left
        rw [if_pos blocked]
        refine ⟨⟨normalized, ?_⟩, rfl, .inr ⟨rfl, rfl⟩⟩
        intro passes
        rw [blocks, blocked] at passes
        cases passes
      · have passes : domainBlocks client snapshot question.name = false := by
          rw [blocks]
          simpa using blocked
        rw [if_neg blocked]
        split
        · rcases @ih (index + 1)
              { result with questionIndex := some index, policy := found } with
            ⟨names, verdict⟩ | ⟨names, failed⟩
          · exact .inl ⟨⟨normalized, fun _ => names⟩, verdict⟩
          · exact .inr ⟨fun both => names (both.2 passes), failed⟩
        · rcases @ih (index + 1) result with ⟨names, verdict⟩ | ⟨names, failed⟩
          · exact .inl ⟨⟨normalized, fun _ => names⟩, verdict⟩
          · exact .inr ⟨fun both => names (both.2 passes), failed⟩
    · right
      refine ⟨?_, ?_⟩
      · rintro ⟨normalized, _⟩
        rw [notNormalized] at normalized
        cases normalized
      · simp [refused, eInval]

/-! ## Complete queries -/

theorem evaluateDnsPayload_verdict (valid : clientValid (some client) = true)
    (query : dnsParseQuery message = .ok dns) :
    PolicyVerdict (evaluateDnsPayload client snapshot message result) ↔
      NamesNormalized client snapshot dns.questions := by
  unfold evaluateDnsPayload
  simp only [query]
  rcases @evaluateDns_verdict client snapshot 0 dns.questions
      { result with dnsResult := .ok } valid with
    ⟨names, zero, verdict⟩ | ⟨names, failed⟩
  · constructor
    · exact fun _ => names
    · intro _
      rw [if_pos zero]
      exact ⟨rfl, by simpa using verdict⟩
  · constructor
    · rintro ⟨impossible, _⟩
      simp [failed, eInval] at impossible
    · exact fun normalized => absurd normalized names

theorem evaluateSelected_query (packet : result.packet = view) (whole : view.fragmented = false)
    (udp : view.transport = .udp) (port : view.destinationPort = 53)
    (complete : view.transportComplete = true) :
    evaluateSelected client snapshot result = evaluateDnsPayload client snapshot
        (slice view.frame view.payloadOffset view.payloadSize) result := by
  simp [evaluateSelected, packet, whole, udp, port, complete]

/-- A complete query over UDP gets a policy verdict exactly when its innermost VLAN is not reserved
and destination policy blocks it or the question loop reaches normalized names only. -/
theorem udp_query_policy_verdict {frame : Bytes} {limits : PacketLimits} {snapshot : PolicySnapshot}
    {view : PacketView} {dns : DnsMessage} (parsed : packetParse frame limits = (.ok, view))
    (whole : view.fragmented = false) (udp : view.transport = .udp)
    (port : view.destinationPort = 53)
    (query : dnsParseQuery (slice view.frame view.payloadOffset view.payloadSize) = .ok dns) :
    PolicyVerdict (dataplaneEvaluate frame limits snapshot) ↔
      (∀ tci ∈ view.vlanTci.getLast?, tci &&& 0x0fff ≤ vlanIdMax) ∧
        ∀ client, buildClient view = .ok client → destinationBlocks view client snapshot = true ∨
            NamesNormalized client snapshot dns.questions := by
  have wellFormed := Packet.packetParse_parsed parsed
  have complete := wellFormed.wholeComplete whole
  cases built : buildClient view with
  | error status =>
    have noVerdict : dataplaneEvaluate frame limits snapshot = (0, parsedResult snapshot view) := by
      simp [dataplaneEvaluate, parsed, built]
    rw [noVerdict]
    constructor
    · rintro ⟨_, ⟨_, impossible⟩ | ⟨_, impossible⟩⟩ <;> cases impossible
    · rintro ⟨vlan, _⟩
      obtain ⟨client, success⟩ := buildClient_parsed wellFormed vlan
      rw [built] at success
      cases success
  | ok client =>
    have vlan := buildClient_vlan built
    have valid := buildClient_valid built
    obtain ⟨found, destination⟩ := evaluateDestination_eq built snapshot
      (parsedResult snapshot view)
    have onlyClient : (∀ other, (Except.ok client : Except Int PolicyClient) = .ok other →
        destinationBlocks view other snapshot = true ∨
          NamesNormalized other snapshot dns.questions) ↔
        destinationBlocks view client snapshot = true ∨
          NamesNormalized client snapshot dns.questions := by
      constructor
      · exact fun each => each client rfl
      · rintro one other ⟨⟩
        exact one
    rw [onlyClient, and_iff_right vlan]
    unfold dataplaneEvaluate
    simp only [parsed, built, destination]
    cases blocks : destinationBlocks view client snapshot with
    | true =>
      simp only [if_true]
      exact ⟨fun _ => .inl trivial, fun _ => ⟨rfl, .inr ⟨rfl, rfl⟩⟩⟩
    | false =>
      simp only [Bool.false_eq_true, if_false, parsedResult_reason, reduceCtorEq, false_or]
      rw [evaluateSelected_query rfl whole udp port complete]
      exact evaluateDnsPayload_verdict valid query

def queryFrame (letter : UInt8) : Bytes :=
  Fragment.sampleFrame 0 false (Worker.queryDatagram letter)

def queryView (letter : UInt8) : PacketView :=
  (packetParse (queryFrame letter) packetLimitsDefault).2

def viewQuery (view : PacketView) : Option DnsMessage :=
  (dnsParseQuery (slice view.frame view.payloadOffset view.payloadSize)).toOption

theorem viewQuery_ok (accepted : dns ∈ viewQuery view) :
    dnsParseQuery (slice view.frame view.payloadOffset view.payloadSize) = .ok dns :=
  Outcome.eq_ok_of_mem_toOption accepted

theorem udp_query_policy_verdict_allowed : Worker.blockingSnapshot.isSome = true ∧
    ∀ snapshot ∈ Worker.blockingSnapshot,
      PolicyVerdict (dataplaneEvaluate (queryFrame 0x62) packetLimitsDefault snapshot) := by
  refine ⟨by decide +kernel, fun snapshot _ => ?_⟩
  have parsed : packetParse (queryFrame 0x62) packetLimitsDefault =
      (.ok, queryView 0x62) := Prod.ext (by decide +kernel) rfl
  obtain ⟨dns, accepted, normalized⟩ : ∃ dns ∈ viewQuery (queryView 0x62),
        ∀ question ∈ dns.questions, domainIsNormalized question.name = true := by
    decide +kernel
  apply (udp_query_policy_verdict parsed (by decide +kernel)
    (by decide +kernel) (by decide +kernel) (viewQuery_ok accepted)).mpr
  have untagged : (queryView 0x62).vlanTci = [] := by decide +kernel
  refine ⟨by simp [untagged], fun client _ => .inr ?_⟩
  intro before question after split _
  apply normalized
  rw [split]
  simp

/-- The decoder accepts a query for "_" and the matcher refuses it. -/
theorem underscore_query_error : (packetParse (queryFrame 0x5f) packetLimitsDefault).1 = .ok ∧
    (queryView 0x5f).fragmented = false ∧
    (queryView 0x5f).transport = .udp ∧
    (queryView 0x5f).destinationPort = 53 ∧
    (queryView 0x5f).transportComplete = true ∧
    (viewQuery (queryView 0x5f)).isSome = true ∧
    ∃ snapshot ∈ Worker.blockingSnapshot, (dataplaneEvaluate (queryFrame 0x5f) packetLimitsDefault
        snapshot).1 = eInval ∧
      ¬ PolicyVerdict (dataplaneEvaluate (queryFrame 0x5f) packetLimitsDefault snapshot) := by
  decide +kernel

end Dataplane

end JanusGate
