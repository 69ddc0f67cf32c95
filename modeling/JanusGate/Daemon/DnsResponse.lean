import JanusGate.Common.Dns
import JanusGate.Common.ParsedPacket
import JanusGate.Common.WireDatagram

/-!
# Responses to blocked DNS queries

The message that `dns_response.c` builds copies the question section under a
header of its own.  A compression pointer may lead a question name out of that
section, into bytes that the response does not have.
-/

namespace JanusGate

open Layout Wire Outcome

inductive DnsBlockAction where
  | drop
  | refused
  | nxdomain
  | sinkhole
  deriving DecidableEq

structure DnsResponseConfig where
  action : DnsBlockAction
  hasIpv4Sinkhole : Bool := false
  hasIpv6Sinkhole : Bool := false
  checksumIpv4Udp : Bool := true
  ipv4Sinkhole : Vector UInt8 4 := .replicate 4 0
  ipv6Sinkhole : Vector UInt8 16 := .replicate 16 0
  sinkholeTtl : UInt32 := 60

namespace Dns

/-- The loop of `encode_name` over the labels between the dots. -/
def encodeLabels (outputSize : Nat) : List Bytes → Bytes → Except Int Bytes
  | [], output => .ok output
  -- the loop ends at the terminating NUL, also behind a last dot
  | [[]], output => .ok output
  | label :: labels, output =>
    if label.length = 0 ∨ label.length > domainLabelMax ∨
        output.length + 1 + label.length ≥ outputSize then
      .error eNoSpc
    else encodeLabels outputSize labels (output ++ UInt8.ofNat label.length :: label)

def encodeName (name : Bytes) (outputSize : Nat) : Except Int Bytes := do
  let output ← encodeLabels outputSize (name.splitOn dotByte) []
  if output.length ≥ outputSize then .error eNoSpc else .ok (output ++ [0])

def sinkholeAddress (question : DnsQuestion) (config : DnsResponseConfig) : Option Bytes :=
  if question.classCode = 1 ∧ question.type = 1 ∧ config.hasIpv4Sinkhole then
    some config.ipv4Sinkhole.toList
  else if question.classCode = 1 ∧ question.type = 28 ∧ config.hasIpv6Sinkhole then
    some config.ipv6Sinkhole.toList
  else none

def responseFlags (parsed : DnsMessage) (config : DnsResponseConfig) : UInt16 :=
  (0x8000 ||| 0x0080 ||| (parsed.flags &&& (0x0100 ||| 0x0010))) |||
    match config.action with
    | .refused => 5
    | .nxdomain => 3
    | _ => 0

def buildDnsMessage (query : Bytes) (parsed : DnsMessage) (questionIndex : Nat)
    (config : DnsResponseConfig) (outputSize : Nat) : Except Int Bytes :=
  let question := parsed.questions.getD questionIndex ⟨[], 0, 0, 0⟩
  let address :=
    if config.action = .refused ∨ config.action = .nxdomain then none
    else sinkholeAddress question config
  let cursor := headerSize + parsed.questionWireSize
  if !rangeValid 0 cursor outputSize then .error eNoSpc
  else
    let output := encodeU16 parsed.id ++ (encodeU16 (responseFlags parsed config) ++
      (encodeU16 parsed.wireQuestionCount ++ (encodeU16 (if address.isNone then 0 else 1) ++
      [0, 0, 0, 0]))) ++ slice query headerSize parsed.questionWireSize
    match address with
    | none => .ok output
    | some address => do
        let name ← encodeName question.name (outputSize - cursor)
        if !rangeValid (cursor + name.length) (10 + address.length) outputSize then .error eNoSpc
        else
          .ok (output ++ (name ++ (encodeU16 question.type ++ (encodeU16 question.classCode ++
            (encodeU32 config.sinkholeTtl ++ (encodeU16 (UInt16.ofNat address.length) ++
            address))))))

/-! ## Names inside the question section -/

/-- Bytes that one round of the decoding loop reads: a pointer, or a label with
its length. -/
def roundSize (message : Bytes) (cursor : Nat) : Nat :=
  if byteAt message cursor &&& 0xc0 == 0xc0 then 2 else 1 + (byteAt message cursor).toNat

/-- Every round reads only bytes from `first` up to `final`. -/
def roundsWithin (message : Bytes) (first final : Nat) : Nat → NameState → Bool
  | 0, _ => true
  | fuel + 1, state =>
    decide (first ≤ state.cursor ∧ state.cursor + roundSize message state.cursor ≤ final) &&
      match decodeNameStep message (domainNameMax + 1) state with
      | .continue next => roundsWithin message first final fuel next
      | _ => true

/-- No pointer leads the name at an offset out of the bytes from `first` up to
`final`. -/
def nameWithin (message : Bytes) (first final offset : Nat) : Bool :=
  roundsWithin message first final nameFuel ⟨offset, 0, [], 0, false⟩

section

variable {message other part : Bytes} {state next : NameState} (holds : Holds message first part)
  (otherHolds : Holds other first part)

include holds otherHolds

theorem decodeNameStep_section (after : first ≤ state.cursor)
    (inside : state.cursor + roundSize message state.cursor ≤ first + part.length) :
    decodeNameStep other outputSize state = decodeNameStep message outputSize state := by
  obtain ⟨index, start⟩ := Nat.exists_eq_add_of_le after
  have long := holds.length_le
  have otherLong := otherHolds.length_le
  have positive : 0 < roundSize message state.cursor := by
    unfold roundSize
    split <;> omega
  have here : index < part.length := by omega
  have byte : byteAt other state.cursor = byteAt message state.cursor := by
    rw [start, byteAt_holds_at holds here, byteAt_holds_at otherHolds here]
  unfold decodeNameStep
  rw [if_neg (show ¬ state.cursor ≥ other.length by omega),
    if_neg (show ¬ state.cursor ≥ message.length by omega), byte]
  dsimp only
  unfold roundSize at inside
  by_cases pointer : (byteAt message state.cursor &&& 0xc0 == 0xc0) = true
  · rw [if_pos pointer] at inside
    rw [if_pos pointer, if_pos pointer]
    unfold followPointer
    rw [start, readU16Be_part holds (by omega), readU16Be_part otherHolds (by omega)]
    cases readU16Be part index with
    | none => rfl
    | some value =>
      -- a target before the cursor lies inside both messages
      have same : ∀ data : Bytes, first + index < data.length →
          ((value &&& 0x3fff).toNat ≥ first + index ∨ (value &&& 0x3fff).toNat ≥ data.length ↔
            (value &&& 0x3fff).toNat ≥ first + index) := by
        intro data bound
        omega
      simp only [same other (by omega), same message (by omega)]
  · rw [if_neg pointer] at inside
    have ranges : ∀ data : Bytes, first + part.length ≤ data.length →
        rangeValid (state.cursor + 1) (byteAt message state.cursor).toNat data.length = true := by
      intro data bound
      rw [rangeValid_iff]
      omega
    have bytes : slice other (state.cursor + 1) (byteAt message state.cursor).toNat =
        slice message (state.cursor + 1) (byteAt message state.cursor).toNat := by
      rw [show state.cursor + 1 = first + (index + 1) by omega,
        slice_part holds (by omega), slice_part otherHolds (by omega)]
    rw [if_neg pointer, if_neg pointer, ranges other (by omega), ranges message (by omega)]
    unfold copyLabel
    rw [bytes]

theorem decodeNameLoop_section
    (within : roundsWithin message first (first + part.length) fuel state = true) :
    decodeNameLoop other (domainNameMax + 1) fuel state =
      decodeNameLoop message (domainNameMax + 1) fuel state := by
  induction fuel generalizing state with
  | zero => rfl
  | succ fuel ih =>
    obtain ⟨round, rest⟩ := Bool.and_eq_true_iff.mp within
    obtain ⟨after, inside⟩ := of_decide_eq_true round
    unfold decodeNameLoop
    rw [decodeNameStep_section holds otherHolds after inside]
    cases step : decodeNameStep message (domainNameMax + 1) state with
    | «continue» next =>
      rw [step] at rest
      exact ih rest
    | done name nextOffset | failed result => rfl

theorem dnsDecodeName_section
    (within : nameWithin message first (first + part.length) offset = true) :
    dnsDecodeName other offset (domainNameMax + 1) =
      dnsDecodeName message offset (domainNameMax + 1) := by
  have long := holds.length_le
  have otherLong := otherHolds.length_le
  have bounds : first ≤ offset ∧ offset + roundSize message offset ≤ first + part.length := by
    exact of_decide_eq_true (Bool.and_eq_true_iff.mp within).1
  have positive : 0 < roundSize message offset := by
    unfold roundSize
    split <;> omega
  unfold dnsDecodeName
  rw [if_neg (show ¬ offset ≥ other.length by omega),
    if_neg (show ¬ offset ≥ message.length by omega),
    decodeNameLoop_section holds otherHolds within]

end

/-! ## The question section of a response -/

variable {message other part query response : Bytes} {state : NameState}

/-- Where the wire form of a name goes on after the current round. -/
def NameState.resume (state : NameState) : Nat :=
  if state.jumped then state.endOffset else state.cursor

theorem decodeNameStep_resume (message : Bytes) (outputSize : Nat) (state : NameState) :
    match decodeNameStep message outputSize state with
    | .continue next => state.resume ≤ next.resume
    | .done _ nextOffset => state.resume ≤ nextOffset
    | .failed _ => True := by
  unfold decodeNameStep followPointer copyLabel NameState.resume
  repeat' split
  all_goals grind

theorem decodeNameLoop_resume
    (read : decodeNameLoop message outputSize fuel state = .ok (name, final)) :
    state.resume ≤ final := by
  induction fuel generalizing state with
  | zero => cases read
  | succ fuel ih =>
    have moved := decodeNameStep_resume message outputSize state
    unfold decodeNameLoop at read
    cases step : decodeNameStep message outputSize state with
    | «continue» next =>
      rw [step] at read moved
      exact Nat.le_trans moved (ih read)
    | done name nextOffset =>
      rw [step] at read moved
      cases read
      exact moved
    | failed result =>
      rw [step] at read
      cases read

theorem dnsDecodeName_resume (read : dnsDecodeName message offset outputSize = .ok (name, next)) :
    offset ≤ next := by
  unfold dnsDecodeName at read
  rw [guard_eq_ok, guard_eq_ok] at read
  exact decodeNameLoop_resume read.2.2

theorem orTruncated_eq_ok {α : Type} {value : Option α} {read : α} :
    orTruncated value = .ok read ↔ value = some read := by
  cases value with
  | none | some found => simp [orTruncated]

theorem parseQuestions_succ :
    parseQuestions message (count + 1) start = .ok (questions, final) ↔
      ∃ name next, dnsDecodeName message start (domainNameMax + 1) = .ok (name, next) ∧
        name.length ≠ 0 ∧ ∃ type, readU16Be message next = some type ∧
        ∃ classCode, readU16Be message (next + 2) = some classCode ∧
        ∃ rest last, parseQuestions message count (next + 4) = .ok (rest, last) ∧
          ⟨name, start, type, classCode⟩ :: rest = questions ∧ last = final := by
  simp only [parseQuestions, bind_eq_ok, orTruncated_eq_ok, throw_bind,
    guard_eq_ok, pure_eq_ok, Except.ok.injEq, Prod.mk.injEq, Prod.exists, ne_eq]

theorem parseQuestions_end (read : parseQuestions message count start = .ok (questions, final)) :
    start ≤ final ∧ (start ≤ message.length → final ≤ message.length) := by
  induction count generalizing start questions with
  | zero =>
    cases read
    exact ⟨Nat.le_refl _, id⟩
  | succ count ih =>
    obtain ⟨_, next, named, _, _, _, _, classRead, _, _, others, _, rfl⟩ :=
      parseQuestions_succ.mp read
    have moved := dnsDecodeName_resume named
    have bound := Packet.readU16Be_bound classRead
    obtain ⟨after, inside⟩ := ih others
    exact ⟨by omega, fun _ => inside (by omega)⟩

/-- The questions of a section whose names stay in it are the same in every message that holds it.
-/
theorem parseQuestions_section (holds : Holds message first part)
    (otherHolds : Holds other first part)
    (read : parseQuestions message count start = .ok (questions, final)) (after : first ≤ start)
    (ends : final ≤ first + part.length)
    (within : ∀ question ∈ questions,
      nameWithin message first (first + part.length) question.wireOffset = true) :
    parseQuestions other count start = .ok (questions, final) := by
  induction count generalizing start questions with
  | zero => exact read
  | succ count ih =>
    obtain ⟨name, next, named, nonempty, type, typeRead, classCode, classRead, rest, _, others, rfl,
      rfl⟩ := parseQuestions_succ.mp read
    obtain ⟨here, later⟩ := List.forall_mem_cons.mp within
    have moved := dnsDecodeName_resume named
    have bound := (parseQuestions_end others).1
    have reads : ∀ offset, next ≤ offset → offset + 2 ≤ next + 4 →
        readU16Be other offset = readU16Be message offset := by
      intro offset start stop
      obtain ⟨index, rfl⟩ := Nat.exists_eq_add_of_le (show first ≤ offset by omega)
      rw [readU16Be_part holds (by omega), readU16Be_part otherHolds (by omega)]
    refine parseQuestions_succ.mpr ⟨name, next, ?_, nonempty, type, ?_, classCode, ?_, rest, _,
      ih others (by omega) later, rfl, rfl⟩
    · rw [dnsDecodeName_section holds otherHolds here, named]
    · rw [reads next (by omega) (by omega), typeRead]
    · rw [reads (next + 2) (by omega) (by omega), classRead]

theorem dnsParseQuery_questions (accepted : dnsParseQuery query = .ok parsed) :
    headerSize ≤ query.length ∧ ∃ final,
      parseQuestions query parsed.wireQuestionCount.toNat headerSize =
        .ok (parsed.questions, final) ∧ parsed.questionWireSize = final - headerSize := by
  simp only [dnsParseQuery, bind_eq_ok, throw_bind, guard_eq_ok,
    pure_eq_ok, Except.ok.injEq] at accepted
  obtain ⟨long, _, _, _, _, _, _, _, _, _, _, _, _, _, _, _, _, questions, read, _, _, _, _, _, _,
    _, rfl⟩ := accepted
  exact ⟨by omega, _, read, rfl⟩

theorem buildDnsMessage_section
    (built : buildDnsMessage query parsed questionIndex config outputSize = .ok response) :
    Holds response headerSize (slice query headerSize parsed.questionWireSize) := by
  simp only [buildDnsMessage, guard_eq_ok] at built
  obtain ⟨_, built⟩ := built
  split at built
  · cases built
    simp [Holds, encodeU16, headerSize, -slice_length]
  · simp only [bind_eq_ok, guard_eq_ok] at built
    obtain ⟨name, _, _, made⟩ := built
    cases made
    simp [Holds, encodeU16, headerSize]

/-- The built response has the questions of the query, if no pointer leads a question name out of
the question section. -/
theorem buildDnsMessage_questions {query response : Bytes} {parsed : DnsMessage}
    {config : DnsResponseConfig} {questionIndex outputSize : Nat}
    (accepted : dnsParseQuery query = .ok parsed)
    (built : buildDnsMessage query parsed questionIndex config outputSize = .ok response)
    (within : ∀ question ∈ parsed.questions, nameWithin query headerSize
      (headerSize + parsed.questionWireSize) question.wireOffset = true) :
    parseQuestions response parsed.wireQuestionCount.toNat headerSize =
      parseQuestions query parsed.wireQuestionCount.toNat headerSize := by
  obtain ⟨long, final, read, size⟩ := dnsParseQuery_questions accepted
  obtain ⟨after, inside⟩ := parseQuestions_end read
  have length : (slice query headerSize parsed.questionWireSize).length =
      parsed.questionWireSize := by
    rw [slice_length]
    omega
  have holds : Holds query headerSize (slice query headerSize parsed.questionWireSize) := by
    rw [Holds, length]
    rfl
  rw [read]
  exact parseQuestions_section holds (buildDnsMessage_section built) read (Nat.le_refl _)
    (by omega) (by rwa [length])

/-- Two questions, the name of the second ending in a pointer to the first. -/
theorem buildDnsMessage_questions_compressed :
    let query : Bytes := [0, 7, 1, 0, 0, 2, 0, 0, 0, 0, 0, 0, 1, 0x61, 0, 0, 1, 0, 1,
      1, 0x62, 0xc0, 12, 0, 1, 0, 1]
    ∃ parsed response, dnsParseQuery query = .ok parsed ∧ parsed.questions.length = 2 ∧
      parseQuestions response parsed.wireQuestionCount.toNat headerSize =
        parseQuestions query parsed.wireQuestionCount.toNat headerSize :=
  ⟨_, _, rfl, rfl, @buildDnsMessage_questions _ _ _
    { action := .sinkhole, hasIpv4Sinkhole := true } 1 8192 rfl rfl (by decide +kernel)⟩

/-- A name that reads the header through a pointer: the flags that end it are no label length. -/
theorem buildDnsMessage_header_pointer :
    let query : Bytes := [1, 0x61, 0, 0, 0, 1, 0, 0, 0, 0, 0, 0, 0xc0, 0, 0, 1, 0, 1]
    ∃ parsed response, dnsParseQuery query = .ok parsed ∧
      buildDnsMessage query parsed 0 { action := .refused } 8192 = .ok response ∧
      parseQuestions query 1 headerSize = .ok ([⟨[0x61], 12, 1, 1⟩], 18) ∧
      parseQuestions response 1 headerSize = .error .malformed :=
  ⟨_, _, rfl, rfl, rfl, rfl⟩

end Dns

end JanusGate
