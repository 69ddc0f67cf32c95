import JanusGate.Common.Domain

/-!
# DNS query parsing

The parser of `dns.c`: bounded name decompression, the four sections of a
classic query and the questions handed to policy.  The unbounded loop of
`jg_dns_decode_name` gets a fuel argument; `dnsDecodeName_fuel` shows that
`dnsDecodeName` has enough of it.
-/

namespace JanusGate

inductive DnsResult where
  | ok
  | truncated
  | malformed
  | badOpcode
  | limitExceeded
  deriving DecidableEq

structure DnsQuestion where
  name : Bytes
  wireOffset : Nat
  type : UInt16
  classCode : UInt16
  deriving DecidableEq

/-- Validated DNS query metadata; `question_count` is the list length. -/
structure DnsMessage where
  id : UInt16 := 0
  flags : UInt16 := 0
  wireQuestionCount : UInt16 := 0
  answerCount : UInt16 := 0
  authorityCount : UInt16 := 0
  additionalCount : UInt16 := 0
  questionWireSize : Nat := 0
  hasEdns0 : Bool := false
  questions : List DnsQuestion := []
  deriving DecidableEq

namespace Dns

def questionLimit : Nat := 16
def headerSize : Nat := 12
def pointerLimit : Nat := 16
def typeOpt : UInt16 := 41

/-- Unambiguous printable ASCII other than dot and backslash. -/
def isPolicyLabelByte (value : UInt8) : Bool :=
  decide (0x21 ≤ value) && decide (value ≤ 0x7e) && value != dotByte && value != 0x5c

/-- Loop variables of `jg_dns_decode_name`. -/
structure NameState where
  cursor : Nat
  endOffset : Nat
  output : Bytes
  pointerDepth : Nat
  jumped : Bool
  deriving DecidableEq

/-- One round of the decoding loop. -/
inductive NameStep where
  | continue (state : NameState)
  | done (name : Bytes) (nextOffset : Nat)
  | failed (result : DnsResult)
  deriving DecidableEq

def followPointer (message : Bytes) (state : NameState) : NameStep :=
  match readU16Be message state.cursor with
  | none => .failed .truncated
  | some pointerValue =>
    let target := (pointerValue &&& 0x3fff).toNat
    if target ≥ state.cursor ∨ target ≥ message.length then .failed .malformed
    else if state.pointerDepth + 1 > pointerLimit then .failed .limitExceeded
    else
      .continue { state with
        cursor := target
        endOffset := if state.jumped then state.endOffset else state.cursor + 2
        jumped := true
        pointerDepth := state.pointerDepth + 1 }

def appendSeparator (output : Bytes) (outputSize : Nat) : Option Bytes :=
  if output.length ≠ 0 then
    if output.length + 1 ≥ outputSize ∨ output.length + 1 > domainNameMax then none
    else some (output ++ [dotByte])
  else some output

def copyLabel (message : Bytes) (outputSize : Nat) (state : NameState)
    (start labelLength : Nat) : NameStep :=
  match appendSeparator state.output outputSize with
  | none => .failed .limitExceeded
  | some output =>
    if labelLength > domainNameMax - output.length ∨ output.length + labelLength ≥ outputSize then
      .failed .limitExceeded
    else
      let label := slice message start labelLength
      if label.all isPolicyLabelByte then
        .continue { state with
          cursor := start + labelLength
          output := output ++ label.map lowerAscii }
      else .failed .malformed

/-- One iteration of the loop in `jg_dns_decode_name`. -/
def decodeNameStep (message : Bytes) (outputSize : Nat) (state : NameState) : NameStep :=
  if state.cursor ≥ message.length then .failed .truncated
  else
    let labelLength := byteAt message state.cursor
    if labelLength &&& 0xc0 == 0xc0 then followPointer message state
    else if labelLength &&& 0xc0 != 0 then .failed .malformed
    else
      let start := state.cursor + 1
      if labelLength == 0 then .done state.output (if state.jumped then state.endOffset else start)
      else if labelLength.toNat > domainLabelMax then .failed .malformed
      else if !rangeValid start labelLength.toNat message.length then .failed .truncated
      else copyLabel message outputSize state start labelLength.toNat

def decodeNameLoop (message : Bytes) (outputSize : Nat) :
    Nat → NameState → Except DnsResult (Bytes × Nat)
  | 0, _ => .error .limitExceeded
  | fuel + 1, state =>
    match decodeNameStep message outputSize state with
    | .continue next => decodeNameLoop message outputSize fuel next
    | .done name nextOffset => .ok (name, nextOffset)
    | .failed result => .error result

/-- Sixteen pointers, one label for every output byte, and the terminating root label. -/
def nameFuel : Nat := pointerLimit + domainNameMax + 2

/-! ## The decoding loop ends -/

/-- Pointers and output bytes that a decoding state can still use up. -/
def NameState.roundsLeft (state : NameState) : Nat :=
  (pointerLimit - state.pointerDepth) + (domainNameMax - state.output.length)

def NameState.Bounded (state : NameState) : Prop :=
  state.pointerDepth ≤ pointerLimit ∧ state.output.length ≤ domainNameMax

theorem followPointer_progress (bounded : state.Bounded)
    (step : followPointer message state = .continue next) :
    next.Bounded ∧ next.roundsLeft < state.roundsLeft := by
  have outputBound := bounded.2
  unfold followPointer at step
  split at step
  · cases step
  dsimp only at step
  split at step
  · cases step
  split at step
  · cases step
  · cases step
    unfold NameState.Bounded NameState.roundsLeft
    dsimp only
    omega

theorem appendSeparator_length (appended : appendSeparator output outputSize = some separated) :
    output.length ≤ separated.length := by
  unfold appendSeparator at appended
  split at appended
  · split at appended
    · cases appended
    · cases appended
      simp
  · cases appended
    exact Nat.le_refl _

theorem copyLabel_progress (bounded : state.Bounded)
    (inside : rangeValid start labelLength message.length = true) (nonempty : labelLength ≠ 0)
    (step : copyLabel message outputSize state start labelLength = .continue next) :
    next.Bounded ∧ next.roundsLeft < state.roundsLeft := by
  have depthBound := bounded.1
  have copied : (slice message start labelLength).length = labelLength := by
    rw [slice_length]
    have := (rangeValid_iff _ _ _).mp inside
    omega
  unfold copyLabel at step
  split at step
  · cases step
  case h_2 output separated =>
    have grown := appendSeparator_length separated
    split at step
    · cases step
    dsimp only at step
    split at step
    · cases step
      unfold NameState.Bounded NameState.roundsLeft
      simp only [List.length_append, List.length_map, copied]
      omega
    · cases step

/-- Every round that goes on uses up a pointer or an output byte. -/
theorem decodeNameStep_progress (bounded : state.Bounded)
    (step : decodeNameStep message outputSize state = .continue next) :
    next.Bounded ∧ next.roundsLeft < state.roundsLeft := by
  unfold decodeNameStep at step
  split at step
  · cases step
  dsimp only at step
  split at step
  · exact followPointer_progress bounded step
  split at step
  · cases step
  split at step
  · cases step
  case isFalse nonzero =>
    split at step
    · cases step
    split at step
    · cases step
    case isFalse inside =>
      apply copyLabel_progress bounded (by simpa using inside) _ step
      intro zero
      apply nonzero
      simpa using UInt8.toNat.inj zero

theorem decodeNameLoop_stable (bounded : state.Bounded) (enough : state.roundsLeft < fuel)
    (more : Nat) :
    decodeNameLoop message outputSize (fuel + more) state =
      decodeNameLoop message outputSize fuel state := by
  induction fuel generalizing state with
  | zero => omega
  | succ fuel ih =>
    rw [Nat.add_right_comm]
    unfold decodeNameLoop
    cases step : decodeNameStep message outputSize state with
    | «continue» next =>
      obtain ⟨nextBounded, fewer⟩ := decodeNameStep_progress bounded step
      exact ih nextBounded (by omega)
    | done name nextOffset | failed result => rfl

theorem dnsDecodeName_fuel (message : Bytes) (outputSize offset more : Nat) :
    decodeNameLoop message outputSize (nameFuel + more) ⟨offset, 0, [], 0, false⟩ =
      decodeNameLoop message outputSize nameFuel ⟨offset, 0, [], 0, false⟩ := by
  apply decodeNameLoop_stable
  · exact ⟨Nat.zero_le _, Nat.zero_le _⟩
  · change pointerLimit - 0 + (domainNameMax - 0) < nameFuel
    decide

/-- Whatever the compression pointers are, the loop never goes on for so many rounds. -/
theorem decode_name_rounds_end (message : Bytes) (outputSize offset : Nat) :
    ¬ ∃ rounds : Nat → NameState, rounds 0 = ⟨offset, 0, [], 0, false⟩ ∧ ∀ round < nameFuel,
      decodeNameStep message outputSize (rounds round) = .continue (rounds (round + 1)) := by
  rintro ⟨rounds, first, goesOn⟩
  have used : ∀ round ≤ nameFuel, (rounds round).Bounded ∧
      (rounds round).roundsLeft + round < nameFuel := by
    intro round within
    induction round with
    | zero => exact first ▸ ⟨⟨Nat.zero_le _, Nat.zero_le _⟩, Nat.lt_add_of_pos_right Nat.two_pos⟩
    | succ round ih =>
      obtain ⟨bounded, left⟩ := ih (Nat.le_of_succ_le within)
      obtain ⟨nextBounded, fewer⟩ := decodeNameStep_progress bounded (goesOn round within)
      exact ⟨nextBounded, by omega⟩
  exact Nat.not_lt_of_le (Nat.le_add_left _ _) (used nameFuel (Nat.le_refl _)).2

end Dns

open Dns

def dnsDecodeName (message : Bytes) (offset outputSize : Nat) : Except DnsResult (Bytes × Nat) :=
  if outputSize = 0 then .error .malformed
  else if offset ≥ message.length then .error .truncated
  else decodeNameLoop message outputSize nameFuel ⟨offset, 0, [], 0, false⟩

namespace Dns

/-- A failed bounded read ends the parse as truncated. -/
def orTruncated {α : Type} : Option α → Except DnsResult α
  | some value => .ok value
  | none => .error .truncated

/-- Skip and validate `count` resource records of one section. -/
def skipRecords (message : Bytes) (detectOpt : Bool) :
    Nat → Nat → Bool → Except DnsResult (Nat × Bool)
  | 0, cursor, hasEdns0 => .ok (cursor, hasEdns0)
  | count + 1, cursor, hasEdns0 => do
      let (_, recordCursor) ← dnsDecodeName message cursor (domainNameMax + 1)
      if !rangeValid recordCursor 10 message.length then throw .truncated
      let type ← orTruncated (readU16Be message recordCursor)
      let dataLength ← orTruncated (readU16Be message (recordCursor + 8))
      let recordCursor := recordCursor + 10
      if !rangeValid recordCursor dataLength.toNat message.length then throw .truncated
      if detectOpt && type == typeOpt then
        if hasEdns0 then throw .malformed
        skipRecords message detectOpt count (recordCursor + dataLength.toNat) true
      else skipRecords message detectOpt count (recordCursor + dataLength.toNat) hasEdns0

def parseQuestions (message : Bytes) : Nat → Nat → Except DnsResult (List DnsQuestion × Nat)
  | 0, cursor => .ok ([], cursor)
  | count + 1, cursor => do
      let (name, next) ← dnsDecodeName message cursor (domainNameMax + 1)
      if name.length = 0 then throw .malformed
      let type ← orTruncated (readU16Be message next)
      let classCode ← orTruncated (readU16Be message (next + 2))
      let (questions, final) ← parseQuestions message count (next + 4)
      return (⟨name, cursor, type, classCode⟩ :: questions, final)

end Dns

def dnsParseQuery (message : Bytes) : Except DnsResult DnsMessage := do
  if message.length < headerSize then throw .truncated
  let id ← orTruncated (readU16Be message 0)
  let flags ← orTruncated (readU16Be message 2)
  let wireQuestionCount ← orTruncated (readU16Be message 4)
  let answerCount ← orTruncated (readU16Be message 6)
  let authorityCount ← orTruncated (readU16Be message 8)
  let additionalCount ← orTruncated (readU16Be message 10)
  if flags &&& 0x8000 != 0 then throw .malformed
  if flags &&& 0x7800 != 0 then throw .badOpcode
  if wireQuestionCount == 0 then throw .malformed
  if wireQuestionCount.toNat > questionLimit then throw .limitExceeded
  let (questions, cursor) ← parseQuestions message wireQuestionCount.toNat headerSize
  let (answerEnd, _) ← skipRecords message false answerCount.toNat cursor false
  let (authorityEnd, _) ← skipRecords message false authorityCount.toNat answerEnd false
  let (additionalEnd, hasEdns0) ← skipRecords message true additionalCount.toNat authorityEnd false
  if additionalEnd ≠ message.length then throw .malformed
  return {
    id := id
    flags := flags
    wireQuestionCount := wireQuestionCount
    answerCount := answerCount
    authorityCount := authorityCount
    additionalCount := additionalCount
    questionWireSize := cursor - headerSize
    hasEdns0 := hasEdns0
    questions := questions }

end JanusGate
