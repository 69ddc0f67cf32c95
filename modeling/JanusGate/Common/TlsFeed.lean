import JanusGate.Common.TlsClientHello

/-!
# The ClientHello parser byte by byte

The feed loop copies as many bytes as the current field still needs.  It does
what a machine does that takes one byte after another, so that a parser depends
on the bytes it was fed and not on the chunks they came in.
-/

namespace JanusGate

open List

namespace Tls

/-! ## One byte -/

section

variable (parser : TlsClientHelloParser)

def takeRecord (bytes : Bytes) : TlsClientHelloParser :=
  { parser with recordHeader := parser.recordHeader ++ bytes }

def takeHandshake (bytes : Bytes) : TlsClientHelloParser :=
  { parser with
    handshakeHeader := parser.handshakeHeader ++ bytes
    recordRemaining := parser.recordRemaining - bytes.length }

def takeBody (bytes : Bytes) : TlsClientHelloParser :=
  { parser with
    body := parser.body ++ bytes
    recordRemaining := parser.recordRemaining - bytes.length }

def finishRecord : TlsClientHelloParser :=
  if parser.recordHeader.length < recordHeaderSize then parser else activateRecord parser

def finishHandshake : TlsClientHelloParser :=
  if parser.handshakeHeader.length < handshakeHeaderSize then parser
  else activateHandshake parser

def finishBody : TlsClientHelloParser :=
  if parser.body.length = parser.bodySize then
    { parser with
      terminal := if (parseClientHello parser.body).2 then .complete else .malformed
      hello := (parseClientHello parser.body).1 }
  else parser

def feedByte (byte : UInt8) : TlsClientHelloParser :=
  if parser.terminal ≠ .more then parser
  else if parser.recordRemaining = 0 then finishRecord (takeRecord parser [byte])
  else if parser.handshakeHeader.length < handshakeHeaderSize then
    finishHandshake (takeHandshake parser [byte])
  else finishBody (takeBody parser [byte])

end

variable {parser after : TlsClientHelloParser} {data rest : Bytes}

theorem foldl_feedByte_decided (decided : parser.terminal ≠ .more) (bytes : Bytes) :
    bytes.foldl feedByte parser = parser := by
  induction bytes with
  | nil => rfl
  | cons byte bytes ih => rw [foldl_cons, feedByte, if_pos decided, ih]

/-- The fields of a parser that waits for bytes. -/
structure Waits (parser : TlsClientHelloParser) : Prop where
  record : parser.recordHeader.length < recordHeaderSize
  handshake : parser.handshakeHeader.length ≤ handshakeHeaderSize
  early : parser.handshakeHeader.length < handshakeHeaderSize → parser.body = []
  body : parser.handshakeHeader.length = handshakeHeaderSize → parser.body.length < parser.bodySize

def Ready (parser : TlsClientHelloParser) : Prop := parser.terminal = .more → Waits parser

theorem ready_fresh : Ready {} := by
  intro _
  exact ⟨by decide, by decide, fun _ => rfl, fun full => by cases full⟩

theorem activateRecord_ready (handshake : parser.handshakeHeader.length ≤ handshakeHeaderSize)
    (early : parser.handshakeHeader.length < handshakeHeaderSize → parser.body = [])
    (body : parser.handshakeHeader.length = handshakeHeaderSize →
      parser.body.length < parser.bodySize) :
    Ready (activateRecord parser) := by
  unfold activateRecord
  dsimp only
  split
  · exact fun waiting => by cases waiting
  split
  · exact fun waiting => by cases waiting
  · split
    · exact fun waiting => by cases waiting
    · exact fun _ => ⟨Nat.zero_lt_succ _, handshake, early, body⟩

theorem activateHandshake_ready (record : parser.recordHeader.length < recordHeaderSize)
    (full : parser.handshakeHeader.length = handshakeHeaderSize) (empty : parser.body = []) :
    Ready (activateHandshake parser) := by
  unfold activateHandshake
  dsimp only
  split
  · exact fun waiting => by cases waiting
  split
  · exact fun waiting => by cases waiting
  split
  · exact fun waiting => by cases waiting
  case isFalse nonzero _ =>
    refine fun _ => ⟨record, Nat.le_of_eq full,
      fun short => absurd full (Nat.ne_of_lt short), fun _ => ?_⟩
    rw [empty]
    exact Nat.pos_of_ne_zero nonzero

theorem feedByte_ready (ready : Ready parser) (byte : UInt8) : Ready (feedByte parser byte) := by
  unfold feedByte
  split
  · exact ready
  case isFalse undecided =>
    have waits := ready (not_not.mp undecided)
    split
    · unfold finishRecord
      split
      case isTrue short => exact fun _ => ⟨short, waits.handshake, waits.early, waits.body⟩
      · exact activateRecord_ready waits.handshake waits.early waits.body
    · split
      case isTrue partly =>
        unfold finishHandshake
        split
        case isTrue short =>
          exact fun _ => ⟨waits.record, Nat.le_of_lt short, fun _ => waits.early partly,
            fun full => absurd full (Nat.ne_of_lt short)⟩
        case isFalse long =>
          refine activateHandshake_ready waits.record ?_ (waits.early partly)
          simp only [takeHandshake, length_append, length_singleton] at long ⊢
          omega
      case isFalse whole =>
        have full := Nat.le_antisymm waits.handshake (Nat.not_lt.mp whole)
        have room := waits.body full
        unfold finishBody
        split
        · intro waiting
          split at waiting <;> cases waiting
        case isFalse incomplete =>
          refine fun _ => ⟨waits.record, waits.handshake,
            fun short => absurd short whole, fun _ => ?_⟩
          simp only [takeBody, length_append, length_singleton] at incomplete ⊢
          omega

theorem foldl_feedByte_ready (ready : Ready parser) (bytes : Bytes) :
    Ready (bytes.foldl feedByte parser) := by
  induction bytes generalizing parser with
  | nil => exact ready
  | cons byte bytes ih => exact ih (feedByte_ready ready byte)

/-! ## The bytes of one field -/

/-- Bytes that all go to one field are taken together. -/
theorem foldl_field {σ β : Type} {step : σ → β → σ} {take : σ → List β → σ} {finish : σ → σ}
    {fits : σ → Nat → Prop}
    (first : ∀ state item count, fits state (count + 1) →
      step state item = finish (take state [item]))
    (goesOn : ∀ state item count, fits state (count + 2) →
      finish (take state [item]) = take state [item] ∧ fits (take state [item]) (count + 1))
    (joined : ∀ state item items, take (take state [item]) items = take state (item :: items))
    {state : σ} {items : List β} (some : items ≠ [])
    (enough : fits state items.length) :
    items.foldl step state = finish (take state items) := by
  induction items generalizing state with
  | nil => exact absurd rfl some
  | cons item items ih =>
    rw [foldl_cons, first state item items.length enough]
    cases items with
    | nil => rfl
    | cons next items =>
      obtain ⟨same, more⟩ := goesOn state item items.length enough
      rw [same, ih (cons_ne_nil _ _) more, joined]

theorem feedByte_record {parser : TlsClientHelloParser} {bytes : Bytes} (some : bytes ≠ [])
    (waiting : parser.terminal = .more) (header : parser.recordRemaining = 0)
    (fits : parser.recordHeader.length + bytes.length ≤ recordHeaderSize) :
    bytes.foldl feedByte parser = finishRecord (takeRecord parser bytes) := by
  refine @foldl_field _ _ feedByte takeRecord finishRecord
    (fun state count => state.terminal = .more ∧ state.recordRemaining = 0 ∧
      state.recordHeader.length + count ≤ recordHeaderSize) ?_ ?_ ?_ _ _ some
    ⟨waiting, header, fits⟩
  · rintro state byte count ⟨undecided, none, _⟩
    rw [feedByte, if_neg (not_not.mpr undecided), if_pos none]
  · rintro state byte count ⟨undecided, none, room⟩
    have longer : (takeRecord state [byte]).recordHeader.length =
        state.recordHeader.length + 1 := by
      simp [takeRecord]
    refine ⟨?_, undecided, none, by omega⟩
    rw [finishRecord, if_pos (by omega)]
  · simp [takeRecord]

theorem feedByte_handshake (some : bytes ≠ []) (waiting : parser.terminal = .more)
    (inRecord : bytes.length ≤ parser.recordRemaining)
    (fits : parser.handshakeHeader.length + bytes.length ≤ handshakeHeaderSize) :
    bytes.foldl feedByte parser = finishHandshake (takeHandshake parser bytes) := by
  refine @foldl_field _ _ feedByte takeHandshake finishHandshake
    (fun state count => state.terminal = .more ∧ count ≤ state.recordRemaining ∧
      state.handshakeHeader.length + count ≤ handshakeHeaderSize)
    ?_ ?_ ?_ _ _ some ⟨waiting, inRecord, fits⟩
  · rintro state byte count ⟨undecided, inside, room⟩
    rw [feedByte, if_neg (not_not.mpr undecided), if_neg (by omega), if_pos (by omega)]
  · rintro state byte count ⟨undecided, inside, room⟩
    have longer : (takeHandshake state [byte]).handshakeHeader.length =
        state.handshakeHeader.length + 1 := by
      simp [takeHandshake]
    have left : (takeHandshake state [byte]).recordRemaining = state.recordRemaining - 1 := rfl
    refine ⟨?_, undecided, by omega, by omega⟩
    rw [finishHandshake, if_pos (by omega)]
  · intro state byte bytes
    simp only [takeHandshake, append_assoc, singleton_append, length_cons, length_nil]
    congr 1
    omega

theorem feedByte_body (some : bytes ≠ []) (waiting : parser.terminal = .more)
    (inRecord : bytes.length ≤ parser.recordRemaining)
    (full : parser.handshakeHeader.length = handshakeHeaderSize)
    (fits : parser.body.length + bytes.length ≤ parser.bodySize) :
    bytes.foldl feedByte parser = finishBody (takeBody parser bytes) := by
  refine @foldl_field _ _ feedByte takeBody finishBody (fun state count => state.terminal = .more ∧
      count ≤ state.recordRemaining ∧
      state.handshakeHeader.length = handshakeHeaderSize ∧
      state.body.length + count ≤ state.bodySize)
    ?_ ?_ ?_ _ _ some ⟨waiting, inRecord, full, fits⟩
  · rintro state byte count ⟨undecided, inside, whole, room⟩
    rw [feedByte, if_neg (not_not.mpr undecided), if_neg (by omega), if_neg (by omega)]
  · rintro state byte count ⟨undecided, inside, whole, room⟩
    have longer : (takeBody state [byte]).body.length = state.body.length + 1 := by simp [takeBody]
    have same : (takeBody state [byte]).bodySize = state.bodySize := rfl
    have left : (takeBody state [byte]).recordRemaining = state.recordRemaining - 1 := rfl
    refine ⟨?_, undecided, by omega, whole, by omega⟩
    rw [finishBody, if_neg (by omega)]
  · intro state byte bytes
    simp only [takeBody, append_assoc, singleton_append, length_cons, length_nil]
    congr 1
    omega

/-! ## The feed loop -/

/-- A parser takes the bytes of `data` in front of `rest`. -/
def Reads (parser : TlsClientHelloParser) (data : Bytes)
    (after : TlsClientHelloParser) (rest : Bytes) : Prop :=
  ∃ taken, data = taken ++ rest ∧ after = taken.foldl feedByte parser

theorem Reads.refl (parser : TlsClientHelloParser) (data : Bytes) :
    Reads parser data parser data := ⟨[], rfl, rfl⟩

theorem Reads.trans (front : Reads first data second middle)
    (back : Reads second middle third rest) :
    Reads first data third rest := by
  obtain ⟨taken, rfl, rfl⟩ := front
  obtain ⟨more, rfl, rfl⟩ := back
  exact ⟨taken ++ more, by simp, by simp⟩

theorem Reads.ready (reads : Reads parser data after rest) (ready : Ready parser) :
    Ready after := by
  obtain ⟨taken, _, rfl⟩ := reads
  exact foldl_feedByte_ready ready taken

theorem reads_take (count : Nat) (result : after = (data.take count).foldl feedByte parser) :
    Reads parser data after (data.drop count) :=
  ⟨data.take count, (take_append_drop count data).symm, result⟩

theorem take_ne_nil {count : Nat} (some : data ≠ []) (positive : 0 < count) :
    data.take count ≠ [] := by
  intro empty
  rcases take_eq_nil_iff.mp empty with zero | none
  · omega
  · exact some none

theorem drop_shorter {count : Nat} (some : data ≠ []) (positive : 0 < count) :
    (data.drop count).length < data.length := by
  have nonempty := length_pos_iff.mpr some
  rw [length_drop]
  omega

theorem activateRecord_remaining (goesOn : (activateRecord parser).terminal = .more) :
    (activateRecord parser).recordRemaining ≠ 0 := by
  revert goesOn
  unfold activateRecord
  dsimp only
  split
  · exact fun goesOn => by cases goesOn
  split
  · exact fun goesOn => by cases goesOn
  split
  · exact fun goesOn => by cases goesOn
  case isFalse recordSize _ valid =>
    intro _ zero
    have size : recordSize = 0 := UInt16.toNat_inj.mp zero
    simp [size] at valid

theorem activateHandshake_header (parser : TlsClientHelloParser) :
    (activateHandshake parser).handshakeHeader = parser.handshakeHeader := by
  unfold activateHandshake
  dsimp only
  split
  · rfl
  · split
    · rfl
    · split <;> rfl

theorem recordStage_eq (header : parser.recordRemaining = 0) (data : Bytes) :
    let missing := recordHeaderSize - parser.recordHeader.length
    let read := takeRecord parser (data.take missing)
    recordStage parser data = (finishRecord read, data.drop missing,
        decide (recordHeaderSize ≤ read.recordHeader.length) &&
          (finishRecord read).terminal == .more) := by
  intro missing read
  have staged : recordStage parser data = if read.recordHeader.length < recordHeaderSize then
        (read, data.drop missing, false)
      else
        (activateRecord read, data.drop missing,
          (activateRecord read).terminal == .more) := if_pos header
  rw [staged, finishRecord]
  by_cases short : read.recordHeader.length < recordHeaderSize
  · rw [if_pos short, if_pos short, decide_eq_false (Nat.not_le.mpr short)]
    rfl
  · rw [if_neg short, if_neg short, decide_eq_true (Nat.not_lt.mp short)]
    rfl

theorem handshakeStage_eq (partly : parser.handshakeHeader.length < handshakeHeaderSize)
    (data : Bytes) :
    let missing := min parser.recordRemaining (handshakeHeaderSize - parser.handshakeHeader.length)
    let read := takeHandshake parser (data.take missing)
    handshakeStage parser data = (finishHandshake read, data.drop missing,
        decide (handshakeHeaderSize ≤ read.handshakeHeader.length) &&
          (finishHandshake read).terminal == .more) := by
  intro missing read
  have staged : handshakeStage parser data =
      if read.handshakeHeader.length < handshakeHeaderSize then (read, data.drop missing, false)
      else
        (activateHandshake read, data.drop missing,
          (activateHandshake read).terminal == .more) := if_pos partly
  rw [staged, finishHandshake]
  by_cases short : read.handshakeHeader.length < handshakeHeaderSize
  · rw [if_pos short, if_pos short, decide_eq_false (Nat.not_le.mpr short)]
    rfl
  · rw [if_neg short, if_neg short, decide_eq_true (Nat.not_lt.mp short)]
    rfl

theorem bodyStage_eq (parser : TlsClientHelloParser) (data : Bytes) :
    let missing := min parser.recordRemaining (parser.bodySize - parser.body.length)
    bodyStage parser data = (finishBody (takeBody parser (data.take missing)),
        data.drop missing) := by
  intro missing
  unfold bodyStage finishBody
  by_cases whole : (takeBody parser (data.take missing)).body.length =
      (takeBody parser (data.take missing)).bodySize
  · rw [if_pos whole]
    exact if_pos whole
  · rw [if_neg whole]
    exact if_neg whole

theorem recordStage_reads (some : data ≠ []) (waiting : parser.terminal = .more)
    (waits : Waits parser) (header : parser.recordRemaining = 0) :
    Reads parser data (recordStage parser data).1 (recordStage parser data).2.1 ∧
      (recordStage parser data).2.1.length < data.length ∧
      ((recordStage parser data).2.2 = true → (recordStage parser data).1.terminal = .more ∧
          (recordStage parser data).1.recordRemaining ≠ 0) := by
  have missing : 0 < recordHeaderSize - parser.recordHeader.length := by
    have := waits.record
    omega
  have taken := @feedByte_record parser _ (take_ne_nil some missing) waiting
    header (by rw [length_take]; omega)
  rw [recordStage_eq header]
  refine ⟨reads_take _ taken.symm, drop_shorter some missing, ?_⟩
  intro goesOn
  obtain ⟨long, more⟩ := (Bool.and_eq_true _ _).mp goesOn
  have waitsOn := eq_of_beq more
  refine ⟨waitsOn, ?_⟩
  rw [finishRecord, if_neg (Nat.not_lt.mpr (of_decide_eq_true long))] at waitsOn ⊢
  exact activateRecord_remaining waitsOn

theorem handshakeStage_reads (waiting : parser.terminal = .more)
    (inRecord : parser.recordRemaining ≠ 0)
    (partly : parser.handshakeHeader.length < handshakeHeaderSize) :
    Reads parser data (handshakeStage parser data).1 (handshakeStage parser data).2.1 ∧ (data ≠ [] →
        (handshakeStage parser data).2.1.length < data.length) ∧
      ((handshakeStage parser data).2.2 = true → (handshakeStage parser data).1.terminal = .more ∧
          (handshakeStage parser data).1.handshakeHeader.length = handshakeHeaderSize) := by
  have missing : 0 < min parser.recordRemaining
      (handshakeHeaderSize - parser.handshakeHeader.length) := by omega
  rw [handshakeStage_eq partly]
  refine ⟨?_, fun some => drop_shorter some missing, ?_⟩
  · by_cases empty : data = []
    · subst empty
      rw [take_nil, drop_nil, finishHandshake]
      rw [if_pos (by simpa [takeHandshake] using partly)]
      simpa [takeHandshake] using Reads.refl parser []
    · exact reads_take _ (feedByte_handshake (take_ne_nil empty missing)
        waiting (by rw [length_take]; omega)
        (by rw [length_take]; omega)).symm
  · intro goesOn
    obtain ⟨long, more⟩ := (Bool.and_eq_true _ _).mp goesOn
    have enough := of_decide_eq_true long
    refine ⟨eq_of_beq more, ?_⟩
    rw [finishHandshake, if_neg (Nat.not_lt.mpr enough), activateHandshake_header]
    simp only [takeHandshake, length_append, length_take] at enough ⊢
    omega

theorem bodyStage_reads {parser : TlsClientHelloParser} {data : Bytes}
    (waiting : parser.terminal = .more) (waits : Waits parser)
    (full : parser.handshakeHeader.length = handshakeHeaderSize) :
    Reads parser data (bodyStage parser data).1 (bodyStage parser data).2 ∧
      (data ≠ [] → parser.recordRemaining ≠ 0 →
        (bodyStage parser data).2.length < data.length) := by
  have room := waits.body full
  rw [bodyStage_eq]
  refine ⟨?_, fun some inRecord => drop_shorter some (by omega)⟩
  by_cases empty : data.take (min parser.recordRemaining
      (parser.bodySize - parser.body.length)) = []
  · refine reads_take _ ?_
    rw [empty, finishBody, if_neg (by simp [takeBody]; omega)]
    simp [takeBody]
  · exact reads_take _ (feedByte_body empty waiting (by rw [length_take]; omega) full
      (by rw [length_take]; omega)).symm

theorem Reads.length_le (reads : Reads parser data after rest) : rest.length ≤ data.length := by
  obtain ⟨taken, rfl, _⟩ := reads
  rw [length_append]
  omega

/-- Inside a record a round reads the handshake header and the body. -/
theorem feedRound_inRecord (waiting : parser.terminal = .more) (ready : Ready parser)
    (inRecord : parser.recordRemaining ≠ 0) :
    Reads parser data (feedRound parser data).1 (feedRound parser data).2 ∧
      (data ≠ [] → (feedRound parser data).2.length < data.length) := by
  have passes : recordStage parser data = (parser, data, true) := if_neg inRecord
  have waits := ready waiting
  unfold feedRound
  rw [passes]
  dsimp only
  by_cases partly : parser.handshakeHeader.length < handshakeHeaderSize
  · obtain ⟨reads, shorter, next⟩ := @handshakeStage_reads parser data waiting inRecord partly
    rcases staged : handshakeStage parser data with ⟨after, rest, goesOn⟩
    rw [staged] at reads shorter next
    cases goesOn with
    | false => exact ⟨reads, shorter⟩
    | true =>
      obtain ⟨more, full⟩ := next rfl
      have body := @bodyStage_reads after rest more (reads.ready ready more) full
      refine ⟨reads.trans body.1, fun some => ?_⟩
      exact Nat.lt_of_le_of_lt body.1.length_le (shorter some)
  · have full := Nat.le_antisymm waits.handshake (Nat.not_lt.mp partly)
    have passesOn : handshakeStage parser data = (parser, data, true) := if_neg partly
    have body := @bodyStage_reads parser data waiting waits full
    rw [passesOn]
    exact ⟨body.1, fun some => body.2 some inRecord⟩

theorem feedRound_reads (some : data ≠ []) (waiting : parser.terminal = .more)
    (ready : Ready parser) :
    Reads parser data (feedRound parser data).1 (feedRound parser data).2 ∧
      (feedRound parser data).2.length < data.length := by
  by_cases header : parser.recordRemaining = 0
  · obtain ⟨reads, shorter, next⟩ := recordStage_reads some waiting (ready waiting) header
    rcases staged : recordStage parser data with ⟨after, rest, goesOn⟩
    rw [staged] at reads shorter next
    cases goesOn with
    | false =>
      have round : feedRound parser data = (after, rest) := by rw [feedRound, staged]
      rw [round]
      exact ⟨reads, shorter⟩
    | true =>
      obtain ⟨more, inRecord⟩ := next rfl
      have passes : recordStage after rest = (after, rest, true) := if_neg inRecord
      have round : feedRound parser data = feedRound after rest := by
        rw [feedRound, staged, feedRound, passes]
      have later := @feedRound_inRecord after rest more (reads.ready ready) inRecord
      rw [round]
      exact ⟨reads.trans later.1, Nat.lt_of_le_of_lt later.1.length_le shorter⟩
  · have inside := @feedRound_inRecord parser data waiting ready header
    exact ⟨inside.1, inside.2 some⟩

theorem feedLoop_bytes (ready : Ready parser) (enough : data.length ≤ fuel) :
    feedLoop fuel parser data = data.foldl feedByte parser := by
  induction fuel generalizing parser data with
  | zero =>
    obtain rfl := length_eq_zero_iff.mp (Nat.le_zero.mp enough)
    rfl
  | succ fuel ih =>
    rw [feedLoop]
    split
    case isTrue stops =>
      rcases stops with rfl | decided
      · rfl
      · exact (foldl_feedByte_decided decided data).symm
    case isFalse goesOn =>
      obtain ⟨some, waiting⟩ := not_or.mp goesOn
      obtain ⟨reads, shorter⟩ := feedRound_reads some (not_not.mp waiting) ready
      have rest := @ih _ _ (reads.ready ready)
        (Nat.le_of_lt_succ (Nat.lt_of_lt_of_le shorter enough))
      obtain ⟨taken, whole, after⟩ := reads
      refine rest.trans ?_
      conv_rhs => rw [whole]
      rw [foldl_append, ← after]

end Tls

variable {parser : TlsClientHelloParser}

section

variable (ready : Tls.Ready parser)

include ready

theorem tlsClientHelloParserFeed_bytes (data : Bytes) :
    tlsClientHelloParserFeed parser data = data.foldl Tls.feedByte parser :=
  Tls.feedLoop_bytes ready (Nat.le_refl _)

theorem tlsClientHelloParserFeed_ready (data : Bytes) :
    Tls.Ready (tlsClientHelloParserFeed parser data) := by
  rw [tlsClientHelloParserFeed_bytes ready]
  exact Tls.foldl_feedByte_ready ready data

theorem tlsClientHelloParserFeed_append (first second : Bytes) :
    tlsClientHelloParserFeed (tlsClientHelloParserFeed parser first) second =
      tlsClientHelloParserFeed parser (first ++ second) := by
  rw [tlsClientHelloParserFeed_bytes (tlsClientHelloParserFeed_ready ready first),
    tlsClientHelloParserFeed_bytes ready, tlsClientHelloParserFeed_bytes ready, foldl_append]

theorem foldl_tlsClientHelloParserFeed (chunks : List Bytes) :
    chunks.foldl tlsClientHelloParserFeed parser = chunks.flatten.foldl Tls.feedByte parser := by
  induction chunks generalizing parser with
  | nil => rfl
  | cons chunk chunks ih =>
    rw [foldl_cons, flatten_cons, foldl_append,
      ih (tlsClientHelloParserFeed_ready ready chunk), tlsClientHelloParserFeed_bytes ready]

end

theorem foldl_tlsClientHelloParserFeed_decided
    (decided : parser.terminal ≠ .more) (chunks : List Bytes) :
    chunks.foldl tlsClientHelloParserFeed parser = parser := by
  have ready : Tls.Ready parser := fun waiting => absurd waiting decided
  rw [foldl_tlsClientHelloParserFeed ready, Tls.foldl_feedByte_decided decided]

/-- How a byte string is cut into chunks does not change what the parser makes of it. -/
theorem tls_chunks_independent (chunks : List Bytes) :
    (chunks.foldl tlsClientHelloParserFeed {}).terminal =
        (tlsClientHelloParserFeed {} chunks.flatten).terminal ∧
      (chunks.foldl tlsClientHelloParserFeed {}).hello =
        (tlsClientHelloParserFeed {} chunks.flatten).hello ∧
      ((chunks.foldl tlsClientHelloParserFeed {}).terminal ≠ .more → ∀ further : List Bytes,
          (chunks ++ further).foldl tlsClientHelloParserFeed {} =
            chunks.foldl tlsClientHelloParserFeed {}) := by
  have same : chunks.foldl tlsClientHelloParserFeed {} =
      tlsClientHelloParserFeed {} chunks.flatten := by
    rw [foldl_tlsClientHelloParserFeed Tls.ready_fresh,
      tlsClientHelloParserFeed_bytes Tls.ready_fresh]
  refine ⟨congrArg _ same, congrArg _ same, ?_⟩
  intro decided further
  rw [foldl_append, foldl_tlsClientHelloParserFeed_decided decided further]

/-- A record header of another content type, cut into three chunks. -/
def refusedChunks : List Bytes := [[23, 3], [], [1, 0, 4]]

theorem tls_chunks_independent_refused :
    (refusedChunks.foldl tlsClientHelloParserFeed {}).terminal = .malformed ∧
      (refusedChunks ++ [[1]]).foldl tlsClientHelloParserFeed {} =
        refusedChunks.foldl tlsClientHelloParserFeed {} := by
  have refused : (refusedChunks.foldl tlsClientHelloParserFeed {}).terminal = .malformed := by
    decide +kernel
  have independent := (tls_chunks_independent refusedChunks).2.2
  exact ⟨refused, independent (by rw [refused]; decide) [[1]]⟩

end JanusGate
