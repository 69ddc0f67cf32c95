import JanusGate.Common.Checked
import JanusGate.Foundation.Outcome

/-!
# Policy domains

The ASCII part of `domain.c`.  A C string is its list of bytes without the
terminator.  The conversion of non-ASCII input belongs to libidn2 and enters
as a parameter; whatever it returns is validated again by `normalizeAscii`.
-/

namespace JanusGate

open Outcome List

/-- Maximum normalized domain bytes excluding the null terminator. -/
def domainNameMax : Nat := 253

def domainLabelMax : Nat := 63

/-- `'.'` -/
def dotByte : UInt8 := 0x2e

/-- `'-'` -/
def hyphenByte : UInt8 := 0x2d

def lowerAscii (value : UInt8) : UInt8 :=
  if 0x41 ≤ value ∧ value ≤ 0x5a then value + 0x20 else value

namespace Domain

/-- Letters, digits and the hyphen, after lowercasing. -/
def isLdhByte (value : UInt8) : Bool :=
  (decide (0x61 ≤ value) && decide (value ≤ 0x7a)) ||
    (decide (0x30 ≤ value) && decide (value ≤ 0x39)) ||
    value == hyphenByte

/-- `index + 1 == input_length || input[index + 1] == '.'` -/
def endsLabel : Bytes → Bool
  | [] => true
  | next :: _ => next == dotByte

/-- The byte loop of `normalize_ascii`, with the length of the label read so
far. -/
def normalizeLabels : Nat → Bytes → Except Int Bytes
  | labelLength, [] => if labelLength = 0 then .error eInval else .ok []
  | labelLength, value :: rest =>
    if value == dotByte then
      if labelLength = 0 ∨ labelLength > domainLabelMax then .error eInval
      else (normalizeLabels 0 rest).map (dotByte :: ·)
    else
      let lowered := lowerAscii value
      if !isLdhByte lowered then .error eInval
      else if (labelLength = 0 ∧ lowered = hyphenByte) ∨
          (lowered = hyphenByte ∧ endsLabel rest = true) then
        .error eInval
      else if labelLength + 1 > domainLabelMax then .error eInval
      else (normalizeLabels (labelLength + 1) rest).map (lowered :: ·)

def normalizeAscii (input : Bytes) (outputSize : Nat) : Except Int Bytes :=
  if input.length = 0 ∨ input.length > domainNameMax then .error eInval
  else if outputSize ≤ input.length then .error eNoSpc
  else normalizeLabels 0 input

end Domain

open Domain

/-- Normalize UTF-8 into a policy A-label; `idn2LookupU8` is the libidn2 conversion. -/
def domainNormalize (idn2LookupU8 : Bytes → Option Bytes) (input : Bytes)
    (outputSize : Nat) : Except Int Bytes :=
  if outputSize = 0 then .error eInval
  else if input.length = 0 ∨ input.length > domainNameMax * 4 then .error eInval
  else
    let trimmed := if input.getLast? = some dotByte then input.dropLast else input
    if trimmed.length = 0 then .error eInval
    else if trimmed.all fun value => decide (value ≤ 0x7f) then normalizeAscii trimmed outputSize
    else
      match idn2LookupU8 trimmed with
      | some alabel => normalizeAscii alabel outputSize
      | none => .error eInval

def domainIsNormalized (domain : Bytes) : Bool :=
  match normalizeAscii domain (domainNameMax + 1) with
  | .ok normalized => domain == normalized
  | .error _ => false

def domainMatches (name rule : Bytes) (includeSubdomains : Bool) : Bool :=
  if !domainIsNormalized name || !domainIsNormalized rule then false
  else if name == rule then true
  else if !includeSubdomains then false
  else
    decide (name.length > rule.length) && byteAt name (name.length - rule.length - 1) == dotByte &&
      slice name (name.length - rule.length) rule.length == rule

namespace Domain

/-! ## Runs of the byte loop -/

theorem lowerAscii_lowerAscii (value : UInt8) :
    lowerAscii (lowerAscii value) = lowerAscii value := by
  unfold lowerAscii
  split
  case isTrue upper =>
    apply if_neg
    rintro ⟨_, small⟩
    simp only [UInt8.le_iff_toNat_le, UInt8.toNat_add, UInt8.reduceToNat] at upper small
    omega
  case isFalse => rfl

/-- A run of the byte loop that accepts its input. -/
inductive Normalizes : Nat → Bytes → Bytes → Prop
  | done (nonempty : labelLength ≠ 0) : Normalizes labelLength [] []
  | dot (nonempty : labelLength ≠ 0)
      (short : labelLength ≤ domainLabelMax) (later : Normalizes 0 rest output) :
      Normalizes labelLength (dotByte :: rest) (dotByte :: output)
  | letter {value : UInt8} {rest output : Bytes} (ldh : isLdhByte (lowerAscii value) = true)
      (inner : lowerAscii value = hyphenByte → labelLength ≠ 0 ∧ endsLabel rest = false)
      (short : labelLength < domainLabelMax) (later : Normalizes (labelLength + 1) rest output) :
      Normalizes labelLength (value :: rest) (lowerAscii value :: output)

theorem ne_dot_of_ldh (ldh : isLdhByte (lowerAscii value) = true) : value ≠ dotByte := by
  rintro rfl
  cases ldh

theorem normalizeLabels_eq_ok :
    normalizeLabels labelLength input = .ok output ↔ Normalizes labelLength input output := by
  constructor
  · intro accepted
    induction input generalizing labelLength output with
    | nil =>
      obtain ⟨nonempty, same⟩ := guard_eq_ok.mp accepted
      cases same
      exact .done nonempty
    | cons value rest ih =>
      by_cases dot : value = dotByte
      · subst dot
        simp only [normalizeLabels, BEq.rfl, if_true, guard_eq_ok, map_eq_ok] at accepted
        obtain ⟨fits, tail, accepts, rfl⟩ := accepted
        exact .dot (by omega) (by omega) (ih accepts)
      · simp only [normalizeLabels, beq_eq_false_iff_ne.mpr dot, Bool.false_eq_true, if_false,
          guard_eq_ok, map_eq_ok] at accepted
        obtain ⟨letter, hyphen, short, tail, accepts, rfl⟩ := accepted
        refine .letter (by simpa using letter) ?_ (by omega) (ih accepts)
        intro same
        simpa [same] using hyphen
  · intro run
    induction run with
    | done nonempty => exact if_neg nonempty
    | dot nonempty short _ ih => simp [normalizeLabels, ih, nonempty, short, Except.map]
    | letter ldh inner short _ ih =>
      rw [normalizeLabels, if_neg (by simpa using ne_dot_of_ldh ldh)]
      rw [if_neg (by simp [ldh]), if_neg (by grind), if_neg (by omega), ih]
      rfl

theorem Normalizes.endsLabel_eq (run : Normalizes labelLength input output) :
    endsLabel output = endsLabel input := by
  cases run with
  | done | dot => rfl
  | letter ldh =>
    have again := ne_dot_of_ldh (by rw [lowerAscii_lowerAscii]; exact ldh)
    simp [endsLabel, ne_dot_of_ldh ldh, again]

/-- The output is the lowered input, and a run on it changes nothing. -/
theorem Normalizes.lowered (run : Normalizes labelLength input output) :
    output = input.map lowerAscii ∧ Normalizes labelLength output output := by
  induction run with
  | done nonempty => exact ⟨rfl, .done nonempty⟩
  | dot nonempty short _ ih => exact ⟨congrArg (dotByte :: ·) ih.1, .dot nonempty short ih.2⟩
  | @letter _ value _ _ ldh inner short later ih =>
    refine ⟨congrArg (lowerAscii value :: ·) ih.1, ?_⟩
    have again := lowerAscii_lowerAscii value
    have run := @Normalizes.letter _ (lowerAscii value) _ _ (by rw [again]; exact ldh)
      (by rw [again, later.endsLabel_eq]; exact inner) short ih.2
    rwa [again] at run

/-! ## The grammar of accepted names -/

/-- A letter of either case, a digit or the hyphen. -/
def LdhByte (value : UInt8) : Prop :=
  (0x41 ≤ value ∧ value ≤ 0x5a) ∨ (0x61 ≤ value ∧ value ≤ 0x7a) ∨
    (0x30 ≤ value ∧ value ≤ 0x39) ∨ value = hyphenByte
  deriving Decidable

structure LdhLabel (label : Bytes) : Prop where
  nonempty : label ≠ []
  short : label.length ≤ domainLabelMax
  bytes : ∀ value ∈ label, LdhByte value
  first : label.head? ≠ some hyphenByte
  last : label.getLast? ≠ some hyphenByte

/-- Labels with dots between them. -/
inductive DottedLdh : Bytes → Prop
  | single (valid : LdhLabel label) : DottedLdh label
  | join (valid : LdhLabel label) (later : DottedLdh rest) :
      DottedLdh (label ++ dotByte :: rest)

theorem forall_byte {property : UInt8 → Prop}
    (all : ∀ number : Fin 256, property (UInt8.ofNat number)) (value : UInt8) : property value := by
  simpa using all value.toFin

theorem lowerAscii_ldh : isLdhByte (lowerAscii value) = true ↔ LdhByte value :=
  @forall_byte (fun value => isLdhByte (lowerAscii value) = true ↔ LdhByte value)
    (by decide +kernel) value

theorem lowerAscii_hyphen : lowerAscii value = hyphenByte ↔ value = hyphenByte :=
  @forall_byte (fun value => lowerAscii value = hyphenByte ↔ value = hyphenByte)
    (by decide +kernel) value

/-- The label read so far and the rest of the input are a dotted name. -/
theorem Normalizes.dotted (run : Normalizes labelLength input output) (begun : Bytes)
    (length : begun.length = labelLength) (short : labelLength ≤ domainLabelMax)
    (bytes : ∀ value ∈ begun, LdhByte value) (first : begun.head? ≠ some hyphenByte)
    (last : endsLabel input = true → begun.getLast? ≠ some hyphenByte) :
    DottedLdh (begun ++ input) := by
  induction run generalizing begun with
  | done nonempty =>
    rw [append_nil]
    exact .single ⟨by grind, by omega, bytes, first, last rfl⟩
  | dot nonempty _ _ ih =>
    exact .join ⟨by grind, by omega, bytes, first, last rfl⟩
      (ih [] rfl (Nat.zero_le _) nofun nofun nofun)
  | @letter _ value rest _ ldh inner below _ ih =>
    rw [append_cons]
    refine ih (begun ++ [value]) (by simp [length]) below ?_ ?_ ?_
    · exact forall_mem_append.mpr ⟨bytes, by simpa using lowerAscii_ldh.mp ldh⟩
    · cases begun with
      | nil =>
        intro hyphen
        exact (inner (lowerAscii_hyphen.mpr (by simpa using hyphen))).1 length.symm
      | cons => exact first
    · intro ends hyphen
      have inside := (inner (lowerAscii_hyphen.mpr (by simpa using hyphen))).2
      rw [ends] at inside
      cases inside

theorem normalizes_label (bytes : ∀ value ∈ label, LdhByte value)
    (last : label.getLast? ≠ some hyphenByte)
    (first : labelLength = 0 → label.head? ≠ some hyphenByte)
    (short : labelLength + label.length ≤ domainLabelMax)
    (later : Normalizes (labelLength + label.length) rest output) :
    Normalizes labelLength (label ++ rest) (label.map lowerAscii ++ output) := by
  induction label generalizing labelLength with
  | nil => exact later
  | cons value more ih =>
    rw [length_cons] at short later
    obtain ⟨ldh, moreLdh⟩ := forall_mem_cons.mp bytes
    refine .letter (lowerAscii_ldh.mpr ldh) ?_ (by omega)
      (ih moreLdh (by grind) (by omega) (by omega) (by rwa [Nat.add_assoc, Nat.add_comm 1]))
    intro hyphen
    rw [lowerAscii_hyphen] at hyphen
    refine ⟨fun zero => first zero (congrArg some hyphen), ?_⟩
    cases more with
    | nil => exact absurd (congrArg some hyphen) last
    | cons next =>
      exact beq_eq_false_iff_ne.mpr (ne_dot_of_ldh (lowerAscii_ldh.mpr (moreLdh next (by simp))))

theorem DottedLdh.normalizes (dotted : DottedLdh name) :
    Normalizes 0 name (name.map lowerAscii) := by
  have run : ∀ {label rest output}, LdhLabel label → Normalizes label.length rest output →
      Normalizes 0 (label ++ rest) (label.map lowerAscii ++ output) :=
    fun valid later => normalizes_label valid.bytes valid.last (fun _ => valid.first)
      (by simpa using valid.short) (by simpa using later)
  induction dotted with
  | single valid => simpa using run valid (.done (by simpa using valid.nonempty))
  | join valid _ ih =>
    rw [map_append]
    exact run valid (.dot (by simpa using valid.nonempty) valid.short ih)

theorem Normalizes.ascii (run : Normalizes labelLength input output) :
    (∀ value ∈ input, value ≠ 0 ∧ value ≤ 0x7f) ∧ input.getLast? ≠ some dotByte := by
  have letters : ∀ value, LdhByte value → value ≠ 0 ∧ value ≤ 0x7f :=
    forall_byte (by decide +kernel)
  induction run with
  | done => simp
  | @dot _ rest _ _ _ later ih =>
    refine ⟨forall_mem_cons.mpr ⟨by decide, ih.1⟩, ?_⟩
    cases rest with
    | nil => cases later with | done nonempty => exact absurd rfl nonempty
    | cons => simpa using ih.2
  | @letter _ value rest _ ldh _ _ _ ih =>
    refine ⟨forall_mem_cons.mpr ⟨letters value (lowerAscii_ldh.mp ldh), ih.1⟩, ?_⟩
    cases rest with
    | nil => simpa using ne_dot_of_ldh ldh
    | cons => simpa using ih.2

/-! ## Whole names -/

theorem normalizeAscii_eq_ok :
    normalizeAscii input outputSize = .ok output ↔ input.length ≤ domainNameMax ∧
      input.length < outputSize ∧ Normalizes 0 input output := by
  simp only [normalizeAscii, guard_eq_ok, normalizeLabels_eq_ok]
  constructor
  · rintro ⟨bounds, room, run⟩
    exact ⟨by omega, by omega, run⟩
  rintro ⟨bounds, room, run⟩
  refine ⟨?_, by omega, run⟩
  rintro (empty | long)
  · rw [length_eq_zero_iff.mp empty] at run
    cases run with | done nonempty => exact nonempty rfl
  · omega

theorem domainIsNormalized_iff :
    domainIsNormalized name = true ↔ name.length ≤ domainNameMax ∧ Normalizes 0 name name := by
  have accepts : normalizeAscii name (domainNameMax + 1) = .ok name ↔
      name.length ≤ domainNameMax ∧ Normalizes 0 name name := by
    rw [normalizeAscii_eq_ok]
    exact ⟨fun both => ⟨both.1, both.2.2⟩, fun both => ⟨both.1, by omega, both.2⟩⟩
  rw [← accepts]
  unfold domainIsNormalized
  cases normalizeAscii name (domainNameMax + 1) with
  | error status => simp
  | ok normalized => simpa using eq_comm

/-- An accepted input becomes a name of the byte loop. -/
theorem domainNormalize_run
    (accepted : domainNormalize idn2LookupU8 input outputSize = .ok output) :
    ∃ name, normalizeAscii name outputSize = .ok output ∧
      ((∀ value ∈ input, value ≤ 0x7f) → input = name ∨ input = name ++ [dotByte]) := by
  have spelled : ∃ name, (if input.getLast? = some dotByte then input.dropLast else input) = name ∧
      (input = name ∨ input = name ++ [dotByte]) := by
    split
    case isTrue last =>
      obtain ⟨name, rfl⟩ := getLast?_eq_some_iff.mp last
      exact ⟨name, by simp, .inr rfl⟩
    case isFalse => exact ⟨input, rfl, .inl rfl⟩
  obtain ⟨trimmed, same, spelled⟩ := spelled
  simp only [domainNormalize, same, guard_eq_ok] at accepted
  obtain ⟨_, _, _, accepted⟩ := accepted
  split at accepted
  case isTrue => exact ⟨trimmed, accepted, fun _ => spelled⟩
  case isFalse foreign =>
    split at accepted
    case h_1 name _ =>
      refine ⟨name, accepted, fun ascii => absurd ?_ foreign⟩
      rw [all_eq_true]
      intro value member
      refine decide_eq_true (ascii value ?_)
      rcases spelled with rfl | rfl
      · exact member
      · exact mem_append_left _ member
    case h_2 => cases accepted

theorem domainNormalize_of_ascii (accepted : normalizeAscii name outputSize = .ok output)
    (spelled : input = name ∨ input = name ++ [dotByte]) :
    domainNormalize idn2LookupU8 input outputSize = .ok output := by
  obtain ⟨bounded, room, run⟩ := normalizeAscii_eq_ok.mp accepted
  obtain ⟨ascii, last⟩ := run.ascii
  have nonempty : name.length ≠ 0 := by
    intro empty
    rw [length_eq_zero_iff.mp empty] at run
    cases run with | done none => exact none rfl
  have trimmed : (if input.getLast? = some dotByte then input.dropLast else input) = name := by
    rcases spelled with rfl | rfl
    · exact if_neg last
    · simp
  have length : input.length ≤ name.length + 1 ∧ name.length ≤ input.length := by
    rcases spelled with rfl | rfl <;> simp
  have bytes : (name.all fun value => decide (value ≤ 0x7f)) = true := by
    rw [all_eq_true]
    exact fun value member => decide_eq_true (ascii value member).2
  simp only [domainNormalize, trimmed]
  rw [if_neg (by omega), if_neg (by unfold domainNameMax at *; omega), if_neg nonempty,
    if_pos bytes, accepted]

theorem domainNormalize_isNormalized
    (accepted : domainNormalize idn2LookupU8 input outputSize = .ok output) :
    domainIsNormalized output = true ∧ output.length < outputSize := by
  obtain ⟨name, ascii, _⟩ := domainNormalize_run accepted
  obtain ⟨bounded, room, run⟩ := normalizeAscii_eq_ok.mp ascii
  obtain ⟨same, again⟩ := run.lowered
  have length : output.length = name.length := by rw [same, length_map]
  exact ⟨domainIsNormalized_iff.mpr ⟨by omega, again⟩, by omega⟩

theorem domainNormalize_of_isNormalized (normalized : domainIsNormalized name = true)
    (room : name.length < outputSize) :
    domainNormalize idn2LookupU8 name outputSize = .ok name := by
  obtain ⟨bounded, run⟩ := domainIsNormalized_iff.mp normalized
  exact domainNormalize_of_ascii (normalizeAscii_eq_ok.mpr ⟨bounded, room, run⟩) (.inl rfl)

/-- An ASCII input is accepted exactly when it spells a dotted name that fits, with or without one
trailing dot.  Every output is normalized and normalizes to itself. -/
theorem domain_normalize_grammar (idn2LookupU8 : Bytes → Option Bytes) (input : Bytes)
    (outputSize : Nat) :
    ((∀ value ∈ input, value ≤ 0x7f) → ∀ output,
      domainNormalize idn2LookupU8 input outputSize = .ok output ↔
        ∃ name, DottedLdh name ∧ name.length ≤ domainNameMax ∧
          (input = name ∨ input = name ++ [dotByte]) ∧ name.length < outputSize ∧
          output = name.map lowerAscii) ∧
      ∀ output, domainNormalize idn2LookupU8 input outputSize = .ok output →
        domainIsNormalized output = true ∧
          domainNormalize idn2LookupU8 output outputSize = .ok output := by
  refine ⟨fun ascii output => ⟨fun accepted => ?_, ?_⟩, fun output accepted => ?_⟩
  · obtain ⟨name, accepts, spelled⟩ := domainNormalize_run accepted
    obtain ⟨bounded, room, run⟩ := normalizeAscii_eq_ok.mp accepts
    exact ⟨name, run.dotted [] rfl (Nat.zero_le _) nofun nofun nofun, bounded, spelled ascii, room,
      run.lowered.1⟩
  · rintro ⟨name, dotted, bounded, spelled, room, rfl⟩
    exact domainNormalize_of_ascii
      (normalizeAscii_eq_ok.mpr ⟨bounded, room, dotted.normalizes⟩) spelled
  · obtain ⟨normalized, room⟩ := domainNormalize_isNormalized accepted
    exact ⟨normalized, domainNormalize_of_isNormalized normalized room⟩

/-- `"Ex-1.A."` -/
theorem domain_normalize_grammar_trailing_dot :
    domainNormalize (fun _ => none) [0x45, 0x78, 0x2d, 0x31, 0x2e, 0x41, 0x2e] 8 =
      .ok [0x65, 0x78, 0x2d, 0x31, 0x2e, 0x61] := by
  refine ((domain_normalize_grammar _ _ _).1 (by decide +kernel) _).mpr
    ⟨[0x45, 0x78, 0x2d, 0x31, 0x2e, 0x41], @DottedLdh.join [0x45, 0x78, 0x2d, 0x31] [0x41]
      ⟨by decide, by decide, by decide +kernel, by decide, by decide⟩
      (.single ⟨by decide, by decide, by decide +kernel, by decide, by decide⟩), ?_⟩
  decide

end Domain

end JanusGate
