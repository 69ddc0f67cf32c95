import JanusGate.Common.Blocklist

/-!
# Text in UTF-8

`jg_utf8_text_valid` of `checked.c` accepts the encodings of Unicode scalar
values in the sense of RFC 3629, which are never overlong, and refuses ASCII
control characters.
-/

namespace JanusGate.Blocklist

open List
open String (utf8EncodeChar)

/-- Scalar values one after the other, each in its only encoding. -/
def WellFormedUtf8 (data : Bytes) : Prop := ∃ chars : List Char, data = chars.flatMap utf8EncodeChar

/-- No ASCII control character. -/
def Plain (char : Char) : Prop := 0x20 ≤ char.toNat ∧ char.toNat ≠ 0x7f

def PlainUtf8 (data : Bytes) : Prop :=
  ∃ chars : List Char, data = chars.flatMap utf8EncodeChar ∧ ∀ char ∈ chars, Plain char

theorem scalar (char : Char) :
    char.toNat < 0xd800 ∨ 0xdfff < char.toNat ∧ char.toNat < 0x110000 := char.valid

theorem plain_iff : Plain char ↔ ∀ byte ∈ utf8EncodeChar char, 0x20 ≤ byte ∧ byte ≠ 0x7f := by
  have valid := scalar char
  simp only [Plain, utf8EncodeChar, Char.toNat_val, UInt8.le_iff_toNat_le, ne_eq, ← UInt8.toNat_inj]
  split_ifs <;> simp <;> omega

theorem continuation_iff (byte : UInt8) :
    continuation byte = true ↔ 128 ≤ byte.toNat ∧ byte.toNat < 192 := by
  have every : ∀ code : Fin 256,
      continuation (UInt8.ofNat code) = true ↔ 128 ≤ code.val ∧ code.val < 192 := by decide +kernel
  simpa using every ⟨byte.toNat, byte.toNat_lt⟩

/-- A round of the loop takes an encoded character. -/
theorem utf8Sequences_encode (plain : Plain char) (accepted : utf8Sequences rest = true) :
    utf8Sequences (utf8EncodeChar char ++ rest) = true := by
  have valid := scalar char
  unfold Plain at plain
  simp only [utf8EncodeChar, Char.toNat_val]
  split_ifs
  all_goals
    unfold utf8Sequences
    simp [accepted, continuation_iff, UInt8.le_iff_toNat_le, UInt8.lt_iff_toNat_lt,
      ← UInt8.toNat_inj]
    split_ifs <;> omega

/-- A sequence that encodes a scalar value goes in front. -/
theorem PlainUtf8.extend (part : Bytes) (value : Nat) (valid : value.isValidChar)
    (bytes : ∀ char : Char, char.toNat = value → part = utf8EncodeChar char ∧ Plain char)
    (plain : PlainUtf8 rest) : PlainUtf8 (part ++ rest) := by
  obtain ⟨chars, rfl, others⟩ := plain
  obtain ⟨rfl, first⟩ := bytes (Char.ofNatAux value valid) rfl
  exact ⟨_ :: chars, rfl, forall_mem_cons.mpr ⟨first, others⟩⟩

theorem plainUtf8_of_sequences (accepted : utf8Sequences rest = true) : PlainUtf8 rest := by
  induction size : rest.length using Nat.strong_induction_on generalizing rest with
  | _ size ih =>
    cases rest with
    | nil => exact ⟨[], by simp⟩
    | cons first rest =>
      -- what is behind the first sequence is shorter
      have ih : ∀ tail : Bytes, tail.length ≤ rest.length → utf8Sequences tail = true →
          PlainUtf8 tail := by
        intro tail shorter accepted
        rw [length_cons] at size
        exact ih tail.length (by omega) accepted rfl
      unfold utf8Sequences at accepted
      split at accepted
      case isTrue one =>
        simp [UInt8.le_iff_toNat_le, ← UInt8.toNat_inj] at accepted one
        refine (ih rest (by simp) accepted.2).extend [first] first.toNat (.inl (by omega))
          fun char same => ?_
        simp only [utf8EncodeChar, Char.toNat_val, Plain, same]
        split_ifs
        simp
        omega
      split at accepted
      case isTrue two =>
        obtain _ | ⟨second, rest⟩ := rest
        · cases accepted
        simp [continuation_iff, UInt8.le_iff_toNat_le] at accepted two
        refine (ih rest (by simp) accepted.2).extend [first, second]
          ((first.toNat - 192) * 64 + (second.toNat - 128)) (.inl (by omega)) fun char same => ?_
        simp only [utf8EncodeChar, Char.toNat_val, Plain, same]
        split_ifs <;> simp [← UInt8.toNat_inj] <;> omega
      split at accepted
      case isTrue three =>
        obtain _ | ⟨second, _ | ⟨third, rest⟩⟩ := rest
        · cases accepted
        · cases accepted
        simp [continuation_iff, UInt8.le_iff_toNat_le, UInt8.lt_iff_toNat_lt, ← UInt8.toNat_inj]
          at accepted three
        refine (ih rest (by simp; omega) accepted.2).extend [first, second, third]
          ((first.toNat - 224) * 4096 + (second.toNat - 128) * 64 + (third.toNat - 128))
          (by unfold Nat.isValidChar; omega) fun char same => ?_
        simp only [utf8EncodeChar, Char.toNat_val, Plain, same]
        split_ifs <;> simp [← UInt8.toNat_inj] <;> omega
      split at accepted
      case isTrue four =>
        obtain _ | ⟨second, _ | ⟨third, _ | ⟨fourth, rest⟩⟩⟩ := rest
        · cases accepted
        · cases accepted
        · cases accepted
        simp [continuation_iff, UInt8.le_iff_toNat_le, UInt8.lt_iff_toNat_lt, ← UInt8.toNat_inj]
          at accepted four
        refine (ih rest (by simp; omega) accepted.2).extend [first, second, third, fourth]
          ((first.toNat - 240) * 262144 + (second.toNat - 128) * 4096 +
            (third.toNat - 128) * 64 + (fourth.toNat - 128))
          (by unfold Nat.isValidChar; omega) fun char same => ?_
        simp only [utf8EncodeChar, Char.toNat_val, Plain, same]
        split_ifs <;> simp [← UInt8.toNat_inj] <;> omega
      cases accepted

theorem utf8Sequences_iff : utf8Sequences data = true ↔ PlainUtf8 data := by
  refine ⟨plainUtf8_of_sequences, ?_⟩
  rintro ⟨chars, rfl, plain⟩
  induction chars with
  | nil => rfl
  | cons char chars ih =>
    rw [forall_mem_cons] at plain
    exact utf8Sequences_encode plain.1 (ih plain.2)

/-- The check accepts the well-formed texts without control characters. -/
theorem utf8_text_valid_iff (data : Bytes) (allowEmpty : Bool) :
    utf8TextValid data allowEmpty = true ↔ WellFormedUtf8 data ∧
      (∀ byte ∈ data, 0x20 ≤ byte ∧ byte ≠ 0x7f) ∧ (data = [] → allowEmpty = true) := by
  have text : PlainUtf8 data ↔ WellFormedUtf8 data ∧ ∀ byte ∈ data, 0x20 ≤ byte ∧ byte ≠ 0x7f := by
    constructor
    · rintro ⟨chars, rfl, plain⟩
      refine ⟨⟨chars, rfl⟩, fun byte member => ?_⟩
      obtain ⟨char, among, inside⟩ := mem_flatMap.mp member
      exact plain_iff.mp (plain char among) byte inside
    · rintro ⟨⟨chars, rfl⟩, plain⟩
      exact ⟨chars, rfl, fun char among => plain_iff.mpr fun byte inside =>
        plain byte (mem_flatMap_of_mem among inside)⟩
  rw [← and_assoc, ← text, ← utf8Sequences_iff]
  cases allowEmpty <;> cases data <;> simp [utf8TextValid]

end JanusGate.Blocklist
