import Mathlib.Algebra.Group.Nat.Defs
import Mathlib.Algebra.GroupWithZero.Nat
import Mathlib.Tactic.Common

/-!
# Checked sizes and bounded big-endian access

The helpers of `checked.c`.  A byte buffer with its size is a list of bytes,
a `size_t` is a natural number, and the overflow tests of the source stay
explicit.  Integers read from a buffer keep their machine width.
-/

namespace JanusGate

abbrev Bytes := List UInt8

/-- `SIZE_MAX` of the 64-bit targets. -/
def sizeMax : Nat := 2 ^ 64 - 1

/-- `UINT64_MAX`, the saturation point of every deadline. -/
def uint64Max : Nat := 2 ^ 64 - 1

/-- `INT64_MAX`, the last revision of a database row. -/
def int64Max : Nat := 2 ^ 63 - 1

/-- `UINT32_MAX`, the bound of packed offsets and rule counts. -/
def uint32Max : Nat := 2 ^ 32 - 1

/-- `errno` constants, returned negated. -/
def eNoEnt : Int := -2
def eIo : Int := -5
def e2Big : Int := -7
def eAgain : Int := -11
def eAcces : Int := -13
def eBusy : Int := -16
def eExist : Int := -17
def eNoDev : Int := -19
def eInval : Int := -22
def eFBig : Int := -27
def eNoSpc : Int := -28
def eRange : Int := -34
def eProto : Int := -71
def eOverflow : Int := -75
def eIlSeq : Int := -84
def eMsgSize : Int := -90
def eProtoNoSupport : Int := -93
def eAddrInUse : Int := -98
def eAlready : Int := -114
def eStale : Int := -116
def eCanceled : Int := -125

/-- `JG_IPC_MAX_BODY_SIZE`. -/
def ipcMaxBodySize : Nat := 65536

def sizeAdd (left right : Nat) : Option Nat :=
  if right > sizeMax - left then none else some (left + right)

def sizeMultiply (left right : Nat) : Option Nat :=
  if left ≠ 0 ∧ right > sizeMax / left then none else some (left * right)

def rangeValid (offset length totalSize : Nat) : Bool :=
  decide (offset ≤ totalSize) && decide (length ≤ totalSize - offset)

variable (data : Bytes) (offset : Nat)

/-- `data[offset]`; every use of the source is preceded by a range check. -/
def byteAt : UInt8 := data.getD offset 0

/-- The `length` bytes that start at `offset`, as `memcpy` reads them. -/
def slice (offset length : Nat) : Bytes := (data.drop offset).take length

def readU16Be : Option UInt16 :=
  if rangeValid offset 2 data.length then
    some (((byteAt data offset).toUInt16 <<< 8) ||| (byteAt data (offset + 1)).toUInt16)
  else none

def readU32Be : Option UInt32 :=
  if rangeValid offset 4 data.length then
    some (((byteAt data offset).toUInt32 <<< 24) |||
      ((byteAt data (offset + 1)).toUInt32 <<< 16) |||
      ((byteAt data (offset + 2)).toUInt32 <<< 8) |||
      (byteAt data (offset + 3)).toUInt32)
  else none

def readU64Be : Option UInt64 := do
  let high ← readU32Be data offset
  let low ← readU32Be data (offset + 4)
  return (high.toUInt64 <<< 32) ||| low.toUInt64

def writeU16Be (value : UInt16) : Bytes :=
  if rangeValid offset 2 data.length then
    (data.set offset (value >>> 8).toUInt8).set (offset + 1) (value &&& 0xff).toUInt8
  else data

/-- One deadline relative to monotonic time, saturated at `UINT64_MAX`. -/
def deadline (nowMs durationMs : Nat) : Nat :=
  if nowMs > uint64Max - durationMs then uint64Max else nowMs + durationMs

@[simp]
theorem rangeValid_iff (offset length totalSize : Nat) : rangeValid offset length totalSize = true ↔
      offset ≤ totalSize ∧ length ≤ totalSize - offset := by
  simp [rangeValid]

@[simp]
theorem slice_length (offset length : Nat) :
    (slice data offset length).length = min length (data.length - offset) := by
  simp [slice]

end JanusGate
