import JanusGate.Common.WireParse

/-!
# Frames of the local control protocol

The codec of `ipc.c`: a fixed header in network byte order and one body.  Every
message has one frame and every accepted frame is the frame of its message.
-/

namespace JanusGate

open Layout Wire Outcome List

namespace Ipc

def ipcVersion : UInt16 := 1
def ipcHeaderSize : Nat := 28
def ipcMagic : Bytes := [0x4a, 0x47, 0x49, 0x50]

def kindRequest : UInt32 := 1
def kindResponse : UInt32 := 2

/-- `JG_IPC_PING` and `JG_IPC_LOCAL_MANAGEMENT_REQUEST`, the first and the last operation. -/
def operationFirst : UInt32 := 1
def operationLast : UInt32 := 13

def errorNone : UInt32 := 0
def errorSystem : UInt32 := 8

/-- The enumerations are the machine words of the source: a caller can pass any. -/
structure IpcMessage where
  kind : UInt32
  operation : UInt32
  requestId : UInt64
  error : UInt32
  body : Bytes
  deriving DecidableEq

def kindValid (kind : UInt32) : Bool := kind == kindRequest || kind == kindResponse

def operationValid (operation : UInt32) : Bool :=
  decide (operationFirst ≤ operation) && decide (operation ≤ operationLast)

def errorValid (error : UInt32) : Bool := decide (errorNone ≤ error) && decide (error ≤ errorSystem)

def validateMessage (message : IpcMessage) : Int :=
  if !kindValid message.kind || !operationValid message.operation || message.requestId == 0 ||
      !errorValid message.error ||
      (message.kind == kindRequest && message.error != errorNone) then
    eInval
  else if message.body.length > ipcMaxBodySize then eMsgSize
  else 0

structure IpcHeader where
  version : UInt16
  kind : UInt16
  operation : UInt16
  error : UInt16
  bodySize : UInt32
  requestId : UInt64
  reserved : UInt32

def IpcHeader.encode (header : IpcHeader) : Bytes :=
  ipcMagic ++ (encodeU16 header.version ++ (encodeU16 header.kind ++
    (encodeU16 header.operation ++ (encodeU16 header.error ++ (encodeU32 header.bodySize ++
    (encodeU64 header.requestId ++ encodeU32 header.reserved))))))

/-- The fields from behind the magic on. -/
def readHeader (data : Bytes) : Option IpcHeader := do
  let version ← readU16Be data 4
  let kind ← readU16Be data 6
  let operation ← readU16Be data 8
  let error ← readU16Be data 10
  let bodySize ← readU32Be data 12
  let requestId ← readU64Be data 16
  let reserved ← readU32Be data 24
  return ⟨version, kind, operation, error, bodySize, requestId, reserved⟩

def IpcMessage.header (message : IpcMessage) : IpcHeader where
  version := ipcVersion
  kind := message.kind.toUInt16
  operation := message.operation.toUInt16
  error := message.error.toUInt16
  bodySize := UInt32.ofNat message.body.length
  requestId := message.requestId
  reserved := 0

def IpcMessage.frame (message : IpcMessage) : Bytes := message.header.encode ++ message.body

end Ipc

open Ipc

def ipcEncode (message : IpcMessage) (outputSize : Nat) : Except Int Bytes :=
  if validateMessage message ≠ 0 then .error (validateMessage message)
  else match sizeAdd ipcHeaderSize message.body.length with
    | none => .error eMsgSize
    | some messageSize => if outputSize < messageSize then .error eNoSpc else .ok message.frame

def ipcDecode (data : Bytes) : Except Int IpcMessage :=
  if data.length < ipcHeaderSize then .error eMsgSize
  else if slice data 0 4 ≠ ipcMagic then .error eProto
  else match readHeader data with
    | none => .error eProto
    | some header =>
      if header.version ≠ ipcVersion then .error eProtoNoSupport
      else if header.bodySize.toNat > ipcMaxBodySize ∨
          sizeAdd ipcHeaderSize header.bodySize.toNat ≠ some data.length then
        .error eMsgSize
      else
        let decoded := {
          kind := header.kind.toUInt32
          operation := header.operation.toUInt32
          requestId := header.requestId
          error := header.error.toUInt32
          body := slice data ipcHeaderSize header.bodySize.toNat }
        if header.reserved ≠ 0 ∨ validateMessage decoded ≠ 0 then .error eProto
        else .ok decoded

namespace Ipc

variable {message : IpcMessage} {header : IpcHeader}

@[simp]
theorem IpcHeader.encode_length : header.encode.length = ipcHeaderSize := rfl

theorem readHeader_eq_some :
    slice data 0 4 = ipcMagic ∧ readHeader data = some header ↔ Holds data 0 header.encode := by
  have magic : slice data 0 4 = ipcMagic ↔ Holds data 0 ipcMagic := Iff.rfl
  simp only [readHeader, Option.bind_eq_bind, Option.bind_eq_some_iff, Option.pure_def,
    Option.some.injEq, readU16Be_eq_some, readU32Be_eq_some, readU64Be_eq_some, magic,
    IpcHeader.encode, holds_append, encodeU16_length, encodeU32_length, encodeU64_length,
    show ipcMagic.length = 4 from rfl, Nat.zero_add, Nat.reduceAdd]
  refine and_congr_right fun _ => ⟨?_, ?_⟩
  · rintro ⟨version, atVersion, kind, atKind, operation, atOperation, error, atError, bodySize,
      atBodySize, requestId, atRequestId, reserved, atReserved, rfl⟩
    exact ⟨atVersion, atKind, atOperation, atError, atBodySize, atRequestId, atReserved⟩
  · rintro ⟨atVersion, atKind, atOperation, atError, atBodySize, atRequestId, atReserved⟩
    exact ⟨_, atVersion, _, atKind, _, atOperation, _, atError, _, atBodySize, _, atRequestId, _,
      atReserved, rfl⟩

theorem validateMessage_bounds (valid : validateMessage message = 0) :
    message.kind.toNat ≤ 2 ∧ message.operation.toNat ≤ 13 ∧ message.error.toNat ≤ 8 ∧
      message.body.length ≤ ipcMaxBodySize := by
  unfold validateMessage at valid
  split at valid
  · cases valid
  split at valid
  · cases valid
  case isFalse accepted fits =>
    simp only [Bool.or_eq_true, Bool.not_eq_true', not_or, Bool.not_eq_false, kindValid,
      operationValid, errorValid, Bool.and_eq_true, decide_eq_true_eq, beq_iff_eq,
      UInt32.le_iff_toNat_le] at accepted
    obtain ⟨⟨⟨⟨kind, -, operation⟩, -⟩, -, error⟩, -⟩ := accepted
    refine ⟨?_, operation, error, Nat.le_of_not_lt fits⟩
    rcases kind with request | response
    · rw [request]
      decide
    · rw [response]
      decide

theorem sizeAdd_header (size total : Nat) (small : size ≤ ipcMaxBodySize) :
    sizeAdd ipcHeaderSize size = some total ↔ ipcHeaderSize + size = total := by
  rw [sizeAdd, if_neg (by simp [sizeMax, ipcHeaderSize, ipcMaxBodySize] at small ⊢; omega),
    Option.some.injEq]

theorem IpcMessage.frame_length : message.frame.length = ipcHeaderSize + message.body.length := by
  rw [frame, length_append, IpcHeader.encode_length]

theorem ipcDecode_eq_ok :
    ipcDecode data = .ok message ↔ validateMessage message = 0 ∧ data = message.frame := by
  constructor
  · intro accepted
    simp only [ipcDecode, guard_eq_ok, not_not] at accepted
    obtain ⟨-, magic, accepted⟩ := accepted
    cases read : readHeader data with
    | none => simp [read] at accepted
    | some header =>
      simp only [read, guard_eq_ok, not_or, not_not, Except.ok.injEq] at accepted
      obtain ⟨version, ⟨small, sized⟩, ⟨reserved, valid⟩, rfl⟩ := accepted
      rw [sizeAdd_header _ _ (by omega)] at sized
      refine ⟨valid, ?_⟩
      have front : data.take ipcHeaderSize = header.encode := readHeader_eq_some.mp ⟨magic, read⟩
      have rest : slice data ipcHeaderSize header.bodySize.toNat = data.drop ipcHeaderSize :=
        take_of_length_le (by rw [length_drop]; omega)
      have same : header =
          IpcMessage.header ⟨header.kind.toUInt32, header.operation.toUInt32, header.requestId,
            header.error.toUInt32, slice data ipcHeaderSize header.bodySize.toNat⟩ := by
        have length : (slice data ipcHeaderSize header.bodySize.toNat).length =
            header.bodySize.toNat := by
          rw [slice_length]
          omega
        simp [IpcMessage.header, length, ← version, ← reserved]
      rw [IpcMessage.frame, ← same, ← front, rest, take_append_drop]
  · rintro ⟨valid, rfl⟩
    obtain ⟨kind, operation, error, small⟩ := validateMessage_bounds valid
    obtain ⟨magic, read⟩ := readHeader_eq_some.mpr
      (show Holds message.frame 0 message.header.encode from holds_middle [] _ _)
    have size : (UInt32.ofNat message.body.length).toNat = message.body.length :=
      UInt32.toNat_ofNat_of_lt' (Nat.lt_of_le_of_lt small (by decide))
    have rest : slice message.frame ipcHeaderSize message.body.length = message.body := by
      have middle := holds_middle message.header.encode message.body []
      rwa [append_nil] at middle
    have wide (value : UInt32) (low : value.toNat ≤ 13) : value.toUInt16.toUInt32 = value := by
      rw [← UInt32.toNat_inj]
      exact Nat.mod_eq_of_lt (by omega)
    have sized := (sizeAdd_header _ _ small).mpr rfl
    simp only [ipcDecode, guard_eq_ok, magic, read, IpcMessage.header, size, rest,
      IpcMessage.frame_length, sized, wide _ operation,
      wide message.kind (by omega), wide message.error (by omega)]
    refine ⟨by simp, by simp, by simp, ?_, by simp [valid], trivial⟩
    exact not_or.mpr ⟨Nat.not_lt.mpr small, by simp⟩

theorem ipcEncode_eq_ok : ipcEncode message outputSize = .ok data ↔
    (validateMessage message = 0 ∧ message.frame.length ≤ outputSize) ∧ message.frame = data := by
  simp only [ipcEncode, guard_eq_ok, not_not, and_assoc]
  refine and_congr_right fun valid => ?_
  rw [(sizeAdd_header _ _ (validateMessage_bounds valid).2.2.2).mpr rfl]
  simp [guard_eq_ok, IpcMessage.frame_length]

/-- A frame and its message determine each other. -/
theorem ipc_frame_canonical :
    (∀ (message : IpcMessage) (outputSize : Nat) (frame : Bytes),
      ipcEncode message outputSize = .ok frame → ipcDecode frame = .ok message) ∧
    ∀ (frame : Bytes) (message : IpcMessage) (outputSize : Nat),
      ipcDecode frame = .ok message → frame.length ≤ outputSize →
        ipcEncode message outputSize = .ok frame := by
  constructor
  · intro message outputSize frame encoded
    obtain ⟨⟨valid, -⟩, rfl⟩ := ipcEncode_eq_ok.mp encoded
    exact ipcDecode_eq_ok.mpr ⟨valid, rfl⟩
  · intro frame message outputSize decoded room
    obtain ⟨valid, rfl⟩ := ipcDecode_eq_ok.mp decoded
    exact ipcEncode_eq_ok.mpr ⟨⟨valid, room⟩, rfl⟩

end Ipc

end JanusGate
