import JanusGate.Common.Network
import JanusGate.Common.WireParse

/-!
# The stable bodies of network configurations and states

The fixed layouts of `network.c`: a configuration in requests to the helper, in
the database and in the recovery journal, and the state that the helper
answers.  What is encoded is read back as it was, and nothing else is read.
-/

namespace JanusGate

open Network Wire Layout Outcome List

namespace Network

def configVersion : UInt16 := 1

/-- `JG_NETWORK_CONFIG_WIRE_SIZE`. -/
def configWireSize : Nat := 84

def flagStp : UInt16 := 1
def flagMulticastSnooping : UInt16 := 2
def flagCpuFanout : UInt16 := 4
def flagAll : UInt16 := flagStp ||| flagMulticastSnooping ||| flagCpuFanout

def failureModeCode : NetworkFailureMode → UInt16
  | .failOpen => 1
  | .failClosed => 2

def failureModeOf (code : UInt16) : Option NetworkFailureMode :=
  if code = 1 then some .failOpen
  else if code = 2 then some .failClosed
  else none

def configFlags (config : NetworkConfig) : UInt16 :=
  (if config.stp then flagStp else 0) |||
    (if config.multicastSnooping then flagMulticastSnooping else 0) |||
    (if config.queueCpuFanout then flagCpuFanout else 0)

def nameBytes (name : String) : Bytes :=
  name.toList.map fun character => UInt8.ofNat character.toNat

def encodeName (name : String) : Bytes :=
  nameBytes name ++ replicate (interfaceNameMax + 1 - (nameBytes name).length) 0

def decodeName (data : Bytes) (offset : Nat) : Option String :=
  let slot := slice data offset (interfaceNameMax + 1)
  let name := slot.takeWhile (· != 0)
  if name.length = 0 ∨ name.length > interfaceNameMax then none
  else if (slot.drop (name.length + 1)).any (· != 0) then none
  else
    let text := String.ofList (name.map fun byte => Char.ofNat byte.toNat)
    if interfaceNameValid text then some text else none

def configBody (config : NetworkConfig) : Bytes :=
  encodeU16 configVersion ++ (encodeU16 (configFlags config) ++
    (encodeU16 (failureModeCode config.failureMode) ++
    (encodeU16 config.queueFirst ++ (encodeU16 config.queueCount ++
    (encodeU16 0 ++ (encodeU32 config.bridgeMtu ++
    (encodeU32 config.queueLength ++ (encodeName config.bridge ++
    (encodeName config.ingress ++ (encodeName config.egress ++
    encodeName config.management))))))))))

end Network

def networkConfigEncode (config : NetworkConfig) (outputSize : Nat) : Except Int Bytes :=
  if networkConfigValidate config ≠ 0 then .error (networkConfigValidate config)
  else if outputSize < configWireSize then .error eNoSpc
  else .ok (configBody config)

def networkConfigDecode (data : Bytes) : Except Int NetworkConfig :=
  if data.length ≠ configWireSize then .error eMsgSize
  else
    match readU16Be data 0, readU16Be data 2, readU16Be data 4,
      readU16Be data 6, readU16Be data 8, readU16Be data 10,
      readU32Be data 12, readU32Be data 16 with
    | some version, some flags, some failureMode, some queueFirst,
      some queueCount, some reserved, some bridgeMtu, some queueLength =>
        if version ≠ configVersion then .error eProtoNoSupport
        else if flags &&& ~~~flagAll ≠ 0 ∨ reserved ≠ 0 then .error eProto
        else
          match decodeName data 20, decodeName data 36, decodeName data 52, decodeName data 68 with
          | some bridge, some ingress, some egress, some management =>
            -- an unknown failure mode is refused with the names
            match failureModeOf failureMode with
            | none => .error eInval
            | some failureMode =>
              let decoded := {
                bridge := bridge
                ingress := ingress
                egress := egress
                management := management
                bridgeMtu := bridgeMtu
                queueFirst := queueFirst
                queueCount := queueCount
                queueLength := queueLength
                failureMode := failureMode
                stp := flags &&& flagStp != 0
                multicastSnooping := flags &&& flagMulticastSnooping != 0
                queueCpuFanout := flags &&& flagCpuFanout != 0 }
              if networkConfigValidate decoded ≠ 0 then .error (networkConfigValidate decoded)
              else .ok decoded
          | _, _, _, _ => .error eProto
    | _, _, _, _, _, _, _, _ => .error eProto

namespace Network

/-! ## Interface names -/

theorem interfaceCharacterValid_ascii (valid : interfaceCharacterValid character = true) :
    0 < character.toNat ∧ character.toNat < 256 := by
  simp only [interfaceCharacterValid, alphanumeric, Bool.or_eq_true,
    Bool.and_eq_true, decide_eq_true_eq, beq_iff_eq, Char.le_def] at valid
  have bounds : 0 < character.val.toNat ∧ character.val.toNat < 256 := by
    rcases valid with (((((⟨low, high⟩ | ⟨low, high⟩) | ⟨low, high⟩) | rfl) | rfl) | rfl)
    case inr | inl.inr | inl.inl.inr => decide
    all_goals
      exact ⟨Nat.lt_of_lt_of_le (by decide) low, Nat.lt_of_le_of_lt high (by decide)⟩
  exact bounds

section

variable (valid : interfaceNameValid name = true)

include valid

theorem interfaceNameValid_parts :
    0 < name.toList.length ∧ name.toList.length ≤ interfaceNameMax ∧ ∀ character ∈ name.toList,
        0 < character.toNat ∧ character.toNat < 256 := by
  unfold interfaceNameValid at valid
  split at valid
  case h_1 => cases valid
  case h_2 first rest split =>
    rw [split]
    simp only [Bool.and_eq_true, all_eq_true, decide_eq_true_eq] at valid
    exact ⟨Nat.succ_pos _, valid.2, fun character member =>
      interfaceCharacterValid_ascii (valid.1.2 character member)⟩

theorem nameBytes_nonzero : ∀ byte ∈ nameBytes name, (byte != 0) = true := by
  intro byte member
  obtain ⟨character, inName, rfl⟩ := mem_map.mp member
  have ascii := (interfaceNameValid_parts valid).2.2 character inName
  simp only [bne_iff_ne, ne_eq, ← UInt8.toNat_inj]
  rw [UInt8.toNat_ofNat_of_lt' ascii.2]
  exact Nat.ne_of_gt ascii.1

theorem ofList_nameBytes :
    String.ofList ((nameBytes name).map fun byte => Char.ofNat byte.toNat) = name := by
  have same : (nameBytes name).map (fun byte => Char.ofNat byte.toNat) = name.toList := by
    simp only [nameBytes, map_map]
    conv_rhs => rw [← map_id name.toList]
    refine map_congr_left fun character member => ?_
    have ascii := (interfaceNameValid_parts valid).2.2 character member
    simp only [Function.comp_apply, id_eq]
    rw [UInt8.toNat_ofNat_of_lt' ascii.2, Char.ofNat_toNat]
  rw [same, String.ofList_toList]

theorem encodeName_length : (encodeName name).length = 16 := by
  have fits := (interfaceNameValid_parts valid).2.1
  simp only [encodeName, nameBytes, length_append, length_map,
    length_replicate, interfaceNameMax] at fits ⊢
  omega

end

theorem nameBytes_ofList (bytes : Bytes) :
    nameBytes (String.ofList (bytes.map fun byte => Char.ofNat byte.toNat)) = bytes := by
  simp only [nameBytes, String.toList_ofList, map_map]
  conv_rhs => rw [← map_id bytes]
  refine map_congr_left fun byte _ => ?_
  have ascii : (Char.ofNat byte.toNat).toNat = byte.toNat :=
    (by decide +kernel : ∀ code : Fin 256, (Char.ofNat code).toNat = code) ⟨_, byte.toNat_lt⟩
  simp [ascii]

theorem decodeName_eq_some (inside : offset + (interfaceNameMax + 1) ≤ data.length) :
    decodeName data offset = some name ↔
      interfaceNameValid name = true ∧ Holds data offset (encodeName name) := by
  have length : (slice data offset (interfaceNameMax + 1)).length = interfaceNameMax + 1 := by
    rw [slice_length]
    omega
  constructor
  · intro decoded
    simp only [decodeName, Option.ite_none_left_eq_some, Option.ite_none_right_eq_some,
      Option.some.injEq] at decoded
    obtain ⟨sized, padded, valid, rfl⟩ := decoded
    refine ⟨valid, ?_⟩
    rw [Holds, encodeName_length valid, encodeName, nameBytes_ofList]
    change slice data offset (interfaceNameMax + 1) = _
    generalize slice data offset (interfaceNameMax + 1) = slot at *
    have whole := takeWhile_append_dropWhile (p := (· != 0)) (l := slot)
    have stop := head?_dropWhile_not (· != 0) slot
    generalize slot.takeWhile (· != 0) = bytes at *
    generalize slot.dropWhile (· != 0) = rest at *
    subst whole
    congr 1
    refine eq_replicate_iff.mpr ⟨by rw [← length]; simp, ?_⟩
    cases rest with
    | nil => simp
    | cons first tail =>
      have zero : first = 0 := by simpa using stop
      simpa [zero] using padded
  · rintro ⟨valid, holds⟩
    have parts := interfaceNameValid_parts valid
    have slot : slice data offset (interfaceNameMax + 1) = encodeName name :=
      slice_holds holds (encodeName_length valid)
    have nonzero := nameBytes_nonzero valid
    have taken : (encodeName name).takeWhile (· != 0) = nameBytes name := by
      rw [encodeName, takeWhile_append_of_pos nonzero]
      simp
    have padding : ((encodeName name).drop ((nameBytes name).length + 1)).any (· != 0) = false := by
      rw [encodeName, drop_append]
      simp [drop_eq_nil_of_le]
    have size : (nameBytes name).length = name.toList.length := by simp [nameBytes]
    unfold decodeName
    simp only [slot, taken, padding]
    rw [if_neg (by omega), if_neg (by simp), ofList_nameBytes valid, if_pos valid]

/-! ## Whole configurations -/

theorem networkConfigValidate_names (valid : networkConfigValidate config = 0) :
    interfaceNameValid config.bridge = true ∧ interfaceNameValid config.ingress = true ∧
      interfaceNameValid config.egress = true ∧
      interfaceNameValid config.management = true := by
  unfold networkConfigValidate at valid
  split at valid
  case isTrue => cases valid
  case isFalse accepted =>
    simp only [Bool.or_eq_true, Bool.not_eq_true', not_or, Bool.not_eq_false] at accepted
    exact ⟨accepted.1.1.1.1.1.1.1.1.1, accepted.1.1.1.1.1.1.1.1.2,
      accepted.1.1.1.1.1.1.1.2, accepted.1.1.1.1.1.1.2⟩

theorem configBody_length (valid : networkConfigValidate config = 0) :
    (configBody config).length = configWireSize := by
  obtain ⟨bridge, ingress, egress, management⟩ := networkConfigValidate_names valid
  simp [configBody, encodeName_length bridge, encodeName_length ingress, encodeName_length egress,
    encodeName_length management, configWireSize]

theorem small_of_known (bits : Nat) (ones : mask.toNat = 2 ^ bits - 1)
    (known : flags &&& ~~~mask = 0) : ∃ small : Fin (2 ^ bits), flags = UInt16.ofNat small := by
  have masked : flags &&& mask = flags := by
    rw [← UInt16.toBitVec_inj] at known ⊢
    refine BitVec.eq_of_getLsbD_eq fun index small => ?_
    have bit := congrArg (fun value => value.getLsbD index) known
    simpa [small] using bit
  have low := congrArg UInt16.toNat masked
  rw [UInt16.toNat_and, ones, Nat.and_two_pow_sub_one_eq_mod] at low
  exact ⟨⟨flags.toNat, low ▸ Nat.mod_lt _ (Nat.two_pow_pos bits)⟩, by simp⟩

theorem configFlags_eq : configFlags config = flags ↔
    flags &&& ~~~flagAll = 0 ∧ config.stp = (flags &&& flagStp != 0) ∧
      config.multicastSnooping = (flags &&& flagMulticastSnooping != 0) ∧
      config.queueCpuFanout = (flags &&& flagCpuFanout != 0) := by
  unfold configFlags
  constructor
  · rintro rfl
    cases config.stp <;> cases config.multicastSnooping <;> cases config.queueCpuFanout <;> decide
  rintro ⟨known, stp, multicastSnooping, cpuFanout⟩
  rw [stp, multicastSnooping, cpuFanout]
  clear stp multicastSnooping cpuFanout
  obtain ⟨small, rfl⟩ := small_of_known 3 rfl known
  revert small
  decide

theorem failureModeOf_eq_some : failureModeOf code = some mode ↔ failureModeCode mode = code := by
  cases mode <;> grind [failureModeOf, failureModeCode]

theorem holds_configBody (valid : networkConfigValidate config = 0) :
    Holds data 0 (configBody config) ↔
      Holds data 0 (encodeU16 configVersion) ∧ Holds data 2 (encodeU16 (configFlags config)) ∧
      Holds data 4 (encodeU16 (failureModeCode config.failureMode)) ∧
      Holds data 6 (encodeU16 config.queueFirst) ∧ Holds data 8 (encodeU16 config.queueCount) ∧
      Holds data 10 (encodeU16 0) ∧ Holds data 12 (encodeU32 config.bridgeMtu) ∧
      Holds data 16 (encodeU32 config.queueLength) ∧ Holds data 20 (encodeName config.bridge) ∧
      Holds data 36 (encodeName config.ingress) ∧ Holds data 52 (encodeName config.egress) ∧
      Holds data 68 (encodeName config.management) := by
  obtain ⟨bridge, ingress, egress, -⟩ := networkConfigValidate_names valid
  simp [configBody, holds_append, encodeName_length bridge, encodeName_length ingress,
    encodeName_length egress]

theorem networkConfigDecode_eq_ok : networkConfigDecode data = .ok config ↔
    networkConfigValidate config = 0 ∧ data = configBody config := by
  constructor
  · intro decoded
    unfold networkConfigDecode at decoded
    rw [guard_eq_ok, not_not] at decoded
    obtain ⟨length, decoded⟩ := decoded
    split at decoded
    case h_2 => cases decoded
    case h_1 version flags failureMode queueFirst queueCount reserved bridgeMtu queueLength
      atVersion atFlags atFailureMode atQueueFirst atQueueCount atReserved atBridgeMtu
      atQueueLength =>
    simp only [guard_eq_ok, not_or, not_not] at decoded
    obtain ⟨rfl, ⟨known, rfl⟩, decoded⟩ := decoded
    split at decoded
    case h_2 => cases decoded
    case h_1 bridge ingress egress management atBridge atIngress atEgress atManagement =>
    split at decoded
    case h_1 => cases decoded
    case h_2 mode named =>
    simp only [guard_eq_ok, not_not, Except.ok.injEq] at decoded
    obtain ⟨valid, rfl⟩ := decoded
    rw [decodeName_eq_some (by rw [length]; decide)] at atBridge atIngress atEgress atManagement
    have holds := (holds_configBody valid).mpr ⟨readU16Be_eq_some.mp atVersion, by
        rw [configFlags_eq.mpr ⟨known, rfl, rfl, rfl⟩]
        exact readU16Be_eq_some.mp atFlags,
      failureModeOf_eq_some.mp named ▸ readU16Be_eq_some.mp atFailureMode,
      readU16Be_eq_some.mp atQueueFirst, readU16Be_eq_some.mp atQueueCount,
      readU16Be_eq_some.mp atReserved, readU32Be_eq_some.mp atBridgeMtu,
      readU32Be_eq_some.mp atQueueLength, atBridge.2, atIngress.2, atEgress.2, atManagement.2⟩
    refine ⟨valid, ?_⟩
    exact holds.whole rfl (length.trans (configBody_length valid).symm)
  · rintro ⟨valid, rfl⟩
    obtain ⟨bridgeValid, ingressValid, egressValid, managementValid⟩ :=
      networkConfigValidate_names valid
    have length := configBody_length valid
    obtain ⟨known, stp, multicastSnooping, cpuFanout⟩ := configFlags_eq.mp rfl
    obtain ⟨version, flags, failureMode, queueFirst, queueCount, reserved, bridgeMtu, queueLength,
      bridge, ingress, egress, management⟩ := (holds_configBody valid).mp
        (show Holds (configBody config) 0 _ by simp [Holds])
    have named {name : String} {offset : Nat} (inside : offset ≤ 68)
        (valid : interfaceNameValid name = true)
        (holds : Holds (configBody config) offset (encodeName name)) :
        decodeName (configBody config) offset = some name :=
      (decodeName_eq_some (by rw [length, configWireSize, interfaceNameMax]; omega)).mpr
        ⟨valid, holds⟩
    unfold networkConfigDecode
    rw [if_neg (not_not_intro length), readU16Be_eq_some.mpr version, readU16Be_eq_some.mpr flags,
      readU16Be_eq_some.mpr failureMode, readU16Be_eq_some.mpr queueFirst,
      readU16Be_eq_some.mpr queueCount, readU16Be_eq_some.mpr reserved,
      readU32Be_eq_some.mpr bridgeMtu, readU32Be_eq_some.mpr queueLength]
    dsimp only
    rw [if_neg (not_not_intro rfl), if_neg (not_or.mpr ⟨not_not_intro known, not_not_intro rfl⟩),
      named (by decide) bridgeValid bridge, named (by decide) ingressValid ingress,
      named (by decide) egressValid egress, named (by decide) managementValid management,
      failureModeOf_eq_some.mpr rfl]
    simp only [← stp, ← multicastSnooping, ← cpuFanout]
    exact if_neg (not_not_intro valid)

theorem networkConfigEncode_eq_ok :
    networkConfigEncode config outputSize = .ok body ↔
      networkConfigValidate config = 0 ∧ configWireSize ≤ outputSize ∧
        configBody config = body := by
  simp only [networkConfigEncode, guard_eq_ok, not_not, Nat.not_lt, Except.ok.injEq]

theorem networkConfigValidate_result (config : NetworkConfig) : networkConfigValidate config = 0 ∨
      networkConfigValidate config = eInval ∨
      networkConfigValidate config = eRange := by
  unfold networkConfigValidate
  split
  · exact Or.inr (Or.inl rfl)
  dsimp only
  split
  · exact Or.inr (Or.inr rfl)
  · exact Or.inl rfl

theorem networkConfigEncode_error
    (refused : networkConfigEncode config outputSize = .error result) :
    result = eInval ∨ result = eRange ∨ result = eNoSpc := by
  unfold networkConfigEncode at refused
  split at refused
  case isTrue invalid =>
    cases refused
    rcases networkConfigValidate_result config with valid | inval | range
    · exact absurd valid invalid
    · exact Or.inl inval
    · exact Or.inr (Or.inl range)
  case isFalse =>
    split at refused
    · cases refused
      exact Or.inr (Or.inr rfl)
    · cases refused

theorem networkConfigDecode_encode (encoded : networkConfigEncode config outputSize = .ok body) :
    networkConfigDecode body = .ok config := by
  obtain ⟨valid, -, rfl⟩ := networkConfigEncode_eq_ok.mp encoded
  exact networkConfigDecode_eq_ok.mpr ⟨valid, rfl⟩

/-! ## Helper states -/

def stateVersion : UInt16 := 1

/-- `JG_NETWORK_STATE_WIRE_SIZE`. -/
def stateWireSize : Nat := 8 + 2 * configWireSize

def stateHasConfirmed : UInt16 := 1
def stateHasPending : UInt16 := 2
def stateFlagAll : UInt16 := stateHasConfirmed ||| stateHasPending

def stateFlags (state : NetworkState) : UInt16 :=
  (if state.confirmed.isSome then stateHasConfirmed else 0) |||
    (if state.pendingConfig.isSome then stateHasPending else 0)

/-- A slot of the state body; it stays cleared without a configuration. -/
def encodeSlot (slot : Option NetworkConfig) : Except Int Bytes :=
  match slot with
  | none => .ok (replicate configWireSize 0)
  | some config => networkConfigEncode config configWireSize

def bytesAreZero (data : Bytes) : Bool := data.all (· == 0)

def decodeSlot (present : Bool) (data : Bytes) : Except Int (Option NetworkConfig) :=
  if present then (networkConfigDecode data).map some
  else if !bytesAreZero data then .error eProto
  else .ok none

end Network

def networkStateEncode (state : NetworkState) (outputSize : Nat) : Except Int Bytes :=
  if state.pendingConfig = none ∧ state.confirmationSecondsRemaining ≠ 0 then .error eInval
  else if outputSize < stateWireSize then .error eNoSpc
  else do
    let confirmed ← encodeSlot state.confirmed
    let pending ← encodeSlot state.pendingConfig
    .ok (encodeU16 stateVersion ++ (encodeU16 (stateFlags state) ++
      (encodeU32 state.confirmationSecondsRemaining ++ (confirmed ++ pending))))

def networkStateDecode (data : Bytes) : Except Int NetworkState :=
  if data.length ≠ stateWireSize then .error eMsgSize
  else
    match readU16Be data 0, readU16Be data 2, readU32Be data 4 with
    | some version, some flags, some remaining =>
      if version ≠ stateVersion then .error eProtoNoSupport
      else if flags &&& ~~~stateFlagAll ≠ 0 ∨ (flags &&& stateHasPending = 0 ∧ remaining ≠ 0) then
        .error eProto
      else do
        let confirmed ← decodeSlot (flags &&& stateHasConfirmed != 0) (slice data 8 configWireSize)
        let pending ← decodeSlot (flags &&& stateHasPending != 0)
          (slice data (8 + configWireSize) configWireSize)
        .ok ⟨confirmed, pending, remaining⟩
    | _, _, _ => .error eProto

namespace Network

theorem encodeSlot_length (encoded : encodeSlot slot = .ok data) :
    data.length = configWireSize := by
  cases slot with
  | none =>
    cases encoded
    simp
  | some config =>
    obtain ⟨valid, -, rfl⟩ := networkConfigEncode_eq_ok.mp encoded
    exact configBody_length valid

theorem decodeSlot_eq_ok (length : data.length = configWireSize) :
    decodeSlot present data = .ok slot ↔ slot.isSome = present ∧ encodeSlot slot = .ok data := by
  cases present with
  | false =>
    cases slot with
    | none =>
      have zeros : replicate configWireSize 0 = data ↔ ∀ byte ∈ data, byte = 0 := by
        rw [eq_comm, eq_replicate_iff, and_iff_right length]
      simp [decodeSlot, encodeSlot, bytesAreZero, zeros]
    | some config => simp [decodeSlot, guard_eq_ok]
  | true =>
    cases slot with
    | none => simp [decodeSlot, map_eq_ok]
    | some config =>
      simp [decodeSlot, map_eq_ok, encodeSlot, networkConfigEncode_eq_ok,
        networkConfigDecode_eq_ok, @eq_comm _ data]

theorem stateFlags_eq {flags : UInt16} {state : NetworkState} :
    stateFlags state = flags ↔ flags &&& ~~~stateFlagAll = 0 ∧
      state.confirmed.isSome = (flags &&& stateHasConfirmed != 0) ∧
      state.pendingConfig.isSome = (flags &&& stateHasPending != 0) := by
  unfold stateFlags
  generalize state.confirmed.isSome = confirmed
  generalize state.pendingConfig.isSome = pending
  constructor
  · rintro rfl
    cases confirmed <;> cases pending <;> decide
  · rintro ⟨known, rfl, rfl⟩
    obtain ⟨small, rfl⟩ := small_of_known 2 rfl known
    revert small
    decide

theorem holds_slice : Holds data offset (slice data offset size) := by
  rw [Holds, slice_length, ← length_drop]
  exact take_eq_take_min.symm

theorem networkStateDecode_eq_ok (room : stateWireSize ≤ outputSize) :
    networkStateDecode data = .ok state ↔ networkStateEncode state outputSize = .ok data := by
  constructor
  · intro decoded
    unfold networkStateDecode at decoded
    rw [guard_eq_ok, not_not] at decoded
    obtain ⟨length, decoded⟩ := decoded
    split at decoded
    case h_2 => cases decoded
    case h_1 version flags remaining atVersion atFlags atRemaining =>
    simp only [guard_eq_ok, not_or, not_not, not_and, bind_eq_ok] at decoded
    obtain ⟨rfl, ⟨known, absent⟩, confirmed, atConfirmed, pending, atPending, built⟩ := decoded
    cases built
    rw [decodeSlot_eq_ok (by rw [slice_length, length]; rfl)] at atConfirmed atPending
    obtain ⟨confirmedPresent, atConfirmed⟩ := atConfirmed
    obtain ⟨pendingPresent, atPending⟩ := atPending
    simp only [networkStateEncode, guard_eq_ok, bind_eq_ok, atConfirmed, atPending]
    refine ⟨?_, Nat.not_lt.mpr room, _, rfl, _, rfl,
      congrArg Except.ok (Holds.whole ?_ rfl ?_).symm⟩
    · rintro ⟨rfl, waiting⟩
      exact waiting (absent (by simpa using pendingPresent))
    · rw [stateFlags_eq.mpr ⟨known, confirmedPresent, pendingPresent⟩]
      simp only [holds_append, encodeU16_length, encodeU32_length, encodeSlot_length atConfirmed]
      exact ⟨readU16Be_eq_some.mp atVersion, readU16Be_eq_some.mp atFlags,
        readU32Be_eq_some.mp atRemaining, holds_slice .., holds_slice ..⟩
    · simp only [length_append, encodeU16_length, encodeU32_length,
        encodeSlot_length atConfirmed, encodeSlot_length atPending, length]
      rfl
  · intro encoded
    simp only [networkStateEncode, guard_eq_ok, bind_eq_ok] at encoded
    obtain ⟨absent, -, confirmed, atConfirmed, pending, atPending, built⟩ := encoded
    have length := encodeSlot_length atConfirmed
    have pendingLength := encodeSlot_length atPending
    have holds : Holds data 0 data := by simp [Holds]
    have sized := congrArg List.length (Except.ok.inj built)
    conv at holds => arg 3; rw [← Except.ok.inj built]
    simp only [holds_append, length_append, encodeU16_length, encodeU32_length, length,
      pendingLength] at holds sized
    obtain ⟨version, flags, remaining, first, second⟩ := holds
    obtain ⟨known, confirmedPresent, pendingPresent⟩ := (@stateFlags_eq _ state).mp rfl
    unfold networkStateDecode
    rw [readU16Be_eq_some.mpr version, readU16Be_eq_some.mpr flags, readU32Be_eq_some.mpr remaining]
    simp only [guard_eq_ok, bind_eq_ok, slice_holds first length,
      slice_holds second pendingLength, decodeSlot_eq_ok length, decodeSlot_eq_ok pendingLength]
    refine ⟨not_not_intro sized.symm, not_not_intro rfl, not_or.mpr ⟨not_not_intro known, ?_⟩,
      _, ⟨confirmedPresent, atConfirmed⟩, _, ⟨pendingPresent, atPending⟩, rfl⟩
    rintro ⟨none, waiting⟩
    exact absent ⟨by simpa [none] using pendingPresent, waiting⟩

/-- Accepted configurations and states have one encoding each, which is read
back as it was, and the decoders accept nothing else. -/
theorem network_bodies_canonical :
    (∀ (config : NetworkConfig) (outputSize : Nat), networkConfigValidate config = 0 →
      configWireSize ≤ outputSize → ∃ body, networkConfigEncode config outputSize = .ok body ∧
        networkConfigDecode body = .ok config) ∧
    (∀ (state : NetworkState) (outputSize : Nat) (body : Bytes),
      networkStateEncode state outputSize = .ok body → networkStateDecode body = .ok state) ∧
    (∀ (body : Bytes) (config : NetworkConfig) (outputSize : Nat),
      networkConfigDecode body = .ok config → configWireSize ≤ outputSize →
        networkConfigEncode config outputSize = .ok body) ∧
    ∀ (body : Bytes) (state : NetworkState) (outputSize : Nat),
      networkStateDecode body = .ok state → stateWireSize ≤ outputSize →
        networkStateEncode state outputSize = .ok body := by
  refine ⟨fun config _ valid room => ?_, fun state _ body encoded => ?_,
    fun body config _ decoded room => ?_, fun body state _ decoded room => ?_⟩
  · exact ⟨_, networkConfigEncode_eq_ok.mpr ⟨valid, room, rfl⟩,
      networkConfigDecode_eq_ok.mpr ⟨valid, rfl⟩⟩
  · have room := encoded
    simp only [networkStateEncode, guard_eq_ok, Nat.not_lt] at room
    exact (networkStateDecode_eq_ok room.2.1).mpr encoded
  · obtain ⟨valid, rfl⟩ := networkConfigDecode_eq_ok.mp decoded
    exact networkConfigEncode_eq_ok.mpr ⟨valid, room, rfl⟩
  · exact (networkStateDecode_eq_ok room).mp decoded

end Network

end JanusGate
