import JanusGate.Common.Checked

/-!
# Inline-network configuration

The configuration of `network.c` and its validation.  An interface name is
the text before the terminator of its fixed array.
-/

namespace JanusGate

/-- Behavior when the userspace policy queue is unavailable. -/
inductive NetworkFailureMode where
  | failOpen
  | failClosed
  deriving DecidableEq

structure NetworkConfig where
  bridge : String
  ingress : String
  egress : String
  management : String
  bridgeMtu : UInt32
  queueFirst : UInt16
  queueCount : UInt16
  queueLength : UInt32
  failureMode : NetworkFailureMode
  stp : Bool
  multicastSnooping : Bool
  queueCpuFanout : Bool
  deriving DecidableEq

/-- A configuration is there when its presence flag is set; the bytes of an
absent one are never read. -/
structure NetworkState where
  confirmed : Option NetworkConfig
  pendingConfig : Option NetworkConfig
  confirmationSecondsRemaining : UInt32
  deriving DecidableEq

namespace Network

def interfaceNameMax : Nat := 15
def queueLengthMax : UInt32 := 1048576
def queueCountMax : UInt16 := 64

def alphanumeric (character : Char) : Bool :=
  (decide ('a' ≤ character) && decide (character ≤ 'z')) ||
    (decide ('A' ≤ character) && decide (character ≤ 'Z')) ||
    (decide ('0' ≤ character) && decide (character ≤ '9'))

def interfaceCharacterValid (character : Char) : Bool :=
  alphanumeric character || character == '_' || character == '-' || character == '.'

def interfaceNameValid (name : String) : Bool :=
  match name.toList with
  | [] => false
  | first :: rest =>
    alphanumeric first && (first :: rest).all interfaceCharacterValid &&
      decide ((first :: rest).length ≤ interfaceNameMax)

end Network

open Network

def networkConfigValidate (config : NetworkConfig) : Int :=
  if !interfaceNameValid config.bridge ||
      !interfaceNameValid config.ingress ||
      !interfaceNameValid config.egress ||
      !interfaceNameValid config.management ||
      config.bridge == config.ingress || config.bridge == config.egress ||
      config.bridge == config.management ||
      config.ingress == config.egress ||
      config.ingress == config.management ||
      config.egress == config.management then
    eInval
  else
    let queueEnd := config.queueFirst.toNat + config.queueCount.toNat
    if (config.bridgeMtu ≠ 0 ∧ (config.bridgeMtu < 1280 ∨ config.bridgeMtu > 65535)) ∨
        config.queueCount = 0 ∨ config.queueCount > queueCountMax ∨
        queueEnd > 65536 ∨ config.queueLength = 0 ∨
        config.queueLength > queueLengthMax then
      eRange
    else 0

namespace Network

/-- A valid configuration has a nonempty queue range inside the 16-bit queue
numbers. -/
theorem networkConfigValidate_queues (valid : networkConfigValidate config = 0) :
    0 < config.queueCount.toNat ∧ config.queueFirst.toNat + config.queueCount.toNat ≤ 65536 := by
  unfold networkConfigValidate at valid
  split at valid
  · cases valid
  dsimp only at valid
  split at valid
  · cases valid
  case isFalse accepted =>
    simp only [not_or] at accepted
    obtain ⟨_, nonzero, _, inside, _⟩ := accepted
    have positive : config.queueCount.toNat ≠ 0 := by
      intro zero
      exact nonzero (UInt16.toNat.inj zero)
    omega

end Network

end JanusGate
