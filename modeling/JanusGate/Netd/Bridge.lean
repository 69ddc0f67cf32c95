import JanusGate.Foundation.Crash
import JanusGate.Netd.Transaction
import Mathlib.Data.List.Nodup

/-!
# The data-bridge transaction

`jg_netd_apply_bridge` and `jg_netd_restore_bridge` of `bridge.c`, with the
link queries and the validation of `rtnetlink.c`, over a kernel that keeps a
list of links.  The kernel may refuse any request.  A refused request may have
changed a part of what it asked for; the creation and the deletion of a link
are all or nothing.
-/

namespace JanusGate.Netd

open Crash List

def intMax : UInt32 := 0x7fffffff
def iffUp : UInt32 := 1

/-! ## The kernel's links -/

/-- The state of one link that the helper reads or writes.  A link that is no
bridge reports no bridge settings. -/
@[ext]
structure LinkState where
  master : UInt32
  mtu : UInt32
  flags : UInt32
  bridge : Bool
  owned : Bool
  stp : Option Bool
  multicastSnooping : Option Bool
  addressed : Bool
  deriving DecidableEq

@[ext]
structure Link where
  index : UInt32
  name : String
  state : LinkState
  deriving DecidableEq

def Link.update (index : UInt32) (change : LinkState → LinkState) (link : Link) : Link :=
  if link.index = index then { link with state := change link.state } else link

variable (index : UInt32)

section

variable (change : LinkState → LinkState) (link : Link)

@[simp] theorem Link.update_index : (link.update index change).index = link.index := by
  unfold Link.update
  split <;> rfl

@[simp] theorem Link.update_name : (link.update index change).name = link.name := by
  unfold Link.update
  split <;> rfl

end

def Link.released (index : UInt32) (link : Link) : Link :=
  if link.state.master = index then { link with state := { link.state with master := 0 } }
  else link

@[simp] theorem Link.released_index (link : Link) : (link.released index).index = link.index := by
  unfold Link.released
  split <;> rfl

@[simp] theorem Link.released_name (link : Link) : (link.released index).name = link.name := by
  unfold Link.released
  split <;> rfl

/-- The links of the kernel: indexes are positive, indexes and names are
unique. -/
@[ext]
structure KernelLinks where
  links : List Link
  positive : ∀ link ∈ links, link.index ≠ 0
  indexes : (links.map Link.index).Nodup
  names : (links.map Link.name).Nodup

variable {change : Link → Link}

theorem map_keeps (kept : ∀ link, (change link).index = link.index)
    (named : ∀ link, (change link).name = link.name) (links : List Link) :
    (links.map change).map Link.index = links.map Link.index ∧
      (links.map change).map Link.name = links.map Link.name := by
  rw [map_map, map_map]
  exact ⟨map_congr_left fun link _ => kept link, map_congr_left fun link _ => named link⟩

theorem map_positive (kept : ∀ link, (change link).index = link.index) {links : List Link}
    (positive : ∀ link ∈ links, link.index ≠ 0) : ∀ link ∈ links.map change, link.index ≠ 0 := by
  intro link member
  obtain ⟨before, beforeMember, rfl⟩ := mem_map.mp member
  rw [kept]
  exact positive before beforeMember

section

variable (kernel : KernelLinks)

/-- Change every link in a way that keeps its index and its name. -/
def KernelLinks.mapLinks (change : Link → Link) (kept : ∀ link, (change link).index = link.index)
    (named : ∀ link, (change link).name = link.name) : KernelLinks where
  links := kernel.links.map change
  positive := map_positive kept kernel.positive
  indexes := (map_keeps kept named kernel.links).1 ▸ kernel.indexes
  names := (map_keeps kept named kernel.links).2 ▸ kernel.names

variable (index : UInt32)

def KernelLinks.update (change : LinkState → LinkState) : KernelLinks :=
  kernel.mapLinks (Link.update index change) (Link.update_index index change)
    (Link.update_name index change)

@[simp] theorem KernelLinks.update_links (change : LinkState → LinkState) :
    (kernel.update index change).links = kernel.links.map (Link.update index change) := rfl

/-- Remove the link with one index and release its ports. -/
def KernelLinks.delete : KernelLinks :=
  KernelLinks.mapLinks
    { links := kernel.links.filter (·.index ≠ index)
      positive := fun link member => kernel.positive link (mem_of_mem_filter member)
      indexes := kernel.indexes.sublist (filter_sublist.map _)
      names := kernel.names.sublist (filter_sublist.map _) }
    (Link.released index) (Link.released_index index)
    (Link.released_name index)

@[simp] theorem KernelLinks.delete_links :
    (kernel.delete index).links =
      (kernel.links.filter (·.index ≠ index)).map (Link.released index) := rfl

/-- An index and a name that the kernel can give to a new link. -/
def KernelLinks.Unused (name : String) : Prop :=
  index ≠ 0 ∧ ∀ link ∈ kernel.links,
    link.index ≠ index ∧ link.name ≠ name ∧ link.state.master ≠ index
  deriving Decidable

end

section

variable {kernel : KernelLinks} {link : Link} (unused : kernel.Unused link.index link.name)

include unused

theorem KernelLinks.Unused.positive : ∀ other ∈ kernel.links ++ [link], other.index ≠ 0 :=
  forall_mem_append.mpr ⟨kernel.positive, forall_mem_singleton.mpr unused.1⟩

theorem KernelLinks.Unused.indexes : ((kernel.links ++ [link]).map Link.index).Nodup := by
  rw [map_append, map_singleton]
  refine kernel.indexes.append (nodup_singleton _) ?_
  intro index earlier last
  obtain ⟨other, member, rfl⟩ := mem_map.mp earlier
  exact (unused.2 other member).1 (mem_singleton.mp last)

theorem KernelLinks.Unused.names : ((kernel.links ++ [link]).map Link.name).Nodup := by
  rw [map_append, map_singleton]
  refine kernel.names.append (nodup_singleton _) ?_
  intro name earlier last
  obtain ⟨other, member, rfl⟩ := mem_map.mp earlier
  exact (unused.2 other member).2.1 (mem_singleton.mp last)

end

def KernelLinks.add (kernel : KernelLinks) (link : Link)
    (unused : kernel.Unused link.index link.name) : KernelLinks where
  links := kernel.links ++ [link]
  positive := unused.positive
  indexes := unused.indexes
  names := unused.names

/-! ## Link queries -/

abbrev Errno := { status : Int // status < 0 }

/-- `struct jg_netd_link`: the effective state of one link. -/
structure NetdLink where
  index : UInt32
  masterIndex : UInt32
  mtu : UInt32
  flags : UInt32
  bridge : Bool
  owned : Bool
  stp : Bool
  multicastSnooping : Bool
  bridgeSettingsValid : Bool
  deriving DecidableEq

/-- What the kernel's answer about a link decodes to. -/
def Link.report (link : Link) : NetdLink where
  index := link.index
  masterIndex := link.state.master
  mtu := link.state.mtu
  flags := link.state.flags
  bridge := link.state.bridge
  owned := link.state.owned
  stp := link.state.bridge && link.state.stp.getD false
  multicastSnooping := link.state.bridge && link.state.multicastSnooping.getD false
  bridgeSettingsValid :=
    link.state.bridge && link.state.stp.isSome && link.state.multicastSnooping.isSome

def KernelLinks.named (kernel : KernelLinks) (name : String) : Option Link :=
  kernel.links.find? (·.name = name)

variable (fault : Option Errno)

/-- `jg_netd_query_link`, with the failure of a system call it makes. -/
def queryLink (name : String) (kernel : KernelLinks) : Except Int NetdLink :=
  match fault with
  | some error => .error error
  | none =>
    match kernel.named name with
    | none => .error eNoDev
    | some link =>
      if link.index > intMax then .error eRange
      else if link.state.mtu = 0 then .error eProto
      else .ok link.report

/-- The failures of the system calls that the validation makes. -/
structure ValidateCalls where
  ingress : Option Errno
  egress : Option Errno
  management : Option Errno
  bridge : Option Errno
  interfaces : Option Errno
  members : UInt32 → Option Errno
  addresses : Option Errno

/-- Reject unconfigured ports attached to an existing owned bridge. -/
def validateBridgeMembers (calls : ValidateCalls) (bridge ingress egress : NetdLink)
    (kernel : KernelLinks) : Except Int Unit :=
  match calls.interfaces with
  | some error => .error error
  | none =>
    kernel.links.forM fun link =>
      if link.index ≠ ingress.index ∧ link.index ≠ egress.index ∧ link.index ≠ bridge.index then
        match queryLink (calls.members link.index) link.name kernel with
        | .error status => .error status
        | .ok found => if found.masterIndex = bridge.index then .error eBusy else .ok ()
      else .ok ()

def validateDataAddresses (calls : ValidateCalls) (config : NetworkConfig)
    (bridgeExists : Bool) (kernel : KernelLinks) : Except Int Unit :=
  match calls.addresses with
  | some error => .error error
  | none =>
    if kernel.links.any fun link => link.state.addressed &&
        (link.name == config.ingress || link.name == config.egress ||
          (bridgeExists && link.name == config.bridge)) then
      .error eAddrInUse
    else .ok ()

def validateBridge (calls : ValidateCalls) (config : NetworkConfig)
    (kernel : KernelLinks) : Except Int (Option NetdLink) :=
  match queryLink calls.bridge config.bridge kernel with
  | .ok bridge =>
    if !bridge.bridge || !bridge.owned || !bridge.bridgeSettingsValid then .error eExist
    else .ok (some bridge)
  | .error status => if status = eNoDev then .ok none else .error status

def foreignMaster (bridge : Option NetdLink) (port : NetdLink) : Bool :=
  port.masterIndex ≠ 0 &&
    match bridge with
    | none => true
    | some bridge => port.masterIndex ≠ bridge.index

def safeMtu (config : NetworkConfig) (ingress egress : NetdLink) : Except Int UInt32 :=
  let smallest := if ingress.mtu < egress.mtu then ingress.mtu else egress.mtu
  if smallest < 1280 ∨ (config.bridgeMtu ≠ 0 ∧ config.bridgeMtu > smallest) then .error eRange
  else if config.bridgeMtu ≠ 0 then .ok config.bridgeMtu
  else .ok smallest

def validateLiveConfig (calls : ValidateCalls) (config : NetworkConfig)
    (kernel : KernelLinks) : Except Int UInt32 := do
  if networkConfigValidate config ≠ 0 then throw (networkConfigValidate config)
  let ingress ← queryLink calls.ingress config.ingress kernel
  let egress ← queryLink calls.egress config.egress kernel
  let management ← queryLink calls.management config.management kernel
  let bridge ← validateBridge calls config kernel
  if ingress.bridge || egress.bridge || foreignMaster bridge ingress ||
      foreignMaster bridge egress then
    throw eBusy
  match bridge with
  | none => pure ()
  | some bridge =>
    if management.masterIndex = bridge.index then throw eInval
    validateBridgeMembers calls bridge ingress egress kernel
  validateDataAddresses calls config bridge.isSome kernel
  safeMtu config ingress egress

/-! ## Requests -/

/-- What becomes of a request: it is done, or refused with a part of it left
behind. -/
inductive RequestFate (α : Type) where
  | done
  | failed (error : Errno) (left : Option α)

def request {α : Type} (fate : RequestFate α) (index : UInt32) (wanted : α)
    (change : α → LinkState → LinkState) : Proc KernelLinks Unit :=
  fun kernel =>
    match fate with
    | .done => (kernel.update index (change wanted), .returned ())
    | .failed error none => (kernel, .failed error)
    | .failed error (some left) => (kernel.update index (change left), .failed error)

def setMaster (fate : RequestFate UInt32) (index master : UInt32) : Proc KernelLinks Unit :=
  request fate index master fun master state => { state with master := master }

def setUp (up : Bool) (flags : UInt32) : UInt32 :=
  if up then flags ||| iffUp else flags &&& ~~~iffUp

def setLinkUp (fate : RequestFate Bool) (index : UInt32) (up : Bool) : Proc KernelLinks Unit :=
  request fate index up fun up state => { state with flags := setUp up state.flags }

/-- The attributes that `configure_bridge` sends. -/
structure BridgeSettings where
  mtu : UInt32
  owned : Bool
  stp : Option Bool
  multicastSnooping : Option Bool
  deriving DecidableEq

def configureBridge (fate : RequestFate BridgeSettings) (index mtu : UInt32)
    (stp multicastSnooping : Bool) : Proc KernelLinks Unit :=
  request fate index
    { mtu := mtu
      owned := true
      stp := some stp
      multicastSnooping := some multicastSnooping }
    fun settings state =>
      { state with
        mtu := settings.mtu
        owned := settings.owned
        stp := settings.stp
        multicastSnooping := settings.multicastSnooping }

/-- What the kernel decides about a bridge that it creates. -/
structure CreatedBridge where
  index : UInt32
  mtu : UInt32
  flags : UInt32
  stp : Bool
  multicastSnooping : Bool

/-- A bridge as the kernel creates it: empty, with our alias. -/
def newBridge (created : CreatedBridge) (name : String) : Link where
  index := created.index
  name := name
  state := {
    master := 0
    mtu := created.mtu
    flags := created.flags
    bridge := true
    owned := true
    stp := some created.stp
    multicastSnooping := some created.multicastSnooping
    addressed := false }

/-- Create one down, empty, explicitly owned Linux bridge.  The kernel refuses
the name of an existing link and gives out an index that no link has. -/
def createBridge (answer : Except Errno CreatedBridge) (config : NetworkConfig) :
    Proc KernelLinks Unit := fun kernel =>
  match answer with
  | .error error => (kernel, .failed error)
  | .ok created =>
    if unused : kernel.Unused created.index config.bridge then
      (kernel.add (newBridge created config.bridge) unused, .returned ())
    else (kernel, .failed eExist)

def deleteLink (index : UInt32) : Proc KernelLinks Unit := fun kernel =>
  match fault with
  | some error => (kernel, .failed error)
  | none => (kernel.delete index, .returned ())

/-! ## The transaction -/

structure BridgeCheckpoint where
  bridge : Option NetdLink
  ingress : NetdLink
  egress : NetdLink
  bridgeIndex : UInt32
  effectiveMtu : UInt32
  valid : Bool
  deriving DecidableEq

structure ApplyCalls where
  validate : ValidateCalls
  ingress : Option Errno
  egress : Option Errno
  bridge : Option Errno
  connect : Option Errno
  create : Except Errno CreatedBridge
  effective : Option Errno
  discovered : Bool
  configure : RequestFate BridgeSettings
  masterIngress : RequestFate UInt32
  masterEgress : RequestFate UInt32
  upIngress : RequestFate Bool
  upEgress : RequestFate Bool
  upBridge : RequestFate Bool

structure UndoCalls where
  masterIngress : RequestFate UInt32
  masterEgress : RequestFate UInt32
  upIngress : RequestFate Bool
  upEgress : RequestFate Bool
  configure : RequestFate BridgeSettings
  upBridge : RequestFate Bool
  delete : Option Errno

def UndoCalls.succeeding : UndoCalls where
  masterIngress := .done
  masterEgress := .done
  upIngress := .done
  upEgress := .done
  configure := .done
  upBridge := .done
  delete := none

/-- Read the links; a failing read changes nothing. -/
def inspect {α : Type} (read : KernelLinks → Except Int α) : Proc KernelLinks α := fun kernel =>
  match read kernel with
  | .ok value => (kernel, .returned value)
  | .error status => (kernel, .failed status)

def openConnection (_ : KernelLinks) : Except Int Unit :=
  match fault with
  | some error => .error error
  | none => .ok ()

/-- The existing bridge, or `none` where the kernel has no such link. -/
def captureBridge (config : NetworkConfig) (kernel : KernelLinks) : Except Int (Option NetdLink) :=
  match queryLink fault config.bridge kernel with
  | .ok bridge => .ok (some bridge)
  | .error status => if status = eNoDev then .ok none else .error status

variable (calls : ApplyCalls)

/-- Capture all state required for complete bridge rollback.  The bridge is
`none` where the source has `bridge_existed` false. -/
def captureSnapshot (config : NetworkConfig)
    (kernel : KernelLinks) : Except Int BridgeCheckpoint := do
  let effectiveMtu ← validateLiveConfig calls.validate config kernel
  let ingress ← queryLink calls.ingress config.ingress kernel
  let egress ← queryLink calls.egress config.egress kernel
  let bridge ← captureBridge calls.bridge config kernel
  pure {
    bridge := bridge
    ingress := ingress
    egress := egress
    bridgeIndex := 0
    effectiveMtu := effectiveMtu
    valid := false }

def NetdLink.up (link : NetdLink) : Bool := link.flags &&& iffUp ≠ 0

variable (undo : UndoCalls) (snapshot : BridgeCheckpoint)

def rollbackOwnBridge : List (Proc KernelLinks Unit) :=
  match snapshot.bridge with
  | some bridge =>
    [configureBridge undo.configure bridge.index bridge.mtu bridge.stp bridge.multicastSnooping,
      setLinkUp undo.upBridge bridge.index bridge.up]
  | none =>
    [if snapshot.bridgeIndex = 0 then fail eNoDev
      else deleteLink undo.delete snapshot.bridgeIndex]

/-- Restore captured link ownership, configuration, and state.  Every request
is made, and the first failure is the result. -/
def rollbackBridge : Proc KernelLinks Unit :=
  tryAll ([setMaster undo.masterIngress snapshot.ingress.index snapshot.ingress.masterIndex,
      setMaster undo.masterEgress snapshot.egress.index snapshot.egress.masterIndex,
      setLinkUp undo.upIngress snapshot.ingress.index snapshot.ingress.up,
      setLinkUp undo.upEgress snapshot.egress.index snapshot.egress.up] ++
      rollbackOwnBridge undo snapshot)

/-- The end of an application that failed after its first change. -/
def rolledBack (status : Int) : Proc KernelLinks BridgeCheckpoint := do
  match ← attempt (rollbackBridge undo snapshot) with
  | .ok _ => fail status
  | .error _ => fail eIo

variable (config : NetworkConfig)

/-- The requests that put a configuration into effect. -/
def changeBridge (snapshot : BridgeCheckpoint) : Proc KernelLinks Unit := do
  configureBridge calls.configure snapshot.bridgeIndex snapshot.effectiveMtu
    config.stp config.multicastSnooping
  setMaster calls.masterIngress snapshot.ingress.index snapshot.bridgeIndex
  setMaster calls.masterEgress snapshot.egress.index snapshot.bridgeIndex
  setLinkUp calls.upIngress snapshot.ingress.index true
  setLinkUp calls.upEgress snapshot.egress.index true
  setLinkUp calls.upBridge snapshot.bridgeIndex true

def changeOrRollback (snapshot : BridgeCheckpoint) : Proc KernelLinks BridgeCheckpoint := do
  match ← attempt (changeBridge calls config snapshot) with
  | .ok _ => pure { snapshot with valid := true }
  | .error status => rolledBack undo snapshot status

/-- `if_nametoindex` for a bridge that was created but could not be queried;
zero where the name is not found. -/
def discoveredIndex (discovered : Bool) (config : NetworkConfig) (kernel : KernelLinks) : UInt32 :=
  if discovered then ((kernel.named config.bridge).map Link.index).getD 0 else 0

def createAndChange (snapshot : BridgeCheckpoint) : Proc KernelLinks BridgeCheckpoint := do
  createBridge calls.create config
  match ← attempt (inspect (queryLink calls.effective config.bridge)) with
  | .ok effective =>
    changeOrRollback calls undo config { snapshot with bridgeIndex := effective.index }
  | .error status => do
      let index ← look (discoveredIndex calls.discovered config)
      rolledBack undo { snapshot with bridgeIndex := index } status

def applyBridge : Proc KernelLinks BridgeCheckpoint := do
  let snapshot ← inspect (captureSnapshot calls config)
  inspect (openConnection calls.connect)
  match snapshot.bridge with
  | some _ => do
      let effective ← inspect (queryLink calls.effective config.bridge)
      changeOrRollback calls undo config { snapshot with bridgeIndex := effective.index }
  | none => createAndChange calls undo config snapshot

/-- `jg_netd_restore_bridge`; the checkpoint is consumed on success. -/
def restoreBridge (connect : Option Errno) (undo : UndoCalls)
    (checkpoint : BridgeCheckpoint) : Proc KernelLinks BridgeCheckpoint :=
  if !checkpoint.valid then fail eInval
  else do
    inspect (openConnection connect)
    rollbackBridge undo checkpoint
    pure { checkpoint with valid := false }

end JanusGate.Netd
