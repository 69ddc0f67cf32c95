import JanusGate.Netd.Bridge

/-!
# The bridge transaction is undone

Between the first change and the undo, every link is as it was except for what
the transaction may touch: the master and the UP flag of the two ports, the
settings and the UP flag of the bridge, and a bridge of its own.  From any such
state the undo leads back to the captured one.
-/

namespace JanusGate.Netd

open Crash Outcome List

/-! ## The UP flag -/

theorem iffUp_bit (bit : Nat) : iffUp.toBitVec.getLsbD bit = decide (bit = 0) := by
  rw [show iffUp.toBitVec = 1#32 from rfl, BitVec.getLsbD_one]
  simp

theorem setUp_bit (up : Bool) (flags : UInt32) (inside : bit < 32) :
    (setUp up flags).toBitVec.getLsbD bit = if bit = 0 then up else flags.toBitVec.getLsbD bit := by
  cases up with
  | true =>
    rw [setUp, if_pos rfl, UInt32.toBitVec_or, BitVec.getLsbD_or, iffUp_bit]
    by_cases lowest : bit = 0 <;> simp [lowest]
  | false =>
    rw [setUp, if_neg (by decide), UInt32.toBitVec_and, BitVec.getLsbD_and,
      UInt32.toBitVec_not, BitVec.getLsbD_not, iffUp_bit]
    by_cases lowest : bit = 0 <;> simp [lowest, inside]

theorem setUp_setUp (first second : Bool) (flags : UInt32) :
    setUp second (setUp first flags) = setUp second flags := by
  apply UInt32.toBitVec_inj.mp
  apply BitVec.eq_of_getLsbD_eq
  intro bit inside
  simp only [setUp_bit _ _ inside]
  split <;> rfl

theorem up_bit (link : NetdLink) : link.up = link.flags.toBitVec.getLsbD 0 := by
  have masked : (link.flags &&& iffUp).toNat = link.flags.toNat % 2 := by exact Nat.and_one_is_mod _
  have lowest : link.flags.toBitVec.getLsbD 0 = decide (link.flags.toNat % 2 = 1) :=
    Nat.testBit_zero _
  rw [lowest, NetdLink.up, decide_eq_decide, ne_eq, ← UInt32.toNat_inj, masked]
  exact Nat.mod_two_ne_zero

theorem setUp_up (link : NetdLink) : setUp link.up link.flags = link.flags := by
  apply UInt32.toBitVec_inj.mp
  apply BitVec.eq_of_getLsbD_eq
  intro bit inside
  rw [setUp_bit _ _ inside]
  split
  · next lowest => rw [up_bit, lowest]
  · rfl

/-! ## What the transaction may touch -/

/-- `after` is `before` up to what the transaction may have changed. -/
structure Altered (snapshot : BridgeCheckpoint) (before after : Link) : Prop where
  index : after.index = before.index
  name : after.name = before.name
  kind : after.state.bridge = before.state.bridge
  addressed : after.state.addressed = before.state.addressed
  master : before.index ≠ snapshot.ingress.index → before.index ≠ snapshot.egress.index →
      after.state.master = before.state.master
  settings : before.index ≠ snapshot.bridgeIndex → after.state.mtu = before.state.mtu ∧
      after.state.owned = before.state.owned ∧
      after.state.stp = before.state.stp ∧
      after.state.multicastSnooping = before.state.multicastSnooping
  flags : after.state.flags = before.state.flags ∨ (before.index = snapshot.ingress.index ∨
        before.index = snapshot.egress.index ∨
        before.index = snapshot.bridgeIndex) ∧
      ∃ up, after.state.flags = setUp up before.state.flags

variable (snapshot : BridgeCheckpoint)

theorem Altered.refl (link : Link) : Altered snapshot link link :=
  ⟨rfl, rfl, rfl, rfl, fun _ _ => rfl, fun _ => ⟨rfl, rfl, rfl, rfl⟩, .inl rfl⟩

section Requests

variable {snapshot : BridgeCheckpoint} {before after : Link} {index : UInt32}
  (altered : Altered snapshot before after)

include altered

theorem Altered.setMaster (port : index = snapshot.ingress.index ∨ index = snapshot.egress.index)
    (master : UInt32) :
    Altered snapshot before (after.update index fun state => { state with master := master }) := by
  unfold Link.update
  split
  · next here =>
    refine { altered with master := ?_ }
    intro notIngress notEgress
    rw [altered.index] at here
    rcases port with ingress | egress
    · exact absurd (here.trans ingress) notIngress
    · exact absurd (here.trans egress) notEgress
  · exact altered

theorem Altered.setLinkUp (ours : index = snapshot.ingress.index ∨
      index = snapshot.egress.index ∨ index = snapshot.bridgeIndex)
    (up : Bool) :
    Altered snapshot before (after.update index fun state =>
        { state with flags := setUp up state.flags }) := by
  unfold Link.update
  split
  · next here =>
    refine { altered with flags := .inr ⟨?_, up, ?_⟩ }
    · rw [← altered.index, here]
      exact ours
    · rcases altered.flags with same | ⟨_, earlier, changed⟩
      · rw [← same]
      · simp only [changed, setUp_setUp]
  · exact altered

theorem Altered.configure (ours : index = snapshot.bridgeIndex) (settings : BridgeSettings) :
    Altered snapshot before (after.update index fun state =>
        { state with
          mtu := settings.mtu
          owned := settings.owned
          stp := settings.stp
          multicastSnooping := settings.multicastSnooping }) := by
  unfold Link.update
  split
  · next here =>
    refine { altered with settings := ?_ }
    intro notBridge
    rw [altered.index, ours] at here
    exact absurd here notBridge
  · exact altered

end Requests

/-- The links of a kernel while a transaction is under way: the links of the
start, altered, and the bridge that the transaction created. -/
def Touched (start : KernelLinks) (snapshot : BridgeCheckpoint) (kernel : KernelLinks) : Prop :=
  ∃ kept created, kernel.links = kept ++ created ∧
    List.Forall₂ (Altered snapshot) start.links kept ∧
    ∀ link ∈ created, snapshot.bridge = none ∧ link.index = snapshot.bridgeIndex

variable {index : UInt32}

section Touching

variable {start kernel : KernelLinks} {snapshot : BridgeCheckpoint}

theorem Touched.untouched (snapshot : BridgeCheckpoint) : Touched start snapshot start :=
  ⟨start.links, [], by simp,
    forall₂_same.mpr fun link _ => Altered.refl snapshot link, by simp⟩

theorem Touched.update (touched : Touched start snapshot kernel)
    (alters : ∀ before after, Altered snapshot before after →
      Altered snapshot before (after.update index change)) :
    Touched start snapshot (kernel.update index change) := by
  obtain ⟨kept, created, links, altered, ours⟩ := touched
  refine ⟨kept.map (Link.update index change), created.map (Link.update index change), ?_, ?_, ?_⟩
  · rw [KernelLinks.update_links, links, map_append]
  · rw [forall₂_map_right_iff]
    exact altered.imp fun before after holds => alters before after holds
  · intro link member
    obtain ⟨earlier, earlierMember, rfl⟩ := mem_map.mp member
    rw [Link.update_index]
    exact ours earlier earlierMember

theorem Touched.validated (touched : Touched start snapshot kernel) :
    Touched start { snapshot with valid := true } kernel := by
  obtain ⟨kept, created, links, altered, ours⟩ := touched
  refine ⟨kept, created, links, altered.imp ?_, ours⟩
  intro before after holds
  exact { holds with }

theorem request_completes {α : Type} (fate : RequestFate α) (index : UInt32)
    (wanted : α) {change : α → LinkState → LinkState}
    (alters : ∀ value before after, Altered snapshot before after →
      Altered snapshot before (after.update index (change value))) :
    Completes (Touched start snapshot) (request fate index wanted change)
      (fun _ => Touched start snapshot)
      fun _ => Touched start snapshot := by
  intro kernel touched
  cases fate with
  | done => exact touched.update (alters wanted)
  | failed error left =>
    cases left with
    | none => exact touched
    | some left => exact touched.update (alters left)

theorem changeBridge_completes (calls : ApplyCalls) (config : NetworkConfig) :
    Completes (Touched start snapshot) (changeBridge calls config snapshot)
      (fun _ => Touched start snapshot)
      fun _ => Touched start snapshot := by
  refine .bind (request_completes _ _ _ ?_) fun _ =>
    .bind (request_completes _ _ _ ?_) fun _ =>
    .bind (request_completes _ _ _ ?_) fun _ =>
    .bind (request_completes _ _ _ ?_) fun _ =>
    .bind (request_completes _ _ _ ?_) fun _ => request_completes _ _ _ ?_
  · exact fun settings _ _ altered => altered.configure rfl settings
  · exact fun master _ _ altered => altered.setMaster (.inl rfl) master
  · exact fun master _ _ altered => altered.setMaster (.inr rfl) master
  · exact fun up _ _ altered => altered.setLinkUp (.inl rfl) up
  · exact fun up _ _ altered => altered.setLinkUp (.inr (.inl rfl)) up
  · exact fun up _ _ altered => altered.setLinkUp (.inr (.inr rfl)) up

end Touching

/-! ## The undo -/

/-- What a checkpoint knows about the links before the transaction. -/
structure Captured (start : KernelLinks) (snapshot : BridgeCheckpoint) : Prop where
  ingress : ∀ link ∈ start.links, link.index = snapshot.ingress.index →
    snapshot.ingress = link.report
  egress : ∀ link ∈ start.links, link.index = snapshot.egress.index → snapshot.egress = link.report
  existing : ∀ bridge, snapshot.bridge = some bridge → bridge.index = snapshot.bridgeIndex ∧
      ∀ link ∈ start.links, link.index = bridge.index → bridge = link.report
  created : snapshot.bridge = none → snapshot.bridgeIndex ≠ 0 ∧
      ∀ link ∈ start.links, link.index ≠ snapshot.bridgeIndex ∧
        link.state.master ≠ snapshot.bridgeIndex

def undoPorts (snapshot : BridgeCheckpoint) (link : Link) : Link :=
  (((link.update snapshot.ingress.index fun state =>
      { state with master := snapshot.ingress.masterIndex }).update
    snapshot.egress.index fun state => { state with master := snapshot.egress.masterIndex }).update
    snapshot.ingress.index fun state =>
      { state with flags := setUp snapshot.ingress.up state.flags }).update
    snapshot.egress.index fun state => { state with flags := setUp snapshot.egress.up state.flags }

def undoBridge (bridge : NetdLink) (link : Link) : Link :=
  (link.update bridge.index fun state =>
      { state with
        mtu := bridge.mtu
        owned := true
        stp := some bridge.stp
        multicastSnooping := some bridge.multicastSnooping }).update
    bridge.index fun state => { state with flags := setUp bridge.up state.flags }

theorem request_done {α : Type} (index : UInt32) (wanted : α)
    (change : α → LinkState → LinkState) (kernel : KernelLinks) :
    request .done index wanted change kernel =
      (kernel.update index (change wanted), .returned ()) := rfl

def KernelLinks.undoPorts (kernel : KernelLinks) (snapshot : BridgeCheckpoint) : KernelLinks :=
  kernel.mapLinks (Netd.undoPorts snapshot) (fun link => by simp [Netd.undoPorts])
    (fun link => by simp [Netd.undoPorts])

@[simp] theorem KernelLinks.undoPorts_links (kernel : KernelLinks) (snapshot : BridgeCheckpoint) :
    (kernel.undoPorts snapshot).links = kernel.links.map (Netd.undoPorts snapshot) := rfl

theorem rollbackBridge_ports (kernel : KernelLinks) :
    rollbackBridge .succeeding snapshot kernel = tryAll (rollbackOwnBridge .succeeding snapshot)
        (kernel.undoPorts snapshot) := by
  refine (tryAll_cons_returned (request_done ..)).trans
    ((tryAll_cons_returned (request_done ..)).trans ((tryAll_cons_returned (request_done ..)).trans
        ((tryAll_cons_returned (request_done ..)).trans (congrArg _ (KernelLinks.ext ?_)))))
  simp only [KernelLinks.update_links, map_map]
  rfl

variable {bridge : NetdLink}

theorem rollbackOwnBridge_existing {snapshot : BridgeCheckpoint}
    (existing : snapshot.bridge = some bridge) (kernel : KernelLinks) :
    ∃ undone, tryAll (rollbackOwnBridge .succeeding snapshot) kernel = (undone, .returned ()) ∧
      undone.links = kernel.links.map (undoBridge bridge) := by
  unfold rollbackOwnBridge
  rw [existing]
  refine ⟨_, (tryAll_cons_returned (request_done ..)).trans
    (tryAll_cons_returned (request_done ..)), ?_⟩
  rw [KernelLinks.update_links, KernelLinks.update_links, map_map]
  rfl

theorem deleteLink_done (index : UInt32) (kernel : KernelLinks) :
    deleteLink none index kernel = (kernel.delete index, .returned ()) := rfl

theorem rollbackOwnBridge_created {snapshot : BridgeCheckpoint} (created : snapshot.bridge = none)
    (known : snapshot.bridgeIndex ≠ 0) (kernel : KernelLinks) :
    tryAll (rollbackOwnBridge .succeeding snapshot) kernel =
      (kernel.delete snapshot.bridgeIndex, .returned ()) := by
  unfold rollbackOwnBridge
  rw [created]
  rw [if_neg known]
  exact tryAll_cons_returned (deleteLink_done ..)

section Undo

variable {start kernel : KernelLinks} {snapshot : BridgeCheckpoint} {before after : Link}

theorem Altered.restoreUp (altered : Altered snapshot before after) :
    setUp before.report.up after.state.flags = before.state.flags := by
  have captured := setUp_up before.report
  rcases altered.flags with same | ⟨_, up, changed⟩
  · rw [same]
    exact captured
  · rw [changed, setUp_setUp]
    exact captured

@[simp] theorem undoPorts_index (link : Link) : (undoPorts snapshot link).index = link.index := by
  simp [undoPorts]

@[simp] theorem undoPorts_name (link : Link) : (undoPorts snapshot link).name = link.name := by
  simp [undoPorts]

/-- A link that is not the bridge has its flags back with the ports. -/
theorem Altered.ported_flags (altered : Altered snapshot before after)
    (offBridge : before.index ≠ snapshot.bridgeIndex) :
    (if before.index = snapshot.ingress.index ∨
        before.index = snapshot.egress.index then before.state.flags
      else after.state.flags) = before.state.flags := by
  split
  · rfl
  next offPorts =>
  rcases altered.flags with same | ⟨ours, _⟩
  · exact same
  · rcases ours with ingress | egress | bridge
    · exact absurd (.inl ingress) offPorts
    · exact absurd (.inr egress) offPorts
    · exact absurd bridge offBridge

theorem Link.update_state (change : LinkState → LinkState) (link : Link) :
    (link.update index change).state =
      if link.index = index then change link.state else link.state := by
  unfold Link.update
  split <;> rfl

section

variable (captured : Captured start snapshot) (member : before ∈ start.links)
  (altered : Altered snapshot before after)

include captured member altered

theorem undoPorts_state : (undoPorts snapshot after).state = { after.state with
        master := before.state.master
        flags :=
          if before.index = snapshot.ingress.index ∨
              before.index = snapshot.egress.index then before.state.flags
          else after.state.flags } := by
  have restored := altered.restoreUp
  have again : setUp before.report.up before.state.flags =
      before.state.flags := setUp_up before.report
  simp only [undoPorts, Link.update_state, Link.update_index, altered.index]
  by_cases ingress : before.index = snapshot.ingress.index
  · have ingressReport := captured.ingress before member ingress
    by_cases egress : before.index = snapshot.egress.index
    · have egressReport := captured.egress before member egress
      simp only [eq_true ingress, eq_true egress, or_self, if_true]
      simp only [ingressReport, egressReport, restored, again]
      rfl
    · simp only [eq_true ingress, eq_false egress, true_or, if_true, if_false]
      simp only [ingressReport, restored]
      rfl
  · by_cases egress : before.index = snapshot.egress.index
    · have egressReport := captured.egress before member egress
      simp only [eq_false ingress, eq_true egress, or_true, if_true, if_false]
      simp only [egressReport, restored]
      rfl
    · simp [ingress, egress, ← altered.master ingress egress]

/-- The undo of the ports restores every link but the bridge. -/
theorem undoPorts_offBridge (offBridge : before.index ≠ snapshot.bridgeIndex) :
    undoPorts snapshot after = before := by
  have ports := undoPorts_state captured member altered
  obtain ⟨mtu, owned, stp, multicastSnooping⟩ := altered.settings offBridge
  have flags := altered.ported_flags offBridge
  ext1
  · simp [altered.index]
  · simp [altered.name]
  · rw [ports, flags]
    ext1 <;> simp [mtu, owned, stp, multicastSnooping, altered.kind, altered.addressed]

end

/-- An existing bridge keeps our alias and its settings, all else of the start
is back. -/
def reclaimed (snapshot : BridgeCheckpoint) (link : Link) : Link :=
  match snapshot.bridge with
  | none => link
  | some bridge =>
    link.update bridge.index fun state =>
      { state with
        owned := true
        stp := some bridge.stp
        multicastSnooping := some bridge.multicastSnooping }

theorem undoBridge_existing (captured : Captured start snapshot) (member : before ∈ start.links)
    (altered : Altered snapshot before after) (existing : snapshot.bridge = some bridge) :
    undoBridge bridge (undoPorts snapshot after) = reclaimed snapshot before := by
  obtain ⟨bridgeIndex, reported⟩ := captured.existing bridge existing
  have ports := undoPorts_state captured member altered
  have restored := altered.restoreUp
  have again : setUp before.report.up before.state.flags =
      before.state.flags := setUp_up before.report
  unfold undoBridge reclaimed
  rw [existing]
  by_cases here : before.index = bridge.index
  · have report := reported before member here
    have atBridge : after.index = bridge.index := altered.index.trans here
    have flags : setUp bridge.up (undoPorts snapshot after).state.flags = before.state.flags := by
      rw [ports, report]
      split
      · exact again
      · exact restored
    ext1
    · simp [altered.index]
    · simp [altered.name]
    · simp only [Link.update, undoPorts_index, if_pos atBridge, if_pos here, flags]
      simp only [ports, altered.kind, altered.addressed, report]
      simp [Link.report]
  · rw [undoPorts_offBridge captured member altered (bridgeIndex ▸ here)]
    simp only [Link.update, if_neg here]

theorem altered_map {kept : List Link} (altered : List.Forall₂ (Altered snapshot) start.links kept)
    {back put : Link → Link}
    (same : ∀ before ∈ start.links, ∀ after, Altered snapshot before after →
      back after = put before) :
    kept.map back = start.links.map put := by
  have members : List.Forall₂ (fun before after => before ∈ start.links ∧
        Altered snapshot before after) start.links kept :=
    (forall₂_and_left _ _).mpr ⟨fun _ member => member, altered⟩
  have equal : List.Forall₂ (· = ·) (start.links.map put) (kept.map back) := by
    rw [forall₂_map_left_iff, forall₂_map_right_iff]
    exact members.imp fun before after holds => (same before holds.1 after holds.2).symm
  rw [forall₂_eq_eq_eq] at equal
  exact equal.symm

/-- The undo leads from every touched state back to the start. -/
theorem rollbackBridge_touched (captured : Captured start snapshot)
    (touched : Touched start snapshot kernel) :
    ∃ undone, rollbackBridge .succeeding snapshot kernel = (undone, .returned ()) ∧
      undone.links = start.links.map (reclaimed snapshot) := by
  obtain ⟨kept, created, links, altered, ours⟩ := touched
  rw [rollbackBridge_ports]
  cases existing : snapshot.bridge with
  | some bridge =>
    have none : created = [] := by
      apply eq_nil_iff_forall_not_mem.mpr
      intro link member
      have contradiction := (ours link member).1
      rw [existing] at contradiction
      cases contradiction
    obtain ⟨undone, returned, undoneLinks⟩ :=
      rollbackOwnBridge_existing existing (kernel.undoPorts snapshot)
    refine ⟨undone, returned, ?_⟩
    rw [undoneLinks, KernelLinks.undoPorts_links, links, none, append_nil, map_map]
    apply altered_map altered
    intro before member after changed
    rw [Function.comp_apply]
    exact undoBridge_existing captured member changed existing
  | none =>
    obtain ⟨known, fresh⟩ := captured.created existing
    refine ⟨_, rollbackOwnBridge_created existing known _, ?_⟩
    have ported : kept.map (undoPorts snapshot) = start.links.map id := by
      apply altered_map altered
      intro before member after changed
      exact undoPorts_offBridge captured member changed (fresh before member).1
    -- Only the created bridge has its index, and no link of the start was
    -- its port.
    have others : start.links.filter (·.index ≠ snapshot.bridgeIndex) = start.links := by
      rw [filter_eq_self]
      intro link member
      simpa using (fresh link member).1
    have own : (created.map (undoPorts snapshot)).filter (·.index ≠ snapshot.bridgeIndex) = [] := by
      rw [filter_eq_nil_iff]
      intro link member
      obtain ⟨earlier, earlierMember, rfl⟩ := mem_map.mp member
      simpa using (ours earlier earlierMember).2
    rw [KernelLinks.delete_links, KernelLinks.undoPorts_links, links,
      map_append, ported, map_id, filter_append, others, own, append_nil]
    apply map_congr_left
    intro link member
    rw [reclaimed, existing]
    exact if_neg (fresh link member).2

end Undo

/-! ## The checkpoint -/

section Capture

variable {kernel : KernelLinks} {link : NetdLink}

theorem queryLink_ok (queried : queryLink fault name kernel = .ok link) :
    ∃ found, kernel.named name = some found ∧ link = found.report := by
  unfold queryLink at queried
  cases fault with
  | some error => cases queried
  | none =>
    cases found : kernel.named name with
    | none => simp [found] at queried
    | some here =>
      simp only [found] at queried
      split at queried
      · cases queried
      · split at queried
        · cases queried
        · cases queried
          exact ⟨here, rfl, rfl⟩

variable {calls : ApplyCalls} {config : NetworkConfig} {snapshot : BridgeCheckpoint}

theorem named_mem (named : kernel.named name = some found) : found ∈ kernel.links :=
  mem_of_find?_eq_some named

theorem queryLink_unique (queried : queryLink fault name kernel = .ok link) :
    ∀ other ∈ kernel.links, other.index = link.index → link = other.report := by
  obtain ⟨found, named, rfl⟩ := queryLink_ok queried
  intro other member same
  have equal := inj_on_of_nodup_map kernel.indexes member (named_mem named) same
  rw [equal]

/-- The bridge queries of the validation and of the capture find the same
link, so a captured bridge was checked, unless the first of them denied that
it exists. -/
theorem validateBridge_checked {calls : ValidateCalls} {bridge : Option NetdLink}
    (validated : validateBridge calls config kernel = .ok bridge)
    (named : kernel.named config.bridge = some found)
    (truthful : ∀ error, calls.bridge = some error → error.val ≠ eNoDev) :
    found.report.bridge = true ∧ found.report.owned = true ∧
      found.report.bridgeSettingsValid = true := by
  unfold validateBridge at validated
  cases queried : queryLink calls.bridge config.bridge kernel with
  | ok reported =>
    obtain ⟨here, namedHere, rfl⟩ := queryLink_ok queried
    cases Option.some.inj (namedHere.symm.trans named)
    simp only [queried] at validated
    split at validated
    · cases validated
    · next accepted => simpa [and_assoc] using accepted
  | error status =>
    simp only [queried] at validated
    split at validated
    · next missing =>
      cases answered : calls.bridge with
      | some error =>
        rw [answered] at queried
        cases queried
        exact absurd missing (truthful error answered)
      | none =>
        unfold queryLink at queried
        rw [answered] at queried
        simp only [named] at queried
        split at queried
        · cases queried
          cases missing
        · split at queried
          · cases queried
            cases missing
          · cases queried
    · cases validated

theorem validateLiveConfig_bridge {calls : ValidateCalls}
    (validated : validateLiveConfig calls config kernel = .ok mtu) :
    ∃ bridge, validateBridge calls config kernel = .ok bridge := by
  unfold validateLiveConfig at validated
  by_cases valid : networkConfigValidate config ≠ 0
  · rw [if_pos valid] at validated
    cases validated
  rw [if_neg valid] at validated
  obtain ⟨_, _, validated⟩ := bind_eq_ok.mp validated
  obtain ⟨_, _, validated⟩ := bind_eq_ok.mp validated
  obtain ⟨_, _, validated⟩ := bind_eq_ok.mp validated
  obtain ⟨bridge, checked, _⟩ := bind_eq_ok.mp validated
  exact ⟨bridge, checked⟩

theorem captureSnapshot_ok (captured : captureSnapshot calls config kernel = .ok snapshot) :
    (∃ mtu, validateLiveConfig calls.validate config kernel = .ok mtu) ∧
      (∀ link ∈ kernel.links, link.index = snapshot.ingress.index →
        snapshot.ingress = link.report) ∧
      (∀ link ∈ kernel.links, link.index = snapshot.egress.index → snapshot.egress = link.report) ∧
      ∀ bridge, snapshot.bridge = some bridge →
        queryLink calls.bridge config.bridge kernel = .ok bridge := by
  obtain ⟨mtu, validated, captured⟩ := bind_eq_ok.mp captured
  obtain ⟨ingress, ingressQueried, captured⟩ := bind_eq_ok.mp captured
  obtain ⟨egress, egressQueried, captured⟩ := bind_eq_ok.mp captured
  obtain ⟨bridge, bridgeQueried, captured⟩ := bind_eq_ok.mp captured
  cases captured
  refine ⟨⟨mtu, validated⟩, queryLink_unique ingressQueried, queryLink_unique egressQueried, ?_⟩
  rintro found rfl
  unfold captureBridge at bridgeQueried
  split at bridgeQueried
  · next queried =>
    cases bridgeQueried
    exact queried
  · split at bridgeQueried <;> cases bridgeQueried

/-- The checkpoint of a transaction, with what the validation promises about an
existing bridge. -/
structure Checkpointed (start : KernelLinks) (truthful : Prop)
    (snapshot : BridgeCheckpoint) : Prop extends Captured start snapshot where
  ours : truthful → ∀ bridge, snapshot.bridge = some bridge →
    bridge.bridge = true ∧ bridge.owned = true ∧ bridge.bridgeSettingsValid = true

/-- The validation's query of the bridge does not deny an existing link. -/
def ApplyCalls.Truthful (calls : ApplyCalls) : Prop :=
  ∀ error, calls.validate.bridge = some error → error.val ≠ eNoDev

section

variable (captured : captureSnapshot calls config kernel = .ok snapshot)

include captured

theorem captureSnapshot_existing (existing : snapshot.bridge = some bridge)
    (queried : queryLink calls.effective config.bridge kernel = .ok effective) :
    Checkpointed kernel calls.Truthful { snapshot with bridgeIndex := effective.index } := by
  obtain ⟨⟨mtu, validated⟩, ingress, egress, found⟩ := captureSnapshot_ok captured
  have bridgeQueried := found bridge existing
  obtain ⟨bridgeLink, bridgeNamed, bridgeReport⟩ := queryLink_ok bridgeQueried
  obtain ⟨effectiveLink, effectiveNamed, rfl⟩ := queryLink_ok queried
  cases Option.some.inj (bridgeNamed.symm.trans effectiveNamed)
  refine ⟨⟨ingress, egress, ?_, ?_⟩, ?_⟩
  · intro other same
    cases Option.some.inj (existing.symm.trans same)
    exact ⟨by rw [bridgeReport], queryLink_unique bridgeQueried⟩
  · intro missing
    rw [existing] at missing
    cases missing
  intro truthful other same
  cases Option.some.inj (existing.symm.trans same)
  obtain ⟨checked, checkedBridge⟩ := validateLiveConfig_bridge validated
  rw [bridgeReport]
  exact validateBridge_checked checkedBridge bridgeNamed truthful

theorem captureSnapshot_created
    (created : snapshot.bridge = none) (unused : kernel.Unused index config.bridge) :
    Checkpointed kernel calls.Truthful { snapshot with bridgeIndex := index } := by
  obtain ⟨_, ingress, egress, _⟩ := captureSnapshot_ok captured
  refine ⟨⟨ingress, egress, ?_, ?_⟩, ?_⟩
  · intro other same
    cases created.symm.trans same
  · intro _
    exact ⟨unused.1, fun link member => ⟨(unused.2 link member).1, (unused.2 link member).2.2⟩⟩
  · intro _ other same
    cases created.symm.trans same

end

/-- A bridge that the validation accepted is not changed by the undo. -/
theorem Checkpointed.reclaimed_eq
    (checkpointed : Checkpointed kernel truthful snapshot) (holds : truthful) :
    kernel.links.map (reclaimed snapshot) = kernel.links := by
  conv_rhs => rw [← map_id kernel.links]
  apply map_congr_left
  intro link member
  cases existing : snapshot.bridge with
  | none => rw [reclaimed, existing, id]
  | some bridge =>
    obtain ⟨_, reported⟩ := checkpointed.existing bridge existing
    obtain ⟨kind, owned, valid⟩ := checkpointed.ours holds bridge existing
    rw [reclaimed, existing]
    dsimp only
    unfold Link.update
    split
    · next here =>
      cases reported link member here
      simp only [Link.report, Bool.and_eq_true, Option.isSome_iff_exists] at kind owned valid
      obtain ⟨⟨_, stp, stpReported⟩, snooping, snoopingReported⟩ := valid
      ext1
      · rfl
      · rfl
      · ext1 <;> simp [Link.report, kind, owned, stpReported, snoopingReported]
    · rfl

end Capture

/-! ## The whole transaction -/

section Transaction

variable {start : KernelLinks} {calls : ApplyCalls} {config : NetworkConfig}

/-- Where a failed application leaves the links. -/
def Undone (start : KernelLinks) (truthful : Prop) (status : Int) (kernel : KernelLinks) : Prop :=
  status = eIo ∨ kernel = start ∨ ∃ snapshot, Checkpointed start truthful snapshot ∧
      kernel.links = start.links.map (reclaimed snapshot)

def Applied (start : KernelLinks) (truthful : Prop)
    (checkpoint : BridgeCheckpoint) (kernel : KernelLinks) : Prop :=
  checkpoint.valid = true ∧ Checkpointed start truthful checkpoint ∧ Touched start checkpoint kernel

theorem inspect_completes {α : Type} (read : KernelLinks → Except Int α) :
    Completes pre (inspect read) (fun value kernel => read kernel = .ok value ∧ pre kernel)
      fun _ => pre := by
  intro kernel holds
  unfold inspect
  cases answer : read kernel with
  | ok value => exact ⟨answer, holds⟩
  | error status => exact holds

variable {truthful : Prop} {snapshot : BridgeCheckpoint} {kernel : KernelLinks}

theorem rolledBack_completes (checkpointed : Checkpointed start truthful snapshot) (status : Int) :
    Completes (Touched start snapshot) (rolledBack .succeeding snapshot status)
      post (Undone start truthful) := by
  intro kernel touched
  obtain ⟨undone, returned, links⟩ := rollbackBridge_touched checkpointed.toCaptured touched
  change Completed post (Undone start truthful)
    (andThen (attempt (rollbackBridge .succeeding snapshot)) _ kernel)
  simp only [andThen, attempt, returned]
  exact .inr (.inr ⟨snapshot, checkpointed, links⟩)

/-- A created bridge whose index is not known cannot be removed. -/
theorem rolledBack_lost {truthful : Prop} {snapshot : BridgeCheckpoint}
    (created : snapshot.bridge = none) (lost : snapshot.bridgeIndex = 0)
    (status : Int) {post : BridgeCheckpoint → KernelLinks → Prop} :
    Completes (fun _ => True) (rolledBack .succeeding snapshot status) post
      (Undone start truthful) := by
  intro kernel _
  have failed : (rollbackBridge .succeeding snapshot kernel).2 = .failed eNoDev := by
    rw [rollbackBridge_ports]
    unfold rollbackOwnBridge
    rw [created]
    rw [if_pos lost]
    rfl
  change Completed post (Undone start truthful)
    (andThen (attempt (rollbackBridge .succeeding snapshot)) _ kernel)
  simp only [andThen, attempt]
  rcases rollback : rollbackBridge .succeeding snapshot kernel with ⟨later, ending⟩
  rw [rollback] at failed
  subst failed
  exact .inl rfl

theorem changeOrRollback_completes (checkpointed : Checkpointed start truthful snapshot) :
    Completes (Touched start snapshot) (changeOrRollback calls .succeeding config snapshot)
      (Applied start truthful) (Undone start truthful) := by
  apply Completes.handle (changeBridge_completes calls config)
  · intro _
    apply Completes.pure
    intro kernel touched
    exact ⟨rfl, { checkpointed with }, Touched.validated touched⟩
  · exact fun status => rolledBack_completes checkpointed status

theorem createBridge_completes :
    Completes (fun kernel => kernel = start) (createBridge calls.create config)
      (fun _ kernel => ∃ new : CreatedBridge, start.Unused new.index config.bridge ∧
        kernel.links = start.links ++ [newBridge new config.bridge])
      fun _ kernel => kernel = start := by
  rintro kernel rfl
  unfold createBridge
  cases calls.create with
  | error error => exact rfl
  | ok new =>
    dsimp only
    split
    · next unused => exact ⟨new, unused, rfl⟩
    · exact rfl

variable {new : CreatedBridge}

theorem named_created (unused : start.Unused new.index config.bridge)
    (links : kernel.links = start.links ++ [newBridge new config.bridge]) :
    kernel.named config.bridge = some (newBridge new config.bridge) := by
  have earlier : start.links.find? (·.name = config.bridge) = none := by
    rw [find?_eq_none]
    intro link member
    simpa using (unused.2 link member).2.1
  rw [KernelLinks.named, links, find?_append, earlier]
  simp [newBridge]

theorem touched_created (created : snapshot.bridge = none)
    (links : kernel.links = start.links ++ [newBridge new config.bridge]) :
    Touched start { snapshot with bridgeIndex := new.index } kernel :=
  ⟨start.links, [newBridge new config.bridge], links,
    forall₂_same.mpr fun link _ => Altered.refl _ link, by
      intro link member
      rw [mem_singleton.mp member]
      exact ⟨created, rfl⟩⟩

theorem createAndChange_completes (captured : captureSnapshot calls config start = .ok snapshot)
    (created : snapshot.bridge = none) :
    Completes (fun kernel => kernel = start) (createAndChange calls .succeeding config snapshot)
      (Applied start calls.Truthful) (Undone start calls.Truthful) := by
  apply Completes.bind (createBridge_completes.weaken (fun _ => id)
    (fun _ _ holds => holds) fun _ _ same => .inr (.inl same))
  intro _
  apply Completes.handle (inspect_completes _)
  · intro _
    rintro kernel ⟨queried, index, unused, links⟩
    obtain ⟨found, named, rfl⟩ := queryLink_ok queried
    cases Option.some.inj ((named_created unused links).symm.trans named)
    exact changeOrRollback_completes (captureSnapshot_created captured created unused) kernel
      (touched_created created links)
  · intro status
    apply Completes.bind (.look _)
    rintro index kernel ⟨rfl, made, unused, links⟩
    unfold discoveredIndex
    split
    · rw [named_created unused links]
      exact rolledBack_completes (captureSnapshot_created captured created unused) status kernel
        (touched_created created links)
    · exact @rolledBack_lost _ _ { snapshot with bridgeIndex := 0 } created
        rfl status _ kernel trivial

theorem applyBridge_completes : Completes (fun kernel => kernel = start)
      (applyBridge calls .succeeding config)
      (Applied start calls.Truthful) (Undone start calls.Truthful) := by
  apply Completes.bind ((inspect_completes _).weaken (fun _ => id)
    (fun _ _ holds => holds) fun _ _ same => .inr (.inl same))
  intro snapshot
  apply Completes.bind ((inspect_completes _).weaken (fun _ => id)
    (fun _ _ holds => holds) fun _ _ same => .inr (.inl same.2))
  intro _
  cases existing : snapshot.bridge with
  | some bridge =>
    apply Completes.bind ((inspect_completes _).weaken
      (fun _ => id) (fun _ _ holds => holds)
      fun _ _ same => .inr (.inl same.2.2))
    intro effective kernel holds
    obtain ⟨queried, _, captured, rfl⟩ := holds
    rw [← existing]
    exact changeOrRollback_completes (captureSnapshot_existing captured existing queried) kernel
      (Touched.untouched _)
  | none =>
    rintro kernel ⟨_, captured, rfl⟩
    exact createAndChange_completes captured existing kernel rfl

/-- The attributes that a transaction must leave alone: which links there are,
and the membership, MTU and flags of each. -/
def KernelLinks.membership (kernel : KernelLinks) :
    List (UInt32 × String × UInt32 × UInt32 × UInt32) :=
  kernel.links.map fun link =>
    (link.index, link.name, link.state.master, link.state.mtu, link.state.flags)

theorem reclaimed_membership (links : kernel.links = start.links.map (reclaimed snapshot)) :
    kernel.membership = start.membership := by
  rw [KernelLinks.membership, links, map_map, KernelLinks.membership]
  apply map_congr_left
  intro link _
  rw [Function.comp_apply, reclaimed]
  split
  · rfl
  · rw [Link.update]
    split <;> rfl

theorem Checkpointed.restored (checkpointed : Checkpointed start truthful snapshot)
    (links : kernel.links = start.links.map (reclaimed snapshot)) :
    kernel.membership = start.membership ∧ (truthful → kernel = start) := by
  refine ⟨reclaimed_membership links, ?_⟩
  intro holds
  apply KernelLinks.ext
  rw [links, checkpointed.reclaimed_eq holds]

theorem restoreBridge_applied (applied : Applied start truthful checkpoint kernel) :
    ∃ restored, restoreBridge none .succeeding checkpoint kernel =
        (restored, .returned { checkpoint with valid := false }) ∧
      restored.links = start.links.map (reclaimed checkpoint) := by
  obtain ⟨valid, checkpointed, touched⟩ := applied
  obtain ⟨restored, returned, links⟩ := rollbackBridge_touched checkpointed.toCaptured touched
  refine ⟨restored, ?_, links⟩
  unfold restoreBridge
  rw [valid]
  change andThen (rollbackBridge .succeeding checkpoint) _ kernel = _
  rw [andThen, returned]
  rfl

/-- An application that fails without reporting a failed undo leaves
membership, MTU and flags of every link as they were, and the checkpoint of a
successful one leads back to them.  All else comes back too when the
validation did not overlook an existing bridge. -/
theorem bridge_transaction_restores
    (calls : ApplyCalls) (config : NetworkConfig) (start : KernelLinks) :
    (∀ after status, applyBridge calls .succeeding config start = (after, .failed status) →
        status ≠ eIo → after.membership = start.membership ∧ (calls.Truthful → after = start)) ∧
      ∀ applied checkpoint, applyBridge calls .succeeding config start =
            (applied, .returned checkpoint) →
          ∃ restored, restoreBridge none .succeeding checkpoint applied =
                (restored, .returned { checkpoint with valid := false }) ∧
              restored.membership = start.membership ∧
              (calls.Truthful → restored = start) := by
  have completed : Completed (Applied start calls.Truthful) (Undone start calls.Truthful)
      (applyBridge calls .succeeding config start) :=
    applyBridge_completes start rfl
  constructor
  · intro after status failed otherStatus
    rw [failed] at completed
    rcases completed with io | same | ⟨snapshot, checkpointed, links⟩
    · exact absurd io otherStatus
    · rw [same]
      exact ⟨rfl, fun _ => rfl⟩
    · exact checkpointed.restored links
  · intro applied checkpoint returned
    rw [returned] at completed
    obtain ⟨restored, consumed, links⟩ := restoreBridge_applied completed
    exact ⟨restored, consumed, completed.2.1.restored links⟩

end Transaction

def hostLink (index : UInt32) (name : String) (master flags : UInt32) : Link where
  index := index
  name := name
  state := {
    master := master
    mtu := 1500
    flags := flags
    bridge := false
    owned := false
    stp := none
    multicastSnooping := none
    addressed := false }

/-- A bridge that is down, with one port, and a second port outside it. -/
def hostLinks : List Link :=
  [hostLink 2 "lan" 5 3, hostLink 3 "wan" 0 2, hostLink 4 "mgmt" 0 3,
    newBridge ⟨5, 1400, 0x1002, false, true⟩ "jg0"]

theorem hostLinks_positive : ∀ link ∈ hostLinks, link.index ≠ 0 := by decide

theorem hostLinks_indexes : (hostLinks.map Link.index).Nodup := by decide

theorem hostLinks_names : (hostLinks.map Link.name).Nodup := by decide +kernel

def hostKernel : KernelLinks := ⟨hostLinks, hostLinks_positive, hostLinks_indexes, hostLinks_names⟩

def hostConfig : NetworkConfig where
  bridge := "jg0"
  ingress := "lan"
  egress := "wan"
  management := "mgmt"
  bridgeMtu := 0
  queueFirst := 0
  queueCount := 1
  queueLength := 1024
  failureMode := .failOpen
  stp := true
  multicastSnooping := false
  queueCpuFanout := false

theorem notSupported_negative : (-95 : Int) < 0 := by decide

/-- The kernel detaches the second port and then refuses the attachment. -/
def refusedAttachment : ApplyCalls where
  validate := ⟨none, none, none, none, none, fun _ => none, none⟩
  ingress := none
  egress := none
  bridge := none
  connect := none
  create := .ok ⟨6, 1500, 0x1002, false, true⟩
  effective := none
  discovered := true
  configure := .done
  masterIngress := .done
  masterEgress := .failed ⟨-95, notSupported_negative⟩ (some 7)
  upIngress := .done
  upEgress := .done
  upBridge := .done

def acceptedAttachment : ApplyCalls := { refusedAttachment with masterEgress := .done }

def hostCheckpoint : BridgeCheckpoint where
  bridge := some {
    index := 5
    masterIndex := 0
    mtu := 1400
    flags := 0x1002
    bridge := true
    owned := true
    stp := false
    multicastSnooping := true
    bridgeSettingsValid := true }
  ingress := ⟨2, 5, 1500, 3, false, false, false, false, false⟩
  egress := ⟨3, 0, 1500, 2, false, false, false, false, false⟩
  bridgeIndex := 5
  effectiveMtu := 1500
  valid := true

theorem bridge_transaction_restores_host :
    (applyBridge refusedAttachment .succeeding hostConfig hostKernel).2 = .failed (-95) ∧
      (applyBridge refusedAttachment .succeeding hostConfig hostKernel).1 = hostKernel ∧
      (applyBridge acceptedAttachment .succeeding hostConfig hostKernel).2 =
        .returned hostCheckpoint ∧
      restoreBridge none .succeeding hostCheckpoint
          (applyBridge acceptedAttachment .succeeding hostConfig hostKernel).1 =
        (hostKernel, .returned { hostCheckpoint with valid := false }) := by
  have refused : (applyBridge refusedAttachment .succeeding hostConfig
      hostKernel).2 = .failed (-95) := by
    decide +kernel
  have accepted : (applyBridge acceptedAttachment .succeeding hostConfig
      hostKernel).2 = .returned hostCheckpoint := by
    decide +kernel
  have truthful : refusedAttachment.Truthful := fun _ denied => by cases denied
  have undone := (bridge_transaction_restores refusedAttachment hostConfig
    hostKernel).1 _ (-95) (Prod.ext rfl refused) (by decide)
  obtain ⟨restored, returned, _, same⟩ :=
    (bridge_transaction_restores acceptedAttachment hostConfig hostKernel).2
      _ hostCheckpoint (Prod.ext rfl accepted)
  obtain rfl := same truthful
  exact ⟨refused, undone.2 truthful, accepted, returned⟩

end JanusGate.Netd
