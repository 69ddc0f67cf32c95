import Mathlib.Data.List.Pairwise
import JanusGate.Common.PolicyMatch
import JanusGate.Common.PolicyOrder
import JanusGate.Foundation.OpenAddressing

/-!
# The lookup table of a snapshot

The groups of a sorted rule list are its runs of equal domains, the builder
stores one slot per group, and `findSlot` finds the slot of a domain exactly
when some rule has that domain.  The slot then selects all rules of the domain.
-/

namespace JanusGate

open Std List

namespace Policy

/-! ## Groups of equal domains -/

def DomainsSorted (rules : List StoredRule) : Prop :=
  rules.Pairwise fun left right => compareBytes left.domain right.domain ≠ .gt

def rulesOf (rules : List StoredRule) (domain : Bytes) : List StoredRule :=
  rules.filter fun rule => rule.domain == domain

/-- The groups of a sorted list whose first rule has index `first`. -/
structure GroupsOf (first : Nat) (rules : List StoredRule) (groups : List DomainGroup) : Prop where
  ordered : ∀ group ∈ groups, first ≤ group.firstRule
  slices : ∀ group ∈ groups, (rules.drop (group.firstRule - first)).take group.ruleCount =
      rulesOf rules group.domain
  heads : ∀ group ∈ groups, rules[group.firstRule - first]?.map StoredRule.domain =
      some group.domain
  complete : ∀ rule ∈ rules, ∃ group ∈ groups, group.domain = rule.domain
  distinct : groups.Pairwise fun left right => left.domain ≠ right.domain
  leading : ∀ group ∈ groups.head?, group.firstRule = first ∧
      rules.head?.map StoredRule.domain = some group.domain

variable {groups : List DomainGroup} {snapshot : PolicySnapshot}

/-- In sorted rules, a domain that differs from the next one does not come
back. -/
theorem domain_not_later {next} (sorted : DomainsSorted (rule :: next :: rest))
    (different : next.domain ≠ rule.domain) :
    ∀ later ∈ next :: rest, later.domain ≠ rule.domain := by
  obtain ⟨fromRule, tailSorted⟩ := pairwise_cons.mp sorted
  obtain ⟨fromNext, _⟩ := pairwise_cons.mp tailSorted
  intro later member same
  rcases mem_cons.mp member with rfl | inRest
  · exact different same
  have forward := fromRule next (mem_cons_self ..)
  have backward := fromNext later inRest
  rw [same] at backward
  have equal := OrientedCmp.isLE_antisymm (Ordering.isLE_iff_ne_gt.mpr backward)
    (Ordering.isLE_iff_ne_gt.mpr forward)
  exact different (compareBytes_eq_iff.mp equal)

theorem rulesOf_cons (rule : StoredRule) (rules : List StoredRule) (domain : Bytes) :
    rulesOf (rule :: rules) domain = if rule.domain = domain then rule :: rulesOf rules domain
      else rulesOf rules domain := by
  unfold rulesOf
  rw [filter_cons]
  simp

theorem drop_sub_succ (later : first + 1 ≤ index) (rule : StoredRule) (rules : List StoredRule) :
    (rule :: rules).drop (index - first) = rules.drop (index - (first + 1)) ∧
      (rule :: rules)[index - first]? = rules[index - (first + 1)]? := by
  have shift : index - first = index - (first + 1) + 1 := by omega
  rw [shift]
  exact ⟨rfl, rfl⟩

/-- The groups of the rest keep their meaning when a rule of another domain is
put in front. -/
theorem GroupsOf.shift (spec : GroupsOf (first + 1) rules groups) (rule : StoredRule)
    (member : group ∈ groups) (different : group.domain ≠ rule.domain) :
    ((rule :: rules).drop (group.firstRule - first)).take group.ruleCount =
        rulesOf (rule :: rules) group.domain ∧
      (rule :: rules)[group.firstRule - first]?.map StoredRule.domain = some group.domain := by
  have later := spec.ordered group member
  obtain ⟨dropped, head⟩ := drop_sub_succ later rule rules
  rw [dropped, head, rulesOf_cons, if_neg (Ne.symm different)]
  exact ⟨spec.slices group member, spec.heads group member⟩

theorem GroupsOf.eq_of_domain (spec : GroupsOf first rules groups) (leftMember : left ∈ groups)
    (rightMember : right ∈ groups) (same : left.domain = right.domain) : left = right := by
  have : Symm fun left right : DomainGroup => left.domain ≠ right.domain :=
    ⟨fun _ _ different => Ne.symm different⟩
  by_contra different
  exact spec.distinct.forall leftMember rightMember different same

theorem GroupsOf.start (spec : GroupsOf (first + 1) rules groups)
    (alone : ∀ later ∈ rules, later.domain ≠ rule.domain) :
    GroupsOf first (rule :: rules) (⟨rule.domain, first, 1⟩ :: groups) := by
  have onlyRule : rulesOf rules rule.domain = [] := by
    unfold rulesOf
    rw [filter_eq_nil_iff]
    intro later member
    simpa using alone later member
  have otherDomain : ∀ group ∈ groups, group.domain ≠ rule.domain := by
    intro group member same
    have head := spec.heads group member
    rw [Option.map_eq_some_iff] at head
    obtain ⟨later, found, domain⟩ := head
    exact alone later (mem_of_getElem? found) (domain.trans same)
  constructor
  case ordered =>
    intro group member
    rcases mem_cons.mp member with rfl | old
    · exact Nat.le_refl _
    · have := spec.ordered group old
      omega
  case slices =>
    intro group member
    rcases mem_cons.mp member with rfl | old
    · rw [Nat.sub_self, drop_zero, take_succ_cons, take_zero, rulesOf_cons, if_pos rfl, onlyRule]
    · exact (spec.shift rule old (otherDomain group old)).1
  case heads =>
    intro group member
    rcases mem_cons.mp member with rfl | old
    · rw [Nat.sub_self]
      rfl
    · exact (spec.shift rule old (otherDomain group old)).2
  case complete =>
    intro stored member
    rcases mem_cons.mp member with rfl | inRest
    · exact ⟨_, mem_cons_self .., rfl⟩
    · obtain ⟨group, old, domain⟩ := spec.complete stored inRest
      exact ⟨group, mem_cons_of_mem _ old, domain⟩
  case distinct =>
    rw [pairwise_cons]
    exact ⟨fun group old => Ne.symm (otherDomain group old), spec.distinct⟩
  case leading =>
    intro group member
    cases member
    exact ⟨rfl, rfl⟩

theorem GroupsOf.join (spec : GroupsOf (first + 1) rules (group :: groups))
    (same : group.domain = rule.domain) :
    GroupsOf first (rule :: rules) (⟨rule.domain, first, group.ruleCount + 1⟩ :: groups) := by
  obtain ⟨fromGroup, restDistinct⟩ := pairwise_cons.mp spec.distinct
  obtain ⟨leadingIndex, _⟩ := spec.leading group rfl
  have wholeGroup := spec.slices group (mem_cons_self ..)
  rw [leadingIndex, Nat.sub_self, drop_zero, same] at wholeGroup
  have otherDomain : ∀ later ∈ groups, later.domain ≠ rule.domain := by
    intro later member equal
    exact fromGroup later member (same.trans equal.symm)
  constructor
  case ordered =>
    intro other member
    rcases mem_cons.mp member with rfl | old
    · exact Nat.le_refl _
    · have := spec.ordered other (mem_cons_of_mem _ old)
      omega
  case slices =>
    intro other member
    rcases mem_cons.mp member with rfl | old
    · rw [Nat.sub_self, drop_zero, take_succ_cons, rulesOf_cons, if_pos rfl, wholeGroup]
    · exact (spec.shift rule (mem_cons_of_mem _ old) (otherDomain other old)).1
  case heads =>
    intro other member
    rcases mem_cons.mp member with rfl | old
    · rw [Nat.sub_self]
      rfl
    · exact (spec.shift rule (mem_cons_of_mem _ old) (otherDomain other old)).2
  case complete =>
    intro stored member
    rcases mem_cons.mp member with rfl | inRest
    · exact ⟨_, mem_cons_self .., rfl⟩
    · obtain ⟨other, old, domain⟩ := spec.complete stored inRest
      rcases mem_cons.mp old with rfl | later
      · exact ⟨_, mem_cons_self .., same.symm.trans domain⟩
      · exact ⟨other, mem_cons_of_mem _ later, domain⟩
  case distinct =>
    rw [pairwise_cons]
    exact ⟨fun other old => Ne.symm (otherDomain other old), restDistinct⟩
  case leading =>
    intro other member
    cases member
    exact ⟨rfl, rfl⟩

/-- Every sorted rule list splits into the groups that the builder makes. -/
theorem domainGroups_spec :
    ∀ {first : Nat}, DomainsSorted rules → GroupsOf first rules (domainGroups first rules) := by
  induction rules with
  | nil =>
    intro first _
    constructor <;> simp [domainGroups]
  | cons rule rest ih =>
    intro first sorted
    have restSpec := @ih (first + 1) (List.Pairwise.of_cons sorted)
    unfold domainGroups
    cases groups : domainGroups (first + 1) rest with
    | nil =>
      rw [groups] at restSpec
      apply restSpec.start
      intro later member
      obtain ⟨group, impossible, _⟩ := restSpec.complete later member
      cases impossible
    | cons group others =>
      rw [groups] at restSpec
      dsimp only
      by_cases same : group.domain = rule.domain
      · rw [if_pos same]
        exact restSpec.join same
      rw [if_neg same]
      apply restSpec.start
      cases rest with
      | nil =>
        intro later member
        cases member
      | cons next tail =>
        apply domain_not_later sorted
        have leads := (restSpec.leading group rfl).2
        have nextDomain : next.domain = group.domain := Option.some.inj leads
        rwa [nextDomain]

/-! ## The table as an open-addressing table -/

def groupSlot (domainHash : Bytes → UInt64) (group : DomainGroup) : PolicySlot :=
  ⟨domainHash group.domain, group.firstRule, group.ruleCount⟩

def slotHome (slot : PolicySlot) : Nat := slot.hash.toNat

/-- Masking with a capacity that is a power of two is reduction modulo it. -/
theorem and_pred_eq_mod (power : capacity = 2 ^ exponent) (value : Nat) :
    value &&& (capacity - 1) = value % capacity := by
  rw [power, Nat.and_two_pow_sub_one_eq_mod]

variable {table : List (Option PolicySlot)}

theorem probeFree_eq (power : table.length = 2 ^ exponent) (fuel index : Nat) :
    probeFree table fuel index = OpenAddressing.probeFree table fuel index := by
  induction fuel generalizing index with
  | zero => rfl
  | succ fuel ih =>
    unfold probeFree OpenAddressing.probeFree
    rw [and_pred_eq_mod power, ih]
    rfl

theorem insertGroup_eq (power : table.length = 2 ^ exponent) (group : DomainGroup) :
    insertGroup domainHash table group =
      OpenAddressing.insert slotHome table (groupSlot domainHash group) := by
  unfold insertGroup OpenAddressing.insert
  dsimp only
  rw [and_pred_eq_mod power, probeFree_eq power]
  rfl

theorem foldl_insertGroup_eq :
    ∀ {table : List (Option PolicySlot)} {exponent : Nat}, table.length = 2 ^ exponent →
        groups.foldl (insertGroup domainHash) table = (groups.map (groupSlot domainHash)).foldl
            (OpenAddressing.insert slotHome) table := by
  induction groups with
  | nil => exact fun _ => rfl
  | cons group rest ih =>
    intro table exponent power
    rw [foldl_cons, map_cons, foldl_cons, insertGroup_eq power]
    apply ih
    rw [OpenAddressing.length_insert]
    exact power

theorem growCapacity_spec : ∀ {exponent : Nat},
      growCapacity required fuel (2 ^ exponent) = .ok result →
        required ≤ result ∧ ∃ grown, result = 2 ^ grown := by
  induction fuel with
  | zero =>
    intro exponent success
    cases success
  | succ fuel ih =>
    intro exponent success
    unfold growCapacity at success
    split at success
    · split at success
      · cases success
      · rw [← Nat.pow_succ] at success
        exact ih success
    case isFalse enough =>
      cases success
      exact ⟨by omega, exponent, rfl⟩

/-- The tests of `find_slot` on one occupied slot. -/
def slotWanted (snapshot : PolicySnapshot) (domain : Bytes) (slot : PolicySlot) : Bool :=
  slot.hash == snapshot.domainHash domain &&
    (snapshot.rules[slot.firstRule]?.map StoredRule.domain).getD [] == domain

theorem probeSlot_eq (power : snapshot.table.length = 2 ^ exponent) (domain : Bytes)
    (fuel index : Nat) :
    probeSlot snapshot (snapshot.domainHash domain) domain fuel index =
      OpenAddressing.lookup (slotWanted snapshot domain) snapshot.table fuel
        index := by
  induction fuel generalizing index with
  | zero => rfl
  | succ fuel ih =>
    unfold probeSlot OpenAddressing.lookup
    rw [and_pred_eq_mod power, ih]
    unfold OpenAddressing.contents
    cases snapshot.table.getD index none <;> rfl

def TableFilled (snapshot : PolicySnapshot) : Prop :=
  populateTable snapshot.domainHash snapshot.rules = .ok snapshot.table

theorem TableFilled.slots (filled : TableFilled snapshot) :
    (snapshot.table = [] ∧ domainGroups 0 snapshot.rules = []) ∨
      ((∃ exponent, snapshot.table.length = 2 ^ exponent) ∧
        OpenAddressing.Reachable slotHome snapshot.table ∧
        ∀ slot, some slot ∈ snapshot.table ↔ ∃ group ∈ domainGroups 0 snapshot.rules,
            groupSlot snapshot.domainHash group = slot) := by
  unfold TableFilled populateTable at filled
  dsimp only at filled
  split at filled
  case isTrue none => exact .inl ⟨(Except.ok.inj filled).symm, length_eq_zero_iff.mp none⟩
  case isFalse some =>
    apply Or.inr
    cases required : sizeMultiply (domainGroups 0 snapshot.rules).length 2 with
    | none =>
      rw [required] at filled
      cases filled
    | some slots =>
      rw [required] at filled
      have enough : (domainGroups 0 snapshot.rules).length ≤ slots := by
        unfold sizeMultiply at required
        split at required
        · cases required
        · cases required
          omega
      cases grown : growCapacity slots 65 1 with
      | error status => simp [grown, bind, Except.bind, pure, Except.pure] at filled
      | ok capacity =>
        have table : (domainGroups 0 snapshot.rules).foldl (insertGroup snapshot.domainHash)
            (replicate capacity none) = snapshot.table := by
          simpa [grown, bind, Except.bind, pure, Except.pure] using filled
        obtain ⟨fits, exponent, power⟩ := @growCapacity_spec slots 65 capacity 0 grown
        have powerLength : (replicate capacity
            (none : Option PolicySlot)).length = 2 ^ exponent := by
          rw [length_replicate, power]
        rw [foldl_insertGroup_eq powerLength] at table
        have room : ((domainGroups 0 snapshot.rules).map
            (groupSlot snapshot.domainHash)).length ≤ capacity := by
          rw [length_map]
          omega
        obtain ⟨reachable, members, length⟩ := OpenAddressing.fill_spec slotHome room
        rw [table] at reachable members length
        refine ⟨⟨exponent, length.trans power⟩, reachable, ?_⟩
        intro slot
        rw [members, mem_map]

def slotRules (snapshot : PolicySnapshot) : Option PolicySlot → List StoredRule
  | none => []
  | some slot => (snapshot.rules.drop slot.firstRule).take slot.ruleCount

theorem slotWanted_group (sorted : DomainsSorted snapshot.rules)
    (member : group ∈ domainGroups 0 snapshot.rules) (domain : Bytes) :
    slotWanted snapshot domain (groupSlot snapshot.domainHash group) = true ↔
      group.domain = domain := by
  have head := (@domainGroups_spec snapshot.rules 0 sorted).heads group member
  rw [Nat.sub_zero] at head
  unfold slotWanted groupSlot
  rw [head, Option.getD_some, Bool.and_eq_true, beq_iff_eq, beq_iff_eq]
  constructor
  · exact fun both => both.2
  · intro same
    exact ⟨by rw [same], same⟩

/-- Looking up a domain selects its rules, whatever the hash collisions. -/
theorem slotRules_findSlot (sorted : DomainsSorted snapshot.rules) (filled : TableFilled snapshot)
    (domain : Bytes) :
    slotRules snapshot (findSlot snapshot domain) = rulesOf snapshot.rules domain := by
  have spec := @domainGroups_spec snapshot.rules 0 sorted
  have noRules : (∀ group ∈ domainGroups 0 snapshot.rules,
      group.domain ≠ domain) → rulesOf snapshot.rules domain = [] := by
    intro absent
    unfold rulesOf
    rw [filter_eq_nil_iff]
    intro rule member
    obtain ⟨group, listed, same⟩ := spec.complete rule member
    have different := absent group listed
    simpa [← same] using different
  rcases filled.slots with ⟨empty, noGroups⟩ | ⟨⟨exponent, power⟩, reachable, members⟩
  · have notFound : findSlot snapshot domain = none := by
      unfold findSlot
      rw [empty]
      rfl
    rw [notFound, noRules (by rw [noGroups]; simp)]
    rfl
  · have positive : snapshot.table.length ≠ 0 := by
      rw [power]
      exact Nat.ne_of_gt (Nat.two_pow_pos exponent)
    have probe : findSlot snapshot domain =
        OpenAddressing.lookup (slotWanted snapshot domain) snapshot.table snapshot.table.length
          ((snapshot.domainHash domain).toNat % snapshot.table.length) := by
      unfold findSlot
      rw [if_neg positive]
      rw [probeSlot_eq power, and_pred_eq_mod power]
    rw [probe]
    by_cases known : ∃ group ∈ domainGroups 0 snapshot.rules, group.domain = domain
    · obtain ⟨group, listed, same⟩ := known
      have found := @OpenAddressing.lookup_eq_some _ snapshot.table slotHome
        (groupSlot snapshot.domainHash group) (slotWanted snapshot domain)
        reachable ((members _).mpr ⟨group, listed, rfl⟩)
        ((slotWanted_group sorted listed domain).mpr same) (by
          intro other stored wanted
          obtain ⟨twin, twinListed, rfl⟩ := (members other).mp stored
          have twinSame := (slotWanted_group sorted twinListed domain).mp wanted
          rw [spec.eq_of_domain twinListed listed (twinSame.trans same.symm)])
      have slice := spec.slices group listed
      rw [Nat.sub_zero, same] at slice
      have home : slotHome (groupSlot snapshot.domainHash group) =
          (snapshot.domainHash domain).toNat := by
        rw [← same]
        rfl
      rw [home] at found
      rw [found]
      exact slice
    · have absent : ∀ group ∈ domainGroups 0 snapshot.rules, group.domain ≠ domain :=
        fun group listed same => known ⟨group, listed, same⟩
      rw [OpenAddressing.lookup_eq_none, noRules absent]
      · rfl
      · intro other stored
        obtain ⟨group, listed, rfl⟩ := (members other).mp stored
        rw [← Bool.not_eq_true, slotWanted_group sorted listed]
        exact absent group listed

end Policy

end JanusGate
