import JanusGate.Common.Policy
import JanusGate.Foundation.FirstBest

/-!
# Canonical rule lists

The builder treats domain rules, destination rules and observed scopes alike:
it sorts them by content and then by identifier, and keeps the first of every
run with the same content.  What remains is one item per content, with the
smallest identifier, in an order that depends on nothing else.
-/

namespace JanusGate

open Std List

namespace Policy

open FirstBest

/-- One kind of items with the order and the duplicate test that the builder
uses for it. -/
structure Canon (α : Type) where
  content : α → α → Ordering
  identifier : α → Nat
  same : α → α → Bool
  contentTrans : TransCmp content
  same_iff : ∀ left right, same left right = true ↔ content left right = .eq

variable {α : Type}

theorem total_ne_gt (order : α → α → Ordering) [TransCmp order] :
    Std.Total fun left right => order left right ≠ .gt where
  total left right := by
    cases compared : order left right with
    | lt | eq => simp
    | gt =>
      have swapped := OrientedCmp.lt_of_gt compared
      simp [swapped]

theorem isTrans_ne_gt (order : α → α → Ordering) [TransCmp order] :
    IsTrans α fun left right => order left right ≠ .gt where
  trans left middle right first second := by
    have firstLe := Ordering.isLE_iff_ne_gt.mpr first
    have secondLe := Ordering.isLE_iff_ne_gt.mpr second
    exact Ordering.isLE_iff_ne_gt.mp (TransCmp.isLE_trans firstLe secondLe)

theorem retainDistinct_sublist (same : α → α → Bool) (last : Option α) (items : List α) :
    (retainDistinct same last items).Sublist items := by
  induction items generalizing last with
  | nil => cases last <;> exact List.Sublist.refl _
  | cons item rest ih =>
    cases last with
    | none => exact (ih (some item)).cons_cons item
    | some kept =>
      unfold retainDistinct
      split
      · exact (ih (some kept)).cons item
      · exact (ih (some item)).cons_cons item

theorem retainDistinct_first {same : α → α → Bool} {le : α → α → Prop}
    (sameSelf : ∀ item, same item item = true) (self : ∀ item, le item item) {items : List α} :
    ∀ {last : Option α}, (∀ kept ∈ last, ∀ item ∈ items, le kept item) → items.Pairwise le →
      ∀ item ∈ items, ∃ kept, (kept ∈ last ∨ kept ∈ retainDistinct same last items) ∧
        same kept item = true ∧ le kept item := by
  induction items with
  | nil =>
    intro last _ _ item member
    cases member
  | cons first rest ih =>
    intro last after pairwise item member
    obtain ⟨fromFirst, restPairwise⟩ := pairwise_cons.mp pairwise
    -- what happens when the head is retained
    have keepFirst : ∃ kept, kept ∈ first :: retainDistinct same (some first) rest ∧
          same kept item = true ∧ le kept item := by
      rcases mem_cons.mp member with rfl | later
      · exact ⟨item, mem_cons_self .., sameSelf item, self item⟩
      have headFirst : ∀ kept ∈ some first, ∀ other ∈ rest, le kept other := by
        rintro kept ⟨⟩
        exact fromFirst
      obtain ⟨kept, place, found⟩ := ih headFirst restPairwise item later
      refine ⟨kept, ?_, found⟩
      rcases place with isFirst | inRest
      · cases isFirst
        exact mem_cons_self ..
      · exact mem_cons_of_mem _ inRest
    cases last with
    | none =>
      obtain ⟨kept, place, found⟩ := keepFirst
      exact ⟨kept, .inr place, found⟩
    | some earlier =>
      unfold retainDistinct
      cases repeats : same earlier first with
      | false =>
        obtain ⟨kept, place, found⟩ := keepFirst
        exact ⟨kept, .inr place, found⟩
      | true =>
        rcases mem_cons.mp member with rfl | later
        · exact ⟨earlier, .inl rfl, repeats, after earlier rfl item (mem_cons_self ..)⟩
        · exact ih (fun kept given other inRest =>
            after kept given other (mem_cons_of_mem _ inRest))
            restPairwise item later

namespace Canon

variable (canon : Canon α)

def order (left right : α) : Ordering :=
  (canon.content left right).then (compare (canon.identifier left) (canon.identifier right))

instance : TransCmp canon.order :=
  haveI := canon.contentTrans
  inferInstanceAs (TransCmp (compareLex canon.content (compareOn canon.identifier)))

def NotAfter (left right : α) : Prop := canon.order left right ≠ .gt

instance : Std.Total canon.NotAfter := total_ne_gt canon.order

instance : IsTrans α canon.NotAfter := isTrans_ne_gt canon.order

instance : DecidableRel canon.NotAfter := fun _ _ => inferInstanceAs (Decidable (_ ≠ _))

def sorted (items : List α) : List α :=
  items.insertionSort fun left right => canon.order left right ≠ .gt

def retained (items : List α) : List α := retainDistinct canon.same none (canon.sorted items)

theorem sorted_pairwise (items : List α) : (canon.sorted items).Pairwise canon.NotAfter :=
  pairwise_insertionSort canon.NotAfter items

theorem sorted_perm (items : List α) : (canon.sorted items).Perm items :=
  perm_insertionSort canon.NotAfter items

theorem mem_of_mem_retained (kept : item ∈ canon.retained items) : item ∈ items := by
  have inSorted := (retainDistinct_sublist canon.same none _).subset kept
  exact (canon.sorted_perm items).mem_iff.mp inSorted

variable {canon}

theorem content_self (item : α) : canon.content item item = .eq :=
  haveI := canon.contentTrans
  ReflCmp.compare_self

theorem content_comm (same : canon.content left right = .eq) : canon.content right left = .eq :=
  haveI := canon.contentTrans
  OrientedCmp.eq_symm same

theorem content_trans (first : canon.content left middle = .eq)
    (second : canon.content middle right = .eq) : canon.content left right = .eq :=
  haveI := canon.contentTrans
  TransCmp.eq_trans first second

theorem NotAfter.content_ne_gt (inOrder : canon.NotAfter left right) :
    canon.content left right ≠ .gt := by
  intro after
  apply inOrder
  unfold order
  rw [after]
  rfl

theorem NotAfter.identifier_le (inOrder : canon.NotAfter left right)
    (same : canon.content left right = .eq) :
    canon.identifier left ≤ canon.identifier right := by
  unfold NotAfter order at inOrder
  rw [same] at inOrder
  exact Nat.not_lt.mp fun less => inOrder (Nat.compare_eq_gt.mpr less)

/-! ## What is retained -/

theorem NotAfter.refl (item : α) : canon.NotAfter item item := by
  simp [NotAfter, ReflCmp.compare_self]

theorem retained_cover (items : List α) (member : item ∈ items) :
    ∃ kept ∈ canon.retained items, canon.content kept item = .eq ∧
      canon.identifier kept ≤ canon.identifier item := by
  have inSorted := (canon.sorted_perm items).mem_iff.mpr member
  obtain ⟨kept, place, same, ordered⟩ := @retainDistinct_first _ canon.same canon.NotAfter
    (fun item => (canon.same_iff item item).mpr (content_self item)) NotAfter.refl _ none nofun
    (canon.sorted_pairwise items) item inSorted
  have sameContent := (canon.same_iff kept item).mp same
  exact ⟨kept, place.resolve_left (by simp), sameContent, ordered.identifier_le sameContent⟩

theorem retainDistinct_strict : ∀ {last : Option α},
      (∀ kept ∈ last, ∀ item ∈ items, canon.NotAfter kept item) →
      items.Pairwise canon.NotAfter → (retainDistinct canon.same last items).Pairwise
            (fun left right => canon.content left right = .lt) ∧
          ∀ kept ∈ last, ∀ item ∈ retainDistinct canon.same last items,
            canon.content kept item = .lt := by
  have := canon.contentTrans
  induction items with
  | nil =>
    intro last _ _
    cases last with
    | none | some kept => simp [retainDistinct]
  | cons first rest ih =>
    intro last after pairwise
    obtain ⟨fromFirst, restPairwise⟩ := pairwise_cons.mp pairwise
    have headFirst : ∀ kept ∈ some first, ∀ other ∈ rest, canon.NotAfter kept other := by
      rintro kept ⟨⟩
      exact fromFirst
    obtain ⟨restStrict, aboveFirst⟩ := ih headFirst restPairwise
    have keepFirst : (first :: retainDistinct canon.same (some first) rest).Pairwise
          (fun left right => canon.content left right = .lt) :=
      pairwise_cons.mpr ⟨aboveFirst first rfl, restStrict⟩
    cases last with
    | none =>
      refine ⟨keepFirst, ?_⟩
      intro kept given
      cases given
    | some earlier =>
      unfold retainDistinct
      cases repeats : canon.same earlier first with
      | true =>
        exact ih (fun kept given other inRest =>
          after kept given other (mem_cons_of_mem _ inRest))
          restPairwise
      | false =>
        refine ⟨keepFirst, ?_⟩
        rintro kept ⟨⟩ item member
        have below : canon.content earlier first = .lt := by
          have notAfter := (after earlier rfl first (mem_cons_self ..)).content_ne_gt
          cases compared : canon.content earlier first with
          | lt => rfl
          | eq =>
            rw [(canon.same_iff earlier first).mpr compared] at repeats
            cases repeats
          | gt => exact absurd compared notAfter
        rcases mem_cons.mp member with rfl | later
        · exact below
        · exact TransCmp.lt_trans below (aboveFirst first rfl item later)

theorem retained_strict (items : List α) :
    (canon.retained items).Pairwise fun left right => canon.content left right = .lt :=
  (@retainDistinct_strict _ canon _ none nofun (canon.sorted_pairwise items)).1

theorem eq_of_strict {kept : List α}
    (strict : kept.Pairwise fun left right => canon.content left right = .lt)
    (leftKept : left ∈ kept) (rightKept : right ∈ kept) (same : canon.content left right = .eq) :
    left = right := by
  have := canon.contentTrans
  induction kept with
  | nil => cases leftKept
  | cons first rest ih =>
    obtain ⟨above, restStrict⟩ := pairwise_cons.mp strict
    rcases mem_cons.mp leftKept with rfl | leftLater
    · rcases mem_cons.mp rightKept with rfl | rightLater
      · rfl
      · rw [above right rightLater] at same
        cases same
    · rcases mem_cons.mp rightKept with rfl | rightLater
      · rw [OrientedCmp.gt_of_lt (above left leftLater)] at same
        cases same
      · exact ih restStrict leftLater rightLater

/-! ## Two lists with the same contents -/

/-- Every item of the first list has one of the same content and no larger identifier in the second.
-/
def Covers (canon : Canon α) (left right : List α) : Prop :=
  ∀ item ∈ left, ∃ other ∈ right, canon.content other item = .eq ∧
    canon.identifier other ≤ canon.identifier item

def Agree (canon : Canon α) (left right : α) : Prop :=
  canon.content left right = .eq ∧ canon.identifier left = canon.identifier right

/-- Strictly ordered lists with the same contents agree item by item. -/
theorem forall₂_of_strict
    (leftStrict : left.Pairwise fun first second => canon.content first second = .lt)
    (rightStrict : right.Pairwise fun first second => canon.content first second = .lt)
    (forth : ∀ item ∈ left, ∃ other ∈ right, canon.content item other = .eq ∧ relation item other)
    (back : ∀ other ∈ right, ∃ item ∈ left, canon.content item other = .eq) :
    List.Forall₂ relation left right := by
  have := canon.contentTrans
  induction left generalizing right with
  | nil =>
    cases right with
    | nil => exact .nil
    | cons other rest =>
      obtain ⟨item, member, _⟩ := back other (mem_cons_self ..)
      cases member
  | cons item rest ih =>
    obtain ⟨aboveItem, restStrict⟩ := pairwise_cons.mp leftStrict
    cases right with
    | nil =>
      obtain ⟨other, member, _⟩ := forth item (mem_cons_self ..)
      cases member
    | cons other others =>
      obtain ⟨aboveOther, othersStrict⟩ := pairwise_cons.mp rightStrict
      obtain ⟨partner, partnerMember, partnerSame, related⟩ := forth item (mem_cons_self ..)
      obtain ⟨origin, originMember, originSame⟩ := back other (mem_cons_self ..)
      -- both heads are the least contents of their lists
      have headsSame : canon.content item other = .eq := by
        rcases mem_cons.mp originMember with rfl | originLater
        · exact originSame
        rcases mem_cons.mp partnerMember with rfl | partnerLater
        · exact partnerSame
        have forward := TransCmp.lt_of_lt_of_eq (aboveItem origin originLater) originSame
        have backward := TransCmp.lt_of_lt_of_eq
          (aboveOther partner partnerLater) (content_comm partnerSame)
        rw [OrientedCmp.gt_of_lt backward] at forward
        cases forward
      have partnerIsHead : partner = other := by
        rcases mem_cons.mp partnerMember with same | later
        · exact same
        · have below := TransCmp.lt_of_eq_of_lt headsSame (aboveOther partner later)
          rw [partnerSame] at below
          cases below
      rw [partnerIsHead] at related
      refine .cons related (ih restStrict othersStrict ?_ ?_)
      · intro next nextMember
        obtain ⟨image, matchMember, matchSame, matchRelated⟩ :=
          forth next (mem_cons_of_mem _ nextMember)
        rcases mem_cons.mp matchMember with rfl | matchLater
        · have below := TransCmp.lt_of_lt_of_eq (aboveItem next nextMember) matchSame
          rw [headsSame] at below
          cases below
        · exact ⟨image, matchLater, matchSame, matchRelated⟩
      · intro next nextMember
        obtain ⟨source, matchMember, matchSame⟩ := back next (mem_cons_of_mem _ nextMember)
        rcases mem_cons.mp matchMember with rfl | matchLater
        · have below := TransCmp.lt_of_eq_of_lt headsSame (aboveOther next nextMember)
          rw [matchSame] at below
          cases below
        · exact ⟨source, matchLater, matchSame⟩

/-- Lists that cover each other are retained as the same items. -/
theorem retained_agree {left right : List α} (forth : canon.Covers left right)
    (back : canon.Covers right left) :
    List.Forall₂ (fun item other => canon.Agree item other ∧ item ∈ left ∧ other ∈ right)
      (canon.retained left) (canon.retained right) := by
  have partner : ∀ {first second : List α}, canon.Covers first second →
      ∀ item ∈ canon.retained first, ∃ other ∈ canon.retained second,
        canon.content other item = .eq ∧ canon.identifier other ≤ canon.identifier item := by
    intro first second covers item kept
    obtain ⟨other, member, same, smaller⟩ := covers item (canon.mem_of_mem_retained kept)
    obtain ⟨found, foundKept, foundSame, foundSmaller⟩ := retained_cover second member
    exact ⟨found, foundKept, content_trans foundSame same, foundSmaller.trans smaller⟩
  apply forall₂_of_strict (retained_strict left) (retained_strict right)
  · intro item kept
    obtain ⟨other, otherKept, same, smaller⟩ := partner forth item kept
    obtain ⟨again, againKept, againSame, againSmaller⟩ := partner back other otherKept
    -- the way there and back ends at the same retained item
    have returned : again = item :=
      eq_of_strict (retained_strict left) againKept kept (content_trans againSame same)
    rw [returned] at againSmaller
    refine ⟨other, otherKept, content_comm same,
      ⟨content_comm same, Nat.le_antisymm againSmaller smaller⟩,
      canon.mem_of_mem_retained kept, canon.mem_of_mem_retained otherKept⟩
  · intro other kept
    obtain ⟨item, itemKept, same, _⟩ := partner back other kept
    exact ⟨item, itemKept, same⟩

/-! ## Scans over retained items -/

variable {ρ : Type}

theorem improve_spec (ranking : Ranking better) (best : Option ρ) (item : ρ) :
    ∃ winner, improve better best item = some winner ∧ better item winner = false := by
  cases best with
  | none => exact ⟨item, rfl, ranking.irrefl item⟩
  | some current =>
    unfold improve
    dsimp only
    split
    · exact ⟨item, rfl, ranking.irrefl item⟩
    case isFalse notBetter => exact ⟨current, rfl, by simpa using notBetter⟩

/-- A way to store items under which a repeated content is chosen alike and never better. -/
structure Stores (canon : Canon α) (store : α → ρ) (better : ρ → ρ → Bool)
    (chosen : ρ → Bool) : Prop where
  ranking : Ranking better
  byContent : ∀ left right, canon.content left right = .eq →
    chosen (store left) = chosen (store right)
  notBetter : ∀ kept item, canon.content kept item = .eq →
    canon.identifier kept ≤ canon.identifier item → better (store item) (store kept) = false

/-- Dropping repeated contents does not change the scan. -/
theorem scan_retainDistinct (stores : Stores canon store better chosen) :
    ∀ {last : Option α} {best : Option ρ},
      (∀ kept ∈ last, ∀ item ∈ items, canon.NotAfter kept item) →
      items.Pairwise canon.NotAfter →
      (∀ kept ∈ last, chosen (store kept) = true →
        ∃ winner, best = some winner ∧ better (store kept) winner = false) →
      (((retainDistinct canon.same last items).map store).filter
          chosen).foldl (improve better) best =
        ((items.map store).filter chosen).foldl (improve better) best := by
  induction items with
  | nil =>
    intro last best _ _ _
    cases last <;> rfl
  | cons item rest ih =>
    intro last best after pairwise covered
    obtain ⟨fromItem, restPairwise⟩ := pairwise_cons.mp pairwise
    have keepItem : (((item :: retainDistinct canon.same (some item)
        rest).map store).filter chosen).foldl (improve better) best =
        (((item :: rest).map store).filter chosen).foldl (improve better) best := by
      rw [map_cons, map_cons, filter_cons, filter_cons]
      cases picked : chosen (store item) with
      | true =>
        apply ih _ restPairwise
        · rintro kept ⟨⟩ _
          exact improve_spec stores.ranking best (store item)
        · rintro kept ⟨⟩
          exact fromItem
      | false =>
        apply ih _ restPairwise
        · rintro kept ⟨⟩ impossible
          rw [picked] at impossible
          cases impossible
        · rintro kept ⟨⟩
          exact fromItem
    cases last with
    | none => exact keepItem
    | some kept =>
      unfold retainDistinct
      cases repeats : canon.same kept item with
      | false => exact keepItem
      | true =>
        have same := (canon.same_iff kept item).mp repeats
        have smaller := (after kept rfl item (mem_cons_self ..)).identifier_le same
        rw [if_pos rfl, ih (fun other given later member => after other given later
            (mem_cons_of_mem _ member)) restPairwise covered,
          map_cons, filter_cons]
        split
        case isTrue picked =>
          rw [← stores.byContent kept item same] at picked
          obtain ⟨winner, rfl, keptBelow⟩ := covered kept rfl picked
          have itemBelow := stores.ranking.negTrans _ _ _
            (stores.notBetter kept item same smaller) keptBelow
          simp [improve, itemBelow]
        case isFalse => rfl

/-- The retained items give the same scan as all items. -/
theorem scan_retained (stores : Stores canon store better chosen) (permuted : scanned.Perm items)
    (identified : ((scanned.map canon.identifier).Nodup ∧
        ∀ left right, better (store left) (store right) = false →
          better (store right) (store left) = false →
            canon.identifier left = canon.identifier right) ∨
      scanned = canon.sorted items) :
    scan better (((canon.retained items).map store).filter chosen) =
      scan better ((scanned.map store).filter chosen) := by
  have canonical : scan better (((canon.retained items).map store).filter chosen) =
        scan better (((canon.sorted items).map store).filter chosen) := by
    apply scan_retainDistinct stores _ (canon.sorted_pairwise items)
    · rintro kept ⟨⟩
    · rintro kept ⟨⟩
  rw [canonical]
  rcases identified with ⟨distinct, tied⟩ | rfl
  · have sameItems : (canon.sorted items).Perm scanned :=
      (canon.sorted_perm items).trans permuted.symm
    apply scan_perm stores.ranking ((sameItems.map store).filter chosen)
    intro left leftMember right rightMember notBetter notWorse
    rw [mem_filter, mem_map] at leftMember rightMember
    obtain ⟨⟨first, firstMember, rfl⟩, _⟩ := leftMember
    obtain ⟨⟨second, secondMember, rfl⟩, _⟩ := rightMember
    rw [inj_on_of_nodup_map distinct (sameItems.mem_iff.mp firstMember)
      (sameItems.mem_iff.mp secondMember) (tied first second notBetter notWorse)]
  · rfl

end Canon

end Policy

end JanusGate
