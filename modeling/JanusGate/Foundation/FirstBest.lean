import Mathlib.Data.List.Find
import Mathlib.Data.List.Induction

/-!
# The first best element of a list

A scan keeps the best element so far and replaces it only by a strictly better
one, so that it ends with the first of the best elements.  When the elements
fall into classes without ties between them, scanning the winners of the
classes gives the same element, in whatever order the classes are taken.
-/

namespace FirstBest

open List

variable {α : Type}

/-- Keep the current best unless the item is strictly better. -/
def improve (better : α → α → Bool) (best : Option α) (item : α) : Option α :=
  match best with
  | none => some item
  | some current => if better item current then some item else some current

def scan (better : α → α → Bool) (items : List α) : Option α := items.foldl (improve better) none

/-- A strict weak order, as a decidable comparison. -/
structure Ranking (better : α → α → Bool) : Prop where
  asymm : ∀ first second, better first second = true → better second first = false
  negTrans : ∀ first second third, better first second = false →
    better second third = false → better first third = false

def isBest (better : α → α → Bool) (items : List α) (item : α) : Bool :=
  items.all fun other => !better other item

variable {items : List α}

theorem isBest_iff :
    isBest better items item = true ↔ ∀ other ∈ items, better other item = false := by
  simp [isBest]

theorem scan_append_singleton (better : α → α → Bool) (items : List α) (last : α) :
    scan better (items ++ [last]) = improve better (scan better items) last := by
  simp [scan]

theorem improve_ne_none (better : α → α → Bool) (best : Option α) (item : α) :
    improve better best item ≠ none := by
  cases best with
  | none => simp [improve]
  | some current =>
    unfold improve
    dsimp only
    split <;> simp

theorem scan_eq_none_iff : scan better items = none ↔ items = [] := by
  constructor
  · intro nothing
    cases items using reverseRecOn with
    | nil => rfl
    | append_singleton earlier last =>
      rw [scan_append_singleton] at nothing
      exact absurd nothing (improve_ne_none better _ last)
  · rintro rfl
    rfl

variable {better : α → α → Bool}

section

variable (ranking : Ranking better)

include ranking

theorem Ranking.irrefl (item : α) : better item item = false := by
  cases holds : better item item with
  | false => rfl
  | true => rw [ranking.asymm item item holds] at holds; cases holds

/-- The scan returns the first element that no other element beats. -/
theorem scan_eq_find (items : List α) : scan better items = items.find? (isBest better items) := by
  induction items using reverseRecOn with
  | nil => rfl
  | append_singleton earlier last ih =>
    have extended : isBest better (earlier ++ [last]) = fun item =>
        isBest better earlier item && !better last item := by
      funext item
      simp [isBest]
    rw [scan_append_singleton, find?_append, extended]
    cases found : scan better earlier with
    | none =>
      rw [scan_eq_none_iff] at found
      subst found
      simp [improve, isBest, ranking.irrefl]
    | some best =>
      rw [found] at ih
      have bestHere := find?_some ih.symm
      rw [isBest_iff] at bestHere
      cases improves : better last best with
      | true =>
        -- the new element beats every earlier one
        have lastBest : isBest better earlier last = true := by
          rw [isBest_iff]
          intro other member
          cases beats : better other last with
          | false => rfl
          | true =>
            have notBack := ranking.asymm other last beats
            have notBest := ranking.negTrans last other best notBack (bestHere other member)
            rw [improves] at notBest
            cases notBest
        have noneEarlier : earlier.find? (fun item =>
            isBest better earlier item && !better last item) = none := by
          rw [find?_eq_none]
          intro item member holds
          rw [Bool.and_eq_true, Bool.not_eq_true'] at holds
          have notBest := ranking.negTrans last item best holds.2 (bestHere item member)
          rw [improves] at notBest
          cases notBest
        simp [improve, improves, noneEarlier, lastBest, ranking.irrefl]
      | false =>
        have sameFind : earlier.find? (fun item =>
            isBest better earlier item && !better last item) = some best := by
          obtain ⟨holds, before, after, split, earlierFail⟩ :=
            find?_eq_some_iff_append.mp ih.symm
          rw [find?_eq_some_iff_append]
          refine ⟨by simp [holds, improves], before, after, split, ?_⟩
          simp_all
        simp [improve, improves, sameFind]

theorem scan_mem (found : scan better items = some best) : best ∈ items := by
  rw [scan_eq_find ranking] at found
  exact mem_of_find?_eq_some found

theorem scan_best (found : scan better items = some best) :
    ∀ other ∈ items, better other best = false := by
  rw [scan_eq_find ranking] at found
  exact isBest_iff.mp (find?_some found)

end

/-- Two comparisons that agree on every element and the ones before it give
the same scan. -/
theorem scan_congr
    (agree : items.Pairwise fun earlier later => better later earlier = other later earlier) :
    scan better items = scan other items ∧ ∀ best ∈ scan better items, best ∈ items := by
  induction items using reverseRecOn with
  | nil => exact ⟨rfl, by simp [scan]⟩
  | append_singleton earlier last ih =>
    rw [pairwise_append] at agree
    obtain ⟨agreeEarlier, _, across⟩ := agree
    obtain ⟨same, member⟩ := ih agreeEarlier
    rw [scan_append_singleton, scan_append_singleton, ← same]
    cases found : scan better earlier with
    | none => simp [improve]
    | some best =>
      have bestMember := member best found
      have agreeLast := across best bestMember last (by simp)
      simp only [improve, agreeLast, true_and]
      intro winner chosen
      split at chosen
      · cases chosen
        simp
      · cases chosen
        simp [bestMember]

/-- Scanning the winners of the classes is scanning the chosen elements. -/
theorem scan_classes {γ : Type} (ranking : Ranking better) {inClass : γ → α → Bool}
    {classes : List γ}
    (covers : ∀ item ∈ items, chosen item = true ↔ ∃ label ∈ classes, inClass label item = true)
    (noTies : ∀ label ∈ classes, ∀ first ∈ items, ∀ second ∈ items,
      inClass label first = true → chosen second = true →
        better first second = false → better second first = false → inClass label second = true) :
    scan better (items.filter chosen) = scan better (classes.filterMap fun label =>
        scan better (items.filter (inClass label))) := by
  have winnerOf : ∀ item ∈ items, chosen item = true → ∃ winner ∈ classes.filterMap fun label =>
          scan better (items.filter (inClass label)),
        better item winner = false := by
    intro item member isChosen
    obtain ⟨label, known, inside⟩ := (covers item member).mp isChosen
    cases found : scan better (items.filter (inClass label)) with
    | none =>
      rw [scan_eq_none_iff, filter_eq_nil_iff] at found
      exact absurd inside (found item member)
    | some winner =>
      refine ⟨winner, mem_filterMap.mpr ⟨label, known, found⟩, ?_⟩
      exact scan_best ranking found item (mem_filter.mpr ⟨member, inside⟩)
  cases total : scan better (classes.filterMap fun label =>
      scan better (items.filter (inClass label))) with
  | none =>
    rw [scan_eq_none_iff] at total
    rw [scan_eq_none_iff, filter_eq_nil_iff]
    intro item member isChosen
    obtain ⟨winner, listed, _⟩ := winnerOf item member isChosen
    rw [total] at listed
    cases listed
  | some best =>
    have atTop := scan_best ranking total
    obtain ⟨label, known, found⟩ := mem_filterMap.mp (scan_mem ranking total)
    obtain ⟨bestMember, bestInside⟩ := mem_filter.mp (scan_mem ranking found)
    have bestChosen := (covers best bestMember).mpr ⟨label, known, bestInside⟩
    have dominated : ∀ item ∈ items, chosen item = true → better item best = false := by
      intro item member isChosen
      obtain ⟨winner, listed, below⟩ := winnerOf item member isChosen
      exact ranking.negTrans item winner best below (atTop winner listed)
    rw [scan_eq_find ranking, find?_filter] at found
    rw [scan_eq_find ranking, find?_filter, ← found]
    apply find?_congr
    intro item member
    rw [Bool.eq_iff_iff]
    simp only [decide_eq_true_eq, isBest_iff, mem_filter]
    constructor
    · rintro ⟨isChosen, top⟩
      have tied := top best ⟨bestMember, bestChosen⟩
      refine ⟨noTies label known best bestMember item member bestInside
        isChosen tied (dominated item member isChosen), ?_⟩
      rintro other ⟨otherMember, otherInside⟩
      exact top other ⟨otherMember, (covers other otherMember).mpr ⟨label, known, otherInside⟩⟩
    · rintro ⟨inside, top⟩
      refine ⟨(covers item member).mpr ⟨label, known, inside⟩, ?_⟩
      rintro other ⟨otherMember, otherChosen⟩
      exact ranking.negTrans other best item (dominated other otherMember otherChosen)
        (top best ⟨bestMember, bestInside⟩)

theorem scan_perm (ranking : Ranking better) (same : first.Perm second)
    (noTies : ∀ left ∈ first, ∀ right ∈ first, better left right = false →
      better right left = false → left = right) : scan better first = scan better second := by
  cases left : scan better first with
  | none =>
    rw [scan_eq_none_iff] at left
    rw [left, nil_perm] at same
    rw [same]
    rfl
  | some best =>
    cases right : scan better second with
    | none =>
      rw [scan_eq_none_iff] at right
      rw [right, perm_nil] at same
      rw [same] at left
      cases left
    | some other =>
      have bestMember := scan_mem ranking left
      have otherMember := same.mem_iff.mpr (scan_mem ranking right)
      rw [noTies best bestMember other otherMember
        (scan_best ranking right best (same.mem_iff.mp bestMember))
        (scan_best ranking left other otherMember)]

/-- What ties agree on holds of the scanned element exactly when it holds of
some best element. -/
theorem scan_satisfies_iff (ranking : Ranking better) {holds : α → Prop}
    (tied : ∀ left ∈ items, ∀ right ∈ items, better left right = false →
      better right left = false → holds left → holds right) :
    (∃ best, scan better items = some best ∧ holds best) ↔ ∃ item ∈ items, holds item ∧
        ∀ other ∈ items, better other item = false := by
  constructor
  · rintro ⟨best, found, holdsBest⟩
    exact ⟨best, scan_mem ranking found, holdsBest, scan_best ranking found⟩
  rintro ⟨item, member, holdsItem, top⟩
  cases found : scan better items with
  | none =>
    rw [scan_eq_none_iff] at found
    rw [found] at member
    cases member
  | some best =>
    have bestMember := scan_mem ranking found
    have notWorse := scan_best ranking found item member
    exact ⟨best, rfl, tied item member best bestMember notWorse (top best bestMember) holdsItem⟩

end FirstBest
