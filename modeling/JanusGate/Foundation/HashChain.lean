import Mathlib.Data.List.Induction
import Mathlib.Data.Set.Function
import Mathlib.Tactic.Common

/-!
# Unambiguous codes and hash chains

A code is unambiguous when its words can be told apart in front of any rest;
such codes can be put one behind the other.  A chain starts from a seed and
hashes every item together with the digest before it.  When the hash tells the
messages of two chains apart, equally long chains with one last digest have
the same items.
-/

namespace HashChain

open List

variable {α β γ : Type}

/-! ## Unambiguous codes -/

/-- Words of valid values can be told apart in front of any rest. -/
def Unambiguous (valid : α → Prop) (encode : α → List γ) : Prop :=
  ∀ first second restFirst restSecond, valid first → valid second →
    encode first ++ restFirst = encode second ++ restSecond →
      first = second ∧ restFirst = restSecond

section Codes

variable {valid : α → Prop} {encode : α → List γ}

theorem Unambiguous.ofLength (length : ∀ value, valid value → (encode value).length = size)
    (injective : ∀ first second, valid first → valid second →
      encode first = encode second → first = second) : Unambiguous valid encode := by
  intro first second restFirst restSecond firstValid secondValid same
  have lengths : (encode first).length = (encode second).length :=
    (length first firstValid).trans (length second secondValid).symm
  obtain ⟨words, rests⟩ := append_inj same lengths
  exact ⟨injective first second firstValid secondValid words, rests⟩

theorem Unambiguous.imp (code : Unambiguous valid encode)
    (implies : ∀ value, stronger value → valid value) : Unambiguous stronger encode := by
  intro first second restFirst restSecond firstValid secondValid
  exact code first second restFirst restSecond (implies first firstValid)
    (implies second secondValid)

theorem Unambiguous.injective (code : Unambiguous valid encode) (firstValid : valid first)
    (secondValid : valid second) (same : encode first = encode second) : first = second :=
  (code first second [] [] firstValid secondValid (by rw [same])).1

theorem Unambiguous.sized {size : α → β} (sizes : Unambiguous validSize encodeSize)
    (sizeValid : ∀ value, valid value → validSize (size value))
    (length : ∀ first second, valid first → valid second → size first = size second →
        (encode first).length = (encode second).length)
    (injective : ∀ first second, valid first → valid second →
      encode first = encode second → first = second) :
    Unambiguous valid fun value => encodeSize (size value) ++ encode value := by
  intro first second restFirst restSecond firstValid secondValid same
  rw [append_assoc, append_assoc] at same
  obtain ⟨sameSize, behind⟩ := sizes _ _ _ _ (sizeValid first firstValid)
    (sizeValid second secondValid) same
  obtain ⟨words, rests⟩ := append_inj behind (length first second firstValid secondValid sameSize)
  exact ⟨injective first second firstValid secondValid words, rests⟩

/-- An optional value behind a mark that says whether it is there. -/
theorem Unambiguous.optional (code : Unambiguous valid encode) (different : absent ≠ present) :
    Unambiguous (fun value : Option α => ∀ inner ∈ value, valid inner)
      fun value => value.elim [absent] fun inner => present :: encode inner := by
  intro first second restFirst restSecond firstValid secondValid same
  cases first with
  | none =>
    cases second with
    | none => exact ⟨rfl, (cons.inj same).2⟩
    | some inner => exact absurd (cons.inj same).1 different
  | some outer =>
    cases second with
    | none => exact absurd (cons.inj same).1.symm different
    | some inner =>
      obtain ⟨sameInner, rests⟩ := code outer inner restFirst restSecond
        (firstValid outer rfl) (secondValid inner rfl)
        (cons.inj same).2
      exact ⟨congrArg some sameInner, rests⟩

end Codes

/-! ## Chains -/

section Chains

variable {Digest Item Message : Type} (hash : Message → Digest) (message : Digest → Item → Message)

def last (seed : Digest) (items : List Item) : Digest :=
  items.foldl (fun digest item => hash (message digest item)) seed

def messages : Digest → List Item → List Message
  | _, [] => []
  | seed, item :: items => message seed item :: messages (hash (message seed item)) items

section

variable (seed : Digest) (items : List Item) (item : Item)

theorem last_concat : last hash message seed (items ++ [item]) =
      hash (message (last hash message seed items) item) := by
  simp [last]

theorem messages_concat :
    messages hash message seed (items ++ [item]) = messages hash message seed items ++
        [message (last hash message seed items) item] := by
  induction items generalizing seed with
  | nil => rfl
  | cons head tail ih =>
    rw [cons_append, messages, ih, messages]
    rfl

end

variable {hash message}

/-- Equally long chains with one last digest have the same items, when the
hash tells their messages apart and a message determines its parts. -/
theorem items_eq {valid : Item → Prop}
    (determines : ∀ first second previous other, valid first → valid second →
      message previous first = message other second → previous = other ∧ first = second)
    (sameLength : left.length = right.length) (leftValid : ∀ item ∈ left, valid item)
    (rightValid : ∀ item ∈ right, valid item) (apart : Set.InjOn hash {text |
      text ∈ messages hash message seed left ∨ text ∈ messages hash message seed right})
    (sameLast : last hash message seed left = last hash message seed right) : left = right := by
  -- The last items come first: only their digests are known to be equal.
  induction left using reverseRecOn generalizing right with
  | nil => exact (length_eq_zero_iff.mp sameLength.symm).symm
  | append_singleton left item ih =>
    obtain ⟨front, lastItem, rfl⟩ : ∃ front lastItem, right = front ++ [lastItem] := by
      have nonempty : right ≠ [] := by
        rintro rfl
        simp at sameLength
      exact ⟨right.dropLast, right.getLast nonempty, (dropLast_concat_getLast nonempty).symm⟩
    rw [last_concat, last_concat] at sameLast
    rw [messages_concat, messages_concat] at apart
    have sameMessage := apart (by simp) (by simp) sameLast
    obtain ⟨samePrevious, sameItem⟩ := determines _ _ _ _
      (leftValid item (by simp)) (rightValid lastItem (by simp)) sameMessage
    have sameFront : left = front := by
      apply ih (by simpa using sameLength) (fun other member => leftValid other (by simp [member]))
        (fun other member => rightValid other (by simp [member]))
        (apart.mono ?_) samePrevious
      rintro text (inLeft | inRight)
      · exact .inl (by simp [inLeft])
      · exact .inr (by simp [inRight])
    rw [sameFront, sameItem]

end Chains

end HashChain
