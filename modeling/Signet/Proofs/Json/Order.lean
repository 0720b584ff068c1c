import Mathlib
import Signet.Json.Writer

/-!
# The order of keys

Texts are ordered by their code points, which is a total order. Sorting by keys only
changes the order of pairs, looks at keys alone, and leaves sorted pairs as they are.
-/
namespace Signet

namespace Text

theorem le_total (s t : Text) : le s t = true ∨ le t s = true := by
  induction s generalizing t with
  | nil => simp [le]
  | cons a s ih =>
    rcases t with _ | ⟨b, t⟩
    · simp [le]
    · rcases Nat.lt_trichotomy a.val b.val with h | h | h
      · simp [le, h]
      · simp [le, h, ih t]
      · simp [le, h]

theorem le_trans {s t u : Text} (hst : le s t = true) (htu : le t u = true) :
    le s u = true := by
  induction s generalizing t u with
  | nil => simp [le]
  | cons a s ih =>
    rcases t with _ | ⟨b, t⟩
    · simp [le] at hst
    rcases u with _ | ⟨c, u⟩
    · simp [le] at htu
    simp only [le] at hst htu ⊢
    by_cases hab : a.val < b.val
    · by_cases hbc : c.val < b.val
      · simp [hbc, Nat.lt_asymm hbc] at htu
      · have hac : a.val < c.val := by omega
        simp [hac]
    · by_cases hba : b.val < a.val
      · simp [hab, hba] at hst
      · by_cases hbc : b.val < c.val
        · have hac : a.val < c.val := by omega
          simp [hac]
        · by_cases hcb : c.val < b.val
          · simp [hbc, hcb] at htu
          · simp only [hab, hba, if_false] at hst
            simp only [hbc, hcb, if_false] at htu
            have h1 : ¬ a.val < c.val := by omega
            have h2 : ¬ c.val < a.val := by omega
            simp [h1, h2, ih hst htu]

theorem le_antisymm {s t : Text} (hst : le s t = true) (hts : le t s = true) : s = t := by
  induction s generalizing t with
  | nil =>
    cases t with
    | nil => rfl
    | cons b t => cases hts
  | cons a s ih =>
    rcases t with _ | ⟨b, t⟩
    · cases hst
    · simp only [le] at hst hts
      rcases Nat.lt_trichotomy a.val b.val with h | h | h
      · simp [h, Nat.lt_asymm h] at hts
      · simp only [h, lt_irrefl, if_false] at hst hts
        rw [CodePoint.ext h, ih hst hts]
      · simp [h, Nat.lt_asymm h] at hst

end Text

namespace Json

variable {α β : Type}

theorem insertKey_perm (pair : Text × α) (pairs : List (Text × α)) :
    (insertKey pair pairs).Perm (pair :: pairs) := by
  induction pairs with
  | nil => exact .refl _
  | cons other rest ih =>
    rw [insertKey]
    split
    · exact .refl _
    · exact (ih.cons other).trans (.swap pair other rest)

theorem sortKeys_perm (pairs : List (Text × α)) : (sortKeys pairs).Perm pairs := by
  induction pairs with
  | nil => exact .refl _
  | cons pair rest ih => exact (insertKey_perm pair (sortKeys rest)).trans (ih.cons pair)

@[simp] theorem mem_sortKeys {pair : Text × α} {pairs : List (Text × α)} :
    pair ∈ sortKeys pairs ↔ pair ∈ pairs := (sortKeys_perm pairs).mem_iff

/-- Pairs that are the same when they are sorted are the same in another order. -/
theorem perm_of_sortKeys_eq {a b : List (Text × α)} (h : sortKeys a = sortKeys b) : a.Perm b :=
  (sortKeys_perm a).symm.trans (h ▸ sortKeys_perm b)

theorem insertKey_map (f : α → β) (pair : Text × α) (pairs : List (Text × α)) :
    insertKey (pair.1, f pair.2) (pairs.map fun p => (p.1, f p.2)) =
      (insertKey pair pairs).map fun p => (p.1, f p.2) := by
  induction pairs with
  | nil => rfl
  | cons other rest ih =>
    simp only [List.map_cons, insertKey]
    by_cases h : pair.1.le other.1 = true
    · simp [h]
    · simp [h, ih]

/-- Sorting looks at keys alone. -/
theorem sortKeys_map (f : α → β) (pairs : List (Text × α)) :
    sortKeys (pairs.map fun p => (p.1, f p.2)) = (sortKeys pairs).map fun p => (p.1, f p.2) := by
  induction pairs with
  | nil => rfl
  | cons pair rest ih => rw [List.map_cons, sortKeys, ih, insertKey_map, sortKeys]

/-- The keys stand in their order. -/
def Sorted (pairs : List (Text × α)) : Prop := pairs.Pairwise fun p q => p.1.le q.1 = true

theorem Sorted.insertKey {pairs : List (Text × α)} (h : Sorted pairs) (pair : Text × α) :
    Sorted (insertKey pair pairs) := by
  induction pairs with
  | nil => simp [Json.insertKey, Sorted]
  | cons other rest ih =>
    obtain ⟨hother, hrest⟩ := List.pairwise_cons.1 h
    by_cases hle : pair.1.le other.1 = true
    · simp only [Json.insertKey, hle, if_true]
      refine List.pairwise_cons.2 ⟨fun q hq => ?_, h⟩
      rcases List.mem_cons.1 hq with rfl | hq
      · exact hle
      · exact Text.le_trans hle (hother q hq)
    · simp only [Json.insertKey, hle]
      refine List.pairwise_cons.2 ⟨fun q hq => ?_, ih hrest⟩
      rcases List.mem_cons.1 ((insertKey_perm pair rest).mem_iff.1 hq) with rfl | hq
      · exact (Text.le_total q.1 other.1).resolve_left hle
      · exact hother q hq

theorem sorted_sortKeys (pairs : List (Text × α)) : Sorted (sortKeys pairs) := by
  induction pairs with
  | nil => exact List.Pairwise.nil
  | cons pair rest ih => exact ih.insertKey pair

/-- Sorted pairs stay as they are. -/
theorem sortKeys_of_sorted {pairs : List (Text × α)} (h : Sorted pairs) :
    sortKeys pairs = pairs := by
  induction pairs with
  | nil => rfl
  | cons pair rest ih =>
    obtain ⟨hpair, hrest⟩ := List.pairwise_cons.1 h
    rw [sortKeys, ih hrest]
    rcases rest with _ | ⟨other, rest⟩
    · rfl
    · simp [insertKey, hpair other (by simp)]

@[simp] theorem sortKeys_sortKeys (pairs : List (Text × α)) :
    sortKeys (sortKeys pairs) = sortKeys pairs := sortKeys_of_sorted (sorted_sortKeys pairs)

end Json
end Signet
