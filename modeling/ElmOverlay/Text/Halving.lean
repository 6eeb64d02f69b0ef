/-!
Search by halving. Where a test holds of the first elements of an array and of no other, halving
finds how many they are.
-/
namespace ElmOverlay

/-- How many elements satisfy a test, if all below `lo` do and none from `hi` on. -/
def partitionFrom {α : Type} (xs : Array α) (test : α → Bool) (lo hi : Nat) : Nat :=
  if lo < hi then
    let mid := (lo + hi) / 2
    if xs[mid]?.any test then partitionFrom xs test (mid + 1) hi
    else partitionFrom xs test lo mid
  else lo
termination_by hi - lo

/-- How many elements satisfy a test that holds of the first ones and of no other. -/
def partitionPoint {α : Type} (xs : Array α) (test : α → Bool) : Nat :=
  partitionFrom xs test 0 xs.size

section

variable {α : Type} {xs : Array α} {test : α → Bool} {front back : List α}
  (split : xs.toList = front ++ back) (all : ∀ x ∈ front, test x = true)
  (none : ∀ x ∈ back, test x = false)
include split all none

theorem any_getElem?_iff {i : Nat} (inside : i < xs.size) :
    xs[i]?.any test = true ↔ i < front.length := by
  rw [← Array.length_toList] at inside
  rw [← Array.getElem?_toList, List.getElem?_eq_getElem inside, Option.any_some]
  simp only [split]
  rw [split, List.length_append] at inside
  by_cases early : i < front.length
  · rw [List.getElem_append_left early]
    simp [early, all]
  · rw [List.getElem_append_right (Nat.not_lt.mp early)]
    simp [early, none]

theorem partitionFrom_eq {lo hi : Nat} (low : lo ≤ front.length) (high : front.length ≤ hi)
    (inside : hi ≤ xs.size) : partitionFrom xs test lo hi = front.length := by
  induction lo, hi using partitionFrom.induct xs test with
  | case1 lo hi less mid holds ih =>
    have early := (any_getElem?_iff split all none (by omega)).mp holds
    rw [partitionFrom, if_pos less]
    exact (if_pos holds).trans (ih early high inside)
  | case2 lo hi less mid fails ih =>
    have late := mt (any_getElem?_iff split all none (i := mid) (by omega)).mpr fails
    rw [partitionFrom, if_pos less]
    exact (if_neg fails).trans (ih low (by omega) (by omega))
  | case3 lo hi done =>
    rw [partitionFrom, if_neg done]
    omega

theorem partitionPoint_eq : partitionPoint xs test = front.length := by
  have size : xs.size = front.length + back.length := by
    rw [← Array.length_toList, split, List.length_append]
  exact partitionFrom_eq split all none (Nat.zero_le _) (by omega) (Nat.le_refl _)

end

end ElmOverlay
