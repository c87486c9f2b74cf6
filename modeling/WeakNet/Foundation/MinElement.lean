import Mathlib.Order.Lattice

/-! `minElement before first rest` scans a non-empty list as `std::min_element` does and keeps the
first element that no later one comes before; `minBy key` compares by a key. -/

namespace WeakNet.Foundation
open List
variable {α κ : Type*}
def minElement (before : α → α → Bool) : α → List α → α
  | best, [] => best
  | best, a :: as => minElement before (if before a best then a else best) as

theorem minElement_mem {before : α → α → Bool} (first : α) (rest : List α) :
    minElement before first rest ∈ first :: rest := by
  induction rest generalizing first with
  | nil => exact mem_cons_self
  | cons a as ih =>
    have hmem := ih (if before a first then a else first)
    rw [minElement]
    split_ifs at hmem ⊢
    · exact mem_cons_of_mem first hmem
    · exact cons_subset_cons first (subset_cons_self a as) hmem

variable [LinearOrder κ] {key : α → κ} {first : α} {rest : List α}
def minBy (key : α → κ) (first : α) (rest : List α) : α :=
  minElement (fun a b => key a < key b) first rest

theorem minBy_mem : minBy key first rest ∈ first :: rest := minElement_mem first rest

theorem minBy_le : ∀ a ∈ first :: rest, key (minBy key first rest) ≤ key a := by
  induction rest generalizing first with
  | nil => exact forall_mem_singleton.mpr le_rfl
  | cons b _ ih =>
    rw [minBy, minElement, forall_mem_cons, forall_mem_cons]
    obtain ⟨hbest, hrest⟩ :=
      forall_mem_cons.mp (@ih (if decide (key b < key first) then b else first))
    refine ⟨hbest.trans ?_, hbest.trans ?_, hrest⟩
    · split_ifs with hless
      · exact (of_decide_eq_true hless).le
      · exact le_rfl
    · split_ifs with hless
      · exact le_rfl
      · exact not_lt.mp fun h => hless (decide_eq_true h)
end WeakNet.Foundation
