import Mathlib.Algebra.BigOperators.Group.List.Basic
import Mathlib.Data.List.Chain

/-! `Consecutive R samples readings`: one reading for each pair of neighbours in `samples`, related
to them by `R`. Readings that share their ends form a chain, and the differences they carry add up. -/

namespace WeakNet.Foundation
open List

variable {α β : Type*} {R : α → α → β → Prop}
inductive Consecutive (R : α → α → β → Prop) : List α → List β → Prop
  | nil : Consecutive R [] []
  | single (a : α) : Consecutive R [a] []
  | cons {a b : α} {l : List α} {m : β} {readings : List β} (hread : R a b m)
    (hrest : Consecutive R (b :: l) readings) : Consecutive R (a :: b :: l) (m :: readings)

namespace Consecutive
variable {samples : List α} {readings : List β}
theorem isChain {S : β → β → Prop} (hS : ∀ a b c m m', R a b m → R b c m' → S m m')
    (h : Consecutive R samples readings) :
    readings.IsChain S := by
  induction h with
  | nil | single a => exact .nil
  | cons hread hrest ih =>
    cases hrest with
    | single _ => exact .singleton _
    | cons hread' _ => exact .cons_cons (hS _ _ _ _ _ hread hread') ih

theorem length (h : Consecutive R samples readings) :
    readings.length = samples.length - 1 := by
  induction h with
  | nil | single a => rfl
  | cons _ _ ih => simp [ih]

theorem telescope {M : Type*} [AddMonoid M] {v : α → Option M} {δ : β → Option M}
    (h : Consecutive R samples readings)
    (hread : ∀ a ∈ samples, ∀ b ∈ samples, ∀ m, R a b m → ∃ x d, v a = some x ∧ δ m = some d ∧ v b
      = some (x + d)) :
    ∃ deltas : List M, readings.map δ = deltas.map some ∧
      ∀ first last x, samples.head? = some first → samples.getLast? = some last →
        v first = some x → v last = some (x + deltas.sum) := by
  induction h with
  | nil => exact ⟨[], rfl, fun first last x hfirst => absurd hfirst nofun⟩
  | single a =>
    refine ⟨[], rfl, fun first last x hfirst hlast hx => ?_⟩
    cases hfirst
    obtain rfl : a = last := Option.some.inj hlast
    rw [sum_nil, add_zero, hx]
  | @cons a b _ m _ hab _ ih =>
    obtain ⟨deltas, hdeltas, hends⟩ := ih fun a ha b hb =>
      hread a (mem_cons_of_mem _ ha) b (mem_cons_of_mem _ hb)
    obtain ⟨y, d, hy, hd, hb⟩ := hread a mem_cons_self b (mem_cons_of_mem _ mem_cons_self) m hab
    refine ⟨d :: deltas, ?_, fun first last x hfirst hlast hx => ?_⟩
    · rw [map_cons, map_cons, hd, hdeltas]
    · cases hfirst
      cases hy.symm.trans hx
      rw [List.getLast?_cons_cons] at hlast
      rw [hends b last (y + d) rfl hlast hb, sum_cons, add_assoc]
end Consecutive
end WeakNet.Foundation
