import Mathlib.Data.List.Basic

/-! A reader folds the messages it is given into its state. `Leads s pending target` says that the
messages still on their way take the reader from `s` to `target`, and that those that are not
`binding` may be lost without harm. -/

namespace WeakNet.Foundation
variable {σ ε : Type*}
def Leads (absorb : σ → ε → σ) (binding : ε → Prop) : σ → List ε → σ → Prop
  | s, [], target => s = target
  | s, e :: pending, target =>
    (¬binding e → absorb s e = s) ∧ Leads absorb binding (absorb s e) pending target

namespace Leads
variable {absorb : σ → ε → σ} {binding : ε → Prop} {s t u : σ} {p q : List ε} {e e' : ε}
theorem append_iff :
    Leads absorb binding s (p ++ q) u ↔
      ∃ t, Leads absorb binding s p t ∧ Leads absorb binding t q u := by
  induction p generalizing s with
  | nil =>
    refine ⟨fun h => ⟨s, rfl, h⟩, fun h => ?_⟩
    obtain ⟨t, rfl, h⟩ := h
    exact h
  | cons _ _ ih =>
    refine ⟨fun h => ?_, fun h => ?_⟩
    · obtain ⟨t, hp, hq⟩ := ih.mp h.2
      exact ⟨t, ⟨h.1, hp⟩, hq⟩
    · obtain ⟨t, hp, hq⟩ := h
      exact ⟨hp.1, ih.mpr ⟨t, hp.2, hq⟩⟩

theorem append (h : Leads absorb binding s p t) (h' : Leads absorb binding t q u) :
    Leads absorb binding s (p ++ q) u :=
  append_iff.mpr ⟨t, h, h'⟩

theorem idle (h : ∀ e ∈ p, absorb s e = s) : Leads absorb binding s p s := by
  induction p with
  | nil => rfl
  | cons e _ ih =>
    have he : absorb s e = s := h e List.mem_cons_self
    refine ⟨fun _ => he, ?_⟩
    rw [he]
    exact ih fun e he => h e (List.mem_cons_of_mem _ he)

theorem insert (h : Leads absorb binding s (p ++ q) u) (he : ∀ s, absorb s e = s) :
    Leads absorb binding s (p ++ e :: q) u := by
  obtain ⟨t, hp, hq⟩ := append_iff.mp h
  apply hp.append
  refine ⟨fun _ => he t, ?_⟩
  rw [he t]
  exact hq

theorem remove (h : Leads absorb binding s (p ++ e :: q) u) (he : ¬binding e) :
    Leads absorb binding s (p ++ q) u := by
  obtain ⟨t, hp, hsame, hq⟩ := append_iff.mp h
  apply hp.append
  rw [hsame he] at hq
  exact hq

theorem removeAll {removed : List ε} (h : Leads absorb binding s (p ++ (removed ++ q)) u)
    (hall : ∀ e ∈ removed, ¬binding e) : Leads absorb binding s (p ++ q) u := by
  induction removed with
  | nil => exact h
  | cons e _ ih =>
    apply ih
    · exact h.remove (hall e List.mem_cons_self)
    · exact fun e' he' => hall e' (List.mem_cons_of_mem e he')

theorem replace (h : Leads absorb binding s (p ++ e :: q) u)
    (habsorb : ∀ s, absorb s e' = absorb s e) (hbinding : binding e → binding e') :
    Leads absorb binding s (p ++ e' :: q) u := by
  obtain ⟨t, hp, hsame, hq⟩ := append_iff.mp h
  apply hp.append
  refine ⟨fun he' => ?_, ?_⟩ <;> rw [habsorb]
  · exact hsame fun he => he' (hbinding he)
  · exact hq
end Leads
end WeakNet.Foundation
