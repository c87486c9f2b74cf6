import Mathlib.Data.List.Perm.Subperm
import Mathlib.Data.List.Range

/-! A component keeps at most one open item per slot and writes every change of an item to a log. An
entry carries the number of its item, says whether the item is still open, and has a core that must
not change. `Ledger` relates the open items, the count of numbers used and the log. -/

namespace WeakNet.Foundation.Lifecycle
open List Function

structure Reading (ω γ : Type*) where
  tag : ω → ℕ
  isOpen : ω → Bool
  core : ω → γ

variable {κ ω γ : Type*} (R : Reading ω γ)

def entriesOf (log : List ω) (i : ℕ) : List ω := log.filter (fun o => R.tag o = i)

def lastOf (log : List ω) (i : ℕ) : Option ω := (entriesOf R log i).getLast?

def firstTags (log : List ω) : List ℕ := (log.map R.tag).eraseDups

/-- One or more open entries, then at most one closing entry, all with one core. -/
structure Episode (l : List ω) : Prop where
  shape : ∃ opens closing, l = opens ++ closing ∧ opens ≠ [] ∧ closing.length ≤ 1 ∧
    (∀ o ∈ opens, R.isOpen o = true) ∧ ∀ o ∈ closing, R.isOpen o = false
  sameCore : ∀ o ∈ l, ∀ o' ∈ l, R.core o = R.core o'

structure Ledger (open? : κ → Option ω) (used : ℕ) (log : List ω) : Prop where
  order : firstTags R log = List.range' 1 used
  episode : ∀ i ∈ List.range' 1 used, Episode R (entriesOf R log i)
  current : ∀ o, (∃ k, open? k = some o) ↔ R.isOpen o = true ∧ lastOf R log (R.tag o) = some o
  distinct : ∀ k k' o o', open? k = some o → open? k' = some o' → R.tag o = R.tag o' → k = k'

variable {R} {open? : κ → Option ω} {used : ℕ} {log : List ω} {o o' : ω} {k : κ} {i : ℕ}
theorem entriesOf_append_single :
    entriesOf R (log ++ [o]) i = entriesOf R log i ++ if R.tag o = i then [o] else [] := by
  by_cases h : R.tag o = i
  all_goals simp [entriesOf, h]

theorem lastOf_append_single :
    lastOf R (log ++ [o]) i = if R.tag o = i then some o else lastOf R log i := by
  by_cases h : R.tag o = i
  all_goals simp [lastOf, entriesOf_append_single, h]

theorem firstTags_append_single :
    firstTags R (log ++ [o]) =
      if R.tag o ∈ log.map R.tag then firstTags R log else firstTags R log ++ [R.tag o] := by
  have happend : firstTags R (log ++ [o]) =
      firstTags R log ++ ([R.tag o].removeAll (log.map R.tag)).eraseDups := by
    rw [firstTags, map_append, eraseDups_append]
    rfl
  rw [happend]
  by_cases h : R.tag o ∈ log.map R.tag
  · have hnone : [R.tag o].removeAll (log.map R.tag) = [] := by simpa [List.removeAll] using h
    rw [if_pos h, hnone, eraseDups_nil, append_nil]
  · have hone : [R.tag o].removeAll (log.map R.tag) = [R.tag o] := by
      simpa [List.removeAll] using h
    rw [if_neg h, hone]
    rfl

section
variable (h : Ledger R open? used log)
include h
theorem Ledger.tag_mem :
    i ∈ log.map R.tag ↔ 1 ≤ i ∧ i < 1 + used := by
  rw [← mem_eraseDups, ← firstTags, h.order, mem_range'_1]

theorem Ledger.used_le : used ≤ log.length := by
  have hused : List.range' 1 used ⊆ log.map R.tag := fun i hi => h.tag_mem.mpr (mem_range'_1.mp hi)
  have hle := (subperm_of_subset (nodup_range' 1) hused).length_le
  rwa [length_range', length_map] at hle

theorem Ledger.open_logged (hk : open? k = some o) :
    R.tag o ∈ log.map R.tag := by
  have hlast := ((h.current o).mp ⟨k, hk⟩).2
  have hmem := mem_of_getLast? hlast
  exact mem_map.mpr ⟨o, (mem_filter.mp hmem).1, rfl⟩
end

theorem Ledger.nil : Ledger R (fun _ : κ => none) 0 [] := by
  refine ⟨rfl, ?_, ?_, ?_⟩
  · simp
  · intro o
    simp [lastOf, entriesOf]
  · simp

theorem Episode.single (ho : R.isOpen o) : Episode R [o] := by
  refine ⟨⟨[o], [], rfl, by simp, by simp, by simpa using ho, by simp⟩, ?_⟩
  simp

theorem Episode.append_single {l : List ω} (h : Episode R l) (hlast : l.getLast? = some o)
    (ho : R.isOpen o) (hcore : R.core o' = R.core o) : Episode R (l ++ [o']) := by
  obtain ⟨opens, closing, rfl, hne, hlen, hopens, hclosing⟩ := h.shape
  have hempty : closing = [] := by
    rcases eq_nil_or_concat' closing with hnil | ⟨init, c, rfl⟩
    · exact hnil
    · rw [← append_assoc, List.getLast?_append_of_ne_nil _ (by simp)] at hlast
      have hc : c = o := by simpa using hlast
      have hclosed := hclosing c (by simp)
      rw [hc, ho] at hclosed
      simp at hclosed
  subst hempty
  have hmem : o ∈ opens ++ [] := mem_of_getLast? hlast
  refine ⟨?_, ?_⟩
  · cases ho' : R.isOpen o' with
    | true =>
      exact ⟨opens ++ [o'], [], by simp, by simp, by simp,
        forall_mem_append.mpr ⟨hopens, forall_mem_singleton.mpr ho'⟩, by simp⟩
    | false => exact ⟨opens, [o'], by simp, hne, by simp, hopens, by simpa using ho'⟩
  · have hsame : ∀ a ∈ opens ++ [] ++ [o'], R.core a = R.core o :=
      forall_mem_append.mpr ⟨fun a ha => h.sameCore a ha o hmem, forall_mem_singleton.mpr hcore⟩
    exact fun a ha b hb => (hsame a ha).trans (hsame b hb).symm

section Moves
variable [DecidableEq κ]

section Slot
variable (h : Ledger R open? used log)
  (hother : ∀ {k' a}, k' ≠ k → open? k' = some a → R.tag o ≠ R.tag a)
include h hother
theorem Ledger.current_update (hself : ∀ a, open? k = some a → R.tag o = R.tag a) (a : ω) :
    (∃ k', update open? k (if R.isOpen o then some o else none) k' = some a) ↔
      R.isOpen a ∧ lastOf R (log ++ [o]) (R.tag a) = some a := by
  rw [lastOf_append_single]
  refine ⟨fun hex => ?_, fun hcur => ?_⟩
  · obtain ⟨k', hk'⟩ := hex
    by_cases he : k' = k
    · subst he
      rw [update_self] at hk'
      split_ifs at hk' with hopen
      cases hk'
      exact ⟨hopen, if_pos rfl⟩
    · rw [update_of_ne he] at hk'
      rw [if_neg (hother he hk')]
      exact (h.current a).mp ⟨k', hk'⟩
  · split_ifs at hcur with he
    · rw [Option.some.injEq] at hcur
      obtain ⟨hopen, rfl⟩ := hcur
      exact ⟨k, by rw [update_self, if_pos hopen]⟩
    · obtain ⟨k', hk'⟩ := (h.current a).mpr hcur
      have hne : k' ≠ k := by
        rintro rfl
        exact he (hself a hk')
      exact ⟨k', by rw [update_of_ne hne, hk']⟩

theorem Ledger.distinct_update (k₁ k₂ : κ) (o₁ o₂ : ω)
    (h₁ : update open? k (if R.isOpen o then some o else none) k₁ = some o₁)
    (h₂ : update open? k (if R.isOpen o then some o else none) k₂ = some o₂)
    (he : R.tag o₁ = R.tag o₂) : k₁ = k₂ := by
  by_cases hk₁ : k₁ = k
  · by_cases hk₂ : k₂ = k
    · rw [hk₁, hk₂]
    · subst hk₁
      rw [update_self, Option.ite_none_right_eq_some, Option.some.injEq] at h₁
      rw [update_of_ne hk₂] at h₂
      exact absurd (h₁.2 ▸ he) (hother hk₂ h₂)
  · rw [update_of_ne hk₁] at h₁
    by_cases hk₂ : k₂ = k
    · subst hk₂
      rw [update_self, Option.ite_none_right_eq_some, Option.some.injEq] at h₂
      exact absurd (h₂.2 ▸ he.symm) (hother hk₁ h₁)
    · rw [update_of_ne hk₂] at h₂
      exact h.distinct k₁ k₂ o₁ o₂ h₁ h₂ he
end Slot

theorem Ledger.openItem (h : Ledger R open? used log) (hk : open? k = none)
    (htag : R.tag o = used + 1) (ho : R.isOpen o) :
    Ledger R (update open? k (some o)) (used + 1) (log ++ [o]) := by
  have hfresh : R.tag o ∉ log.map R.tag := by
    rw [h.tag_mem, htag]
    omega
  have hother : ∀ {k' a}, k' ≠ k → open? k' = some a → R.tag o ≠ R.tag a := by
    intro k' a _ hk' he
    exact hfresh (he ▸ h.open_logged hk')
  have hself : ∀ a, open? k = some a → R.tag o = R.tag a := by
    intro a ha
    cases hk.symm.trans ha
  rw [← if_pos (c := R.isOpen o = true) (t := some o) (e := none) ho]
  refine ⟨?_, ?_, h.current_update hother hself, h.distinct_update hother⟩
  · rw [firstTags_append_single, if_neg hfresh, h.order, htag, List.range'_1_concat,
      Nat.add_comm 1 used]
  · intro i hi
    rw [entriesOf_append_single]
    by_cases hi' : R.tag o = i
    · have hnone : entriesOf R log i = [] := by
        refine filter_eq_nil_iff.mpr fun a ha he => hfresh ?_
        rw [hi', ← of_decide_eq_true he]
        exact mem_map.mpr ⟨a, ha, rfl⟩
      rw [if_pos hi', hnone, nil_append]
      exact Episode.single ho
    · rw [if_neg hi', append_nil]
      refine h.episode i ?_
      rw [mem_range'_1] at hi ⊢
      omega

theorem Ledger.continueItem (h : Ledger R open? used log) (hk : open? k = some o)
    (htag : R.tag o' = R.tag o) (hcore : R.core o' = R.core o) :
    Ledger R (update open? k (if R.isOpen o' then some o' else none)) used
      (log ++ [o']) := by
  obtain ⟨ho, hlast⟩ := (h.current o).mp ⟨k, hk⟩
  have hlogged := h.open_logged hk
  have hother : ∀ {k' a}, k' ≠ k → open? k' = some a → R.tag o' ≠ R.tag a := by
    intro k' a hne hk' he
    exact hne (h.distinct k' k a o hk' hk (he.symm.trans htag))
  have hself : ∀ a, open? k = some a → R.tag o' = R.tag a := by
    intro a ha
    rw [htag, Option.some.inj (hk.symm.trans ha)]
  refine ⟨?_, ?_, h.current_update hother hself, h.distinct_update hother⟩
  · rw [firstTags_append_single, htag, if_pos hlogged, h.order]
  · intro i hi
    rw [entriesOf_append_single]
    by_cases hi' : R.tag o' = i
    · rw [if_pos hi']
      subst hi'
      exact (h.episode _ hi).append_single (htag ▸ hlast) ho hcore
    · rw [if_neg hi', append_nil]
      exact h.episode i hi
end Moves

def Linked (R : Reading ω γ) (r : ω → ω → Prop) (log : List ω) : Prop :=
  ∀ i, (entriesOf R log i).IsChain r

variable {r : ω → ω → Prop}
theorem Linked.nil : Linked R r [] := fun _ => List.IsChain.nil

theorem Linked.append_single (h : Linked R r log)
    (hlast : ∀ a, lastOf R log (R.tag o) = some a → r a o) : Linked R r (log ++ [o]) := by
  intro i
  rw [entriesOf_append_single]
  split_ifs with hi
  · rw [isChain_append]
    refine ⟨h i, List.IsChain.singleton o, fun a ha b hb => ?_⟩
    obtain rfl : o = b := by simpa using hb
    exact hlast a (by rw [hi]; exact ha)
  · rw [append_nil]
    exact h i

theorem Ledger.history (h : Ledger R open? used log) :
    firstTags R log = List.range' 1 used ∧ (∀ o ∈ log, Episode R (entriesOf R log (R.tag o))) ∧
      ∀ o, (∃ k, open? k = some o) ↔ ∃ i, lastOf R log i = some o ∧ R.isOpen o := by
  refine ⟨h.order, fun o ho => ?_, fun o => ?_⟩
  · have htag := h.tag_mem.mp (mem_map.mpr ⟨o, ho, rfl⟩)
    exact h.episode _ (mem_range'_1.mpr htag)
  · rw [h.current]
    refine ⟨fun hcur => ⟨R.tag o, hcur.2, hcur.1⟩, fun hcur => ?_⟩
    obtain ⟨i, hlast, hopen⟩ := hcur
    have hmem := (mem_filter.mp (mem_of_getLast? hlast)).2
    have htag : R.tag o = i := of_decide_eq_true hmem
    exact ⟨hopen, htag ▸ hlast⟩
end WeakNet.Foundation.Lifecycle
