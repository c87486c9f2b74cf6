import Mathlib.Data.List.Basic
import Mathlib.Data.List.Induction
import WeakNet.Foundation.Runs

/-! A detector becomes active after `rise` bad samples in a row and idle again after `fall` good
ones. The declarative rule speaks of positions in the whole history; both are compared through the
lengths of the trailing streaks. -/

namespace WeakNet.Foundation.Hysteresis
open Runs List

variable {α : Type*}
def EndsWith (p : α → Bool) (n : ℕ) (xs : List α) : Prop :=
  ∃ u v, xs = u ++ v ∧ v.length = n ∧ ∀ x ∈ v, p x = true

def HasStreak (p : α → Bool) (n : ℕ) (xs : List α) : Prop :=
  ∃ u v w, xs = u ++ v ++ w ∧ v.length = n ∧ ∀ x ∈ v, p x = true

def trailing (p : α → Bool) (xs : List α) : ℕ :=
  xs.foldl (fun n x => if p x then n + 1 else 0) 0

variable {p : α → Bool} {xs : List α} {x : α} {n : ℕ}
@[simp] theorem trailing_nil : trailing p [] = 0 := rfl

theorem trailing_append_single :
    trailing p (xs ++ [x]) = if p x then trailing p xs + 1 else 0 := by
  simp [trailing]

theorem endsWith_append_single :
    EndsWith p (n + 1) (xs ++ [x]) ↔ p x ∧ EndsWith p n xs := by
  refine ⟨fun h => ?_, fun h => ?_⟩
  · obtain ⟨u, v, heq, hlen, hall⟩ := h
    rcases eq_nil_or_concat' v with rfl | ⟨v', y, rfl⟩
    · simp at hlen
    · rw [← append_assoc] at heq
      obtain ⟨rfl, hy⟩ := append_inj' heq rfl
      obtain rfl := singleton_inj.mp hy
      refine ⟨hall x (by simp), u, v', rfl, by simpa using hlen, fun z hz => ?_⟩
      exact hall z (mem_append_left _ hz)
  · obtain ⟨hx, u, v, rfl, hlen, hall⟩ := h
    exact ⟨u, v ++ [x], by simp, by simp [hlen],
      forall_mem_append.mpr ⟨hall, forall_mem_singleton.mpr hx⟩⟩

theorem endsWith_iff : EndsWith p n xs ↔ n ≤ trailing p xs := by
  induction xs using List.reverseRecOn generalizing n with
  | nil =>
    refine ⟨fun h => ?_, fun h => ⟨[], [], rfl, (Nat.le_zero.mp h).symm, by simp⟩⟩
    obtain ⟨u, v, heq, rfl, -⟩ := h
    simp [(append_eq_nil_iff.mp heq.symm).2]
  | append_singleton xs x ih =>
    cases n with
    | zero => exact ⟨fun _ => Nat.zero_le _, fun _ => ⟨xs ++ [x], [], by simp, rfl, by simp⟩⟩
    | succ _ =>
      rw [endsWith_append_single, ih, trailing_append_single]
      by_cases hx : p x
      all_goals simp [hx]

theorem hasStreak_append_single :
    HasStreak p n (xs ++ [x]) ↔ HasStreak p n xs ∨ EndsWith p n (xs ++ [x]) := by
  refine ⟨fun h => ?_, fun h => ?_⟩
  · obtain ⟨u, v, w, heq, hlen, hall⟩ := h
    rcases eq_nil_or_concat' w with rfl | ⟨w', y, rfl⟩
    · exact .inr ⟨u, v, by simpa using heq, hlen, hall⟩
    · rw [← append_assoc] at heq
      exact .inl ⟨u, v, w', (append_inj' heq rfl).1, hlen, hall⟩
  · rcases h with ⟨u, v, w, rfl, hlen, hall⟩ | ⟨u, v, heq, hlen, hall⟩
    · exact ⟨u, v, w ++ [x], by simp, hlen, hall⟩
    · exact ⟨u, v, [], by simpa using heq, hlen, hall⟩

section Rule
variable (bad good : α → Bool) (rise fall : ℕ)

/-- At some position the last `rise` samples are bad, and after it there are never `fall`
good samples in a row. -/
def Raised (xs : List α) : Prop :=
  ∃ before later, xs = before ++ later ∧ EndsWith bad rise before ∧ ¬ HasStreak good fall later

variable {bad good rise fall}
theorem hasStreak_nil (hn : 0 < n) : ¬ HasStreak p n [] := by
  intro h
  obtain ⟨u, v, w, heq, hlen, -⟩ := h
  have hv : v = [] := by
    have := append_eq_nil_iff.mp heq.symm
    exact (append_eq_nil_iff.mp this.1).2
  simp [hv] at hlen
  omega

theorem not_raised_nil (hrise : 0 < rise) : ¬ Raised bad good rise fall [] := by
  intro h
  obtain ⟨before, later, heq, hend, -⟩ := h
  obtain ⟨rfl, rfl⟩ := append_eq_nil_iff.mp heq.symm
  rw [endsWith_iff] at hend
  simp at hend
  omega

theorem trailing_of_append {before later : List α} (hbefore : trailing good before = 0) :
    trailing good (before ++ later) = trailing good later := by
  induction later using List.reverseRecOn with
  | nil => simpa using hbefore
  | append_singleton _ _ ih =>
    rw [← append_assoc, trailing_append_single, trailing_append_single, ih]

section
variable (hdisjoint : ∀ x, bad x = true → good x = false)
include hdisjoint
theorem trailing_good_of_endsWith (hrise : 0 < rise) {before : List α}
    (h : EndsWith bad rise before) :
    trailing good before = 0 := by
  obtain ⟨m, rfl⟩ : ∃ m, rise = m + 1 := ⟨rise - 1, by omega⟩
  rcases eq_nil_or_concat' before with rfl | ⟨before, x, rfl⟩
  · rfl
  · have hx := hdisjoint x (endsWith_append_single.mp h).1
    rw [trailing_append_single, hx]
    simp

theorem raised_append_single (hrise : 0 < rise) (hfall : 0 < fall) (xs : List α) (x : α) :
    Raised bad good rise fall (xs ++ [x]) ↔ rise ≤ trailing bad (xs ++ [x]) ∨
        (Raised bad good rise fall xs ∧ trailing good (xs ++ [x]) < fall) := by
  refine ⟨fun h => ?_, fun h => ?_⟩
  · obtain ⟨before, later, heq, hend, hno⟩ := h
    rcases eq_nil_or_concat' later with rfl | ⟨later, y, rfl⟩
    · rw [append_nil] at heq
      exact .inl (endsWith_iff.mp (heq ▸ hend))
    · rw [← append_assoc] at heq
      obtain ⟨rfl, hy⟩ := append_inj' heq rfl
      obtain rfl := singleton_inj.mp hy
      rw [hasStreak_append_single, not_or, endsWith_iff, Nat.not_le] at hno
      refine .inr ⟨⟨before, later, rfl, hend, hno.1⟩, ?_⟩
      rw [append_assoc, trailing_of_append (trailing_good_of_endsWith hdisjoint hrise hend)]
      exact hno.2
  · rcases h with hbad | ⟨⟨before, later, rfl, hend, hno⟩, hgood⟩
    · exact ⟨xs ++ [x], [], by simp, endsWith_iff.mpr hbad, hasStreak_nil hfall⟩
    · refine ⟨before, later ++ [x], by simp, hend, ?_⟩
      rw [hasStreak_append_single, not_or, endsWith_iff, Nat.not_le]
      refine ⟨hno, ?_⟩
      rwa [append_assoc,
        trailing_of_append (trailing_good_of_endsWith hdisjoint hrise hend)] at hgood
end
end Rule

inductive Phase where
  | idle (bad : ℕ)
  | active (good : ℕ)
deriving DecidableEq

def Phase.isActive : Phase → Bool
  | .idle _ => false
  | .active _ => true

section Detector
variable (bad good : α → Bool) (rise fall : ℕ)
def next : Phase → α → Phase
  | .idle n, x =>
    if bad x then (if rise ≤ n + 1 then .active 0 else .idle (n + 1)) else .idle 0
  | .active n, x =>
    if good x then (if fall ≤ n + 1 then .idle 0 else .active (n + 1)) else .active 0

def detect (xs : List α) : Phase := run (next bad good rise fall) (.idle 0) xs

variable {bad good rise fall}
theorem detect_append_single :
    detect bad good rise fall (xs ++ [x]) =
      next bad good rise fall (detect bad good rise fall xs) x := by
  simp [detect, run_append]

def Agrees (bad good : α → Bool) (rise fall : ℕ) (xs : List α) : Phase → Prop
  | .idle n => n = trailing bad xs ∧ n < rise ∧ ¬ Raised bad good rise fall xs
  | .active n => n = trailing good xs ∧ n < fall ∧ Raised bad good rise fall xs

section
variable (hdisjoint : ∀ x, bad x = true → good x = false)
include hdisjoint
theorem detect_agrees (hrise : 0 < rise) (hfall : 0 < fall) (xs : List α) :
    Agrees bad good rise fall xs (detect bad good rise fall xs) := by
  induction xs using List.reverseRecOn with
  | nil => exact ⟨rfl, hrise, not_raised_nil hrise⟩
  | append_singleton xs x ih =>
    have hstep := raised_append_single hdisjoint hrise hfall xs x
    rw [detect_append_single]
    cases hphase : detect bad good rise fall xs with
    | idle n =>
      rw [hphase] at ih
      obtain ⟨hn, hlt, hno⟩ := ih
      by_cases hb : bad x
      · have htrail : trailing bad (xs ++ [x]) = n + 1 := by
          rw [trailing_append_single, if_pos hb, hn]
        by_cases hup : rise ≤ n + 1
        · have hgood : trailing good (xs ++ [x]) = 0 := by
            rw [trailing_append_single, hdisjoint x hb]
            rfl
          simp only [next, hb, hup, ↓reduceIte, Agrees]
          exact ⟨hgood.symm, hfall, hstep.mpr (.inl (by omega))⟩
        · simp only [next, hb, hup, ↓reduceIte, Agrees]
          refine ⟨htrail.symm, by omega, fun h => ?_⟩
          rcases hstep.mp h with hle | hold
          · omega
          · exact hno hold.1
      · have htrail : trailing bad (xs ++ [x]) = 0 := by
          rw [trailing_append_single, if_neg hb]
        simp only [next, hb, Bool.false_eq_true, ↓reduceIte, Agrees]
        refine ⟨htrail.symm, hrise, fun h => ?_⟩
        rcases hstep.mp h with hle | hold
        · omega
        · exact hno hold.1
    | active n =>
      rw [hphase] at ih
      obtain ⟨hn, hlt, hold⟩ := ih
      by_cases hg : good x
      · have hb : trailing bad (xs ++ [x]) = 0 := by
          have hx : ¬ bad x := by
            intro hbad
            rw [hdisjoint x hbad] at hg
            simp at hg
          rw [trailing_append_single, if_neg hx]
        have htrail : trailing good (xs ++ [x]) = n + 1 := by
          rw [trailing_append_single, if_pos hg, hn]
        by_cases hdown : fall ≤ n + 1 <;> simp only [next, hg, hdown, ↓reduceIte, Agrees]
        · refine ⟨hb.symm, hrise, fun h => ?_⟩
          rcases hstep.mp h with hle | hkeep
          · omega
          · have hlow := hkeep.2
            omega
        · exact ⟨htrail.symm, by omega, hstep.mpr (.inr ⟨hold, by omega⟩)⟩
      · have htrail : trailing good (xs ++ [x]) = 0 := by
          rw [trailing_append_single, if_neg hg]
        simp only [next, hg, Bool.false_eq_true, ↓reduceIte, Agrees]
        exact ⟨htrail.symm, hfall, hstep.mpr (.inr ⟨hold, by omega⟩)⟩

theorem detect_isActive_iff (hrise : 0 < rise) (hfall : 0 < fall) (xs : List α) :
    (detect bad good rise fall xs).isActive ↔ Raised bad good rise fall xs := by
  have h := detect_agrees hdisjoint hrise hfall xs
  cases hphase : detect bad good rise fall xs with
  | idle n | active n =>
    rw [hphase] at h
    simp [Phase.isActive, h.2.2]
end
end Detector
end WeakNet.Foundation.Hysteresis
