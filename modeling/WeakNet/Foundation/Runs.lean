import Mathlib.Data.List.Basic

/-! `run step s ops` folds the operations over the state. `AllSteps` says that a guard holds of the
state before each step, `AllStates` that a property holds in every state passed, the first one
included. -/

namespace WeakNet.Foundation.Runs
open List
variable {σ α : Type*}
def run (step : σ → α → σ) (s : σ) (ops : List α) : σ := ops.foldl step s

def AllSteps (step : σ → α → σ) (guard : σ → α → Prop) : σ → List α → Prop
  | _, [] => True
  | s, a :: ops => guard s a ∧ AllSteps step guard (step s a) ops

def AllStates (step : σ → α → σ) (P : σ → Prop) : σ → List α → Prop
  | s, [] => P s
  | s, a :: ops => P s ∧ AllStates step P (step s a) ops

variable {step : σ → α → σ} {guard : σ → α → Prop} {P : σ → Prop}
variable {s : σ} {ops : List α}
theorem AllStates.head (h : AllStates step P s ops) : P s := by
  cases ops with
  | nil => exact h
  | cons _ _ => exact h.1

def decideAllSteps [∀ s a, Decidable (guard s a)] :
    (s : σ) → (ops : List α) → Decidable (AllSteps step guard s ops)
  | _, [] => .isTrue trivial
  | s, a :: ops =>
    have := decideAllSteps (step s a) ops
    inferInstanceAs (Decidable (guard s a ∧ AllSteps step guard (step s a) ops))

instance [∀ s a, Decidable (guard s a)] (s : σ) (ops : List α) :
    Decidable (AllSteps step guard s ops) :=
  decideAllSteps s ops

def decideAllStates [∀ s, Decidable (P s)] :
    (s : σ) → (ops : List α) → Decidable (AllStates step P s ops)
  | s, [] => inferInstanceAs (Decidable (P s))
  | s, a :: ops =>
    have := decideAllStates (step s a) ops
    inferInstanceAs (Decidable (P s ∧ AllStates step P (step s a) ops))

instance [∀ s, Decidable (P s)] (s : σ) (ops : List α) : Decidable (AllStates step P s ops) :=
  decideAllStates s ops

@[simp] theorem run_nil (s : σ) : run step s [] = s := rfl

@[simp] theorem run_cons (s : σ) (a : α) (ops : List α) :
    run step s (a :: ops) = run step (step s a) ops := rfl

theorem run_append (s : σ) (ops ops' : List α) :
    run step s (ops ++ ops') = run step (run step s ops) ops' :=
  foldl_append

theorem run_invariant (hstep : ∀ s a, P s → P (step s a)) (hs : P s) (ops : List α) :
    P (run step s ops) :=
  foldlRecOn ops step hs fun s hs a _ => hstep s a hs

theorem run_guarded (hstep : ∀ s a, P s → guard s a → P (step s a)) (hs : P s)
    (hops : AllSteps step guard s ops) : P (run step s ops) := by
  induction ops generalizing s with
  | nil => exact hs
  | cons a _ ih => exact ih (hstep s a hs hops.1) hops.2

theorem allSteps_iff :
    AllSteps step guard s ops ↔
      ∀ pre a post, ops = pre ++ a :: post → guard (run step s pre) a := by
  induction ops generalizing s with
  | nil => simp [AllSteps]
  | cons b ops ih =>
    rw [AllSteps, ih]
    refine ⟨fun hsteps pre a post h => ?_, fun h => ?_⟩
    · obtain ⟨hb, hrest⟩ := hsteps
      cases pre with
      | nil =>
        cases h
        exact hb
      | cons _ pre =>
        obtain ⟨rfl, htail⟩ := List.cons.inj h
        exact hrest pre a post htail
    · exact ⟨h [] b ops rfl, fun pre a post he => h (b :: pre) a post (congrArg (b :: ·) he)⟩

variable {good : σ → α → Prop}
theorem allStates_iff_allSteps (hstep : ∀ s a, P s → guard s a → (P (step s a) ↔ good s a))
    (hs : P s) (hops : AllSteps step guard s ops) :
    AllStates step P s ops ↔ AllSteps step good s ops := by
  induction ops generalizing s with
  | nil => exact ⟨fun _ => trivial, fun _ => hs⟩
  | cons a _ ih =>
    have hgood := hstep s a hs hops.1
    refine ⟨fun h => ?_, fun h => ?_⟩
    · have hnext : P (step s a) := h.2.head
      exact ⟨hgood.mp hnext, (ih hnext hops.2).mp h.2⟩
    · have hnext := hgood.mpr h.1
      exact ⟨hs, (ih hnext hops.2).mpr h.2⟩

theorem allSteps_of_invariant (hguard : ∀ s a, P s → guard s a) (hstep : ∀ s a, P s → P (step s a))
    (hs : P s) (ops : List α) :
    AllSteps step guard s ops := by
  induction ops generalizing s with
  | nil => trivial
  | cons a _ ih => exact ⟨hguard s a hs, ih (hstep s a hs)⟩

theorem AllSteps.imp (himp : ∀ s a, P s → guard s a → good s a)
    (hstep : ∀ s a, P s → guard s a → P (step s a)) (hs : P s) (h : AllSteps step guard s ops) :
    AllSteps step good s ops := by
  induction ops generalizing s with
  | nil => trivial
  | cons a _ ih => exact ⟨himp s a hs h.1, ih (hstep s a hs h.1) h.2⟩

theorem AllSteps.and_next (h : AllSteps step guard s ops) (h' : AllStates step P s ops) :
    AllSteps step (fun s a => guard s a ∧ P (step s a)) s ops := by
  induction ops generalizing s with
  | nil => trivial
  | cons _ _ ih => exact ⟨⟨h.1, h'.2.head⟩, ih h.2 h'.2⟩

theorem allSteps_simulation {τ : Type*} {step' : τ → α → τ} {guard' : τ → α → Prop}
    {R : σ → τ → Prop}
    (hsim : ∀ s s' a, a ∈ ops → R s s' → (guard s a ↔ guard' s' a) ∧ (guard s a → R (step s a)
      (step' s' a))) {s' : τ} (hs : R s s') :
    (AllSteps step guard s ops ↔ AllSteps step' guard' s' ops) ∧
      (AllSteps step guard s ops → R (run step s ops) (run step' s' ops)) := by
  induction ops generalizing s s' with
  | nil => exact ⟨Iff.rfl, fun _ => hs⟩
  | cons a _ ih =>
    obtain ⟨hguard, hnext⟩ := hsim s s' a mem_cons_self hs
    have hrest := fun hR : R (step s a) (step' s' a) =>
      ih (fun s s' b hb => hsim s s' b (mem_cons_of_mem a hb)) hR
    refine ⟨⟨fun h => ?_, fun h => ?_⟩, fun h => (hrest (hnext h.1)).2 h.2⟩
    · exact ⟨hguard.mp h.1, (hrest (hnext h.1)).1.mp h.2⟩
    · have ha := hguard.mpr h.1
      exact ⟨ha, (hrest (hnext ha)).1.mpr h.2⟩

theorem run_append_single (pre ops : List α) :
    run (fun seen a => seen ++ [a]) pre ops = pre ++ ops := by
  rw [run, foldl_append_eq_append, ← flatMap_def, flatMap_singleton']

variable {ε : Type*}
theorem foldlM_cons_ok {f : σ → α → Except ε σ} {s' : σ} {a : α} (h : f s a = .ok s')
    (ops : List α) : (a :: ops).foldlM f s = ops.foldlM f s' := by
  rw [foldlM_cons, h]
  rfl

theorem foldlM_progress {f : σ → α → Except ε σ} {P : List α → σ → Prop} {Q : ε → Prop}
    (hok : ∀ pre a post s s', ops = pre ++ a :: post → P pre s → f s a = .ok s' → P (pre ++ [a]) s')
    (herror : ∀ pre a post s e, ops = pre ++ a :: post → P pre s → f s a = .error e → Q e)
    (hs : P [] s) :
    (∀ s', ops.foldlM f s = .ok s' → P ops s') ∧ (∀ e, ops.foldlM f s = .error e → Q e) := by
  have hrest : ∀ (rest pre : List α) (s : σ), ops = pre ++ rest → P pre s →
      (∀ s', rest.foldlM f s = .ok s' → P ops s') ∧ (∀ e, rest.foldlM f s = .error e → Q e) := by
    intro rest
    induction rest with
    | nil =>
      intro pre s hsplit hs
      refine ⟨fun s' h => ?_, fun e h => ?_⟩
      · cases h
        rw [hsplit, append_nil]
        exact hs
      · cases h
    | cons a rest ih =>
      intro pre s hsplit hs
      rw [foldlM_cons]
      cases hfirst : f s a with
      | ok next =>
        apply ih (pre ++ [a]) next
        · rw [hsplit, append_assoc, singleton_append]
        · exact hok pre a rest s next hsplit hs hfirst
      | error failure =>
        refine ⟨fun s' h => ?_, fun e h => ?_⟩
        · cases h
        · cases h
          exact herror pre a rest s failure hsplit hs hfirst
  exact hrest ops [] s rfl hs

theorem foldlM_invariant {f : σ → α → Except ε σ} {Q : ε → Prop}
    (hok : ∀ s a s', P s → f s a = .ok s' → P s') (herror : ∀ s a e, P s → f s a = .error e → Q e)
    (hs : P s) (ops : List α) :
    (∀ s', ops.foldlM f s = .ok s' → P s') ∧ (∀ e, ops.foldlM f s = .error e → Q e) :=
  foldlM_progress (P := fun _ s => P s) (fun _ a _ s s' _ => hok s a s')
    (fun _ a _ s e _ => herror s a e) hs
end WeakNet.Foundation.Runs
