import Mathlib.Data.List.Forall2

/-! When a chain of fallible steps succeeds, and which errors it can end with. -/

namespace WeakNet.Foundation.Fallible
open List Except

universe u

variable {ε : Type*} {α β : Type u} {x : Except ε α} {f : α → Except ε β}
theorem bind_eq_ok {b : β} :
    x >>= f = .ok b ↔ ∃ a, x = .ok a ∧ f a = .ok b := by
  cases x <;> simp [bind, Except.bind]

variable {e : ε}
theorem bind_eq_error :
    x >>= f = .error e ↔ x = .error e ∨ ∃ a, x = .ok a ∧ f a = .error e := by
  cases x <;> simp [bind, Except.bind]

theorem eq_error_of_map {f : α → β} (h : x.map f = .error e) :
    x = .error e := by
  cases x with
  | ok _ => cases h
  | error _ => exact congrArg Except.error (Except.error.inj h)

def refuse (p : Prop) [Decidable p] (e : ε) : Except ε Unit :=
  if p then .error e else .ok ()

theorem refuse_eq_ok {p : Prop} [Decidable p] : refuse p e = .ok () ↔ ¬p := by
  by_cases h : p <;> simp [refuse, h]

variable {γ : Type*} {l : List γ}
theorem mapM_eq_ok {f : γ → Except ε α} {l' : List α} :
    l.mapM f = .ok l' ↔ Forall₂ (fun c a => f c = .ok a) l l' := by
  induction l generalizing l' with
  | nil =>
    rw [mapM_nil, forall₂_nil_left_iff]
    exact ⟨fun h => (ok.inj h).symm, fun h => congrArg ok h.symm⟩
  | cons _ _ ih =>
    rw [mapM_cons, bind_eq_ok]
    constructor
    · rintro ⟨a, ha, hrest⟩
      obtain ⟨rest, hl, hcons⟩ := bind_eq_ok.mp hrest
      cases hcons
      exact .cons ha (ih.mp hl)
    · rintro (_ | ⟨ha, hrest⟩)
      exact ⟨_, ha, bind_eq_ok.mpr ⟨_, ih.mpr hrest, rfl⟩⟩

/-- The first element that fails gives the error. -/
theorem mapM_eq_error {f : γ → Except ε α} :
    l.mapM f = .error e ↔ ∃ before c after, l = before ++ c :: after ∧
      (∀ b ∈ before, ∃ a, f b = .ok a) ∧ f c = .error e := by
  induction l with
  | nil =>
    rw [mapM_nil]
    refine iff_of_false nofun ?_
    rintro ⟨before, c, after, hnil, -⟩
    exact absurd hnil.symm (append_ne_nil_of_right_ne_nil before (cons_ne_nil c after))
  | cons first l ih =>
    rw [mapM_cons, bind_eq_error]
    constructor
    · rintro (hfirst | ⟨a, ha, hrest⟩)
      · exact ⟨[], first, l, rfl, forall_mem_nil _, hfirst⟩
      · rcases bind_eq_error.mp hrest with hl | ⟨_, -, hpure⟩
        · obtain ⟨before, c, after, rfl, hbefore, hc⟩ := ih.mp hl
          exact ⟨first :: before, c, after, rfl, forall_mem_cons.mpr ⟨⟨a, ha⟩, hbefore⟩, hc⟩
        · cases hpure
    · rintro ⟨before, c, after, heq, hbefore, hc⟩
      cases before with
      | nil =>
        cases heq
        exact .inl hc
      | cons =>
        cases heq
        obtain ⟨⟨a, ha⟩, hbefore⟩ := forall_mem_cons.mp hbefore
        exact .inr ⟨a, ha, bind_eq_error.mpr (.inl (ih.mpr ⟨_, c, after, rfl, hbefore, hc⟩))⟩

theorem forall₂_of_mapM {δ : Type*} {f : γ → Option δ} {l' : List δ}
    (h : l.mapM f = some l') : Forall₂ (fun c d => f c = some d) l l' := by
  induction l generalizing l' with
  | nil =>
    rw [mapM_nil] at h
    cases h
    exact .nil
  | cons _ _ ih =>
    rw [mapM_cons] at h
    obtain ⟨d, hd, hrest⟩ := Option.bind_eq_some_iff.mp h
    obtain ⟨rest, hl, hcons⟩ := Option.bind_eq_some_iff.mp hrest
    cases hcons
    exact .cons hd (ih hl)

theorem elim_eq_ok {o : Option γ} {f : γ → Except ε α} {a : α} :
    o.elim (.error e) f = .ok a ↔ ∃ c, o = some c ∧ f c = .ok a := by
  cases o <;> simp

theorem forM_eq_ok {f : γ → Except ε PUnit} :
    l.forM f = .ok () ↔ ∀ c ∈ l, f c = .ok () := by
  induction l with
  | nil => exact ⟨fun _ c hc => absurd hc not_mem_nil, fun _ => rfl⟩
  | cons c l ih =>
    have hcons : (c :: l).forM f = f c >>= fun _ => l.forM f := rfl
    rw [hcons, bind_eq_ok, forall_mem_cons]
    constructor
    · rintro ⟨⟨⟩, hc, hl⟩
      exact ⟨hc, ih.mp hl⟩
    · rintro ⟨hc, hl⟩
      exact ⟨(), hc, ih.mpr hl⟩

section Pointwise
variable {δ : Type*} {R : γ → δ → Prop} {l' : List δ}
section
variable (h : List.Forall₂ R l l')
include h
theorem exists_left {d : δ} (hd : d ∈ l') : ∃ c ∈ l, R c d := by
  induction h with
  | nil => cases hd
  | cons hfirst _ ih =>
    rcases mem_cons.mp hd with rfl | hd
    · exact ⟨_, mem_cons_self, hfirst⟩
    · obtain ⟨c, hc, hrel⟩ := ih hd
      exact ⟨c, mem_cons_of_mem _ hc, hrel⟩

theorem exists_right {c : γ} (hc : c ∈ l) : ∃ d ∈ l', R c d :=
  exists_left h.flip hc

theorem forall₂_of_mem {S : γ → δ → Prop} (himp : ∀ c ∈ l, ∀ d, R c d → S c d) :
    Forall₂ S l l' :=
  ((forall₂_and_left l l').mpr ⟨himp, h⟩).imp fun _ d hboth => hboth.1 d hboth.2

theorem forall₂_comp {τ : Type*} {S : δ → τ → Prop} {l'' : List τ} (h' : Forall₂ S l' l'') :
    Forall₂ (fun c t => ∃ d, R c d ∧ S d t) l l'' := by
  induction h generalizing l'' with
  | nil =>
    cases h'
    exact .nil
  | cons hfirst _ ih =>
    cases h' with
    | cons hfirst' hrest => exact .cons ⟨_, hfirst, hfirst'⟩ (ih hrest)

theorem map_eq_of_forall₂ {τ : Type*} {f : γ → τ} {g : δ → τ}
    (hfield : ∀ c ∈ l, ∀ d, R c d → g d = f c) : l'.map g = l.map f := by
  induction h with
  | nil => rfl
  | cons hfirst _ ih =>
    obtain ⟨hhead, htail⟩ := forall_mem_cons.mp hfield
    rw [map_cons, map_cons, ih htail, hhead _ hfirst]
end
end Pointwise

inductive Within (P : ε → Prop) (a : α) : Except ε α → Prop
  | ok : Within P a (.ok a)
  | error (e : ε) (h : P e) : Within P a (.error e)

variable {P : ε → Prop}

section Within
theorem Within.bind {a : α} {b : β} (h : Within P a x) (hf : Within P b (f a)) :
    Within P b (x >>= f) := by
  cases h with
  | ok => exact hf
  | error e he => exact .error e he

theorem Within.eq_of_ok {a b : α} (h : Within P a x) (hx : x = .ok b) : b = a := by
  cases h with
  | ok => exact (ok.inj hx).symm
  | error _ _ => cases hx

theorem Within.mapM {f : γ → Except ε α} {l' : List α}
    (h : Forall₂ (fun c a => Within P a (f c)) l l') : Within P l' (l.mapM f) := by
  induction h with
  | nil => exact .ok
  | cons hfirst _ ih =>
    rw [mapM_cons]
    exact hfirst.bind (ih.bind .ok)
end Within

def Raises (P : ε → Prop) (x : Except ε α) : Prop := ∀ e, x = .error e → P e

section Raises
theorem Raises.ok (a : α) : Raises P (.ok a : Except ε α) := by
  rintro e ⟨⟩

theorem Raises.error (h : P e) : Raises P (.error e : Except ε α) := by
  rintro e' ⟨⟩
  exact h

theorem Raises.bind (h : Raises P x) (hf : ∀ a, x = .ok a → Raises P (f a)) :
    Raises P (x >>= f) := by
  cases x with
  | ok a => exact hf a rfl
  | error e => exact .error (h e rfl)

theorem Raises.mapM {f : γ → Except ε α} (h : ∀ c ∈ l, Raises P (f c)) :
    Raises P (l.mapM f) := by
  induction l with
  | nil => exact .ok []
  | cons c _ ih =>
    rw [mapM_cons]
    refine (h c mem_cons_self).bind fun a _ => ?_
    exact (ih fun d hd => h d (mem_cons_of_mem c hd)).bind fun rest _ => .ok (a :: rest)

theorem exists_mapM {f : γ → Except ε α} (h : ∀ c ∈ l, ∃ a, f c = .ok a) :
    ∃ l', l.mapM f = .ok l' := by
  have hraises : Raises (fun _ => False) (l.mapM f) := by
    refine Raises.mapM fun c hc => ?_
    obtain ⟨a, ha⟩ := h c hc
    rw [ha]
    exact .ok a
  cases hl : l.mapM f with
  | ok l' => exact ⟨l', rfl⟩
  | error e => exact (hraises e hl).elim
end Raises
end WeakNet.Foundation.Fallible
