import Mathlib.Data.List.Forall2

/-! `contains_unsafe_advice` searches for phrases with whitespace, single spaces or a gap within a
line between their words. Only whether there is a match counts, so a pattern asks for some way
through it after which `next` holds. -/

namespace WeakNet.Ai.Citations
open List

inductive Kind where
  | letter (c : Char)
  | word | space | white | dot | any

inductive Pattern where
  | fail | done | boundary
  | one (k : Kind)
  | most (k : Kind) (n : Option Nat)
  | seq (p q : Pattern)
  | alt (p q : Pattern)

abbrev Position := Bool × List Char

section
variable (r : Kind → Char → Bool)
def advance (k : Kind) (next : Position → Bool) : Position → Bool
  | (_, x :: xs) => r k x && next (r .word x, xs)
  | (_, []) => false

def upTo (k : Kind) (next : Position → Bool) : Nat → Position → Bool
  | 0, s => next s
  | n + 1, s => next s || advance r k (upTo k next n) s

def run : Pattern → (Position → Bool) → Position → Bool
  | .fail, _, _ => false
  | .done, next, s => next s
  | .boundary, next, s => (s.1 != s.2.head?.any (r .word)) && next s
  | .one k, next, s => advance r k next s
  | .most k n, next, s => upTo r k next (n.getD s.2.length) s
  | .seq p q, next, s => run p (run q next) s
  | .alt p q, next, s => run p next s || run q next s
end

/-- What matches `c` in one reading matches `c'` in the other. -/
def Stands (r r' : Kind → Char → Bool) (c c' : Char) : Prop :=
  r .word c = r' .word c' ∧ ∀ k, r k c → r' k c'

def Leads (r r' : Kind → Char → Bool) (next next' : Position → Bool) : Prop :=
  ∀ s s', s.1 = s'.1 → Forall₂ (Stands r r') s.2 s'.2 → next s → next' s'

section
variable {r r' : Kind → Char → Bool} {next next' : Position → Bool}
theorem advance_leads (k : Kind) (h : Leads r r' next next') :
    Leads r r' (advance r k next) (advance r' k next') := by
  rintro ⟨_, _⟩ ⟨_, _⟩ - hrest hs
  cases hrest with
  | nil => cases hs
  | cons hx hxs =>
    rw [advance, Bool.and_eq_true] at hs ⊢
    exact ⟨hx.2 k hs.1, h _ _ hx.1 hxs hs.2⟩

theorem upTo_leads (k : Kind) (n : Nat) (h : Leads r r' next next') :
    Leads r r' (upTo r k next n) (upTo r' k next' n) := by
  induction n with
  | zero => exact h
  | succ n ih =>
    intro s s' hlast hrest hs
    rw [upTo, Bool.or_eq_true] at hs ⊢
    exact hs.imp (h s s' hlast hrest) (advance_leads k ih s s' hlast hrest)

theorem run_leads (p : Pattern) (h : Leads r r' next next') :
    Leads r r' (run r p next) (run r' p next') := by
  induction p generalizing next next' with
  | fail => exact fun _ _ _ _ => nofun
  | done => exact h
  | boundary =>
    rintro ⟨_, _⟩ ⟨_, _⟩ hlast hrest hs
    rw [run, Bool.and_eq_true] at hs ⊢
    refine hs.imp (fun hb => ?_) (h _ _ hlast hrest)
    cases hlast
    rcases hrest with _ | ⟨hx, -⟩
    · exact hb
    · simpa [hx.1] using hb
  | one k => exact advance_leads k h
  | most k n =>
    intro s s' hlast hrest
    rw [run, run, hrest.length_eq]
    exact upTo_leads k _ h s s' hlast hrest
  | seq p q ihp ihq => exact ihp (ihq h)
  | alt p q ihp ihq =>
    intro s s' hlast hrest hs
    rw [run, Bool.or_eq_true] at hs ⊢
    exact hs.imp (ihp h s s' hlast hrest) (ihq h s s' hlast hrest)
end

def isSpace (c : Char) : Bool :=
  c.toNat ∈ [32, 133, 160, 5760, 8232, 8233, 8239, 8287, 12288] ||
    (9 ≤ c.toNat && c.toNat ≤ 13) || (28 ≤ c.toNat && c.toNat ≤ 31) ||
    (8192 ≤ c.toNat && c.toNat ≤ 8202)

variable (alnum : Char → Bool)

/-- Letters match in any case, three of them in further forms; `alnum` tells which characters
belong to words. -/
def reading (space dot : Char → Bool) : Kind → Char → Bool
  | .letter c, x => !isSpace x &&
      (x.toLower == c || (c, x.toNat) ∈ [('s', 383), ('i', 304), ('i', 305), ('k', 8490)])
  | .word, x => !isSpace x && alnum x
  | .space, x => space x
  | .white, x => isSpace x
  | .dot, x => dot x
  | .any, _ => true

def literal (s : String) : Pattern :=
  s.toList.foldr (fun c => .seq (.one (if c = ' ' then .space else .letter c))) .done

def oneOf (l : List String) : Pattern := l.foldr (fun s => .alt (literal s)) .fail

def spaces : Pattern := .seq (.one .white) (.most .white none)

def forbidden : Pattern :=
  [[literal "confirmed", spaces,
      oneOf ["root cause", "interference", "isp", "internet", "upstream", "outage"]],
    [oneOf ["isp", "internet", "provider"], spaces,
      oneOf ["failure", "outage", "congestion"], spaces, literal "confirmed"],
    [oneOf ["interference", "rf interference", "ap failure", "isp failure", "isp outage",
        "internet outage"], spaces, oneOf ["is", "has been", "was"], spaces,
      oneOf ["confirmed", "occurring", "the root cause", "responsible"]],
    [oneOf ["restart", "change", "disable", "reconnect", "modify", "kill", "execute", "run"],
      .boundary, .most .dot (some 60), .boundary,
      oneOf ["networkmanager", "route", "interface", "wifi", "wi-fi", "firewall", "sysctl",
        "process", "command"], .boundary],
    [oneOf ["i", "we"], spaces,
      oneOf ["restarted", "changed", "disabled", "killed", "modified", "executed", "ran"],
      .boundary]].foldr (fun ps => .alt (.seq .boundary (ps.foldr .seq .done))) .fail

def search (space dot : Char → Bool) (t : List Char) : Bool :=
  run (reading alnum space dot) (.seq (.most .any none) forbidden) (fun _ => true) (false, t)

def containsUnsafeAdvice : List Char → Bool := search alnum (· == ' ') (· != '\n')

abbrev Relaid (c c' : Char) : Prop := c = c' ∨ isSpace c ∧ isSpace c'

theorem search_mono {space dot space' dot' : Char → Bool} {t t' : List Char}
    (h : Forall₂ (fun c c' => Relaid c c' ∧ (space c → space' c') ∧ (dot c → dot' c')) t t') :
    search alnum space dot t → search alnum space' dot' t' := by
  refine run_leads _ (fun _ _ _ _ => id) _ _ rfl (h.imp fun c c' hc => ?_)
  obtain ⟨rfl | hs, hspace, hdot⟩ := hc
  · exact ⟨rfl, fun k => by cases k <;> simp_all [reading]⟩
  · exact ⟨by simp [reading, hs], fun k => by cases k <;> simp_all [reading]⟩

def relay (x c : Char) : Char := if isSpace c then x else c

theorem relaid_relay {x : Char} (hx : isSpace x) (c : Char) : Relaid c (relay x c) := by
  rw [relay]
  split_ifs with hc
  · exact .inr ⟨hc, hx⟩
  · exact .inl rfl

/-- The guard ignores the layout of a text exactly if a phrase that takes any whitespace for a
space or a dot of the pattern implies one that takes none. -/
theorem layout_ignored_iff (t : List Char) :
    (∀ t', Forall₂ Relaid t t' → containsUnsafeAdvice alnum t' = containsUnsafeAdvice alnum t) ↔
      (search alnum isSpace (fun _ => true) t → search alnum (fun _ => false) (!isSpace ·) t) := by
  have hne {c : Char} (hc : ¬isSpace c) : c ≠ '\n' := fun h => hc (h ▸ rfl)
  have hloose {t'} (h : Forall₂ Relaid t t') (ht : containsUnsafeAdvice alnum t') :
      search alnum isSpace (fun _ => true) t := by
    refine search_mono alnum (h.flip.imp fun c c' hc => ?_) ht
    refine ⟨hc.imp .symm .symm, fun h => ?_, fun _ => rfl⟩
    cases eq_of_beq h
    exact hc.elim (· ▸ rfl) And.left
  have hrigid {t'} (h : Forall₂ Relaid t t') (ht : search alnum (fun _ => false) (!isSpace ·) t) :
      containsUnsafeAdvice alnum t' := by
    refine search_mono alnum (h.imp fun c c' hc => ⟨hc, nofun, fun hdot => ?_⟩) ht
    rcases hc with rfl | hc
    · simp_all
    · simp [hc.1] at hdot
  constructor
  · -- Spaces match wherever whitespace can, line breaks only as whitespace.
    intro h ht
    have hrelay {x} (hx : isSpace x) := h (t.map (relay x))
      (forall₂_map_right_iff.mpr (forall₂_same.mpr fun c _ => relaid_relay hx c))
    have hblank : containsUnsafeAdvice alnum (t.map (relay ' ')) := by
      refine search_mono alnum (forall₂_map_right_iff.mpr (forall₂_same.mpr fun c _ => ?_)) ht
      refine ⟨relaid_relay rfl c, ?_⟩
      by_cases hc : isSpace c <;> simp_all [relay]
    rw [hrelay rfl, ← hrelay (x := '\n') rfl] at hblank
    refine search_mono alnum (forall₂_map_left_iff.mpr (forall₂_same.mpr fun c _ => ?_)) hblank
    refine ⟨(relaid_relay rfl c).imp .symm .symm, ?_⟩
    by_cases hc : isSpace c <;> simp_all [relay]
    rintro rfl
    cases hc
  · intro h t' ht
    have hself : Forall₂ Relaid t t := forall₂_same.mpr fun _ _ => .inl rfl
    exact Bool.eq_iff_iff.mpr ⟨fun ht' => hrigid hself (h (hloose ht ht')),
      fun hself' => hrigid ht (h (hloose hself hself'))⟩

theorem broken_line_accepted :
    Forall₂ Relaid "restart wifi".toList "restart\nwifi".toList ∧
      containsUnsafeAdvice Char.isAlphanum "restart wifi".toList ∧
      ¬containsUnsafeAdvice Char.isAlphanum "restart\nwifi".toList := by
  decide +kernel
end WeakNet.Ai.Citations
