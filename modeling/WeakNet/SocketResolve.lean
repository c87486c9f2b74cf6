import WeakNet.SocketTableInvariant

/-! In a consistent table `resolve` only supersedes identities the input contradicts, a resolved
identity carries the evidence of the input, and after an unresolved input no live identity does. -/

namespace WeakNet.SocketLifecycleTable
open Foundation Foundation.OrderedMap Resolving

variable {x tuple : SocketTuple} {key : CookieKey} {m : OrderedMap SocketId SocketObservation}

section Lookup
variable {t : SocketLifecycleTable} {id : SocketId}
theorem unsuperseded_eq_some {found : Option SocketId} :
    t.unsuperseded found = some id ↔ found = some id ∧ id ∉ t.pendingSuperseded := by
  simp [unsuperseded]

theorem tupleAgrees_iff :
    tupleAgrees m id tuple ↔ HasTuple m id tuple := by
  rw [tupleAgrees, HasTuple]
  cases m.find? id with
  | none | some o => simp

section
variable (h : Consistent t)
include h
theorem pending_unsuperseded (hx : HasTuple t.pending id x) : id ∉ t.pendingSuperseded :=
  Live.not_superseded h (.inl hx)

theorem pendingCookieOf_eq_some :
    t.pendingCookieOf key = some id ↔
      ∃ x, HasTuple t.pending id x ∧ evidenceOf id x = .cookie key := by
  rw [pendingCookieOf, unsuperseded_eq_some]
  have hfind := indexes_find h.pendingCookie h.pendingWeak id (.cookie key)
  refine ⟨fun hp => hfind.mp hp.1, fun hp => ⟨hfind.mpr hp, ?_⟩⟩
  obtain ⟨x, hx, -⟩ := hp
  exact pending_unsuperseded h hx

theorem pendingWeakOf_eq_some :
    t.pendingWeakOf tuple = some id ↔
      ∃ x, HasTuple t.pending id x ∧ evidenceOf id x = .tuple tuple := by
  rw [pendingWeakOf, unsuperseded_eq_some]
  have hfind := indexes_find h.pendingCookie h.pendingWeak id (.tuple tuple)
  refine ⟨fun hp => hfind.mp hp.1, fun hp => ⟨hfind.mpr hp, ?_⟩⟩
  obtain ⟨x, hx, -⟩ := hp
  exact pending_unsuperseded h hx

theorem active_eq_some (e : Evidence) :
    t.unsuperseded (match e with
      | .cookie key => t.cookieActive.find? key
      | .tuple tuple => t.weakActive.find? tuple) = some id ↔
      ∃ x, (id ∉ t.pendingSuperseded ∧ HasTuple t.active id x) ∧ evidenceOf id x = e := by
  rw [unsuperseded_eq_some]
  have hfind := indexes_find h.cookieActive h.weakActive id e
  refine ⟨fun hp => ?_, fun hp => ?_⟩
  · obtain ⟨x, hx, he⟩ := hfind.mp hp.1
    exact ⟨x, ⟨hp.2, hx⟩, he⟩
  · obtain ⟨x, ⟨hs, hx⟩, he⟩ := hp
    exact ⟨hfind.mpr ⟨x, hx, he⟩, hs⟩
end
end Lookup

def Tracked (t : SocketLifecycleTable) (e : Evidence) : Prop :=
  ∃ id x, Live t id x ∧ evidenceOf id x = e

variable {t : SocketLifecycleTable} {id : SocketId}
theorem not_tracked_supersede (h : Consistent t) (hx : Live t id x) :
    ¬ Tracked (t.supersede id) (evidenceOf id x) := by
  intro htracked
  obtain ⟨id', y, hy, he⟩ := htracked
  obtain ⟨hne, hy⟩ := live_supersede.mp hy
  exact hne (Live.distinct h hy hx he)

theorem tracked_of_supersede {e : Evidence} (h : Tracked (t.supersede id) e) : Tracked t e := by
  obtain ⟨id', x, hx, he⟩ := h
  exact ⟨id', x, (live_supersede.mp hx).2, he⟩

section Stages
variable {t : SocketLifecycleTable}
theorem lookup_none_of_not_tracked (h : Consistent t) (hno : ¬ Tracked t (.cookie key)) :
    t.pendingCookieOf key = none ∧ t.unsuperseded (t.cookieActive.find? key) = none := by
  refine ⟨?_, ?_⟩
  · cases hp : t.pendingCookieOf key with
    | none => rfl
    | some id =>
      obtain ⟨x, hx, he⟩ := (pendingCookieOf_eq_some h).mp hp
      exact absurd ⟨id, x, .inl hx, he⟩ hno
  · cases ha : t.unsuperseded (t.cookieActive.find? key) with
    | none => rfl
    | some id =>
      obtain ⟨x, hx, he⟩ := (active_eq_some h (.cookie key)).mp ha
      exact absurd ⟨id, x, .inr hx, he⟩ hno

variable {r : Resolving}
theorem resolveActiveCookie_of_not_tracked (tuple : SocketTuple) (h : Consistent r.table)
    (hno : ¬ Tracked r.table (.cookie key)) : resolveActiveCookie key tuple r = r := by
  rw [resolveActiveCookie, (lookup_none_of_not_tracked h hno).2]

theorem resolveCookie_cases (h : Consistent t) (key : CookieKey) (tuple : SocketTuple) :
    (∃ id, Live t id tuple ∧ evidenceOf id tuple = .cookie key ∧
      t.resolveCookie key tuple = ⟨t, some id, false⟩) ∨
    (∃ id x, Live t id x ∧ evidenceOf id x = .cookie key ∧ x ≠ tuple ∧
      t.resolveCookie key tuple = supersedeWeak tuple ⟨t.supersede id, none, true⟩) ∨
    (¬ Tracked t (.cookie key) ∧
      t.resolveCookie key tuple = supersedeWeak tuple ⟨t, none, false⟩) := by
  rw [resolveCookie, resolvePendingCookie]
  cases hp : t.pendingCookieOf key with
  | some id =>
    obtain ⟨x, hx, he⟩ := (pendingCookieOf_eq_some h).mp hp
    by_cases htuple : x = tuple
    · subst htuple
      refine .inl ⟨id, .inl hx, he, ?_⟩
      simp [tupleAgrees_iff.mpr hx, orElse]
    · refine .inr (.inl ⟨id, x, .inl hx, he, htuple, ?_⟩)
      have hdisagree : tupleAgrees t.pending id tuple = false := by
        rw [Bool.eq_false_iff]
        exact fun ha => htuple (hx.unique (tupleAgrees_iff.mp ha))
      have hgone : ¬ Tracked (t.supersede id) (.cookie key) :=
        he ▸ not_tracked_supersede h (.inl hx)
      have hstage := resolveActiveCookie_of_not_tracked tuple
        (r := ⟨t.supersede id, none, true⟩) (h.supersede id) hgone
      simp [hdisagree, orElse, hstage]
  | none =>
    cases ha : t.unsuperseded (t.cookieActive.find? key) with
    | some id =>
      obtain ⟨x, hx, he⟩ := (active_eq_some h (.cookie key)).mp ha
      by_cases htuple : x = tuple
      · subst htuple
        refine .inl ⟨id, .inr hx, he, ?_⟩
        simp [orElse, resolveActiveCookie, ha, tupleAgrees_iff.mpr hx.2]
      · refine .inr (.inl ⟨id, x, .inr hx, he, htuple, ?_⟩)
        have hdisagree : tupleAgrees t.active id tuple = false := by
          rw [Bool.eq_false_iff]
          exact fun hag => htuple (hx.2.unique (tupleAgrees_iff.mp hag))
        simp [orElse, resolveActiveCookie, ha, hdisagree]
    | none =>
      refine .inr (.inr ⟨?_, by simp [orElse, resolveActiveCookie, ha]⟩)
      intro htracked
      obtain ⟨id, x, hx, he⟩ := htracked
      rcases hx with hx | hx
      · have hsome := (pendingCookieOf_eq_some h).mpr ⟨x, hx, he⟩
        simp [hp] at hsome
      · have hsome := (active_eq_some h (.cookie key)).mpr ⟨x, hx, he⟩
        simp [ha] at hsome

theorem weak_cases (h : Consistent t) (tuple : SocketTuple) :
    (∃ id, Live t id tuple ∧ evidenceOf id tuple = .tuple tuple ∧
      (t.pendingWeakOf tuple = some id ∨ (t.pendingWeakOf tuple = none ∧
        t.unsuperseded (t.weakActive.find? tuple) = some id))) ∨
    (¬ Tracked t (.tuple tuple) ∧ t.pendingWeakOf tuple = none ∧
      t.unsuperseded (t.weakActive.find? tuple) = none) := by
  have hown : ∀ {id x}, evidenceOf id x = .tuple tuple → x = tuple := by
    intro id x he
    cases hc : id.cookie with
    | none => simpa [evidenceOf, evidenceFor, hc] using he
    | some _ => simp [evidenceOf, evidenceFor, hc] at he
  cases hp : t.pendingWeakOf tuple with
  | some id =>
    obtain ⟨x, hx, he⟩ := (pendingWeakOf_eq_some h).mp hp
    obtain rfl := hown he
    exact .inl ⟨id, .inl hx, he, .inl rfl⟩
  | none =>
    cases ha : t.unsuperseded (t.weakActive.find? tuple) with
    | some id =>
      obtain ⟨x, hx, he⟩ := (active_eq_some h (.tuple tuple)).mp ha
      obtain rfl := hown he
      exact .inl ⟨id, .inr hx, he, .inr ⟨rfl, rfl⟩⟩
    | none =>
      refine .inr ⟨?_, rfl, rfl⟩
      intro htracked
      obtain ⟨id, x, hx, he⟩ := htracked
      rcases hx with hx | hx
      · have hsome := (pendingWeakOf_eq_some h).mpr ⟨x, hx, he⟩
        simp [hp] at hsome
      · have hsome := (active_eq_some h (.tuple tuple)).mpr ⟨x, hx, he⟩
        simp [ha] at hsome

theorem supersedeWeak_cases (h : Consistent r.table) (tuple : SocketTuple) :
    (∃ id, Live r.table id tuple ∧ evidenceOf id tuple = .tuple tuple ∧
      supersedeWeak tuple r = ⟨r.table.supersede id, none, true⟩) ∨
    (¬ Tracked r.table (.tuple tuple) ∧ supersedeWeak tuple r = r) := by
  rcases weak_cases h tuple with ⟨id, hx, he, hfound⟩ | ⟨hno, hp, ha⟩
  · refine .inl ⟨id, hx, he, ?_⟩
    rcases hfound with hp | ⟨hp, ha⟩
    · simp [supersedeWeak, hp]
    · simp [supersedeWeak, hp, ha]
  · exact .inr ⟨hno, by simp [supersedeWeak, hp, ha]⟩

theorem resolveWeak_cases (h : Consistent t) (tuple : SocketTuple) :
    (∃ id, Live t id tuple ∧ evidenceOf id tuple = .tuple tuple ∧
      t.resolveWeak tuple = ⟨t, some id, false⟩) ∨
    (¬ Tracked t (.tuple tuple) ∧ t.resolveWeak tuple = t.resetCookieBacked tuple) := by
  rcases weak_cases h tuple with ⟨id, hx, he, hfound⟩ | ⟨hno, hp, ha⟩
  · refine .inl ⟨id, hx, he, ?_⟩
    rcases hfound with hp | ⟨hp, ha⟩
    · simp [resolveWeak, hp]
    · simp [resolveWeak, hp, ha]
  · exact .inr ⟨hno, by simp [resolveWeak, hp, ha]⟩

theorem firstCookieBacked_eq_some {id : SocketId} (h : t.firstCookieBacked m tuple = some id) :
    id.cookie.isSome ∧ id ∉ t.pendingSuperseded ∧ HasTuple m id tuple := by
  obtain ⟨e, he, rfl⟩ := Option.map_eq_some_iff.mp h
  have hp := List.find?_some he
  have hmem := List.mem_of_find?_eq_some he
  simp only [Bool.and_eq_true, beq_iff_eq, decide_eq_true_eq] at hp
  exact ⟨hp.1.1, hp.2, e.2, mem_entries.mp hmem, hp.1.2⟩
end Stages

/-- The live identity `id` contradicts the input: same cookie with another tuple, or
the same tuple under the other kind of evidence. -/
def Contradicts (t : SocketLifecycleTable) (input : SocketObservationInput)
    (id : SocketId) : Prop :=
  ∃ x, Live t id x ∧
    ((input.cookie.isSome = true ∧ evidenceOf id x = inputEvidence input ∧ x ≠ input.tuple) ∨
      (x = input.tuple ∧ id.cookie.isSome ≠ input.cookie.isSome))

variable {P : SocketLifecycleTable → Prop}
theorem resetCookieBacked_induction (h : Consistent t) (ht : P t)
    (hP : ∀ t id, Consistent t → Live t id tuple → id.cookie.isSome → P t → P (t.supersede
      id)) : P (t.resetCookieBacked tuple).table := by
  have hscan : Consistent (t.supersedeFirst t.pending tuple) ∧
      P (t.supersedeFirst t.pending tuple) := by
    rw [supersedeFirst]
    cases hf : t.firstCookieBacked t.pending tuple with
    | none => exact ⟨h, ht⟩
    | some id =>
      obtain ⟨hc, -, hx⟩ := firstCookieBacked_eq_some hf
      exact ⟨h.supersede id, hP t id h (.inl hx) hc ht⟩
  obtain ⟨hcons, hpre⟩ := hscan
  change P ((t.supersedeFirst t.pending tuple).supersedeFirst _ tuple)
  generalize t.supersedeFirst .. = s at hcons hpre ⊢
  rw [supersedeFirst]
  cases hf : s.firstCookieBacked s.active tuple with
  | none => exact hpre
  | some id =>
    obtain ⟨hc, hs, hx⟩ := firstCookieBacked_eq_some hf
    exact hP s id hcons (.inr ⟨hs, hx⟩) hc hpre

variable {input : SocketObservationInput}
theorem inputEvidence_of_cookie {c : ℕ} (hc : input.cookie = some c) :
    inputEvidence input = .cookie ⟨input.tuple.netns, c⟩ := by
  rw [inputEvidence, hc, evidenceFor]

theorem inputEvidence_of_tuple (hc : input.cookie = none) :
    inputEvidence input = .tuple input.tuple := by
  rw [inputEvidence, hc, evidenceFor]

theorem resolve_induction (input : SocketObservationInput) (h : Consistent t) (ht : P t)
    (hP : ∀ t id, Consistent t → Contradicts t input id → P t → P (t.supersede id)) :
    P (t.resolve input).table := by
  rw [resolve]
  cases hc : input.cookie with
  | some c =>
    have hevidence := inputEvidence_of_cookie hc
    have hweak : ∀ r : Resolving, Consistent r.table → P r.table →
        P (supersedeWeak input.tuple r).table := by
      intro r hr hpr
      rcases supersedeWeak_cases hr input.tuple with ⟨id, hx, he, heq⟩ | ⟨-, heq⟩ <;> rw [heq]
      · refine hP _ id hr ⟨input.tuple, hx, .inr ⟨rfl, ?_⟩⟩ hpr
        cases hid : id.cookie with
        | none => simp [hc]
        | some _ => simp [evidenceOf, evidenceFor, hid] at he
      · exact hpr
    simp only
    rcases resolveCookie_cases h ⟨input.tuple.netns, c⟩ input.tuple with
      ⟨id, -, -, heq⟩ | ⟨id, x, hx, he, hne, heq⟩ | ⟨-, heq⟩ <;> rw [heq]
    · exact ht
    · apply hweak _ (h.supersede id)
      exact hP t id h ⟨x, hx, .inl ⟨by simp [hc], he.trans hevidence.symm, hne⟩⟩ ht
    · exact hweak _ h ht
  | none =>
    simp only
    rcases resolveWeak_cases h input.tuple with ⟨id, -, -, heq⟩ | ⟨-, heq⟩ <;> rw [heq]
    · exact ht
    · refine resetCookieBacked_induction h ht fun t id hcons hx hid hp => ?_
      exact hP t id hcons ⟨input.tuple, hx, .inr ⟨rfl, by simp [hid, hc]⟩⟩ hp

theorem Consistent.resolve (h : Consistent t) (input : SocketObservationInput) :
    Consistent (t.resolve input).table :=
  resolve_induction input h h fun _ id hcons _ _ => hcons.supersede id

theorem resolve_some (h : Consistent t) (hid : (t.resolve input).resolved = some id) :
    (t.resolve input).table = t ∧ Live t id input.tuple ∧
      evidenceOf id input.tuple = inputEvidence input := by
  rw [SocketLifecycleTable.resolve] at hid ⊢
  cases hc : input.cookie with
  | some c =>
    have hevidence := inputEvidence_of_cookie hc
    have hweak : ∀ r : Resolving, Consistent r.table → r.resolved = none →
        (supersedeWeak input.tuple r).resolved = none := by
      intro r hr hres
      rcases supersedeWeak_cases hr input.tuple with ⟨k, -, -, heq⟩ | ⟨-, heq⟩
      · rw [heq]
      · rw [heq, hres]
    simp only [hc] at hid ⊢
    rcases resolveCookie_cases h ⟨input.tuple.netns, c⟩ input.tuple with
      ⟨k, hx, he, heq⟩ | ⟨k, x, -, -, -, heq⟩ | ⟨-, heq⟩
    · rw [heq] at hid ⊢
      cases hid
      exact ⟨rfl, hx, he.trans hevidence.symm⟩
    · rw [heq, hweak _ (h.supersede k) rfl] at hid
      simp at hid
    · rw [heq, hweak _ h rfl] at hid
      simp at hid
  | none =>
    have hevidence := inputEvidence_of_tuple hc
    simp only [hc] at hid ⊢
    rcases resolveWeak_cases h input.tuple with ⟨k, hx, he, heq⟩ | ⟨-, heq⟩
    · rw [heq] at hid ⊢
      cases hid
      exact ⟨rfl, hx, he.trans hevidence.symm⟩
    · rw [heq] at hid
      simp [resetCookieBacked] at hid

theorem resolve_none (h : Consistent t) (hnone : (t.resolve input).resolved = none) :
    ¬ Tracked (t.resolve input).table (inputEvidence input) ∧
      ¬ Tracked (t.resolve input).table (.tuple input.tuple) := by
  rw [SocketLifecycleTable.resolve] at hnone ⊢
  cases hc : input.cookie with
  | some c =>
    have hevidence := inputEvidence_of_cookie hc
    have hweak : ∀ r : Resolving, Consistent r.table → ¬ Tracked r.table (inputEvidence input) →
        ¬ Tracked (supersedeWeak input.tuple r).table (inputEvidence input) ∧
          ¬ Tracked (supersedeWeak input.tuple r).table (.tuple input.tuple) := by
      intro r hr hno
      rcases supersedeWeak_cases hr input.tuple with ⟨k, hx, he, heq⟩ | ⟨hfree, heq⟩ <;> rw [heq]
      · exact ⟨fun ht => hno (tracked_of_supersede ht), he ▸ not_tracked_supersede hr hx⟩
      · exact ⟨hno, hfree⟩
    simp only [hc] at hnone ⊢
    rcases resolveCookie_cases h ⟨input.tuple.netns, c⟩ input.tuple with
      ⟨k, -, -, heq⟩ | ⟨k, x, hx, he, -, heq⟩ | ⟨hno, heq⟩
    · rw [heq] at hnone
      simp at hnone
    · rw [heq]
      apply hweak _ (h.supersede k)
      rw [hevidence, ← he]
      exact not_tracked_supersede h hx
    · rw [heq]
      exact hweak _ h (hevidence ▸ hno)
  | none =>
    have hevidence := inputEvidence_of_tuple hc
    simp only [hc] at hnone ⊢
    rcases resolveWeak_cases h input.tuple with ⟨k, -, -, heq⟩ | ⟨hno, heq⟩
    · rw [heq] at hnone
      simp at hnone
    · rw [heq, hevidence, and_self]
      exact resetCookieBacked_induction (P := fun s => ¬ Tracked s (.tuple input.tuple)) h hno
        fun s k _ _ _ hs ht => hs (tracked_of_supersede ht)
end WeakNet.SocketLifecycleTable
