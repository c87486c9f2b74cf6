import WeakNet.SocketLifecycleTable

/-! The evidence under which a socket is tracked is its cookie key, or its tuple when there is no
cookie. `Live` is what the table regards as known: candidates, and active identities not yet
superseded. `Consistent` says that the four indexes are exact, that live identities have distinct
evidence and that the candidates fit next to the active ones. -/

namespace WeakNet.SocketLifecycleTable
open Foundation Foundation.OrderedMap Foundation.Runs Finset

inductive Evidence where
  | cookie (key : CookieKey)
  | tuple (tuple : SocketTuple)
deriving DecidableEq

def evidenceFor (cookie : Option ℕ) (netns : NetnsId) (tuple : SocketTuple) : Evidence :=
  match cookie with
  | some c => .cookie ⟨netns, c⟩
  | none => .tuple tuple

def evidenceOf (id : SocketId) (tuple : SocketTuple) : Evidence :=
  evidenceFor id.cookie id.netns tuple

def inputEvidence (input : SocketObservationInput) : Evidence :=
  evidenceFor input.cookie input.tuple.netns input.tuple

variable {id id' : SocketId} {o : SocketObservation} {m : OrderedMap SocketId SocketObservation}
    {x : SocketTuple} {t : SocketLifecycleTable}
theorem cookieOf_eq_some {key : CookieKey} :
    cookieOf (id, o) = some key ↔ evidenceOf id o.tuple = .cookie key := by
  cases h : id.cookie with
  | none | some c => simp [cookieOf, evidenceOf, evidenceFor, h]

theorem tupleOf_eq_some {tuple : SocketTuple} :
    tupleOf (id, o) = some tuple ↔ evidenceOf id o.tuple = .tuple tuple := by
  cases h : id.cookie with
  | none | some c => simp [tupleOf, evidenceOf, evidenceFor, h]

def HasTuple (m : OrderedMap SocketId SocketObservation) (id : SocketId)
    (tuple : SocketTuple) : Prop :=
  ∃ o, m.find? id = some o ∧ o.tuple = tuple

variable {y : SocketTuple}
theorem HasTuple.unique (hx : HasTuple m id x) (hy : HasTuple m id y) :
    x = y := by
  obtain ⟨o, ho, rfl⟩ := hx
  obtain ⟨o', ho', rfl⟩ := hy
  rw [Option.some.inj (ho.symm.trans ho')]

theorem exists_find?_iff {m : OrderedMap SocketId SocketObservation} {id : SocketId}
    {P : SocketTuple → Prop} :
    (∃ o, m.find? id = some o ∧ P o.tuple) ↔ ∃ x, HasTuple m id x ∧ P x := by
  refine ⟨fun h => ?_, fun h => ?_⟩
  · obtain ⟨o, ho, hP⟩ := h
    exact ⟨o.tuple, ⟨o, ho, rfl⟩, hP⟩
  · obtain ⟨x, ⟨o, ho, hx⟩, hP⟩ := h
    exact ⟨o, ho, hx ▸ hP⟩

theorem hasTuple_insert :
    HasTuple (m.insert id o) id' x ↔
      (id' = id ∧ o.tuple = x) ∨ (id' ≠ id ∧ HasTuple m id' x) := by
  by_cases h : id = id'
  · simp [HasTuple, h]
  · simp [HasTuple, h, Ne.symm h]

theorem hasTuple_erase : HasTuple (m.erase id) id' x ↔ id' ≠ id ∧ HasTuple m id' x := by
  by_cases h : id' = id
  all_goals simp [HasTuple, h]

theorem hasTuple_of_contains (h : m.contains id) : ∃ x, HasTuple m id x := by
  obtain ⟨o, ho⟩ := contains_iff.mp h
  exact ⟨o.tuple, o, ho, rfl⟩

theorem HasTuple.contains (h : HasTuple m id x) : m.contains id := by
  obtain ⟨o, ho, -⟩ := h
  exact contains_iff.mpr ⟨o, ho⟩

theorem not_hasTuple_empty : ¬ HasTuple .empty id x := by
  simp [HasTuple]

def Live (t : SocketLifecycleTable) (id : SocketId) (tuple : SocketTuple) : Prop :=
  HasTuple t.pending id tuple ∨ (id ∉ t.pendingSuperseded ∧ HasTuple t.active id tuple)

def Issued (t : SocketLifecycleTable) (id : SocketId) (tuple : SocketTuple) : Prop :=
  id.netns = tuple.netns ∧ id.generation < t.nextGeneration

def newcomers (t : SocketLifecycleTable) : Finset SocketId := t.pending.keys \ t.active.keys

structure Consistent (t : SocketLifecycleTable) : Prop where
  cookieActive : Indexes cookieOf t.active t.cookieActive
  weakActive : Indexes tupleOf t.active t.weakActive
  pendingCookie : Indexes cookieOf t.pending t.pendingCookie
  pendingWeak : Indexes tupleOf t.pending t.pendingWeak
  seen : t.pendingSeen = t.pending.keys
  superseded : ∀ id ∈ t.pendingSuperseded, t.pending.contains id = false
  supersededActive : t.pendingSuperseded ⊆ t.active.keys
  activeIssued : ∀ id x, HasTuple t.active id x → Issued t id x
  pendingIssued : ∀ id x, HasTuple t.pending id x → Issued t id x
  sameTuple : ∀ id x y, HasTuple t.pending id x → HasTuple t.active id y → x = y
  distinct : ∀ p a x y, HasTuple t.pending p x → a ∉ t.pendingSuperseded →
    HasTuple t.active a y → evidenceOf p x = evidenceOf a y → p = a
  activeBound : t.active.size ≤ t.config.maxActiveEntries
  closedBound : t.closed.length ≤ t.config.maxClosedEntries
  room : t.newcomers = ∅ ∨ t.newcomers.card + t.active.size ≤ t.config.maxActiveEntries

variable {byCookie : OrderedMap CookieKey SocketId} {byTuple : OrderedMap SocketTuple SocketId}
theorem indexes_find (hc : Indexes cookieOf m byCookie) (ht : Indexes tupleOf m byTuple)
    (id : SocketId) (e : Evidence) :
    (match e with
      | .cookie key => byCookie.find? key
      | .tuple tuple => byTuple.find? tuple) = some id ↔
      ∃ x, HasTuple m id x ∧ evidenceOf id x = e := by
  cases e with
  | cookie key =>
    rw [hc key id, ← exists_find?_iff]
    simp [cookieOf_eq_some]
  | tuple tuple =>
    rw [ht tuple id, ← exists_find?_iff]
    simp [tupleOf_eq_some]

theorem indexes_distinct (hc : Indexes cookieOf m byCookie) (ht : Indexes tupleOf m byTuple)
    (hx : HasTuple m id x) (hy : HasTuple m id' y) (he : evidenceOf id x = evidenceOf id' y) :
    id = id' := by
  have h1 := (indexes_find hc ht id _).mpr ⟨x, hx, rfl⟩
  have h2 := (indexes_find hc ht id' _).mpr ⟨y, hy, he.symm⟩
  exact Option.some.inj (h1.symm.trans h2)

section Live
variable {t : SocketLifecycleTable} {id id' : SocketId} {x : SocketTuple}

section
variable (h : Consistent t)
include h

section
variable (hx : Live t id x)
include hx
theorem Live.tuple_unique (hy : Live t id y) : x = y := by
  rcases hx with hx | ⟨-, hx⟩
  · rcases hy with hy | ⟨-, hy⟩
    · exact hx.unique hy
    · exact h.sameTuple id x y hx hy
  · rcases hy with hy | ⟨-, hy⟩
    · exact (h.sameTuple id y x hy hx).symm
    · exact hx.unique hy

theorem Live.issued : Issued t id x := by
  rcases hx with hx | ⟨-, hx⟩
  · exact h.pendingIssued id x hx
  · exact h.activeIssued id x hx

theorem Live.distinct (hy : Live t id' y) (he : evidenceOf id x = evidenceOf id' y) : id = id' := by
  rcases hx with hx | ⟨hs, hx⟩
  · rcases hy with hy | ⟨hs', hy⟩
    · exact indexes_distinct h.pendingCookie h.pendingWeak hx hy he
    · exact h.distinct id id' x y hx hs' hy he
  · rcases hy with hy | ⟨hs', hy⟩
    · exact (h.distinct id' id y x hy hs hx he.symm).symm
    · exact indexes_distinct h.cookieActive h.weakActive hx hy he

theorem Live.not_superseded :
    id ∉ t.pendingSuperseded := by
  rcases hx with hx | ⟨hs, -⟩
  · intro hs
    have hno := h.superseded id hs
    rw [hx.contains] at hno
    simp at hno
  · exact hs
end
end
end Live

section
variable (t : SocketLifecycleTable)

section
variable (id : SocketId)
@[simp] theorem supersede_active :
    (t.supersede id).active = t.active := by
  rw [supersede, erasePending]
  split_ifs <;> rfl

@[simp] theorem supersede_pending :
    (t.supersede id).pending = t.pending.erase id := by
  rw [supersede, erasePending]
  split_ifs <;> rfl

theorem supersede_superseded :
    (t.supersede id).pendingSuperseded =
      if t.active.contains id then insert id t.pendingSuperseded else t.pendingSuperseded := by
  rw [supersede, erasePending]
  split_ifs <;> rfl

theorem supersede_frame :
    (t.supersede id).config = t.config ∧
      (t.supersede id).snapshotInProgress = t.snapshotInProgress ∧
      (t.supersede id).disposition = t.disposition ∧
      (t.supersede id).nextGeneration = t.nextGeneration ∧
      (t.supersede id).closed = t.closed ∧
      (t.supersede id).weakActive = t.weakActive ∧
      (t.supersede id).cookieActive = t.cookieActive := by
  rw [supersede, erasePending]
  split_ifs <;> exact ⟨rfl, rfl, rfl, rfl, rfl, rfl, rfl⟩
end
end

theorem live_supersede :
    Live (t.supersede id) id' x ↔ id' ≠ id ∧ Live t id' x := by
  simp only [Live]
  rw [supersede_pending, supersede_active, supersede_superseded, hasTuple_erase]
  by_cases h : id' = id
  · subst h
    by_cases hc : t.active.contains id'
    · simp [hc]
    · simp only [ne_eq, not_true_eq_false, false_and, hc, Bool.false_eq_true, ↓reduceIte,
        false_or, iff_false]
      intro hx
      exact hc hx.2.contains
  · by_cases hc : t.active.contains id
    all_goals simp [h, hc]

section
variable (t : SocketLifecycleTable)
theorem supersede_pendingIndexes (id : SocketId) :
    (t.supersede id).pendingSeen = t.pendingSeen.erase id ∧
      (t.supersede id).pendingWeak = t.pendingWeak.filter (fun e => e.2 ≠ id) ∧
      (t.supersede id).pendingCookie = t.pendingCookie.filter (fun e => e.2 ≠ id) := by
  rw [supersede, erasePending]
  split_ifs <;> exact ⟨rfl, rfl, rfl⟩

theorem superseded_subset_supersede (id : SocketId) :
    t.pendingSuperseded ⊆ (t.supersede id).pendingSuperseded := by
  rw [supersede_superseded]
  split_ifs with hc
  · exact subset_insert ..
  · exact Finset.Subset.refl _

theorem newcomers_supersede (id : SocketId) :
    (t.supersede id).newcomers ⊆ t.newcomers := by
  intro k hk
  simp only [newcomers, supersede_pending, supersede_active, keys_erase, mem_sdiff,
    mem_erase] at hk ⊢
  exact ⟨hk.1.2, hk.2⟩
end

theorem Consistent.supersede (h : Consistent t) (id : SocketId) :
    Consistent (t.supersede id) := by
  obtain ⟨hconfig, -, -, hgen, hclosed, hweak, hcookie⟩ := supersede_frame t id
  obtain ⟨hseen, hpweak, hpcookie⟩ := supersede_pendingIndexes t id
  have hsub := superseded_subset_supersede t id
  refine
    { cookieActive := ?_, weakActive := ?_, pendingCookie := ?_, pendingWeak := ?_, seen := ?_
      superseded := ?_, supersededActive := ?_, activeIssued := ?_, pendingIssued := ?_
      sameTuple := ?_, distinct := ?_, activeBound := ?_, closedBound := ?_, room := ?_ }
  · rw [supersede_active, hcookie]
    exact h.cookieActive
  · rw [supersede_active, hweak]
    exact h.weakActive
  · rw [supersede_pending, hpcookie]
    exact h.pendingCookie.erase id
  · rw [supersede_pending, hpweak]
    exact h.pendingWeak.erase id
  · rw [hseen, supersede_pending, keys_erase, h.seen]
  · intro k hk
    rw [supersede_superseded] at hk
    by_cases hid : k = id
    · simp [OrderedMap.contains, hid]
    · have hold : k ∈ t.pendingSuperseded := by
        split_ifs at hk with hc
        · exact mem_of_mem_insert_of_ne hk hid
        · exact hk
      simpa [OrderedMap.contains, hid] using h.superseded k hold
  · rw [supersede_superseded, supersede_active]
    split_ifs with hc
    · exact insert_subset (mem_keys.mpr hc) h.supersededActive
    · exact h.supersededActive
  · intro k x hx
    rw [supersede_active] at hx
    have hissued := h.activeIssued k x hx
    exact ⟨hissued.1, by rw [hgen]; exact hissued.2⟩
  · intro k x hx
    rw [supersede_pending, hasTuple_erase] at hx
    have hissued := h.pendingIssued k x hx.2
    exact ⟨hissued.1, by rw [hgen]; exact hissued.2⟩
  · intro k x y hx hy
    rw [supersede_pending, hasTuple_erase] at hx
    rw [supersede_active] at hy
    exact h.sameTuple k x y hx.2 hy
  · intro p a x y hx hs hy he
    rw [supersede_pending, hasTuple_erase] at hx
    rw [supersede_active] at hy
    exact h.distinct p a x y hx.2 (fun hold => hs (hsub hold)) hy he
  · rw [supersede_active, hconfig]
    exact h.activeBound
  · rw [hclosed, hconfig]
    exact h.closedBound
  · rw [supersede_active, hconfig]
    have hsubset := newcomers_supersede t id
    rcases h.room with hnone | hroom
    · exact .inl (subset_empty.mp (hnone ▸ hsubset))
    · have hcard := card_le_card hsubset
      exact .inr (by omega)

/-- What `record` needs of an identity: it carries the evidence of the input, no
other live identity does, and there is room for it if it is new. -/
structure Recordable (t : SocketLifecycleTable) (id : SocketId)
    (input : SocketObservationInput) : Prop where
  cookie : id.cookie = input.cookie
  issued : Issued t id input.tuple
  unsuperseded : id ∉ t.pendingSuperseded
  pendingTuple : ∀ x, HasTuple t.pending id x → x = input.tuple
  activeTuple : ∀ x, HasTuple t.active id x → x = input.tuple
  alone : ∀ id' x, Live t id' x → evidenceOf id' x = inputEvidence input → id' = id
  fits : t.pending.contains id = true ∨ t.active.contains id = true ∨
    t.active.size + t.pending.size < t.config.maxActiveEntries

variable {input : SocketObservationInput}
theorem Recordable.evidence (hr : Recordable t id input) :
    evidenceOf id input.tuple = inputEvidence input := by
  rw [evidenceOf, inputEvidence, hr.cookie, hr.issued.1]

section Record
variable {t : SocketLifecycleTable} {id : SocketId}
theorem hasTuple_record {id' : SocketId} {x : SocketTuple} :
    HasTuple (t.record id input).pending id' x ↔
      (id' = id ∧ input.tuple = x) ∨ (id' ≠ id ∧ HasTuple t.pending id' x) :=
  hasTuple_insert

theorem live_record (hr : Recordable t id input) {id' : SocketId} {x : SocketTuple} :
    Live (t.record id input) id' x ↔
      (id' = id ∧ x = input.tuple) ∨ (id' ≠ id ∧ Live t id' x) := by
  have hactive := hr.activeTuple x
  rw [Live]
  rw [hasTuple_record]
  by_cases h : id' = id
  · subst h
    simp only [true_and, ne_eq, not_true_eq_false, false_and, or_false]
    refine ⟨fun hx => hx.elim Eq.symm (fun hx => hactive hx.2), fun hx => .inl hx.symm⟩
  · simp only [h, false_and, ne_eq, not_false_eq_true, true_and, false_or]
    exact Iff.rfl

theorem record_indexes (h : Consistent t) (hr : Recordable t id input) :
    Indexes cookieOf (t.record id input).pending (t.record id input).pendingCookie ∧
      Indexes tupleOf (t.record id input).pending (t.record id input).pendingWeak := by
  have hfree : ∀ k x, HasTuple t.pending k x → evidenceOf k x = inputEvidence input → k = id :=
    fun k x hx he => hr.alone k x (.inl hx) he
  have hold : ∀ o, t.pending.find? id = some o → o.tuple = input.tuple :=
    fun o ho => hr.pendingTuple o.tuple ⟨o, ho, rfl⟩
  cases hc : input.cookie with
  | some c =>
    have hcookie : id.cookie = some c := hr.cookie.trans hc
    have hkey : ∀ o, cookieOf (id, o) = some ⟨input.tuple.netns, c⟩ := by
      intro o
      simp [cookieOf, hcookie, hr.issued.1]
    have hnone : ∀ o, tupleOf (id, o) = none := by
      intro o
      simp [tupleOf, hcookie]
    simp only [record, hc]
    refine ⟨h.pendingCookie.insert (hkey _) (fun o _ => hkey o) ?_,
      h.pendingWeak.insert_none (hnone _) (fun o _ => hnone o)⟩
    intro k hk
    obtain ⟨o, ho, hof⟩ := (h.pendingCookie _ k).mp hk
    apply hfree k o.tuple ⟨o, ho, rfl⟩
    rw [cookieOf_eq_some.mp hof, inputEvidence, hc, evidenceFor]
  | none =>
    have hcookie : id.cookie = none := hr.cookie.trans hc
    have hkey : ∀ o : SocketObservation, o.tuple = input.tuple →
        tupleOf (id, o) = some input.tuple := by
      intro o ho
      simp [tupleOf, hcookie, ho]
    have hnone : ∀ o, cookieOf (id, o) = none := by
      intro o
      simp [cookieOf, hcookie]
    simp only [record, hc]
    refine ⟨h.pendingCookie.insert_none (hnone _) (fun o _ => hnone o),
      h.pendingWeak.insert (hkey _ rfl) (fun o ho => hkey o (hold o ho)) ?_⟩
    intro k hk
    obtain ⟨o, ho, hof⟩ := (h.pendingWeak _ k).mp hk
    apply hfree k o.tuple ⟨o, ho, rfl⟩
    rw [tupleOf_eq_some.mp hof, inputEvidence, hc, evidenceFor]

theorem newcomers_record (t : SocketLifecycleTable) (id : SocketId)
    (input : SocketObservationInput) :
    (t.record id input).newcomers ⊆ insert id t.newcomers := by
  intro k hk
  simp only [newcomers, record, keys_insert, mem_sdiff, mem_insert] at hk ⊢
  rcases hk.1 with rfl | hp
  · exact .inl rfl
  · exact .inr ⟨hp, hk.2⟩

theorem newcomers_record_known (hid : t.pending.contains id ∨ t.active.contains id) :
    (t.record id input).newcomers = t.newcomers := by
  ext k
  simp only [newcomers, record, keys_insert, mem_sdiff, mem_insert, mem_keys]
  by_cases hk : k = id
  · subst hk
    rcases hid with hid | hid
    all_goals simp [hid]
  · simp [hk]

theorem record_room (h : Consistent t) (hr : Recordable t id input) :
    (t.record id input).newcomers = ∅ ∨
      (t.record id input).newcomers.card + t.active.size ≤ t.config.maxActiveEntries := by
  by_cases hid : t.pending.contains id ∨ t.active.contains id
  · rw [newcomers_record_known hid]
    exact h.room
  · have hfits : t.active.size + t.pending.size < t.config.maxActiveEntries := by
      rcases hr.fits with hp | ha | hfits
      · exact absurd (.inl hp) hid
      · exact absurd (.inr ha) hid
      · exact hfits
    have hnew := card_le_card (newcomers_record t id input)
    have hinsert := card_insert_le id t.newcomers
    have hpending : t.newcomers.card ≤ t.pending.size := by
      rw [← card_keys]
      exact card_le_card sdiff_subset
    exact .inr (by omega)

theorem Consistent.record (h : Consistent t) (hr : Recordable t id input) :
    Consistent (t.record id input) := by
  obtain ⟨hpcookie, hpweak⟩ := record_indexes h hr
  refine
    { cookieActive := h.cookieActive, weakActive := h.weakActive
      pendingCookie := hpcookie, pendingWeak := hpweak, seen := ?_
      superseded := ?_, supersededActive := h.supersededActive, activeIssued := h.activeIssued
      pendingIssued := ?_, sameTuple := ?_, distinct := ?_, activeBound := h.activeBound, closedBound := h.closedBound
      room := record_room h hr }
  · change insert id t.pendingSeen = (t.pending.insert id _).keys
    rw [keys_insert, h.seen]
  · intro k hk
    have hne : id ≠ k := fun he => hr.unsuperseded (he ▸ hk)
    have hold := h.superseded k hk
    simpa [SocketLifecycleTable.record, OrderedMap.contains, hne] using hold
  · intro k x hx
    rcases hasTuple_record.mp hx with ⟨rfl, rfl⟩ | ⟨-, hx⟩
    · exact hr.issued
    · exact h.pendingIssued k x hx
  · intro k x y hx hy
    rcases hasTuple_record.mp hx with ⟨rfl, rfl⟩ | ⟨-, hx⟩
    · exact (hr.activeTuple y hy).symm
    · exact h.sameTuple k x y hx hy
  · intro p a x y hx hs hy he
    rcases hasTuple_record.mp hx with ⟨rfl, rfl⟩ | ⟨-, hx⟩
    · exact (hr.alone a y (.inr ⟨hs, hy⟩) (he.symm.trans hr.evidence)).symm
    · exact h.distinct p a x y hx hs hy he
end Record
end WeakNet.SocketLifecycleTable
