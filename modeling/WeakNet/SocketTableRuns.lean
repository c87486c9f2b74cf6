import WeakNet.SocketResolve

/-! Every entry point preserves the representation invariant. An authoritative commit replaces the
active identities by the candidates as a whole. -/

namespace WeakNet.SocketLifecycleTable
open Foundation Foundation.OrderedMap Foundation.Runs SocketLifecycleTable List Indexes

variable {t : SocketLifecycleTable} {id : SocketId} {input : SocketObservationInput}
variable {x : SocketTuple}
theorem cookie_of_evidence (h : evidenceOf id x = inputEvidence input) :
    id.cookie = input.cookie := by
  rw [evidenceOf, inputEvidence] at h
  cases hid : id.cookie with
  | none =>
    cases hin : input.cookie with
    | none => rfl
    | some _ => simp [evidenceFor, hid, hin] at h
  | some _ =>
    cases hin : input.cookie with
    | none => simp [evidenceFor, hid, hin] at h
    | some _ =>
      simp only [evidenceFor, hid, hin, Evidence.cookie.injEq, CookieKey.mk.injEq] at h
      rw [h.2]

theorem recordable_resolved (h : Consistent t)
    (hlive : Live t id input.tuple)
    (hevidence : evidenceOf id input.tuple = inputEvidence input) : Recordable t id input := by
  have hs := Live.not_superseded h hlive
  refine
    { cookie := cookie_of_evidence hevidence
      issued := Live.issued h hlive
      unsuperseded := hs
      pendingTuple := fun x hx => Live.tuple_unique h (.inl hx) hlive
      activeTuple := fun x hx => Live.tuple_unique h (.inr ⟨hs, hx⟩) hlive
      alone := fun id' x hx he => Live.distinct h hx hlive (he.trans hevidence.symm)
      fits := ?_ }
  rcases hlive with hp | ⟨-, ha⟩
  · exact .inl hp.contains
  · exact .inr (.inl ha.contains)

def advance (t : SocketLifecycleTable) : SocketLifecycleTable :=
  { t with nextGeneration := t.nextGeneration + 1 }

section
variable (h : Consistent t)
include h
theorem Consistent.advance : Consistent t.advance :=
  { h with
    activeIssued := fun k x hx => ⟨(h.activeIssued k x hx).1, (h.activeIssued k x hx).2.trans
      (Nat.lt_succ_self _)⟩
    pendingIssued := fun k x hx => ⟨(h.pendingIssued k x hx).1, (h.pendingIssued k x hx).2.trans
      (Nat.lt_succ_self _)⟩ }

theorem fresh_not_pending :
    ¬ HasTuple t.pending (t.newIdentity input) x := by
  intro hx
  have hissued := (h.pendingIssued _ _ hx).2
  exact lt_irrefl _ hissued

theorem fresh_not_active :
    ¬ HasTuple t.active (t.newIdentity input) x := by
  intro hx
  have hissued := (h.activeIssued _ _ hx).2
  exact lt_irrefl _ hissued

theorem recordable_created (hfree : ¬ Tracked t (inputEvidence input)) (hfull : t.full = false) :
    Recordable t.advance (t.newIdentity input) input := by
  refine
    { cookie := rfl
      issued := ⟨rfl, Nat.lt_succ_self _⟩
      unsuperseded := ?_
      pendingTuple := fun x hx => absurd hx (fresh_not_pending h)
      activeTuple := fun x hx => absurd hx (fresh_not_active h)
      alone := fun id' x hx he => absurd ⟨id', x, hx, he⟩ hfree
      fits := ?_ }
  · intro hs
    obtain ⟨x, hx⟩ := hasTuple_of_contains (mem_keys.mp (h.supersededActive hs))
    exact fresh_not_active h hx
  · simp only [full, decide_eq_false_iff_not, not_le] at hfull
    exact .inr (.inr hfull)

section
variable (input : SocketObservationInput)
theorem resolve_frame :
    (t.resolve input).table.config = t.config ∧
      (t.resolve input).table.snapshotInProgress = t.snapshotInProgress ∧
      (t.resolve input).table.disposition = t.disposition ∧
      (t.resolve input).table.nextGeneration = t.nextGeneration ∧
      (t.resolve input).table.active = t.active ∧
      (t.resolve input).table.closed = t.closed := by
  refine resolve_induction (P := fun s => s.config = t.config ∧
    s.snapshotInProgress = t.snapshotInProgress ∧ s.disposition = t.disposition ∧
    s.nextGeneration = t.nextGeneration ∧ s.active = t.active ∧ s.closed = t.closed)
    input h ⟨rfl, rfl, rfl, rfl, rfl, rfl⟩ ?_
  intro s k _ _ hs
  obtain ⟨hconfig, hprogress, hdisposition, hgen, hclosed, -, -⟩ := supersede_frame s k
  rw [hconfig, hprogress, hdisposition, hgen, hclosed, supersede_active]
  exact hs

theorem observe_cases :
    (t.admits input = false ∧ t.observe input = (t, .refused)) ∨
    (t.admits input ∧ ∃ id, Recordable t id input ∧ Live t id input.tuple ∧
      t.observe input = (t.record id input,
        .accepted ⟨makeObservation id input, false, (t.resolve input).inconsistent⟩)) ∨
    (t.admits input ∧ (t.resolve input).resolved = none ∧
      (t.resolve input).table.full ∧
      t.observe input = ((t.resolve input).table, .refused)) ∨
    (t.admits input ∧ (t.resolve input).resolved = none ∧
      (t.resolve input).table.full = false ∧
      (t.resolve input).table.nextGeneration = maxGeneration ∧
      t.observe input = ((t.resolve input).table, .generationExhausted)) ∨
    (t.admits input ∧ (t.resolve input).resolved = none ∧
      (t.resolve input).table.full = false ∧
      (t.resolve input).table.nextGeneration ≠ maxGeneration ∧
      Recordable (t.resolve input).table.advance ((t.resolve input).table.newIdentity input) input ∧
      t.observe input =
        ((t.resolve input).table.advance.record ((t.resolve input).table.newIdentity input) input,
          .accepted ⟨makeObservation ((t.resolve input).table.newIdentity input) input, true,
            (t.resolve input).inconsistent⟩)) := by
  rw [observe]
  cases ha : t.admits input with
  | false => exact .inl ⟨rfl, by simp⟩
  | true =>
    refine .inr ?_
    cases hid : (t.resolve input).resolved with
    | some id =>
      obtain ⟨htable, hlive, hevidence⟩ := resolve_some h hid
      refine .inl ⟨rfl, id, recordable_resolved h hlive hevidence, hlive, ?_⟩
      simp [htable, hid]
    | none =>
      refine .inr ?_
      cases hfull : (t.resolve input).table.full with
      | true => exact .inl ⟨rfl, rfl, rfl, by simp [hid, hfull]⟩
      | false =>
        by_cases hgen : (t.resolve input).table.nextGeneration = maxGeneration
        · exact .inr (.inl ⟨rfl, rfl, rfl, hgen, by simp [hid, hfull, hgen]⟩)
        · refine .inr (.inr ⟨rfl, rfl, rfl, hgen, ?_, by simp [hid, hfull, hgen, advance]⟩)
          exact recordable_created (h.resolve input) (resolve_none h hid).1 hfull

theorem Consistent.observe :
    Consistent (t.observe input).1 := by
  rcases observe_cases h input with ⟨-, heq⟩ | ⟨-, id, hr, -, heq⟩ | ⟨-, -, -, heq⟩ |
    ⟨-, -, -, -, heq⟩ | ⟨-, -, -, -, hr, heq⟩ <;> rw [heq]
  · exact h
  · exact h.record hr
  · exact h.resolve ..
  · exact h.resolve ..
  · exact (h.resolve input).advance.record hr

theorem observe_frame :
    (t.observe input).1.config = t.config ∧
      (t.observe input).1.snapshotInProgress = t.snapshotInProgress ∧
      (t.observe input).1.disposition = t.disposition ∧
      (t.observe input).1.active = t.active := by
  obtain ⟨hconfig, hprogress, hdisposition, -, hactive, -⟩ := resolve_frame h input
  rcases observe_cases h input with ⟨-, heq⟩ | ⟨-, id, -, -, heq⟩ | ⟨-, -, -, heq⟩ |
    ⟨-, -, -, -, heq⟩ | ⟨-, -, -, -, -, heq⟩ <;> rw [heq]
  · exact ⟨rfl, rfl, rfl, rfl⟩
  · exact ⟨rfl, rfl, rfl, rfl⟩
  all_goals exact ⟨hconfig, hprogress, hdisposition, hactive⟩
end
end

theorem foldl_retire (l : List (SocketId × SocketObservation)) (t : SocketLifecycleTable) :
    l.foldl retire t =
      { t with
        active := l.foldl (fun acc e => acc.erase e.1) t.active
        closed := (l.foldl retire t).closed } := by
  induction l generalizing t with
  | nil => rfl
  | cons e _ ih =>
    rw [foldl_cons, foldl_cons, ih (t.retire e)]
    rfl

theorem rememberClosed_length (t : SocketLifecycleTable) (o : SocketObservation) :
    (t.rememberClosed o).closed.length ≤ t.config.maxClosedEntries := by
  simp only [rememberClosed, length_drop, length_append, length_cons, length_nil]
  omega

section
variable (l : List (SocketId × SocketObservation))
theorem foldl_retire_closed (t : SocketLifecycleTable)
    (h : t.closed.length ≤ t.config.maxClosedEntries) :
    (l.foldl retire t).closed.length ≤ t.config.maxClosedEntries := by
  induction l generalizing t with
  | nil => exact h
  | cons e _ ih => exact ih (t.retire e) (rememberClosed_length t e.2)

theorem foldl_install (t : SocketLifecycleTable) (h : ∀ e ∈ l, e.1 ∉ t.pendingSuperseded) :
    l.foldl install t =
      { t with active := l.foldl (fun acc e => acc.insert e.1 e.2) t.active } := by
  induction l generalizing t with
  | nil => rfl
  | cons e _ ih =>
    have he := h e mem_cons_self
    rw [foldl_cons, foldl_cons, install, if_neg he, ih]
    intro e' he'
    exact h e' (mem_cons_of_mem e he')
end

def committed (t : SocketLifecycleTable) (closed : List SocketObservation) :
    SocketLifecycleTable :=
  { t with active := t.pending, closed := closed }.reindex.clearCandidate

theorem commit_active (h : Consistent t) :
    t.pending.entries.foldl (fun acc e => acc.insert e.1 e.2)
      ((t.active.entries.filter (fun e => !t.keeps e.1)).foldl (fun acc e => acc.erase e.1)
        t.active) = t.pending := by
  apply ext_find?
  intro k
  rw [find?_foldl_insert t.pending.sorted, find?_foldl_erase]
  change (t.pending.find? k).or _ = t.pending.find? k
  cases hp : t.pending.find? k with
  | some _ => rfl
  | none =>
    rw [Option.none_or]
    split_ifs with hclosed
    · rfl
    · cases ha : t.active.find? k with
      | none => rfl
      | some o =>
        have hkeeps : t.keeps k = false := by
          have hno : k ∉ t.pending.keys := by simp [OrderedMap.contains, hp]
          simp [keeps, h.seen, hno]
        refine absurd ?_ hclosed
        rw [mem_map]
        exact ⟨(k, o), mem_filter.mpr ⟨mem_entries.mpr ha, by simp [hkeeps]⟩, rfl⟩

theorem commitSnapshot_authoritative (h : Consistent t) (hprogress : t.snapshotInProgress)
    (hauth : t.disposition = .authoritative) :
    ∃ closed, closed.length ≤ t.config.maxClosedEntries ∧
      t.commitSnapshot = (t.committed closed, true) := by
  refine ⟨((t.active.entries.filter (fun e => !t.keeps e.1)).foldl retire t).closed,
    foldl_retire_closed _ t h.closedBound, ?_⟩
  have hinstall : ∀ e ∈ t.pending.entries, e.1 ∉ t.pendingSuperseded := fun e he =>
    pending_unsuperseded h ⟨e.2, mem_entries.mp he, rfl⟩
  have hretire := foldl_retire (t.active.entries.filter (fun e => !t.keeps e.1)) t
  generalize ((t.active.entries.filter (fun e => !t.keeps e.1)).foldl retire t).closed = closed
    at hretire
  have hpending := foldl_install t.pending.entries
    { t with
      active := (t.active.entries.filter (fun e => !t.keeps e.1)).foldl
        (fun acc e => acc.erase e.1) t.active
      closed := closed } hinstall
  rw [commitSnapshot, if_pos hprogress, if_pos hauth]
  simp only [hretire]
  rw [hpending]
  simp [commit_active h, committed]

structure Settled (t : SocketLifecycleTable) : Prop where
  cookieActive : Indexes cookieOf t.active t.cookieActive
  weakActive : Indexes tupleOf t.active t.weakActive
  activeIssued : ∀ id x, HasTuple t.active id x → Issued t id x
  activeBound : t.active.size ≤ t.config.maxActiveEntries
  closedBound : t.closed.length ≤ t.config.maxClosedEntries

theorem Consistent.settled (h : Consistent t) : Settled t := { h with }

theorem Settled.consistent (h : Settled t) (hpending : t.pending = .empty)
    (hcookie : Indexes cookieOf t.pending t.pendingCookie)
    (hweak : Indexes tupleOf t.pending t.pendingWeak)
    (hseen : t.pendingSeen = t.pending.keys) (hsuperseded : t.pendingSuperseded = ∅) :
    Consistent t := by
  have hno : ∀ id x, ¬ HasTuple t.pending id x := by
    intro id x hx
    rw [hpending] at hx
    exact not_hasTuple_empty hx
  refine
    { cookieActive := h.cookieActive, weakActive := h.weakActive
      pendingCookie := hcookie, pendingWeak := hweak, seen := hseen
      superseded := ?_, supersededActive := ?_
      activeIssued := h.activeIssued, pendingIssued := fun id x hx => absurd hx (hno id x)
      sameTuple := fun id x y hx => absurd hx (hno id x)
      distinct := fun p a x y hx => absurd hx (hno p x)
      activeBound := h.activeBound, closedBound := h.closedBound, room := .inl ?_ }
  · intro id hid
    simp [hsuperseded] at hid
  · simp [hsuperseded]
  · rw [newcomers, hpending]
    exact Finset.empty_sdiff _

theorem Settled.clearPending (h : Settled t) (inProgress : Bool)
    (disposition : SocketSnapshotDisposition) :
    Consistent { t.clearPending with
      snapshotInProgress := inProgress, disposition := disposition } :=
  Settled.consistent { h with }
    rfl empty empty rfl rfl

theorem pending_size_le (h : Consistent t) : t.pending.size ≤ t.config.maxActiveEntries := by
  have hsplit : t.pending.keys ⊆ t.newcomers ∪ t.active.keys := by
    intro k hk
    by_cases ha : k ∈ t.active.keys
    · exact Finset.mem_union_right _ ha
    · exact Finset.mem_union_left _ (Finset.mem_sdiff.mpr ⟨hk, ha⟩)
  have hcard := (Finset.card_le_card hsplit).trans (Finset.card_union_le _ _)
  rw [card_keys, card_keys] at hcard
  have hactive := h.activeBound
  rcases h.room with hnone | hroom
  · rw [hnone, Finset.card_empty] at hcard
    omega
  · omega

theorem Settled.reindex {active : OrderedMap SocketId SocketObservation}
    {byCookie : OrderedMap CookieKey SocketId} {byTuple : OrderedMap SocketTuple SocketId}
    (hcookie : Indexes cookieOf active byCookie) (htuple : Indexes tupleOf active byTuple)
    (hactive : t.active = active) (hissued : ∀ id x, HasTuple active id x → Issued t id x)
    (hbound : active.size ≤ t.config.maxActiveEntries)
    (hclosed : t.closed.length ≤ t.config.maxClosedEntries) : Settled t.reindex := by
  subst hactive
  refine ⟨?_, ?_, hissued, hbound, hclosed⟩
  · exact indexBy_indexes fun _ _ _ _ _ hk hk' hf hf' => hcookie.separates hk hk' hf hf'
  · exact indexBy_indexes fun _ _ _ _ _ hk hk' hf hf' => htuple.separates hk hk' hf hf'

theorem Consistent.committed (h : Consistent t) {closed : List SocketObservation}
    (hclosed : closed.length ≤ t.config.maxClosedEntries) : Consistent (t.committed closed) :=
  (Settled.reindex (t := { t with active := t.pending, closed := closed }) h.pendingCookie
    h.pendingWeak rfl h.pendingIssued (pending_size_le h) hclosed).clearPending false .failed

theorem Consistent.commitSnapshot (h : Consistent t) : Consistent t.commitSnapshot.1 := by
  by_cases hprogress : t.snapshotInProgress
  · by_cases hauth : t.disposition = .authoritative
    · obtain ⟨closed, hclosed, heq⟩ := commitSnapshot_authoritative h hprogress hauth
      rw [heq]
      exact h.committed hclosed
    · rw [SocketLifecycleTable.commitSnapshot, if_pos hprogress, if_neg hauth]
      exact h.settled.clearPending ..
  · rw [SocketLifecycleTable.commitSnapshot, if_neg hprogress]
    exact h

structure Sound (t : SocketLifecycleTable) : Prop where
  consistent : Consistent t
  idle : t.snapshotInProgress = false → t.pending = .empty ∧ t.pendingSuperseded = ∅

theorem sound_initial (config : SocketLifecycleConfig) : Sound (initial config) := by
  refine ⟨Settled.consistent ?_ rfl empty empty rfl rfl, fun _ => ⟨rfl, rfl⟩⟩
  refine ⟨empty, empty, ?_, Nat.zero_le _, Nat.zero_le _⟩
  intro id x hx
  exact absurd hx not_hasTuple_empty

theorem Sound.observe (h : Sound t) (input : SocketObservationInput) :
    Sound (t.observe input).1 := by
  refine ⟨h.consistent.observe input, fun hidle => ?_⟩
  rw [(observe_frame h.consistent input).2.1] at hidle
  have hadmits : t.admits input = false := by simp [admits, hidle]
  rw [SocketLifecycleTable.observe, if_neg (by simp [hadmits])]
  exact h.idle hidle

theorem Sound.close (h : Sound t) (id : SocketId) : Sound (t.close id).1 := by
  rw [SocketLifecycleTable.close]
  cases hprogress : t.snapshotInProgress with
  | true => simpa using h
  | false =>
    obtain ⟨hpending, hsuperseded⟩ := h.idle hprogress
    simp only [Bool.false_eq_true, ↓reduceIte]
    cases hid : t.active.find? id with
    | none => exact h
    | some o =>
      have hsmaller : (t.active.erase id).size ≤ t.active.size := by
        rw [← card_keys, ← card_keys, keys_erase]
        exact Finset.card_erase_le
      have hissued : ∀ k x, HasTuple (t.active.erase id) k x → Issued t k x := by
        intro k x hx
        exact h.consistent.activeIssued k x (hasTuple_erase.mp hx).2
      have hsettled : Settled (t.retire (id, o)).reindex :=
        Settled.reindex (h.consistent.cookieActive.erase id) (h.consistent.weakActive.erase id)
          rfl hissued (hsmaller.trans h.consistent.activeBound) (rememberClosed_length t o)
      exact ⟨hsettled.consistent hpending h.consistent.pendingCookie h.consistent.pendingWeak
        h.consistent.seen hsuperseded, fun _ => ⟨hpending, hsuperseded⟩⟩

theorem commitSnapshot_idle : t.commitSnapshot.1.snapshotInProgress = false := by
  rw [commitSnapshot]
  split_ifs with hprogress hauth
  · rfl
  · rfl
  · simpa using hprogress

theorem Sound.step (t : SocketLifecycleTable) (op : Op) (h : Sound t) : Sound (t.step op) := by
  cases op with
  | beginSnapshot disposition =>
    change Sound (t.beginSnapshot disposition).1
    rw [beginSnapshot]
    split_ifs with hprogress
    · exact h
    · exact ⟨h.consistent.settled.clearPending true disposition, fun _ => ⟨rfl, rfl⟩⟩
  | observe input => exact h.observe ..
  | commitSnapshot =>
    refine ⟨h.consistent.commitSnapshot, fun _ => ?_⟩
    change t.commitSnapshot.1.pending = _ ∧ t.commitSnapshot.1.pendingSuperseded = _
    rw [commitSnapshot]
    split_ifs with hprogress hauth
    · exact ⟨rfl, rfl⟩
    · exact ⟨rfl, rfl⟩
    · exact h.idle (by simpa using hprogress)
  | abortSnapshot =>
    exact ⟨h.consistent.settled.clearPending false .failed, fun _ => ⟨rfl, rfl⟩⟩
  | close id => exact h.close id

theorem step_config (t : SocketLifecycleTable) (op : Op) (h : Sound t) :
    (t.step op).config = t.config := by
  cases op with
  | beginSnapshot disposition =>
    change (t.beginSnapshot disposition).1.config = _
    rw [beginSnapshot]
    split_ifs <;> rfl
  | observe input => exact (observe_frame h.consistent input).1
  | commitSnapshot =>
    change t.commitSnapshot.1.config = _
    by_cases hprogress : t.snapshotInProgress
    · by_cases hauth : t.disposition = .authoritative
      · obtain ⟨closed, -, heq⟩ := commitSnapshot_authoritative h.consistent hprogress hauth
        rw [heq]
        rfl
      · rw [commitSnapshot, if_pos hprogress, if_neg hauth]
        rfl
    · rw [commitSnapshot, if_neg hprogress]
  | abortSnapshot => rfl
  | close id =>
    change (t.close id).1.config = _
    rw [close]
    split_ifs with hprogress
    · rfl
    · cases t.active.find? id <;> rfl

theorem sound_after (config : SocketLifecycleConfig) (ops : List Op) :
    Sound (after config ops) ∧ (after config ops).config = config := by
  refine run_invariant (P := fun t => Sound t ∧ t.config = config) ?_
    ⟨sound_initial config, rfl⟩ ops
  intro t op h
  exact ⟨h.1.step t op, (step_config t op h.1).trans h.2⟩

/-- After every sequence of calls the bounds hold, each kind of evidence names at most
one active identity, the two indexes are exact and the candidate sets agree. -/
theorem representation_invariant (config : SocketLifecycleConfig) (ops : List Op) :
    let t := after config ops
    t.active.size ≤ config.maxActiveEntries ∧
      t.closed.length ≤ config.maxClosedEntries ∧
      (∀ a b, t.active.contains a → t.active.contains b →
        a.cookie.isSome → a.netns = b.netns → a.cookie = b.cookie → a = b) ∧
      (∀ a b x, HasTuple t.active a x → HasTuple t.active b x →
        a.cookie = none → b.cookie = none → a = b) ∧
      Indexes cookieOf t.active t.cookieActive ∧
      Indexes tupleOf t.active t.weakActive ∧
      (∀ id ∈ t.pendingSuperseded, t.pending.contains id = false) ∧
      t.pending.keys = t.pendingSeen := by
  intro t
  obtain ⟨hsound, hconfig⟩ := sound_after config ops
  have h : Consistent t := hsound.consistent
  have hactive : t.active.size ≤ config.maxActiveEntries := hconfig ▸ h.activeBound
  have hclosed : t.closed.length ≤ config.maxClosedEntries := hconfig ▸ h.closedBound
  refine ⟨hactive, hclosed, ?_, ?_, h.cookieActive, h.weakActive, h.superseded, h.seen.symm⟩
  · intro a b ha hb hcookie hnetns hsame
    obtain ⟨x, hx⟩ := hasTuple_of_contains ha
    obtain ⟨y, hy⟩ := hasTuple_of_contains hb
    obtain ⟨c, hc⟩ := Option.isSome_iff_exists.mp hcookie
    apply indexes_distinct h.cookieActive h.weakActive hx hy
    simp [evidenceOf, evidenceFor, ← hsame, hc, hnetns]
  · intro a b x ha hb hna hnb
    apply indexes_distinct h.cookieActive h.weakActive ha hb
    simp [evidenceOf, evidenceFor, hna, hnb]
end WeakNet.SocketLifecycleTable
