import WeakNet.SocketTableRuns

/-! An issued identity that is neither active nor a candidate stays so forever, and leaving the
active table makes an identity one of these. A snapshot keeps an active identity that one of its
inputs confirms and none contradicts. -/

namespace WeakNet.SocketLifecycleTable
open Foundation Foundation.OrderedMap Foundation.Runs List

variable {t : SocketLifecycleTable} {id k : SocketId} {input : SocketObservationInput}
structure Retired (t : SocketLifecycleTable) (id : SocketId) : Prop where
  issued : id.generation < t.nextGeneration
  notActive : t.active.contains id = false
  notPending : t.pending.contains id = false

def Known (t : SocketLifecycleTable) (id : SocketId) : Prop :=
  t.active.contains id = true ∨ t.pending.contains id = true

theorem Live.known {x : SocketTuple} (h : Live t id x) : Known t id := by
  rcases h with h | ⟨-, h⟩
  · exact .inr h.contains
  · exact .inl h.contains

theorem retired_iff (h : id.generation < t.nextGeneration) : Retired t id ↔ ¬ Known t id := by
  refine ⟨fun hr hk => ?_, fun hk => ⟨h, ?_, ?_⟩⟩
  · rcases hk with ha | hp
    · simp [hr.notActive] at ha
    · simp [hr.notPending] at hp
  · exact Bool.eq_false_iff.mpr fun ha => hk (.inl ha)
  · exact Bool.eq_false_iff.mpr fun hp => hk (.inr hp)

theorem known_supersede (h : Known (t.supersede id) k) : Known t k := by
  rw [Known] at h ⊢
  rw [supersede_active, supersede_pending] at h
  refine h.imp_right fun hp => ?_
  by_cases hk : k = id
  · simp [OrderedMap.contains, hk] at hp
  · simpa [OrderedMap.contains, hk] using hp

theorem known_resolve (h : Consistent t) (hk : Known (t.resolve input).table k) : Known t k := by
  have hall := resolve_induction (P := fun s => ∀ k, Known s k → Known t k) input h
    (fun _ hs => hs) (fun s id _ _ hs k hk => hs k (known_supersede hk))
  exact hall k hk

theorem known_record (h : Known (t.record id input) k) : k = id ∨ Known t k := by
  rcases h with ha | hp
  · exact .inr (.inl ha)
  · by_cases hk : k = id
    · exact .inl hk
    · refine .inr (.inr ?_)
      have hne : id ≠ k := fun he => hk he.symm
      simpa [record, OrderedMap.contains, hne] using hp

def createdBy (t : SocketLifecycleTable) : Op → Option SocketId
  | .observe input =>
    match (t.observe input).2 with
    | .accepted r => if r.createdGeneration then some r.observation.id else none
    | _ => none
  | _ => none

def created : SocketLifecycleTable → List Op → List SocketId
  | _, [] => []
  | t, op :: ops => (t.createdBy op).toList ++ created (t.step op) ops

structure Advances (t t' : SocketLifecycleTable) (new : Option SocketId) : Prop where
  known : ∀ k, Known t' k → Known t k ∨ new = some k
  counter : t'.nextGeneration = t.nextGeneration + new.toList.length
  fresh : ∀ k, new = some k → k.generation = t.nextGeneration

variable {t' : SocketLifecycleTable}
theorem advances_none (hgen : t'.nextGeneration = t.nextGeneration)
    (hknown : ∀ k, Known t' k → Known t k) : Advances t t' none :=
  ⟨fun k hk => .inl (hknown k hk), hgen, by simp⟩

theorem advances_observe (h : Consistent t) (input : SocketObservationInput) :
    Advances t (t.observe input).1 (t.createdBy (.observe input)) := by
  have hgen := (resolve_frame h input).2.2.2.1
  rcases observe_cases h input with ⟨-, heq⟩ | ⟨-, id, -, hlive, heq⟩ | ⟨-, -, -, heq⟩ |
    ⟨-, -, -, -, heq⟩ | ⟨-, -, -, -, -, heq⟩
  · simp only [createdBy, heq]
    exact advances_none rfl fun _ hk => hk
  · simp only [createdBy, heq, Bool.false_eq_true, ↓reduceIte]
    refine advances_none rfl fun k hk => ?_
    rcases known_record hk with rfl | hk
    · exact hlive.known
    · exact hk
  · simp only [createdBy, heq]
    exact advances_none hgen fun _ hk => known_resolve h hk
  · simp only [createdBy, heq]
    exact advances_none hgen fun _ hk => known_resolve h hk
  · simp only [createdBy, heq, ↓reduceIte]
    refine ⟨fun k hk => ?_, ?_, ?_⟩
    · rcases known_record hk with rfl | hk
      · exact .inr rfl
      · exact .inl (known_resolve h hk)
    · change (t.resolve input).table.nextGeneration + 1 = _
      rw [hgen]
      rfl
    · intro k hk
      cases hk
      exact hgen

theorem known_of_active (active : OrderedMap SocketId SocketObservation)
    (hactive : ∀ k, active.contains k → Known t k) (h : t'.active = active)
    (hpending : t'.pending = .empty) (k : SocketId) (hk : Known t' k) : Known t k := by
  rcases hk with ha | hp
  · exact hactive k (h ▸ ha)
  · rw [hpending] at hp
    simp [OrderedMap.contains] at hp

theorem advances_commitSnapshot (h : Consistent t) : Advances t t.commitSnapshot.1 none := by
  by_cases hprogress : t.snapshotInProgress
  · by_cases hauth : t.disposition = .authoritative
    · obtain ⟨closed, -, heq⟩ := commitSnapshot_authoritative h hprogress hauth
      rw [heq]
      exact advances_none rfl (known_of_active _ (fun k hk => .inr hk) rfl rfl)
    · rw [commitSnapshot, if_pos hprogress, if_neg hauth]
      exact advances_none rfl (known_of_active _ (fun k hk => .inl hk) rfl rfl)
  · rw [commitSnapshot, if_neg hprogress]
    exact advances_none rfl fun _ hk => hk

section
variable (h : Sound t)
include h
theorem advances_close (id : SocketId) : Advances t (t.close id).1 none := by
  rw [close]
  cases hprogress : t.snapshotInProgress with
  | true => exact advances_none rfl fun _ hk => hk
  | false =>
    simp only [Bool.false_eq_true, ↓reduceIte]
    cases t.active.find? id with
    | none => exact advances_none rfl fun _ hk => hk
    | some _ =>
      refine advances_none rfl (known_of_active (t.active.erase id) ?_ rfl (h.idle hprogress).1)
      intro k hk
      rw [← OrderedMap.mem_keys, keys_erase, Finset.mem_erase, OrderedMap.mem_keys] at hk
      exact .inl hk.2

theorem advances_step (op : Op) : Advances t (t.step op) (t.createdBy op) := by
  cases op with
  | beginSnapshot disposition =>
    change Advances t (t.beginSnapshot disposition).1 none
    rw [beginSnapshot]
    split_ifs with hprogress
    · exact advances_none rfl fun _ hk => hk
    · exact advances_none rfl (known_of_active _ (fun k hk => .inl hk) rfl rfl)
  | observe input => exact advances_observe h.consistent input
  | commitSnapshot => exact advances_commitSnapshot h.consistent
  | abortSnapshot =>
    exact advances_none rfl (known_of_active _ (fun k hk => .inl hk) rfl rfl)
  | close id => exact advances_close h id

theorem step_active_or_pending (op : Op) :
    (t.step op).active = t.active ∨ (t.step op).pending = .empty := by
  cases op with
  | beginSnapshot disposition =>
    change (t.beginSnapshot disposition).1.active = _ ∨ _
    rw [beginSnapshot]
    split_ifs <;> exact .inl rfl
  | observe input => exact .inl (observe_frame h.consistent input).2.2.2
  | commitSnapshot =>
    exact .inr ((Sound.step t .commitSnapshot h).idle commitSnapshot_idle).1
  | abortSnapshot => exact .inl rfl
  | close id =>
    change (t.close id).1.active = _ ∨ (t.close id).1.pending = _
    rw [close]
    cases hprogress : t.snapshotInProgress with
    | true => exact .inl rfl
    | false =>
      cases hid : t.active.find? id with
      | none => exact .inl rfl
      | some _ => exact .inr (h.idle hprogress).1

theorem Retired.step (hr : Retired t id) (op : Op) : Retired (t.step op) id := by
  have hadvance := advances_step h op
  have hissued : id.generation < (t.step op).nextGeneration := by
    have hold := hr.issued
    rw [hadvance.counter]
    omega
  refine (retired_iff hissued).mpr fun hk => ?_
  rcases hadvance.known id hk with hknown | hnew
  · exact (retired_iff hr.issued).mp hr hknown
  · have hgen := hadvance.fresh id hnew
    exact absurd hgen hr.issued.ne

theorem active_step (ha : t.active.contains id) (op : Op) :
    (t.step op).active.contains id ∨ Retired (t.step op) id := by
  obtain ⟨x, hx⟩ := hasTuple_of_contains ha
  have hadvance := advances_step h op
  have hissued : id.generation < (t.step op).nextGeneration := by
    have hold := (h.consistent.activeIssued id x hx).2
    rw [hadvance.counter]
    omega
  rcases step_active_or_pending h op with hactive | hpending
  · exact .inl (hactive ▸ ha)
  · by_cases hstill : (t.step op).active.contains id
    · exact .inl hstill
    · refine .inr ((retired_iff hissued).mpr fun hk => ?_)
      rcases hk with hk | hk
      · exact hstill hk
      · rw [hpending] at hk
        simp [OrderedMap.contains] at hk

theorem retired_run (hr : Retired t id) (ops : List Op) :
    Retired (run step t ops) id := by
  have hall := run_invariant (P := fun s => Sound s ∧ Retired s id)
    (fun s op hs => ⟨hs.1.step s op, hs.2.step hs.1 op⟩) ⟨h, hr⟩ ops
  exact hall.2

theorem active_run (ha : t.active.contains id) (ops : List Op) :
    (run step t ops).active.contains id ∨ Retired (run step t ops) id := by
  have hstep : ∀ s op, (Sound s ∧ (s.active.contains id ∨ Retired s id)) →
      Sound (s.step op) ∧ ((s.step op).active.contains id ∨ Retired (s.step op) id) := by
    intro s op hs
    refine ⟨hs.1.step s op, ?_⟩
    rcases hs.2 with hactive | hr
    · exact active_step hs.1 hactive op
    · exact .inr (hr.step hs.1 op)
  exact (run_invariant hstep ⟨h, .inl ha⟩ ops).2

theorem created_generation (ops : List Op) :
    ∀ k ∈ created t ops, t.nextGeneration ≤ k.generation := by
  induction ops generalizing t with
  | nil => simp [created]
  | cons op _ ih =>
    intro k hk
    have hadvance := advances_step h op
    rcases mem_append.mp hk with hnew | hlater
    · exact (hadvance.fresh k (Option.mem_toList.mp hnew)).ge
    · have hle := ih (h.step t op) k hlater
      rw [hadvance.counter] at hle
      omega

theorem created_increasing (ops : List Op) :
    (created t ops).Pairwise (fun a b => a.generation < b.generation) := by
  induction ops generalizing t with
  | nil => exact List.Pairwise.nil
  | cons op ops ih =>
    have hadvance := advances_step h op
    refine pairwise_append.mpr ⟨?_, ih (h.step t op), ?_⟩
    · cases t.createdBy op <;> simp
    · intro a ha b hb
      have hnew := Option.mem_toList.mp ha
      have hgen := hadvance.fresh a hnew
      have hlater := created_generation (h.step t op) ops b hb
      have hnext : (t.step op).nextGeneration = t.nextGeneration + 1 := by
        rw [hadvance.counter, hnew]
        rfl
      omega

theorem known_run (ops : List Op) (hk : Known (run step t ops) k) :
    Known t k ∨ k ∈ created t ops := by
  induction ops generalizing t with
  | nil => exact .inl hk
  | cons op _ ih =>
    rcases ih (h.step t op) hk with hknown | hlater
    · rcases (advances_step h op).known k hknown with hold | hnew
      · exact .inl hold
      · exact .inr (mem_append_left _ (Option.mem_toList.mpr hnew))
    · exact .inr (mem_append_right _ hlater)
end

section Continuity
variable {x : SocketTuple}
theorem resolve_keeps (h : Consistent t) (hlive : Live t id x)
    (hno : ∀ s, Consistent s → Live s id x → ¬ Contradicts s input id) :
    Live (t.resolve input).table id x ∧
      (HasTuple t.pending id x → HasTuple (t.resolve input).table.pending id x) := by
  refine resolve_induction (P := fun s => Live s id x ∧
    (HasTuple t.pending id x → HasTuple s.pending id x)) input h ⟨hlive, fun hp => hp⟩ ?_
  intro s k hs hcontra hkeeps
  have hne : id ≠ k := by
    intro he
    exact hno s hs hkeeps.1 (he ▸ hcontra)
  refine ⟨live_supersede.mpr ⟨hne, hkeeps.1⟩, fun hp => ?_⟩
  rw [supersede_pending, hasTuple_erase]
  exact ⟨hne, hkeeps.2 hp⟩

theorem record_keeps (hr : Recordable t k input) (hlive : Live t id x) :
    Live (t.record k input) id x ∧
      (HasTuple t.pending id x → HasTuple (t.record k input).pending id x) := by
  by_cases hk : id = k
  · subst hk
    have htuple : x = input.tuple := by
      rcases hlive with hp | ⟨-, ha⟩
      · exact hr.pendingTuple x hp
      · exact hr.activeTuple x ha
    exact ⟨(live_record hr).mpr (.inl ⟨rfl, htuple⟩),
      fun _ => hasTuple_record.mpr (.inl ⟨rfl, htuple.symm⟩)⟩
  · exact ⟨(live_record hr).mpr (.inr ⟨hk, hlive⟩),
      fun hp => hasTuple_record.mpr (.inr ⟨hk, hp⟩)⟩

theorem observe_keeps (input : SocketObservationInput) (h : Consistent t) (hlive : Live t id x)
    (hno : t.admits input → ∀ s, Consistent s → Live s id x → ¬ Contradicts s input id) :
    Live (t.observe input).1 id x ∧
      (HasTuple t.pending id x → HasTuple (t.observe input).1.pending id x) := by
  rcases observe_cases h input with ⟨-, heq⟩ | ⟨-, k, hr, -, heq⟩ | ⟨ha, -, -, heq⟩ |
    ⟨ha, -, -, -, heq⟩ | ⟨ha, -, -, -, hr, heq⟩ <;> rw [heq]
  · exact ⟨hlive, fun hp => hp⟩
  · exact record_keeps hr hlive
  · exact resolve_keeps h hlive (hno ha)
  · exact resolve_keeps h hlive (hno ha)
  · obtain ⟨hlive', hpending⟩ := resolve_keeps h hlive (hno ha)
    obtain ⟨hrecorded, hcandidate⟩ := record_keeps hr hlive'
    exact ⟨hrecorded, fun hp => hcandidate (hpending hp)⟩

theorem resolved_of_live (h : Consistent t) (hlive : Live t id input.tuple)
    (hevidence : evidenceOf id input.tuple = inputEvidence input) :
    (t.resolve input).resolved = some id := by
  cases hres : (t.resolve input).resolved with
  | some _ =>
    obtain ⟨-, hk, hsame⟩ := resolve_some h hres
    rw [Live.distinct h hlive hk (hevidence.trans hsame.symm)]
  | none =>
    have hno : ∀ s, Consistent s → Live s id input.tuple → ¬ Contradicts s input id := by
      intro s hs hlive' hcontra
      obtain ⟨y, hy, hkind⟩ := hcontra
      have htuple := Live.tuple_unique hs hy hlive'
      rcases hkind with ⟨-, -, hne⟩ | ⟨-, hne⟩
      · exact hne htuple
      · exact hne (by rw [cookie_of_evidence hevidence])
    have hkept := (resolve_keeps h hlive hno).1
    exact absurd ⟨id, input.tuple, hkept, hevidence⟩ (resolve_none h hres).1

theorem observe_confirms (h : Consistent t) (hadmits : t.admits input)
    (hlive : Live t id input.tuple)
    (hevidence : evidenceOf id input.tuple = inputEvidence input) :
    HasTuple (t.observe input).1.pending id input.tuple := by
  have hres := resolved_of_live h hlive hevidence
  have htable := (resolve_some h hres).1
  simp only [observe, hadmits, ↓reduceIte, hres, htable]
  exact hasTuple_record.mpr (.inl ⟨rfl, rfl⟩)
end Continuity

def snapshotOps (inputs : List SocketObservationInput) : List Op :=
  .beginSnapshot .authoritative :: inputs.map .observe ++ [.commitSnapshot]

structure Collecting (t : SocketLifecycleTable) : Prop where
  consistent : Consistent t
  inProgress : t.snapshotInProgress = true
  authoritative : t.disposition = .authoritative

def opened (t : SocketLifecycleTable) : SocketLifecycleTable :=
  { t.clearPending with snapshotInProgress := true, disposition := .authoritative }

theorem collecting_opened (h : Sound t) : Collecting t.opened :=
  ⟨h.consistent.settled.clearPending true .authoritative, rfl, rfl⟩

theorem Collecting.admits_eq (h : Collecting t) (input : SocketObservationInput) :
    t.admits input = validInput input := by
  simp [admits, h.inProgress, h.authoritative]

theorem Collecting.observe (h : Collecting t) (input : SocketObservationInput) :
    Collecting (t.observe input).1 := by
  obtain ⟨-, hprogress, hdisposition, -⟩ := observe_frame h.consistent input
  exact ⟨h.consistent.observe input, hprogress.trans h.inProgress,
    hdisposition.trans h.authoritative⟩

def observeAll (t : SocketLifecycleTable) (inputs : List SocketObservationInput) :
    SocketLifecycleTable :=
  run (fun s input => (s.observe input).1) t inputs

theorem Collecting.observeAll (h : Collecting t) (inputs : List SocketObservationInput) :
    Collecting (t.observeAll inputs) :=
  run_invariant (fun _ input hs => hs.observe input) h inputs

theorem run_begin_observe (hidle : t.snapshotInProgress = false)
    (inputs : List SocketObservationInput) :
    run step t (.beginSnapshot .authoritative :: inputs.map .observe) =
      t.opened.observeAll inputs := by
  have hbegin : t.step (.beginSnapshot .authoritative) = t.opened := by
    change (t.beginSnapshot .authoritative).1 = _
    rw [beginSnapshot, if_neg (by simp [hidle])]
    rfl
  rw [run_cons, hbegin, run, foldl_map]
  rfl

theorem run_snapshotOps (h : Sound t) (hidle : t.snapshotInProgress = false)
    (inputs : List SocketObservationInput) :
    (run step t (snapshotOps inputs)).active = (t.opened.observeAll inputs).pending := by
  have hcollect := (collecting_opened h).observeAll inputs
  obtain ⟨closed, -, heq⟩ :=
    commitSnapshot_authoritative hcollect.consistent hcollect.inProgress hcollect.authoritative
  rw [snapshotOps, run_append, run_begin_observe hidle]
  change (t.opened.observeAll inputs).commitSnapshot.1.active = _
  rw [heq]
  rfl

section Continuity
variable {x : SocketTuple} {c : ℕ}
def Uncontradicted (c : ℕ) (x : SocketTuple) (inputs : List SocketObservationInput) : Prop :=
  (∀ i ∈ inputs, validInput i = true → i.cookie = some c → i.tuple.netns = x.netns →
    i.tuple = x) ∧
  (∀ i ∈ inputs, validInput i = true → i.cookie = none → i.tuple ≠ x)

theorem not_contradicts (hcookie : id.cookie = some c) (hnetns : id.netns = x.netns)
    (hsame : input.cookie = some c → input.tuple.netns = x.netns → input.tuple = x)
    (hweak : input.cookie = none → input.tuple ≠ x) :
    ∀ s, Consistent s → Live s id x → ¬ Contradicts s input id := by
  intro s hs hlive hcontra
  obtain ⟨y, hy, hkind⟩ := hcontra
  obtain rfl := Live.tuple_unique hs hy hlive
  rcases hkind with ⟨-, hevidence, hne⟩ | ⟨htuple, hkind⟩
  · have hinput := (cookie_of_evidence hevidence).symm.trans hcookie
    rw [evidenceOf, inputEvidence, hcookie, hinput, evidenceFor, evidenceFor,
      Evidence.cookie.injEq, CookieKey.mk.injEq] at hevidence
    exact hne (hsame hinput (hevidence.1.symm.trans hnetns)).symm
  · cases hinput : input.cookie with
    | none => exact hweak hinput htuple.symm
    | some _ => simp [hcookie, hinput] at hkind

theorem observeAll_keeps (h : Collecting t) (hlive : Live t id x) (hcookie : id.cookie = some c)
    (hnetns : id.netns = x.netns) (inputs : List SocketObservationInput)
    (hno : Uncontradicted c x inputs) :
    Live (t.observeAll inputs) id x ∧
      (HasTuple t.pending id x → HasTuple (t.observeAll inputs).pending id x) := by
  induction inputs generalizing t with
  | nil => exact ⟨hlive, fun hp => hp⟩
  | cons i _ ih =>
    obtain ⟨hsame, hweak⟩ := hno
    have hstep := observe_keeps i h.consistent hlive (fun hadmits =>
      have hvalid := (h.admits_eq i).symm.trans hadmits
      not_contradicts hcookie hnetns (hsame i mem_cons_self hvalid) (hweak i mem_cons_self hvalid))
    have hrest := ih (h.observe i) hstep.1
      ⟨fun j hj => hsame j (mem_cons_of_mem i hj),
        fun j hj => hweak j (mem_cons_of_mem i hj)⟩
    exact ⟨hrest.1, fun hp => hrest.2 (hstep.2 hp)⟩

theorem observeAll_confirms (h : Collecting t) (hlive : Live t id x)
    (hcookie : id.cookie = some c) (hnetns : id.netns = x.netns)
    {inputs : List SocketObservationInput} (hno : Uncontradicted c x inputs)
    (hseen : ∃ i ∈ inputs, validInput i ∧ i.cookie = some c ∧ i.tuple = x) :
    HasTuple (t.observeAll inputs).pending id x := by
  obtain ⟨i, hi, hvalid, hc, rfl⟩ := hseen
  obtain ⟨before, later, rfl⟩ := append_of_mem hi
  have hbefore : Uncontradicted c i.tuple before :=
    ⟨fun j hj => hno.1 j (mem_append_left _ hj),
      fun j hj => hno.2 j (mem_append_left _ hj)⟩
  have hlater : Uncontradicted c i.tuple later :=
    ⟨fun j hj => hno.1 j (mem_append_right _ (mem_cons_of_mem i hj)),
      fun j hj => hno.2 j (mem_append_right _ (mem_cons_of_mem i hj))⟩
  have hcollect := h.observeAll before
  have hkept := (observeAll_keeps h hlive hcookie hnetns before hbefore).1
  have hevidence : evidenceOf id i.tuple = inputEvidence i := by
    rw [evidenceOf, inputEvidence, hcookie, hc, hnetns]
  have hadmits := (hcollect.admits_eq i).trans hvalid
  have hpending := observe_confirms hcollect.consistent hadmits hkept hevidence
  have hrun : t.observeAll (before ++ i :: later) =
      ((t.observeAll before).observe i).1.observeAll later := by
    rw [observeAll, run_append, run_cons]
    rfl
  rw [hrun]
  exact (observeAll_keeps (hcollect.observe i) (.inl hpending) hcookie hnetns later hlater).2
    hpending
end Continuity

theorem after_append (config : SocketLifecycleConfig) (ops ops' : List Op) :
    after config (ops ++ ops') = run step (after config ops) ops' :=
  run_append _ _ _

/-- Identities are never reused, are created with increasing generations, and survive a
snapshot that confirms them and does not contradict them. -/
theorem identities_stable (config : SocketLifecycleConfig) :
    (∀ pre mid post id, (after config pre).active.contains id = true →
      (after config (pre ++ mid)).active.contains id = false →
      (after config (pre ++ mid ++ post)).active.contains id = false) ∧
    (∀ ops, (created (initial config) ops).Pairwise (fun a b => a.generation < b.generation) ∧
      ∀ id, (after config ops).active.contains id = true → id ∈ created (initial config) ops) ∧
    (∀ ops id c x inputs, (after config ops).snapshotInProgress = false →
      HasTuple (after config ops).active id x → id.cookie = some c →
      (∃ i ∈ inputs, validInput i = true ∧ i.cookie = some c ∧ i.tuple = x) →
      (∀ i ∈ inputs, validInput i = true → i.cookie = some c → i.tuple.netns = x.netns →
        i.tuple = x) →
      (∀ i ∈ inputs, validInput i = true → i.cookie = none → i.tuple ≠ x) →
      HasTuple (after config (ops ++ snapshotOps inputs)).active id x) := by
  refine ⟨?_, ?_, ?_⟩
  · intro pre mid post id hactive hleft
    have hsound := (sound_after config pre).1
    have hmid : Retired (after config (pre ++ mid)) id := by
      have hrun := active_run hsound hactive mid
      rw [← after_append] at hrun
      rcases hrun with hstill | hr
      · simp [hleft] at hstill
      · exact hr
    have hpost := retired_run (sound_after config (pre ++ mid)).1 hmid post
    rw [after_append]
    exact hpost.notActive
  · intro ops
    refine ⟨created_increasing (sound_initial config) ops, fun id hactive => ?_⟩
    rcases known_run (sound_initial config) ops (.inl hactive) with hknown | hnew
    · rcases hknown with hk | hk
      all_goals simp [initial, OrderedMap.contains] at hk
    · exact hnew
  · intro ops id c x inputs hidle hactive hcookie hseen hsame hweak
    have hsound := (sound_after config ops).1
    have hnetns := (hsound.consistent.activeIssued id x hactive).1
    have hlive : Live (after config ops).opened id x := .inr ⟨Finset.notMem_empty id, hactive⟩
    rw [after_append, run_snapshotOps hsound hidle]
    exact observeAll_confirms (collecting_opened hsound) hlive hcookie hnetns ⟨hsame, hweak⟩ hseen

def sampleTuple (port : ℕ) : SocketTuple where
  netns := ⟨4, 1⟩
  protocol := .tcp
  family := afInet
  localEnd := ⟨afInet, .zero, port⟩
  remoteEnd := ⟨afInet, .zero, 0⟩

def sampleInput (cookie : Option ℕ) (port : ℕ) : SocketObservationInput where
  tuple := sampleTuple port
  cookie := cookie
  observedAt := 0
  monotonicAt := 0
  source := .socketTracker
  validity := .valid
  present := true
  tcpState := 1
  diagIfindex := none
  tcpInfo := none
  tcpInfoMalformed := false

/-- Tables for `spare + 1` entries. -/
def sampleConfig (spare : ℕ) : SocketLifecycleConfig :=
  ⟨spare + 1, spare + 1, Nat.succ_pos spare, Nat.succ_pos spare⟩

theorem identities_stable_sample :
    (after (sampleConfig 3) (snapshotOps [sampleInput (some 1) 80] ++ snapshotOps [] ++
      snapshotOps [sampleInput (some 1) 80])).active.contains ⟨⟨4, 1⟩, some 1, 1⟩ = false ∧
    HasTuple (after (sampleConfig 3) (snapshotOps [sampleInput (some 2) 80] ++
      snapshotOps [sampleInput (some 3) 81, sampleInput (some 2) 80])).active
      ⟨⟨4, 1⟩, some 2, 1⟩ (sampleTuple 80) := by
  obtain ⟨hgone, -, hkept⟩ := identities_stable (sampleConfig 3)
  refine ⟨hgone _ _ _ _ (by decide) (by decide), ?_⟩
  refine hkept _ _ 2 _ _ (by decide) ?_ rfl ?_ ?_ ?_
  · exact ⟨makeObservation ⟨⟨4, 1⟩, some 2, 1⟩ (sampleInput (some 2) 80), by decide, rfl⟩
  · exact ⟨sampleInput (some 2) 80, by simp, by decide, rfl, rfl⟩
  all_goals decide
end WeakNet.SocketLifecycleTable
