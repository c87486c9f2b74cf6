import WeakNet.SocketIdentity

/-! A cookie-less sighting is meant to reset every cookie-backed lifecycle of its tuple, but each of
the two scans stops at its first match. `scansCover` decides before the step whether they reach
every live one. -/

namespace WeakNet.SocketLifecycleTable
open Foundation Foundation.OrderedMap Foundation.Runs List SocketLifecycleTable

variable {t : SocketLifecycleTable} {id : SocketId} {input : SocketObservationInput}
def Unmixed (P : SocketId → SocketTuple → Prop) : Prop :=
  ∀ a b x, P a x → P b x → a.cookie = none → b.cookie = none

theorem Unmixed.mono {P Q : SocketId → SocketTuple → Prop} (h : Unmixed Q)
    (hsub : ∀ id x, P id x → Q id x) : Unmixed P :=
  fun a b x ha hb => h a b x (hsub a x ha) (hsub b x hb)

def cookieBacked (t : SocketLifecycleTable) (tuple : SocketTuple) : List SocketId :=
  ((t.pending.entries ++ t.active.entries.filter (fun e => e.1 ∉ t.pendingSuperseded)).filter
    (fun e => e.1.cookie.isSome && e.2.tuple == tuple)).map Prod.fst

variable {x : SocketTuple}
theorem mem_cookieBacked :
    id ∈ t.cookieBacked x ↔ Live t id x ∧ id.cookie.isSome := by
  simp only [cookieBacked, mem_map, mem_filter, mem_append, Prod.exists,
    exists_and_right, exists_eq_right, mem_entries, Bool.and_eq_true, beq_iff_eq,
    decide_eq_true_eq, Live, HasTuple]
  refine ⟨fun h => ?_, fun h => ?_⟩
  · obtain ⟨o, hfound, hcookie, htuple⟩ := h
    rcases hfound with hp | ⟨ha, hs⟩
    · exact ⟨.inl ⟨o, hp, htuple⟩, hcookie⟩
    · exact ⟨.inr ⟨hs, o, ha, htuple⟩, hcookie⟩
  · obtain ⟨hlive, hcookie⟩ := h
    rcases hlive with ⟨o, hp, htuple⟩ | ⟨hs, o, ha, htuple⟩
    · exact ⟨o, .inl hp, hcookie, htuple⟩
    · exact ⟨o, .inr ⟨ha, hs⟩, hcookie, htuple⟩

def scanned (t : SocketLifecycleTable) (tuple : SocketTuple) (id : SocketId) : Bool :=
  let rest := t.supersedeFirst t.pending tuple
  t.firstCookieBacked t.pending tuple == some id ||
    rest.firstCookieBacked rest.active tuple == some id

def scansCover (t : SocketLifecycleTable) (input : SocketObservationInput) : Bool :=
  input.cookie.isSome || !t.admits input ||
    (t.cookieBacked input.tuple).all (t.scanned input.tuple)

theorem live_supersedeFirst {m : OrderedMap SocketId SocketObservation} {tuple : SocketTuple} :
    Live (t.supersedeFirst m tuple) id x ↔
      t.firstCookieBacked m tuple ≠ some id ∧ Live t id x := by
  rw [supersedeFirst]
  cases hf : t.firstCookieBacked m tuple with
  | none => simp
  | some k =>
    have hne : some k ≠ some id ↔ id ≠ k := by simp [eq_comm]
    rw [live_supersede, hne]

theorem live_resetCookieBacked {tuple : SocketTuple} :
    Live (t.resetCookieBacked tuple).table id x ↔ t.scanned tuple id = false ∧ Live t id x := by
  change Live ((t.supersedeFirst t.pending tuple).supersedeFirst _ tuple) id x ↔ _
  rw [live_supersedeFirst, live_supersedeFirst]
  simp only [scanned, Bool.or_eq_false_iff, beq_eq_false_iff_ne, ne_eq]
  refine ⟨fun h => ⟨⟨h.2.1, h.1⟩, h.2.2⟩, fun h => ⟨h.1.2, h.1.1, h.2⟩⟩

theorem resolve_cookieless (h : Consistent t) (hcookie : input.cookie = none)
    (hnone : (t.resolve input).resolved = none) :
    (t.resolve input).table = (t.resetCookieBacked input.tuple).table := by
  simp only [resolve, hcookie] at hnone ⊢
  rcases resolveWeak_cases h input.tuple with ⟨id, -, -, heq⟩ | ⟨-, heq⟩
  · rw [heq] at hnone
    simp at hnone
  · rw [heq]

theorem live_resolve (h : Consistent t) (hx : Live (t.resolve input).table id x) : Live t id x := by
  have hall := resolve_induction (P := fun s => ∀ id x, Live s id x → Live t id x) input h (fun _ _ hs => hs)
    (fun s k _ _ hs id x hx => hs id x (live_supersede.mp hx).2)
  exact hall id x hx

theorem unmixed_record {k : SocketId} (hr : Recordable t k input) (h : Unmixed (Live t)) :
    Unmixed (Live (t.record k input)) ↔
      ∀ id, Live t id input.tuple → (id.cookie = none ↔ k.cookie = none) := by
  refine ⟨fun hmixed id hlive => ?_, fun hkind a b x ha hb hnone => ?_⟩
  · by_cases hid : id = k
    · rw [hid]
    · have hold := (live_record hr).mpr (.inr ⟨hid, hlive⟩)
      have hnew := (live_record hr).mpr (.inl ⟨rfl, rfl⟩)
      exact ⟨hmixed id k _ hold hnew, hmixed k id _ hnew hold⟩
  · rcases (live_record hr).mp ha with ⟨rfl, rfl⟩ | ⟨-, hlive⟩
    · rcases (live_record hr).mp hb with ⟨rfl, -⟩ | ⟨-, hother⟩
      · exact hnone
      · exact (hkind b hother).mpr hnone
    · rcases (live_record hr).mp hb with ⟨rfl, rfl⟩ | ⟨-, hother⟩
      · exact (hkind a hlive).mp hnone
      · exact h a b x hlive hother hnone

section
variable (h : Consistent t)
include h
theorem scansCover_iff (hcookie : input.cookie = none) (hadmits : t.admits input)
    (hnone : (t.resolve input).resolved = none) :
    t.scansCover input ↔
      ∀ id, Live (t.resolve input).table id input.tuple → id.cookie = none := by
  rw [resolve_cookieless h hcookie hnone]
  simp only [scansCover, hcookie, Option.isSome_none, hadmits, Bool.not_true, Bool.or_self,
    Bool.false_or, all_eq_true, mem_cookieBacked, live_resetCookieBacked]
  refine ⟨fun hall id hlive => ?_, fun hall id hlive => ?_⟩
  · cases hc : id.cookie with
    | none => rfl
    | some _ =>
      have hscan := hall id ⟨hlive.2, by simp [hc]⟩
      simp [hlive.1] at hscan
  · by_contra hscan
    have hc := hall id ⟨by simpa using hscan, hlive.1⟩
    simp [hc] at hlive

theorem not_live_cookieless (hnone : (t.resolve input).resolved = none) :
    ∀ id, Live (t.resolve input).table id input.tuple → id.cookie ≠ none := by
  intro id hlive hc
  refine (resolve_none h hnone).2 ⟨id, input.tuple, hlive, ?_⟩
  rw [evidenceOf, hc, evidenceFor]

theorem unmixed_observe (hlive : Unmixed (Live t)) (hcover : t.scansCover input) :
    Unmixed (Live (t.observe input).1) := by
  have hresolve : Unmixed (Live (t.resolve input).table) := hlive.mono fun _ _ => live_resolve h
  rcases observe_cases h input with ⟨-, heq⟩ | ⟨-, k, hr, hk, heq⟩ | ⟨-, -, -, heq⟩ |
    ⟨-, -, -, -, heq⟩ | ⟨ha, hnone, -, -, hr, heq⟩
  · rw [heq]
    exact hlive
  · rw [heq, unmixed_record hr hlive]
    exact fun id hid => ⟨hlive id k _ hid hk, hlive k id _ hk hid⟩
  · rw [heq]
    exact hresolve
  · rw [heq]
    exact hresolve
  · rw [heq, unmixed_record hr hresolve]
    intro id hid
    by_cases hcookie : input.cookie = none
    · have hweak := (scansCover_iff h hcookie ha hnone).mp hcover id hid
      exact ⟨fun _ => hcookie, fun _ => hweak⟩
    · have hbacked := not_live_cookieless h hnone id hid
      exact ⟨fun hc => absurd hc hbacked, fun hc => absurd hc hcookie⟩

theorem unmixed_observe_iff (hlive : Unmixed (Live t)) (hcookie : input.cookie = none)
    {r : SocketResolution} (hr : (t.observe input).2 = .accepted r) :
    Unmixed (Live (t.observe input).1) ↔ t.scansCover input := by
  refine ⟨fun hmixed => ?_, unmixed_observe h hlive⟩
  rcases observe_cases h input with ⟨-, heq⟩ | ⟨ha, k, hk, hfound, heq⟩ | ⟨-, -, -, heq⟩ |
    ⟨-, -, -, -, heq⟩ | ⟨ha, hnone, -, -, hk, heq⟩
  · simp [heq] at hr
  · have hbacked : t.cookieBacked input.tuple = [] := by
      refine eq_nil_iff_forall_not_mem.mpr fun id hid => ?_
      obtain ⟨hid, hc⟩ := mem_cookieBacked.mp hid
      have hweak := hlive k id _ hfound hid (hk.cookie.trans hcookie)
      simp [hweak] at hc
    simp [scansCover, hbacked]
  · simp [heq] at hr
  · simp [heq] at hr
  · have hresolve : Unmixed (Live (t.resolve input).table) := hlive.mono fun _ _ => live_resolve h
    rw [heq, unmixed_record hk hresolve] at hmixed
    refine (scansCover_iff h hcookie ha hnone).mpr fun id hid => ?_
    exact (hmixed id hid).mpr hcookie
end

def ScansCover (t : SocketLifecycleTable) : Op → Prop
  | .observe input => t.scansCover input = true
  | _ => True

instance (t : SocketLifecycleTable) (op : Op) : Decidable (t.ScansCover op) := by
  cases op <;> unfold ScansCover <;> infer_instance

structure Separated (t : SocketLifecycleTable) : Prop where
  sound : Sound t
  live : Unmixed (Live t)
  active : Unmixed (HasTuple t.active)

theorem separated_of_settled (h : Sound t) (hpending : t.pending = .empty)
    (hactive : Unmixed (HasTuple t.active)) : Separated t := by
  refine ⟨h, hactive.mono fun id x hx => ?_, hactive⟩
  rcases hx with hp | ⟨-, ha⟩
  · rw [hpending] at hp
    exact absurd hp not_hasTuple_empty
  · exact ha

theorem Separated.commitSnapshot (h : Separated t) : Separated (t.step .commitSnapshot) := by
  have hsound := Sound.step t .commitSnapshot h.sound
  refine separated_of_settled hsound (hsound.idle commitSnapshot_idle).1 ?_
  change Unmixed (HasTuple t.commitSnapshot.1.active)
  by_cases hprogress : t.snapshotInProgress
  · by_cases hauth : t.disposition = .authoritative
    · obtain ⟨closed, -, heq⟩ := commitSnapshot_authoritative h.sound.consistent hprogress hauth
      rw [heq]
      exact h.live.mono fun _ _ hx => .inl hx
    · rw [SocketLifecycleTable.commitSnapshot, if_pos hprogress, if_neg hauth]
      exact h.active
  · rw [SocketLifecycleTable.commitSnapshot, if_neg hprogress]
    exact h.active

theorem Separated.close (h : Separated t) (id : SocketId) : Separated (t.step (.close id)) := by
  have hsound := Sound.step t (.close id) h.sound
  change Separated (t.close id).1
  change Sound (t.close id).1 at hsound
  rw [SocketLifecycleTable.close] at hsound ⊢
  cases hprogress : t.snapshotInProgress with
  | true => simpa [hprogress] using h
  | false =>
    cases hid : t.active.find? id with
    | none => simpa [hprogress, hid] using h
    | some _ =>
      simp only [hprogress, hid, Bool.false_eq_true, ↓reduceIte] at hsound ⊢
      refine separated_of_settled hsound (h.sound.idle hprogress).1 ?_
      exact h.active.mono fun k x hx => (hasTuple_erase.mp hx).2

theorem Separated.step (t : SocketLifecycleTable) (op : Op) (h : Separated t)
    (hcover : t.ScansCover op) : Separated (t.step op) := by
  cases op with
  | beginSnapshot disposition =>
    have hsound := Sound.step t (.beginSnapshot disposition) h.sound
    change Separated (t.beginSnapshot disposition).1
    change Sound (t.beginSnapshot disposition).1 at hsound
    rw [beginSnapshot] at hsound ⊢
    split_ifs at hsound ⊢ with hprogress
    · exact h
    · exact separated_of_settled hsound rfl h.active
  | observe input =>
    refine ⟨h.sound.observe input, unmixed_observe h.sound.consistent h.live hcover, ?_⟩
    change Unmixed (HasTuple (t.observe input).1.active)
    rw [(observe_frame h.sound.consistent input).2.2.2]
    exact h.active
  | commitSnapshot => exact h.commitSnapshot
  | abortSnapshot =>
    exact separated_of_settled (Sound.step t .abortSnapshot h.sound) rfl h.active
  | close id => exact h.close id

theorem separated_initial (config : SocketLifecycleConfig) : Separated (initial config) := by
  refine separated_of_settled (sound_initial config) rfl fun a b x ha => ?_
  exact absurd ha not_hasTuple_empty

theorem separated_after {config : SocketLifecycleConfig} {ops : List Op}
    (h : AllSteps step ScansCover (initial config) ops) : Separated (after config ops) :=
  run_guarded Separated.step (separated_initial config) h

/-- In a run whose cookie-less sightings are all covered by their scans, no active
cookie-less identity ever shares its tuple with a cookie-backed one; and for an accepted
cookie-less sighting the condition is what keeps the live identities apart. -/
theorem kinds_kept_apart (config : SocketLifecycleConfig) (ops : List Op)
    (h : AllSteps step ScansCover (initial config) ops) :
    (∀ pre, pre <+: ops → ∀ weak backed x, HasTuple (after config pre).active weak x →
      HasTuple (after config pre).active backed x → weak.cookie = none → backed.cookie = none) ∧
    (∀ input r, input.cookie = none → ((after config ops).observe input).2 = .accepted r →
      (Unmixed (Live ((after config ops).observe input).1) ↔
        (after config ops).scansCover input = true)) := by
  refine ⟨fun pre hpre => ?_, fun input r hcookie hr => ?_⟩
  · have hsteps : AllSteps step ScansCover (initial config) pre := by
      obtain ⟨post, rfl⟩ := hpre
      refine allSteps_iff.mpr fun before op later heq => ?_
      refine allSteps_iff.mp h before op (later ++ post) ?_
      rw [heq, append_assoc, cons_append]
    exact (separated_after hsteps).active
  · have hsep := separated_after h
    exact unmixed_observe_iff hsep.sound.consistent hsep.live hcookie hr

theorem kinds_kept_apart_sample :
    AllSteps step ScansCover (initial (sampleConfig 7))
      (snapshotOps [sampleInput (some 1) 80, sampleInput (some 2) 81] ++
        snapshotOps [sampleInput none 80, sampleInput (some 2) 81]) ∧
    Unmixed (HasTuple (after (sampleConfig 7)
      (snapshotOps [sampleInput (some 1) 80, sampleInput (some 2) 81] ++
        snapshotOps [sampleInput none 80, sampleInput (some 2) 81])).active) :=
  ⟨by decide, (kinds_kept_apart (sampleConfig 7) _ (by decide)).1 _ prefix_rfl⟩

/-- Cookies 1 and 2 share a tuple; a cookie-less sighting resets only cookie 1, and the
next input confirms cookie 2 next to the cookie-less identity. -/
theorem kinds_side_by_side :
    ∃ weak backed x,
      HasTuple (after (sampleConfig 7)
        (snapshotOps [sampleInput (some 1) 80, sampleInput (some 2) 80] ++
          snapshotOps [sampleInput none 80, sampleInput (some 2) 80])).active weak x ∧
      HasTuple (after (sampleConfig 7)
        (snapshotOps [sampleInput (some 1) 80, sampleInput (some 2) 80] ++
          snapshotOps [sampleInput none 80, sampleInput (some 2) 80])).active backed x ∧
      weak.cookie = none ∧ backed.cookie = some 2 := by
  refine ⟨⟨⟨4, 1⟩, none, 3⟩, ⟨⟨4, 1⟩, some 2, 2⟩, sampleTuple 80, ?_, ?_, rfl, rfl⟩
  · exact ⟨makeObservation ⟨⟨4, 1⟩, none, 3⟩ (sampleInput none 80), by decide, rfl⟩
  · exact ⟨makeObservation ⟨⟨4, 1⟩, some 2, 2⟩ (sampleInput (some 2) 80), by decide, rfl⟩
end WeakNet.SocketLifecycleTable
