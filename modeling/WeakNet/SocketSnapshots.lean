import WeakNet.SocketIdentity

/-! Whatever is observed, the live containers stay as they are until an authoritative commit, after
which every active socket is one of the observations made from the inputs. -/

namespace WeakNet.SocketLifecycleTable
open Foundation Foundation.OrderedMap Foundation.Runs

variable {t t' t'' : SocketLifecycleTable} {input : SocketObservationInput}

structure SameLive (t t' : SocketLifecycleTable) : Prop where
  active : t'.active = t.active
  closed : t'.closed = t.closed
  cookieActive : t'.cookieActive = t.cookieActive
  weakActive : t'.weakActive = t.weakActive

theorem SameLive.refl (t : SocketLifecycleTable) : SameLive t t := ⟨rfl, rfl, rfl, rfl⟩

theorem SameLive.trans (h : SameLive t t') (h' : SameLive t' t'') : SameLive t t'' :=
  ⟨h'.active.trans h.active, h'.closed.trans h.closed, h'.cookieActive.trans h.cookieActive,
    h'.weakActive.trans h.weakActive⟩

theorem supersede_sameLive (t : SocketLifecycleTable) (id : SocketId) :
    SameLive t (t.supersede id) := by
  obtain ⟨-, -, -, -, hclosed, hweak, hcookie⟩ := supersede_frame t id
  exact ⟨supersede_active t id, hclosed, hcookie, hweak⟩

theorem resolve_sameLive (h : Consistent t) (input : SocketObservationInput) :
    SameLive t (t.resolve input).table := by
  refine resolve_induction (P := SameLive t) input h (SameLive.refl t) ?_
  intro s id _ _ hs
  exact hs.trans (supersede_sameLive s id)

theorem observe_sameLive (h : Consistent t) (input : SocketObservationInput) :
    SameLive t (t.observe input).1 := by
  have hresolve := resolve_sameLive h input
  rcases observe_cases h input with ⟨-, heq⟩ | ⟨-, id, -, -, heq⟩ | ⟨-, -, -, heq⟩ |
    ⟨-, -, -, -, heq⟩ | ⟨-, -, -, -, -, heq⟩ <;> rw [heq]
  · exact SameLive.refl t
  · exact ⟨rfl, rfl, rfl, rfl⟩
  · exact hresolve
  · exact hresolve
  · exact { hresolve with }

theorem observeAll_sameLive (h : Sound t) (inputs : List SocketObservationInput) :
    Sound (t.observeAll inputs) ∧ SameLive t (t.observeAll inputs) := by
  refine run_invariant (P := fun s => Sound s ∧ SameLive t s) ?_ ⟨h, SameLive.refl t⟩ inputs
  intro s input hs
  exact ⟨hs.1.observe input, hs.2.trans (observe_sameLive hs.1.consistent input)⟩

theorem beginSnapshot_sameLive (t : SocketLifecycleTable)
    (disposition : SocketSnapshotDisposition) : SameLive t (t.beginSnapshot disposition).1 := by
  rw [beginSnapshot]
  split_ifs
  · exact SameLive.refl t
  · exact ⟨rfl, rfl, rfl, rfl⟩

theorem clearCandidate_sameLive (t : SocketLifecycleTable) : SameLive t t.clearCandidate :=
  ⟨rfl, rfl, rfl, rfl⟩

theorem observeAll_disposition (h : Sound t) (inputs : List SocketObservationInput) :
    (t.observeAll inputs).disposition = t.disposition := by
  have hrun : Sound (t.observeAll inputs) ∧ (t.observeAll inputs).disposition = t.disposition := by
    refine run_invariant (P := fun s => Sound s ∧ s.disposition = t.disposition) ?_ ⟨h, rfl⟩ inputs
    intro s input hs
    exact ⟨hs.1.observe input, (observe_frame hs.1.consistent input).2.2.1.trans hs.2⟩
  exact hrun.2

theorem discarded_sameLive (h : Sound t) (disposition : SocketSnapshotDisposition)
    (inputs : List SocketObservationInput) :
    SameLive t ((t.beginSnapshot disposition).1.observeAll inputs).abortSnapshot ∧
      ((t.beginSnapshot disposition).1.disposition ≠ .authoritative →
        SameLive t ((t.beginSnapshot disposition).1.observeAll inputs).commitSnapshot.1) := by
  have hbegin : Sound (t.beginSnapshot disposition).1 := h.step t (.beginSnapshot disposition)
  obtain ⟨-, hobserved⟩ := observeAll_sameLive hbegin inputs
  have hkept := (beginSnapshot_sameLive t disposition).trans hobserved
  refine ⟨hkept.trans (clearCandidate_sameLive _), fun hauthority => ?_⟩
  rw [commitSnapshot, observeAll_disposition hbegin]
  split_ifs with hprogress
  · exact hkept.trans (clearCandidate_sameLive _)
  · exact hkept

def Reaches (t t' : SocketLifecycleTable) : Prop := ∃ ops, run step t ops = t'

theorem Reaches.refl (t : SocketLifecycleTable) : Reaches t t := ⟨[], rfl⟩

theorem Reaches.step (h : Reaches t t') (op : Op) : Reaches t (t'.step op) := by
  obtain ⟨ops, rfl⟩ := h
  exact ⟨ops ++ [op], run_append ..⟩

theorem Reaches.sound (h : Reaches t t') (hsound : Sound t) : Sound t' := by
  obtain ⟨ops, rfl⟩ := h
  exact run_invariant Sound.step hsound ops

theorem reaches_observeAll (hidle : t.snapshotInProgress = false)
    (inputs : List SocketObservationInput) : Reaches t (t.opened.observeAll inputs) :=
  ⟨_, run_begin_observe hidle inputs⟩

def Recorded (P : SocketObservationInput → Prop) (m : OrderedMap SocketId SocketObservation) :
    Prop :=
  ∀ id o, m.find? id = some o → ∃ i, P i ∧ validInput i = true ∧ o = makeObservation id i

section Recorded
variable {P : SocketObservationInput → Prop}
theorem Recorded.supersede (h : Recorded P t.pending) (id : SocketId) :
    Recorded P (t.supersede id).pending := by
  intro k o ho
  rw [supersede_pending, find?_erase] at ho
  split_ifs at ho
  exact h k o ho

theorem Recorded.record (h : Recorded P t.pending) (hinput : P input)
    (hvalid : validInput input) (id : SocketId) :
    Recorded P (t.record id input).pending := by
  intro k o ho
  change (t.pending.insert id (makeObservation id input)).find? k = some o at ho
  rw [find?_insert] at ho
  split_ifs at ho with hk
  · cases ho
    rw [← hk]
    exact ⟨input, hinput, hvalid, rfl⟩
  · exact h k o ho

theorem Recorded.observe (hconsistent : Consistent t) (h : Recorded P t.pending)
    (hinput : P input) : Recorded P (t.observe input).1.pending := by
  have hresolve : Recorded P (t.resolve input).table.pending := by
    refine resolve_induction (P := fun s => Recorded P s.pending) input hconsistent h ?_
    intro s id _ _ hs
    exact hs.supersede id
  have hvalid : t.admits input → validInput input := by
    intro hadmits
    simp only [admits, Bool.and_eq_true] at hadmits
    exact hadmits.2
  rcases observe_cases hconsistent input with ⟨-, heq⟩ | ⟨ha, id, -, -, heq⟩ | ⟨-, -, -, heq⟩ |
    ⟨-, -, -, -, heq⟩ | ⟨ha, -, -, -, -, heq⟩ <;> rw [heq]
  · exact h
  · exact h.record hinput (hvalid ha) id
  · exact hresolve
  · exact hresolve
  · have hadvanced : Recorded P (t.resolve input).table.advance.pending := hresolve
    exact hadvanced.record hinput (hvalid ha) _

theorem observeAll_recorded (h : Sound t) (hrecorded : Recorded P t.pending)
    {inputs : List SocketObservationInput} (hinputs : ∀ i ∈ inputs, P i) :
    Recorded P (t.observeAll inputs).pending := by
  induction inputs generalizing t with
  | nil => exact hrecorded
  | cons input _ ih =>
    apply ih (h.observe input)
    · exact hrecorded.observe h.consistent (hinputs input List.mem_cons_self)
    · exact fun i hi => hinputs i (List.mem_cons_of_mem input hi)

theorem snapshot_recorded (h : Sound t) (inputs : List SocketObservationInput) :
    Recorded (· ∈ inputs) (t.opened.observeAll inputs).commitSnapshot.1.active := by
  have hcollect := (collecting_opened h).observeAll inputs
  obtain ⟨closed, -, hcommit⟩ :=
    commitSnapshot_authoritative hcollect.consistent hcollect.inProgress hcollect.authoritative
  rw [hcommit]
  have hopened : Sound t.opened := ⟨(collecting_opened h).consistent, fun _ => ⟨rfl, rfl⟩⟩
  have hnone : Recorded (· ∈ inputs) t.opened.pending := by
    intro id o ho
    cases ho
  exact observeAll_recorded hopened hnone fun _ hi => hi
end Recorded
end WeakNet.SocketLifecycleTable
