import WeakNet.EventBusRuns

/-! An accepted event is dispatched once and in order unless a later event with its key took its
place in a full queue, and the counters account for every publication. -/

namespace WeakNet.EventBus
open Foundation.Runs List History

section Delivery
variable {h next : History} {e : NetworkEvent}
def DispatchedOnce (h : History) (e : NetworkEvent) : Prop :=
  h.dispatched.filter (fun d => d.sequence == e.sequence) = [e]

def NotDispatched (h : History) (e : NetworkEvent) : Prop :=
  ∀ d ∈ h.dispatched, d.sequence ≠ e.sequence

inductive Fate (h : History) (e : NetworkEvent) : Prop where
  | dispatched (honce : DispatchedOnce h e) (hqueue : e ∉ h.bus.queue)
    (hreplaced : ∀ r ∈ h.replaced, r.old ≠ e)
  | queued (hqueue : e ∈ h.bus.queue) (hnone : NotDispatched h e)
    (hreplaced : ∀ r ∈ h.replaced, r.old ≠ e)
  | replaced (r : Replacement) (hr : r ∈ h.replaced) (hold : r.old = e)
    (hreplaced : Replaced h r) (hqueue : e ∉ h.bus.queue) (hnone : NotDispatched h e)

section
variable (ho : Ordered h)
include ho
theorem Ordered.sequence_injOn {a b : NetworkEvent} (ha : a ∈ h.accepted) (hb : b ∈ h.accepted)
    (hab : a.sequence = b.sequence) : a = b := by
  have hnodup : (h.accepted.map NetworkEvent.sequence).Nodup := ho.accepted.imp (fun hlt => hlt.ne)
  exact inj_on_of_nodup_map hnodup ha hb hab

theorem Ordered.nodup :
    (h.dispatched ++ h.bus.queue ++ h.replaced.map Replacement.old).Nodup := by
  have hnodup : h.accepted.Nodup := by
    apply Nodup.of_map NetworkEvent.sequence
    exact ho.accepted.imp (fun hlt => hlt.ne)
  exact ho.partition.nodup_iff.mp hnodup

theorem Ordered.notDispatched (he : e ∈ h.accepted) (hnot : e ∉ h.dispatched) :
    NotDispatched h e := by
  intro d hd hde
  have hmem : d ∈ h.accepted := ho.mem_accepted (mem_append_left _ hd)
  exact hnot (ho.sequence_injOn hmem he hde ▸ hd)

theorem Ordered.dispatched_increasing : (h.dispatched.map NetworkEvent.sequence).Pairwise (· < ·) :=
  ho.order.sublist ((sublist_append_left _ _).map _)

theorem Ordered.dispatchedOnce (he : e ∈ h.dispatched) : DispatchedOnce h e := by
  obtain ⟨before, after, hsplit⟩ := append_of_mem he
  have hincreasing := ho.dispatched_increasing
  rw [hsplit, pairwise_map, pairwise_append, pairwise_cons] at hincreasing
  obtain ⟨-, ⟨hafter, -⟩, hbefore⟩ := hincreasing
  have hnone : before.filter (fun d => d.sequence == e.sequence) = [] := by
    apply filter_eq_nil_iff.mpr
    intro d hd
    have hlt := hbefore d hd e mem_cons_self
    simp [hlt.ne]
  have hnone' : after.filter (fun d => d.sequence == e.sequence) = [] := by
    apply filter_eq_nil_iff.mpr
    intro d hd
    have hlt := hafter d hd
    simp [hlt.ne']
  rw [DispatchedOnce, hsplit, filter_append, hnone, filter_cons_of_pos (by simp), hnone',
    nil_append]

theorem Ordered.fate (he : e ∈ h.accepted) : Fate h e := by
  have hnodup := ho.nodup
  rw [nodup_append', nodup_append'] at hnodup
  obtain ⟨⟨-, -, hqueue⟩, -, hold⟩ := hnodup
  have hnotOld : e ∈ h.dispatched ++ h.bus.queue → ∀ r ∈ h.replaced, r.old ≠ e := by
    intro hmem r hr hre
    exact hold hmem (mem_map.mpr ⟨r, hr, hre⟩)
  have hcases := ho.partition.mem_iff.mp he
  rw [mem_append] at hcases
  rcases hcases with hlive | hreplaced
  · rcases mem_append.mp hlive with hdispatched | hwaiting
    · exact .dispatched (ho.dispatchedOnce hdispatched) (hqueue hdispatched) (hnotOld hlive)
    · have hnot : e ∉ h.dispatched := fun hd => hqueue hd hwaiting
      exact .queued hwaiting (ho.notDispatched he hnot) (hnotOld hlive)
  · obtain ⟨r, hr, hre⟩ := mem_map.mp hreplaced
    have hnot : e ∉ h.dispatched ++ h.bus.queue := fun hlive => hold hlive hreplaced
    rw [mem_append, not_or] at hnot
    exact .replaced r hr hre (ho.replaced r hr) hnot.2 (ho.notDispatched he hnot.1)
end

def ahead (h : History) (e : NetworkEvent) : ℕ :=
  (h.bus.queue.filter (fun q => q.sequence < e.sequence)).length

theorem ahead_lt (he : e ∈ h.bus.queue) : ahead h e < h.bus.queue.length := by
  apply length_filter_lt_length_iff_exists.mpr
  exact ⟨e, he, by simp⟩

def Approaching (e : NetworkEvent) (bound : ℕ) (h : History) : Prop :=
  e ∈ h.dispatched ∨ (e ∈ h.bus.queue ∧ ahead h e + h.dispatched.length < bound)

variable {bound : ℕ}
theorem Approaching.of_sublist (hbound : ahead h e + h.dispatched.length < bound) (next : History)
    (kept added : List NetworkEvent) (hkept : kept.Sublist h.bus.queue) (he : e ∈ kept)
    (hadded : ∀ a ∈ added, e.sequence < a.sequence) (hnext : next.bus.queue = kept ++ added)
    (hdispatched : next.dispatched = h.dispatched) :
    Approaching e bound next := by
  have hnone : added.filter (fun q => q.sequence < e.sequence) = [] := by
    apply filter_eq_nil_iff.mpr
    intro a ha
    have hlt := hadded a ha
    simp only [decide_eq_true_eq]
    omega
  have hle : ahead next e ≤ ahead h e := by
    rw [ahead, hnext, filter_append, hnone, append_nil]
    exact (hkept.filter _).length_le
  refine .inr ⟨?_, ?_⟩
  · rw [hnext]
    exact mem_append_left _ he
  · rw [hdispatched]
    omega

theorem Approaching.move (ho : Ordered h) (hfixed : e.replaceable = false)
    (ha : Approaching e bound h) (hmove : Move h next) : Approaching e bound next := by
  rcases ha with hdone | ⟨hqueue, hbound⟩
  · left
    cases hmove with
    | popped => exact mem_append_left _ hdone
    | control | rejected | appended | replaced | completed => exact hdone
  have hnew : e.sequence < h.bus.nextSequence :=
    ho.below e (ho.mem_accepted (mem_append_right _ hqueue))
  cases hmove with
  | control bus hnext =>
    apply Approaching.of_sublist hbound _ h.bus.queue [] (Sublist.refl _) hqueue
    · simp
    · rw [append_nil]
      exact hnext.queue
    · rfl
  | rejected | completed => exact .inr ⟨hqueue, hbound⟩
  | appended event =>
    apply Approaching.of_sublist hbound _ h.bus.queue [event.withSequence h.bus.nextSequence]
      (Sublist.refl _) hqueue
    · exact forall_mem_singleton.mpr hnew
    all_goals rfl
  | replaced event old before after _ hsplit _ hold =>
    have hkept : e ∈ before ++ after := by
      rw [hsplit] at hqueue
      have hne : e ≠ old := by
        intro heq
        rw [heq, hold] at hfixed
        cases hfixed
      simpa [hne] using hqueue
    have hsub : (before ++ after).Sublist h.bus.queue := by
      rw [hsplit]
      exact (sublist_cons_self old after).append_left before
    apply Approaching.of_sublist hbound _ (before ++ after)
      [event.withSequence h.bus.nextSequence] hsub hkept
    · exact forall_mem_singleton.mpr hnew
    all_goals rfl
  | popped event _ hsplit =>
    rw [hsplit] at hqueue
    rcases mem_cons.mp hqueue with rfl | hrest
    · exact .inl (mem_append_right _ mem_cons_self)
    · -- the event taken stood ahead of `e`
      have horder := ho.order.sublist ((sublist_append_right _ _).map _)
      rw [hsplit, pairwise_map, pairwise_cons] at horder
      have hlt := horder.1 e hrest
      rw [ahead, hsplit, filter_cons_of_pos (by simpa using hlt), length_cons] at hbound
      right
      refine ⟨hrest, ?_⟩
      simp only [ahead, length_append, length_singleton]
      omega

variable {capacity : ℕ}
theorem Approaching.run (hs : Sound capacity h) (hfixed : e.replaceable = false)
    (ha : Approaching e bound h) (more : List Op) :
    Approaching e bound (run History.step h more) := by
  have hboth : Sound capacity (Foundation.Runs.run History.step h more) ∧
      Approaching e bound (Foundation.Runs.run History.step h more) := by
    apply run_invariant (P := fun h => Sound capacity h ∧ Approaching e bound h) _ ⟨hs, ha⟩
    intro h op hboth
    have hmove := step_move h hboth.1.control op
    exact ⟨Sound.step h op hboth.1, hboth.2.move hboth.1.ordered hfixed hmove⟩
  exact hboth.2

/-- A queued event that cannot be replaced is dispatched as soon as the dispatcher has taken
as many events as were queued with it, whatever is published meanwhile. -/
theorem dispatched_of_taken (hs : Sound capacity h) (he : e ∈ h.accepted)
    (hfixed : e.replaceable = false) (more : List Op)
    (htaken : h.dispatched.length + h.bus.queue.length ≤ (run History.step h
      more).dispatched.length) :
    DispatchedOnce (run History.step h more) e := by
  have hnow : Approaching e (h.dispatched.length + h.bus.queue.length) h := by
    cases hs.ordered.fate he with
    | dispatched honce =>
      left
      have hmem : e ∈ h.dispatched.filter (fun d => d.sequence == e.sequence) := by
        rw [honce]
        exact mem_cons_self
      exact (mem_filter.mp hmem).1
    | queued hqueue =>
      right
      have hlt := ahead_lt hqueue
      exact ⟨hqueue, by omega⟩
    | replaced _ _ hold hreplaced =>
      have hold' := hreplaced.old
      rw [hold, hfixed] at hold'
      cases hold'
  have hsound : Sound capacity (run History.step h more) := run_invariant Sound.step hs more
  rcases hnow.run hs hfixed more with hdone | ⟨hqueue, hbound⟩
  · exact hsound.ordered.dispatchedOnce hdone
  · -- still queued, although more events were taken than stood ahead of it
    omega
end Delivery

theorem step_stopping {bus : EventBus} (h : bus.stopping) (op : Op) :
    (bus.step op).stopping := by
  cases op with
  | start =>
    rw [step, start]
    split_ifs
    all_goals exact h
  | stop =>
    rw [step, stop]
    split_ifs
    · exact h
    all_goals rfl
  | joinDispatcher =>
    rw [step, joinDispatcher]
    split
    · split_ifs
      all_goals exact h
    · exact h
  | publish event => rw [step, (publish_flags bus event).2.1, h]
  | take =>
    rw [step, take]
    split
    · split
      · exact h
      · split_ifs
        exact h
    · exact h
  | callbackFailed =>
    rw [step, callbackFailed]
    split <;> exact h
  | complete =>
    rw [step, complete]
    split <;> exact h
  | leave =>
    rw [step, leave]
    split <;> exact h

theorem accepted_of_stopping {h : History} (hstop : h.bus.stopping) (more : List Op) :
    (run History.step h more).accepted = h.accepted := by
  have hboth : (run History.step h more).bus.stopping ∧
      (run History.step h more).accepted = h.accepted := by
    apply run_invariant (P := fun g : History => g.bus.stopping ∧ g.accepted = h.accepted) _
      ⟨hstop, rfl⟩
    intro g op hg
    refine ⟨?_, ?_⟩
    · rw [step_bus]
      exact step_stopping hg.1 op
    · cases op with
      | publish event =>
        have hnone := (publish_rejected (publish_of_stopping hg.1 event)).1
        rw [History.step, hnone, append_nil]
        exact hg.2
      | start | stop | joinDispatcher | take | callbackFailed | complete | leave => exact hg.2
  exact hboth.2

/-- Over every interleaving events are dispatched in the order of their sequences and never
twice. An accepted event is dispatched, still queued, or was replaced in a full queue by a
later accepted one with its key, and exactly one of these; one that cannot be replaced is
dispatched once the dispatcher has taken as many events as were queued. After the join no
event is queued and none is accepted any more. -/
theorem delivery_guarantee (capacity : ℕ) (hcapacity : 0 < capacity) (ops : List Op) :
    ((history capacity hcapacity ops).dispatched.map NetworkEvent.sequence).Pairwise (· < ·) ∧
    (∀ e ∈ (history capacity hcapacity ops).dispatched,
      e ∈ (history capacity hcapacity ops).accepted) ∧
    (∀ e ∈ (history capacity hcapacity ops).accepted, Fate (history capacity hcapacity ops) e) ∧
    (∀ e ∈ (history capacity hcapacity ops).accepted, e.replaceable = false →
      (DispatchedOnce (history capacity hcapacity ops) e ∨
        e ∈ (history capacity hcapacity ops).bus.queue) ∧
      ∀ more, (history capacity hcapacity ops).dispatched.length +
          (history capacity hcapacity ops).bus.queue.length ≤
          (history capacity hcapacity (ops ++ more)).dispatched.length →
        DispatchedOnce (history capacity hcapacity (ops ++ more)) e) ∧
    ((history capacity hcapacity ops).bus.joined = true →
      (∀ e ∈ (history capacity hcapacity ops).accepted,
        DispatchedOnce (history capacity hcapacity ops) e ∨
          ∃ r ∈ (history capacity hcapacity ops).replaced,
            r.old = e ∧ Replaced (history capacity hcapacity ops) r) ∧
      ∀ more, (history capacity hcapacity (ops ++ more)).accepted =
        (history capacity hcapacity ops).accepted) := by
  have happend : ∀ more, history capacity hcapacity (ops ++ more) =
      run History.step (history capacity hcapacity ops) more := run_append _ ops
  have hs := history_sound capacity hcapacity ops
  simp only [happend]
  generalize history .. = h at hs ⊢
  refine ⟨hs.ordered.dispatched_increasing, ?_, fun e he => hs.ordered.fate he, ?_, ?_⟩
  · intro e he
    exact hs.ordered.mem_accepted (mem_append_left _ he)
  · intro e he hfixed
    refine ⟨?_, dispatched_of_taken hs he hfixed⟩
    cases hs.ordered.fate he with
    | dispatched honce => exact .inl honce
    | queued hqueue => exact .inr hqueue
    | replaced _ _ hold hreplaced =>
      have hold' := hreplaced.old
      rw [hold, hfixed] at hold'
      cases hold'
  · intro hjoined
    obtain ⟨hstop, hempty⟩ := hs.control.exited (hs.control.joined hjoined)
    refine ⟨fun e he => ?_, accepted_of_stopping hstop⟩
    cases hs.ordered.fate he with
    | dispatched honce => exact .inl honce
    | queued hqueue =>
      rw [hempty] at hqueue
      cases hqueue
    | replaced r hr hold hreplaced => exact .inr ⟨r, hr, hold, hreplaced⟩

def gaugeHeader (id ifindex : ℕ) : NetworkEventHeader where
  schemaVersion := networkEventSchemaVersion
  eventId := id
  sequence := 0
  kind := .probeRttMetric
  source := .v1RttMonitor
  observedAt := id
  monotonicAt := id
  netns := ⟨1, 2⟩
  interface := some ⟨ifindex, []⟩
  socket := none
  validity := .valid
  status := none

def gauge (id ifindex : ℕ) (hid : id ≠ 0) (hifindex : ifindex ≠ 0) : NetworkEvent :=
  ⟨gaugeHeader id ifindex, .probeRtt (some (.finite id)), by
    simp [constructorError, gaugeHeader, payloadError, kindFor, hid, hifindex]⟩

/-- A queue of two fills while the first sample is being dispatched; the fourth sample takes
the place of the second and the fifth is refused. -/
def saturation : List Op :=
  [.start, .publish (gauge 1 1 (by decide) (by decide)), .take,
    .publish (gauge 2 1 (by decide) (by decide)), .publish (gauge 3 2 (by decide) (by decide)),
    .publish (gauge 4 1 (by decide) (by decide)), .publish (gauge 5 3 (by decide) (by decide)),
    .stop false, .complete, .take, .complete, .take, .complete, .take, .leave, .joinDispatcher]

theorem delivery_guarantee_saturation :
    (history 2 (by decide) saturation).bus.joined = true ∧
      ∀ e ∈ (history 2 (by decide) saturation).accepted,
        DispatchedOnce (history 2 (by decide) saturation) e ∨
          ∃ r ∈ (history 2 (by decide) saturation).replaced,
            r.old = e ∧ Replaced (history 2 (by decide) saturation) r := by
  have hjoined : (history 2 (by decide) saturation).bus.joined := by decide
  exact ⟨hjoined, ((delivery_guarantee 2 (by decide) saturation).2.2.2.2 hjoined).1⟩

def Op.isPublish : Op → Bool
  | .publish _ => true
  | _ => false

def publishCalls (ops : List Op) : ℕ := (ops.filter Op.isPublish).length

theorem calls_run (h : History) (ops : List Op) :
    (run History.step h ops).calls = h.calls + publishCalls ops := by
  induction ops generalizing h with
  | nil => rfl
  | cons op ops ih =>
    rw [run_cons, ih]
    cases op with
    | publish event =>
      have hlen : publishCalls (.publish event :: ops) = publishCalls ops + 1 := rfl
      simp only [hlen, History.step]
      omega
    | start | stop | joinDispatcher | take | callbackFailed | complete | leave => rfl

theorem bus_run (h : History) (ops : List Op) :
    (run History.step h ops).bus = run step h.bus ops :=
  (foldl_hom History.bus fun h op => (step_bus h op).symm).symm

/-- In every state of the bus: the queue and its high-water mark stay within the capacity, the
queued sequences increase and are below the next one, and the counters account for every
publication. -/
theorem accounting_invariant (capacity : ℕ) (hcapacity : 0 < capacity) (ops : List Op) :
    let bus := run step (create capacity hcapacity) ops
    let counters := bus.telemetry
    counters.queueDepth ≤ capacity ∧ counters.queueDepth ≤ counters.highWaterMark ∧
    counters.highWaterMark ≤ capacity ∧
    (bus.queue.map NetworkEvent.sequence).Pairwise (· < ·) ∧
    (∀ e ∈ bus.queue, e.sequence < bus.nextSequence) ∧ bus.nextSequence ≤ 2 ^ 64 ∧
    counters.acceptedPublications = counters.dispatchedPublications + counters.queueDepth +
      counters.totalCoalesces + bus.inFlight ∧
    publishCalls ops = counters.acceptedPublications + counters.totalDrops ∧
    counters.acceptedPublications = ∑ i, counters.acceptedByKind i ∧
    counters.acceptedPublications = ∑ i, counters.acceptedBySource i ∧
    counters.totalDrops = ∑ i, counters.droppedByKind i := by
  have hs := history_sound capacity hcapacity ops
  have hcalls : (history capacity hcapacity ops).calls = publishCalls ops := by
    rw [history, calls_run, Nat.zero_add]
  have hbus : (history capacity hcapacity ops).bus = run step (create capacity hcapacity) ops :=
    bus_run _ ops
  have hbalance := hs.balanced
  have hdepth := hbalance.depth_le_mark
  have hmark := hbalance.mark_le
  rw [hs.capacity] at hmark
  have hincreasing := hs.ordered.order.sublist ((sublist_append_right _ _).map _)
  have hbelow : ∀ e ∈ (history capacity hcapacity ops).bus.queue,
      e.sequence < (history capacity hcapacity ops).bus.nextSequence := by
    intro e he
    exact hs.ordered.below e (hs.ordered.mem_accepted (mem_append_right _ he))
  have hnumbered := hs.ordered.numbered.2
  rw [hcalls] at hbalance
  rw [hbus] at hbalance hdepth hmark hincreasing hbelow hnumbered
  exact ⟨hdepth.trans hmark, hdepth, hmark, hincreasing, hbelow, hnumbered, hbalance.accepted,
    hbalance.calls, hbalance.byKind, hbalance.bySource, hbalance.dropped⟩

theorem accounting_invariant_saturation :
    publishCalls saturation =
      (run step (create 2 (by decide)) saturation).telemetry.acceptedPublications +
        (run step (create 2 (by decide)) saturation).telemetry.totalDrops := by
  have hall := accounting_invariant 2 (by decide) saturation
  exact hall.2.2.2.2.2.2.2.1
end WeakNet.EventBus
