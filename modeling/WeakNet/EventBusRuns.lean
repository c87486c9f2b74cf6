import WeakNet.EventBus
import WeakNet.Foundation.Runs

/-! A history runs the bus together with the publications accepted so far, the events handed to the
dispatcher and the queued events that were replaced. Every operation is one of six moves, against
which the invariants are checked. -/

namespace WeakNet.EventBus
open Foundation.Runs List EventBus

structure Replacement where
  old : NetworkEvent
  new : NetworkEvent
  depth : ℕ

structure History where
  bus : EventBus
  calls : ℕ
  accepted : List NetworkEvent
  dispatched : List NetworkEvent
  replaced : List Replacement

def popped (bus : EventBus) : List NetworkEvent :=
  match bus.dispatcher, bus.queue with
  | .waiting, event :: _ => [event]
  | _, _ => []

def acceptedAs (bus : EventBus) (event : NetworkEvent) : List NetworkEvent :=
  if (bus.publish event).2.accepted then [event.withSequence (bus.publish event).2.sequence]
  else []

def replacedBy (bus : EventBus) (event : NetworkEvent) : List Replacement :=
  if (bus.publish event).2.coalesced then
    match (bus.existing event).bind (fun i => bus.queue[i]?) with
    | some old => [⟨old, event.withSequence bus.nextSequence, bus.queue.length⟩]
    | none => []
  else []

def History.step (h : History) : Op → History
  | .publish event =>
    { bus := (h.bus.publish event).1
      calls := h.calls + 1
      accepted := h.accepted ++ h.bus.acceptedAs event
      dispatched := h.dispatched
      replaced := h.replaced ++ h.bus.replacedBy event }
  | .take => { h with bus := h.bus.take, dispatched := h.dispatched ++ h.bus.popped }
  | op => { h with bus := h.bus.step op }

def history (capacity : ℕ) (hcapacity : 0 < capacity) (ops : List Op) : History :=
  run History.step ⟨create capacity hcapacity, 0, [], [], []⟩ ops

theorem step_bus (h : History) (op : Op) : (h.step op).bus = h.bus.step op := by
  cases op <;> rfl

structure Undisturbed (bus next : EventBus) : Prop where
  capacity : next.capacity = bus.capacity
  queue : next.queue = bus.queue
  nextSequence : next.nextSequence = bus.nextSequence
  inFlight : next.inFlight = bus.inFlight
  counters : next.counters =
    { bus.counters with callbackFailures := next.counters.callbackFailures }

theorem Undisturbed.refl (bus : EventBus) : Undisturbed bus bus := ⟨rfl, rfl, rfl, rfl, rfl⟩

def replaceQueued (bus : EventBus) (event : NetworkEvent) (before after : List NetworkEvent) :
    EventBus :=
  enqueue { bus with
    queue := before ++ after
    counters := { bus.counters with totalCoalesces := bus.counters.totalCoalesces + 1 } } event

inductive Move (h : History) : History → Prop where
  | control (next : EventBus) (hnext : Undisturbed h.bus next) : Move h { h with bus := next }
  | rejected (event : NetworkEvent) :
    Move h { h with bus := h.bus.drop event, calls := h.calls + 1 }
  | appended (event : NetworkEvent) (hopen : h.bus.refuses = false)
    (hroom : h.bus.queue.length ≠ h.bus.capacity) :
    Move h { h with
      bus := h.bus.enqueue event
      calls := h.calls + 1
      accepted := h.accepted ++ [event.withSequence h.bus.nextSequence] }
  | replaced (event old : NetworkEvent) (before after : List NetworkEvent)
    (hopen : h.bus.refuses = false)
    (hqueue : h.bus.queue = before ++ old :: after) (hfull : h.bus.queue.length = h.bus.capacity)
    (hold : old.replaceable = true) (hevent : event.replaceable = true)
    (hkey : old.coalescingKey = event.coalescingKey) :
    Move h { h with
      bus := h.bus.replaceQueued event before after
      calls := h.calls + 1
      accepted := h.accepted ++ [event.withSequence h.bus.nextSequence]
      replaced := h.replaced ++
        [⟨old, event.withSequence h.bus.nextSequence, h.bus.queue.length⟩] }
  | popped (event : NetworkEvent) (rest : List NetworkEvent)
    (hqueue : h.bus.queue = event :: rest) (hphase : h.bus.dispatcher = .waiting) :
    Move h { h with
      bus := { h.bus with queue := rest, dispatcher := .delivering event }
      dispatched := h.dispatched ++ [event] }
  | completed (event : NetworkEvent) (hphase : h.bus.dispatcher = .delivering event) :
    Move h { h with bus := { h.bus with
      dispatcher := .waiting
      counters := { h.bus.counters with
        dispatchedPublications := h.bus.counters.dispatchedPublications + 1 } } }

variable {bus : EventBus} {event : NetworkEvent}
theorem existing_eq_some {i : ℕ} (h : bus.existing event = some i) :
    ∃ before old after, bus.queue = before ++ old :: after ∧ bus.queue[i]? = some old ∧
      bus.queue.eraseIdx i = before ++ after ∧ old.replaceable ∧ event.replaceable ∧
      old.coalescingKey = event.coalescingKey := by
  rw [existing] at h
  split_ifs at h with hevent
  obtain ⟨hi, hfound, -⟩ := List.findIdx?_eq_some_iff_getElem.mp h
  simp only [Bool.and_eq_true, beq_iff_eq] at hfound
  refine ⟨bus.queue.take i, bus.queue[i], bus.queue.drop (i + 1), ?_, getElem?_eq_getElem hi,
    eraseIdx_eq_take_drop_succ _ _, hfound.1, hevent, hfound.2⟩
  rw [← drop_eq_getElem_cons hi, take_append_drop]

theorem publish_rejected (h : bus.publish event = (bus.drop event, .rejected)) :
    bus.acceptedAs event = [] ∧ bus.replacedBy event = [] := by
  simp [acceptedAs, replacedBy, h, PublishResult.rejected]

theorem step_move_publish (h : History) (event : NetworkEvent) :
    Move h (h.step (.publish event)) := by
  rw [History.step]
  have hrejected : h.bus.publish event = (h.bus.drop event, .rejected) →
      Move h (h.step (.publish event)) := by
    intro hpub
    obtain ⟨haccepted, hreplaced⟩ := publish_rejected hpub
    rw [History.step, haccepted, hreplaced, hpub, append_nil, append_nil]
    exact .rejected event
  by_cases hrefuse : h.bus.refuses
  · exact hrejected (by rw [publish, if_pos hrefuse])
  by_cases hfull : h.bus.queue.length = h.bus.capacity
  · cases hex : h.bus.existing event with
    | none =>
      exact hrejected (by rw [publish, if_neg hrefuse, if_pos hfull, hex])
    | some i =>
      obtain ⟨before, old, after, hqueue, hfound, herase, hold, hevent, hkey⟩ :=
        existing_eq_some hex
      have hpub : h.bus.publish event =
          (h.bus.replaceQueued event before after, ⟨true, true, h.bus.nextSequence⟩) := by
        rw [publish, if_neg hrefuse, if_pos hfull, hex]
        simp [coalesce, replaceQueued, herase]
      have haccepted : h.bus.acceptedAs event = [event.withSequence h.bus.nextSequence] := by
        simp [acceptedAs, hpub]
      have hreplaced : h.bus.replacedBy event =
          [⟨old, event.withSequence h.bus.nextSequence, h.bus.queue.length⟩] := by
        simp [replacedBy, hpub, hex, hfound]
      rw [haccepted, hreplaced, hpub]
      exact .replaced event old before after (Bool.eq_false_of_not_eq_true hrefuse) hqueue hfull
        hold hevent hkey
  · have hpub : h.bus.publish event = (h.bus.enqueue event, ⟨true, false, h.bus.nextSequence⟩) := by
      rw [publish, if_neg hrefuse, if_neg hfull]
    have haccepted : h.bus.acceptedAs event = [event.withSequence h.bus.nextSequence] := by
      simp [acceptedAs, hpub]
    have hreplaced : h.bus.replacedBy event = [] := by simp [replacedBy, hpub]
    rw [haccepted, hreplaced, hpub, append_nil]
    exact .appended event (Bool.eq_false_of_not_eq_true hrefuse) hfull

theorem step_move_take (h : History) : Move h (h.step .take) := by
  rw [History.step]
  cases hphase : h.bus.dispatcher with
  | waiting =>
    cases hqueue : h.bus.queue with
    | nil =>
      have hnone : h.bus.popped = [] := by simp [popped, hphase, hqueue]
      have htake : h.bus.take =
          if h.bus.stopping then { h.bus with dispatcher := .leaving } else h.bus := by
        simp [take, hphase, hqueue]
      rw [hnone, htake, append_nil]
      split_ifs with hstop
      · exact .control _ ⟨rfl, rfl, rfl, by simp [inFlight, hphase], rfl⟩
      · exact .control _ (.refl h.bus)
    | cons event rest =>
      have hone : h.bus.popped = [event] := by simp [popped, hphase, hqueue]
      have htake : h.bus.take = { h.bus with queue := rest, dispatcher := .delivering event } := by
        simp [take, hphase, hqueue]
      rw [hone, htake]
      exact .popped event rest hqueue hphase
  | absent | leaving | exited | delivering _ =>
    have hnone : h.bus.popped = [] := by simp [popped, hphase]
    have htake : h.bus.take = h.bus := by simp [take, hphase]
    rw [hnone, htake, append_nil]
    exact .control _ (.refl h.bus)

theorem undisturbed_start (h : bus.started = false → bus.dispatcher = .absent) :
    Undisturbed bus bus.start.1 := by
  rw [start]
  split_ifs with hrunning hstopped
  · exact .refl bus
  · exact .refl bus
  · have hphase : bus.dispatcher = .absent := by
      apply h
      simp only [not_or, Bool.not_eq_true] at hstopped
      exact hstopped.1
    exact ⟨rfl, rfl, rfl, by simp [inFlight, hphase], rfl⟩

section
variable (bus : EventBus)
theorem undisturbed_stop (fromDispatcher : Bool) :
    Undisturbed bus (bus.stop fromDispatcher) := by
  rw [stop]
  split_ifs
  · exact .refl bus
  all_goals exact ⟨rfl, rfl, rfl, rfl, rfl⟩

theorem undisturbed_joinDispatcher : Undisturbed bus bus.joinDispatcher := by
  rw [joinDispatcher]
  split
  · split_ifs
    · exact ⟨rfl, rfl, rfl, rfl, rfl⟩
    · exact .refl bus
  · exact .refl bus

theorem undisturbed_callbackFailed : Undisturbed bus bus.callbackFailed := by
  rw [callbackFailed]
  split
  · exact ⟨rfl, rfl, rfl, rfl, rfl⟩
  · exact .refl bus

theorem undisturbed_leave : Undisturbed bus bus.leave := by
  rw [leave]
  split
  next hphase => exact ⟨rfl, rfl, rfl, by simp [inFlight, hphase], rfl⟩
  next => exact .refl bus
end

structure Control (bus : EventBus) : Prop where
  absent : bus.started = false ↔ bus.dispatcher = .absent
  started : bus.stopping = true → bus.started = true
  leaving : bus.dispatcher = .leaving → bus.stopping = true ∧ bus.queue = []
  exited : bus.dispatcher = .exited → bus.stopping = true ∧ bus.queue = []
  joined : bus.joined = true → bus.dispatcher = .exited

theorem step_move (h : History) (hcontrol : Control h.bus) (op : Op) : Move h (h.step op) := by
  cases op with
  | start => exact .control _ (undisturbed_start hcontrol.absent.mp)
  | stop fromDispatcher => exact .control _ (undisturbed_stop h.bus fromDispatcher)
  | joinDispatcher => exact .control _ (undisturbed_joinDispatcher h.bus)
  | publish event => exact step_move_publish h event
  | take => exact step_move_take h
  | callbackFailed => exact .control _ (undisturbed_callbackFailed h.bus)
  | complete =>
    cases hphase : h.bus.dispatcher with
    | delivering event =>
      have hdone := Move.completed (h := h) event hphase
      simpa only [History.step, step, complete, hphase] using hdone
    | absent | waiting | leaving | exited =>
      have hsame : h.bus.complete = h.bus := by simp [complete, hphase]
      have hcontrol := Move.control (h := h) h.bus (.refl h.bus)
      simpa only [History.step, step, hsame] using hcontrol
  | leave => exact .control _ (undisturbed_leave h.bus)

theorem publish_of_stopping (h : bus.stopping) (event : NetworkEvent) :
    bus.publish event = (bus.drop event, .rejected) := by
  rw [publish, if_pos (by simp [refuses, h])]

theorem publish_flags (bus : EventBus) (event : NetworkEvent) :
    (bus.publish event).1.started = bus.started ∧ (bus.publish event).1.stopping = bus.stopping ∧
      (bus.publish event).1.joined = bus.joined ∧
      (bus.publish event).1.dispatcher = bus.dispatcher := by
  rw [publish]
  split_ifs
  · exact ⟨rfl, rfl, rfl, rfl⟩
  · cases bus.existing event with
    | none | some => exact ⟨rfl, rfl, rfl, rfl⟩
  · exact ⟨rfl, rfl, rfl, rfl⟩

section
variable (h : Control bus)
include h
theorem Control.publish (event : NetworkEvent) :
    Control (bus.publish event).1 := by
  cases hstop : bus.stopping with
  | true =>
    rw [publish_of_stopping hstop]
    exact { h with }
  | false =>
    obtain ⟨hstarted, hstopping, hjoined, hphase⟩ := publish_flags bus event
    refine ⟨?_, ?_, ?_, ?_, ?_⟩
    · rw [hstarted, hphase]
      exact h.absent
    · rw [hstopping, hstarted]
      exact h.started
    · intro hleaving
      have hstop' := (h.leaving (hphase.symm.trans hleaving)).1
      rw [hstop] at hstop'
      cases hstop'
    · intro hexited
      have hstop' := (h.exited (hphase.symm.trans hexited)).1
      rw [hstop] at hstop'
      cases hstop'
    · rw [hjoined, hphase]
      exact h.joined

theorem Control.start : Control bus.start.1 := by
  rw [EventBus.start]
  split_ifs with hrunning hstopped
  · exact h
  · exact h
  · simp only [not_or, Bool.not_eq_true] at hstopped
    have habsent := h.absent.mp hstopped.1
    refine ⟨by simp, by simp, by simp, by simp, ?_⟩
    intro hjoined
    have hexited := h.joined hjoined
    rw [habsent] at hexited
    cases hexited

theorem Control.stop (fromDispatcher : Bool) :
    Control (bus.stop fromDispatcher) := by
  rw [EventBus.stop]
  split_ifs with hidle hclaimed
  · exact h
  all_goals
    simp only [not_or, Bool.not_eq_true, Bool.not_eq_false'] at hidle
    refine ⟨h.absent, fun _ => hidle.1, ?_, ?_, h.joined⟩
    · exact fun hleaving => ⟨rfl, (h.leaving hleaving).2⟩
    · exact fun hexited => ⟨rfl, (h.exited hexited).2⟩

theorem Control.joinDispatcher :
    Control bus.joinDispatcher := by
  rw [EventBus.joinDispatcher]
  split
  next hphase =>
    split_ifs
    · exact { h with joined := fun _ => hphase }
    · exact h
  next => exact h

theorem Control.moveTo {next : EventBus} (hstarted : next.started = bus.started)
    (hstopping : next.stopping = bus.stopping) (hjoined : next.joined = bus.joined)
    (hpresent : bus.dispatcher ≠ .absent) (hstays : next.dispatcher ≠ .absent)
    (hrunning : bus.dispatcher ≠ .exited)
    (hend : next.dispatcher = .leaving ∨ next.dispatcher = .exited → bus.stopping ∧
      next.queue = []) : Control next := by
  refine ⟨?_, ?_, ?_, ?_, ?_⟩
  · rw [hstarted, h.absent]
    exact iff_of_false hpresent hstays
  · rw [hstopping, hstarted]
    exact h.started
  · intro hleaving
    rw [hstopping]
    exact hend (.inl hleaving)
  · intro hexited
    rw [hstopping]
    exact hend (.inr hexited)
  · intro hdone
    exact absurd (h.joined (hjoined ▸ hdone)) hrunning

theorem Control.take : Control bus.take := by
  rw [EventBus.take]
  split
  next hphase =>
    have hpresent : bus.dispatcher ≠ .absent := by simp [hphase]
    have hrunning : bus.dispatcher ≠ .exited := by simp [hphase]
    split
    next => exact h.moveTo rfl rfl rfl hpresent (by simp) hrunning (by simp)
    next hqueue =>
      split_ifs with hstop
      · exact h.moveTo rfl rfl rfl hpresent (by simp) hrunning (fun _ => ⟨hstop, hqueue⟩)
      · exact h
  next => exact h

theorem Control.callbackFailed : Control bus.callbackFailed := by
  rw [EventBus.callbackFailed]
  split
  · exact { h with }
  · exact h

theorem Control.complete : Control bus.complete := by
  rw [EventBus.complete]
  split
  next hphase =>
    exact h.moveTo rfl rfl rfl (by simp [hphase]) (by simp) (by simp [hphase]) (by simp)
  next => exact h

theorem Control.leave : Control bus.leave := by
  rw [EventBus.leave]
  split
  next hphase =>
    exact h.moveTo rfl rfl rfl (by simp [hphase]) (by simp) (by simp [hphase])
      (fun _ => h.leaving hphase)
  next => exact h

theorem Control.step (op : Op) : Control (bus.step op) := by
  cases op with
  | start => exact h.start
  | stop fromDispatcher => exact h.stop ..
  | joinDispatcher => exact h.joinDispatcher
  | publish event => exact h.publish ..
  | take => exact h.take
  | callbackFailed => exact h.callbackFailed
  | complete => exact h.complete
  | leave => exact h.leave
end

theorem control_create (capacity : ℕ) (hcapacity : 0 < capacity) :
    Control (create capacity hcapacity) := by
  refine ⟨?_, ?_, ?_, ?_, ?_⟩
  all_goals simp [create]

variable {next : History}

section Counters
variable {bus : EventBus} {calls : ℕ}
structure Balanced (bus : EventBus) (calls : ℕ) : Prop where
  depth_le_mark : bus.queue.length ≤ bus.counters.highWaterMark
  mark_le : bus.counters.highWaterMark ≤ bus.capacity
  accepted : bus.counters.acceptedPublications = bus.counters.dispatchedPublications +
    bus.queue.length + bus.counters.totalCoalesces + bus.inFlight
  calls : calls = bus.counters.acceptedPublications + bus.counters.totalDrops
  byKind : bus.counters.acceptedPublications = ∑ i, bus.counters.acceptedByKind i
  bySource : bus.counters.acceptedPublications = ∑ i, bus.counters.acceptedBySource i
  dropped : bus.counters.totalDrops = ∑ i, bus.counters.droppedByKind i

section
variable (h : Balanced bus calls)
include h
theorem Balanced.undisturbed {next : EventBus} (hnext : Undisturbed bus next) :
    Balanced next calls := by
  obtain ⟨hcapacity, hqueue, -, hflight, hcounters⟩ := hnext
  refine ⟨?_, ?_, ?_, ?_, ?_, ?_, ?_⟩
  · rw [hqueue, hcounters]
    exact h.depth_le_mark
  · rw [hcapacity, hcounters]
    exact h.mark_le
  · rw [hqueue, hflight, hcounters]
    exact h.accepted
  · rw [hcounters]
    exact h.calls
  · rw [hcounters]
    exact h.byKind
  · rw [hcounters]
    exact h.bySource
  · rw [hcounters]
    exact h.dropped

theorem Balanced.drop : Balanced (bus.drop event) (calls + 1) := by
  refine { h with calls := ?_, dropped := ?_ }
  · have hcalls := h.calls
    simp only [EventBus.drop]
    omega
  · have hdropped := h.dropped
    simp only [EventBus.drop, sum_bump]
    omega

theorem Balanced.enqueue (hroom : bus.queue.length < bus.capacity) :
    Balanced (bus.enqueue event) (calls + 1) := by
  have hlen : (bus.queue ++ [event.withSequence bus.nextSequence]).length =
      bus.queue.length + 1 := by simp
  have hmark := h.mark_le
  refine ⟨?_, ?_, ?_, ?_, ?_, ?_, h.dropped⟩
  · exact le_max_right _ _
  · simp only [EventBus.enqueue, hlen]
    omega
  · have haccepted := h.accepted
    have hflight : (bus.enqueue event).inFlight = bus.inFlight := rfl
    rw [hflight]
    simp only [EventBus.enqueue, hlen]
    omega
  · have hcalls := h.calls
    simp only [EventBus.enqueue]
    omega
  · have hkind := h.byKind
    simp only [EventBus.enqueue, sum_bump]
    omega
  · have hsource := h.bySource
    simp only [EventBus.enqueue, sum_bump]
    omega

theorem Balanced.replaceQueued {old : NetworkEvent} {before after : List NetworkEvent}
    (hqueue : bus.queue = before ++ old :: after) (hfull : bus.queue.length = bus.capacity) :
    Balanced (bus.replaceQueued event before after) (calls + 1) := by
  have hlen : bus.queue.length = (before ++ after).length + 1 := by
    rw [hqueue]
    simp only [length_append, length_cons]
    omega
  have hdepth := h.depth_le_mark
  -- the bus between the removal of the old event and the admission of the new one
  have hremoved : Balanced { bus with
      queue := before ++ after
      counters := { bus.counters with totalCoalesces := bus.counters.totalCoalesces + 1 } }
      calls := by
    refine { h with depth_le_mark := ?_, accepted := ?_ }
    · simp only
      omega
    · have haccepted := h.accepted
      simp only [inFlight] at haccepted ⊢
      omega
  apply hremoved.enqueue
  simp only
  omega
end

theorem Balanced.move {h : History} (hb : Balanced h.bus h.calls) (hmove : Move h next) :
    Balanced next.bus next.calls := by
  cases hmove with
  | control _ hnext => exact hb.undisturbed hnext
  | rejected => exact hb.drop
  | appended =>
    have hdepth := hb.depth_le_mark
    have hmark := hb.mark_le
    exact hb.enqueue (by omega)
  | replaced _ _ _ _ _ hqueue hfull => exact hb.replaceQueued hqueue hfull
  | popped _ _ hqueue hphase =>
    have hdepth := hb.depth_le_mark
    have haccepted := hb.accepted
    simp only [hqueue, length_cons, inFlight, hphase] at hdepth haccepted
    refine { hb with depth_le_mark := ?_, accepted := ?_ }
    · simp only
      omega
    · simp only [inFlight]
      omega
  | completed _ hphase =>
    have haccepted := hb.accepted
    simp only [inFlight, hphase] at haccepted
    refine { hb with accepted := ?_ }
    simp only [inFlight]
    omega
end Counters

section Order
variable {h : History}

structure Replaced (h : History) (r : Replacement) : Prop where
  full : r.depth = h.bus.capacity
  old : r.old.replaceable = true
  new : r.new.replaceable = true
  key : r.old.coalescingKey = r.new.coalescingKey
  accepted : r.new ∈ h.accepted
  later : r.old.sequence < r.new.sequence

theorem Replaced.mono {r : Replacement} (hr : Replaced h r)
    (hcapacity : next.bus.capacity = h.bus.capacity) (haccepted : h.accepted ⊆ next.accepted) :
    Replaced next r :=
  ⟨hr.full.trans hcapacity.symm, hr.old, hr.new, hr.key, haccepted hr.accepted, hr.later⟩

structure Ordered (h : History) : Prop where
  order : ((h.dispatched ++ h.bus.queue).map NetworkEvent.sequence).Pairwise (· < ·)
  accepted : (h.accepted.map NetworkEvent.sequence).Pairwise (· < ·)
  below : ∀ e ∈ h.accepted, e.sequence < h.bus.nextSequence
  numbered : 0 < h.bus.nextSequence ∧ h.bus.nextSequence ≤ 2 ^ 64
  partition : h.accepted.Perm
    (h.dispatched ++ h.bus.queue ++ h.replaced.map Replacement.old)
  replaced : ∀ r ∈ h.replaced, Replaced h r

variable {e : NetworkEvent}
theorem Ordered.mem_accepted (ho : Ordered h) (he : e ∈ h.dispatched ++ h.bus.queue) :
    e ∈ h.accepted :=
  ho.partition.mem_iff.mpr (mem_append_left _ he)

theorem Ordered.undisturbed (ho : Ordered h) {bus : EventBus} (hbus : Undisturbed h.bus bus) :
    Ordered { h with bus := bus } := by
  refine ⟨?_, ho.accepted, ?_, ?_, ?_, ?_⟩
  · simpa only [hbus.queue] using ho.order
  · simpa only [hbus.nextSequence] using ho.below
  · simpa only [hbus.nextSequence] using ho.numbered
  · simpa only [hbus.queue] using ho.partition
  · exact fun r hr => (ho.replaced r hr).mono hbus.capacity (List.Subset.refl _)

theorem pairwise_map_append_single {l : List NetworkEvent}
    (hl : (l.map NetworkEvent.sequence).Pairwise (· < ·)) (he : ∀ a ∈ l, a.sequence < e.sequence) :
    ((l ++ [e]).map NetworkEvent.sequence).Pairwise (· < ·) := by
  rw [map_append, pairwise_append]
  refine ⟨hl, by simp, ?_⟩
  intro a ha b hb
  obtain ⟨x, hx, rfl⟩ := mem_map.mp ha
  obtain rfl : b = e.sequence := by simpa using hb
  exact he x hx

theorem Ordered.enqueue (ho : Ordered h) (event : NetworkEvent) (queue : List NetworkEvent)
    (removed : List Replacement) (bus : EventBus) (hopen : h.bus.refuses = false)
    (hsub : queue.Sublist h.bus.queue)
    (hperm : h.bus.queue.Perm (queue ++ removed.map Replacement.old))
    (hremoved : ∀ r ∈ removed, r.depth = h.bus.capacity ∧ r.old.replaceable ∧
      r.new.replaceable ∧ r.old.coalescingKey = r.new.coalescingKey ∧
      r.new = event.withSequence h.bus.nextSequence)
    (hqueue : bus.queue = queue ++ [event.withSequence h.bus.nextSequence])
    (hnext : bus.nextSequence = h.bus.nextSequence + 1) (hcapacity : bus.capacity = h.bus.capacity)
    (calls : ℕ) :
    Ordered ⟨bus, calls, h.accepted ++ [event.withSequence h.bus.nextSequence], h.dispatched,
      h.replaced ++ removed⟩ := by
  have hmem : ∀ a ∈ h.dispatched ++ queue, a.sequence < h.bus.nextSequence := by
    intro a ha
    have hall : a ∈ h.dispatched ++ h.bus.queue := (hsub.append_left h.dispatched).subset ha
    exact ho.below a (ho.mem_accepted hall)
  have hold : ∀ r ∈ removed, r.old ∈ h.bus.queue := by
    intro r hr
    apply hperm.mem_iff.mpr
    exact mem_append_right _ (mem_map.mpr ⟨r, hr, rfl⟩)
  refine ⟨?_, ?_, ?_, ?_, ?_, ?_⟩
  · rw [hqueue, ← append_assoc]
    apply pairwise_map_append_single _ hmem
    exact ho.order.sublist ((hsub.append_left h.dispatched).map _)
  · exact pairwise_map_append_single ho.accepted ho.below
  · rw [hnext, forall_mem_append, forall_mem_singleton]
    exact ⟨fun e he => Nat.lt_succ_of_lt (ho.below e he), Nat.lt_succ_self _⟩
  · have hnumbered := ho.numbered
    simp only [refuses, Bool.or_eq_false_iff, beq_eq_false_iff_ne] at hopen
    simp only [hnext]
    omega
  · have hbefore := ho.partition.append_right [event.withSequence h.bus.nextSequence]
    apply hbefore.trans
    simp only [hqueue, map_append, append_assoc]
    apply Perm.append_left
    apply (hperm.append_right _).trans
    -- the removed events move behind the admitted one
    classical
    apply perm_iff_count.mpr
    intro a
    simp only [count_append]
    omega
  · refine forall_mem_append.mpr ⟨fun r hr => (ho.replaced r hr).mono hcapacity
      (subset_append_left _ _), fun r hr => ?_⟩
    obtain ⟨hfull, h₁, h₂, h₃, h₄⟩ := hremoved r hr
    refine ⟨hfull.trans hcapacity.symm, h₁, h₂, h₃, ?_, ?_⟩
    · rw [h₄]
      exact mem_append_right _ mem_cons_self
    · rw [h₄, NetworkEvent.withSequence_sequence]
      exact ho.below r.old (ho.mem_accepted (mem_append_right _ (hold r hr)))

theorem Ordered.move (ho : Ordered h) (hmove : Move h next) : Ordered next := by
  cases hmove with
  | control _ hnext => exact ho.undisturbed hnext
  | rejected | completed =>
    refine { ho with replaced := ?_ }
    exact fun r hr => (ho.replaced r hr).mono rfl (List.Subset.refl _)
  | appended event hopen =>
    have hplain := ho.enqueue event h.bus.queue [] (h.bus.enqueue event) hopen
      (Sublist.refl h.bus.queue) (by simp) (by simp) rfl rfl rfl (h.calls + 1)
    rwa [append_nil] at hplain
  | replaced event old before after hopen hqueue hfull hold hevent hkey =>
    apply ho.enqueue event (before ++ after) _ (h.bus.replaceQueued event before after) hopen _ _ _
      rfl rfl rfl
    · rw [hqueue]
      exact (sublist_cons_self old after).append_left before
    · rw [hqueue]
      have hmiddle : (before ++ old :: after).Perm (old :: (before ++ after)) := perm_middle
      apply hmiddle.trans
      exact (perm_append_singleton old (before ++ after)).symm
    · exact forall_mem_singleton.mpr ⟨hfull, hold, hevent, hkey, rfl⟩
  | popped _ _ hqueue =>
    have horder := ho.order
    have hpartition := ho.partition
    rw [hqueue] at horder hpartition
    refine ⟨?_, ho.accepted, ho.below, ho.numbered, ?_, ?_⟩
    · simpa only [append_assoc, singleton_append] using horder
    · simpa only [append_assoc, singleton_append] using hpartition
    · exact fun r hr => (ho.replaced r hr).mono rfl (List.Subset.refl _)

theorem Move.capacity (hmove : Move h next) : next.bus.capacity = h.bus.capacity := by
  cases hmove with
  | control _ hnext => exact hnext.capacity
  | rejected | appended | replaced | popped | completed => rfl
end Order

structure Sound (capacity : ℕ) (h : History) : Prop where
  capacity : h.bus.capacity = capacity
  control : Control h.bus
  balanced : Balanced h.bus h.calls
  ordered : Ordered h

theorem Sound.step {capacity : ℕ} (h : History) (op : Op) (hs : Sound capacity h) :
    Sound capacity (h.step op) := by
  have hmove := step_move h hs.control op
  refine ⟨hmove.capacity.trans hs.capacity, ?_, hs.balanced.move hmove, hs.ordered.move hmove⟩
  rw [step_bus]
  exact hs.control.step op

theorem history_sound (capacity : ℕ) (hcapacity : 0 < capacity) (ops : List Op) :
    Sound capacity (history capacity hcapacity ops) := by
  apply run_invariant Sound.step
  refine ⟨rfl, control_create capacity hcapacity, ⟨?_, ?_, rfl, rfl, ?_, ?_, ?_⟩,
    ⟨?_, ?_, ?_, ?_, ?_, ?_⟩⟩
  all_goals simp [create]
end WeakNet.EventBus
