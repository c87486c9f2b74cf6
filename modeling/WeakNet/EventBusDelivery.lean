import WeakNet.EventBusRuns
import WeakNet.Foundation.Delivery

/-! A subscriber sees the accepted events in order, except for gauges that a later one replaced.
What it learns is a `Reader`, whose pending messages are the event being delivered, the queue and
what its producer has not handed over yet. A publication keeps the end they lead to, unless a
binding event is rejected. -/

namespace WeakNet.EventBus
open Foundation List Foundation.Leads

structure Reader (σ : Type*) where
  absorb : σ → NetworkEvent → σ
  binding : NetworkEvent → Prop
  absorb_withSequence : ∀ s event n, absorb s (event.withSequence n) = absorb s event
  binding_withSequence : ∀ event n, binding event → binding (event.withSequence n)
  binding_kept : ∀ event, binding event → event.replaceable = false

namespace Reader
variable {σ : Type*}
def Leads (r : Reader σ) (s : σ) (pending : List NetworkEvent) (target : σ) : Prop :=
  Foundation.Leads r.absorb r.binding s pending target

def Ignores (r : Reader σ) (event : NetworkEvent) : Prop := ∀ s, r.absorb s event = s
end Reader

def hasRoom (bus : EventBus) : Bool := !bus.refuses && bus.queue.length != bus.capacity

variable {bus : EventBus}
theorem publish_of_hasRoom (h : bus.hasRoom) (event : NetworkEvent) :
    bus.publish event = (bus.enqueue event, ⟨true, false, bus.nextSequence⟩) := by
  rw [hasRoom, Bool.and_eq_true, Bool.not_eq_true', bne_iff_ne] at h
  rw [publish, if_neg (Bool.eq_false_iff.mp h.1), if_neg h.2]

/-- What an accepted publication does: it takes the next sequence number, of which the last is
2^64 - 1, and its event goes to the end of the queue, from which gauges may have been removed. -/
structure Queued (bus : EventBus) (event : NetworkEvent) (next : EventBus) : Prop where
  left : bus.nextSequence % 2 ^ 64 ≠ 0
  nextSequence : next.nextSequence = bus.nextSequence + 1
  queue : ∃ before removed after, bus.queue = before ++ (removed ++ after) ∧
    (∀ old ∈ removed, old.replaceable = true) ∧
    next.queue = before ++ (after ++ [event.withSequence bus.nextSequence])

theorem publish_cases (bus : EventBus) (event : NetworkEvent) :
    bus.publish event = (bus.drop event, .rejected) ∨
      (bus.publish event).2.accepted ∧ Queued bus event (bus.publish event).1 := by
  rw [publish]
  by_cases hrefuses : bus.refuses
  · rw [if_pos hrefuses]
    exact .inl rfl
  · have hleft : bus.nextSequence % 2 ^ 64 ≠ 0 := by
      intro hnone
      apply hrefuses
      rw [refuses, hnone]
      exact Bool.or_true _
    rw [if_neg hrefuses]
    split_ifs with hfull
    · cases hexisting : bus.existing event with
      | none => exact .inl rfl
      | some i =>
        obtain ⟨before, old, after, hqueue, -, herase, hold, -⟩ := existing_eq_some hexisting
        refine .inr ⟨rfl, hleft, rfl, before, [old], after, hqueue,
          forall_mem_singleton.mpr hold, ?_⟩
        simp [coalesce, enqueue, herase]
    · refine .inr ⟨rfl, hleft, rfl, bus.queue, [], [], ?_, ?_, rfl⟩
      · rw [append_nil, append_nil]
      · exact forall_mem_nil _

def delivering (bus : EventBus) : List NetworkEvent :=
  match bus.dispatcher with
  | .delivering event => [event]
  | _ => []

structure Quiet (bus next : EventBus) : Prop where
  queue : next.queue = bus.queue
  delivering : next.delivering = bus.delivering

theorem Quiet.refl (bus : EventBus) : Quiet bus bus := ⟨rfl, rfl⟩

theorem quiet_start (h : Control bus) : Quiet bus bus.start.1 := by
  rw [start]
  split_ifs with hrunning hstopped
  · exact .refl bus
  · exact .refl bus
  · simp only [not_or, Bool.not_eq_true] at hstopped
    exact ⟨rfl, by simp [delivering, h.absent.mp hstopped.1]⟩

section
variable (bus : EventBus)
theorem quiet_stop (fromDispatcher : Bool) :
    Quiet bus (bus.stop fromDispatcher) := by
  rw [stop]
  split_ifs <;> exact ⟨rfl, rfl⟩

theorem quiet_joinDispatcher : Quiet bus bus.joinDispatcher := by
  rw [joinDispatcher]
  split
  · split_ifs <;> exact ⟨rfl, rfl⟩
  · exact .refl bus

theorem quiet_callbackFailed : Quiet bus bus.callbackFailed := by
  rw [callbackFailed]
  split
  · exact ⟨rfl, rfl⟩
  · exact .refl bus

theorem quiet_leave : Quiet bus bus.leave := by
  rw [leave]
  split
  next hphase => exact ⟨rfl, by simp [delivering, hphase]⟩
  next => exact .refl bus

theorem take_cases :
    (∃ event, bus.delivering = [] ∧ bus.queue = event :: bus.take.queue ∧
      bus.take.dispatcher = .delivering event) ∨ Quiet bus bus.take := by
  rw [take]
  split
  next hphase =>
    split
    next event rest hqueue => exact .inl ⟨event, by simp [delivering, hphase], hqueue, rfl⟩
    next hqueue =>
      split_ifs
      · exact .inr ⟨rfl, by simp [delivering, hphase]⟩
      · exact .inr (.refl bus)
  next => exact .inr (.refl bus)
end

variable {event : NetworkEvent}
theorem delivering_eq (h : bus.dispatcher = .delivering event) :
    bus.delivering = [event] := by
  rw [delivering, h]

theorem complete_cases (bus : EventBus) :
    (∃ event, bus.dispatcher = .delivering event ∧ bus.complete.queue = bus.queue ∧
      bus.complete.delivering = []) ∨ bus.delivering = [] ∧ bus.complete = bus := by
  rw [complete]
  split
  next event hphase => exact .inl ⟨event, hphase, rfl, rfl⟩
  next hphase =>
    refine .inr ⟨?_, rfl⟩
    rw [delivering]
    split
    next event hevent => exact absurd hevent (hphase event)
    next => rfl

theorem delivering_publish (bus : EventBus) (event : NetworkEvent) :
    (bus.publish event).1.delivering = bus.delivering := by
  rw [delivering, delivering, (publish_flags bus event).2.2.2]

variable {σ : Type*} {r : Reader σ} {bus : EventBus} {before after : List NetworkEvent} {s t : σ}
theorem Reader.Leads.publish (h : r.Leads s (before ++ (bus.queue ++ event :: after)) t)
    (haccepted : r.binding event → (bus.publish event).2.accepted) :
    r.Leads s (before ++ ((bus.publish event).1.queue ++ after)) t := by
  have hqueued : r.Leads s
      (before ++ (bus.queue ++ event.withSequence bus.nextSequence :: after)) t := by
    rw [← append_assoc] at h ⊢
    apply replace h
    · exact fun s => r.absorb_withSequence s event bus.nextSequence
    · exact r.binding_withSequence event bus.nextSequence
  rcases publish_cases bus event with hrejected | ⟨-, -, -, first, removed, rest, hold, hall, hnext⟩
  · rw [hrejected] at haccepted ⊢
    rw [← append_assoc] at h ⊢
    exact remove h fun hbinding => absurd (haccepted hbinding) Bool.false_ne_true
  · rw [hold, append_assoc, append_assoc, ← append_assoc] at hqueued
    have hremoved := removeAll hqueued fun old hmem hbinding => by
      have hgauge := hall old hmem
      rw [r.binding_kept old hbinding] at hgauge
      cases hgauge
    rw [hnext]
    simpa only [Reader.Leads, append_assoc, singleton_append] using hremoved

theorem Reader.Leads.publish_ignored (h : r.Leads s (before ++ (bus.queue ++ after)) t)
    (hignored : r.Ignores event) (hbinding : ¬r.binding event) :
    r.Leads s (before ++ ((bus.publish event).1.queue ++ after)) t := by
  apply Reader.Leads.publish _ fun h => absurd h hbinding
  rw [← append_assoc] at h ⊢
  exact insert h hignored
end WeakNet.EventBus
