import Mathlib.Data.Int.Notation
import Mathlib.Data.List.Basic

/-! `WeakNetClient`: `dispatchPendingMessages` takes the messages of the connection under one lock
and places their events into the queues under another. A step is a critical section of some thread. -/

namespace WeakNet.Client
open List Function

inductive Queue where
  | changed | quality | event
deriving DecidableEq

structure Event where
  texts : List String
  counter : ℤ
deriving DecidableEq

inductive Message where
  | changed (args : Option Event)
  | networkQualityChanged (args : Option Event)
  | interfaceChanged (args : Option Event)
  | connectionModeChanged (args : Option Event)
  | other

def Message.placement : Message → Option (Queue × Event)
  | changed (some e) => some (.changed, e)
  | networkQualityChanged (some e) => some (.quality, e)
  | interfaceChanged (some e) =>
    some (.event, { e with texts := "InterfaceChanged" :: "event_manager" :: e.texts })
  | connectionModeChanged (some e) =>
    some (.event, { e with texts := "ConnectionModeChanged" :: "event_manager" :: e.texts })
  | _ => none

/-- The last three fields record what has happened. -/
structure State where
  pending : List Message := []
  messages : ℕ → List Message := fun _ => []
  queue : Queue → List Event := fun _ => []
  delivered : List Message := []
  placed : List Message := []
  popped : Queue → List Event := fun _ => []

inductive Action where
  | deliver (m : Message)
  | take (thread : ℕ)
  | dispatch (thread : ℕ)
  | pop (q : Queue)

def pushBounded (queue : List Event) (e : Event) : List Event :=
  (if 128 ≤ queue.length then queue.tail else queue) ++ [e]

def dispatchMessage (queue : Queue → List Event) (m : Message) : Queue → List Event :=
  match m.placement with
  | none => queue
  | some (q, e) => update queue q (pushBounded (queue q) e)

def step (s : State) : Action → State
  | .deliver m => { s with pending := s.pending ++ [m], delivered := s.delivered ++ [m] }
  | .take thread =>
    match s.messages thread with
    | [] => { s with pending := [], messages := update s.messages thread s.pending }
    | _ :: _ => s
  | .dispatch thread =>
    match s.messages thread with
    | [] => s
    | m :: rest =>
      { s with
        messages := update s.messages thread rest
        queue := dispatchMessage s.queue m
        placed := s.placed ++ [m] }
  | .pop q =>
    match s.queue q with
    | [] => s
    | e :: rest =>
      { s with queue := update s.queue q rest, popped := update s.popped q (s.popped q ++ [e]) }

def events (q : Queue) (messages : List Message) : List Event :=
  messages.filterMap fun m => m.placement.bind fun p => if p.1 = q then some p.2 else none

def InOrder (s : State) : Prop := ∀ q, s.popped q ++ s.queue q <+ events q s.delivered

def Exclusive (s : State) : Action → Prop
  | .take thread => ∀ other, other ≠ thread → s.messages other = []
  | _ => True

structure Serial (s : State) : Prop where
  holder : ∃ thread, (∀ other, other ≠ thread → s.messages other = []) ∧
    s.placed ++ (s.messages thread ++ s.pending) = s.delivered
  queues : ∀ q, s.popped q ++ s.queue q <+ events q s.placed

section Push
variable {popped queue placed : List Event} {e : Event}
theorem suffix_of_full : (if 128 ≤ queue.length then queue.tail else queue) <:+ queue := by
  split_ifs
  · exact tail_suffix _
  · exact suffix_rfl

theorem pushBounded_order (h : popped ++ queue <+ placed) :
    popped ++ pushBounded queue e <+ placed ++ [e] := by
  rw [pushBounded, ← append_assoc]
  exact ((suffix_of_full.sublist.append_left _).trans h).append_right [e]

/-- A queue holds the newest of the events that were placed into it, at most 128 of them; none is
dropped while no more than 128 have been placed. -/
structure Kept (popped queue placed : List Event) : Prop where
  bounded : queue.length ≤ 128
  newest : queue <:+ placed
  order : popped ++ queue <+ placed
  complete : placed.length ≤ 128 → popped ++ queue = placed

theorem Kept.pushBounded (h : Kept popped queue placed) :
    Kept popped (pushBounded queue e) (placed ++ [e]) where
  bounded := by
    have := h.bounded
    rw [Client.pushBounded]
    split_ifs <;> simp <;> omega
  newest := suffix_append_self_iff.mpr (suffix_of_full.trans h.newest)
  order := pushBounded_order h.order
  complete hfew := by
    have hlength := h.order.length_le
    simp only [length_append, length_singleton] at hfew hlength
    rw [Client.pushBounded, if_neg (by omega), ← append_assoc, h.complete (by omega)]

theorem Kept.pop (h : Kept popped (e :: queue) placed) : Kept (popped ++ [e]) queue placed where
  bounded := Nat.le_of_succ_le h.bounded
  newest := (suffix_cons e queue).trans h.newest
  order := append_cons popped e queue ▸ h.order
  complete := append_cons popped e queue ▸ h.complete
end Push

variable {s : State}
theorem step_rule {P : List Event → List Event → List Event → Prop}
    (hpush : ∀ {popped queue placed e}, P popped queue placed →
      P popped (pushBounded queue e) (placed ++ [e]))
    (hpop : ∀ {popped e rest placed}, P popped (e :: rest) placed → P (popped ++ [e]) rest placed)
    {q : Queue} (h : P (s.popped q) (s.queue q) (events q s.placed)) (a : Action) :
    P ((step s a).popped q) ((step s a).queue q) (events q (step s a).placed) := by
  cases a with
  | deliver m => exact h
  | take thread =>
    rw [step]
    split <;> exact h
  | dispatch thread =>
    rw [step]
    split
    · exact h
    rename_i m _ _
    rw [events, filterMap_append, ← events]
    dsimp only [dispatchMessage]
    cases hm : m.placement with
    | none => simpa [hm] using h
    | some p =>
      by_cases hq : p.1 = q
      · subst hq
        simpa [hm] using hpush h
      · simpa [hm, hq, update_of_ne (Ne.symm hq)] using h
  | pop q' =>
    rw [step]
    split
    · exact h
    rename_i e rest hqueue
    by_cases hq : q = q'
    · subst hq
      simpa using hpop (hqueue ▸ h)
    · simpa [update_of_ne hq] using h

theorem queues_keep_newest (actions : List Action) (q : Queue) :
    let s := actions.foldl step {}
    Kept (s.popped q) (s.queue q) (events q s.placed) :=
  foldlRecOn (motive := fun s : State => Kept (s.popped q) (s.queue q) (events q s.placed))
    actions _ ⟨Nat.zero_le _, nil_suffix, Sublist.refl _, fun _ => rfl⟩
    fun _ h a _ => step_rule Kept.pushBounded Kept.pop h a

theorem Serial.step (h : Serial s) {a : Action} (ha : Exclusive s a) : Serial (step s a) := by
  refine ⟨?_, fun q => step_rule (P := fun popped queue placed => popped ++ queue <+ placed)
    pushBounded_order (fun horder => append_cons _ _ _ ▸ horder) (h.queues q) a⟩
  obtain ⟨holder, hothers, hall⟩ := h.holder
  cases a with
  | deliver m => exact ⟨holder, hothers, by simp [Client.step, ← hall]⟩
  | take thread =>
    rw [Client.step]
    split
    · rename_i hnone
      have hheld : s.messages holder = [] := by
        by_cases hne : holder = thread
        · rw [hne, hnone]
        · exact ha holder hne
      exact ⟨thread, fun other hne => (update_of_ne hne _ _).trans (ha other hne),
        by simpa [hheld] using hall⟩
    · exact h.holder
  | dispatch thread =>
    rw [Client.step]
    split
    · exact h.holder
    · rename_i m rest htaken
      obtain rfl : thread = holder := by
        by_contra hne
        rw [hothers thread hne] at htaken
        cases htaken
      exact ⟨thread, fun other hne => (update_of_ne hne _ _).trans (hothers other hne),
        by simpa [htaken] using hall⟩
  | pop q =>
    rw [Client.step]
    split <;> exact h.holder

inductive Reached : State → Prop
  | initial : Reached {}
  | step {s : State} {a : Action} (h : Reached s) (ha : Exclusive s a) : Reached (step s a)

/-- Events keep the order of the bus in every run in which no thread takes messages while another
one holds some. -/
theorem order_kept (h : Reached s) : InOrder s := by
  have hserial : Serial s := by
    induction h with
    | initial => exact ⟨⟨0, fun _ _ => rfl, rfl⟩, fun _ => Sublist.refl _⟩
    | step _ ha ih => exact ih.step ha
  obtain ⟨_, -, hall⟩ := hserial.holder
  have hfront : s.placed <+ s.delivered := hall ▸ sublist_append_left _ _
  exact fun q => (hserial.queues q).trans (hfront.filterMap _)

theorem order_kept_pumping :
    let s := [.deliver (.changed (some ⟨["up"], 1⟩)), .take 0, .dispatch 0,
      .deliver (.changed (some ⟨["down"], 2⟩)), .take 1, .dispatch 1].foldl step {}
    s.queue .changed = [⟨["up"], 1⟩, ⟨["down"], 2⟩] ∧ InOrder s := by
  have hfirst : Reached ([.deliver (.changed (some ⟨["up"], 1⟩)), .take 0,
      .dispatch 0].foldl step {}) :=
    .step (a := .dispatch 0) (.step (a := .take 0) (.step (a := .deliver _) .initial trivial)
      fun _ _ => rfl) trivial
  have hfree : ∀ other, other ≠ 1 → ([.deliver (.changed (some ⟨["up"], 1⟩)), .take 0, .dispatch 0,
      .deliver (.changed (some ⟨["down"], 2⟩))].foldl step {}).messages other = [] := by
    intro other _
    by_cases hother : other = 0
    · subst hother
      rfl
    · exact (update_of_ne hother _ _).trans (update_of_ne hother _ _)
  exact ⟨by decide, order_kept (.step (a := .dispatch 1) (.step (a := .take 1)
    (.step (a := .deliver _) hfirst trivial) hfree) trivial)⟩

/-- The second thread places the later event before the first one places the earlier event. -/
theorem later_event_overtakes :
    ¬InOrder ([.deliver (.changed (some ⟨["up"], 1⟩)), .take 0,
      .deliver (.changed (some ⟨["down"], 2⟩)), .take 1, .dispatch 1, .dispatch 0].foldl step {}) :=
  fun h => absurd (h .changed) (by decide)
end WeakNet.Client
