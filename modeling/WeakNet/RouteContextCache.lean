import WeakNet.RootCauseLifecycle

/-! The engine keeps the last route context of each socket in a map of bounded size and evicts the
smallest socket id; it never learns that a socket has closed. A scene puts the engine next to the
open sockets and the last route event each of them got. -/

namespace WeakNet
open Finset Function
namespace RootCauseEngine
open Foundation Foundation.OrderedMap Foundation.Runs

def routeOf (event : NetworkEvent) : Option (Observed SocketRouteContextObservation) :=
  match event.payload, event.header.source with
  | .socketRoute context, .socketTracker => some ⟨event.header, context⟩
  | _, _ => none

variable {engine : RootCauseEngine} {event : NetworkEvent}
theorem absorb_routeEvents {next : RootCauseEngine} (h : engine.absorb event = .changed next) :
    next.routeEvents = match routeOf event with
      | some route => (engine.routeEvents.insert route.observation.socketId route).trim
          engine.policy.cacheBound
      | none => engine.routeEvents := by
  cases absorb_cached h with
  | route _ hpayload hsource => rw [routeOf, hpayload, hsource]
  | opened o hpayload | closed o hpayload | uplink o hpayload | probe o hpayload
  | wifi _ hpayload => rw [routeOf, hpayload]

variable {route : Observed SocketRouteContextObservation}
theorem absorb_route (h : routeOf event = some route) :
    ∃ next, engine.absorb event = .changed next := by
  rw [routeOf] at h
  split at h
  · rename_i context hpayload hsource
    rw [absorb, hpayload, hsource]
    exact ⟨_, rfl⟩
  · cases h

theorem step_routeEvents (engine : RootCauseEngine) (delivery : Delivery) :
    (engine.step delivery).routeEvents = match routeOf delivery.event with
      | some route => (engine.routeEvents.insert route.observation.socketId route).trim
          engine.policy.cacheBound
      | none => engine.routeEvents := by
  by_cases habsorb : ∃ next, engine.absorb delivery.event = .changed next
  · obtain ⟨next, habsorb⟩ := habsorb
    rw [← (process_caches habsorb).routeEvents, absorb_routeEvents habsorb]
  · rw [step_quiet (fun next h => habsorb ⟨next, h⟩)]
    cases hroute : routeOf delivery.event with
    | none => rfl
    | some _ => exact absurd (absorb_route hroute) habsorb

inductive Happening where
  | opened (socket : SocketId)
  | closed (socket : SocketId)
  | delivered (delivery : Delivery)

structure Scene where
  engine : RootCauseEngine
  openSockets : Finset SocketId
  -- the last route event of each socket that arrived since the socket was opened
  latest : SocketId → Option (Observed SocketRouteContextObservation)

namespace Scene
def start (policy : AcceptedRootCausePolicy) : Scene := ⟨initial policy, ∅, fun _ => none⟩

def next (scene : Scene) : Happening → Scene
  | .opened socket => { scene with openSockets := Insert.insert socket scene.openSockets }
  | .closed socket => { scene with
      openSockets := scene.openSockets.erase socket
      latest := Function.update scene.latest socket none }
  | .delivered delivery =>
    { scene with
      engine := scene.engine.step delivery
      latest := match routeOf delivery.event with
        | some route => if route.observation.socketId ∈ scene.openSockets
            then Function.update scene.latest route.observation.socketId (some route)
            else scene.latest
        | none => scene.latest }

def Kept (scene : Scene) : Prop :=
  ∀ s ∈ scene.openSockets, ∀ route, scene.latest s = some route →
    scene.engine.routeEvents.find? s = some route

/-- The happening does not make the engine evict the context of an open socket: a route event of
a new socket that meets a full cache finds the smallest id, its own included, at a socket that
is closed or has no route event since it was opened. -/
def Spares (scene : Scene) : Happening → Prop
  | .delivered delivery => ∀ route, routeOf delivery.event = some route →
    scene.engine.routeEvents.contains route.observation.socketId = false →
    scene.engine.policy.cacheBound ≤ scene.engine.routeEvents.size →
    ∀ s ∈ scene.openSockets,
      (∀ k ∈ Insert.insert route.observation.socketId scene.engine.routeEvents.keys, s ≤ k) →
      s ≠ route.observation.socketId ∧ scene.latest s = none
  | _ => True

structure Sound (policy : AcceptedRootCausePolicy) (scene : Scene) : Prop where
  accepted : scene.engine.policy = policy
  bounded : scene.engine.routeEvents.size ≤ policy.cacheBound
  tracked : ∀ s route, scene.latest s = some route → s ∈ scene.openSockets

section Steps
variable {policy : AcceptedRootCausePolicy} {scene : Scene} {delivery : Delivery} {s : SocketId}
theorem latest_delivered (hroute : routeOf delivery.event = some route)
    (hs : s ∈ scene.openSockets) : (scene.next (.delivered delivery)).latest s =
      if s = route.observation.socketId then some route else scene.latest s := by
  simp only [next, hroute]
  by_cases hsame : s = route.observation.socketId
  · rw [if_pos hsame, ← hsame, if_pos hs, update_self]
  · rw [if_neg hsame]
    split_ifs
    · exact update_of_ne hsame _ _
    · rfl

theorem Sound.next (h : Sound policy scene) (a : Happening) : Sound policy (scene.next a) := by
  cases a with
  | opened _ =>
    exact ⟨h.accepted, h.bounded, fun s route hs => mem_insert_of_mem (h.tracked s route hs)⟩
  | closed socket =>
    refine ⟨h.accepted, h.bounded, fun s route hs => ?_⟩
    by_cases hsame : s = socket
    · change update scene.latest socket none s = some route at hs
      rw [hsame, update_self] at hs
      cases hs
    · simp only [Scene.next, update_of_ne hsame] at hs
      exact mem_erase.mpr ⟨hsame, h.tracked s route hs⟩
  | delivered delivery =>
    refine ⟨?_, ?_, fun s route hs => ?_⟩
    · change (scene.engine.step delivery).policy = policy
      by_cases habsorb : ∃ next, scene.engine.absorb delivery.event = .changed next
      · obtain ⟨next, habsorb⟩ := habsorb
        rw [← (process_caches habsorb).policy, (absorb_frame habsorb).policy, h.accepted]
      · rw [step_quiet (fun next hn => habsorb ⟨next, hn⟩), h.accepted]
    · change (scene.engine.step delivery).routeEvents.size ≤ policy.cacheBound
      rw [step_routeEvents, ← h.accepted]
      split
      · exact size_trim_le
      · rw [h.accepted]
        exact h.bounded
    · cases hroute : routeOf delivery.event with
      | none =>
        simp only [Scene.next, hroute] at hs
        exact h.tracked s route hs
      | some received =>
        simp only [Scene.next, hroute] at hs
        split_ifs at hs with hopen
        · by_cases hsame : s = received.observation.socketId
          · rw [hsame]
            exact hopen
          · rw [update_of_ne hsame] at hs
            exact h.tracked s route hs
        · exact h.tracked s route hs

theorem kept_of_room (hroute : routeOf delivery.event = some route) (hkept : scene.Kept)
    (hroom : (scene.engine.routeEvents.insert route.observation.socketId route).size ≤
      scene.engine.policy.cacheBound) : (scene.next (.delivered delivery)).Kept := by
  intro s hs found hfound
  change s ∈ scene.openSockets at hs
  rw [latest_delivered hroute hs] at hfound
  change (scene.engine.step delivery).routeEvents.find? s = some found
  rw [step_routeEvents, hroute]
  simp only
  rw [trim_of_le hroom, find?_insert]
  simp only [eq_comm (a := s)] at hfound
  split_ifs at hfound ⊢
  · exact hfound
  · exact hkept s hs found hfound

theorem kept_of_eviction (hroute : routeOf delivery.event = some route) (hkept : scene.Kept)
    (hfull : (scene.engine.routeEvents.insert route.observation.socketId route).size =
      scene.engine.policy.cacheBound + 1) :
    (scene.next (.delivered delivery)).Kept ↔ ∀ s ∈ scene.openSockets,
      (∀ k ∈ Insert.insert route.observation.socketId scene.engine.routeEvents.keys, s ≤ k) →
      s ≠ route.observation.socketId ∧ scene.latest s = none := by
  have hfind : ∀ s, (scene.engine.step delivery).routeEvents.find? s =
      if ∀ k ∈ Insert.insert route.observation.socketId scene.engine.routeEvents.keys, s ≤ k
      then none
      else if route.observation.socketId = s then some route
      else scene.engine.routeEvents.find? s := by
    intro s
    rw [step_routeEvents, hroute]
    simp only
    rw [find?_trim_succ hfull, keys_insert, find?_insert]
  refine ⟨fun h s hs hmin => ?_, fun h s hs found hfound => ?_⟩
  · have hlost : ∀ found, (scene.next (.delivered delivery)).latest s ≠ some found := by
      intro found hfound
      have hheld : (scene.engine.step delivery).routeEvents.find? s = some found :=
        h s hs found hfound
      rw [hfind, if_pos hmin] at hheld
      cases hheld
    rw [latest_delivered hroute hs] at hlost
    split_ifs at hlost with hsame
    · exact absurd rfl (hlost route)
    · exact ⟨hsame, Option.eq_none_iff_forall_ne_some.mpr hlost⟩
  · change s ∈ scene.openSockets at hs
    rw [latest_delivered hroute hs] at hfound
    change (scene.engine.step delivery).routeEvents.find? s = some found
    rw [hfind]
    split_ifs with hmin hsame
    · obtain ⟨hne, hnone⟩ := h s hs hmin
      rw [if_neg hne, hnone] at hfound
      cases hfound
    · rw [if_pos hsame.symm] at hfound
      exact hfound
    · rw [if_neg (Ne.symm hsame)] at hfound
      exact hkept s hs found hfound

theorem next_kept_iff (hkept : scene.Kept) (hsound : Sound policy scene) (a : Happening) :
    (scene.next a).Kept ↔ scene.Spares a := by
  cases a with
  | opened _ =>
    refine ⟨fun _ => trivial, fun _ s hs route hroute => ?_⟩
    exact hkept s (hsound.tracked s route hroute) route hroute
  | closed _ =>
    refine ⟨fun _ => trivial, fun _ s hs route hroute => ?_⟩
    obtain ⟨hne, hs⟩ := mem_erase.mp hs
    simp only [next, update_of_ne hne] at hroute
    exact hkept s hs route hroute
  | delivered delivery =>
    cases hroute : routeOf delivery.event with
    | none =>
      refine ⟨fun _ route h => ?_, fun _ s hs found hfound => ?_⟩
      · rw [hroute] at h
        cases h
      · simp only [next, hroute] at hfound
        change (scene.engine.step delivery).routeEvents.find? s = some found
        rw [step_routeEvents, hroute]
        exact hkept s hs found hfound
    | some route =>
      have hbounded := hsound.bounded
      rw [← hsound.accepted] at hbounded
      have hspares : scene.Spares (.delivered delivery) ↔
          (scene.engine.routeEvents.contains route.observation.socketId = false →
            scene.engine.policy.cacheBound ≤ scene.engine.routeEvents.size →
            ∀ s ∈ scene.openSockets,
              (∀ k ∈ Insert.insert route.observation.socketId scene.engine.routeEvents.keys, s ≤ k) →
              s ≠ route.observation.socketId ∧ scene.latest s = none) := by
        simp [Spares, hroute]
      rw [hspares]
      have hsize := card_keys (scene.engine.routeEvents.insert route.observation.socketId route)
      rw [keys_insert] at hsize
      by_cases hcached : scene.engine.routeEvents.contains route.observation.socketId
      · have hroom := kept_of_room hroute hkept (by
          rw [← hsize, insert_eq_of_mem (mem_keys.mpr hcached), card_keys]
          exact hbounded)
        exact ⟨fun _ hnew => absurd hcached (by rw [hnew]; exact nofun), fun _ => hroom⟩
      · rw [card_insert_of_notMem (fun h => hcached (mem_keys.mp h)), card_keys] at hsize
        by_cases hfull : scene.engine.policy.cacheBound ≤ scene.engine.routeEvents.size
        · rw [kept_of_eviction hroute hkept (by omega)]
          exact ⟨fun h _ _ => h, fun h => h (by simpa using hcached) hfull⟩
        · have hroom := kept_of_room hroute hkept (by omega)
          exact ⟨fun _ _ h => absurd h hfull, fun _ => hroom⟩
end Steps

/-- Along every run, the engine uses the last route event of every open socket in all states
exactly if no step evicts the context of an open socket. -/
theorem route_contexts_kept_iff (policy : AcceptedRootCausePolicy) (happenings : List Happening) :
    AllStates Scene.next Scene.Kept (Scene.start policy) happenings ↔
      AllSteps Scene.next Scene.Spares (Scene.start policy) happenings := by
  have hstart : Sound policy (Scene.start policy) :=
    ⟨rfl, Nat.zero_le _, fun s route h => absurd h (by simp [start])⟩
  have hsound : AllSteps Scene.next (fun scene _ => Sound policy scene) (Scene.start policy)
      happenings :=
    allSteps_of_invariant (P := Sound policy) (fun scene _ h => h) (fun scene a h => h.next a)
      hstart happenings
  exact allStates_iff_allSteps (fun scene a hkept h => next_kept_iff hkept h a)
    (fun s hs => absurd hs (notMem_empty s)) hsound

def socketWithCookie (cookie : ℕ) : SocketId := ⟨⟨4, 1⟩, some cookie, 1⟩

def routeFor (cookie : ℕ) : Delivery :=
  ⟨⟨sampleHeader .socketRouteObservation .socketTracker, .socketRoute
    { sampleRouteContext ⟨3, []⟩ with socketId := socketWithCookie cookie }, rfl⟩, fun _ _ => 0⟩

def oneHypothesis : AcceptedRootCausePolicy :=
  ⟨{ RootCausePolicy.standard with maxActiveHypotheses := 1 }, by decide⟩

def churn : List Happening :=
  [.opened (socketWithCookie 1), .delivered (routeFor 1), .opened (socketWithCookie 2),
    .delivered (routeFor 2), .closed (socketWithCookie 2), .opened (socketWithCookie 3),
    .delivered (routeFor 3)]

/-- With room for two contexts and never more than two open sockets, the context of socket 1 is
evicted while that of the closed socket 2 stays. -/
theorem closed_socket_displaces_context :
    AllStates Scene.next (fun scene => scene.openSockets.card ≤ 2 * oneHypothesis.maxActiveHypotheses)
      (Scene.start oneHypothesis) churn ∧
    ¬(run Scene.next (Scene.start oneHypothesis) churn).Kept := by
  refine ⟨?_, fun hkept => ?_⟩
  · simp only [churn, AllStates]
    decide +kernel
  · have hopen : socketWithCookie 1 ∈
        (run Scene.next (Scene.start oneHypothesis) churn).openSockets := by decide +kernel
    have hevicted : (run Scene.next (Scene.start oneHypothesis) churn).engine.routeEvents.find?
        (socketWithCookie 1) = none := by decide +kernel
    have htracked : ((run Scene.next (Scene.start oneHypothesis) churn).latest
        (socketWithCookie 1)).isSome := by decide +kernel
    obtain ⟨route, hroute⟩ := Option.isSome_iff_exists.mp htracked
    rw [hkept _ hopen route hroute] at hevicted
    cases hevicted
end Scene
end RootCauseEngine
end WeakNet
