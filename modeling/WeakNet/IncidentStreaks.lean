import WeakNet.IncidentHysteresis
import WeakNet.IncidentScopes

/-! Which events make a bad evaluation for the incidents about routes and uplinks; every other event
leaves the count of the key alone or sets it back to zero. A call that throws has counted too, and
leaves the engine without ids. -/

namespace WeakNet.IncidentEngine
open Foundation Foundation.OrderedMap Foundation.Runs Working IncidentEngine

variable {e e' e'' : IncidentEngine} {w w' : Working} {key k : IncidentKey} {bad : Prop}
def streakAt (e : IncidentEngine) (key : IncidentKey) : ℕ :=
  (e.records.find? key).elim 0 IncidentRecord.badStreak

def activeAt (e : IncidentEngine) (key : IncidentKey) : Bool :=
  (e.records.find? key).any IncidentRecord.active

/-- While there are ids, an idle key has fewer bad evaluations than activate it, and an active
one never has more. -/
structure Metered (e : IncidentEngine) (key : IncidentKey) : Prop where
  idle : e.activeAt key = false → e.nextIncidentId ≠ 0 →
    e.streakAt key < e.policy.activationConsecutive
  bound : e.activeAt key = true → e.streakAt key ≤ e.policy.activationConsecutive

inductive Turn (key : IncidentKey) (bad : Prop) (e e' : IncidentEngine) : Prop
  | reset (hstreak : e'.streakAt key = 0)
    (hactive : e'.activeAt key = true → e.activeAt key = true)
  | same (hstreak : e'.streakAt key = e.streakAt key) (hactive : e'.activeAt key = e.activeAt key)
  | counted (hbad : bad) (hstreak : e'.streakAt key = e.streakAt key + 1)
    (hopened : e'.activeAt key = true → e.activeAt key = false →
      e'.streakAt key = e'.policy.activationConsecutive)
    (hmetered : Metered e' key)

structure Handled (key : IncidentKey) (bad : Prop) (e e' : IncidentEngine) : Prop where
  policy : e'.policy = e.policy
  exhausted : e.nextIncidentId = 0 → e'.nextIncidentId = 0
  turn : Turn key bad e e'

theorem Handled.metered (h : Handled key bad e e') (hm : Metered e key) : Metered e' key := by
  have hpos := (consecutive_pos e'.policy).1
  cases h.turn with
  | reset hstreak =>
    refine ⟨fun _ _ => ?_, fun _ => ?_⟩ <;> rw [hstreak]
    · exact hpos
    · exact Nat.zero_le _
  | same hstreak hactive =>
    refine ⟨fun hidle hids => ?_, fun hopen => ?_⟩ <;> rw [h.policy, hstreak]
    · exact hm.idle (hactive ▸ hidle) fun hnone => hids (h.exhausted hnone)
    · exact hm.bound (hactive ▸ hopen)
  | counted _ _ _ hmetered => exact hmetered

theorem Handled.imp {worse : Prop} (himp : bad → worse) (h : Handled key bad e e') :
    Handled key worse e e' := by
  refine ⟨h.policy, h.exhausted, ?_⟩
  cases h.turn with
  | reset hstreak hactive => exact .reset hstreak hactive
  | same hstreak hactive => exact .same hstreak hactive
  | counted hbad hstreak hopened hmetered => exact .counted (himp hbad) hstreak hopened hmetered

structure SameAt (key : IncidentKey) (e e' : IncidentEngine) : Prop where
  policy : e'.policy = e.policy
  exhausted : e.nextIncidentId = 0 → e'.nextIncidentId = 0
  record : e'.records.find? key = e.records.find? key

theorem SameAt.streakAt (h : SameAt key e e') : e'.streakAt key = e.streakAt key := by
  rw [IncidentEngine.streakAt, IncidentEngine.streakAt, h.record]

theorem SameAt.activeAt (h : SameAt key e e') : e'.activeAt key = e.activeAt key := by
  rw [IncidentEngine.activeAt, IncidentEngine.activeAt, h.record]

theorem SameAt.refl (key : IncidentKey) (e : IncidentEngine) : SameAt key e e := ⟨rfl, id, rfl⟩

theorem SameAt.handled (h : SameAt key e e') : Handled key bad e e' :=
  ⟨h.policy, h.exhausted, .same h.streakAt h.activeAt⟩

theorem SameAt.metered (h : SameAt key e e') (hm : Metered e key) : Metered e' key := by
  have hhandled : Handled key True e e' := h.handled
  exact hhandled.metered hm

theorem Handled.after (h : SameAt key e e') (h' : Handled key bad e' e'') :
    Handled key bad e e'' := by
  refine ⟨h'.policy.trans h.policy, fun hnone => h'.exhausted (h.exhausted hnone), ?_⟩
  cases h'.turn with
  | reset hstreak hactive => exact .reset hstreak (h.activeAt ▸ hactive)
  | same hstreak hactive => exact .same (hstreak.trans h.streakAt) (hactive.trans h.activeAt)
  | counted hbad hstreak hopened hmetered =>
    rw [h.streakAt] at hstreak
    exact .counted hbad hstreak (h.activeAt ▸ hopened) hmetered

theorem Handled.before (h : Handled key bad e e') (h' : SameAt key e' e'') :
    Handled key bad e e'' := by
  refine ⟨h'.policy.trans h.policy, fun hnone => h'.exhausted (h.exhausted hnone), ?_⟩
  cases h.turn with
  | reset hstreak hactive => exact .reset (h'.streakAt.trans hstreak) (h'.activeAt ▸ hactive)
  | same hstreak hactive => exact .same (h'.streakAt.trans hstreak) (h'.activeAt.trans hactive)
  | counted hbad hstreak hopened hmetered =>
    refine .counted hbad (h'.streakAt.trans hstreak) ?_ (h'.metered hmetered)
    rw [h'.activeAt, h'.streakAt, h'.policy]
    exact hopened

theorem Touches.sameAt {S : IncidentKey → Prop} (h : Touches S w w') (hkey : ¬ S key) :
    SameAt key w.engine w'.engine :=
  ⟨h.policy, h.exhausted, h.elsewhere key hkey⟩

variable {netns : NetnsId} {evaluation : Evaluation} {evidence : IncidentEvidence}
    {severity : IncidentSeverity} {completeness : IncidentEvidenceCompleteness}

section Evaluate
variable {found record : IncidentRecord}
theorem streakAt_setRecord : (w.setRecord key record).engine.streakAt key = record.badStreak := by
  simp [streakAt, setRecord]

theorem activeAt_setRecord : (w.setRecord key record).engine.activeAt key = record.active := by
  simp [activeAt, setRecord]

theorem turn_of_gone (h : e'.records.find? key = none) : Turn key bad e e' := by
  refine .reset ?_ fun hactive => ?_
  · rw [streakAt, h]
    rfl
  · rw [activeAt, h] at hactive
    cases hactive

theorem turn_eraseRecord (e : IncidentEngine) (w : Working) :
    Turn key bad e (w.eraseRecord key).engine :=
  turn_of_gone (by simp [eraseRecord])

theorem turn_active (hbad : bad) (hm : Metered e key) (hactive : e.activeAt key)
    (hactive' : e'.activeAt key) (hpolicy : e'.policy = e.policy)
    (hstreak : e'.streakAt key = min (e.streakAt key + 1) e.policy.activationConsecutive) :
    Turn key bad e e' := by
  have hbound := hm.bound hactive
  by_cases hfull : e.streakAt key = e.policy.activationConsecutive
  · refine .same ?_ (hactive'.trans hactive.symm)
    rw [hstreak]
    omega
  · refine .counted hbad ?_ (fun _ hidle => absurd (hactive.symm.trans hidle) nofun) ⟨?_, ?_⟩
    · rw [hstreak]
      omega
    · exact fun hidle => absurd (hactive'.symm.trans hidle) nofun
    · intro _
      rw [hpolicy, hstreak]
      exact Nat.min_le_right _ _

theorem streakAt_of_held (h : Held w key netns found) :
    w.engine.streakAt key = found.badStreak := by
  cases h with
  | found _ hfind => simp [streakAt, hfind]
  | fresh hnone => simp [streakAt, hnone]

theorem activeAt_of_held (h : Held w key netns found) : w.engine.activeAt key = found.active := by
  cases h with
  | found _ hfind => simp [activeAt, hfind]
  | fresh hnone => simp [activeAt, hnone]

theorem turn_setRecord (hheld : Held w key netns found) (hactive : record.active = found.active)
    (hstreak : record.badStreak = 0 ∨ record.badStreak = found.badStreak) :
    Turn key bad w.engine (w.setRecord key record).engine := by
  rcases hstreak with hzero | hsame
  · refine .reset (streakAt_setRecord.trans hzero) fun hopen => ?_
    rw [activeAt_setRecord, hactive] at hopen
    rw [activeAt_of_held hheld]
    exact hopen
  · refine .same ?_ ?_
    · rw [streakAt_setRecord, streakAt_of_held hheld, hsame]
    · rw [activeAt_setRecord, activeAt_of_held hheld, hactive]

theorem turn_pending (hbad : bad) (hheld : Held w key netns found)
    (hstreak : record.badStreak = found.badStreak + 1) (hactive : record.active = false)
    (hfew : w.engine.nextIncidentId ≠ 0 →
      found.badStreak + 1 < w.engine.policy.activationConsecutive) :
    Turn key bad w.engine (w.setRecord key record).engine := by
  refine .counted hbad ?_ ?_ ⟨fun _ hids => ?_, ?_⟩
  · rw [streakAt_setRecord, streakAt_of_held hheld, hstreak]
  · rw [activeAt_setRecord, hactive]
    rintro ⟨⟩
  · rw [streakAt_setRecord, hstreak]
    exact hfew hids
  · rw [activeAt_setRecord, hactive]
    rintro ⟨⟩

theorem evaluateLocked_turn (hm : Metered w.engine key) :
    Ends (fun w' => Turn key (evaluation = .bad) w.engine w'.engine)
      (fun w' => Turn key (evaluation = .bad) w.engine w'.engine)
      (w.evaluateLocked key netns evaluation evidence severity completeness) := by
  have hheld : ∀ {found}, w.engine.records.find? key = some found → Held w key netns found :=
    fun hfind => .found _ hfind
  generalize hresult : w.evaluateLocked .. = result
  cases evaluateLocked_judged hresult with
  | ignored => exact .same rfl rfl
  | paused _ hfind => exact turn_setRecord (hheld hfind) rfl (.inr rfl)
  | dropped _ | recovered =>
    exact turn_eraseRecord _ _
  | recovering _ hfind => exact turn_setRecord (hheld hfind) rfl (.inl rfl)
  | repeated found hfind hactive | updated found incident hfind hactive =>
    refine turn_active rfl hm ((activeAt_of_held (hheld hfind)).trans hactive)
      (activeAt_setRecord.trans hactive) rfl ?_
    rw [streakAt_of_held (hheld hfind)]
    exact streakAt_setRecord
  | counted _ hheld hactive hfew => exact turn_pending rfl hheld rfl hactive fun _ => hfew
  | exhausted _ hheld hactive _ hid =>
    exact turn_pending rfl hheld rfl hactive fun hids => absurd hid hids
  | opened found _ hheld hactive _ hid =>
    have hidle := hm.idle ((activeAt_of_held hheld).trans hactive) hid
    rw [streakAt_of_held hheld] at hidle
    have hreached : found.badStreak + 1 = w.engine.policy.activationConsecutive := by omega
    refine .counted rfl ?_ (fun _ _ => ?_) ⟨fun hnone => ?_, fun _ => ?_⟩
    · rw [streakAt_of_held hheld]
      exact streakAt_setRecord
    · exact streakAt_setRecord.trans hreached
    · cases activeAt_setRecord.symm.trans hnone
    · exact (streakAt_setRecord.trans hreached).le
end Evaluate

structure Drops (e e' : IncidentEngine) : Prop where
  policy : e'.policy = e.policy
  next : e'.nextIncidentId = e.nextIncidentId
  records : ∀ k, e'.records.find? k = none ∨ e'.records.find? k = e.records.find? k

theorem Drops.refl (e : IncidentEngine) : Drops e e := ⟨rfl, rfl, fun _ => .inr rfl⟩

theorem Drops.trans (h : Drops e e') (h' : Drops e' e'') : Drops e e'' := by
  refine ⟨h'.policy.trans h.policy, h'.next.trans h.next, fun k => ?_⟩
  rcases h'.records k with hgone | hsame
  · exact .inl hgone
  · rw [hsame]
    exact h.records k

theorem Drops.handled (h : Drops e e') : Handled key bad e e' := by
  have hexhausted : e.nextIncidentId = 0 → e'.nextIncidentId = 0 := h.next.trans
  rcases h.records key with hgone | hsame
  · exact ⟨h.policy, hexhausted, turn_of_gone hgone⟩
  · exact SameAt.handled ⟨h.policy, hexhausted, hsame⟩

theorem drops_eraseRecord (w : Working) (key : IncidentKey) :
    Drops w.engine (w.eraseRecord key).engine := by
  refine ⟨rfl, rfl, fun k => ?_⟩
  rw [eraseRecord, find?_erase]
  split_ifs
  · exact .inl rfl
  · exact .inr rfl

theorem Drops.resolvable (e : IncidentEngine) : Resolvable fun w => Drops e w.engine := by
  refine ⟨fun w key record realtime monotonic condition _ _ h => ?_,
    fun w key record _ _ h => h.trans (drops_eraseRecord w key),
    fun w sockets h => { h with }⟩
  have hdrops := drops_eraseRecord w key
  exact h.trans { hdrops with }

theorem drops_resolveSuperseded (w : Working) (current : SocketId) (realtime : RealtimeTime)
    (monotonic : MonotonicTime) :
    Drops w.engine (w.resolveSupersededSocketGenerationsLocked current realtime monotonic).engine :=
  (Drops.resolvable w.engine).resolveSuperseded (Drops.refl _) current realtime monotonic

theorem drops_processSocket (w : Working) (event : NetworkEvent) (o : SocketObservation) :
    Drops w.engine (w.processSocket event o).engine :=
  (Drops.resolvable w.engine).processSocket (Drops.refl _) event o

def aboutRouting : IncidentType → Bool
  | .routeUnavailable | .uplinkUnavailable | .socketRouteConflict => true
  | .highTcpRtt | .elevatedTcpRetransmission => false

inductive Accuses (e : IncidentEngine) (event : NetworkEvent) : IncidentKey → Prop
  | uplink (o : UplinkObservation) (hsource : event.header.source = .netlinkCollector)
    (hpayload : event.payload = .uplink o)
    (hbad : (Working.uplinkVerdict o.selected event.header.validity).evaluation = .bad) :
    Accuses e event ⟨.uplinkUnavailable, .netns event.header.netns⟩
  | missing (route : SocketRouteContextObservation)
    (hsource : event.header.source = .socketTracker) (hpayload : event.payload = .socketRoute route)
    (hknown : e.authoritativeSockets.find? route.socketId = some true)
    (hstatus : route.attributionStatus = .unavailable)
    (hnone : .noModeledRoute ∈ route.reasons)
    (hquality : .topologyNonAuthoritative ∉ route.reasons ∧ .topologyPartial ∉ route.reasons ∧
      .topologyDegraded ∉ route.reasons) :
    Accuses e event ⟨.routeUnavailable, .socket route.socketId⟩
  | conflict (route : SocketRouteContextObservation)
    (hsource : event.header.source = .socketTracker) (hpayload : event.payload = .socketRoute route)
    (hknown : e.authoritativeSockets.find? route.socketId = some true)
    (hconflict : .diagIfindexConflicts ∈ route.reasons)
    (hstatus : route.attributionStatus = .partly ∨ route.attributionStatus = .ambiguous) :
    Accuses e event ⟨.socketRouteConflict, .socket route.socketId⟩

variable {authoritative : Bool} {status : RouteAttributionStatus}
theorem routeVerdict_bad {missing : Bool}
    (h : (routeVerdict authoritative missing status).evaluation = .bad) :
    missing := by
  rw [routeVerdict] at h
  split_ifs at h with hmissing
  exact hmissing

theorem conflictVerdict_bad {conflict : Bool}
    (h : (conflictVerdict authoritative conflict status).evaluation = .bad) :
    conflict := by
  rw [conflictVerdict] at h
  split_ifs at h with hconflict
  exact hconflict

theorem known_of_getD {id : SocketId} (h : (e.authoritativeSockets.find? id).getD false) :
    e.authoritativeSockets.find? id = some true :=
  (Option.getD_eq_iff.mp h).resolve_right nofun

section Events
variable {event : NetworkEvent}
def left : Except Working Working → Working
  | .ok w => w
  | .error w => w

variable {result : Except Working Working}
theorem Ends.left {P : Working → Prop} (h : Ends P P result) :
    P (left result) := by
  cases result <;> exact h

theorem touches_evaluateLocked : Touches (· = k) w
    (left (w.evaluateLocked k netns evaluation evidence severity completeness)) := by
  have hends := ends_evaluateLocked w k netns evaluation evidence severity completeness
  generalize w.evaluateLocked .. = result at *
  cases result with
  | ok => exact hends
  | error => exact hends.2

theorem sameAt_evaluateLocked (hne : key ≠ k) : SameAt key w.engine
    (left (w.evaluateLocked k netns evaluation evidence severity completeness)).engine :=
  touches_evaluateLocked.sameAt hne

theorem handled_evaluateLocked (hm : Metered w.engine key) :
    Handled key (key = k ∧ evaluation = .bad) w.engine
      (left (w.evaluateLocked k netns evaluation evidence severity completeness)).engine := by
  by_cases hkey : key = k
  · subst hkey
    have htouches : Touches (· = key) w
        (left (w.evaluateLocked key netns evaluation evidence severity completeness)) :=
      touches_evaluateLocked
    exact Handled.imp (fun hbad => ⟨rfl, hbad⟩) ⟨htouches.policy, htouches.exhausted,
      (evaluateLocked_turn hm).left⟩
  · exact (sameAt_evaluateLocked hkey).handled

theorem handled_dropped (h : Drops e w.engine) (hne : key ≠ k) : Handled key bad e
    (left (w.evaluateLocked k netns evaluation evidence severity completeness)).engine :=
  h.handled.before (sameAt_evaluateLocked hne)

theorem handled_processUplink (hm : Metered w.engine key) {o : UplinkObservation}
    (hpayload : event.payload = .uplink o) (hsource : event.header.source = .netlinkCollector) :
    Handled key (Accuses w.engine event key) w.engine (left (w.processUplink event o)).engine := by
  rw [processUplink]
  refine (handled_evaluateLocked hm).imp fun h => ?_
  obtain ⟨rfl, hbad⟩ := h
  exact .uplink o hsource hpayload hbad

variable {first : Except Working Working} {next : Working → Except Working Working}
theorem handled_first (h : Handled key bad e (left first).engine)
    (hnext : ∀ v, SameAt key v.engine (left (next v)).engine) :
    Handled key bad e (left (first >>= next)).engine := by
  cases first with
  | ok v => exact h.before (hnext v)
  | error => exact h

theorem handled_second (hm : Metered e key) (h : SameAt key e (left first).engine)
    (hnext : ∀ v, Metered v.engine key → Handled key bad v.engine (left (next v)).engine) :
    Handled key bad e (left (first >>= next)).engine := by
  cases first with
  | ok v => exact Handled.after h (hnext v (h.metered hm))
  | error => exact h.handled

theorem handled_processSocketRoute (hm : Metered w.engine key)
    {route : SocketRouteContextObservation} (hpayload : event.payload = .socketRoute route)
    (hsource : event.header.source = .socketTracker) :
    Handled key (Accuses w.engine event key) w.engine
      (left (w.processSocketRoute event route)).engine := by
  rw [processSocketRoute]
  by_cases hconflict : key = ⟨.socketRouteConflict, .socket route.socketId⟩
  · have hne : key ≠ ⟨.routeUnavailable, .socket route.socketId⟩ := by
      rw [hconflict]
      rintro ⟨⟩
    refine handled_second hm (sameAt_evaluateLocked hne) fun v hv =>
      (handled_evaluateLocked hv).imp fun h => ?_
    obtain ⟨rfl, hbad⟩ := h
    have hall := conflictVerdict_bad hbad
    simp only [Bool.and_eq_true, Bool.or_eq_true, decide_eq_true_eq, beq_iff_eq] at hall
    exact .conflict route hsource hpayload (known_of_getD hall.1.1) hall.1.2 hall.2
  · refine handled_first ((handled_evaluateLocked hm).imp fun h => ?_)
      fun v => sameAt_evaluateLocked hconflict
    obtain ⟨rfl, hbad⟩ := h
    have hall := routeVerdict_bad hbad
    simp only [Bool.and_eq_true, decide_eq_true_eq, beq_iff_eq] at hall
    exact .missing route hsource hpayload (known_of_getD hall.1.1.1.1.1) hall.1.1.1.1.2
      hall.1.1.1.2 ⟨hall.1.1.2, hall.1.2, hall.2⟩

theorem handled_dispatch (hm : Metered w.engine key) (hkey : aboutRouting key.type)
    (hresult : w.dispatch event = some result) :
    Handled key (Accuses w.engine event key) w.engine (left result).engine := by
  have hother : ∀ {type scope}, aboutRouting type = false → key ≠ ⟨type, scope⟩ := by
    rintro type scope htype rfl
    exact absurd (hkey.symm.trans htype) nofun
  cases dispatch_dispatched hresult with
  | socket o => exact (drops_processSocket w event o).handled
  | tcpInfo | tcpInterval =>
    exact handled_dropped (drops_resolveSuperseded w ..) (hother rfl)
  | socketRoute _ hpayload hsource => exact handled_processSocketRoute hm hpayload hsource
  | uplink _ hpayload hsource => exact handled_processUplink hm hpayload hsource
end Events

theorem handled_process (hm : Metered e key) (hkey : aboutRouting key.type)
    (event : NetworkEvent) :
    Handled key (Accuses e event key) e (e.process event).1 := by
  rw [process]
  cases hd : dispatch ⟨e, []⟩ event with
  | none => exact (SameAt.refl key e).handled
  | some result =>
    have hhandled := handled_dispatch (w := ⟨e, []⟩) hm hkey hd
    cases result <;> exact hhandled

theorem metered_initial (policy : AcceptedPolicy) (key : IncidentKey) :
    Metered (initial policy) key :=
  ⟨fun _ _ => (consecutive_pos policy).1, fun _ => Nat.zero_le _⟩
end WeakNet.IncidentEngine
