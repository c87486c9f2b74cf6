import WeakNet.EventBusDelivery
import WeakNet.IncidentLifecycle

/-! A live socket joins the authoritative ones and displaces older generations of the same kernel
socket, a closed one leaves, and a sample displaces older generations as well. As a reader of the
bus the engine depends on socket observations; every other event may be lost or repeated as long as
the samples come from sockets that displace nothing. -/

namespace WeakNet.IncidentEngine
open Foundation Foundation.OrderedMap Foundation.Runs Working

def authoritative (e : IncidentEngine) : Set SocketId :=
  {id | e.authoritativeSockets.find? id = some true}

variable {id : SocketId}
theorem mem_authoritative {e : IncidentEngine} :
    id ∈ e.authoritative ↔ e.authoritativeSockets.find? id = some true := Iff.rfl

instance (e : IncidentEngine) (id : SocketId) : Decidable (id ∈ e.authoritative) :=
  inferInstanceAs (Decidable (e.authoritativeSockets.find? id = some true))

def Displaces (current id : SocketId) : Prop :=
  current.cookie.isSome ∧ id ≠ current ∧ id.netns = current.netns ∧ id.cookie = current.cookie

def remaining (sockets : Set SocketId) (current : SocketId) : Set SocketId :=
  {id | id ∈ sockets ∧ ¬Displaces current id}

variable {current : SocketId}
theorem mem_remaining {sockets : Set SocketId} :
    id ∈ remaining sockets current ↔ id ∈ sockets ∧ ¬Displaces current id := Iff.rfl

theorem remaining_eq_self {sockets : Set SocketId} (h : ∀ id ∈ sockets, ¬Displaces current id) :
    remaining sockets current = sockets := by
  ext id
  exact ⟨fun hid => hid.1, fun hid => ⟨hid, h id hid⟩⟩

def absorbSocket (sockets : Set SocketId) (validity : Validity) (o : SocketObservation) :
    Set SocketId :=
  if o.present ∧ o.lifecycle = .active ∧ validity = .valid ∧ o.validity = .valid then
    insert o.id (remaining sockets o.id)
  else if !o.present ∨ o.lifecycle = .closed then sockets \ {o.id}
  else sockets

def absorbSockets (sockets : Set SocketId) (event : NetworkEvent) : Set SocketId :=
  if event.header.source = .socketTracker then
    match event.payload with
    | .socket o => absorbSocket sockets event.header.validity o
    | .tcpInfo o => remaining sockets o.id
    | .tcpInterval metrics => remaining sockets metrics.id
    | _ => sockets
  else sockets

variable {event : NetworkEvent}

section Payloads
variable (sockets : Set SocketId) (hsource : event.header.source = .socketTracker)
include hsource in
theorem absorbSockets_socket {o : SocketObservation} (h : event.payload = .socket o) :
    absorbSockets sockets event = absorbSocket sockets event.header.validity o := by
  rw [absorbSockets, if_pos hsource, h]

include hsource in
theorem absorbSockets_tcpInfo {o : TcpInfoObservation} (h : event.payload = .tcpInfo o) :
    absorbSockets sockets event = remaining sockets o.id := by
  rw [absorbSockets, if_pos hsource, h]

include hsource in
theorem absorbSockets_tcpInterval {metrics : TcpIntervalMetrics}
    (h : event.payload = .tcpInterval metrics) :
    absorbSockets sockets event = remaining sockets metrics.id := by
  rw [absorbSockets, if_pos hsource, h]

theorem absorbSockets_socketRoute {o : SocketRouteContextObservation}
    (h : event.payload = .socketRoute o) : absorbSockets sockets event = sockets := by
  rw [absorbSockets, h, ite_self]

theorem absorbSockets_foreign (h : event.header.source ≠ .socketTracker) :
    absorbSockets sockets event = sockets := if_neg h
end Payloads

section Working
variable {w w' : Working} {key : IncidentKey}
def SameSockets (w w' : Working) : Prop :=
  w'.engine.authoritativeSockets = w.engine.authoritativeSockets

theorem sameSockets_resolveSocketLocked (w : Working) (id : SocketId) (realtime : RealtimeTime)
    (monotonic : MonotonicTime) (condition : String) :
    SameSockets w (w.resolveSocketLocked id realtime monotonic condition) := by
  refine run_invariant (P := SameSockets w) (fun v key hv => ?_) rfl _
  rw [resolveSocketRecord]
  split_ifs
  · cases v.engine.records.find? key with
    | none => exact hv
    | some _ =>
      dsimp only
      split_ifs
      all_goals exact hv
  · exact hv

theorem SameSockets.evaluateLocked {netns : NetnsId} {evidence : IncidentEvidence}
    {severity : IncidentSeverity} {completeness : IncidentEvidenceCompleteness}
    (h : SameSockets w w') (evaluation : Evaluation) :
    Ends (SameSockets w) (SameSockets w)
      (w'.evaluateLocked key netns evaluation evidence severity completeness) := by
  generalize hresult : w'.evaluateLocked .. = result
  cases evaluateLocked_evaluated hresult <;> exact h

theorem mem_supersededBy :
    id ∈ w.supersededBy current ↔ id ∈ w.engine.authoritative ∧ id ≠ current ∧
      id.netns = current.netns ∧ id.cookie = current.cookie := by
  simp only [supersededBy, List.mem_map, List.mem_filter, Prod.exists, mem_entries,
    Bool.and_eq_true, bne_iff_ne, beq_iff_eq, mem_authoritative]
  refine ⟨fun h => ?_, fun h => ?_⟩
  · obtain ⟨id', known, ⟨hfind, ⟨⟨rfl, hne⟩, hnetns⟩, hcookie⟩, rfl⟩ := h
    exact ⟨hfind, hne, hnetns, hcookie⟩
  · exact ⟨id, true, ⟨h.1, ⟨⟨rfl, h.2.1⟩, h.2.2.1⟩, h.2.2.2⟩, rfl⟩

theorem foldl_displaced (realtime : RealtimeTime) (monotonic : MonotonicTime) (condition : String)
    (ids : List SocketId) (w : Working) (id : SocketId) :
    (ids.foldl (fun w id => (w.eraseAuthoritative id).resolveSocketLocked id realtime monotonic
      condition) w).engine.authoritativeSockets.find? id =
      if id ∈ ids then none else w.engine.authoritativeSockets.find? id := by
  induction ids generalizing w with
  | nil => rfl
  | cons first _ ih =>
    have herase : ((w.eraseAuthoritative first).resolveSocketLocked first realtime monotonic
        condition).engine.authoritativeSockets = w.engine.authoritativeSockets.erase first :=
      sameSockets_resolveSocketLocked (w.eraseAuthoritative first) first realtime monotonic
        condition
    rw [List.foldl_cons, ih, herase, find?_erase]
    by_cases hfirst : id = first
    all_goals simp [hfirst]

theorem authoritative_resolveSuperseded (w : Working) (current : SocketId)
    (realtime : RealtimeTime) (monotonic : MonotonicTime) :
    (w.resolveSupersededSocketGenerationsLocked current realtime monotonic).engine.authoritative =
      remaining w.engine.authoritative current := by
  ext id
  rw [resolveSupersededSocketGenerationsLocked, mem_remaining, Displaces]
  split_ifs with hcookie
  · rw [mem_authoritative, foldl_displaced]
    split_ifs with hdisplaced
    · exact ⟨by rintro ⟨⟩, fun h => absurd ⟨hcookie, (mem_supersededBy.mp hdisplaced).2⟩ h.2⟩
    · refine ⟨fun h => ⟨h, fun hother => ?_⟩, fun h => h.1⟩
      exact hdisplaced (mem_supersededBy.mpr ⟨h, hother.2⟩)
  · simp [hcookie]

theorem authoritative_setAuthoritative (w : Working) (id : SocketId) :
    (w.setAuthoritative id).engine.authoritative = insert id w.engine.authoritative := by
  ext other
  rw [mem_authoritative, setAuthoritative, find?_insert, Set.mem_insert_iff, mem_authoritative]
  by_cases h : id = other
  · simp [h]
  · simp [h, Ne.symm h]

theorem authoritative_eraseAuthoritative (w : Working) (id : SocketId) :
    (w.eraseAuthoritative id).engine.authoritative = w.engine.authoritative \ {id} := by
  ext other
  rw [mem_authoritative, eraseAuthoritative, find?_erase, Set.mem_sdiff,
    Set.mem_singleton_iff, mem_authoritative]
  split_ifs with h
  all_goals simp [h]

theorem SameSockets.authoritative (h : SameSockets w w') :
    w'.engine.authoritative = w.engine.authoritative := by
  ext id
  rw [mem_authoritative, mem_authoritative, h]

theorem authoritative_processSocket (w : Working) (event : NetworkEvent) (o : SocketObservation) :
    (w.processSocket event o).engine.authoritative =
      absorbSocket w.engine.authoritative event.header.validity o := by
  rw [processSocket, absorbSocket]
  split_ifs
  · rw [authoritative_setAuthoritative, authoritative_resolveSuperseded]
  · rw [(sameSockets_resolveSocketLocked ..).authoritative, authoritative_eraseAuthoritative]
  · rfl

theorem sameSockets_processSocketRoute (w : Working) (event : NetworkEvent)
    (o : SocketRouteContextObservation) :
    Ends (SameSockets w) (SameSockets w) (w.processSocketRoute event o) := by
  rw [processSocketRoute]
  simp only [bind, Except.bind]
  generalize hfirst : w.evaluateLocked _ _ _ _ _ _ = first
  have hends : Ends (SameSockets w) (SameSockets w) first :=
    hfirst ▸ SameSockets.evaluateLocked (Eq.refl _) _
  cases first with
  | error _ => exact hends
  | ok _ => exact SameSockets.evaluateLocked hends _

def Absorbs (sockets : Set SocketId) : Except Working Working → Prop :=
  Ends (fun w => w.engine.authoritative = sockets) (fun w => w.engine.authoritative = sockets)

variable {result : Except Working Working}
theorem absorbs_of_same (h : Ends (SameSockets w) (SameSockets w) result) :
    Absorbs w.engine.authoritative result := by
  cases result with
  | ok w' | error w' => exact SameSockets.authoritative h

theorem absorbs_dispatch (hresult : w.dispatch event = some result) :
    Absorbs (absorbSockets w.engine.authoritative event) result := by
  cases dispatch_dispatched hresult with
  | socket o hpayload hsource =>
    rw [absorbSockets_socket _ hsource hpayload]
    exact authoritative_processSocket ..
  | tcpInfo o hpayload hsource =>
    rw [absorbSockets_tcpInfo _ hsource hpayload, ← authoritative_resolveSuperseded w o.id
      event.header.observedAt event.header.monotonicAt]
    exact absorbs_of_same (SameSockets.evaluateLocked (Eq.refl _) _)
  | tcpInterval o hpayload hsource =>
    rw [absorbSockets_tcpInterval _ hsource hpayload, ← authoritative_resolveSuperseded w o.id
      event.header.observedAt event.header.monotonicAt]
    exact absorbs_of_same (SameSockets.evaluateLocked (Eq.refl _) _)
  | socketRoute o hpayload =>
    rw [absorbSockets_socketRoute _ hpayload]
    exact absorbs_of_same (sameSockets_processSocketRoute w event o)
  | uplink _ _ hsource =>
    rw [absorbSockets_foreign _ (by rw [hsource]; decide)]
    exact absorbs_of_same (SameSockets.evaluateLocked (Eq.refl _) _)

theorem absorbSockets_of_dispatch_none (h : w.dispatch event = none) (sockets : Set SocketId) :
    absorbSockets sockets event = sockets := by
  rw [dispatch.eq_def] at h
  rw [absorbSockets]
  split_ifs with hsource
  · cases hpayload : event.payload <;> simp_all
  · rfl
end Working

theorem authoritative_process (e : IncidentEngine) (event : NetworkEvent) :
    (e.process event).1.authoritative = absorbSockets e.authoritative event := by
  rw [process]
  cases hdispatch : dispatch ⟨e, []⟩ event with
  | none => exact (absorbSockets_of_dispatch_none hdispatch _).symm
  | some result =>
    have habsorbs := absorbs_dispatch hdispatch
    cases result with
    | ok w | error w => exact habsorbs

def socketReader : EventBus.Reader (Set SocketId) where
  absorb := absorbSockets
  binding event := event.header.source = .socketTracker ∧ ∃ o, event.payload = .socket o
  absorb_withSequence := fun _ _ _ => rfl
  binding_withSequence := fun _ _ h => h
  binding_kept := by
    intro event ⟨_, o, h⟩
    rw [NetworkEvent.replaceable, event.kind_eq, h]
    rfl
end WeakNet.IncidentEngine
