import WeakNet.IncidentEngine

/-! `Judged` says everything one evaluation can do to the record of its key. An event resolves the
incidents of some sockets and then evaluates keys whose scope fits their type; `dispatch_rule`
carries a property through these moves. -/

namespace WeakNet
def IncidentScope.fits : IncidentScope → IncidentType → Prop
  | .netns _, .uplinkUnavailable => True
  | .netns _, _ => False
  | .socket _, .uplinkUnavailable => False
  | .socket _, _ => True
  | .interface _, _ => False

namespace IncidentEngine
open Foundation Foundation.OrderedMap Foundation.Runs

theorem consecutive_pos (policy : AcceptedPolicy) :
    0 < policy.activationConsecutive ∧ 0 < policy.recoveryConsecutive := by
  have h := policy.accepted
  simp only [IncidentPolicy.rejected, Bool.or_eq_false_iff, beq_eq_false_iff_ne, ne_eq] at h
  omega

def Working.issue (w : Working) : Working :=
  { w with engine := { w.engine with
      nextIncidentId := (w.engine.nextIncidentId + 1) % 2 ^ 64 } }

inductive Held (w : Working) (key : IncidentKey) (netns : NetnsId) : IncidentRecord → Prop
  | found (record : IncidentRecord) (hfind : w.engine.records.find? key = some record) :
    Held w key netns record
  | fresh (hnone : w.engine.records.find? key = none)
    (hroom : w.engine.records.size < w.engine.policy.maxTrackedRecords) :
    Held w key netns ⟨netns, 0, 0, false, .blank⟩

variable (w : Working) (key : IncidentKey) (netns : NetnsId) (evidence : IncidentEvidence)
  (severity : IncidentSeverity) (completeness : IncidentEvidenceCompleteness) in
inductive Judged : Evaluation → Except Working Working → Prop
  | ignored (evaluation : Evaluation)
    (hnone : evaluation ≠ .unavailable → w.engine.records.find? key = none)
    (hfull : evaluation = .bad → w.engine.policy.maxTrackedRecords ≤ w.engine.records.size) :
    Judged evaluation (.ok w)
  | paused (found : IncidentRecord) (hfind : w.engine.records.find? key = some found)
    (hactive : found.active = true) :
    Judged .neutral
      (.ok (w.setRecord key { found with goodStreak := 0 }))
  | dropped (evaluation : Evaluation) (found : IncidentRecord)
    (hmild : evaluation = .neutral ∨ evaluation = .good)
    (hfind : w.engine.records.find? key = some found) (hactive : found.active = false) :
    Judged evaluation (.ok (w.eraseRecord key))
  | recovering (found : IncidentRecord) (hfind : w.engine.records.find? key = some found)
    (hactive : found.active = true)
    (hfew : found.goodStreak + 1 < w.engine.policy.recoveryConsecutive) :
    Judged .good
      (.ok (w.setRecord key { found with badStreak := 0, goodStreak := found.goodStreak + 1 }))
  | recovered (found : IncidentRecord) (hfind : w.engine.records.find? key = some found)
    (hactive : found.active = true)
    (hmany : w.engine.policy.recoveryConsecutive ≤ found.goodStreak + 1) :
    Judged .good
      (.ok (w.resolveRecordLocked key { found with
        badStreak := 0
        goodStreak := found.goodStreak + 1
        observation :=
          appendEvidence w.engine.policy.toIncidentPolicy found.observation evidence }
        evidence.observedAt evidence.monotonicAt evidence.condition))
  | repeated (found : IncidentRecord) (hfind : w.engine.records.find? key = some found)
    (hactive : found.active = true) (hrepeat : repeatsLast found.observation evidence = true) :
    Judged .bad
      (.ok (w.setRecord key { found with
        netns := netns
        goodStreak := 0
        badStreak := min (found.badStreak + 1) w.engine.policy.activationConsecutive }))
  | updated (found : IncidentRecord) (incident : IncidentObservation)
    (hfind : w.engine.records.find? key = some found) (hactive : found.active = true)
    (hfresh : repeatsLast found.observation evidence = false)
    (hincident : incident = Working.updateIncident w.engine.policy.toIncidentPolicy
      found.observation evidence completeness) :
    Judged .bad
      (.ok ((w.setRecord key { found with
        netns := netns
        goodStreak := 0
        badStreak := min (found.badStreak + 1) w.engine.policy.activationConsecutive
        observation := incident }).emit incident))
  | counted (found : IncidentRecord) (hheld : Held w key netns found)
    (hactive : found.active = false)
    (hfew : found.badStreak + 1 < w.engine.policy.activationConsecutive) :
    Judged .bad
      (.ok (w.setRecord key { found with
        netns := netns
        goodStreak := 0
        badStreak := found.badStreak + 1 }))
  | exhausted (found : IncidentRecord) (hheld : Held w key netns found)
    (hactive : found.active = false)
    (hmany : w.engine.policy.activationConsecutive ≤ found.badStreak + 1)
    (hid : w.engine.nextIncidentId = 0) :
    Judged .bad
      (.error (w.setRecord key { found with
        netns := netns
        goodStreak := 0
        badStreak := found.badStreak + 1 }))
  | opened (found : IncidentRecord) (incident : IncidentObservation)
    (hheld : Held w key netns found) (hactive : found.active = false)
    (hmany : w.engine.policy.activationConsecutive ≤ found.badStreak + 1)
    (hid : w.engine.nextIncidentId ≠ 0)
    (hincident : incident = Working.openIncident w.engine.policy.toIncidentPolicy
      w.engine.nextIncidentId key evidence severity completeness) :
    Judged .bad
      (.ok ((w.setRecord key { found with
        netns := netns
        goodStreak := 0
        badStreak := found.badStreak + 1
        observation := incident
        active := true }).issue.emit incident))

variable {w : Working} {result : Except Working Working}

section Judged
variable {key : IncidentKey} {netns : NetnsId} {evidence : IncidentEvidence}
    {severity : IncidentSeverity} {completeness : IncidentEvidenceCompleteness}
    {found : IncidentRecord}
theorem Held.find?_of_active (h : Held w key netns found) (hactive : found.active) :
    w.engine.records.find? key = some found := by
  cases h with
  | found _ hfind => exact hfind
  | fresh _ _ => cases hactive

theorem evaluateBad_judged (hheld : Held w key netns found) :
    Judged w key netns evidence severity completeness .bad
      (w.evaluateBad key netns evidence severity completeness found) := by
  rw [Working.evaluateBad]
  cases hactive : found.active with
  | true =>
    have hfind := hheld.find?_of_active hactive
    simp only [↓reduceIte]
    cases hrepeat : repeatsLast found.observation evidence with
    | true =>
      rw [if_pos rfl, ← hactive]
      exact .repeated found hfind hactive hrepeat
    | false =>
      rw [if_neg Bool.false_ne_true, ← hactive]
      exact .updated found _ hfind hactive hrepeat rfl
  | false =>
    simp only [Bool.false_eq_true, ↓reduceIte]
    by_cases hfew : found.badStreak + 1 < w.engine.policy.activationConsecutive
    · rw [if_pos hfew, ← hactive]
      exact .counted found hheld hactive hfew
    · rw [if_neg hfew]
      have hmany := Nat.le_of_not_lt hfew
      by_cases hid : w.engine.nextIncidentId = 0
      · rw [if_pos hid, ← hactive]
        exact .exhausted found hheld hactive hmany hid
      · rw [if_neg hid]
        exact .opened found _ hheld hactive hmany hid rfl

theorem evaluateLocked_judged {evaluation : Evaluation}
    (h : w.evaluateLocked key netns evaluation evidence severity completeness = result) :
    Judged w key netns evidence severity completeness evaluation result := by
  subst h
  rw [Working.evaluateLocked.eq_def]
  cases hfind : w.engine.records.find? key with
  | none =>
    cases evaluation with
    | unavailable => exact .ignored _ (absurd rfl) (fun h => by cases h)
    | neutral | good => exact .ignored _ (fun _ => hfind) (fun h => by cases h)
    | bad =>
      dsimp only
      split_ifs with hfull
      · exact .ignored _ (fun _ => hfind) (fun _ => hfull)
      · exact evaluateBad_judged (.fresh hfind (Nat.lt_of_not_le hfull))
  | some found =>
    cases evaluation with
    | unavailable => exact .ignored _ (absurd rfl) (fun h => by cases h)
    | neutral =>
      dsimp only
      cases hactive : found.active with
      | true =>
        rw [if_pos rfl, ← hactive]
        exact .paused found hfind hactive
      | false => exact .dropped _ found (.inl rfl) hfind hactive
    | good =>
      dsimp only
      cases hactive : found.active with
      | true =>
        rw [if_pos rfl]
        split_ifs with hmany <;> rw [← hactive]
        · exact .recovered found hfind hactive hmany
        · exact .recovering found hfind hactive (Nat.lt_of_not_le hmany)
      | false => exact .dropped _ found (.inr rfl) hfind hactive
    | bad => exact evaluateBad_judged (.found found hfind)
end Judged

def Ends (P Q : Working → Prop) : Except Working Working → Prop
  | .ok w => P w
  | .error w => Q w

variable {P Q : Working → Prop}
theorem Ends.bind {R : Working → Prop} {first : Except Working Working}
    {next : Working → Except Working Working} (h : Ends P Q first)
    (hnext : ∀ w, P w → Ends R Q (next w)) : Ends R Q (first >>= next) := by
  cases first with
  | error _ => exact h
  | ok w => exact hnext w h

def Exhausted (w : Working) : Prop := w.engine.nextIncidentId = 0

/-- Kept by the resolution of active records, the removal of pending ones and every change of
the authoritative sockets. -/
structure Resolvable (P : Working → Prop) : Prop where
  resolve : ∀ w key record realtime monotonic condition,
    w.engine.records.find? key = some record → record.active = true → P w →
      P (w.resolveRecordLocked key record realtime monotonic condition)
  forget : ∀ w key record, w.engine.records.find? key = some record → record.active = false →
    P w → P (w.eraseRecord key)
  sockets : ∀ w sockets, P w →
    P { w with engine := { w.engine with authoritativeSockets := sockets } }

section Resolvable
theorem Resolvable.resolveSocketLocked (hP : Resolvable P) (h : P w) (id : SocketId)
    (realtime : RealtimeTime) (monotonic : MonotonicTime) (condition : String) :
    P (w.resolveSocketLocked id realtime monotonic condition) := by
  refine run_invariant (fun v key hv => ?_) h _
  rw [Working.resolveSocketRecord]
  split_ifs with hscope
  · cases hfind : v.engine.records.find? key with
    | none => exact hv
    | some record =>
      cases hactive : record.active with
      | true => simpa [hactive] using hP.resolve v key record _ _ _ hfind hactive hv
      | false => simpa [hactive] using hP.forget v key record hfind hactive hv
  · exact hv

theorem Resolvable.resolveSuperseded (hP : Resolvable P) (h : P w) (current : SocketId)
    (realtime : RealtimeTime) (monotonic : MonotonicTime) :
    P (w.resolveSupersededSocketGenerationsLocked current realtime monotonic) := by
  rw [Working.resolveSupersededSocketGenerationsLocked]
  split_ifs with hcookie
  · refine run_invariant (fun v id hv => ?_) h _
    have herased : P (v.eraseAuthoritative id) := hP.sockets v _ hv
    exact hP.resolveSocketLocked herased id realtime monotonic _
  · exact h

theorem Resolvable.processSocket (hP : Resolvable P) (h : P w) (event : NetworkEvent)
    (o : SocketObservation) : P (w.processSocket event o) := by
  rw [Working.processSocket]
  split_ifs with hseen hgone
  · exact hP.sockets _ _ (hP.resolveSuperseded h o.id _ _)
  · have herased : P (w.eraseAuthoritative o.id) := hP.sockets w _ h
    exact hP.resolveSocketLocked herased o.id ..
  · exact h
end Resolvable

section Events
variable {event : NetworkEvent}
theorem payload_netns :
    (∀ o, event.payload = .tcpInfo o → o.id.netns = event.header.netns) ∧
    (∀ o, event.payload = .tcpInterval o → o.id.netns = event.header.netns) ∧
    ∀ o, event.payload = .socketRoute o → o.socketId.netns = event.header.netns := by
  have hp := event.payloadError_eq_none
  refine ⟨fun o h => ?_, fun o h => ?_, fun o h => ?_⟩
  all_goals
    simp only [h, payloadError] at hp
    split_ifs at hp with hbad
    simp only [not_or, not_not] at hbad
    simp [hbad]

theorem socketScope_inode {id : SocketId} (h : id.netns = event.header.netns) :
    (scopeNetns (.socket id)).inode ≠ 0 := by
  rw [scopeNetns, h]
  exact event.netns_inode

/-- The call an event makes, with the payload and the source it is made for. -/
inductive Dispatched (w : Working) (event : NetworkEvent) : Except Working Working → Prop
  | socket (o : SocketObservation) (hpayload : event.payload = .socket o)
    (hsource : event.header.source = .socketTracker) :
    Dispatched w event (.ok (w.processSocket event o))
  | tcpInfo (o : TcpInfoObservation) (hpayload : event.payload = .tcpInfo o)
    (hsource : event.header.source = .socketTracker) :
    Dispatched w event (w.processTcpInfo event o)
  | tcpInterval (o : TcpIntervalMetrics) (hpayload : event.payload = .tcpInterval o)
    (hsource : event.header.source = .socketTracker) :
    Dispatched w event (w.processTcpInterval event o)
  | socketRoute (o : SocketRouteContextObservation) (hpayload : event.payload = .socketRoute o)
    (hsource : event.header.source = .socketTracker) :
    Dispatched w event (w.processSocketRoute event o)
  | uplink (o : UplinkObservation) (hpayload : event.payload = .uplink o)
    (hsource : event.header.source = .netlinkCollector) :
    Dispatched w event (w.processUplink event o)

theorem dispatch_dispatched (h : w.dispatch event = some result) : Dispatched w event result := by
  rw [Working.dispatch] at h
  split at h
  all_goals
    try split_ifs at h with hsource
    cases h
  · exact .socket _ ‹_› hsource
  · exact .tcpInfo _ ‹_› hsource
  · exact .tcpInterval _ ‹_› hsource
  · exact .socketRoute _ ‹_› hsource
  · exact .uplink _ ‹_› hsource

theorem dispatch_rule (hP : Resolvable P)
    (hevaluate : ∀ w key netns evaluation evidence severity completeness, key.scope.fits key.type →
      (scopeNetns key.scope).inode ≠ 0 → P w → Ends P Q (w.evaluateLocked key netns evaluation
      evidence severity completeness)) (h : P w) (hresult : w.dispatch event = some result) :
    Ends P Q result := by
  cases dispatch_dispatched hresult with
  | socket o => exact hP.processSocket h event o
  | tcpInfo _ hpayload =>
    exact hevaluate _ _ _ _ _ _ _ trivial (socketScope_inode (payload_netns.1 _ hpayload))
      (hP.resolveSuperseded h _ _ _)
  | tcpInterval _ hpayload =>
    exact hevaluate _ _ _ _ _ _ _ trivial (socketScope_inode (payload_netns.2.1 _ hpayload))
      (hP.resolveSuperseded h _ _ _)
  | socketRoute _ hpayload =>
    -- a route is judged as missing first, and then as conflicting
    have hscope := socketScope_inode (payload_netns.2.2 _ hpayload)
    refine Ends.bind (hevaluate _ _ _ _ _ _ _ trivial hscope h) fun w' hw' => ?_
    exact hevaluate _ _ _ _ _ _ _ trivial hscope hw'
  | uplink _ => exact hevaluate _ _ _ _ _ _ _ trivial event.netns_inode h
end Events
end IncidentEngine
end WeakNet
