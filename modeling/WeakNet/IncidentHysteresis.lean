import WeakNet.IncidentLifecycle
import WeakNet.Foundation.Hysteresis

/-! Read at one key, the records of the engine are the state of a two-threshold detector, and an
evaluation of the key is one sample, an unavailable one none at all. -/

namespace WeakNet.IncidentEngine
open Foundation Foundation.OrderedMap Foundation.Runs Foundation.Hysteresis Working

/-- The calls through which an event changes the records. -/
inductive Call where
  | evaluate (key : IncidentKey) (netns : NetnsId) (evaluation : Evaluation)
      (evidence : IncidentEvidence) (severity : IncidentSeverity)
      (completeness : IncidentEvidenceCompleteness)
  | resolveSocket (id : SocketId) (realtime : RealtimeTime) (monotonic : MonotonicTime)
      (condition : String)

def Call.apply (w : Working) : Call → Except Working Working
  | .evaluate key netns evaluation evidence severity completeness =>
    w.evaluateLocked key netns evaluation evidence severity completeness
  | .resolveSocket id realtime monotonic condition =>
    .ok (w.resolveSocketLocked id realtime monotonic condition)

def Call.samples (key : IncidentKey) : Call → List Evaluation
  | .evaluate k _ evaluation _ _ _ => if k = key then [evaluation] else []
  | .resolveSocket .. => []

def isBad (e : Evaluation) : Bool := e = .bad
def isGood (e : Evaluation) : Bool := e = .good

def phaseOf : Option IncidentRecord → Phase
  | none => .idle 0
  | some record => if record.active then .active record.goodStreak else .idle record.badStreak

def phaseAt (w : Working) (key : IncidentKey) : Phase := phaseOf (w.engine.records.find? key)

def isActive (w : Working) (key : IncidentKey) : Bool :=
  match w.engine.records.find? key with
  | some record => record.active
  | none => false

theorem isActive_eq (w : Working) (key : IncidentKey) :
    isActive w key = (phaseAt w key).isActive := by
  simp only [isActive, phaseAt, phaseOf]
  cases w.engine.records.find? key with
  | none => rfl
  | some record =>
    cases hactive : record.active with
    | true | false => simp [hactive, Phase.isActive]

section Step
variable {w w' : Working} {key k : IncidentKey}
theorem phaseAt_setRecord (w : Working) (key : IncidentKey) (record : IncidentRecord) :
    phaseAt (w.setRecord key record) k =
      if k = key then phaseOf (some record) else phaseAt w k := by
  by_cases hk : k = key
  · simp [phaseAt, setRecord, hk]
  · simp [phaseAt, setRecord, hk, Ne.symm hk]

theorem phaseAt_eraseRecord (w : Working) (key : IncidentKey) :
    phaseAt (w.eraseRecord key) k = if k = key then .idle 0 else phaseAt w k := by
  by_cases hk : k = key
  · simp [phaseAt, eraseRecord, hk, phaseOf]
  · simp [phaseAt, eraseRecord, hk]

theorem phaseAt_resolveRecordLocked (w : Working) (key : IncidentKey) (record : IncidentRecord)
    (realtime : RealtimeTime) (monotonic : MonotonicTime) (condition : String) :
    phaseAt (w.resolveRecordLocked key record realtime monotonic condition) k =
      if k = key then .idle 0 else phaseAt w k :=
  phaseAt_eraseRecord _ key

variable {netns : NetnsId} {evaluation : Evaluation} {evidence : IncidentEvidence}
  {severity : IncidentSeverity} {completeness : IncidentEvidenceCompleteness}
  {found : IncidentRecord}
theorem Held.phaseAt (h : Held w key netns found) : phaseAt w key = phaseOf (some found) := by
  cases h with
  | found _ hfind => rw [IncidentEngine.phaseAt, hfind]
  | fresh hnone =>
    rw [IncidentEngine.phaseAt, hnone]
    rfl

theorem phaseAt_of_active (hfind : w.engine.records.find? key = some found)
    (hactive : found.active) : phaseAt w key = .active found.goodStreak := by
  simp [phaseAt, hfind, phaseOf, hactive]

theorem Held.phaseAt_of_pending (h : Held w key netns found) (hactive : found.active = false) :
    IncidentEngine.phaseAt w key = .idle found.badStreak := by
  rw [h.phaseAt]
  simp [phaseOf, hactive]

theorem phaseAt_evaluateLocked
    (hok : w.evaluateLocked key netns evaluation evidence severity completeness = .ok w')
    (hspace : w.engine.records.size < w.engine.policy.maxTrackedRecords) :
    phaseAt w' key = if evaluation = .unavailable then phaseAt w key else
      next isBad isGood w.engine.policy.activationConsecutive
        w.engine.policy.recoveryConsecutive (phaseAt w key) evaluation := by
  cases evaluateLocked_judged hok with
  | ignored _ hnone hfull =>
    by_cases hun : evaluation = .unavailable
    · rw [if_pos hun]
    · have hbad : evaluation ≠ .bad := fun hbad => by
        have := hfull hbad
        omega
      have hphase : phaseAt w key = .idle 0 := by simp [phaseAt, hnone hun, phaseOf]
      rw [if_neg hun, hphase]
      simp [next, isBad, hbad]
  | paused found hfind hactive | repeated found hfind hactive hrepeat =>
    rw [phaseAt_setRecord, phaseAt_of_active hfind hactive]
    simp [phaseOf, hactive, next, isGood]
  | dropped _ found hmild hfind hactive =>
    have hheld : Held w key netns found := .found found hfind
    rw [phaseAt_eraseRecord, hheld.phaseAt_of_pending hactive]
    rcases hmild with rfl | rfl
    all_goals simp [next, isBad]
  | recovering _ hfind hactive hfew =>
    rw [phaseAt_setRecord, phaseAt_of_active hfind hactive]
    simp [phaseOf, hactive, next, isGood, Nat.not_le.mpr hfew]
  | recovered _ hfind hactive hmany =>
    rw [phaseAt_resolveRecordLocked, phaseAt_of_active hfind hactive]
    simp [next, isGood, hmany]
  | updated _ _ hfind hactive _ _ =>
    rw [phaseAt_of_active hfind hactive]
    refine (phaseAt_setRecord w key _).trans ?_
    simp [phaseOf, hactive, next, isGood]
  | counted _ hheld hactive hfew =>
    rw [phaseAt_setRecord, hheld.phaseAt_of_pending hactive]
    simp [phaseOf, hactive, next, isBad, Nat.not_le.mpr hfew]
  | opened _ _ hheld hactive hmany _ _ =>
    rw [hheld.phaseAt_of_pending hactive]
    refine (phaseAt_setRecord w key _).trans ?_
    simp [phaseOf, next, isBad, hmany]

structure Touches (S : IncidentKey → Prop) (w w' : Working) : Prop where
  policy : w'.engine.policy = w.engine.policy
  elsewhere : ∀ k, ¬ S k → w'.engine.records.find? k = w.engine.records.find? k
  exhausted : Exhausted w → Exhausted w'

theorem touches_setRecord (w : Working) (key : IncidentKey) (record : IncidentRecord) :
    Touches (· = key) w (w.setRecord key record) := by
  refine ⟨rfl, fun k hk => ?_, id⟩
  simp [setRecord, Ne.symm hk]

theorem touches_eraseRecord (w : Working) (key : IncidentKey) :
    Touches (· = key) w (w.eraseRecord key) := by
  refine ⟨rfl, fun k hk => ?_, id⟩
  simp [eraseRecord, hk]

theorem touches_resolveRecordLocked (w : Working) (key : IncidentKey) (record : IncidentRecord)
    (realtime : RealtimeTime) (monotonic : MonotonicTime) (condition : String) :
    Touches (· = key) w (w.resolveRecordLocked key record realtime monotonic condition) := by
  refine ⟨rfl, fun k hk => ?_, id⟩
  simp [resolveRecordLocked, eraseRecord, emit, hk]

theorem Touches.refl (S : IncidentKey → Prop) (w : Working) : Touches S w w :=
  ⟨rfl, fun _ _ => rfl, id⟩

variable (w key netns evaluation evidence severity completeness) in
theorem ends_evaluateLocked :
    Ends (Touches (· = key) w) (fun w' => Exhausted w' ∧ Touches (· = key) w w')
      (w.evaluateLocked key netns evaluation evidence severity completeness) := by
  generalize hresult : w.evaluateLocked .. = result
  cases evaluateLocked_evaluated hresult with
  | silent => exact Touches.refl _ w
  | counted record => exact touches_setRecord ..
  | forgotten => exact touches_eraseRecord ..
  | updated _ record =>
    exact ⟨rfl, (touches_setRecord w key record).elsewhere, id⟩
  | recovered _ record => exact touches_resolveRecordLocked ..
  | opened record _ hnone hid =>
    exact ⟨rfl, (touches_setRecord w key record).elsewhere, fun hnone => absurd hnone hid⟩
  | exhausted record _ hid => exact ⟨hid, touches_setRecord w key record⟩

theorem touches_resolveSocketRecord (id : SocketId) (realtime : RealtimeTime)
    (monotonic : MonotonicTime) (condition : String) (w : Working) (key : IncidentKey) :
    Touches (fun k => k.scope = .socket id) w
      (w.resolveSocketRecord id realtime monotonic condition key) := by
  rw [resolveSocketRecord]
  split_ifs with hscope
  · have hkey : ∀ k : IncidentKey, ¬ k.scope = .socket id → ¬ k = key := by
      intro k hk he
      exact hk (he ▸ hscope)
    cases hfind : w.engine.records.find? key with
    | none => exact Touches.refl _ w
    | some record =>
      dsimp only
      split_ifs with hactive
      · have htouch := touches_resolveRecordLocked w key record realtime monotonic condition
        exact ⟨htouch.policy, fun k hk => htouch.elsewhere k (hkey k hk), htouch.exhausted⟩
      · have htouch := touches_eraseRecord w key
        exact ⟨htouch.policy, fun k hk => htouch.elsewhere k (hkey k hk), htouch.exhausted⟩
  · exact Touches.refl _ w

theorem touches_resolveSocketLocked (w : Working) (id : SocketId) (realtime : RealtimeTime)
    (monotonic : MonotonicTime) (condition : String) :
    Touches (fun k => k.scope = .socket id) w
      (w.resolveSocketLocked id realtime monotonic condition) := by
  refine run_invariant (P := fun v => Touches (fun k => k.scope = .socket id) w v) ?_
    (Touches.refl _ w) _
  intro v key hv
  have htouch := touches_resolveSocketRecord id realtime monotonic condition v key
  exact ⟨htouch.policy.trans hv.policy,
    fun k hk => (htouch.elsewhere k hk).trans (hv.elsewhere k hk),
    fun h => htouch.exhausted (hv.exhausted h)⟩
end Step

/-- The call leaves the scope of the key alone, and an evaluation of the key finds fewer
records than may be tracked. -/
def Call.Spares (key : IncidentKey) (w : Working) : Call → Prop
  | .evaluate k .. => k = key → w.engine.records.size < w.engine.policy.maxTrackedRecords
  | .resolveSocket id .. => key.scope ≠ .socket id

def applyAll : Working → List Call → Except Working Working
  | w, [] => .ok w
  | w, call :: calls =>
    match call.apply w with
    | .ok w' => applyAll w' calls
    | .error w' => .error w'

def Undisturbed (key : IncidentKey) : Working → List Call → Prop
  | _, [] => True
  | w, call :: calls =>
    call.Spares key w ∧ match call.apply w with
      | .ok w' => Undisturbed key w' calls
      | .error _ => True

def history (key : IncidentKey) (calls : List Call) : List Evaluation :=
  (calls.flatMap (Call.samples key)).filter (· ≠ .unavailable)

theorem Call.ends_apply {key : IncidentKey} {w : Working} {call : Call}
    (hspares : call.Spares key w) :
    Ends (fun w' => w'.engine.policy = w.engine.policy ∧
      phaseAt w' key = run (next isBad isGood w.engine.policy.activationConsecutive
        w.engine.policy.recoveryConsecutive) (phaseAt w key) (history key [call]))
      Exhausted (call.apply w) := by
  cases call with
  | resolveSocket id realtime monotonic condition =>
    have htouch := touches_resolveSocketLocked w id realtime monotonic condition
    refine ⟨htouch.policy, ?_⟩
    simp [phaseAt, htouch.elsewhere key hspares, history, Call.samples]
  | evaluate k netns evaluation evidence severity completeness =>
    have hends := ends_evaluateLocked w k netns evaluation evidence severity completeness
    change Ends _ Exhausted (w.evaluateLocked k netns evaluation evidence severity completeness)
    cases hok : w.evaluateLocked k netns evaluation evidence severity completeness with
    | error =>
      rw [hok] at hends
      exact hends.1
    | ok =>
      rw [hok] at hends
      refine ⟨hends.policy, ?_⟩
      by_cases hk : k = key
      · subst hk
        rw [phaseAt_evaluateLocked hok (hspares rfl)]
        by_cases hun : evaluation = .unavailable
        all_goals simp [hun, history, Call.samples]
      · simp [phaseAt, hends.elsewhere key (Ne.symm hk), history, Call.samples, hk]

theorem ends_applyAll {key : IncidentKey} {w : Working} {calls : List Call}
    (h : Undisturbed key w calls) :
    Ends (fun w' => phaseAt w' key = run (next isBad isGood
        w.engine.policy.activationConsecutive w.engine.policy.recoveryConsecutive)
        (phaseAt w key) (history key calls))
      Exhausted (applyAll w calls) := by
  induction calls generalizing w with
  | nil => simp [applyAll, Ends, history]
  | cons call calls ih =>
    have hcall := Call.ends_apply h.1
    rw [applyAll]
    cases happ : call.apply w with
    | error =>
      rw [happ] at hcall
      exact hcall
    | ok =>
      rw [happ] at hcall
      obtain ⟨hpolicy, hphase⟩ := hcall
      have hnext := h.2
      rw [happ] at hnext
      have hrest := ih hnext
      have hsplit : history key (call :: calls) = history key [call] ++ history key calls := by
        simp [history]
      rw [hpolicy, hphase, ← run_append, ← hsplit] at hrest
      exact hrest

/-- After any calls that spare the key, its incident is active exactly when at some position
of the history, unavailable evaluations left out, the last `activationConsecutive` are bad and
after it no `recoveryConsecutive` in a row are good; the calls end unless all ids are used. An
unavailable evaluation changes nothing at all. -/
theorem hysteresis_exact (policy : AcceptedPolicy) (key : IncidentKey) (calls : List Call)
    (h : Undisturbed key ⟨initial policy, []⟩ calls) :
    Ends (fun w => isActive w key = true ↔
        ∃ before later, history key calls = before ++ later ∧
          (∃ u v, before = u ++ v ∧ v.length = policy.activationConsecutive ∧
            ∀ x ∈ v, x = Evaluation.bad) ∧
          ¬ ∃ u v z, later = u ++ v ++ z ∧ v.length = policy.recoveryConsecutive ∧
            ∀ x ∈ v, x = Evaluation.good)
      (fun w => w.engine.issued = 2 ^ 64 - 1) (applyAll ⟨initial policy, []⟩ calls) ∧
    ∀ w netns evidence severity completeness,
      Working.evaluateLocked w key netns .unavailable evidence severity completeness = .ok w := by
  refine ⟨?_, fun _ _ _ _ _ => rfl⟩
  have hends := ends_applyAll h
  obtain ⟨hrise, hfall⟩ := consecutive_pos policy
  have hdisjoint : ∀ e, isBad e → isGood e = false := by
    intro e
    cases e <;> decide
  cases happ : applyAll ⟨initial policy, []⟩ calls with
  | error w =>
    rw [happ] at hends
    have hzero : w.engine.nextIncidentId = 0 := hends
    change w.engine.issued = 2 ^ 64 - 1
    rw [issued, hzero]
    norm_num
  | ok w =>
    rw [happ] at hends
    have hphase : phaseAt w key = detect isBad isGood policy.activationConsecutive
        policy.recoveryConsecutive (history key calls) := hends
    change isActive w key ↔ _
    rw [isActive_eq, hphase, detect_isActive_iff hdisjoint hrise hfall]
    simp [Raised, EndsWith, HasStreak, isBad, isGood]

def sampleEvidence : IncidentEvidence where
  sourceKind := .uplinkObservation
  source := .netlinkCollector
  scope := .netns ⟨4, 1⟩
  observedAt := 0
  monotonicAt := 0
  value := none
  unit := .none
  validity := .valid
  condition := ""

def sampleCall (evaluation : Evaluation) : Call :=
  .evaluate ⟨.uplinkUnavailable, .netns ⟨4, 1⟩⟩ ⟨4, 1⟩ evaluation sampleEvidence .warning .complete

theorem hysteresis_exact_sample :
    ∃ w, applyAll ⟨initial ⟨.standard, IncidentPolicy.standard_accepted⟩, []⟩
        [sampleCall .bad, sampleCall .unavailable, sampleCall .bad, sampleCall .good] = .ok w ∧
      isActive w ⟨.uplinkUnavailable, .netns ⟨4, 1⟩⟩ = true := by
  obtain ⟨w, hw⟩ : ∃ w, applyAll ⟨initial ⟨.standard, IncidentPolicy.standard_accepted⟩, []⟩
      [sampleCall .bad, sampleCall .unavailable, sampleCall .bad, sampleCall .good] = .ok w :=
    ⟨_, rfl⟩
  have hexact := (hysteresis_exact ⟨.standard, IncidentPolicy.standard_accepted⟩
    ⟨.uplinkUnavailable, .netns ⟨4, 1⟩⟩
    [sampleCall .bad, sampleCall .unavailable, sampleCall .bad, sampleCall .good]
    (by refine ⟨fun _ => ?_, fun _ => ?_, fun _ => ?_, fun _ => ?_, trivial⟩ <;> decide)).1
  rw [hw] at hexact
  refine ⟨w, hw, hexact.mpr ⟨[.bad, .bad], [.good], rfl, ⟨[], [.bad, .bad], rfl, rfl, by simp⟩, ?_⟩⟩
  intro hstreak
  obtain ⟨u, v, z, heq, hlen, -⟩ := hstreak
  have htotal := congrArg List.length heq
  simp only [List.length_append, List.length_cons, List.length_nil] at htotal
  change v.length = 2 at hlen
  omega
end WeakNet.IncidentEngine
