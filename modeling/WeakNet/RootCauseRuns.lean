import WeakNet.RootCauseDiagnosis

/-! What one turn of each loop of `reconcileLocked` can do, and the runs of the engine, recorded
with the completed reconciliations and everything emitted. A run ends when the occurrence numbers
are exhausted. -/

namespace WeakNet
open Foundation Foundation.OrderedMap Foundation.Runs List

structure Diagnosis where
  type : RootCauseType
  scope : IncidentScope
  confidence : HypothesisConfidence
  supporting : List RootCauseEvidence
  contradicting : List RootCauseEvidence
  missing : List RootCauseEvidence
  reason : String

def RootCauseHypothesisObservation.diagnosis (h : RootCauseHypothesisObservation) : Diagnosis :=
  ⟨h.type, h.scope, h.confidence, h.supportingEvidence, h.contradictingEvidence,
    h.missingEvidence, h.reasonCode⟩

theorem sameContent_congr {a b b' : RootCauseHypothesisObservation}
    (h : b.diagnosis = b'.diagnosis) : sameContent a b = sameContent a b' := by
  obtain ⟨htype, hscope, hconf, hsupp, hcontra, hmissing, hreason⟩ := Diagnosis.mk.inj h
  rw [sameContent, sameContent, htype, hscope, hconf, hsupp, hcontra, hmissing, hreason]

namespace RootCauseEngine
structure SameCaches (a b : RootCauseEngine) : Prop where
  policy : a.policy = b.policy
  activeIncidents : a.activeIncidents = b.activeIncidents
  routeEvents : a.routeEvents = b.routeEvents
  uplinkEvents : a.uplinkEvents = b.uplinkEvents
  probeEvents : a.probeEvents = b.probeEvents
  wifiEvents : a.wifiEvents = b.wifiEvents

theorem SameCaches.refl (a : RootCauseEngine) : SameCaches a a := ⟨rfl, rfl, rfl, rfl, rfl, rfl⟩

theorem SameCaches.trans {a b c : RootCauseEngine} (h : SameCaches a b) (h' : SameCaches b c) :
    SameCaches a c :=
  ⟨h.policy.trans h'.policy, h.activeIncidents.trans h'.activeIncidents,
    h.routeEvents.trans h'.routeEvents, h.uplinkEvents.trans h'.uplinkEvents,
    h.probeEvents.trans h'.probeEvents, h.wifiEvents.trans h'.wifiEvents⟩

namespace Working
variable {now : RealtimeTime} {desired : CandidateMap} {w w' : Working} {key : CandidateKey}
  {candidate : RootCauseHypothesisObservation}
@[simp] theorem setActive_find? (k : CandidateKey) (h : RootCauseHypothesisObservation) :
    (w.setActive key h).engine.active.find? k =
      if key = k then some h else w.engine.active.find? k :=
  find?_insert _ _ _ _

def opened (w : Working) (key : CandidateKey) (candidate : RootCauseHypothesisObservation) :
    RootCauseHypothesisObservation :=
  { candidate with id := ⟨key.type, key.scope, w.engine.nextOccurrence⟩, state := .active }

def updated (now : RealtimeTime) (current candidate : RootCauseHypothesisObservation) :
    RootCauseHypothesisObservation :=
  { continued current candidate with lastUpdatedAt := now }

@[simp] theorem openHypothesis_find? (k : CandidateKey) :
    (w.openHypothesis key candidate).engine.active.find? k =
      if key = k then some (w.opened key candidate) else w.engine.active.find? k :=
  find?_insert _ _ _ _

inductive Turned (now : RealtimeTime) (w : Working) (key : CandidateKey)
    (candidate : RootCauseHypothesisObservation) : Except Working Working → Prop
  | kept (current : RootCauseHypothesisObservation)
      (hcurrent : w.engine.active.find? key = some current)
      (hsame : sameContent current candidate = true) : Turned now w key candidate (.ok w)
  | updated (current : RootCauseHypothesisObservation)
      (hcurrent : w.engine.active.find? key = some current)
      (hnew : sameContent current candidate = false) :
      Turned now w key candidate (.ok (w.setActive key (updated now current candidate)))
  | full (hnone : w.engine.active.find? key = none)
      (hfull : w.engine.policy.maxActiveHypotheses ≤ w.engine.active.size) :
      Turned now w key candidate (.ok w)
  | opened (hnone : w.engine.active.find? key = none)
      (hroom : w.engine.active.size < w.engine.policy.maxActiveHypotheses)
      (hnext : w.engine.nextOccurrence ≠ 0) :
      Turned now w key candidate (.ok (w.openHypothesis key candidate))
  | exhausted (hnone : w.engine.active.find? key = none)
      (hroom : w.engine.active.size < w.engine.policy.maxActiveHypotheses)
      (hzero : w.engine.nextOccurrence = 0) : Turned now w key candidate (.error w)

theorem reconcileCandidate_turned (now : RealtimeTime) (w : Working) (key : CandidateKey)
    (candidate : RootCauseHypothesisObservation) :
    Turned now w key candidate (reconcileCandidate now w (key, candidate)) := by
  rw [reconcileCandidate]
  cases hfind : w.engine.active.find? key with
  | none =>
    simp only
    split_ifs with hfull hzero
    · exact .full hfind hfull
    · exact .exhausted hfind (Nat.lt_of_not_le hfull) hzero
    · exact .opened hfind (Nat.lt_of_not_le hfull) hzero
  | some current =>
    have hcontent : sameContent current (continued current candidate) =
        sameContent current candidate := sameContent_congr rfl
    simp only [hcontent]
    split_ifs with hsame
    · exact .kept current hfind hsame
    · exact .updated current hfind (by simpa using hsame)

variable (desired now w) in
/-- A property of the state and of the candidates already passed, whose keys are different, holds
after the first loop if every turn keeps it; one that every failing turn establishes holds where
the loop stops. -/
theorem reconcileAll_progress
    {P : List (CandidateKey × RootCauseHypothesisObservation) → Working → Prop}
    {Q : Working → Prop}
    (hok : ∀ pre key candidate w w', (∀ e ∈ pre, e.1 ≠ key) → desired.find? key = some candidate →
      P pre w → Turned now w key candidate (.ok w') → P (pre ++ [(key, candidate)]) w')
    (herror : ∀ pre key candidate w w', (∀ e ∈ pre, e.1 ≠ key) →
      desired.find? key = some candidate → P pre w → Turned now w key candidate (.error w') → Q w')
    (hw : P [] w) :
    (∀ w', reconcileAll desired now w = .ok w' → P desired.entries w') ∧
      ∀ w', reconcileAll desired now w = .error w' → Q w' := by
  have hsplit : ∀ {pre : List (CandidateKey × RootCauseHypothesisObservation)} {a post},
      desired.entries = pre ++ a :: post →
      (∀ e ∈ pre, e.1 ≠ a.1) ∧ desired.find? a.1 = some a.2 := by
    intro pre a post h
    have hsorted := desired.sorted
    rw [h, pairwise_append] at hsorted
    refine ⟨fun e he => (hsorted.2.2 e he a mem_cons_self).ne, ?_⟩
    rw [← mem_entries, h]
    exact mem_append_right _ mem_cons_self
  apply foldlM_progress _ _ hw <;> intro pre a post s s' h hs hturn
  · have hcase := reconcileCandidate_turned now s a.1 a.2
    rw [hturn] at hcase
    exact hok pre a.1 a.2 s s' (hsplit h).1 (hsplit h).2 hs hcase
  · have hcase := reconcileCandidate_turned now s a.1 a.2
    rw [hturn] at hcase
    exact herror pre a.1 a.2 s s' (hsplit h).1 (hsplit h).2 hs hcase

theorem reconcileAll_rule {P Q : Working → Prop}
    (hok : ∀ w key candidate w', desired.find? key = some candidate → P w →
      Turned now w key candidate (.ok w') → P w')
    (herror : ∀ w key candidate w', desired.find? key = some candidate → P w →
      Turned now w key candidate (.error w') → Q w') (hw : P w) :
    (∀ w', reconcileAll desired now w = .ok w' → P w') ∧
      ∀ w', reconcileAll desired now w = .error w' → Q w' :=
  reconcileAll_progress now desired w (P := fun _ => P)
    (fun _ key candidate w w' _ => hok w key candidate w')
    (fun _ key candidate w w' _ => herror w key candidate w') hw

def resolved (w : Working) (now : RealtimeTime) (key : CandidateKey)
    (h : RootCauseHypothesisObservation) : Working :=
  let recent := w.engine.resolved ++ [resolvedCopy h now]
  { engine := { w.engine with
      active := w.engine.active.erase key
      resolved := recent.drop (recent.length - w.engine.policy.maxRecentResolved) }
    emissions := w.emissions ++ [resolvedCopy h now] }

theorem resolveUnwanted_eq (e : CandidateKey × RootCauseHypothesisObservation) :
    resolveUnwanted desired now w e = if desired.contains e.1 then w else w.resolved now e.1 e.2 :=
  rfl

theorem resolveAll_rule {P : Working → Prop}
    (hturn : ∀ w key h, desired.contains key = false → w.engine.active.find? key = some h → P w →
      P (w.resolved now key h)) (hw : P w) : P (resolveAll desired now w) := by
  apply foldl_entries_rule (fun w : Working => w.engine.active) (resolveUnwanted desired now)
    _ _ hw
  · intro w e k hk
    rw [resolveUnwanted_eq]
    split_ifs
    · rfl
    · simp [resolved, find?_erase, if_neg hk]
  · intro w e hfind hw
    rw [resolveUnwanted_eq]
    split_ifs with hwanted
    · exact hw
    · exact hturn w e.1 e.2 (Bool.eq_false_iff.mpr hwanted) hfind hw

theorem Turned.caches {r : Except Working Working} (h : Turned now w key candidate r) :
    ∀ w', r = .ok w' ∨ r = .error w' → SameCaches w.engine w'.engine := by
  intro w' hr
  cases h with
  | kept | full =>
    cases hr.resolve_right nofun
    exact SameCaches.refl _
  | updated | opened =>
    cases hr.resolve_right nofun
    exact ⟨rfl, rfl, rfl, rfl, rfl, rfl⟩
  | exhausted =>
    cases hr.resolve_left nofun
    exact SameCaches.refl _

theorem reconcileAll_caches :
    (∀ w', reconcileAll desired now w = .ok w' → SameCaches w.engine w'.engine) ∧
      ∀ w', reconcileAll desired now w = .error w' → SameCaches w.engine w'.engine := by
  apply reconcileAll_rule (P := fun w' => SameCaches w.engine w'.engine) _ _ (SameCaches.refl _) <;>
    intro w₁ k c w₂ _ hw hturn
  · exact hw.trans (hturn.caches w₂ (.inl rfl))
  · exact hw.trans (hturn.caches w₂ (.inr rfl))

variable (desired now w) in
theorem resolveAll_caches : SameCaches w.engine (resolveAll desired now w).engine := by
  apply resolveAll_rule (P := fun w' => SameCaches w.engine w'.engine) _ (SameCaches.refl _)
  intro w₁ k h _ _ hw
  exact hw.trans ⟨rfl, rfl, rfl, rfl, rfl, rfl⟩

theorem resolveAll_nextOccurrence :
    (resolveAll desired now w).engine.nextOccurrence = w.engine.nextOccurrence := by
  apply resolveAll_rule (P := fun w' => w'.engine.nextOccurrence = w.engine.nextOccurrence) _ rfl
  exact fun _ _ _ _ _ hw => hw

theorem resolveAll_find? (k : CandidateKey) : (resolveAll desired now w).engine.active.find? k =
    if desired.contains k then w.engine.active.find? k else none := by
  have hrest : ∀ (l : List (CandidateKey × RootCauseHypothesisObservation)) (w : Working),
      (l.foldl (resolveUnwanted desired now) w).engine.active.find? k =
        if desired.contains k = false ∧ k ∈ l.map Prod.fst then none
        else w.engine.active.find? k := by
    intro l
    induction l with
    | nil => simp
    | cons e _ ih =>
      intro w
      rw [foldl_cons, ih, resolveUnwanted_eq]
      simp only [map_cons, mem_cons]
      by_cases hwanted : desired.contains k
      · by_cases he : desired.contains e.1
        · simp [hwanted, he]
        · have hne : k ≠ e.1 := fun h => he (h ▸ hwanted)
          simp [hwanted, he, resolved, hne]
      · by_cases hk : k = e.1
        · subst hk
          simp [hwanted, resolved]
        · by_cases he : desired.contains e.1
          · simp only [he, ↓reduceIte, hk, false_or]
          · simp only [he, Bool.false_eq_true, ↓reduceIte, hk, false_or, resolved, find?_erase]
  rw [resolveAll, hrest]
  by_cases hwanted : desired.contains k
  · simp [hwanted]
  · cases hfind : w.engine.active.find? k with
    | none => simp
    | some h =>
      have hmem : k ∈ w.engine.active.entries.map Prod.fst :=
        mem_map.mpr ⟨(k, h), mem_entries.mpr hfind, rfl⟩
      simp [hwanted, hmem]

def Follows (h candidate : RootCauseHypothesisObservation) : Prop :=
  sameContent h candidate = true ∨ h.diagnosis = candidate.diagnosis

theorem Turned.follows (h : Turned now w key candidate (.ok w')) :
    (∀ held, w'.engine.active.find? key = some held → Follows held candidate) ∧
      ∀ k, k ≠ key → w'.engine.active.find? k = w.engine.active.find? k := by
  cases h with
  | kept _ hcurrent hsame =>
    refine ⟨fun held hheld => .inl ?_, fun k _ => rfl⟩
    cases hcurrent.symm.trans hheld
    exact hsame
  | full hnone =>
    refine ⟨fun held hheld => ?_, fun k _ => rfl⟩
    rw [hnone] at hheld
    cases hheld
  | updated | opened =>
    simp only [setActive_find?, openHypothesis_find?]
    refine ⟨fun held hheld => .inr ?_, fun k hk => if_neg hk.symm⟩
    rw [if_pos trivial] at hheld
    cases hheld
    rfl

theorem reconcileAll_follows (hall : reconcileAll desired now w = .ok w') {k : CandidateKey}
    {c held : RootCauseHypothesisObservation} (hc : desired.find? k = some c)
    (hheld : w'.engine.active.find? k = some held) : Follows held c := by
  -- a later turn is for another key, so what one turn leaves stays
  have hdone := (reconcileAll_progress now desired w
    (P := fun pre w => ∀ e ∈ pre, ∀ held, w.engine.active.find? e.1 = some held →
      Follows held e.2) (Q := fun _ => True) (fun pre key candidate w₁ w₂ hfresh _ hpre hturn => ?_)
    (fun _ _ _ _ _ _ _ _ _ => trivial) (forall_mem_nil _)).1 w' hall
  · exact hdone (k, c) (mem_entries.mpr hc) held hheld
  · obtain ⟨hown, hframe⟩ := hturn.follows
    intro e he held hheld
    rcases mem_append.mp he with he | he
    · rw [hframe e.1 (hfresh e he)] at hheld
      exact hpre e he held hheld
    · rw [mem_singleton.mp he] at hheld ⊢
      exact hown held hheld
end Working

def ProcessOutcome.emissions : ProcessOutcome → List RootCauseHypothesisObservation
  | .threw _ => []
  | .done _ emissions => emissions

def ProcessOutcome.exhausted : ProcessOutcome → Bool
  | .threw .occurrenceExhausted => true
  | _ => false

structure Moment where
  engine : RootCauseEngine
  clock : ClockReadings
  desired : CandidateMap
  built : engine.buildCandidatesLocked clock = .ok desired

def Moment.of (engine : RootCauseEngine) (clock : ClockReadings) : Option Moment :=
  match hbuilt : engine.buildCandidatesLocked clock with
  | .ok desired => some ⟨engine, clock, desired, hbuilt⟩
  | .error _ => none

variable {engine next : RootCauseEngine} {clock : ClockReadings} {delivery : Delivery}
theorem Moment.of_ok {desired : CandidateMap}
    (h : engine.buildCandidatesLocked clock = .ok desired) :
    Moment.of engine clock = some ⟨engine, clock, desired, h⟩ := by
  rw [Moment.of]
  split
  · rename_i hbuilt
    cases h.symm.trans hbuilt
    rfl
  · rename_i hbuilt
    rw [h] at hbuilt
    cases hbuilt

theorem Moment.of_error {error : RootCauseError}
    (h : engine.buildCandidatesLocked clock = .error error) : Moment.of engine clock = none := by
  rw [Moment.of]
  split
  · rename_i hbuilt
    rw [h] at hbuilt
    cases hbuilt
  · rfl

def moment (engine : RootCauseEngine) (delivery : Delivery) : Option Moment :=
  match engine.absorb delivery.event with
  | .changed engine => Moment.of engine delivery.clock
  | _ => none

theorem moment_eq_some {μ : Moment} (h : moment engine delivery = some μ) :
    engine.absorb delivery.event = .changed μ.engine ∧ μ.clock = delivery.clock := by
  rw [moment] at h
  split at h
  · rename_i next habsorb
    cases hbuilt : next.buildCandidatesLocked delivery.clock with
    | error =>
      rw [Moment.of_error hbuilt] at h
      cases h
    | ok =>
      rw [Moment.of_ok hbuilt] at h
      cases h
      exact ⟨habsorb, rfl⟩
  · cases h

structure History where
  engine : RootCauseEngine
  moments : List Moment
  log : List RootCauseHypothesisObservation
  exhausted : Bool

def History.step (g : History) (delivery : Delivery) : History :=
  if g.exhausted then g
  else
    let result := g.engine.process delivery.event delivery.clock
    { engine := result.1
      moments := g.moments ++ (moment g.engine delivery).toList
      log := g.log ++ result.2.emissions
      exhausted := result.2.exhausted }

def history (policy : AcceptedRootCausePolicy) (deliveries : List Delivery) : History :=
  run History.step ⟨initial policy, [], [], false⟩ deliveries

inductive Stepped (g : History) (delivery : Delivery) : History → Prop
  | quiet (habsorb : ∀ engine, g.engine.absorb delivery.event ≠ .changed engine) :
      Stepped g delivery g
  | threw (engine : RootCauseEngine) (error : RootCauseError)
      (habsorb : g.engine.absorb delivery.event = .changed engine)
      (hbuilt : engine.buildCandidatesLocked delivery.clock = .error error) :
      Stepped g delivery { g with engine := engine }
  | reconciled (μ : Moment) (w : Working)
      (habsorb : g.engine.absorb delivery.event = .changed μ.engine)
      (hclock : μ.clock = delivery.clock)
      (hall : Working.reconcileAll μ.desired delivery.event.header.observedAt ⟨μ.engine, []⟩ =
        .ok w) :
      Stepped g delivery
        { engine := (w.resolveAll μ.desired delivery.event.header.observedAt).engine
          moments := g.moments ++ [μ]
          log := g.log ++ (w.resolveAll μ.desired delivery.event.header.observedAt).emissions
          exhausted := false }

theorem History.step_stepped {g : History} (hstep : (g.step delivery).exhausted = false) :
    Stepped g delivery (g.step delivery) := by
  have hgoing : g.exhausted = false := by
    by_contra h
    rw [Bool.not_eq_false] at h
    rw [History.step, if_pos h, h] at hstep
    cases hstep
  obtain ⟨engine, moments, log, exhausted⟩ := g
  simp only at hgoing
  subst hgoing
  rw [History.step, if_neg (by simp)] at hstep ⊢
  cases habsorb : engine.absorb delivery.event with
  | ignored | unchanged =>
    simp only [process, habsorb, moment, ProcessOutcome.emissions, ProcessOutcome.exhausted,
      Option.toList_none, append_nil]
    exact .quiet (fun e => by rw [habsorb]; exact nofun)
  | changed next =>
    simp only [process, habsorb, moment] at hstep ⊢
    cases hbuilt : next.buildCandidatesLocked delivery.clock with
    | error error =>
      rw [Moment.of_error hbuilt]
      simp only [reconcileLocked, hbuilt] at hstep ⊢
      rw [hstep]
      simp only [ProcessOutcome.emissions, Option.toList_none, append_nil]
      exact .threw next error habsorb hbuilt
    | ok desired =>
      rw [Moment.of_ok hbuilt]
      simp only [reconcileLocked, hbuilt] at hstep ⊢
      cases hall : Working.reconcileAll desired delivery.event.header.observedAt ⟨next, []⟩ with
      | error =>
        rw [hall] at hstep
        cases hstep
      | ok w =>
        simp only [ProcessOutcome.emissions, ProcessOutcome.exhausted, Option.toList_some]
        exact .reconciled ⟨next, delivery.clock, desired, hbuilt⟩ w habsorb rfl hall

theorem history_rule {P : History → Prop} (policy : AcceptedRootCausePolicy)
    (deliveries : List Delivery) (hstart : P ⟨initial policy, [], [], false⟩)
    (hstep : ∀ g delivery g', delivery ∈ deliveries → P g → Stepped g delivery g' → P g')
    (hgoing : (history policy deliveries).exhausted = false) : P (history policy deliveries) := by
  induction deliveries using List.reverseRecOn with
  | nil => exact hstart
  | append_singleton pre delivery ih =>
    have hlast : history policy (pre ++ [delivery]) = (history policy pre).step delivery := by
      rw [history, run_append]
      rfl
    rw [hlast] at hgoing ⊢
    have hpre : (history policy pre).exhausted = false := by
      by_contra h
      rw [Bool.not_eq_false] at h
      rw [History.step, if_pos h, h] at hgoing
      cases hgoing
    have hbefore := ih (fun g d g' hd => hstep g d g' (mem_append_left _ hd)) hpre
    exact hstep _ delivery _ (mem_append_right _ mem_cons_self) hbefore
      (History.step_stepped hgoing)

def issued (engine : RootCauseEngine) : ℕ := (engine.nextOccurrence + (2 ^ 64 - 1)) % 2 ^ 64

theorem buildCandidatesLocked_error {error : RootCauseError}
    (h : engine.buildCandidatesLocked clock = .error error) :
    error ≠ .occurrenceExhausted := by
  have hbuilt := buildCandidatesLocked_built engine clock
  rw [h] at hbuilt
  rintro rfl
  cases hbuilt with
  | context _ hthrow =>
    rw [contextTurn] at hthrow
    split at hthrow
    · split at hthrow <;> cases hthrow
    · cases hthrow
    · split at hthrow <;> cases hthrow
    · cases hthrow
  | uplink _ _ hthrow =>
    rw [uplinkTurn] at hthrow
    split at hthrow <;> cases hthrow
  | upstream _ _ _ hthrow =>
    rw [upstreamTurn] at hthrow
    split at hthrow
    · split_ifs at hthrow
      split at hthrow <;> cases hthrow
    · cases hthrow

theorem issued_of_exhausted {policy : AcceptedRootCausePolicy} {deliveries : List Delivery}
    (h : (history policy deliveries).exhausted) :
    (history policy deliveries).engine.issued = 2 ^ 64 - 1 := by
  have hzero : (history policy deliveries).exhausted →
      (history policy deliveries).engine.nextOccurrence = 0 := by
    apply run_invariant (P := fun g : History => g.exhausted → g.engine.nextOccurrence = 0)
    · intro g delivery hg
      rw [History.step]
      split_ifs with hexhausted
      · exact hg
      · intro hout
        simp only [process] at hout ⊢
        cases habsorb : g.engine.absorb delivery.event with
        | ignored | unchanged =>
          rw [habsorb] at hout
          cases hout
        | changed next =>
          simp only [habsorb, reconcileLocked] at hout ⊢
          cases hbuilt : next.buildCandidatesLocked delivery.clock with
          | error error =>
            simp only [hbuilt] at hout
            cases error with
            | occurrenceExhausted => exact absurd rfl (buildCandidatesLocked_error hbuilt)
            | badVariantAccess | invalidEvent => cases hout
          | ok desired =>
            simp only [hbuilt] at hout ⊢
            cases hall : Working.reconcileAll desired delivery.event.header.observedAt
                ⟨next, []⟩ with
            | ok =>
              rw [hall] at hout
              cases hout
            | error w =>
              apply (Working.reconcileAll_rule (P := fun _ => True)
                (Q := fun w => w.engine.nextOccurrence = 0) (fun _ _ _ _ _ _ _ => trivial) _
                trivial).2 w hall
              intro w₁ k c w₂ _ _ hturn
              cases hturn with
              | exhausted _ _ hzero => exact hzero
    · exact nofun
  rw [issued, hzero h]
  omega

inductive Cached (engine : RootCauseEngine) (event : NetworkEvent) : RootCauseEngine → Prop
  | opened (o : IncidentObservation) (hpayload : event.payload = .incident o)
    (hsource : event.header.source = .incidentEngine) (hstate : o.state = .active) :
    Cached engine event { engine with
      activeIncidents := (engine.activeIncidents.insert o.id o).trim engine.policy.cacheBound }
  | closed (o : IncidentObservation) (hpayload : event.payload = .incident o)
    (hsource : event.header.source = .incidentEngine) (hstate : o.state = .resolved) :
    Cached engine event { engine with
      activeIncidents := (engine.activeIncidents.erase o.id).trim engine.policy.cacheBound }
  | route (context : SocketRouteContextObservation) (hpayload : event.payload = .socketRoute context)
    (hsource : event.header.source = .socketTracker) :
    Cached engine event { engine with
      routeEvents := (engine.routeEvents.insert context.socketId ⟨event.header, context⟩).trim
        engine.policy.cacheBound }
  | uplink (o : UplinkObservation) (hpayload : event.payload = .uplink o)
    (events : OrderedMap NetnsId (Observed UplinkObservation)) :
    Cached engine event { engine with uplinkEvents := events }
  | probe (o : ProbeObservation) (hpayload : event.payload = .probe o)
    (events : OrderedMap NetnsId ProbeCache) :
    Cached engine event { engine with probeEvents := events }
  | wifi (o : WifiObservation) (hpayload : event.payload = .wifi o)
    (events : OrderedMap WifiCacheKey WifiCacheEntry) :
    Cached engine event { engine with wifiEvents := events }

theorem absorb_cached {event : NetworkEvent} (h : engine.absorb event = .changed next) :
    Cached engine event next := by
  rw [absorb] at h
  split at h
  next incident hpayload hsource =>
    rw [absorbIncident] at h
    split at h
    next hstate =>
      cases h
      exact .opened incident hpayload hsource hstate
    next hstate =>
      cases h
      exact .closed incident hpayload hsource hstate
    next => cases h
  next context hpayload hsource =>
    cases h
    exact .route context hpayload hsource
  next uplink hpayload hsource =>
    cases h
    exact .uplink uplink hpayload _
  next observation hpayload hsource =>
    rw [absorbProbe] at h
    split_ifs at h
    cases h
    exact .probe observation hpayload _
  next observation hpayload hsource =>
    rw [absorbWifi] at h
    split at h
    · cases h
      exact .wifi observation hpayload _
    · dsimp only at h
      split_ifs at h
      cases h
      exact .wifi observation hpayload _
  next => cases h

/-- An event changes the caches only; an incident held afterwards was held before or is the
active one of the event. -/
structure AbsorbFrame (engine : RootCauseEngine) (event : NetworkEvent) (next : RootCauseEngine) :
    Prop where
  policy : next.policy = engine.policy
  active : next.active = engine.active
  resolved : next.resolved = engine.resolved
  nextOccurrence : next.nextOccurrence = engine.nextOccurrence
  incidents : ∀ id o, next.activeIncidents.find? id = some o →
    engine.activeIncidents.find? id = some o ∨
      event.payload = .incident o ∧ event.header.source = .incidentEngine ∧ o.id = id ∧
        o.state = .active

theorem absorb_frame {event : NetworkEvent} (h : engine.absorb event = .changed next) :
    AbsorbFrame engine event next := by
  cases absorb_cached h with
  | opened _ hpayload hsource hstate =>
    refine ⟨rfl, rfl, rfl, rfl, fun id o' ho => ?_⟩
    have hfind := find?_of_trim ho
    rw [find?_insert] at hfind
    split_ifs at hfind with hid
    · cases hfind
      exact .inr ⟨hpayload, hsource, hid, hstate⟩
    · exact .inl hfind
  | closed =>
    refine ⟨rfl, rfl, rfl, rfl, fun id o' ho => .inl ?_⟩
    have hfind := find?_of_trim ho
    rw [find?_erase] at hfind
    split_ifs at hfind
    exact hfind
  | route | uplink | probe | wifi => exact ⟨rfl, rfl, rfl, rfl, fun id o ho => .inl ho⟩

theorem process_caches (habsorb : engine.absorb delivery.event = .changed next) :
    SameCaches next (engine.step delivery) := by
  rw [RootCauseEngine.step, process, habsorb]
  simp only [reconcileLocked]
  cases hbuilt : next.buildCandidatesLocked delivery.clock with
  | error _ => exact SameCaches.refl ..
  | ok desired =>
    simp only
    cases hall : Working.reconcileAll desired delivery.event.header.observedAt ⟨next, []⟩ with
    | error w => exact Working.reconcileAll_caches.2 w hall
    | ok w =>
      exact (Working.reconcileAll_caches.1 w hall).trans
        (Working.resolveAll_caches delivery.event.header.observedAt desired w)

theorem step_quiet (habsorb : ∀ next, engine.absorb delivery.event ≠ .changed next) :
    engine.step delivery = engine := by
  rw [RootCauseEngine.step, process]
  cases h : engine.absorb delivery.event with
  | ignored | unchanged => rfl
  | changed next => exact absurd h (habsorb next)

theorem step_caches {P : RootCauseEngine → Prop} (hsame : ∀ {a b}, SameCaches a b → P a → P b)
    (h : P engine) (habsorb : ∀ next, engine.absorb delivery.event = .changed next → P next) :
    P (engine.step delivery) := by
  by_cases hchanged : ∃ next, engine.absorb delivery.event = .changed next
  · obtain ⟨next, hnext⟩ := hchanged
    exact hsame (process_caches hnext) (habsorb next hnext)
  · rw [step_quiet fun next hnext => hchanged ⟨next, hnext⟩]
    exact h
end RootCauseEngine
end WeakNet
