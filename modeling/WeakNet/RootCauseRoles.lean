import WeakNet.RootCauseGrounding

/-! What a step puts on the supporting or contradicting list reports an active incident, a usable
route or uplink, or a probe or Wi-Fi observation that allows a conclusion; what it lacks goes to the
missing list with a capability other than available. Hypotheses only collect, copy and keep such
evidence. -/

namespace WeakNet
open Foundation Foundation.OrderedMap Foundation.Runs List Option

def WifiMeaning.conclusive : WifiMeaning → Bool
  | associated | notAssociated => true
  | missing | stale | mismatch | notApplicable => false

/-- What a supporting or contradicting entry may report, in a state and at the clock readings of
one reconciliation. -/
inductive Backed (engine : RootCauseEngine) (clock : ClockReadings) : RootCauseEvidence → Prop
  | incident (id : ℕ) (o : IncidentObservation) (role : RootCauseEvidenceRole)
      (kind : RootCauseEvidenceKind) (hactive : engine.activeIncidents.find? id = some o) :
      Backed engine clock (incidentEvidence o role kind)
  | route (s : SocketId) (route : Observed SocketRouteContextObservation) (scope : IncidentScope)
      (role : RootCauseEvidenceRole) (kind : RootCauseEvidenceKind) (text : String)
      (hcached : engine.routeEvents.find? s = some route) (husable : routeUsable route = true) :
      Backed engine clock (observationEvidence route.header scope role kind .available text)
  | uplink (netns : NetnsId) (uplink : Observed UplinkObservation) (scope : IncidentScope)
      (role : RootCauseEvidenceRole) (kind : RootCauseEvidenceKind) (text : String)
      (hcached : engine.uplinkEvents.find? netns = some uplink)
      (hselected : uplink.observation.selected = true)
      (husable : usableValidity uplink.header.validity = true) :
      Backed engine clock (observationEvidence uplink.header scope role kind .available text)
  | probe (site : ReadingSite) (s : SocketId) (target : ProbeTargetKind)
      (event : Observed ProbeObservation) (scope : IncidentScope) (role : RootCauseEvidenceRole)
      (kind : RootCauseEvidenceKind) (text : String)
      (hevent : (engine.classifyProbe (clock site s) s.netns target
        ((engine.routeEvents.find? s).map Observed.observation)).event = some event)
      (husable : (engine.classifyProbe (clock site s) s.netns target
        ((engine.routeEvents.find? s).map Observed.observation)).meaning.usableProbeContext = true) :
      Backed engine clock (probeEvidence event scope role kind .available text)
  | wifi (site : ReadingSite) (s : SocketId) (entry : WifiCacheEntry) (scope : IncidentScope)
      (role : RootCauseEvidenceRole) (kind : RootCauseEvidenceKind) (text : String)
      (hentry : (engine.classifyWifi (clock site s) s.netns
        ((engine.routeEvents.find? s).map Observed.observation)).entry = some entry)
      (husable : (engine.classifyWifi (clock site s) s.netns
        ((engine.routeEvents.find? s).map Observed.observation)).meaning.conclusive = true) :
      Backed engine clock (wifiEvidence entry scope role kind text)

structure Findings.Sound (B : RootCauseEvidence → Prop) (f : Findings) : Prop where
  supporting : ∀ e ∈ f.supporting, e.role = .supporting ∧ e.capability = .available ∧ B e
  contradicting : ∀ e ∈ f.contradicting,
    e.role = .contradicting ∧ e.capability = .available ∧ B e
  missing : ∀ e ∈ f.missing, e.role = .missing ∧ e.capability ≠ .available

variable {B : RootCauseEvidence → Prop} {f : Findings} {e : RootCauseEvidence}

namespace Findings
variable {g : Findings}
theorem Sound.empty : Sound B empty := ⟨forall_mem_nil _, forall_mem_nil _, forall_mem_nil _⟩

theorem Sound.support (hrole : e.role = .supporting) (hcap : e.capability = .available) (he : B e) :
    Sound B (support e) := by
  refine ⟨fun e' he' => ?_, forall_mem_nil _, forall_mem_nil _⟩
  rw [mem_singleton.mp he']
  exact ⟨hrole, hcap, he⟩

theorem Sound.contradict (hrole : e.role = .contradicting) (hcap : e.capability = .available)
    (he : B e) : Sound B (contradict e) := by
  refine ⟨forall_mem_nil _, fun e' he' => ?_, forall_mem_nil _⟩
  rw [mem_singleton.mp he']
  exact ⟨hrole, hcap, he⟩

theorem Sound.lack (hrole : e.role = .missing) (hcap : e.capability ≠ .available) :
    Sound B (lack e) := by
  refine ⟨forall_mem_nil _, forall_mem_nil _,
    fun e' he' => ?_⟩
  rw [mem_singleton.mp he']
  exact ⟨hrole, hcap⟩

theorem Sound.append (hf : Sound B f) (hg : Sound B g) : Sound B (f ++ g) :=
  ⟨forall_mem_append.mpr ⟨hf.supporting, hg.supporting⟩,
    forall_mem_append.mpr ⟨hf.contradicting, hg.contradicting⟩,
    forall_mem_append.mpr ⟨hf.missing, hg.missing⟩⟩
end Findings

variable {policy : RootCausePolicy}

namespace RootCauseHypothesisObservation
variable {h : RootCauseHypothesisObservation}
def findings (h : RootCauseHypothesisObservation) : Findings :=
  ⟨h.supportingEvidence, h.contradictingEvidence, h.missingEvidence⟩

theorem mem_foldl_addEvidence {l held : List RootCauseEvidence}
    (he : e ∈ l.foldl (addEvidence policy) held) : e ∈ held ∨ e ∈ l := by
  induction l generalizing held with
  | nil => exact .inl he
  | cons a _ ih =>
    rcases ih he with hheld | hl
    · rw [addEvidence] at hheld
      split_ifs at hheld
      · exact .inl hheld
      · rcases PinnedWindow.mem_push hheld with hheld | rfl
        · exact .inl hheld
        · exact .inr mem_cons_self
    · exact .inr (mem_cons_of_mem a hl)

theorem addFindings_sound (policy : RootCausePolicy) (hh : h.findings.Sound B) (hf : f.Sound B) :
    (h.addFindings policy f).findings.Sound B :=
  ⟨fun e he => (mem_foldl_addEvidence he).elim (hh.supporting e) (hf.supporting e),
    fun e he => (mem_foldl_addEvidence he).elim (hh.contradicting e) (hf.contradicting e),
    fun e he => (mem_foldl_addEvidence he).elim (hh.missing e) (hf.missing e)⟩

theorem derived_sound (type : RootCauseType) (scope : IncidentScope)
    (confidence : HypothesisConfidence) (reason : String) :
    (h.derived type scope confidence reason).findings.Sound B := Findings.Sound.empty
end RootCauseHypothesisObservation

namespace RootCauseEngine
variable {target : ProbeTargetKind}

section Classification
variable {engine : RootCauseEngine} {now : MonotonicTime} {netns : NetnsId}
    {route : Option SocketRouteContextObservation}

/-- A probe is available exactly when its classification allows a conclusion, and then there is
an event to cite. -/
structure ProbeFact.Settled (fact : ProbeFact) : Prop where
  usable : fact.meaning.usableProbeContext = true →
    fact.capability = .available ∧ ∃ event, fact.event = some event
  unusable : fact.meaning.usableProbeContext = false → fact.capability ≠ .available

theorem missing_settled (event : Option (Observed ProbeObservation)) (text : String) :
    ProbeFact.Settled (.missing event text) := ⟨nofun, fun _ => nofun⟩

theorem probeStatusFact_settled (policy : RootCausePolicy) (event : Observed ProbeObservation) :
    ProbeFact.Settled (probeStatusFact policy target event) := by
  have hconclusive : ∀ meaning text, meaning.usableProbeContext →
      ProbeFact.Settled ⟨some event, meaning, .available, text⟩ :=
    fun meaning text husable => ⟨fun _ => ⟨rfl, event, rfl⟩, fun h => by simp [husable] at h⟩
  cases hstatus : event.observation.status with
  | success | timeout =>
    simp only [probeStatusFact, hstatus]
    split_ifs <;> first | exact missing_settled _ _ | exact hconclusive _ _ rfl
  | _ =>
    simp only [probeStatusFact, hstatus]
    exact missing_settled _ _

theorem classifyProbe_settled :
    ProbeFact.Settled (engine.classifyProbe now netns target route) := by
  cases hcached : engine.cachedProbe netns target with
  | none =>
    simp only [classifyProbe, hcached]
    exact missing_settled _ _
  | some =>
    simp only [classifyProbe, hcached]
    split_ifs
    · exact missing_settled _ _
    · exact ⟨by rintro ⟨⟩, fun _ => by rintro ⟨⟩⟩
    · exact probeStatusFact_settled _ _
end Classification

variable {s : SocketId} {scope : IncidentScope} {standIn : Fallbacks}

section Steps
variable {engine : RootCauseEngine} {clock : ClockReadings}
theorem routeFindings_sound :
    (routeFindings (engine.pathFacts clock s) standIn scope).Sound (Backed engine clock) := by
  rw [routeFindings]
  cases hroute : (engine.pathFacts clock s).usableRoute with
  | none => exact .lack rfl nofun
  | some route =>
    obtain ⟨hcached, husable⟩ := filter_eq_some_iff.mp hroute
    exact .support rfl rfl (.route s route scope _ _ _ hcached husable)

theorem uplinkFindings_sound :
    (uplinkFindings (engine.pathFacts clock s) standIn scope).Sound (Backed engine clock) := by
  rw [uplinkFindings]
  cases huplink : (engine.pathFacts clock s).usableUplink with
  | none => exact .lack rfl nofun
  | some uplink =>
    obtain ⟨hcached, husable⟩ := filter_eq_some_iff.mp huplink
    simp only [Bool.and_eq_true] at husable
    exact .support rfl rfl (.uplink s.netns uplink scope _ _ _ hcached husable.1.1 husable.2)

section
variable (event : Observed ProbeObservation)
@[simp] theorem probeEvidence_role (role : RootCauseEvidenceRole) (kind : RootCauseEvidenceKind)
    (capability : RootCauseEvidenceCapability) (text : String) :
    (probeEvidence event scope role kind capability text).role = role := by
  rw [probeEvidence]
  split <;> rfl

@[simp] theorem probeEvidence_capability (role : RootCauseEvidenceRole)
    (kind : RootCauseEvidenceKind) (capability : RootCauseEvidenceCapability) (text : String) :
    (probeEvidence event scope role kind capability text).capability = capability := by
  rw [probeEvidence]
  split <;> rfl
end

theorem probeFindings_sound {fact : ProbeFact} (site : ReadingSite)
    (hfact : fact = engine.classifyProbe (clock site s) s.netns target ((engine.routeEvents.find?
      s).map Observed.observation)) (fallback : Observed ProbeObservation) :
    (probeFindings scope target fact fallback).Sound (Backed engine clock) := by
  have hsettled : ProbeFact.Settled fact := hfact ▸ classifyProbe_settled
  have hbacked : ∀ role kind, fact.meaning.usableProbeContext →
      fact.capability = .available ∧ Backed engine clock (probeEvidence (fact.event.getD fallback)
        scope role kind fact.capability fact.provenance) := by
    intro role kind husable
    obtain ⟨hcapability, event, hevent⟩ := hsettled.usable husable
    refine ⟨hcapability, ?_⟩
    rw [hcapability, hevent, getD_some]
    subst hfact
    exact .probe site s target event scope role kind _ hevent husable
  cases hmeaning : fact.meaning with
  | missing =>
    have hcapability := hsettled.unusable (by rw [hmeaning]; rfl)
    cases target <;> simp only [probeFindings, hmeaning] <;>
      exact .lack (probeEvidence_role ..) (by simpa using hcapability)
  | stale =>
    simp only [probeFindings, hmeaning]
    exact .lack (probeEvidence_role ..) (by simp)
  | _ =>
    have hconclusive := fun role kind => hbacked role kind (by rw [hmeaning]; rfl)
    have hcapability := fun role kind => (@probeEvidence_capability scope
      (fact.event.getD fallback) role kind fact.capability fact.provenance).trans
        (hconclusive role kind).1
    cases target <;> simp only [probeFindings, hmeaning]
    all_goals first
      | exact .support (probeEvidence_role ..) (hcapability ..) (hconclusive ..).2
      | exact .contradict (probeEvidence_role ..) (hcapability ..) (hconclusive ..).2

variable {entry : WifiCacheEntry}
theorem signalFindings_sound
    (hentry : ∀ role kind text, B (wifiEvidence entry scope role kind text)) :
    (signalFindings scope entry).Sound B := by
  rw [signalFindings.eq_def]
  cases entry.signalCategory with
  | none => exact .empty
  | normal | weak | veryWeak => exact .support rfl rfl (hentry ..)

theorem wifi_backed (scope : IncidentScope)
    (hentry : (engine.pathFacts clock s).wifi.entry = some entry)
    (husable : (engine.pathFacts clock s).wifi.meaning.conclusive)
    (role : RootCauseEvidenceRole) (kind : RootCauseEvidenceKind) (text : String) :
    Backed engine clock (wifiEvidence entry scope role kind text) :=
  .wifi .pathWifi s entry scope role kind text hentry husable

theorem wifiUnavailable_sound {facts : PathFacts} :
    (wifiUnavailable facts standIn scope).Sound B := by
  rw [wifiUnavailable.eq_def]
  cases facts.wifi.entry with
  | none | some => exact .lack rfl nofun

theorem wifiFindings_sound :
    (wifiFindings policy (engine.pathFacts clock s) standIn scope).Sound (Backed engine clock) := by
  rw [wifiFindings.eq_def]
  split
  · rename_i entry hentry hmeaning
    have hbacked := wifi_backed scope hentry (by rw [hmeaning]; rfl)
    apply Findings.Sound.append
    · exact .append (.support rfl rfl (hbacked ..)) (signalFindings_sound hbacked)
    · rw [bitrateFindings]
      split_ifs
      · exact .support rfl rfl (hbacked ..)
      · exact .empty
  · rename_i entry hentry hmeaning
    exact .support rfl rfl (wifi_backed scope hentry (by rw [hmeaning]; rfl) ..)
  · exact wifiUnavailable_sound

theorem localWifiFindings_sound (hlocal : (engine.pathFacts clock s).localWifiContext) :
    (localWifiFindings (engine.pathFacts clock s) scope).Sound (Backed engine clock) := by
  have husable : (engine.pathFacts clock s).wifi.meaning.conclusive := by
    simp only [PathFacts.localWifiContext, PathFacts.wifiNotAssociated, PathFacts.wifiWeak,
      PathFacts.wifiAssociatedAs, Bool.or_eq_true, Bool.and_eq_true, beq_iff_eq] at hlocal
    rcases hlocal with h | ⟨h | h, -⟩
    · rw [h]
      rfl
    all_goals
      rw [h.1]
      rfl
  rw [localWifiFindings]
  cases hentry : (engine.pathFacts clock s).wifi.entry with
  | none => exact .empty
  | some =>
    have hbacked := wifi_backed scope hentry husable
    apply Findings.Sound.append
    · exact .support rfl rfl (hbacked ..)
    · split_ifs
      · exact .empty
      · exact .support rfl rfl (hbacked ..)

theorem localGatewayFindings_sound :
    (localGatewayFindings (engine.pathFacts clock s) scope).Sound (Backed engine clock) := by
  rw [localGatewayFindings.eq_def]
  split
  iterate 2
    rename_i event hevent hmeaning
    exact .support (probeEvidence_role ..) (probeEvidence_capability ..)
      (.probe .pathGateway s .gateway event scope _ _ _ hevent
        (congrArg ProbeMeaning.usableProbeContext hmeaning))
  exact .empty

theorem routingFindings_sound {route : Observed SocketRouteContextObservation}
    (hcached : engine.routeEvents.find? s = some route) :
    (routingFindings route (engine.classifyProbe (clock .routingGateway s) s.netns .gateway
      route.observation) scope).Sound (Backed engine clock) := by
  have hcontext : (engine.routeEvents.find? s).map Observed.observation = some route.observation := by
    rw [hcached]
    rfl
  rw [routingFindings]
  apply Findings.Sound.append
  · split_ifs with husable
    · exact .contradict rfl rfl (.route s route scope _ _ _ hcached husable)
    · exact .empty
  · rw [← hcontext]
    split
    case h_4 => exact .empty
    · rename_i event hevent hmeaning
      exact .contradict (probeEvidence_role ..) (probeEvidence_capability ..)
        (.probe .routingGateway s .gateway event scope _ _ _ hevent (by rw [hmeaning]; rfl))
    all_goals
      rename_i event hevent hmeaning
      exact .support (probeEvidence_role ..) (probeEvidence_capability ..)
        (.probe .routingGateway s .gateway event scope _ _ _ hevent (by rw [hmeaning]; rfl))

theorem upstreamWifiFindings_sound :
    (upstreamWifiFindings (engine.upstreamWifi clock s) scope).Sound (Backed engine clock) := by
  rw [upstreamWifiFindings.eq_def]
  split
  · rename_i entry hentry hmeaning
    have hbacked : ∀ role kind text, Backed engine clock (wifiEvidence entry scope role kind text) :=
      fun role kind text => .wifi .upstreamWifi s entry scope role kind text hentry
        (congrArg WifiMeaning.conclusive hmeaning)
    apply Findings.Sound.append
    · exact .support rfl rfl (hbacked ..)
    · split_ifs
      · exact .support rfl rfl (hbacked ..)
      · exact .empty
  · exact .empty
end Steps

section Hypotheses
variable {engine : RootCauseEngine} {clock : ClockReadings} {h : RootCauseHypothesisObservation}
    {key : CandidateKey} {v : RootCauseHypothesisObservation} {t : CandidateTurn}
open RootCauseHypothesisObservation

theorem incidentCandidate_sound (hcandidate : engine.incidentCandidate key = some v) :
    v.findings.Sound (Backed engine clock) := by
  refine incidentCandidate_rule (P := fun v => v.findings.Sound (Backed engine clock))
    (fun found o ho hfound => ?_) (fun c hc => ?_) hcandidate
  · obtain ⟨id, hactive, -⟩ := mem_incidentsAt.mp ho
    have hbefore : (found.getD (.fresh (incidentRule o.type).type o.scope
        (incidentRule o.type).reason o.openedAt)).findings.Sound (Backed engine clock) := by
      cases found with
      | none => exact Findings.Sound.empty
      | some h' => exact hfound h' rfl
    exact addFindings_sound _ hbefore
      (.support rfl rfl (.incident id o .supporting (evidenceKind o.type) hactive))
  · rw [upgrade]
    split_ifs
    all_goals exact hc

section
variable (hh : h.findings.Sound B)
include hh
theorem copied_sound {supporting missing : List RootCauseEvidence}
    (hsupp : supporting ⊆ h.supportingEvidence) (hmiss : missing ⊆ h.missingEvidence) :
    Findings.Sound B ⟨supporting, [], missing⟩ :=
  ⟨fun e he => hh.supporting e (hsupp he), forall_mem_nil _,
    fun e he => hh.missing e (hmiss he)⟩

theorem topologyInsufficient_sound : (topologyInsufficient policy scope h).findings.Sound B :=
  addFindings_sound policy (derived_sound ..)
    (copied_sound hh (fun _ he => he) (fun _ he => (mem_filter.mp he).1))

theorem probeInsufficient_sound : (probeInsufficient policy scope h).findings.Sound B :=
  addFindings_sound policy (derived_sound ..)
    (copied_sound hh (fun _ he => (mem_filter.mp he).1) (fun _ he => (mem_filter.mp he).1))
end

section Extended
variable (hh : h.findings.Sound (Backed engine clock))
include hh
theorem pathHypothesis_sound :
    (pathHypothesis policy (engine.pathFacts clock s) standIn scope h).findings.Sound
      (Backed engine clock) := by
  have hevidence : ∀ confidence, RootCauseHypothesisObservation.findings
      { (((h.addFindings policy (uplinkFindings (engine.pathFacts clock s) standIn
          scope)).addFindings policy (probeFindings scope .gateway (engine.pathFacts clock s).gateway
          standIn.gateway)).addFindings policy (probeFindings scope .remote
          (engine.pathFacts clock s).remote standIn.remote)).addFindings policy
          (wifiFindings policy (engine.pathFacts clock s) standIn scope) with
        confidence := confidence } |>.Sound (Backed engine clock) := by
    intro confidence
    apply addFindings_sound policy _ wifiFindings_sound
    apply addFindings_sound policy _ (probeFindings_sound .pathRemote rfl _)
    apply addFindings_sound policy _ (probeFindings_sound .pathGateway rfl _)
    exact addFindings_sound policy hh uplinkFindings_sound
  exact hevidence _

theorem localLink_sound (hlocal : (engine.pathFacts clock s).localWifiContext) :
    (localLink policy (engine.pathFacts clock s) standIn scope h).findings.Sound
      (Backed engine clock) := by
  refine addFindings_sound policy ?_ (.lack rfl nofun)
  apply addFindings_sound policy _ localGatewayFindings_sound
  apply addFindings_sound policy _ (localWifiFindings_sound hlocal)
  exact addFindings_sound policy (derived_sound ..)
    (copied_sound hh (fun _ he => (mem_filter.mp he).1) (nil_subset _))

theorem routingHypothesis_sound (standIn : Observed SocketRouteContextObservation) :
    (engine.routingHypothesis clock s standIn h).findings.Sound (Backed engine clock) := by
  have hpolicy : Findings.Sound (Backed engine clock) (.lack (observationEvidence standIn.header
      (.socket s) .missing .policyRoutingStateUnavailable .notImplemented
      "policy routing rules are not modeled")) := .lack rfl nofun
  rw [routingHypothesis]
  cases hcached : engine.routeEvents.find? s with
  | none => exact addFindings_sound _ hh hpolicy
  | some =>
    exact addFindings_sound _ (addFindings_sound _ hh hpolicy) (routingFindings_sound hcached)

theorem uplinkHypothesis_sound (netns : NetnsId) :
    (engine.uplinkHypothesis netns h).findings.Sound (Backed engine clock) := by
  rw [uplinkHypothesis]
  cases hcached : engine.uplinkEvents.find? netns with
  | none => exact hh
  | some uplink =>
    simp only
    split_ifs with husable
    · exact addFindings_sound _ hh (.contradict rfl rfl
        (.uplink netns uplink (.netns netns) _ _ _ hcached husable.1 husable.2))
    · exact hh

theorem upstreamHypothesis_sound (fallback : Observed ProbeObservation) :
    (upstreamHypothesis policy (engine.upstreamWifi clock s) fallback scope h).findings.Sound
      (Backed engine clock) := by
  have hlack : ∀ kind text, Findings.Sound (Backed engine clock)
      (.lack (probeEvidence fallback scope .missing kind .notImplemented text)) := by
    intro kind text
    exact .lack (probeEvidence_role ..) (by simp)
  apply addFindings_sound policy (derived_sound ..)
  apply Findings.Sound.append _ upstreamWifiFindings_sound
  apply Findings.Sound.append _ (hlack _ _)
  exact .append (copied_sound hh (fun _ he => he) (nil_subset _)) (hlack _ _)
end Extended

def SoundTurn (engine : RootCauseEngine) (clock : ClockReadings) (t : CandidateTurn) : Prop :=
  t.value.findings.Sound (Backed engine clock) ∧
    (∀ e ∈ t.fresh, e.2.findings.Sound (Backed engine clock)) ∧
    ∀ o ∈ t.pushed, o.findings.Sound (Backed engine clock)

section Turns
variable (hv : v.findings.Sound (Backed engine clock))
include hv
theorem SoundTurn.quiet : SoundTurn engine clock ⟨v, [], []⟩ :=
  ⟨hv, forall_mem_nil _, forall_mem_nil _⟩

theorem pathTurn_sound :
    SoundTurn engine clock (pathTurn policy (engine.pathFacts clock s) standIn scope v) := by
  have hrouted : (v.addFindings policy (routeFindings (engine.pathFacts clock s) standIn
      scope)).findings.Sound (Backed engine clock) := addFindings_sound _ hv routeFindings_sound
  have hpath : (pathHypothesis policy (engine.pathFacts clock s) standIn scope
      (v.addFindings policy (routeFindings (engine.pathFacts clock s) standIn
        scope))).findings.Sound (Backed engine clock) := pathHypothesis_sound hrouted
  refine ⟨hpath, fun e he => ?_, fun o ho => ?_⟩
  · rw [pathTurn] at he
    dsimp only at he
    split_ifs at he with hlocal
    · rw [mem_singleton.mp he]
      exact localLink_sound hpath hlocal
    · cases he
  · rw [pathTurn] at ho
    rcases mem_append.mp ho with ho | ho
    · split_ifs at ho
      · cases ho
      · rw [mem_singleton.mp ho]
        exact topologyInsufficient_sound hrouted
    · split_ifs at ho
      · rw [mem_singleton.mp ho]
        exact probeInsufficient_sound hpath
      · cases ho

theorem contextTurn_sound (hturn : engine.contextTurn clock key v = .ok t) :
    SoundTurn engine clock t := by
  rcases contextTurn_cases hturn with ⟨socket, standIn, rfl, -, rfl⟩ |
    ⟨socket, standIn, rfl, -, rfl⟩ | ⟨-, -, rfl⟩
  · exact .quiet (routingHypothesis_sound hv standIn)
  · exact pathTurn_sound hv
  · exact .quiet hv

theorem uplinkTurn_sound (hturn : engine.uplinkTurn key v = .ok t) :
    SoundTurn engine clock t := by
  rw [uplinkTurn] at hturn
  split at hturn
  · cases hturn
    exact .quiet (uplinkHypothesis_sound hv _)
  · cases hturn
  · cases hturn
    exact .quiet hv

theorem upstreamTurn_sound (hturn : engine.upstreamTurn clock key v = .ok t) :
    SoundTurn engine clock t := by
  rw [upstreamTurn] at hturn
  split at hturn
  · split_ifs at hturn
    · split at hturn
      · cases hturn
        refine ⟨hv, forall_mem_nil _, fun o ho => ?_⟩
        split_ifs at ho
        · cases ho
        · rw [mem_singleton.mp ho]
          exact upstreamHypothesis_sound hv _
      · cases hturn
    · cases hturn
      exact .quiet hv
  · cases hturn
    exact .quiet hv
end Turns

theorem context_sound (hcontext : engine.context clock key = some t) : SoundTurn engine clock t := by
  obtain ⟨c, hc, hturn⟩ := context_eq_some.mp hcontext
  exact contextTurn_sound (incidentCandidate_sound hc) hturn

theorem candidateAt_sound (hcandidate : engine.candidateAt clock key = some v) :
    v.findings.Sound (Backed engine clock) := by
  obtain ⟨type, scope⟩ := key
  cases type with
  | uplinkAvailabilityProblem =>
    simp only [candidateAt, bind_eq_some_iff, map_eq_some_iff] at hcandidate
    obtain ⟨t, ht, t', ht', rfl⟩ := hcandidate
    exact (uplinkTurn_sound (context_sound ht).1 (exists_turn_of_toOption ht')).1
  | localRoutingProblem | networkPathDegradation =>
    simp only [candidateAt, map_eq_some_iff] at hcandidate
    obtain ⟨t, ht, rfl⟩ := hcandidate
    exact (context_sound ht).1
  | remoteOrUpstreamDegradation =>
    simp only [candidateAt, bind_eq_some_iff] at hcandidate
    obtain ⟨t, ht, t', ht', hhead⟩ := hcandidate
    exact (upstreamTurn_sound (context_sound ht).1 (exists_turn_of_toOption ht')).2.2 v
      (mem_of_head? hhead)
  | localLinkSuspected =>
    simp only [candidateAt, bind_eq_some_iff, map_eq_some_iff] at hcandidate
    obtain ⟨t, ht, e, he, rfl⟩ := hcandidate
    exact (context_sound ht).2.1 e (mem_of_head? he)
  | insufficientEvidence =>
    simp only [candidateAt, bind_eq_some_iff] at hcandidate
    obtain ⟨t, ht, hhead⟩ := hcandidate
    exact (context_sound ht).2.2 v (mem_of_head? hhead)
end Hypotheses

section Runs
variable {engine : RootCauseEngine} {w w' : Working} {desired : CandidateMap}
  {h : RootCauseHypothesisObservation}
def Holds (engine : RootCauseEngine) (h : RootCauseHypothesisObservation) : Prop :=
  (∃ k, engine.active.find? k = some h) ∨ h ∈ engine.resolved

def Sourced (engine : RootCauseEngine) (desired : CandidateMap) (f : Findings) : Prop :=
  ∃ h, f = h.findings ∧ (engine.Holds h ∨ ∃ k, desired.find? k = some h)

theorem reconcileAll_sourced {now : RealtimeTime} :
    (∀ w, Working.reconcileAll desired now ⟨engine, []⟩ = .ok w →
      ∀ h, w.engine.Holds h → Sourced engine desired h.findings) ∧
    ∀ w, Working.reconcileAll desired now ⟨engine, []⟩ = .error w →
      ∀ h, w.engine.Holds h → Sourced engine desired h.findings := by
  apply Working.reconcileAll_rule
    (P := fun w => ∀ h, w.engine.Holds h → Sourced engine desired h.findings) _ _
    (fun h hh => ⟨h, rfl, .inl hh⟩)
  · intro w key candidate w' hkey hw hturn
    have hnew : Sourced engine desired candidate.findings := ⟨candidate, rfl, .inr ⟨key, hkey⟩⟩
    cases hturn with
    | kept | full => exact hw
    | updated | opened =>
      intro h hh
      rcases hh with ⟨k, hk⟩ | hresolved
      · simp only [Working.setActive_find?, Working.openHypothesis_find?] at hk
        split_ifs at hk
        · cases hk
          exact hnew
        · exact hw h (.inl ⟨k, hk⟩)
      · exact hw h (.inr hresolved)
  · intro w key candidate w' _ hw hturn
    cases hturn with
    | exhausted => exact hw

theorem resolveAll_sourced {now : RealtimeTime}
    (hw : ∀ h, w.engine.Holds h → Sourced engine desired h.findings) :
    ∀ h, (w.resolveAll desired now).engine.Holds h → Sourced engine desired h.findings := by
  apply Working.resolveAll_rule
    (P := fun w => ∀ h, w.engine.Holds h → Sourced engine desired h.findings) _ hw
  intro w key current _ hcurrent hw h hh
  rcases hh with ⟨k, hk⟩ | hresolved
  · simp only [Working.resolved, find?_erase] at hk
    split_ifs at hk
    exact hw h (.inl ⟨k, hk⟩)
  · rcases mem_append.mp (mem_of_mem_drop hresolved) with hold | hcopy
    · exact hw h (.inr hold)
    · rw [mem_singleton.mp hcopy]
      exact hw current (.inl ⟨key, hcurrent⟩)

theorem step_sourced {delivery : Delivery} (hh : (engine.step delivery).Holds h) :
    (∃ h', engine.Holds h' ∧ h.findings = h'.findings) ∨
      ∃ next, engine.absorb delivery.event = .changed next ∧
        h.findings.Sound (Backed next delivery.clock) := by
  rw [RootCauseEngine.step, process] at hh
  cases habsorb : engine.absorb delivery.event with
  | ignored | unchanged =>
    rw [habsorb] at hh
    exact .inl ⟨h, hh, rfl⟩
  | changed next =>
    have hframe := absorb_frame habsorb
    have hbefore : ∀ h', next.Holds h' → engine.Holds h' := by
      intro h' hh'
      rw [Holds, hframe.active, hframe.resolved] at hh'
      exact hh'
    simp only [habsorb, reconcileLocked] at hh
    cases hbuilt : next.buildCandidatesLocked delivery.clock with
    | error =>
      rw [hbuilt] at hh
      exact .inl ⟨h, hbefore h hh, rfl⟩
    | ok desired =>
      have hsourced : Sourced next desired h.findings := by
        simp only [hbuilt] at hh
        cases hall : Working.reconcileAll desired delivery.event.header.observedAt ⟨next, []⟩ with
        | error w =>
          rw [hall] at hh
          exact reconcileAll_sourced.2 w hall h hh
        | ok w =>
          rw [hall] at hh
          exact resolveAll_sourced (reconcileAll_sourced.1 w hall) h hh
      obtain ⟨h', hsame, hheld | ⟨k, hk⟩⟩ := hsourced
      · exact .inl ⟨h', hbefore h' hheld, hsame⟩
      · refine .inr ⟨next, rfl, ?_⟩
        rw [hsame]
        exact candidateAt_sound ((buildCandidatesLocked_find? hbuilt).symm.trans hk)

def Collected (policy : AcceptedRootCausePolicy) (deliveries : List Delivery) (f : Findings) :
    Prop :=
  ∃ pre delivery next, pre ++ [delivery] <+: deliveries ∧
    (run step (initial policy) pre).absorb delivery.event = .changed next ∧
    f.Sound (Backed next delivery.clock)

theorem collected (policy : AcceptedRootCausePolicy) (deliveries : List Delivery) :
    ∀ h, (run step (initial policy) deliveries).Holds h →
      Collected policy deliveries h.findings := by
  induction deliveries using List.reverseRecOn with
  | nil =>
    intro h hh
    rcases hh with ⟨k, hk⟩ | hresolved
    · cases hk
    · cases hresolved
  | append_singleton pre delivery ih =>
    intro h hh
    rw [run_append] at hh
    rcases step_sourced hh with ⟨h', hheld, hsame⟩ | ⟨next, habsorb, hsound⟩
    · obtain ⟨pre', d, next, hpre, hrest⟩ := ih h' hheld
      rw [hsame]
      exact ⟨pre', d, next, hpre.trans (prefix_append _ _), hrest⟩
    · exact ⟨pre, delivery, next, prefix_rfl, habsorb, hsound⟩

/-- In every state a run reaches, each hypothesis held or resolved has its evidence on the lists
of its roles, an entry is missing exactly when its capability is not available, and every
supporting or contradicting entry reports something that was usable at a reconciliation of the
run. -/
theorem evidence_roles (policy : AcceptedRootCausePolicy) (deliveries : List Delivery)
    {h : RootCauseHypothesisObservation}
    (hh : h ∈ (run step (initial policy) deliveries).listActiveHypotheses ∨
      h ∈ (run step (initial policy) deliveries).recentResolvedHypotheses) :
    (∀ e ∈ h.supportingEvidence, e.role = .supporting) ∧
      (∀ e ∈ h.contradictingEvidence, e.role = .contradicting) ∧
      (∀ e ∈ h.missingEvidence, e.role = .missing) ∧
      (∀ e ∈ h.supportingEvidence ++ h.contradictingEvidence ++ h.missingEvidence,
        e.role = .missing ↔ e.capability ≠ .available) ∧
      ∃ pre delivery next, pre ++ [delivery] <+: deliveries ∧
        (run step (initial policy) pre).absorb delivery.event = .changed next ∧
        ∀ e ∈ h.supportingEvidence ++ h.contradictingEvidence,
          Backed next delivery.clock e := by
  have hholds : (run step (initial policy) deliveries).Holds h := by
    rcases hh with hactive | hresolved
    · obtain ⟨e, he, rfl⟩ := mem_map.mp hactive
      exact .inl ⟨e.1, mem_entries.mp he⟩
    · exact .inr hresolved
  obtain ⟨pre, delivery, next, hpre, habsorb, hsound⟩ := collected policy deliveries h hholds
  refine ⟨fun e he => (hsound.supporting e he).1, fun e he => (hsound.contradicting e he).1,
    fun e he => (hsound.missing e he).1, fun e he => ?_, pre, delivery, next, hpre, habsorb,
    fun e he => ?_⟩
  · rcases mem_append.mp he with he | he
    · rcases mem_append.mp he with he | he
      · obtain ⟨hrole, hcap, -⟩ := hsound.supporting e he
        simp [hrole, hcap]
      · obtain ⟨hrole, hcap, -⟩ := hsound.contradicting e he
        simp [hrole, hcap]
    · obtain ⟨hrole, hcap⟩ := hsound.missing e he
      simp [hrole, hcap]
  · rcases mem_append.mp he with he | he
    · exact (hsound.supporting e he).2.2
    · exact (hsound.contradicting e he).2.2

theorem evidence_roles_sample : ∃ h ∈ (run step (initial .standard)
    [sampleDelivery]).listActiveHypotheses, ∀ e ∈ h.supportingEvidence, e.role = .supporting := by
  obtain ⟨h, hh⟩ := exists_mem_of_length_pos
    (show 0 < (run step (initial .standard) [sampleDelivery]).listActiveHypotheses.length by
      decide +kernel)
  exact ⟨h, hh, (evidence_roles .standard [sampleDelivery] (.inl hh)).1⟩
end Runs
end RootCauseEngine
end WeakNet
