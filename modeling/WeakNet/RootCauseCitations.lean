import WeakNet.RootCauseLifecycle

/-! The supporting evidence of a path candidate is a pinned window: the incidents of the socket in
the order of their ids, then the context in the order of the source. No two entries are equal, so
what context displaces is known exactly. The hypotheses derived from a path candidate copy from this
window and add to it. -/

namespace WeakNet
open RootCauseEvidenceKind PathFacts CandidateKey Bool
open Foundation Foundation.OrderedMap Foundation.Runs Foundation.PinnedWindow List RootCauseEvidence

def RootCauseEvidenceKind.slot : RootCauseEvidenceKind → ℕ
  | modeledRouteAvailable => 0
  | usableUplinkAvailable => 1
  | gatewayProbeReachable | gatewayProbeHighRtt | gatewayProbeTimeout => 2
  | remoteProbeHighRtt | remoteProbeTimeout => 3
  | wifiAssociated | wifiNotAssociated => 4
  | wifiSignalNormal | wifiSignalWeak | wifiSignalVeryWeak => 5
  | wifiTxBitrateLow => 6
  | _ => 7

section Window
variable {policy : RootCausePolicy} {held xs : List RootCauseEvidence} {a b : RootCauseEvidence}
theorem same_of_kind_ne (h : a.kind ≠ b.kind) : a.same b = false := by
  simp [same, h]

theorem same_of_incident_ne (h : a.incident ≠ b.incident) : a.same b = false := by
  simp [same, h]

theorem same_of_provenance_ne (h : a.provenance ≠ b.provenance) : a.same b = false := by
  simp [same, h]

theorem foldl_addEvidence (hheld : ∀ a ∈ held, ∀ b ∈ xs, a.same b = false)
    (hxs : xs.Pairwise (fun a b => a.same b = false)) :
    xs.foldl (addEvidence policy) held = xs.foldl (push policy.maxEvidencePerHypothesis) held := by
  induction xs generalizing held with
  | nil => rfl
  | cons x _ ih =>
    obtain ⟨hfirst, hrest⟩ := pairwise_cons.mp hxs
    have hnone : held.any (fun a => a.same x) = false := by
      rw [any_eq_false]
      intro a ha
      rw [hheld a ha x mem_cons_self]
      exact nofun
    have hpush : addEvidence policy held x = push policy.maxEvidencePerHypothesis held x := by
      rw [addEvidence, hnone]
      rfl
    rw [foldl_cons, foldl_cons, hpush]
    apply ih _ hrest
    intro a ha b hb
    rcases mem_push ha with hold | rfl
    · exact hheld a hold b (mem_cons_of_mem x hb)
    · exact hfirst b hb
end Window

def citation (o : IncidentObservation) : RootCauseEvidence :=
  incidentEvidence o .supporting (evidenceKind o.type)

structure Context (ctx : List RootCauseEvidence) : Prop where
  spread : ctx.Pairwise (fun a b => a.kind.slot ≠ b.kind.slot)
  slot : ∀ e ∈ ctx, e.kind.slot < 7
  incident : ∀ e ∈ ctx, e.incident = none

variable {ctx : List RootCauseEvidence} {e : RootCauseEvidence}
theorem Context.not_incident (h : Context ctx) (he : e ∈ ctx) : e.isPathIncident = false := by
  have hslot := h.slot e he
  rw [isPathIncident]
  cases hkind : e.kind <;> first | rfl | (rw [hkind] at hslot; exact absurd hslot (by decide))

variable {l : List IncidentObservation}

section Citing
variable {policy : RootCausePolicy}
theorem citations_spread (hids : (l.map IncidentObservation.id).Nodup) :
    (l.map citation).Pairwise (fun a b => a.same b = false) := by
  rw [pairwise_map]
  exact (pairwise_map.mp hids).imp fun h => same_of_incident_ne (fun he => h (Option.some.inj he))

theorem citing_spread (hids : (l.map IncidentObservation.id).Nodup) (hctx : Context ctx) :
    (l.map citation ++ ctx).Pairwise (fun a b => a.same b = false) := by
  rw [pairwise_append]
  refine ⟨citations_spread hids, hctx.spread.imp fun h => same_of_kind_ne fun hk => h (by rw [hk]),
    fun a ha b hb => same_of_incident_ne ?_⟩
  obtain ⟨_, -, rfl⟩ := mem_map.mp ha
  rw [hctx.incident b hb]
  exact nofun

theorem window_of_citations (hn : 2 ≤ policy.maxEvidencePerHypothesis)
    (hc : ctx.length + 1 ≤ policy.maxEvidencePerHypothesis) (hl : l ≠ [])
    (hids : (l.map IncidentObservation.id).Nodup) (hctx : Context ctx) :
    (l.map citation ++ ctx).foldl (addEvidence policy) [] =
      (kept policy.maxEvidencePerHypothesis l ctx.length).map citation ++ ctx := by
  have hzero : ctx.length + 1 - policy.maxEvidencePerHypothesis = 0 := by omega
  rw [foldl_addEvidence (forall_mem_nil _) (citing_spread hids hctx),
    foldl_push_append hn (by simpa using hl), hzero, drop_zero, kept_map]
end Citing

structure Ranged (lo hi : ℕ) (ctx : List RootCauseEvidence) : Prop where
  increasing : ctx.Pairwise (fun a b => a.kind.slot < b.kind.slot)
  slot : ∀ e ∈ ctx, lo ≤ e.kind.slot ∧ e.kind.slot < hi
  incident : ∀ e ∈ ctx, e.incident = none
  length : ctx.length + lo ≤ hi

section Ranges
variable {lo mid hi : ℕ} {later : List RootCauseEvidence}
theorem Ranged.nil (h : lo ≤ hi) : Ranged lo hi [] := by
  refine ⟨.nil, forall_mem_nil _, forall_mem_nil _, ?_⟩
  rw [length_nil]
  omega

theorem Ranged.single (hslot : e.kind.slot = lo) (hincident : e.incident = none) :
    Ranged lo (lo + 1) [e] := by
  refine ⟨pairwise_singleton _ _, forall_mem_singleton.mpr ?_, forall_mem_singleton.mpr hincident,
    ?_⟩
  · omega
  · rw [length_singleton]
    omega

theorem Ranged.append (h : Ranged lo mid ctx) (h' : Ranged mid hi later) :
    Ranged lo hi (ctx ++ later) := by
  have hlen := h.length
  have hlen' := h'.length
  refine ⟨pairwise_append.mpr ⟨h.increasing, h'.increasing, fun a ha b hb => ?_⟩,
    fun e he => ?_, fun e he => ?_, ?_⟩
  · have hlow := (h.slot a ha).2
    have hhigh := (h'.slot b hb).1
    omega
  · rcases mem_append.mp he with he | he
    · have hslot := h.slot e he
      omega
    · have hslot := h'.slot e he
      omega
  · exact forall_mem_append.mpr ⟨h.incident, h'.incident⟩ e he
  · rw [length_append]
    omega

theorem Ranged.context (h : Ranged lo hi ctx) (hhi : hi ≤ 7) : Context ctx :=
  ⟨h.increasing.imp fun hlt => hlt.ne, fun e he => (h.slot e he).2.trans_le hhi, h.incident⟩
end Ranges

def wifiSupport (policy : RootCausePolicy) (wifi : WifiFact) : ℕ :=
  match wifi.entry, wifi.meaning with
  | some entry, .associated => 1 + (if entry.signalCategory = .none then 0 else 1) +
      if entry.event.observation.txBitrateKbps.any (fun rate => rate < policy.wifiTxBitrateLowKbps)
      then 1 else 0
  | some _, .notAssociated => 1
  | _, _ => 0

def PathFacts.support (policy : RootCausePolicy) (facts : PathFacts) : ℕ :=
  (if facts.usableRoute.isSome then 1 else 0) + (if facts.usableUplink.isSome then 1 else 0) +
  (if facts.gateway.meaning.usableProbeContext then 1 else 0) +
  (if facts.remote.meaning = .highRtt ∨ facts.remote.meaning = .timeout then 1 else 0) +
  wifiSupport policy facts.wifi

section PathContext
variable (policy : RootCausePolicy) (facts : PathFacts) (standIn : Fallbacks)
  (scope : IncidentScope)
def pathContext : List RootCauseEvidence :=
  (routeFindings facts standIn scope).supporting ++ (uplinkFindings facts standIn scope).supporting ++
  (probeFindings scope .gateway facts.gateway standIn.gateway).supporting ++
  (probeFindings scope .remote facts.remote standIn.remote).supporting ++
  (wifiFindings policy facts standIn scope).supporting

theorem routeFindings_supporting : Ranged 0 1 (routeFindings facts standIn scope).supporting ∧
    (routeFindings facts standIn scope).supporting.length =
      if facts.usableRoute.isSome then 1 else 0 := by
  rw [routeFindings]
  cases facts.usableRoute with
  | none => exact ⟨.nil (Nat.zero_le 1), rfl⟩
  | some => exact ⟨.single rfl rfl, rfl⟩

theorem uplinkFindings_supporting : Ranged 1 2 (uplinkFindings facts standIn scope).supporting ∧
    (uplinkFindings facts standIn scope).supporting.length =
      if facts.usableUplink.isSome then 1 else 0 := by
  rw [uplinkFindings]
  cases facts.usableUplink with
  | none => exact ⟨.nil (Nat.le_succ 1), rfl⟩
  | some => exact ⟨.single rfl rfl, rfl⟩

variable {scope} in
theorem probeEvidence_fields (event : Observed ProbeObservation) (role : RootCauseEvidenceRole)
    (kind : RootCauseEvidenceKind) (capability : RootCauseEvidenceCapability) (text : String) :
    (probeEvidence event scope role kind capability text).kind = kind ∧
      (probeEvidence event scope role kind capability text).incident = none := by
  rw [probeEvidence]
  split <;> exact ⟨rfl, rfl⟩

variable {scope} in
theorem probeEvidence_ranged (event : Observed ProbeObservation) (role : RootCauseEvidenceRole)
    (kind : RootCauseEvidenceKind) (capability : RootCauseEvidenceCapability) (text : String)
    {lo : ℕ} (hslot : kind.slot = lo) :
    Ranged lo (lo + 1) [probeEvidence event scope role kind capability text] := by
  refine .single ?_ (probeEvidence_fields ..).2
  rw [(probeEvidence_fields ..).1]
  exact hslot

theorem gatewayFindings_supporting (fact : ProbeFact) (fallback : Observed ProbeObservation) :
    Ranged 2 3 (probeFindings scope .gateway fact fallback).supporting ∧
      (probeFindings scope .gateway fact fallback).supporting.length =
        if fact.meaning.usableProbeContext then 1 else 0 := by
  cases hmeaning : fact.meaning with
  | missing | stale =>
    simp only [probeFindings, hmeaning]
    exact ⟨.nil (by omega), rfl⟩
  | _ =>
    simp only [probeFindings, hmeaning]
    exact ⟨probeEvidence_ranged _ _ _ _ _ rfl, rfl⟩

theorem remoteFindings_supporting (fact : ProbeFact) (fallback : Observed ProbeObservation) :
    Ranged 3 4 (probeFindings scope .remote fact fallback).supporting ∧
      (probeFindings scope .remote fact fallback).supporting.length =
        if fact.meaning = .highRtt ∨ fact.meaning = .timeout then 1 else 0 := by
  cases hmeaning : fact.meaning with
  | highRtt | timeout =>
    simp only [probeFindings, hmeaning]
    exact ⟨probeEvidence_ranged _ _ _ _ _ rfl, rfl⟩
  | _ =>
    simp only [probeFindings, hmeaning]
    exact ⟨.nil (by omega), rfl⟩

theorem signalFindings_supporting (entry : WifiCacheEntry) :
    Ranged 5 6 (signalFindings scope entry).supporting ∧
      (signalFindings scope entry).supporting.length =
        if entry.signalCategory = .none then 0 else 1 := by
  cases hcategory : entry.signalCategory with
  | none =>
    simp only [signalFindings, hcategory]
    exact ⟨.nil (by omega), rfl⟩
  | _ =>
    simp only [signalFindings, hcategory]
    exact ⟨.single rfl rfl, rfl⟩

theorem bitrateFindings_supporting (entry : WifiCacheEntry) :
    Ranged 6 7 (bitrateFindings policy scope entry).supporting ∧
      (bitrateFindings policy scope entry).supporting.length =
        if entry.event.observation.txBitrateKbps.any (fun rate => rate < policy.wifiTxBitrateLowKbps)
        then 1 else 0 := by
  rw [bitrateFindings]
  split_ifs
  · exact ⟨.single rfl rfl, rfl⟩
  · exact ⟨.nil (by omega), rfl⟩

theorem wifiFindings_supporting : Ranged 4 7 (wifiFindings policy facts standIn scope).supporting ∧
    (wifiFindings policy facts standIn scope).supporting.length = wifiSupport policy facts.wifi := by
  have hnone : (wifiUnavailable facts standIn scope).supporting = [] := by
    rw [wifiUnavailable.eq_def]
    split <;> rfl
  rw [wifiFindings.eq_def]
  split
  · rename_i entry hentry hmeaning
    have hassociated : Ranged 4 5 [wifiEvidence entry scope .supporting .wifiAssociated
        facts.wifi.provenance] := .single rfl rfl
    obtain ⟨hsignal, hsignals⟩ := signalFindings_supporting scope entry
    obtain ⟨hbitrate, hbitrates⟩ := bitrateFindings_supporting policy scope entry
    refine ⟨(hassociated.append hsignal).append hbitrate, ?_⟩
    change ([_] ++ (signalFindings scope entry).supporting ++
      (bitrateFindings policy scope entry).supporting).length = _
    rw [length_append, length_append, hsignals, hbitrates, wifiSupport.eq_def, hentry, hmeaning]
    rfl
  · rename_i entry hentry hmeaning
    have hfailed : Ranged 4 5 [wifiEvidence entry scope .supporting .wifiNotAssociated
        facts.wifi.provenance] := .single rfl rfl
    have hwider := hfailed.append (.nil (by omega : 5 ≤ 7))
    rw [append_nil] at hwider
    refine ⟨hwider, ?_⟩
    rw [wifiSupport.eq_def, hentry, hmeaning]
    rfl
  · rename_i hassociated hfailed
    rw [hnone]
    refine ⟨.nil (by omega), ?_⟩
    rw [wifiSupport.eq_def]
    split
    · rename_i entry hentry hmeaning
      exact absurd hmeaning (hassociated entry hentry)
    · rename_i entry hentry hmeaning
      exact absurd hmeaning (hfailed entry hentry)
    · rfl

theorem pathContext_ranged : Ranged 0 7 (pathContext policy facts standIn scope) :=
  ((((routeFindings_supporting facts standIn scope).1.append
    (uplinkFindings_supporting facts standIn scope).1).append
    (gatewayFindings_supporting scope facts.gateway standIn.gateway).1).append
    (remoteFindings_supporting scope facts.remote standIn.remote).1).append
    (wifiFindings_supporting policy facts standIn scope).1

theorem pathContext_length :
    (pathContext policy facts standIn scope).length = facts.support policy := by
  rw [pathContext, length_append, length_append, length_append, length_append,
    (routeFindings_supporting facts standIn scope).2,
    (uplinkFindings_supporting facts standIn scope).2,
    (gatewayFindings_supporting scope facts.gateway standIn.gateway).2,
    (remoteFindings_supporting scope facts.remote standIn.remote).2,
    (wifiFindings_supporting policy facts standIn scope).2, support]
end PathContext

variable {t : CandidateTurn} {supporting : List RootCauseEvidence}

namespace RootCauseEngine
variable {engine : RootCauseEngine} {clock : ClockReadings} {s : SocketId}
  {c h : RootCauseHypothesisObservation}
def Identified (engine : RootCauseEngine) : Prop :=
  ∀ id o, engine.activeIncidents.find? id = some o → o.id = id

abbrev pathKey (s : SocketId) : CandidateKey := ⟨.networkPathDegradation, .socket s⟩

theorem Identified.nodup (hident : Identified engine) (key : CandidateKey) :
    ((engine.incidentsAt key).map IncidentObservation.id).Nodup := by
  have hsorted : engine.activeIncidents.entries.Pairwise (fun a b => a.2.id ≠ b.2.id) := by
    apply engine.activeIncidents.sorted.imp_of_mem
    intro a b ha hb hlt
    rw [hident a.1 a.2 (mem_entries.mp ha), hident b.1 b.2 (mem_entries.mp hb)]
    exact hlt.ne
  rw [Nodup, pairwise_map]
  have hlisted : (engine.activeIncidents.entries.map Prod.snd).Pairwise
      (fun a b => a.id ≠ b.id) := pairwise_map.mpr hsorted
  exact hlisted.filter _

theorem foldl_addIncident (policy : RootCausePolicy) (l : List IncidentObservation)
    (hl : ∀ o ∈ l, (incidentRule o.type).confidence = .low)
    (first : RootCauseHypothesisObservation) (hfirst : first.confidence = .low) :
    ∃ h, l.foldl (fun found incident => some (addIncident policy found incident)) (some first) =
      some h ∧ h.confidence = .low ∧
      h.supportingEvidence = (l.map citation).foldl (addEvidence policy) first.supportingEvidence := by
  induction l generalizing first with
  | nil => exact ⟨first, rfl, hfirst, rfl⟩
  | cons o _ ih =>
    have hlow : (addIncident policy (some first) o).confidence = .low := by
      change first.confidence.max (incidentRule o.type).confidence = .low
      rw [hfirst, hl o mem_cons_self]
      rfl
    obtain ⟨h, hh, hconf, hsupp⟩ := ih (fun o' ho' => hl o' (mem_cons_of_mem o ho')) _ hlow
    exact ⟨h, hh, hconf, hsupp⟩

variable {o : IncidentObservation}
theorem pathIncident_confidence (ho : o ∈ engine.incidentsAt (pathKey s)) :
    (incidentRule o.type).confidence = .low := by
  obtain ⟨_, -, hkey⟩ := mem_incidentsAt.mp ho
  have htype : (incidentRule o.type).type = .networkPathDegradation := (CandidateKey.mk.inj hkey).1
  cases hincident : o.type <;> rw [hincident] at htype <;> first | rfl | cases htype

theorem incidentCandidate_path (hcandidate : engine.incidentCandidate (pathKey s) = some c) :
    engine.incidentsAt (pathKey s) ≠ [] ∧ c.confidence ≠ .high ∧
      c.supportingEvidence = ((engine.incidentsAt (pathKey s)).map citation).foldl
        (addEvidence engine.policy.toRootCausePolicy) [] := by
  have hlow : ∀ o ∈ engine.incidentsAt (pathKey s), (incidentRule o.type).confidence = .low :=
    fun o ho => pathIncident_confidence ho
  rw [incidentCandidate] at hcandidate
  cases hl : engine.incidentsAt (pathKey s) with
  | nil =>
    rw [hl] at hcandidate
    cases hcandidate
  | cons o l =>
    rw [hl] at hcandidate hlow
    have hfirst : (addIncident engine.policy.toRootCausePolicy none o).confidence = .low := by
      change HypothesisConfidence.max .low (incidentRule o.type).confidence = .low
      rw [hlow o mem_cons_self]
      rfl
    obtain ⟨_, hh, hconf, hsupp⟩ := foldl_addIncident engine.policy.toRootCausePolicy l
      (fun o' ho' => hlow o' (mem_cons_of_mem o ho')) _ hfirst
    rw [foldl_cons, hh, Option.map_some, Option.some.injEq] at hcandidate
    rw [← hcandidate, upgrade]
    split_ifs
    · exact ⟨cons_ne_nil o l, by rintro ⟨⟩, hsupp⟩
    · refine ⟨cons_ne_nil o l, ?_, hsupp⟩
      rw [hconf]
      rintro ⟨⟩

/-- The incidents of the socket that the context leaves in a list of eight: the one with the
smallest id and those with the largest ids. -/
def keptIncidents (engine : RootCauseEngine) (clock : ClockReadings) (s : SocketId) :
    List IncidentObservation :=
  kept engine.policy.maxEvidencePerHypothesis (engine.incidentsAt (pathKey s))
    ((engine.pathFacts clock s).support engine.policy.toRootCausePolicy)

structure PathCandidate (engine : RootCauseEngine) (clock : ClockReadings) (s : SocketId)
    (c : RootCauseHypothesisObservation) (standIn : Fallbacks) : Prop where
  incidents : engine.incidentsAt (pathKey s) ≠ []
  supporting : c.supportingEvidence = (engine.keptIncidents clock s).map citation ++
    pathContext engine.policy.toRootCausePolicy (engine.pathFacts clock s) standIn (.socket s)
  confidence : ∃ before, before ≠ .high ∧
    c.confidence = pathConfidence (engine.pathFacts clock s) before c.supportingEvidence

theorem pathHypothesis_confidence (policy : RootCausePolicy) (facts : PathFacts)
    (standIn : Fallbacks) (scope : IncidentScope) :
    (pathHypothesis policy facts standIn scope h).confidence = pathConfidence facts h.confidence
        (pathHypothesis policy facts standIn scope h).supportingEvidence := rfl

theorem engineContext_ranged (engine : RootCauseEngine) (clock : ClockReadings) (s : SocketId)
    (standIn : Fallbacks) :
    Ranged 0 7 (pathContext engine.policy.toRootCausePolicy (engine.pathFacts clock s) standIn
      (.socket s)) :=
  pathContext_ranged ..

theorem pathTurn_candidate (clock : ClockReadings) (hident : Identified engine)
    (hn : 8 ≤ engine.policy.maxEvidencePerHypothesis)
    (hcandidate : engine.incidentCandidate (pathKey s) = some h) (standIn : Fallbacks) :
    PathCandidate engine clock s (pathTurn engine.policy.toRootCausePolicy
      (engine.pathFacts clock s) standIn (.socket s) h).value standIn := by
  obtain ⟨hne, hconf, hsupp⟩ := incidentCandidate_path hcandidate
  have hranged := engineContext_ranged engine clock s standIn
  have hlength := hranged.length
  refine ⟨hne, ?_, h.confidence, hconf, pathHypothesis_confidence ..⟩
  rw [keptIncidents, ← pathContext_length _ _ standIn (.socket s), ← window_of_citations (by omega) (by omega) hne
    (hident.nodup _) (hranged.context le_rfl), foldl_append, ← hsupp, pathContext]
  simp only [foldl_append]
  rfl

theorem context_path (hident : Identified engine) (hn : 8 ≤ engine.policy.maxEvidencePerHypothesis)
    (hcontext : engine.context clock (pathKey s) = some t) :
    ∃ v standIn, PathCandidate engine clock s t.value standIn ∧
      t = pathTurn engine.policy.toRootCausePolicy (engine.pathFacts clock s) standIn (.socket s) v := by
  obtain ⟨v, hv, hturn⟩ := context_eq_some.mp hcontext
  rcases contextTurn_cases hturn with ⟨socket, standIn, hkey, -⟩ | ⟨socket, standIn, hkey, -, ht⟩ |
    ⟨-, hno, -⟩
  · cases hkey
  · obtain rfl : s = socket := by cases hkey; rfl
    rw [ht]
    exact ⟨v, standIn, pathTurn_candidate clock hident hn hv standIn, rfl⟩
  · exact absurd rfl (hno s)

theorem pathConfidence_high {facts : PathFacts} {before : HypothesisConfidence}
    (hbefore : before ≠ .high) :
    pathConfidence facts before supporting = .high ↔
      facts.gateway.meaning = .reachable ∧ facts.remote.meaning = .highRtt ∧
        hasKind .highTcpRtt supporting ∧
        hasKind .elevatedTcpRetransmission supporting := by
  cases hgateway : facts.gateway.meaning <;> cases hremote : facts.remote.meaning <;>
    cases before <;> simp_all [pathConfidence]

theorem citation_kind (type : IncidentType) :
    (citation o).kind = evidenceKind type ↔ o.type = type := by
  change evidenceKind o.type = evidenceKind type ↔ o.type = type
  cases o.type <;> cases type <;> simp [evidenceKind]

theorem PathCandidate.hasKind {standIn : Fallbacks} (hc : PathCandidate engine clock s c standIn)
    (type : IncidentType) (htype : (incidentRule type).type = .networkPathDegradation) :
    WeakNet.hasKind (evidenceKind type) c.supportingEvidence ↔
      ∃ o ∈ engine.keptIncidents clock s, o.type = type := by
  have hcontext := (engineContext_ranged engine clock s standIn).context le_rfl
  rw [WeakNet.hasKind, hc.supporting, any_append, or_eq_true, any_map, any_eq_true, any_eq_true]
  simp only [Function.comp_apply, beq_iff_eq, citation_kind]
  refine or_iff_left ?_
  intro hin
  obtain ⟨e, he, hkind⟩ := hin
  have hslot := hcontext.slot e he
  rw [hkind] at hslot
  cases type with
  | highTcpRtt | elevatedTcpRetransmission => exact absurd hslot (by decide)
  | routeUnavailable | uplinkUnavailable | socketRouteConflict => cases htype

theorem Identified.step (h : Identified engine) (delivery : Delivery) :
    Identified (engine.step delivery) := by
  refine step_caches (fun hcaches hsame id o ho => ?_) h fun next habsorb id o ho => ?_
  · rw [← hcaches.activeIncidents] at ho
    exact hsame id o ho
  · rcases (absorb_frame habsorb).incidents id o ho with hold | ⟨-, -, hid, -⟩
    · exact h id o hold
    · exact hid

theorem Reachable.identified {policy : AcceptedRootCausePolicy} (h : Reachable policy engine) :
    Identified engine := by
  obtain ⟨deliveries, rfl⟩ := h
  exact run_invariant (fun _ delivery hs => hs.step delivery)
    (fun id o ho => absurd ho (by simp [initial])) deliveries

/-- The documented rule for certainty about a path: both kinds of TCP incidents are active, the
gateway answers and the remote target is slow. -/
def CertainPath (engine : RootCauseEngine) (clock : ClockReadings) (s : SocketId) : Prop :=
  (∃ id o, engine.activeIncidents.find? id = some o ∧ o.scope = .socket s ∧
    o.type = .highTcpRtt) ∧
  (∃ id o, engine.activeIncidents.find? id = some o ∧ o.scope = .socket s ∧
    o.type = .elevatedTcpRetransmission) ∧
  (engine.pathFacts clock s).gateway.meaning = .reachable ∧
  (engine.pathFacts clock s).remote.meaning = .highRtt

theorem exists_incidentsAt {type : IncidentType}
    (htype : (incidentRule type).type = .networkPathDegradation) :
    (∃ o ∈ engine.incidentsAt (pathKey s), o.type = type) ↔
      ∃ id o, engine.activeIncidents.find? id = some o ∧ o.scope = .socket s ∧ o.type = type := by
  simp only [mem_incidentsAt]
  refine ⟨fun ⟨o, ⟨id, ho, hkey⟩, hincident⟩ => ?_, fun ⟨id, o, ho, hscope, hincident⟩ => ?_⟩
  · exact ⟨id, o, ho, (CandidateKey.mk.inj hkey).2, hincident⟩
  · refine ⟨o, ⟨id, ho, ?_⟩, hincident⟩
    rw [IncidentObservation.candidateKey, hscope, hincident, htype]

/-- The path candidate is certain exactly under the documented rule if and only if, whenever the
rule applies, both kinds of incidents are among those that are left in the list. -/
theorem path_confidence_iff {candidates : CandidateMap} (hreach : Reachable .standard engine)
    (hbuilt : engine.buildCandidatesLocked clock = .ok candidates)
    (hc : candidates.find? (pathKey s) = some c) :
    (c.confidence = .high ↔ CertainPath engine clock s) ↔
      (CertainPath engine clock s → (∃ o ∈ engine.keptIncidents clock s, o.type = .highTcpRtt) ∧
        ∃ o ∈ engine.keptIncidents clock s, o.type = .elevatedTcpRetransmission) := by
  have hpolicy := hreach.bounded.accepted
  have height : engine.policy.maxEvidencePerHypothesis = 8 := by
    rw [hpolicy]
    rfl
  rw [buildCandidatesLocked_find? hbuilt] at hc
  simp only [candidateAt, Option.map_eq_some_iff] at hc
  obtain ⟨t, ht, rfl⟩ := hc
  obtain ⟨_, _, hpath, -⟩ := context_path hreach.identified height.ge ht
  obtain ⟨_, hbefore, hconf⟩ := hpath.confidence
  have hhigh : t.value.confidence = .high ↔
      (engine.pathFacts clock s).gateway.meaning = .reachable ∧
      (engine.pathFacts clock s).remote.meaning = .highRtt ∧
      (∃ o ∈ engine.keptIncidents clock s, o.type = .highTcpRtt) ∧
      ∃ o ∈ engine.keptIncidents clock s, o.type = .elevatedTcpRetransmission := by
    rw [hconf, pathConfidence_high hbefore]
    rw [show highTcpRtt = evidenceKind .highTcpRtt from rfl,
      show elevatedTcpRetransmission = evidenceKind .elevatedTcpRetransmission from rfl,
      hpath.hasKind .highTcpRtt rfl, hpath.hasKind .elevatedTcpRetransmission rfl]
  have hsub : ∀ type, (incidentRule type).type = .networkPathDegradation →
      (∃ o ∈ engine.keptIncidents clock s, o.type = type) →
      ∃ id o, engine.activeIncidents.find? id = some o ∧ o.scope = .socket s ∧ o.type = type := by
    intro type htype hin
    obtain ⟨o, ho, hincident⟩ := hin
    exact (exists_incidentsAt htype).mp ⟨o, kept_sublist.subset ho, hincident⟩
  rw [hhigh]
  refine ⟨fun hiff hcertain => (hiff.mpr hcertain).2.2, fun hkept => ⟨fun hall => ?_, fun hcertain => ?_⟩⟩
  · exact ⟨hsub _ rfl hall.2.2.1, hsub _ rfl hall.2.2.2, hall.1, hall.2.1⟩
  · exact ⟨hcertain.2.2.1, hcertain.2.2.2, hkept hcertain⟩

def sampleGateway : Address := ⟨[192, 168, 1, 1, 0, 0, 0, 0, 0, 0, 0, 0, 0, 0, 0, 0], by decide⟩

def sampleProbe (kind : ProbeTargetKind) (rtt : ℕ) : ProbeObservation where
  target := ⟨kind, ⟨4, 1⟩, 2, sampleGateway, some ⟨3, []⟩, 1, ""⟩
  netns := ⟨4, 1⟩
  observedAt := 0
  monotonicAt := 0
  sequence := 1
  status := .success
  rttUs := some rtt
  validity := .valid
  source := .activeProbe
  transport := ""
  failureReason := ""

/-- Both TCP incidents of a socket, its route over interface 3, the selected uplink, an answering
gateway, a slow remote target and an associated Wi-Fi link with a given transmit bitrate. -/
def degradedPath (bitrate : Option ℕ) : List Delivery :=
  [incidentArrives,
    ⟨⟨sampleHeader .incidentObservation .incidentEngine, .incident
      { samplePathIncident 2 1 with type := .elevatedTcpRetransmission }, by decide⟩, fun _ _ => 0⟩,
    ⟨⟨sampleHeader .socketRouteObservation .socketTracker, .socketRoute
      { sampleRouteContext ⟨3, []⟩ with
        route := some ⟨"", 2, 0, 254, 0, 1, some sampleGateway, none, [3], [], false, false⟩ },
      by decide⟩, fun _ _ => 0⟩,
    ⟨⟨sampleHeader .uplinkObservation .netlinkCollector, .uplink ⟨[], 1, true, ""⟩, by decide⟩,
      fun _ _ => 0⟩,
    ⟨⟨sampleHeader .probeObservation .activeProbe, .probe (sampleProbe .gateway 1000), by decide⟩,
      fun _ _ => 0⟩,
    ⟨⟨sampleHeader .probeObservation .activeProbe, .probe (sampleProbe .remote 200000), by decide⟩,
      fun _ _ => 0⟩,
    ⟨⟨{ sampleHeader .wifiObservation .wifiCollector with interface := some ⟨3, []⟩ },
      .wifi (sampleWifi .associated .available (some (-60)) bitrate), rfl⟩, fun _ _ => 0⟩]

def degradedEngine (bitrate : Option ℕ) : RootCauseEngine :=
  run step (initial .standard) (degradedPath bitrate)

theorem degradedEngine_reachable (bitrate : Option ℕ) :
    Reachable .standard (degradedEngine bitrate) := ⟨degradedPath bitrate, rfl⟩

theorem path_confidence_sample : ∃ candidates c,
    (degradedEngine none).buildCandidatesLocked (fun _ _ => 0) = .ok candidates ∧
      candidates.find? (pathKey (sampleSocket 1)) = some c ∧
      (c.confidence = .high ↔ CertainPath (degradedEngine none) (fun _ _ => 0) (sampleSocket 1)) := by
  have hbuilt : ((degradedEngine none).buildCandidatesLocked (fun _ _ => 0)).toOption.any
      (fun m => m.contains (pathKey (sampleSocket 1))) := by decide +kernel
  cases hm : (degradedEngine none).buildCandidatesLocked (fun _ _ => 0) with
  | error =>
    rw [hm] at hbuilt
    cases hbuilt
  | ok m =>
    rw [hm] at hbuilt
    obtain ⟨c, hc⟩ := contains_iff.mp (show m.contains (pathKey (sampleSocket 1)) from hbuilt)
    refine ⟨m, c, rfl, hc, (path_confidence_iff (degradedEngine_reachable none) hm hc).mpr fun _ => ?_⟩
    decide +kernel

/-- A low bitrate is a seventh entry of context: it displaces the second incident, and the path
stays at medium confidence although the documented rule applies. -/
theorem low_bitrate_lowers_confidence : ∃ candidates c,
    (degradedEngine (some 1000)).buildCandidatesLocked (fun _ _ => 0) = .ok candidates ∧
      candidates.find? (pathKey (sampleSocket 1)) = some c ∧ c.confidence = .medium ∧
      CertainPath (degradedEngine (some 1000)) (fun _ _ => 0) (sampleSocket 1) := by
  have hbuilt : ((degradedEngine (some 1000)).buildCandidatesLocked (fun _ _ => 0)).toOption.any
      (fun m => (m.find? (pathKey (sampleSocket 1))).any (fun c => c.confidence == .medium)) =
        true := by
    decide +kernel
  cases hm : (degradedEngine (some 1000)).buildCandidatesLocked (fun _ _ => 0) with
  | error =>
    rw [hm] at hbuilt
    cases hbuilt
  | ok m =>
    rw [hm] at hbuilt
    have hheld : (m.find? (pathKey (sampleSocket 1))).any (fun c => c.confidence == .medium) =
      true := hbuilt
    obtain ⟨c, hc, hmedium⟩ := (Option.any_eq_true _ _).mp hheld
    refine ⟨m, c, rfl, hc, by simpa using hmedium, ?_, ?_, by decide +kernel, by decide +kernel⟩
    all_goals exact (exists_incidentsAt rfl).mp (by decide +kernel)
end RootCauseEngine
section Complete
variable {cited : List IncidentObservation} {rest : List RootCauseEvidence}
theorem cited_once_iff (hids : (l.map IncidentObservation.id).Nodup) (hsub : cited.Sublist l)
    (hrest : ∀ e ∈ rest, e.incident = none)
    (hcited : supporting.map incident = (cited.map citation ++ rest).map incident) :
    (∀ o ∈ l, (supporting.map incident).count (some o.id) = 1) ↔ cited = l := by
  have hcount : ∀ id, (supporting.map incident).count (some id) =
      (cited.map IncidentObservation.id).count id := by
    intro id
    have hnone : (rest.map incident).count (some id) = 0 := by
      rw [count_eq_zero]
      intro hin
      obtain ⟨e, he, hid⟩ := mem_map.mp hin
      rw [hrest e he] at hid
      cases hid
    have hsome : (cited.map citation).map incident =
        (cited.map IncidentObservation.id).map some := by
      rw [map_map, map_map]
      rfl
    rw [hcited, map_append, count_append, hnone, hsome,
      count_map_of_injective _ _ (Option.some_injective ℕ)]
    rfl
  simp only [hcount]
  refine ⟨fun hall => hsub.eq_of_length_le ?_, fun heq o ho => ?_⟩
  · have hin : l ⊆ cited := by
      intro o ho
      have hmem : o.id ∈ cited.map IncidentObservation.id := by
        rw [← count_pos_iff, hall o ho]
        exact Nat.one_pos
      obtain ⟨_, ho', hid⟩ := mem_map.mp hmem
      rwa [← inj_on_of_nodup_map hids (hsub.subset ho') ho hid]
    exact ((Nodup.of_map _ hids).subperm hin).length_le
  · rw [heq]
    exact count_eq_one_of_mem hids (mem_map_of_mem ho)
end Complete

theorem sameEvidence_incident {a b : List RootCauseEvidence} (h : sameEvidence a b) :
    a.map incident = b.map incident := by
  simp only [sameEvidence, and_eq_true, beq_iff_eq, all_eq_true] at h
  have hpairs : Forall₂ (fun x y => evidenceEquivalent x y) a b :=
    forall₂_iff_zip.mpr ⟨h.1, fun {x y} hmem => h.2 (x, y) hmem⟩
  rw [← forall₂_eq_eq_eq, forall₂_map_left_iff, forall₂_map_right_iff]
  refine hpairs.imp fun x y hsame => ?_
  simp only [evidenceEquivalent, and_eq_true, beq_iff_eq] at hsame
  exact hsame.1.1.1.1.1.1.1.1.1.1

namespace RootCauseEngine
variable {engine : RootCauseEngine} {clock : ClockReadings} {s : SocketId}
  {c h : RootCauseHypothesisObservation}
theorem Working.Follows.content (hfollows : Working.Follows h c) :
    h.type = c.type ∧ h.scope = c.scope ∧ h.reasonCode = c.reasonCode ∧
      h.supportingEvidence.map incident =
        c.supportingEvidence.map incident := by
  rcases hfollows with hsame | hequal
  · simp only [sameContent, Bool.and_eq_true, beq_iff_eq] at hsame
    obtain ⟨⟨⟨⟨⟨⟨htype, hscope⟩, -⟩, hsupp⟩, -⟩, -⟩, hreason⟩ := hsame
    exact ⟨htype, hscope, hreason, sameEvidence_incident hsupp⟩
  · obtain ⟨htype, hscope, -, hsupp, -, -, hreason⟩ := Diagnosis.mk.inj hequal
    exact ⟨htype, hscope, hreason, by rw [hsupp]⟩

def Cites (engine : RootCauseEngine) (clock : ClockReadings) (s : SocketId) (d : ℕ)
    (c : RootCauseHypothesisObservation) : Prop :=
  ∃ rest : List RootCauseEvidence, (∀ e ∈ rest, e.incident = none) ∧
    c.supportingEvidence = (kept engine.policy.maxEvidencePerHypothesis
      (engine.keptIncidents clock s) d).map citation ++ rest

theorem Cites.complete_iff {d : ℕ} (hident : Identified engine) (hc : Cites engine clock s d c)
    (hh : h.supportingEvidence.map incident = c.supportingEvidence.map incident) :
    (∀ o ∈ engine.incidentsAt (pathKey s),
      (h.supportingEvidence.map incident).count (some o.id) = 1) ↔
    (engine.incidentsAt (pathKey s)).length ≤ 1 ∨ (engine.incidentsAt (pathKey s)).length +
      max ((engine.pathFacts clock s).support engine.policy.toRootCausePolicy) d ≤
        engine.policy.maxEvidencePerHypothesis := by
  obtain ⟨_, hrest, hsupp⟩ := hc
  rw [hsupp] at hh
  rw [cited_once_iff (hident.nodup _) (kept_sublist.trans kept_sublist) hrest hh]
  exact kept_kept_eq_iff

section Derived
variable {standIn : Fallbacks} {v : RootCauseHypothesisObservation}
theorem kept_ne_nil {n d : ℕ} (hl : l ≠ []) : kept n l d ≠ [] := by
  cases l with
  | nil => exact absurd rfl hl
  | cons => exact cons_ne_nil _ _

def localContext (facts : PathFacts) (scope : IncidentScope) : List RootCauseEvidence :=
  (localWifiFindings facts scope).supporting ++ (localGatewayFindings facts scope).supporting

theorem localGatewayFindings_supporting (facts : PathFacts) (scope : IncidentScope) :
    (localGatewayFindings facts scope).supporting = [] ∨
      facts.gateway.meaning.usableProbeContext ∧
      ∃ e, (localGatewayFindings facts scope).supporting = [e] ∧ e.kind.slot = 2 ∧
        e.incident = none := by
  rw [localGatewayFindings.eq_def]
  split
  case h_3 => exact .inl rfl
  all_goals
    rename_i event hevent hmeaning
    refine .inr ⟨by rw [hmeaning]; rfl, _, rfl, ?_, (probeEvidence_fields ..).2⟩
    rw [(probeEvidence_fields ..).1]
    rfl

theorem localWifiFindings_supporting (policy : RootCausePolicy) (facts : PathFacts)
    (scope : IncidentScope) (hlocal : facts.localWifiContext) :
    Context (localWifiFindings facts scope).supporting ∧
      (∀ e ∈ (localWifiFindings facts scope).supporting, 4 ≤ e.kind.slot) ∧
      (localWifiFindings facts scope).supporting.length ≤ wifiSupport policy facts.wifi := by
  rw [localWifiFindings]
  cases hentry : facts.wifi.entry with
  | none =>
    exact ⟨⟨.nil, forall_mem_nil _, forall_mem_nil _⟩, forall_mem_nil _, Nat.zero_le _⟩
  | some entry =>
    by_cases hfailed : facts.wifiNotAssociated
    · have hmeaning : facts.wifi.meaning = .notAssociated := by
        simpa [PathFacts.wifiNotAssociated] using hfailed
      simp only [hfailed, ↓reduceIte]
      have hsingle : Ranged 4 5 [wifiEvidence entry scope .supporting .wifiNotAssociated
          facts.wifi.provenance] := .single rfl rfl
      refine ⟨hsingle.context (by omega), fun e he => (hsingle.slot e he).1, ?_⟩
      rw [wifiSupport, hentry, hmeaning]
      exact le_rfl
    · simp only [PathFacts.localWifiContext, hfailed, Bool.false_or, Bool.and_eq_true,
        PathFacts.wifiWeak, PathFacts.wifiAssociatedAs, Bool.or_eq_true, beq_iff_eq, hentry,
        Option.any_some] at hlocal
      have hmeaning : facts.wifi.meaning = .associated := by
        rcases hlocal.1 with h | h
        all_goals exact h.1
      have hcategory : entry.signalCategory ≠ .none := by
        rcases hlocal.1 with h | h
        all_goals
          rw [h.2]
          exact nofun
      have hslot : ∀ very : Bool, slot
          (if very then .wifiSignalVeryWeak else .wifiSignalWeak) = 5 := by
        intro very
        cases very <;> rfl
      simp only [hfailed, Bool.false_eq_true, ↓reduceIte]
      refine ⟨⟨?_, fun e he => ?_, fun e he => ?_⟩, fun e he => ?_, ?_⟩
      · apply pairwise_pair.mpr
        change slot (if _ then _ else _) ≠ 4
        rw [hslot]
        exact nofun
      · rcases mem_pair.mp he with rfl | rfl
        · change slot (if _ then _ else _) < 7
          rw [hslot]
          omega
        · change 4 < 7
          omega
      · rcases mem_pair.mp he with rfl | rfl <;> rfl
      · rcases mem_pair.mp he with rfl | rfl
        · change 4 ≤ slot (if _ then _ else _)
          rw [hslot]
          omega
        · exact le_rfl
      · rw [wifiSupport, hentry, hmeaning]
        simp only [if_neg hcategory]
        exact Nat.le_add_right 2 _

theorem localContext_context (policy : RootCausePolicy) (facts : PathFacts) (scope : IncidentScope)
    (hlocal : facts.localWifiContext) :
    Context (localContext facts scope) ∧ (localContext facts scope).length ≤ facts.support policy := by
  obtain ⟨hwifi, hslots, _⟩ := localWifiFindings_supporting policy facts scope hlocal
  rcases localGatewayFindings_supporting facts scope with hnone | ⟨husable, e, hsingle, hslot, hinc⟩
  · rw [localContext, hnone, append_nil]
    refine ⟨hwifi, ?_⟩
    rw [support]
    omega
  · rw [localContext, hsingle]
    refine ⟨⟨pairwise_append.mpr ⟨hwifi.spread, pairwise_singleton _ _, fun a ha b hb => ?_⟩,
      forall_mem_append.mpr ⟨hwifi.slot, forall_mem_singleton.mpr (by omega)⟩,
      forall_mem_append.mpr ⟨hwifi.incident, forall_mem_singleton.mpr hinc⟩⟩, ?_⟩
    · rw [mem_singleton.mp hb, hslot]
      have hfour := hslots a ha
      omega
    · rw [length_append, length_singleton, support, if_pos husable]
      omega

def upstreamSupport (wifi : WifiFact) : ℕ :=
  match wifi.entry, wifi.meaning with
  | some entry, .associated => if entry.signalCategory = .normal then 2 else 1
  | _, _ => 0

structure Additions (u : List RootCauseEvidence) : Prop where
  spread : u.Pairwise (fun a b => a.same b = false)
  incident : ∀ e ∈ u, e.incident = none
  text : ∀ e ∈ u, (e.kind = .wifiAssociated ∧ e.provenance =
      "current Wi-Fi association supports a beyond-gateway interpretation") ∨
    (e.kind = .wifiSignalNormal ∧ e.provenance =
      "current Wi-Fi signal is outside weak-signal heuristic")
  length : u.length ≤ 2

theorem upstreamWifiFindings_supporting (wifi : WifiFact) (scope : IncidentScope) :
    Additions (upstreamWifiFindings wifi scope).supporting ∧
      (upstreamWifiFindings wifi scope).supporting.length = upstreamSupport wifi := by
  have hnil : Additions [] := ⟨.nil, forall_mem_nil _, forall_mem_nil _, Nat.zero_le 2⟩
  rw [upstreamWifiFindings.eq_def]
  split
  · rename_i entry hentry hmeaning
    rw [upstreamSupport.eq_def, hentry, hmeaning]
    by_cases hnormal : entry.signalCategory = .normal <;> simp only [hnormal, ↓reduceIte]
    · refine ⟨⟨pairwise_pair.mpr (same_of_kind_ne nofun), fun e he => ?_, fun e he => ?_,
        le_rfl⟩, rfl⟩
      · rcases mem_pair.mp he with rfl | rfl <;> rfl
      · rcases mem_pair.mp he with rfl | rfl
        · exact .inl ⟨rfl, rfl⟩
        · exact .inr ⟨rfl, rfl⟩
    · exact ⟨⟨pairwise_singleton _ _, forall_mem_singleton.mpr rfl,
        forall_mem_singleton.mpr (.inl ⟨rfl, rfl⟩), Nat.le_succ 1⟩, rfl⟩
  · rename_i hassociated
    refine ⟨hnil, ?_⟩
    rw [upstreamSupport.eq_def]
    split
    · rename_i entry hentry hmeaning
      exact absurd hmeaning (hassociated entry hentry)
    · rfl

def Labelled (fact : WifiFact) : Prop :=
  fact.meaning = .associated → fact.provenance = "fresh associated Wi-Fi observation"

theorem wifiCapabilityFact_labelled (entry : WifiCacheEntry) :
    Labelled (wifiCapabilityFact entry) := by
  cases hcapability : entry.event.observation.capability with
  | available =>
    simp only [wifiCapabilityFact, hcapability]
    split_ifs
    · exact fun _ => rfl
    · exact nofun
  | notAssociated =>
    simp only [wifiCapabilityFact, hcapability]
    split_ifs
    all_goals exact nofun
  | _ =>
    simp only [wifiCapabilityFact, hcapability]
    exact nofun

theorem classifyWifi_labelled {now : MonotonicTime} {netns : NetnsId}
    {route : Option SocketRouteContextObservation} :
    Labelled (engine.classifyWifi now netns route) := by
  rw [classifyWifi]
  split
  · rintro ⟨⟩
  · split
    · rintro ⟨⟩
    · rw [wifiEntryFact]
      split_ifs
      · rintro ⟨⟩
      · rintro ⟨⟩
      · rintro ⟨⟩
      · rintro ⟨⟩
      · exact wifiCapabilityFact_labelled _

def Fresh (e : RootCauseEvidence) : Prop :=
  (e.kind = .wifiAssociated → e.provenance = "fresh associated Wi-Fi observation") ∧
    (e.kind = .wifiSignalNormal →
      e.provenance = "fresh Wi-Fi signal is outside weak-signal heuristic")

theorem pathContext_text
    (he : e ∈ pathContext engine.policy.toRootCausePolicy (engine.pathFacts clock s) standIn
      (.socket s)) : Fresh e := by
  have hlow : e.kind.slot < 4 → Fresh e := by
    intro hslot
    refine ⟨fun hkind => ?_, fun hkind => ?_⟩
    all_goals
      rw [hkind] at hslot
      exact absurd hslot (by decide)
  have hprobes : Ranged 0 4 ((routeFindings (engine.pathFacts clock s) standIn (.socket s)).supporting ++
      (uplinkFindings (engine.pathFacts clock s) standIn (.socket s)).supporting ++
      (probeFindings (.socket s) .gateway (engine.pathFacts clock s).gateway
        standIn.gateway).supporting ++ (probeFindings (.socket s) .remote
        (engine.pathFacts clock s).remote standIn.remote).supporting) :=
    (((routeFindings_supporting _ standIn _).1.append (uplinkFindings_supporting _ standIn _).1).append
      (gatewayFindings_supporting _ _ _).1).append (remoteFindings_supporting _ _ _).1
  rcases mem_append.mp he with he | he
  · exact hlow (hprobes.slot e he).2
  · rw [wifiFindings.eq_def] at he
    split at he
    · rename_i entry hentry hmeaning
      rcases mem_append.mp he with he | he
      · rcases mem_append.mp he with he | he
        · rw [mem_singleton.mp he]
          exact ⟨fun _ => classifyWifi_labelled hmeaning, nofun⟩
        · rw [signalFindings.eq_def] at he
          split at he
          case h_4 => cases he
          all_goals rw [mem_singleton.mp he]
          · exact ⟨nofun, fun _ => rfl⟩
          all_goals exact ⟨nofun, nofun⟩
      · rw [bitrateFindings] at he
        split_ifs at he
        · rw [mem_singleton.mp he]
          exact ⟨nofun, nofun⟩
        · cases he
    · rename_i entry hentry hmeaning
      rw [mem_singleton.mp he]
      exact ⟨nofun, nofun⟩
    · rw [wifiUnavailable.eq_def] at he
      split at he
      all_goals cases he

section Candidate
variable (hc : PathCandidate engine clock s c standIn)
include hc
theorem PathCandidate.cites (hn : 8 ≤ engine.policy.maxEvidencePerHypothesis) :
    Cites engine clock s 0 c := by
  have hsame : kept engine.policy.maxEvidencePerHypothesis (engine.keptIncidents clock s) 0 =
      engine.keptIncidents clock s := by
    apply kept_eq_self
    right
    exact length_kept_le (by omega)
  refine ⟨_, (engineContext_ranged engine clock s standIn).incident, ?_⟩
  rw [hsame]
  exact hc.supporting

theorem PathCandidate.citedIncidents :
    WeakNet.citedIncidents c = (engine.keptIncidents clock s).map citation := by
  have hcontext := (engineContext_ranged engine clock s standIn).context le_rfl
  have hall : ∀ e ∈ (engine.keptIncidents clock s).map citation, e.isPathIncident := by
    intro e he
    obtain ⟨o, ho, rfl⟩ := mem_map.mp he
    obtain ⟨_, -, hkey⟩ := mem_incidentsAt.mp (kept_sublist.subset ho)
    have htype : (incidentRule o.type).type = .networkPathDegradation :=
      (CandidateKey.mk.inj hkey).1
    change (evidenceKind o.type == .highTcpRtt ||
      evidenceKind o.type == .elevatedTcpRetransmission)
    cases hincident : o.type <;> rw [hincident] at htype <;> first | rfl | cases htype
  rw [WeakNet.citedIncidents, hc.supporting, filter_append, filter_eq_self.mpr hall,
    filter_eq_nil_iff.mpr (fun e he => by rw [hcontext.not_incident he]; exact nofun),
    append_nil]

variable (hident : Identified engine) (hn : 8 ≤ engine.policy.maxEvidencePerHypothesis)
include hident hn
theorem PathCandidate.derived (hctx : Context ctx) (hlen : ctx.length ≤ 7)
    (hsupp : h.supportingEvidence = (WeakNet.citedIncidents c ++ ctx).foldl (addEvidence
      engine.policy.toRootCausePolicy) []) : Cites engine clock s ctx.length h := by
  have hids : ((engine.keptIncidents clock s).map IncidentObservation.id).Nodup :=
    (hident.nodup _).sublist (kept_sublist.map _)
  refine ⟨ctx, hctx.incident, ?_⟩
  rw [hsupp, hc.citedIncidents]
  exact window_of_citations (by omega) (by omega) (kept_ne_nil hc.incidents) hids hctx

theorem PathCandidate.probeInsufficient :
    Cites engine clock s 0 (probeInsufficient engine.policy.toRootCausePolicy (.socket s) c) := by
  have hnone : Context [] := ⟨.nil, forall_mem_nil _, forall_mem_nil _⟩
  apply hc.derived hident hn hnone (Nat.zero_le 7)
  rw [append_nil]
  rfl

theorem PathCandidate.localLink (hlocal : (engine.pathFacts clock s).localWifiContext) :
    ∃ d ≤ (engine.pathFacts clock s).support engine.policy.toRootCausePolicy,
      Cites engine clock s d (localLink engine.policy.toRootCausePolicy (engine.pathFacts clock s)
        standIn (.socket s) c) := by
  obtain ⟨hctx, hlen⟩ := localContext_context engine.policy.toRootCausePolicy
    (engine.pathFacts clock s) (.socket s) hlocal
  have hranged := (engineContext_ranged engine clock s standIn).length
  rw [pathContext_length] at hranged
  refine ⟨_, hlen, hc.derived hident hn hctx (by omega) ?_⟩
  rw [localContext, foldl_append, foldl_append]
  rfl

theorem PathCandidate.upstream (wifi : WifiFact) (fallback : Observed ProbeObservation) :
    Cites engine clock s ((engine.pathFacts clock s).support engine.policy.toRootCausePolicy +
        upstreamSupport wifi)
      (upstreamHypothesis engine.policy.toRootCausePolicy wifi fallback (.socket s) c) := by
  obtain ⟨hadd, hcount⟩ := upstreamWifiFindings_supporting wifi (.socket s)
  have hranged := engineContext_ranged engine clock s standIn
  have hids : ((engine.keptIncidents clock s).map IncidentObservation.id).Nodup :=
    (hident.nodup _).sublist (kept_sublist.map _)
  have hcited : engine.keptIncidents clock s ≠ [] := kept_ne_nil hc.incidents
  have hspread : (c.supportingEvidence ++ (upstreamWifiFindings wifi (.socket s)).supporting).Pairwise
      (fun a b => a.same b = false) := by
    rw [hc.supporting, pairwise_append]
    refine ⟨citing_spread hids (hranged.context le_rfl), hadd.spread, fun a ha b hb => ?_⟩
    rcases mem_append.mp ha with ha | ha
    · apply same_of_incident_ne
      obtain ⟨_, -, rfl⟩ := mem_map.mp ha
      rw [hadd.incident b hb]
      exact nofun
    · obtain ⟨hassociated, hnormal⟩ := pathContext_text ha
      by_cases hkind : a.kind = b.kind
      · apply same_of_provenance_ne
        rcases hadd.text b hb with ⟨hb, htext⟩ | ⟨hb, htext⟩
        · rw [hassociated (hkind.trans hb), htext]
          decide
        · rw [hnormal (hkind.trans hb), htext]
          decide
      · exact same_of_kind_ne hkind
  have hsupp : (upstreamHypothesis engine.policy.toRootCausePolicy wifi fallback (.socket s)
      c).supportingEvidence = (c.supportingEvidence ++
        (upstreamWifiFindings wifi (.socket s)).supporting).foldl
        (addEvidence engine.policy.toRootCausePolicy) [] := by
    change ((c.supportingEvidence ++ [] ++ []) ++ _).foldl _ [] = _
    rw [append_nil, append_nil]
  have hne : c.supportingEvidence ≠ [] := by
    rw [hc.supporting]
    intro hnil
    exact hcited (map_eq_nil_iff.mp (append_eq_nil_iff.mp hnil).1)
  rw [Cites, hsupp, foldl_addEvidence (forall_mem_nil _) hspread,
    foldl_push_append (by omega) hne, hc.supporting, kept_append (by simpa using hcited),
    pathContext_length, hcount, kept_map, append_assoc]
  refine ⟨_, forall_mem_append.mpr ⟨fun e he => ?_, fun e he => ?_⟩, rfl⟩
  · exact hranged.incident e (mem_of_mem_drop he)
  · exact hadd.incident e (mem_of_mem_drop he)
end Candidate
end Derived

theorem upstreamTurn_pushed (hturn : engine.upstreamTurn clock (pathKey s) h = .ok t)
    (hc : c ∈ t.pushed) :
    ∃ fallback, c = upstreamHypothesis engine.policy.toRootCausePolicy (engine.upstreamWifi clock s)
      fallback (.socket s) h := by
  cases hfallback : syntheticProbeEvent s.netns .remote with
  | error =>
    simp only [upstreamTurn, hfallback] at hturn
    split_ifs at hturn
    cases hturn
    cases hc
  | ok fallback =>
    simp only [upstreamTurn, hfallback] at hturn
    split_ifs at hturn
    · cases hturn
      cases hc
    · cases hturn
      exact ⟨fallback, mem_singleton.mp hc⟩
    · cases hturn
      cases hc

/-- The hypotheses that cite path incidents; an insufficient one may also be about topology. -/
def CitesPath (h : RootCauseHypothesisObservation) : Prop :=
  h.type = .networkPathDegradation ∨ h.type = .remoteOrUpstreamDegradation ∨
    h.type = .localLinkSuspected ∨
    h.type = .insufficientEvidence ∧ h.reasonCode = "tcp_probe_context_unavailable"

/-- How many entries of context follow the incidents in the list a hypothesis is made from. -/
def displacing (engine : RootCauseEngine) (clock : ClockReadings) (s : SocketId) :
    RootCauseType → ℕ
  | .remoteOrUpstreamDegradation =>
    (engine.pathFacts clock s).support engine.policy.toRootCausePolicy +
      upstreamSupport (engine.upstreamWifi clock s)
  | _ => (engine.pathFacts clock s).support engine.policy.toRootCausePolicy

theorem candidateAt_cites {type : RootCauseType} (hident : Identified engine)
    (hn : 8 ≤ engine.policy.maxEvidencePerHypothesis)
    (hc : engine.candidateAt clock ⟨type, .socket s⟩ = some c) (hcites : CitesPath c) :
    ∃ d, max ((engine.pathFacts clock s).support engine.policy.toRootCausePolicy) d =
      displacing engine clock s type ∧ Cites engine clock s d c := by
  have htype : c.type = type := (CandidateKey.mk.inj (candidateAt_key hc)).1
  cases type with
  | uplinkAvailabilityProblem | localRoutingProblem =>
    rcases hcites with h | h | h | ⟨h, -⟩ <;> rw [htype] at h <;> cases h
  | networkPathDegradation =>
    simp only [candidateAt, Option.map_eq_some_iff] at hc
    obtain ⟨t, ht, rfl⟩ := hc
    obtain ⟨v, standIn, hpath, -⟩ := context_path hident hn ht
    exact ⟨0, max_eq_left (Nat.zero_le _), hpath.cites hn⟩
  | remoteOrUpstreamDegradation =>
    simp only [candidateAt, Option.bind_eq_some_iff] at hc
    obtain ⟨t, ht, _, ht', hhead⟩ := hc
    obtain ⟨v, standIn, hpath, -⟩ := context_path hident hn ht
    obtain ⟨fallback, rfl⟩ := upstreamTurn_pushed (exists_turn_of_toOption ht') (mem_of_head? hhead)
    exact ⟨_, max_eq_right (Nat.le_add_right _ _), hpath.upstream hident hn _ fallback⟩
  | localLinkSuspected =>
    simp only [candidateAt, Option.bind_eq_some_iff, Option.map_eq_some_iff] at hc
    obtain ⟨t, ht, _, he, rfl⟩ := hc
    obtain ⟨v, standIn, hpath, rfl⟩ := context_path hident hn ht
    have hmem := mem_of_head? he
    rw [pathTurn] at hmem
    dsimp only at hmem
    split_ifs at hmem with hlocal
    · obtain ⟨d, hd, hcited⟩ := hpath.localLink hident hn hlocal
      rw [mem_singleton.mp hmem]
      exact ⟨d, max_eq_left hd, hcited⟩
    · cases hmem
  | insufficientEvidence =>
    have hreason : c.reasonCode = "tcp_probe_context_unavailable" := by
      rcases hcites with h | h | h | ⟨-, h⟩
      on_goal 4 => exact h
      all_goals
        rw [htype] at h
        cases h
    simp only [candidateAt, Option.bind_eq_some_iff] at hc
    obtain ⟨t, ht, hhead⟩ := hc
    obtain ⟨v, standIn, hpath, rfl⟩ := context_path hident hn ht
    have hmem := mem_of_head? hhead
    rw [pathTurn] at hmem
    rcases mem_append.mp hmem with hmem | hmem
    · split_ifs at hmem
      · cases hmem
      · rw [mem_singleton.mp hmem] at hreason
        exact absurd hreason (by change ¬"tcp_path_context_unavailable" = _; decide)
    · split_ifs at hmem
      · rw [mem_singleton.mp hmem]
        exact ⟨0, max_eq_left (Nat.zero_le _), hpath.probeInsufficient hident hn⟩
      · cases hmem

structure Current (policy : AcceptedRootCausePolicy) (g : History) : Prop where
  accepted : g.engine.policy = policy
  identified : Identified g.engine
  last : ∀ μ, g.moments.getLast? = some μ → Identified μ.engine ∧ μ.engine.policy = policy ∧
    ∀ k h, g.engine.active.find? k = some h →
      ∃ c, μ.desired.find? k = some c ∧ Working.Follows h c

theorem Current.step {policy : AcceptedRootCausePolicy} {g g' : History} {delivery : Delivery}
    (hg : Current policy g) (hstep : Stepped g delivery g') : Current policy g' := by
  have habsorbed : ∀ next, g.engine.absorb delivery.event = .changed next →
      next.policy = policy ∧ Identified next := by
    intro next habsorb
    refine ⟨(absorb_frame habsorb).policy.trans hg.accepted, fun id o ho => ?_⟩
    rcases (absorb_frame habsorb).incidents id o ho with hold | ⟨-, -, hid, -⟩
    · exact hg.identified id o hold
    · exact hid
  cases hstep with
  | quiet => exact hg
  | threw next _ habsorb _ =>
    obtain ⟨hpolicy, hident⟩ := habsorbed next habsorb
    refine ⟨hpolicy, hident, fun μ hμ => ?_⟩
    rw [(absorb_frame habsorb).active]
    exact hg.last μ hμ
  | reconciled μ w habsorb _ hall =>
    obtain ⟨hpolicy, hident⟩ := habsorbed μ.engine habsorb
    have hcaches := (Working.reconcileAll_caches.1 w hall).trans
      (Working.resolveAll_caches delivery.event.header.observedAt μ.desired w)
    refine ⟨hcaches.policy.symm.trans hpolicy, fun id o ho => ?_, fun μ' hμ' => ?_⟩
    · rw [← hcaches.activeIncidents] at ho
      exact hident id o ho
    · rw [List.getLast?_concat, Option.some.injEq] at hμ'
      subst hμ'
      refine ⟨hident, hpolicy, fun k h hk => ?_⟩
      rw [Working.resolveAll_find?] at hk
      split_ifs at hk with hwanted
      obtain ⟨c, hc⟩ := contains_iff.mp hwanted
      exact ⟨c, hc, Working.reconcileAll_follows hall hc hk⟩

theorem history_current (policy : AcceptedRootCausePolicy) (deliveries : List Delivery)
    (hgoing : (history policy deliveries).exhausted = false) :
    Current policy (history policy deliveries) := by
  apply history_rule policy deliveries _ (fun g delivery g' _ hg hstep => hg.step hstep) hgoing
  exact ⟨rfl, fun id o ho => absurd ho (by simp [initial]), fun μ hμ => absurd hμ (by simp)⟩

/-- In every run with the default policy, a hypothesis about a path cites each incident that was
active for its socket at the last reconciliation exactly once if and only if there was at most
one, or the incidents and the context fit into a list of eight. -/
theorem citations_complete_iff (deliveries : List Delivery)
    (hgoing : (history .standard deliveries).exhausted = false) {μ : Moment}
    (hlast : (history .standard deliveries).moments.getLast? = some μ)
    (hh : h ∈ (history .standard deliveries).engine.listActiveHypotheses)
    (hscope : h.scope = .socket s) (hcites : CitesPath h) :
    (∀ o ∈ μ.engine.incidentsAt (pathKey s),
      (h.supportingEvidence.map RootCauseEvidence.incident).count (some o.id) = 1) ↔
    (μ.engine.incidentsAt (pathKey s)).length ≤ 1 ∨
      (μ.engine.incidentsAt (pathKey s)).length + displacing μ.engine μ.clock s h.type ≤ 8 := by
  obtain ⟨hident, hpolicy, hfollows⟩ := (history_current .standard deliveries hgoing).last μ hlast
  obtain ⟨⟨⟨type, scope⟩, _⟩, he, rfl⟩ := mem_map.mp hh
  obtain ⟨c, hc, hfollow⟩ := hfollows _ _ (mem_entries.mp he)
  obtain ⟨htype, hsame, hreason, hincidents⟩ := hfollow.content
  rw [Moment.candidate] at hc
  obtain ⟨hkeytype, hkeyscope⟩ := CandidateKey.mk.inj (candidateAt_key hc)
  obtain rfl : scope = .socket s := by rw [← hkeyscope, ← hsame, hscope]
  have height : μ.engine.policy.maxEvidencePerHypothesis = 8 := by
    rw [hpolicy]
    rfl
  have hcandidate : CitesPath c := by
    rw [CitesPath, ← htype, ← hreason]
    exact hcites
  obtain ⟨_, hd, hcited⟩ := candidateAt_cites hident height.ge hc hcandidate
  rw [hcited.complete_iff hident hincidents, hd, height, htype, hkeytype]

def pathHeld (deliveries : List Delivery) :
    Option (Moment × RootCauseHypothesisObservation) :=
  (history .standard deliveries).moments.getLast?.bind fun μ =>
    ((history .standard deliveries).engine.listActiveHypotheses.find? (fun h =>
      h.type = .networkPathDegradation ∧ h.scope = .socket (sampleSocket 1))).map fun h => (μ, h)

theorem pathHeld_eq_some {deliveries : List Delivery} {μ : Moment}
    (hheld : pathHeld deliveries = some (μ, h)) :
    (history .standard deliveries).moments.getLast? = some μ ∧
      h ∈ (history .standard deliveries).engine.listActiveHypotheses ∧
      h.type = .networkPathDegradation ∧ h.scope = .socket (sampleSocket 1) := by
  simp only [pathHeld, Option.bind_eq_some_iff, Option.map_eq_some_iff, Prod.mk.injEq] at hheld
  obtain ⟨μ', hlast, _, hfind, rfl, rfl⟩ := hheld
  have hkind := List.find?_some hfind
  simp only [decide_eq_true_eq] at hkind
  exact ⟨hlast, mem_of_find?_eq_some hfind, hkind⟩

theorem citations_complete_sample : ∃ μ h,
    (history .standard (degradedPath none)).moments.getLast? = some μ ∧
      h ∈ (history .standard (degradedPath none)).engine.listActiveHypotheses ∧
      (μ.engine.incidentsAt (pathKey (sampleSocket 1))).length = 2 ∧
      ∀ o ∈ μ.engine.incidentsAt (pathKey (sampleSocket 1)),
        (h.supportingEvidence.map RootCauseEvidence.incident).count (some o.id) = 1 := by
  have hfits : (pathHeld (degradedPath none)).any (fun p =>
      decide ((p.1.engine.incidentsAt (pathKey (sampleSocket 1))).length = 2) &&
      decide ((p.1.engine.incidentsAt (pathKey (sampleSocket 1))).length +
        displacing p.1.engine p.1.clock (sampleSocket 1) .networkPathDegradation ≤ 8)) := by
    decide +kernel
  obtain ⟨⟨μ, h⟩, hheld, hfits⟩ := (Option.any_eq_true _ _).mp hfits
  obtain ⟨hlast, hactive, htype, hscope⟩ := pathHeld_eq_some hheld
  obtain ⟨htwo, hfits⟩ := (and_eq_true _ _).mp hfits
  refine ⟨μ, h, hlast, hactive, of_decide_eq_true htwo, ?_⟩
  refine (citations_complete_iff (degradedPath none) (by decide +kernel) hlast hactive hscope
    (.inl htype)).mpr (.inr ?_)
  rw [htype]
  exact of_decide_eq_true hfits

/-- Seven entries of context leave one of two incidents in the list. -/
theorem low_bitrate_drops_citation : ∃ μ h o,
    (history .standard (degradedPath (some 1000))).moments.getLast? = some μ ∧
      h ∈ (history .standard (degradedPath (some 1000))).engine.listActiveHypotheses ∧
      h.type = .networkPathDegradation ∧ h.scope = .socket (sampleSocket 1) ∧
      o ∈ μ.engine.incidentsAt (pathKey (sampleSocket 1)) ∧
      ∀ e ∈ h.supportingEvidence, e.incident ≠ some o.id := by
  have hlost : (pathHeld (degradedPath (some 1000))).any (fun p =>
      (p.1.engine.incidentsAt (pathKey (sampleSocket 1))).any fun o =>
        p.2.supportingEvidence.all fun e => e.incident != some o.id) := by
    decide +kernel
  obtain ⟨⟨μ, h⟩, hheld, hlost⟩ := (Option.any_eq_true _ _).mp hlost
  obtain ⟨hlast, hactive, htype, hscope⟩ := pathHeld_eq_some hheld
  obtain ⟨o, ho, hall⟩ := any_eq_true.mp hlost
  exact ⟨μ, h, o, hlast, hactive, htype, hscope, ho, by simpa using hall⟩
end RootCauseEngine
end WeakNet
