import WeakNet.RootCauseEngine

/-! The passes of `buildCandidatesLocked` work on one map that grows while it is walked.
`candidateAt` says, key by key and without a map, which candidate a key gets. The two agree whenever
the passes return, and they return exactly if no active incident has a scope that the diagnosis of
its type cannot unpack. -/

namespace WeakNet
open Foundation Foundation.OrderedMap CandidateKey
open List hiding lookup

/-- The scopes a diagnosis can unpack: a namespace for an uplink problem, a socket of a known
namespace for a routing problem. A path problem of anything but a socket gets no context. -/
def CandidateKey.Unpackable (key : CandidateKey) : Prop :=
  match key.type, key.scope with
  | .uplinkAvailabilityProblem, .netns _ => True
  | .uplinkAvailabilityProblem, _ => False
  | .localRoutingProblem, .socket id => id.netns.inode ≠ 0
  | .localRoutingProblem, _ => False
  | .networkPathDegradation, .socket id => id.netns.inode ≠ 0
  | _, _ => True

namespace RootCauseEngine
variable (engine : RootCauseEngine) (clock : ClockReadings)
def incidentsAt (key : CandidateKey) : List IncidentObservation :=
  (engine.activeIncidents.entries.map Prod.snd).filter (fun o => o.candidateKey = key)

def incidentCandidate (key : CandidateKey) : Option RootCauseHypothesisObservation :=
  ((engine.incidentsAt key).foldl
    (fun found incident => some (addIncident engine.policy.toRootCausePolicy found incident))
    none).map (upgrade key)

def context (key : CandidateKey) : Option CandidateTurn :=
  (engine.incidentCandidate key).bind (fun c => (engine.contextTurn clock key c).toOption)

def candidateAt (key : CandidateKey) : Option RootCauseHypothesisObservation :=
  let path : CandidateKey := ⟨.networkPathDegradation, key.scope⟩
  match key.type with
  | .uplinkAvailabilityProblem => (engine.context clock key).bind (fun turn =>
      (engine.uplinkTurn key turn.value).toOption.map Turn.value)
  | .localRoutingProblem | .networkPathDegradation => (engine.context clock key).map Turn.value
  | .localLinkSuspected => (engine.context clock path).bind (fun turn =>
      turn.fresh.head?.map Prod.snd)
  | .insufficientEvidence => (engine.context clock path).bind (fun turn => turn.pushed.head?)
  | .remoteOrUpstreamDegradation => (engine.context clock path).bind (fun turn =>
      (engine.upstreamTurn clock path turn.value).toOption.bind (fun upstream =>
        upstream.pushed.head?))

variable {v : RootCauseHypothesisObservation} {o : IncidentObservation}

section Incidents
variable {engine : RootCauseEngine} {clock : ClockReadings} {key : CandidateKey} {t : CandidateTurn}
theorem incidentCandidates_find? :
    (engine.incidentCandidates.mapValues upgrade).find? key = engine.incidentCandidate key := by
  have hfold := find?_foldl_update (fun e : ℕ × IncidentObservation => e.2.candidateKey)
    (fun found e => addIncident engine.policy.toRootCausePolicy found e.2)
    engine.activeIncidents.entries .empty key
  rw [find?_mapValues, incidentCandidates, hfold, incidentCandidate, incidentsAt, find?_empty,
    filter_map, foldl_map]
  rfl

theorem mem_incidentsAt : o ∈ engine.incidentsAt key ↔
    ∃ id, engine.activeIncidents.find? id = some o ∧ o.candidateKey = key := by
  simp [incidentsAt, mem_entries]

theorem incidentCandidate_eq_none : engine.incidentCandidate key = none ↔
    engine.incidentsAt key = [] := by
  rw [incidentCandidate, Option.map_eq_none_iff]
  cases engine.incidentsAt key with
  | nil => simp
  | cons o l =>
    refine iff_of_false ?_ (cons_ne_nil o l)
    rw [foldl_cons]
    exact foldlRecOn (motive := fun found => ¬found = none) l _ nofun fun _ _ _ _ => nofun

theorem exists_incident (h : engine.incidentCandidate key = some v) :
    ∃ o, o ∈ engine.incidentsAt key := by
  apply exists_mem_of_ne_nil
  intro hnil
  rw [incidentCandidate_eq_none.mpr hnil] at h
  cases h

theorem incidentRule_type (type : IncidentType) :
    (incidentRule type).type = .uplinkAvailabilityProblem ∨
      (incidentRule type).type = .localRoutingProblem ∨
      (incidentRule type).type = .networkPathDegradation := by
  cases type <;> simp [incidentRule]

theorem incidentCandidate_type (h : engine.incidentCandidate key = some v) :
    key.type = .uplinkAvailabilityProblem ∨ key.type = .localRoutingProblem ∨
      key.type = .networkPathDegradation := by
  obtain ⟨o, ho⟩ := exists_incident h
  obtain ⟨_, -, rfl⟩ := mem_incidentsAt.mp ho
  exact incidentRule_type ..
end Incidents

section Turns
variable {engine : RootCauseEngine} {clock : ClockReadings} {key : CandidateKey}
    {w : RootCauseHypothesisObservation} {t : CandidateTurn}

/-- What a turn of the context loop may emplace and collect: only for a path candidate, at most
one candidate each, for diagnoses derived from the path and for the same scope. -/
structure PathTurn (key : CandidateKey) (t : CandidateTurn) : Prop where
  fresh : ∀ e ∈ t.fresh, key.type = .networkPathDegradation ∧ e.1 = ⟨.localLinkSuspected, key.scope⟩
  pushed : ∀ o ∈ t.pushed, key.type = .networkPathDegradation ∧
    o.key = ⟨.insufficientEvidence, key.scope⟩
  fresh_length : t.fresh.length ≤ 1
  pushed_length : t.pushed.length ≤ 1

theorem PathTurn.quiet (h : RootCauseHypothesisObservation) : PathTurn key ⟨h, [], []⟩ :=
  ⟨forall_mem_nil _, forall_mem_nil _, Nat.zero_le 1, Nat.zero_le 1⟩

theorem pathTurn_frame (policy : RootCausePolicy) (facts : PathFacts) (standIn : Fallbacks)
    (hkey : key.type = .networkPathDegradation) :
    PathTurn key (pathTurn policy facts standIn key.scope v) := by
  refine ⟨fun e he => ?_, fun o ho => ?_, ?_, ?_⟩
  · simp only [pathTurn] at he
    split_ifs at he
    · rw [mem_singleton] at he
      exact ⟨hkey, by rw [he]⟩
    · cases he
  · simp only [pathTurn, mem_append] at ho
    refine ⟨hkey, ?_⟩
    rcases ho with ho | ho
    · split_ifs at ho
      · cases ho
      · rw [mem_singleton.mp ho]
        rfl
    · split_ifs at ho
      · rw [mem_singleton.mp ho]
        rfl
      · cases ho
  · simp only [pathTurn]
    split_ifs <;> simp
  · -- missing probe context only counts when the route is known
    simp only [pathTurn]
    by_cases hroute : facts.usableRoute.isSome
    · rw [if_pos hroute]
      split_ifs <;> simp
    · have hnot : facts.probeContextMissing = false := by
        simp [PathFacts.probeContextMissing, hroute]
      rw [if_neg hroute, hnot]
      simp

section
variable (h : engine.contextTurn clock key v = .ok t)
include h
theorem contextTurn_cases :
    (∃ socket standIn, key = ⟨.localRoutingProblem, .socket socket⟩ ∧
      syntheticRouteEvent socket = .ok standIn ∧
      t = ⟨engine.routingHypothesis clock socket standIn v, [], []⟩) ∨
    (∃ socket standIn, key = ⟨.networkPathDegradation, .socket socket⟩ ∧
      fallbacks socket = .ok standIn ∧
      t = pathTurn engine.policy.toRootCausePolicy (engine.pathFacts clock socket) standIn
        key.scope v) ∨
    (key.type ≠ .localRoutingProblem ∧ (∀ socket, key ≠ ⟨.networkPathDegradation, .socket socket⟩) ∧
      t = ⟨v, [], []⟩) := by
  obtain ⟨type, scope⟩ := key
  rw [contextTurn] at h
  split at h
  · rename_i socket htype hscope
    simp only at htype hscope
    split at h
    · rename_i standIn hstand
      exact .inl ⟨socket, standIn, by rw [htype, hscope], hstand, (Except.ok.inj h).symm⟩
    · cases h
  · cases h
  · rename_i socket htype hscope
    simp only at htype hscope
    split at h
    · rename_i standIn hstand
      exact .inr (.inl ⟨socket, standIn, by rw [htype, hscope], hstand, (Except.ok.inj h).symm⟩)
    · cases h
  · rename_i hrouting hsocket hpath
    refine .inr (.inr ⟨fun htype => ?_, fun socket hkey => ?_, (Except.ok.inj h).symm⟩)
    · exact hrouting htype
    · obtain ⟨htype, hscope⟩ := CandidateKey.mk.inj hkey
      exact hpath socket htype hscope

theorem contextTurn_frame : PathTurn key t := by
  rcases contextTurn_cases h with ⟨socket, standIn, rfl, -, rfl⟩ | ⟨socket, standIn, rfl, -, rfl⟩ |
    ⟨-, -, rfl⟩
  · exact PathTurn.quiet _
  · exact pathTurn_frame _ _ _ rfl
  · exact PathTurn.quiet _
end

theorem contextTurn_tame (engine : RootCauseEngine) (clock : ClockReadings) (m : CandidateMap) :
    Tame (engine.contextTurn clock) m := by
  refine ⟨fun k u t ht e he x => ?_, fun j j' u u' t t' k x x' hj hj' ht ht' hx hx' => ?_⟩
  · obtain ⟨-, hkey⟩ := (contextTurn_frame ht).fresh e he
    rw [hkey]
    rfl
  · -- both turns are the one of the path candidate of the same scope
    obtain ⟨htype, hkey⟩ := (contextTurn_frame ht).fresh (k, x) hx
    obtain ⟨htype', hkey'⟩ := (contextTurn_frame ht').fresh (k, x') hx'
    have hscope : j.scope = j'.scope := (CandidateKey.mk.inj (hkey.symm.trans hkey')).2
    obtain rfl : j = j' := by
      cases j
      cases j'
      simp only at htype htype' hscope
      rw [htype, htype', hscope]
    cases hj.symm.trans hj'
    cases ht.symm.trans ht'
    have hlen := (contextTurn_frame ht).fresh_length
    obtain ⟨e, he⟩ := length_eq_one_iff.mp (le_antisymm hlen (length_pos_of_mem hx))
    rw [he, mem_singleton] at hx hx'
    exact (Prod.mk.inj (hx.trans hx'.symm)).2

theorem uplinkTurn_frame (h : engine.uplinkTurn key v = .ok t) : t.fresh = [] ∧ t.pushed = [] ∧
    (key.type ≠ .uplinkAvailabilityProblem → t.value = v) := by
  obtain ⟨type, scope⟩ := key
  rw [uplinkTurn] at h
  split at h
  · rename_i netns htype hscope
    cases h
    exact ⟨rfl, rfl, absurd htype⟩
  · cases h
  · cases h
    exact ⟨rfl, rfl, fun _ => rfl⟩

theorem upstreamTurn_frame (h : engine.upstreamTurn clock key v = .ok t) :
    t.value = v ∧ t.fresh = [] ∧ t.pushed.length ≤ 1 ∧
      ∀ o ∈ t.pushed, key.type = .networkPathDegradation ∧
        o.key = ⟨.remoteOrUpstreamDegradation, key.scope⟩ := by
  obtain ⟨type, scope⟩ := key
  rw [upstreamTurn] at h
  split at h
  · rename_i socket htype hscope
    split_ifs at h with hbeyond
    · split at h
      · cases h
        split_ifs
        · simp
        · simp only [length_singleton, mem_singleton, le_refl, true_and]
          intro o ho
          rw [ho]
          exact ⟨htype, rfl⟩
      · cases h
    · cases h
      simp
  · cases h
    simp

theorem sweep_quiet (body : CandidateKey → RootCauseHypothesisObservation →
    Except RootCauseError CandidateTurn) (m : CandidateMap)
    (h : ∀ k u t, body k u = .ok t → t.fresh = []) : Ended body m (m.sweep body) := by
  have hnone : ∀ k u t, body k u = .ok t → ∀ e, e ∉ t.fresh := by
    intro k u t ht e he
    rw [h k u t ht] at he
    cases he
  apply sweep_ended _ id (fun k u t _ ht e he => absurd he (hnone k u t ht e))
  exact ⟨fun k u t ht e he => absurd he (hnone k u t ht e),
    fun j j' u u' t t' k x x' hj hj' ht ht' hx hx' => absurd hx (hnone j u t ht _)⟩
end Turns

inductive Built (engine : RootCauseEngine) (clock : ClockReadings) :
    Except RootCauseError CandidateMap → Prop
  | context {error k u}
      (hk : (engine.incidentCandidates.mapValues upgrade).find? k = some u)
      (hthrow : engine.contextTurn clock k u = .error error) : Built engine clock (.error error)
  | uplink {m₁ insufficient error k u}
      (hcontext : Swept (engine.contextTurn clock) (engine.incidentCandidates.mapValues upgrade) m₁
        insufficient)
      (hk : (insufficient.foldl emplaceCandidate m₁).find? k = some u)
      (hthrow : engine.uplinkTurn k u = .error error) : Built engine clock (.error error)
  | upstream {m₁ insufficient m₂ unused error k u}
      (hcontext : Swept (engine.contextTurn clock) (engine.incidentCandidates.mapValues upgrade) m₁
        insufficient)
      (huplink : Swept engine.uplinkTurn (insufficient.foldl emplaceCandidate m₁) m₂ unused)
      (hk : m₂.find? k = some u)
      (hthrow : engine.upstreamTurn clock k u = .error error) : Built engine clock (.error error)
  | done {m₁ insufficient m₂ unused m₃ remote}
      (hcontext : Swept (engine.contextTurn clock) (engine.incidentCandidates.mapValues upgrade) m₁
        insufficient)
      (huplink : Swept engine.uplinkTurn (insufficient.foldl emplaceCandidate m₁) m₂ unused)
      (hupstream : Swept (engine.upstreamTurn clock) m₂ m₃ remote) :
      Built engine clock (.ok (remote.foldl emplaceCandidate m₃))

variable {m₁ m₂ : CandidateMap} {insufficient unused : List RootCauseHypothesisObservation}

section Passes
variable {engine : RootCauseEngine} {clock : ClockReadings} {key : CandidateKey}
    {m m₃ : CandidateMap} {remote : List RootCauseHypothesisObservation}
theorem mem_iff_head? {α : Type*} {l : List α} (hlen : l.length ≤ 1) {a : α} :
    a ∈ l ↔ l.head? = some a := by
  cases l with
  | nil => simp
  | cons _ l =>
    have hnil : l = [] := by
      apply eq_nil_of_length_eq_zero
      simp only [length_cons] at hlen
      omega
    simp [hnil, eq_comm]

theorem find?_emplaceAll (l : List RootCauseHypothesisObservation) :
    (l.foldl emplaceCandidate m).find? key =
      (m.find? key).or (lookup key (l.map (fun h => (h.key, h)))) := by
  rw [← find?_foldl_emplace, foldl_map]
  rfl

theorem lookup_keyed {l : List RootCauseHypothesisObservation}
    {found : Option RootCauseHypothesisObservation}
    (hfound : ∀ h, found = some h ↔ h ∈ l ∧ h.key = key) :
    lookup key (l.map (fun h => (h.key, h))) = found := by
  cases hlook : lookup key (l.map (fun h => (h.key, h))) with
  | some =>
    obtain ⟨a, ha, hpair⟩ := mem_map.mp (lookup_mem hlook)
    obtain ⟨hkey, rfl⟩ := Prod.mk.inj hpair
    exact ((hfound a).mpr ⟨ha, hkey⟩).symm
  | none =>
    cases found with
    | none => rfl
    | some h =>
      obtain ⟨hmem, hkey⟩ := (hfound h).mp rfl
      have hpair : (key, h) ∈ l.map (fun h => (h.key, h)) := mem_map.mpr ⟨h, hmem, by rw [hkey]⟩
      obtain ⟨_, hw⟩ := exists_lookup_of_mem hpair
      rw [hlook] at hw
      cases hw

theorem context_eq_some {t : CandidateTurn} : engine.context clock key = some t ↔
    ∃ v, engine.incidentCandidate key = some v ∧ engine.contextTurn clock key v = .ok t := by
  rw [context, Option.bind_eq_some_iff]
  refine exists_congr fun v => and_congr_right fun _ => ?_
  cases engine.contextTurn clock key v with
  | ok | error => simp [Except.toOption]

theorem exists_turn_iff {P : CandidateTurn → Prop} (scope : IncidentScope)
    (hP : ∀ k v t, engine.contextTurn clock k v = .ok t → P t →
      k = ⟨.networkPathDegradation, scope⟩) :
    (∃ k v t, (engine.incidentCandidates.mapValues upgrade).find? k = some v ∧
      engine.contextTurn clock k v = .ok t ∧ P t) ↔
    ∃ t, engine.context clock ⟨.networkPathDegradation, scope⟩ = some t ∧ P t := by
  refine ⟨fun h => ?_, fun h => ?_⟩
  · obtain ⟨k, v, t, hk, ht, hp⟩ := h
    obtain rfl := hP k v t ht hp
    rw [incidentCandidates_find?] at hk
    exact ⟨t, context_eq_some.mpr ⟨v, hk, ht⟩, hp⟩
  · obtain ⟨t, ht, hp⟩ := h
    obtain ⟨v, hv, hturn⟩ := context_eq_some.mp ht
    exact ⟨_, v, t, incidentCandidates_find?.trans hv, hturn, hp⟩

variable (hcontext : Swept (engine.contextTurn clock) (engine.incidentCandidates.mapValues upgrade)
    m₁ insufficient)
include hcontext
theorem find?_contextual (hkey : key.type ≠ .localLinkSuspected) :
    m₁.find? key = (engine.context clock key).map Turn.value := by
  cases hv : engine.incidentCandidate key with
  | some v =>
    obtain ⟨t, ht, hfind⟩ := hcontext.entry key v (incidentCandidates_find?.trans hv)
    rw [hfind, context_eq_some.mpr ⟨v, hv, ht⟩, Option.map_some]
  | none =>
    have hnone : engine.context clock key = none := by rw [context, hv, Option.bind_none]
    rw [hnone, Option.map_none, Option.eq_none_iff_forall_ne_some]
    intro w hw
    obtain ⟨_, _, t, -, ht, hmem⟩ :=
      (hcontext.fresh key (incidentCandidates_find?.trans hv) w).mp hw
    obtain ⟨-, hlocal⟩ := (contextTurn_frame ht).fresh (key, w) hmem
    exact hkey (congrArg type hlocal)

theorem find?_localLink (scope : IncidentScope) : m₁.find? ⟨.localLinkSuspected, scope⟩ =
    (engine.context clock ⟨.networkPathDegradation, scope⟩).bind
      (fun turn => turn.fresh.head?.map Prod.snd) := by
  have hbase : engine.incidentCandidate ⟨.localLinkSuspected, scope⟩ = none := by
    cases hv : engine.incidentCandidate ⟨.localLinkSuspected, scope⟩ with
    | none => rfl
    | some => simpa using incidentCandidate_type hv
  apply Option.ext
  intro w
  rw [hcontext.fresh _ (incidentCandidates_find?.trans hbase) w, exists_turn_iff scope,
    Option.bind_eq_some_iff]
  · refine exists_congr fun t => and_congr_right fun ht => ?_
    obtain ⟨v, -, hturn⟩ := context_eq_some.mp ht
    have hframe := contextTurn_frame hturn
    rw [mem_iff_head? hframe.fresh_length, Option.map_eq_some_iff]
    refine ⟨fun h => ⟨_, h, rfl⟩, fun h => ?_⟩
    obtain ⟨e, he, rfl⟩ := h
    obtain ⟨-, hkey⟩ := hframe.fresh e (mem_of_head? he)
    rw [he, ← hkey]
  · intro k v t ht hmem
    obtain ⟨htype, hkey⟩ := (contextTurn_frame ht).fresh _ hmem
    obtain ⟨_, _⟩ := k
    cases hkey
    rw [← htype]

theorem lookup_insufficient : lookup key (insufficient.map (fun h => (h.key, h))) =
    if key.type = .insufficientEvidence then
      (engine.context clock ⟨.networkPathDegradation, key.scope⟩).bind
        (fun turn => turn.pushed.head?)
    else none := by
  apply lookup_keyed
  intro h
  split_ifs with hkey
  · rw [Option.bind_eq_some_iff, hcontext.pushed]
    have hiff : (∃ k v t, (engine.incidentCandidates.mapValues upgrade).find? k = some v ∧
        engine.contextTurn clock k v = .ok t ∧ h ∈ t.pushed ∧ h.key = key) ↔ _ :=
      exists_turn_iff (P := fun t => h ∈ t.pushed ∧ h.key = key) key.scope
        (fun k v t ht hp => by
          obtain ⟨htype, hpushed⟩ := (contextTurn_frame ht).pushed h hp.1
          have hscope : key.scope = k.scope := by rw [← hp.2, hpushed]
          rw [hscope, ← htype])
    refine ⟨fun hsome => ?_, fun hmem => ?_⟩
    · obtain ⟨t, ht, hhead⟩ := hsome
      obtain ⟨v, hv, hturn⟩ := context_eq_some.mp ht
      have hmem := mem_of_head? hhead
      have hown := ((contextTurn_frame hturn).pushed h hmem).2
      refine ⟨⟨_, v, t, incidentCandidates_find?.trans hv, hturn, hmem⟩, ?_⟩
      rw [hown, ← hkey]
    · obtain ⟨⟨k, v, t, hk, ht, hmem⟩, hown⟩ := hmem
      obtain ⟨t', ht', hmem', -⟩ := hiff.mp ⟨k, v, t, hk, ht, hmem, hown⟩
      obtain ⟨_, -, hturn⟩ := context_eq_some.mp ht'
      exact ⟨t', ht', (mem_iff_head? (contextTurn_frame hturn).pushed_length).mp hmem'⟩
  · refine ⟨fun hnone => (by cases hnone), fun hmem => ?_⟩
    obtain ⟨hpushed, hown⟩ := hmem
    obtain ⟨k, v, t, -, ht, hmem⟩ := (hcontext.pushed h).mp hpushed
    obtain ⟨-, hins⟩ := (contextTurn_frame ht).pushed h hmem
    exact absurd (by rw [← hown, hins]) hkey

omit hcontext

theorem find?_checked (huplink : Swept engine.uplinkTurn m m₂ unused) :
    m₂.find? key = if key.type = .uplinkAvailabilityProblem then
      (m.find? key).bind (fun h => (engine.uplinkTurn key h).toOption.map Turn.value)
    else m.find? key := by
  cases hv : m.find? key with
  | some v =>
    obtain ⟨t, ht, hfind⟩ := huplink.entry key v hv
    rw [hfind]
    split_ifs with hkey
    · rw [Option.bind_some, ht]
      rfl
    · rw [(uplinkTurn_frame ht).2.2 hkey]
  | none =>
    have hnone : m₂.find? key = none := by
      rw [Option.eq_none_iff_forall_ne_some]
      intro w hw
      obtain ⟨_, _, t, -, ht, hmem⟩ := (huplink.fresh key hv w).mp hw
      rw [(uplinkTurn_frame ht).1] at hmem
      cases hmem
    rw [hnone, Option.bind_none, ite_self]

theorem find?_walked (hupstream : Swept (engine.upstreamTurn clock) m m₃ remote) :
    m₃.find? key = m.find? key := by
  cases hv : m.find? key with
  | some v =>
    obtain ⟨t, ht, hfind⟩ := hupstream.entry key v hv
    rw [hfind, (upstreamTurn_frame ht).1]
  | none =>
    rw [Option.eq_none_iff_forall_ne_some]
    intro w hw
    obtain ⟨_, _, t, -, ht, hmem⟩ := (hupstream.fresh key hv w).mp hw
    rw [(upstreamTurn_frame ht).2.1] at hmem
    cases hmem

theorem lookup_remote (hupstream : Swept (engine.upstreamTurn clock) m m₃ remote) :
    lookup key (remote.map (fun h => (h.key, h))) =
      if key.type = .remoteOrUpstreamDegradation then
        (m.find? ⟨.networkPathDegradation, key.scope⟩).bind (fun h =>
          (engine.upstreamTurn clock ⟨.networkPathDegradation, key.scope⟩ h).toOption.bind
            (fun upstream => upstream.pushed.head?))
      else none := by
  apply lookup_keyed
  intro h
  rw [hupstream.pushed]
  split_ifs with hkey
  · rw [Option.bind_eq_some_iff]
    refine ⟨fun hsome => ?_, fun hmem => ?_⟩
    · obtain ⟨v, hv, hpushed⟩ := hsome
      obtain ⟨t, ht, -⟩ := hupstream.entry _ v hv
      rw [ht] at hpushed
      have hmem : h ∈ t.pushed := mem_of_head? hpushed
      refine ⟨⟨_, v, t, hv, ht, hmem⟩, ?_⟩
      rw [((upstreamTurn_frame ht).2.2.2 h hmem).2, ← hkey]
    · obtain ⟨⟨k, v, t, hk, ht, hmem⟩, hown⟩ := hmem
      obtain ⟨htype, hremote⟩ := (upstreamTurn_frame ht).2.2.2 h hmem
      have hpath : k = ⟨.networkPathDegradation, key.scope⟩ := by
        rw [← hown, hremote, ← htype]
      subst hpath
      refine ⟨v, hk, ?_⟩
      rw [ht]
      exact (mem_iff_head? (upstreamTurn_frame ht).2.2.1).mp hmem
  · refine ⟨fun hnone => (by cases hnone), fun hmem => ?_⟩
    obtain ⟨⟨k, v, t, -, ht, hmem⟩, hown⟩ := hmem
    have hremote := ((upstreamTurn_frame ht).2.2.2 h hmem).2
    exact absurd (by rw [← hown, hremote]) hkey

theorem buildCandidatesLocked_built (engine : RootCauseEngine) (clock : ClockReadings) :
    Built engine clock (engine.buildCandidatesLocked clock) := by
  have hfirst := sweep_ended (contextTurn_tame engine clock
    (engine.incidentCandidates.mapValues upgrade)) (fun k => ⟨.localLinkSuspected, k.scope⟩)
    (fun k v t _ ht e he => ((contextTurn_frame ht).fresh e he).2)
  simp only [buildCandidatesLocked, bind, Except.bind, pure, Except.pure]
  cases hone : (engine.incidentCandidates.mapValues upgrade).sweep (engine.contextTurn clock) with
  | error =>
    rw [hone] at hfirst
    obtain ⟨k, u, hk, hthrow⟩ := hfirst
    exact .context hk hthrow
  | ok r =>
    rw [hone] at hfirst
    have hsecond := sweep_quiet engine.uplinkTurn (r.2.foldl emplaceCandidate r.1)
      (fun k u t ht => (uplinkTurn_frame ht).1)
    cases htwo : (r.2.foldl emplaceCandidate r.1).sweep engine.uplinkTurn with
    | error =>
      rw [htwo] at hsecond
      obtain ⟨k, u, hk, hthrow⟩ := hsecond
      simp only [htwo]
      exact .uplink hfirst hk hthrow
    | ok r' =>
      rw [htwo] at hsecond
      have hthird := sweep_quiet (engine.upstreamTurn clock) r'.1
        (fun k u t ht => (upstreamTurn_frame ht).2.1)
      simp only [htwo]
      cases hthree : r'.1.sweep (engine.upstreamTurn clock) with
      | error =>
        rw [hthree] at hthird
        obtain ⟨k, u, hk, hthrow⟩ := hthird
        exact .upstream hfirst hsecond hk hthrow
      | ok =>
        rw [hthree] at hthird
        exact .done hfirst hsecond hthird

theorem Built.passes (h : Built engine clock (.ok m)) : ∃ m₁ insufficient m₂ unused m₃ remote,
    Swept (engine.contextTurn clock) (engine.incidentCandidates.mapValues upgrade) m₁ insufficient ∧
      Swept engine.uplinkTurn (insufficient.foldl emplaceCandidate m₁) m₂ unused ∧
      Swept (engine.upstreamTurn clock) m₂ m₃ remote ∧
      m = remote.foldl emplaceCandidate m₃ := by
  cases h with
  | done hcontext huplink hupstream =>
    exact ⟨_, _, _, _, _, _, hcontext, huplink, hupstream, rfl⟩

theorem buildCandidatesLocked_find? (h : engine.buildCandidatesLocked clock = .ok m) :
    m.find? key = engine.candidateAt clock key := by
  obtain ⟨_, _, m₂, _, _, _, hcontext, huplink, hupstream, rfl⟩ :=
    (h ▸ buildCandidatesLocked_built engine clock).passes
  have hpath : ∀ scope, m₂.find? ⟨.networkPathDegradation, scope⟩ =
      (engine.context clock ⟨.networkPathDegradation, scope⟩).map Turn.value := by
    intro scope
    rw [find?_checked huplink, if_neg nofun, find?_emplaceAll, find?_contextual hcontext
      (by simp), lookup_insufficient hcontext, if_neg (by simp), Option.or_none]
  have hother : key.type ≠ .uplinkAvailabilityProblem → key.type ≠ .localLinkSuspected →
      m₂.find? key = ((engine.context clock key).map Turn.value).or
        (if key.type = .insufficientEvidence then
          (engine.context clock ⟨.networkPathDegradation, key.scope⟩).bind
            (fun turn => turn.pushed.head?) else none) := by
    intro hup hlocal
    rw [find?_checked huplink, if_neg hup, find?_emplaceAll, find?_contextual hcontext hlocal,
      lookup_insufficient hcontext]
  have hderived : key.type = .insufficientEvidence ∨ key.type = .remoteOrUpstreamDegradation →
      engine.context clock key = none := by
    intro htype
    cases hv : engine.incidentCandidate key with
    | none => rw [context, hv, Option.bind_none]
    | some =>
      have hbase := incidentCandidate_type hv
      rcases htype with htype | htype <;> simp [htype] at hbase
  rw [find?_emplaceAll, find?_walked hupstream, lookup_remote hupstream, candidateAt]
  obtain ⟨type, scope⟩ := key
  cases type with
  | uplinkAvailabilityProblem =>
    rw [if_neg nofun, Option.or_none, find?_checked huplink, if_pos rfl, find?_emplaceAll,
      find?_contextual hcontext (by simp), lookup_insufficient hcontext, if_neg nofun,
      Option.or_none, Option.bind_map]
    rfl
  | localRoutingProblem =>
    rw [hother nofun nofun, if_neg nofun, if_neg nofun, Option.or_none, Option.or_none]
  | networkPathDegradation => rw [hpath, if_neg nofun, Option.or_none]
  | remoteOrUpstreamDegradation =>
    rw [hother nofun nofun, if_neg nofun, if_pos rfl, hderived (.inr rfl), hpath, Option.bind_map]
    rfl
  | localLinkSuspected =>
    rw [if_neg nofun, Option.or_none, find?_checked huplink, if_neg nofun,
      find?_emplaceAll, find?_localLink hcontext, lookup_insufficient hcontext,
      if_neg nofun, Option.or_none]
  | insufficientEvidence =>
    rw [hother nofun nofun, if_pos rfl, if_neg nofun, Option.or_none, hderived (.inl rfl)]
    rfl
end Passes

section Unpacking
theorem make_ok_iff {α : Type} {wrap : α → NetworkEventPayload} {header : NetworkEventHeader}
    {value : α}
    (hbuilt : constructorError header (wrap value) = none ↔ header.netns.inode ≠ 0) :
    (∃ o, Observed.make wrap header value = .ok o) ↔ header.netns.inode ≠ 0 := by
  rw [← hbuilt, Observed.make, NetworkEvent.make]
  by_cases h : constructorError header (wrap value) = none
  all_goals simp [h]

variable (socket : SocketId) (netns : NetnsId)
theorem syntheticRouteEvent_ok_iff :
    (∃ o, syntheticRouteEvent socket = .ok o) ↔ socket.netns.inode ≠ 0 := by
  apply make_ok_iff
  simp [constructorError, syntheticHeader, payloadError, kindFor, networkEventSchemaVersion]

theorem syntheticUplinkEvent_ok_iff :
    (∃ o, syntheticUplinkEvent netns = .ok o) ↔ netns.inode ≠ 0 := by
  apply make_ok_iff
  simp [constructorError, syntheticHeader, payloadError, kindFor, networkEventSchemaVersion]

theorem syntheticProbeEvent_ok_iff (kind : ProbeTargetKind) :
    (∃ o, syntheticProbeEvent netns kind = .ok o) ↔ netns.inode ≠ 0 := by
  apply make_ok_iff
  simp [constructorError, syntheticHeader, payloadError, kindFor, networkEventSchemaVersion]

theorem syntheticWifiEvent_ok_iff :
    (∃ o, syntheticWifiEvent netns = .ok o) ↔ netns.inode ≠ 0 := by
  apply make_ok_iff
  simp [constructorError, syntheticHeader, payloadError, kindFor, networkEventSchemaVersion,
    interfacesDiffer]

theorem fallbacks_ok_iff : (∃ o, fallbacks socket = .ok o) ↔ socket.netns.inode ≠ 0 := by
  refine ⟨fun h => ?_, fun h => ?_⟩
  · obtain ⟨o, ho⟩ := h
    cases hroute : syntheticRouteEvent socket with
    | ok route => exact (syntheticRouteEvent_ok_iff socket).mp ⟨route, hroute⟩
    | error =>
      rw [fallbacks, hroute] at ho
      cases ho
  · obtain ⟨route, hroute⟩ := (syntheticRouteEvent_ok_iff socket).mpr h
    obtain ⟨uplink, huplink⟩ := (syntheticUplinkEvent_ok_iff socket.netns).mpr h
    obtain ⟨gateway, hgateway⟩ := (syntheticProbeEvent_ok_iff socket.netns .gateway).mpr h
    obtain ⟨remote, hremote⟩ := (syntheticProbeEvent_ok_iff socket.netns .remote).mpr h
    obtain ⟨wifi, hwifi⟩ := (syntheticWifiEvent_ok_iff socket.netns).mpr h
    refine ⟨⟨route, uplink, gateway, remote, wifi⟩, ?_⟩
    rw [fallbacks, hroute, huplink, hgateway, hremote, hwifi]
    rfl

variable {engine : RootCauseEngine} {clock : ClockReadings} {key : CandidateKey}
theorem contextTurn_ok_iff : (∃ t, engine.contextTurn clock key v = .ok t) ↔
    key.type = .uplinkAvailabilityProblem ∨ key.Unpackable := by
  obtain ⟨type, scope⟩ := key
  cases type with
  | localRoutingProblem =>
    cases scope with
    | socket socket =>
      have hbuilt := syntheticRouteEvent_ok_iff socket
      cases hroute : syntheticRouteEvent socket with
      | ok | error => simpa [contextTurn, CandidateKey.Unpackable, hroute] using hbuilt
    | interface | netns => simp [contextTurn, CandidateKey.Unpackable]
  | networkPathDegradation =>
    cases scope with
    | socket socket =>
      have hbuilt := fallbacks_ok_iff socket
      cases hstand : fallbacks socket with
      | ok | error => simpa [contextTurn, CandidateKey.Unpackable, hstand] using hbuilt
    | interface | netns => simp [contextTurn, CandidateKey.Unpackable]
  | uplinkAvailabilityProblem => simp [contextTurn]
  | remoteOrUpstreamDegradation | localLinkSuspected | insufficientEvidence =>
    simp [contextTurn, CandidateKey.Unpackable]

theorem uplinkTurn_ok_iff : (∃ t, engine.uplinkTurn key v = .ok t) ↔
    key.type ≠ .uplinkAvailabilityProblem ∨ key.Unpackable := by
  obtain ⟨type, scope⟩ := key
  cases type with
  | uplinkAvailabilityProblem =>
    cases scope <;> simp [uplinkTurn, CandidateKey.Unpackable]
  | localRoutingProblem
  | networkPathDegradation
  | remoteOrUpstreamDegradation
  | localLinkSuspected
  | insufficientEvidence => simp [uplinkTurn]

theorem upstreamTurn_ok (h : key.Unpackable) : ∃ t, engine.upstreamTurn clock key v = .ok t := by
  rw [upstreamTurn]
  split
  · rename_i socket htype hscope
    split_ifs with hbeyond
    · have hinode : socket.netns.inode ≠ 0 := by
        simpa [CandidateKey.Unpackable, htype, hscope] using h
      obtain ⟨fallback, hfallback⟩ := (syntheticProbeEvent_ok_iff socket.netns .remote).mpr hinode
      rw [hfallback]
      exact ⟨_, rfl⟩
    · exact ⟨_, rfl⟩
  · exact ⟨_, rfl⟩

theorem incidentCandidate_of_active {id : ℕ} (ho : engine.activeIncidents.find? id = some o) :
    ∃ h, engine.incidentCandidate o.candidateKey = some h := by
  rw [← Option.ne_none_iff_exists']
  intro hnone
  have hmem : o ∈ engine.incidentsAt o.candidateKey := mem_incidentsAt.mpr ⟨id, ho, rfl⟩
  rw [incidentCandidate_eq_none.mp hnone] at hmem
  cases hmem

section
variable (hall : ∀ id o, engine.activeIncidents.find? id = some o → o.candidateKey.Unpackable)
include hall
theorem unpackable_of_candidate (h : engine.incidentCandidate key = some v) : key.Unpackable := by
  obtain ⟨o, ho⟩ := exists_incident h
  obtain ⟨id, hfind, rfl⟩ := mem_incidentsAt.mp ho
  exact hall id o hfind

variable {u : RootCauseHypothesisObservation}

section
variable (hcontext : Swept (engine.contextTurn clock)
  (engine.incidentCandidates.mapValues upgrade) m₁ insufficient)
include hcontext
theorem unpackable_of_contextual (h : (insufficient.foldl emplaceCandidate m₁).find? key = some u) :
    key.Unpackable := by
  by_cases htype : key.type = .uplinkAvailabilityProblem ∨ key.type = .localRoutingProblem ∨
      key.type = .networkPathDegradation
  · have hlocal : key.type ≠ .localLinkSuspected := by
      rcases htype with h | h | h <;> simp [h]
    have hins : key.type ≠ .insufficientEvidence := by
      rcases htype with h | h | h <;> simp [h]
    rw [find?_emplaceAll, find?_contextual hcontext hlocal, lookup_insufficient hcontext,
      if_neg hins, Option.or_none, Option.map_eq_some_iff] at h
    obtain ⟨_, ht, -⟩ := h
    obtain ⟨_, hv, -⟩ := context_eq_some.mp ht
    exact unpackable_of_candidate hall hv
  · obtain ⟨type, _⟩ := key
    cases type <;> simp_all [CandidateKey.Unpackable]

theorem unpackable_of_checked
    (huplink : Swept engine.uplinkTurn (insufficient.foldl emplaceCandidate m₁) m₂ unused)
    (h : m₂.find? key = some u) : key.Unpackable := by
  rw [find?_checked huplink] at h
  split_ifs at h
  · obtain ⟨_, hv, -⟩ := Option.bind_eq_some_iff.mp h
    exact unpackable_of_contextual hall hcontext hv
  · exact unpackable_of_contextual hall hcontext h
end
end

theorem buildCandidatesLocked_ok_iff : (∃ m, engine.buildCandidatesLocked clock = .ok m) ↔
    ∀ id o, engine.activeIncidents.find? id = some o → o.candidateKey.Unpackable := by
  have hbuilt := buildCandidatesLocked_built engine clock
  refine ⟨fun h id o ho => ?_, fun hall => ?_⟩
  · obtain ⟨m, hm⟩ := h
    rw [hm] at hbuilt
    obtain ⟨m₁, insufficient, _, _, _, _, hcontext, huplink, -, -⟩ := hbuilt.passes
    obtain ⟨v, hv⟩ := incidentCandidate_of_active ho
    obtain ⟨t, ht, hfind⟩ := hcontext.entry _ v (incidentCandidates_find?.trans hv)
    have hfirst := contextTurn_ok_iff.mp ⟨t, ht⟩
    have hlater : (insufficient.foldl emplaceCandidate m₁).find? o.candidateKey = some t.value := by
      rw [find?_emplaceAll, hfind, Option.some_or]
    obtain ⟨t', ht', -⟩ := huplink.entry _ _ hlater
    have hsecond := uplinkTurn_ok_iff.mp ⟨t', ht'⟩
    rcases hfirst with htype | hunpack
    · exact hsecond.resolve_left (not_not.mpr htype)
    · exact hunpack
  · generalize engine.buildCandidatesLocked clock = result at hbuilt
    cases hbuilt with
    | context hk hthrow =>
      have hunpack := unpackable_of_candidate hall (incidentCandidates_find?.symm.trans hk)
      obtain ⟨t, ht⟩ := contextTurn_ok_iff.mpr (.inr hunpack)
      cases ht.symm.trans hthrow
    | uplink hcontext hk hthrow =>
      have hunpack := unpackable_of_contextual hall hcontext hk
      obtain ⟨t, ht⟩ := uplinkTurn_ok_iff.mpr (.inr hunpack)
      cases ht.symm.trans hthrow
    | upstream hcontext huplink hk hthrow =>
      have hunpack := unpackable_of_checked hall hcontext huplink hk
      obtain ⟨t, ht⟩ := upstreamTurn_ok hunpack
      cases ht.symm.trans hthrow
    | done => exact ⟨_, rfl⟩
end Unpacking
end RootCauseEngine
end WeakNet
