import WeakNet.Ai.DbusAdapter
import WeakNet.DbusReply

/-! The reply of `handleV2GetDiagnosis`, unwrapped to plain values and read by the adapter. The
value of an evidence item is sent under the name of its type, and the adapter looks for it under
another name. -/

namespace WeakNet.Ai
open Foundation Foundation.Json Foundation.Fallible DbusService List Ai.DiagnosisSnapshot

namespace DbusDiagnosisSource
mutual

def unwrap : Variant → Value
  | .string text => .str text
  | .uint64 n => .int n
  | .double x => .float x
  | .strings texts => .list (texts.map .str)
  | .dicts items => .list (unwrapItems items)

def unwrapItems : List (List (String × Variant)) → List Value
  | [] => []
  | item :: items => .dict (unwrapDict item) :: unwrapItems items

def unwrapDict : List (String × Variant) → List (String × Value)
  | [] => []
  | (key, value) :: entries => (key, unwrap value) :: unwrapDict entries
end

theorem unwrapItems_eq (items : List Dict) :
    unwrapItems items = items.map fun item => .dict (unwrapDict item) := by
  induction items with
  | nil => rfl
  | cons _ _ ih => rw [unwrapItems, ih, map_cons]

theorem unwrapItems_map {α : Type} (dict : α → Dict) (l : List α) :
    unwrapItems (l.map dict) = l.map fun a => .dict (unwrapDict (dict a)) := by
  rw [unwrapItems_eq, map_map]
  rfl
end DbusDiagnosisSource

namespace DbusDiagnosisAdapter
open DbusDiagnosisSource

variable {py : Printer Double} {limits : DiagnosisLimits}

structure SameEvidence (sent : IncidentEvidence) (e : Evidence) : Prop where
  kind : e.kind = toString sent.sourceKind.index.val
  source : e.source = some (toString sent.source.index.val)
  timestampMs : e.timestampMs = some (milliseconds sent.observedAt : ℤ)

def numberOf : IncidentEvidenceValue → Value
  | .integer n => .int n
  | .real x => .float x

variable {e : Evidence}
theorem incidentEvidence_sent {sent : IncidentEvidence}
    (h : incidentEvidence limits (.dict (unwrapDict (incidentEvidenceDict sent))) = .ok e) :
    SameEvidence sent e ∧ e.value = .null := by
  obtain ⟨_, hentries, hparsed⟩ := incidentEvidence_ok h
  cases hentries
  obtain ⟨hkind, hsource, htimestamp, hvalue⟩ :
      get (normalizedItem (unwrapDict (incidentEvidenceDict sent))) "kind" =
        .str (toString sent.sourceKind.index.val) ∧
      get (normalizedItem (unwrapDict (incidentEvidenceDict sent))) "source" =
        ofText (some (toString sent.source.index.val)) ∧
      get (normalizedItem (unwrapDict (incidentEvidenceDict sent))) "timestamp_ms" =
        ofInt (some (milliseconds sent.observedAt : ℤ)) ∧
      get (normalizedItem (unwrapDict (incidentEvidenceDict sent))) "value" = .null := by
    rw [incidentEvidenceDict]
    rcases sent.value with _ | (n | x) <;> exact ⟨rfl, rfl, rfl, rfl⟩
  refine ⟨⟨?_, ?_, ?_⟩, ?_⟩
  · exact (Json.str.inj (hkind.symm.trans (string_eq_ok.mp hparsed.kind).1)).symm
  · exact (ofText_injective (hsource.symm.trans (optionalString_ok hparsed.source).1)).symm
  · exact (ofInt_injective (htimestamp.symm.trans (timestamp_ok hparsed.timestampMs).1)).symm
  · have hread := hparsed.value
    rw [hvalue] at hread
    exact (Except.ok.inj hread).symm

/-- The encoder writes `Active` for whatever is listed. -/
structure SameIncident (sent : IncidentObservation) (i : Incident) : Prop where
  type : i.type = incidentTypeName sent.type
  scope : i.scope = .str (scopeName sent.scope)
  state : i.state = "Active"
  evidence : List.Forall₂ SameEvidence sent.evidence i.evidence

variable {text : String}
theorem scope_str {copied : Value} (h : Ai.scope (.str text) limits = .ok copied) :
    copied = .str text := by
  change copyJsonValue limits "scope" (.str text) = .ok copied at h
  rw [copyJsonValue] at h
  obtain ⟨_, ht, hcopied⟩ := bind_eq_ok.mp h
  cases hcopied
  rw [Json.str.inj (string_eq_ok.mp ht).1]

variable {sent : IncidentObservation} {role : EvidenceRole} {i : Incident}
theorem incident_sent (h : incident py limits (.dict (unwrapDict (incidentDict sent))) = .ok i) :
    SameIncident sent i ∧ ∀ e ∈ i.evidence, e.value = .null := by
  obtain ⟨_, values, hentries, hvalues, hevidence, hparsed⟩ := incident_ok h
  cases hentries
  have hlist : values = sent.evidence.map fun item =>
      .dict (unwrapDict (incidentEvidenceDict item)) := by
    have hitems : unwrapItems (sent.evidence.map incidentEvidenceDict) = values :=
      Except.ok.inj hvalues
    rw [← hitems, unwrapItems_map]
  rw [hlist, forall₂_map_left_iff] at hevidence
  refine ⟨⟨?_, ?_, ?_, ?_⟩, fun e he => ?_⟩
  · exact (Json.str.inj (string_eq_ok.mp hparsed.type).1).symm
  · exact scope_str hparsed.scope
  · exact (Json.str.inj (string_eq_ok.mp hparsed.state).1).symm
  · exact hevidence.imp fun item e hread => (incidentEvidence_sent hread).1
  · obtain ⟨item, -, hread⟩ := exists_left hevidence he
    exact (incidentEvidence_sent hread).2

structure SameCitation (sent : RootCauseEvidence) (e : Evidence) : Prop where
  role : e.role.value = roleName sent.role
  kind : e.kind = rootCauseEvidenceKindName sent.kind
  scope : e.scope = .str (scopeName sent.scope)
  source : e.source = some (toString sent.source.index.val)
  timestampMs : e.timestampMs = some (milliseconds sent.observedAt : ℤ)
  capability : e.capability = some (toString sent.capability.ctorIdx)

def citations (sent : RootCauseHypothesisObservation) : EvidenceRole → List RootCauseEvidence
  | .supporting => sent.supportingEvidence
  | .contradicting => sent.contradictingEvidence
  | .missing => sent.missingEvidence

structure SameHypothesis (observedName : ByteString) (sent : RootCauseHypothesisObservation)
    (h : RootCauseHypothesis) : Prop where
  type : h.type = rootCauseTypeName sent.type
  scope : ∃ text, rootCauseScopeName observedName sent.scope = some text ∧ h.scope = .str text
  state : h.state = "Active"
  evidence : ∀ role, List.Forall₂ SameCitation (citations sent role) (h.evidence role)

theorem selectRole_value {entries : List (String × Value)} {selected : EvidenceRole}
    (h : Evidence.selectRole entries (some role) = .ok selected)
    (hrole : entries.lookup "role" = some (.str text)) : selected.value = text := by
  rw [Evidence.selectRole, hrole] at h
  dsimp only at h
  split at h
  · cases h
  · rename_i parsed hparse
    split_ifs at h
    cases h
    rw [EvidenceRole.parse] at hparse
    have hfound := List.find?_some hparse
    exact beq_iff_eq.mp hfound

theorem citation_sent {sent : RootCauseEvidence}
    (h : Evidence.fromDict (.dict (unwrapDict (evidenceDict sent))) (some role) limits = .ok e) :
    SameCitation sent e := by
  obtain ⟨_, hentries, hparsed⟩ := Evidence.fromDict_parsed h
  cases hentries
  have hcapability : ofText (some (toString sent.capability.ctorIdx)) = ofText e.capability :=
    (optionalString_ok hparsed.capability).1
  have hsource : ofText (some (toString sent.source.index.val)) = ofText e.source :=
    (optionalString_ok hparsed.source).1
  have htimestamp : ofInt (some (milliseconds sent.observedAt : ℤ)) = ofInt e.timestampMs :=
    (timestamp_ok hparsed.timestampMs).1
  refine ⟨selectRole_value hparsed.role rfl, ?_, ?_, ?_, ?_, ?_⟩
  · exact (Json.str.inj (string_eq_ok.mp hparsed.kind).1).symm
  · exact scope_str hparsed.scope
  · exact (ofText_injective hsource).symm
  · exact (ofInt_injective htimestamp).symm
  · exact (ofText_injective hcapability).symm

variable {observedName : ByteString} {h : RootCauseHypothesis}
theorem hypothesis_sent {sent : RootCauseHypothesisObservation} {dict : Dict}
    (hdict : hypothesisDict observedName sent = some dict)
    (hread : hypothesis py limits (.dict (unwrapDict dict)) = .ok h) :
    SameHypothesis observedName sent h := by
  obtain ⟨text, htext, hdict⟩ := Option.bind_eq_some_iff.mp hdict
  cases hdict
  obtain ⟨_, _, hentries, htype, -, hparsed⟩ := hypothesis_ok hread
  cases hentries
  refine ⟨(Json.str.inj htype).symm, ⟨text, htext, scope_str hparsed.scope⟩, ?_, fun role => ?_⟩
  · exact (Json.str.inj (string_eq_ok.mp hparsed.state).1).symm
  · obtain ⟨_, hlist⟩ := hparsed.evidence role
    obtain ⟨raw, hraw, hevidence, -⟩ := evidenceList_parsed hlist
    have hitems : raw = (citations sent role).map fun item =>
        .dict (unwrapDict (evidenceDict item)) := by
      have hunwrapped : unwrapItems ((citations sent role).map evidenceDict) = raw := by
        cases role <;> exact Except.ok.inj hraw
      rw [← hunwrapped, unwrapItems_map]
    rw [hitems, forall₂_map_left_iff] at hevidence
    exact hevidence.imp fun item e hread => citation_sent hread

theorem forall₂_numbered {α : Type} {R : α → Evidence → Prop} {l : List α}
    {evidence : List Evidence} {owner : String}
    (hR : ∀ a e id, R a e → R a { e with evidenceId := id }) (h : Forall₂ R l evidence) :
    Forall₂ R l (numbered owner role evidence) := by
  have hlength := h.length_eq
  refine forall₂_iff_get.mpr ⟨?_, fun index hleft hright => ?_⟩
  · rw [length_numbered, hlength]
  · simp only [numbered, get_eq_getElem, getElem_mapIdx]
    exact hR _ _ _ (h.get hleft (hlength ▸ hleft))

theorem SameIncident.named (h : SameIncident sent i) :
    SameIncident sent (nameIncident i) := by
  refine ⟨h.type, h.scope, h.state, forall₂_numbered (fun item e id he => ?_) h.evidence⟩
  exact { he with }

theorem SameHypothesis.named {sent : RootCauseHypothesisObservation}
    (hsame : SameHypothesis observedName sent h)
    (hlisted : ∀ role, Listed limits role (h.evidence role)) :
    SameHypothesis observedName sent (nameHypothesis h) := by
  refine { hsame with evidence := fun role => ?_ }
  rw [evidence_nameHypothesis, nameRole_eq (hlisted role)]
  refine forall₂_numbered (fun item e id he => ?_) (hsame.evidence role)
  exact { he with }

/-- Every evidence item that carries a number arrives with that number as its value. -/
def ValuesArrive (sent : IncidentObservation) (i : Incident) : Prop :=
  List.Forall₂ (fun item e => ∀ value ∈ item.value, e.value = numberOf value) sent.evidence
    i.evidence

theorem valuesArrive_iff (hsame : SameIncident sent i) (hnull : ∀ e ∈ i.evidence, e.value = .null) :
    ValuesArrive sent i ↔ ∀ item ∈ sent.evidence, item.value = none := by
  constructor
  · intro h item hitem
    obtain ⟨e, he, hvalue⟩ := exists_right h hitem
    by_contra hsome
    obtain ⟨value, hsome⟩ := Option.ne_none_iff_exists'.mp hsome
    have hnumber := (hnull e he).symm.trans (hvalue value hsome)
    cases value <;> cases hnumber
  · intro h
    refine forall₂_of_mem hsame.evidence fun item hitem e _ value hvalue => ?_
    rw [h item hitem] at hvalue
    cases hvalue

/-- A diagnosis that the adapter accepts has the incidents and hypotheses of the daemon in their
order, with their type, scope and state and with their evidence in its order. The numbers of the
evidence arrive exactly when there are none. -/
theorem diagnosis_survives_iff {observedName : RootCauseHypothesisObservation → ByteString}
    {diagnosis : WeakNet.DiagnosisSnapshot} {reply : Dict} {s : DiagnosisSnapshot}
    (hreply : handleV2GetDiagnosis observedName diagnosis = some reply)
    (h : fromDict py limits (.dict (unwrapDict reply)) = .ok s) :
    List.Forall₂ SameIncident diagnosis.incidents s.incidents ∧
      List.Forall₂ (fun sent hypothesis => SameHypothesis (observedName sent) sent hypothesis)
        diagnosis.hypotheses s.hypotheses ∧
      (List.Forall₂ ValuesArrive diagnosis.incidents s.incidents ↔
        ∀ sent ∈ diagnosis.incidents, ∀ item ∈ sent.evidence, item.value = none) := by
  obtain ⟨dicts, hdicts, hreply⟩ := Option.bind_eq_some_iff.mp hreply
  obtain ⟨_, -, hreply⟩ := Option.bind_eq_some_iff.mp hreply
  cases hreply
  obtain ⟨_, s₀, hentries, hadapted, rfl⟩ := fromDict_ok h
  cases hentries
  obtain ⟨rawIncidents, hrawIncidents, hincidents⟩ := hadapted.incidents
  have hincidentItems : unwrapItems (diagnosis.incidents.map incidentDict) = rawIncidents :=
    Json.list.inj hrawIncidents
  rw [← hincidentItems, unwrapItems_map, forall₂_map_left_iff] at hincidents
  obtain ⟨rawHypotheses, hrawHypotheses, hhypotheses⟩ := hadapted.hypotheses
  have hhypothesisItems : unwrapItems dicts = rawHypotheses := Json.list.inj hrawHypotheses
  rw [← hhypothesisItems, unwrapItems_eq, forall₂_map_left_iff] at hhypotheses
  have harrived : Forall₂ (fun sent i => SameIncident sent i ∧ ∀ e ∈ i.evidence,
      e.value = .null) diagnosis.incidents s₀.ensureEvidenceIds.incidents := by
    refine forall₂_map_right_iff.mpr (hincidents.imp fun sent i hread => ?_)
    obtain ⟨hsame, hnull⟩ := incident_sent hread
    refine ⟨hsame.named, fun e he => ?_⟩
    obtain ⟨e₀, he₀, _, rfl⟩ := mem_numbered he
    exact hnull e₀ he₀
  refine ⟨harrived.imp fun sent i hsent => hsent.1, ?_, ?_⟩
  · refine forall₂_map_right_iff.mpr
      ((forall₂_comp (forall₂_of_mapM hdicts) hhypotheses).imp fun sent hypothesis hread => ?_)
    obtain ⟨dict, hdict, hread⟩ := hread
    obtain ⟨_, _, -, -, -, hparsed⟩ := hypothesis_ok hread
    exact (hypothesis_sent hdict hread).named hparsed.normal.evidence
  · constructor
    · intro hvalues sent hsent
      obtain ⟨i, hi, harrives, hsame, hnull⟩ := exists_right
        (Forall₂.mp (fun sent i harrives hsame => And.intro harrives hsame) hvalues harrived)
        hsent
      exact (valuesArrive_iff hsame hnull).mp harrives
    · intro hnone
      refine forall₂_of_mem harrived fun sent hsent i hi => ?_
      exact (valuesArrive_iff hi.1 hi.2).mpr (hnone sent hsent)

def sampleMeasurement : IncidentEvidence :=
  ⟨.tcpInfoObservation, .socketTracker, .netns ⟨4, 1⟩, 0, 0, some (.integer 250000), .microseconds,
    .valid, "rtt"⟩

def sampleCause : RootCauseHypothesisObservation :=
  ⟨⟨.insufficientEvidence, .netns ⟨4, 1⟩, 1⟩, .insufficientEvidence, .netns ⟨4, 1⟩, .active, .low, 0, 0,
    none, [⟨some 1, .tcpInfoObservation, .socketTracker, .netns ⟨4, 1⟩, 0, 0, .supporting,
      .highTcpRtt, none, .none, .valid, .available, "rtt"⟩], [], [], "rtt", .rootCauseEngine⟩

def sampleDiagnosis : WeakNet.DiagnosisSnapshot where
  status := ⟨.degraded, true, false, false, false, 1, 1, .blank, 0⟩
  incidents := [⟨1, .highTcpRtt, .netns ⟨4, 1⟩, .active, .warning, .high, 0, 0, 0, 0, none, none,
    [sampleMeasurement], "rtt", none, .valid, .complete, .incidentEngine⟩]
  hypotheses := [sampleCause]
  topology := TopologySnapshot.blank ⟨4, 1⟩
  limitations := []

def sampleOutcome : Option (Except SchemaError (List (List Bool))) :=
  (handleV2GetDiagnosis (fun _ => []) sampleDiagnosis).map fun reply =>
    (fromDict ⟨fun _ => "0.0", fun _ => ""⟩ {} (.dict (unwrapDict reply))).map fun s =>
      s.incidents.map fun i => i.evidence.map fun e => e.value.isNull

theorem sampleOutcome_eq : sampleOutcome = some (.ok [[true]]) := by
  decide +kernel

/-- The adapter accepts the sample, and the evidence has lost its number. -/
theorem number_lost :
    (sampleDiagnosis.incidents.map fun sent => sent.evidence.map IncidentEvidence.value) =
        [[some (.integer 250000)]] ∧
      sampleOutcome = some (.ok [[true]]) :=
  ⟨rfl, sampleOutcome_eq⟩

theorem diagnosis_survives_sample :
    ∃ reply s, handleV2GetDiagnosis (fun _ => []) sampleDiagnosis = some reply ∧
      fromDict ⟨fun _ => "0.0", fun _ => ""⟩ {} (.dict (unwrapDict reply)) = .ok s ∧
      List.Forall₂ SameIncident sampleDiagnosis.incidents s.incidents ∧
      List.Forall₂ (SameHypothesis []) sampleDiagnosis.hypotheses s.hypotheses := by
  obtain ⟨reply, hreply, hmapped⟩ := Option.map_eq_some_iff.mp sampleOutcome_eq
  cases hread : fromDict ⟨fun _ => "0.0", fun _ => ""⟩ {} (.dict (unwrapDict reply)) with
  | error _ =>
    rw [hread] at hmapped
    cases hmapped
  | ok s =>
    obtain ⟨hincidents, hhypotheses, -⟩ := diagnosis_survives_iff hreply hread
    exact ⟨reply, s, hreply, hread, hincidents, hhypotheses⟩

end DbusDiagnosisAdapter
end WeakNet.Ai
