import WeakNet.Ai.DiagnosisCopy
import WeakNet.Foundation.Digits

/-! `DbusDiagnosisAdapter.from_dict` makes up the ids that the daemon does not send. An id is a text
joined with colons; its parts may contain colons, but the last ones (the index, the role and the
occurrence of a hypothesis) do not. -/

namespace WeakNet.Ai
open Foundation Foundation.Json Foundation.Fallible Foundation.Digits List DiagnosisSnapshot Except

namespace DbusDiagnosisAdapter

section Adapter
variable (py : Printer Double) (limits : DiagnosisLimits)
def scopeKey (scope : Value) : String := String.ofList (dumps py scope)

def required (value : Value) (message : String) : Except SchemaError String :=
  match value with
  | .str s => if s = "" then .error (.invalid message) else .ok s
  | _ => .error (.invalid message)

def normalizedItem (entries : List (String × Value)) : List (String × Value) :=
  match entries.lookup "kind", entries.lookup "source_kind" with
  | none, some kind => entries ++ [("kind", kind)]
  | _, _ => entries

def incidentEvidence (item : Value) : Except SchemaError Evidence :=
  match item with
  | .dict entries => Evidence.fromDict (.dict (normalizedItem entries)) (some .supporting) limits
  | _ => .error (.invalid "D-Bus incident evidence must be an object")

def updatedAt (entries : List (String × Value)) : Value :=
  (entries.lookup "last_updated_at_ms").getD (get entries "updated_at_ms")

def incidentEntries (entries : List (String × Value)) (evidence : List Evidence) :
    List (String × Value) :=
  [("id", get entries "id"), ("type", get entries "type"), ("state", get entries "state"),
    ("severity", get entries "severity"), ("scope", get entries "scope"),
    ("opened_at_ms", get entries "opened_at_ms"), ("updated_at_ms", updatedAt entries),
    ("evidence", .list (evidence.map Evidence.toDict))]

def incident (payload : Value) : Except SchemaError Incident :=
  match payload with
  | .dict entries => do
    let values ← items (listEntry entries "evidence")
    let evidence ← values.mapM (incidentEvidence limits)
    Incident.fromDict py (.dict (incidentEntries entries evidence)) limits
  | _ => .error (.invalid "D-Bus incident must be an object")

def occurrenceOf (value : Value) : Except SchemaError ℕ :=
  match value with
  | .int n =>
    if n < 0 then .error (.invalid "D-Bus hypothesis.occurrence is required") else .ok n.toNat
  | _ => .error (.invalid "D-Bus hypothesis.occurrence is required")

def hypothesisId (entries : List (String × Value)) (type : String) (occurrence : ℕ) : String :=
  match (entries.lookup "hypothesis_id").getD (get entries "id") with
  | .null => "hypothesis:" ++ type ++ ":" ++ scopeKey py (get entries "scope") ++ ":" ++
      toString occurrence
  | id => id.toText py

def hypothesisEntries (entries : List (String × Value)) (type : String) (occurrence : ℕ) :
    List (String × Value) :=
  [("hypothesis_id", .str (hypothesisId py entries type occurrence)), ("type", .str type),
    ("state", get entries "state"), ("confidence", get entries "confidence"),
    ("scope", get entries "scope"), ("opened_at_ms", get entries "opened_at_ms"),
    ("updated_at_ms", updatedAt entries), ("occurrence", .int occurrence),
    ("supporting_evidence", listEntry entries "supporting_evidence"),
    ("contradicting_evidence", listEntry entries "contradicting_evidence"),
    ("missing_evidence", listEntry entries "missing_evidence")]

def hypothesis (payload : Value) : Except SchemaError RootCauseHypothesis :=
  match payload with
  | .dict entries => do
    let type ← required (get entries "type") "D-Bus hypothesis.type is required"
    let occurrence ← occurrenceOf (get entries "occurrence")
    RootCauseHypothesis.fromDict py (.dict (hypothesisEntries py entries type occurrence)) limits
      false
  | _ => .error (.invalid "D-Bus hypothesis must be an object")

def statusEntries (entries : List (String × Value)) : List (String × Value) :=
  match get entries "status" with
  | .dict status => status
  | _ => entries

def snapshotTimestamp (entries : List (String × Value)) : Value :=
  (entries.lookup "snapshot_timestamp_ms").getD
    ((entries.lookup "timestamp_ms").getD (get (statusEntries entries) "timestamp_ms"))

def arrays (entries : List (String × Value)) : Except SchemaError (List Value × List Value) :=
  match get entries "incidents", get entries "hypotheses" with
  | .list incidents, .list hypotheses => .ok (incidents, hypotheses)
  | _, _ => .error (.invalid "D-Bus incidents and hypotheses arrays are required")

def topology (entries : List (String × Value)) : Value :=
  if (get entries "topology").truthy (· == .finite 0) then get entries "topology"
  else (entries.lookup "selected_uplink").elim .null fun uplink =>
    .dict [("selected_uplink", uplink)]

def fromDict (payload : Value) : Except SchemaError DiagnosisSnapshot :=
  match payload with
  | .dict entries => do
    let status ← required (get (statusEntries entries) "state") "D-Bus status.state is required"
    let raw ← arrays entries
    let incidents ← raw.1.mapM (incident py limits)
    let hypotheses ← raw.2.mapM (hypothesis py limits)
    let limitations ← items (listEntry entries "limitations")
    DiagnosisSnapshot.finish py ⟨diagnosisSchemaVersion, snapshotTimestamp entries, status,
      limitations, topology entries, incidents, hypotheses, limits⟩
  | _ => .error (.invalid "D-Bus diagnosis payload must be an object")
end Adapter

variable {py : Printer Double} {limits : DiagnosisLimits} {payload item : Value}
  {s : DiagnosisSnapshot}

variable {value : Value}
theorem required_ok {message text : String} (h : required value message = .ok text) :
    value = .str text := by
  cases value with
  | str _ =>
    rw [required] at h
    split_ifs at h
    rw [ok.inj h]
  | _ => cases h

theorem occurrenceOf_ok {n : ℕ} (h : occurrenceOf value = .ok n) :
    value = .int n := by
  cases value with
  | int _ =>
    rw [occurrenceOf] at h
    split_ifs at h with hneg
    cases h
    rw [Int.toNat_of_nonneg (not_lt.mp hneg)]
  | _ => cases h

variable {e : Evidence}
theorem incidentEvidence_ok (h : incidentEvidence limits item = .ok e) :
    ∃ entries, item = .dict entries ∧ e.Parsed (normalizedItem entries) .supporting limits := by
  cases item with
  | dict entries =>
    rw [incidentEvidence] at h
    obtain ⟨_, hfound, hparsed⟩ := Evidence.fromDict_parsed h
    cases hfound
    exact ⟨entries, rfl, hparsed⟩
  | _ => cases h

variable {i : Incident}
theorem incident_ok (h : incident py limits item = .ok i) :
    ∃ entries values, item = .dict entries ∧ items (listEntry entries "evidence") = .ok values ∧
      Forall₂ (fun value e => incidentEvidence limits value = .ok e) values i.evidence ∧
      i.Parsed py (incidentEntries entries i.evidence) limits := by
  cases item with
  | dict entries =>
    obtain ⟨values, hvalues, h⟩ := bind_eq_ok.mp h
    obtain ⟨evidence, hevidence, h⟩ := bind_eq_ok.mp h
    obtain ⟨_, hfound, hparsed⟩ := Incident.fromDict_parsed h
    cases hfound
    have hread := mapM_eq_ok.mp hevidence
    have hsame : i.evidence = evidence := by
      refine evidenceList_eq (fun e he => ?_) hparsed.evidence
      obtain ⟨value, -, hvalue⟩ := exists_left hread he
      obtain ⟨_, -, hparsed⟩ := incidentEvidence_ok hvalue
      exact hparsed.normal
    rw [← hsame] at hread hparsed
    exact ⟨entries, values, rfl, hvalues, hread, hparsed⟩
  | _ => cases h

variable {h : RootCauseHypothesis} {entries : List (String × Value)} {role : EvidenceRole}
theorem hypothesis_ok (hread : hypothesis py limits item = .ok h) :
    ∃ entries occurrence, item = .dict entries ∧ get entries "type" = .str h.type ∧
      get entries "occurrence" = .int (occurrence : ℕ) ∧
      h.Parsed py (hypothesisEntries py entries h.type occurrence) limits false := by
  cases item with
  | dict entries =>
    obtain ⟨type, htype, hread⟩ := bind_eq_ok.mp hread
    obtain ⟨occurrence, hoccurrence, hread⟩ := bind_eq_ok.mp hread
    obtain ⟨_, hfound, hparsed⟩ := RootCauseHypothesis.fromDict_parsed hread
    cases hfound
    obtain rfl : type = h.type := Json.str.inj (string_eq_ok.mp hparsed.type).1
    exact ⟨entries, occurrence, rfl, required_ok htype, occurrenceOf_ok hoccurrence, hparsed⟩
  | _ => cases hread

structure Adapted (py : Printer Double) (limits : DiagnosisLimits)
    (entries : List (String × Value)) (s : DiagnosisSnapshot) : Prop where
  incidents : ∃ raw, get entries "incidents" = .list raw ∧
    List.Forall₂ (fun item i => incident py limits item = .ok i) raw s.incidents
  hypotheses : ∃ raw, get entries "hypotheses" = .list raw ∧
    List.Forall₂ (fun item h => hypothesis py limits item = .ok h) raw s.hypotheses

theorem arrays_ok {raw : List Value × List Value} (h : arrays entries = .ok raw) :
    get entries "incidents" = .list raw.1 ∧ get entries "hypotheses" = .list raw.2 := by
  rw [arrays] at h
  split at h
  · rename_i incidents hypotheses hincidents hhypotheses
    cases h
    exact ⟨hincidents, hhypotheses⟩
  · cases h

theorem fromDict_ok (h : fromDict py limits payload = .ok s) :
    ∃ entries s₀, payload = .dict entries ∧ Adapted py limits entries s₀ ∧
      s = s₀.ensureEvidenceIds := by
  cases payload with
  | dict entries =>
    obtain ⟨_, -, h⟩ := bind_eq_ok.mp h
    obtain ⟨raw, hraw, h⟩ := bind_eq_ok.mp h
    obtain ⟨hincidentArray, hhypothesisArray⟩ := arrays_ok hraw
    obtain ⟨_, hincidents, h⟩ := bind_eq_ok.mp h
    obtain ⟨_, hhypotheses, h⟩ := bind_eq_ok.mp h
    obtain ⟨_, -, h⟩ := bind_eq_ok.mp h
    exact ⟨entries, _, rfl, ⟨⟨raw.1, hincidentArray, mapM_eq_ok.mp hincidents⟩,
      ⟨raw.2, hhypothesisArray, mapM_eq_ok.mp hhypotheses⟩⟩, (finish_ok h).1⟩
  | _ => cases h

def label (owner : String) (role : EvidenceRole) (index : ℕ) : String :=
  owner ++ ":" ++ role.lower ++ ":" ++ toString index

theorem colon_not_mem_toString (n : ℕ) : ':' ∉ (toString n).toList :=
  not_mem_of_digits (isDigit_of_mem_toString n) (by decide)

variable {a' : String}
theorem colon_number_inj {a : String} {n n' : ℕ}
    (h : a ++ ":" ++ toString n = a' ++ ":" ++ toString n') : a = a' ∧ n = n' := by
  have htext := congrArg String.toList h
  simp only [String.toList_append, append_assoc] at htext
  obtain ⟨hfirst, hnumber⟩ := append_separator_inj (colon_not_mem_toString n)
    (colon_not_mem_toString n') htext
  exact ⟨String.toList_inj.mp hfirst, toString_inj (String.toList_inj.mp hnumber)⟩

variable {role' : EvidenceRole}
theorem colon_role_inj {a : String} (h : a ++ ":" ++ role.lower = a' ++ ":" ++ role'.lower) :
    a = a' ∧ role = role' := by
  have hcolon : ∀ role : EvidenceRole, ':' ∉ role.lower.toList := by
    intro role
    cases role <;> decide
  have hlower : ∀ role role' : EvidenceRole, role.lower = role'.lower → role = role' := by
    intro role role'
    cases role <;> cases role' <;> decide
  have htext := congrArg String.toList h
  simp only [String.toList_append, append_assoc] at htext
  obtain ⟨hfirst, hrole⟩ := append_separator_inj (hcolon role) (hcolon role') htext
  exact ⟨String.toList_inj.mp hfirst, hlower _ _ (String.toList_inj.mp hrole)⟩

variable {owner : String}
theorem label_inj {owner' : String} {index index' : ℕ}
    (h : label owner role index = label owner' role' index') :
    owner = owner' ∧ role = role' ∧ index = index' := by
  obtain ⟨hfirst, hindex⟩ := colon_number_inj h
  obtain ⟨howner, hrole⟩ := colon_role_inj hfirst
  exact ⟨howner, hrole, hindex⟩

def labels (owner : String) (role : EvidenceRole) (count : ℕ) : List (Option String) :=
  (List.range count).map fun index => some (label owner role index)

theorem numbered_ids {evidence : List Evidence} (h : ∀ e ∈ evidence, e.evidenceId = none) :
    (numbered owner role evidence).map Evidence.evidenceId =
      labels owner role evidence.length := by
  apply ext_getElem
  · simp [labels, numbered]
  · intro index hindex hindex'
    have hlt : index < evidence.length := by simpa [labels] using hindex'
    simp only [numbered, labels, getElem_map, getElem_mapIdx,
      getElem_range, h evidence[index] (getElem_mem hlt), Option.getD_none]
    rfl

theorem labels_nodup {groups : List ((String × EvidenceRole) × ℕ)}
    (h : (groups.map Prod.fst).Nodup) :
    (groups.flatMap fun g => labels g.1.1 g.1.2 g.2).Nodup := by
  rw [nodup_flatMap]
  constructor
  · intro g _
    refine nodup_range.map fun index index' hsame => ?_
    exact (label_inj (Option.some.inj hsame)).2.2
  · rw [nodup_iff_pairwise_ne, pairwise_map] at h
    refine h.imp fun {g g'} hne id hid hid' => hne ?_
    obtain ⟨index, -, rfl⟩ := mem_map.mp hid
    obtain ⟨index', -, hsame⟩ := mem_map.mp hid'
    obtain ⟨howner, hrole, -⟩ := label_inj (Option.some.inj hsame)
    exact (Prod.ext howner hrole).symm

def groups (s : DiagnosisSnapshot) : List ((String × EvidenceRole) × ℕ) :=
  (s.incidents.map fun i => (("incident:" ++ i.id, .supporting), i.evidence.length)) ++
    s.hypotheses.flatMap fun h => EvidenceRole.all.map fun role =>
      (("hypothesis:" ++ h.hypothesisId, role), (h.evidence role).length)

theorem ensureEvidenceIds_ids (hincidents : ∀ i ∈ s.incidents, ∀ e ∈ i.evidence, e.evidenceId = none)
    (hhypotheses : ∀ h ∈ s.hypotheses, ∀ role, ∀ e ∈ h.evidence role, e.evidenceId = none) :
    s.ensureEvidenceIds.allEvidence.map Evidence.evidenceId =
      (groups s).flatMap fun g => labels g.1.1 g.1.2 g.2 := by
  rw [allEvidence_ids, ensureEvidenceIds, groups,
    flatMap_append, flatMap_map, flatMap_assoc, ← flatMap_def,
    ← flatMap_def, flatMap_map, flatMap_map]
  congr 1
  · exact flatMap_congr fun i hi => numbered_ids (hincidents i hi)
  · refine flatMap_congr fun h hmem => ?_
    rw [flatMap_map]
    refine flatMap_congr fun role _ => ?_
    rw [evidence_nameHypothesis, nameRole_ids]
    exact numbered_ids (hhypotheses h hmem role)

theorem groups_keys (s : DiagnosisSnapshot) : (groups s).map Prod.fst =
    ((s.incidents.map Incident.id).map fun id => ("incident:" ++ id, .supporting)) ++
      (s.hypotheses.map RootCauseHypothesis.hypothesisId).flatMap fun id =>
        EvidenceRole.all.map fun role => ("hypothesis:" ++ id, role) := by
  simp [groups, flatMap_map, map_flatMap, Function.comp_def]

theorem groups_nodup (hincidents : (s.incidents.map Incident.id).Nodup)
    (hhypotheses : (s.hypotheses.map RootCauseHypothesis.hypothesisId).Nodup) :
    ((groups s).map Prod.fst).Nodup := by
  rw [groups_keys]
  refine Nodup.append ?_ ?_ ?_
  · refine hincidents.map fun id id' hsame => ?_
    exact (String.append_right_inj "incident:").mp (congrArg Prod.fst hsame)
  · rw [nodup_flatMap]
    constructor
    · intro id _
      have hroles : EvidenceRole.all.Nodup := by decide
      exact hroles.map fun role role' hsame => congrArg Prod.snd hsame
    · rw [nodup_iff_pairwise_ne] at hhypotheses
      refine hhypotheses.imp fun {id id'} hne key hkey hkey' => hne ?_
      obtain ⟨role, -, rfl⟩ := mem_map.mp hkey
      obtain ⟨role', -, hsame⟩ := mem_map.mp hkey'
      exact ((String.append_right_inj "hypothesis:").mp (congrArg Prod.fst hsame)).symm
  · intro key hkey hkey'
    obtain ⟨id, -, rfl⟩ := mem_map.mp hkey
    obtain ⟨id', -, hkey'⟩ := mem_flatMap.mp hkey'
    obtain ⟨role, -, hsame⟩ := mem_map.mp hkey'
    have hfirst := congrArg (fun key => key.1.toList.head?) hsame
    simp at hfirst

def field (value : Value) (key : String) : Value :=
  match value with
  | .dict entries => get entries key
  | _ => .null

def elements (value : Value) (key : String) : List Value := (field value key).iterate.getD []

def Unnamed (item : Value) (name : String) : Prop :=
  field item name = .null ∧ field item "id" = .null

/-- Incidents and hypotheses are numbered, and nothing else has an id. -/
structure AsSent (payload : Value) : Prop where
  incidentIds : ∃ ids : List ℤ, ids.Nodup ∧
    (elements payload "incidents").map (field · "id") = ids.map .int
  occurrences : ((elements payload "hypotheses").map (field · "occurrence")).Nodup
  hypotheses : ∀ item ∈ elements payload "hypotheses", Unnamed item "hypothesis_id"
  incidentEvidence : ∀ item ∈ elements payload "incidents", ∀ e ∈ elements item "evidence",
    Unnamed e "evidence_id"
  hypothesisEvidence : ∀ item ∈ elements payload "hypotheses", ∀ role : EvidenceRole,
    ∀ e ∈ elements item role.key, Unnamed e "evidence_id"

theorem Unnamed.eq_null {name : String} (h : Unnamed (.dict entries) name) :
    (entries.lookup name).getD (get entries "id") = .null := by
  obtain ⟨hname, hid⟩ := h
  change (entries.lookup name).getD .null = .null at hname
  cases hlookup : entries.lookup name with
  | none => exact hid
  | some _ =>
    rw [hlookup] at hname
    exact hname

variable {key : String}
theorem items_listEntry {values : List Value} (h : items (listEntry entries key) = .ok values) :
    values = elements (.dict entries) key := by
  change _ = ((entries.lookup key).getD .null).iterate.getD []
  rw [listEntry] at h
  cases hlookup : entries.lookup key with
  | none =>
    rw [hlookup] at h
    exact (ok.inj h).symm
  | some value =>
    rw [hlookup, Option.getD_some] at h
    obtain ⟨_, hvalue, hitems⟩ := elim_eq_ok.mp h
    change _ = value.iterate.getD []
    rw [hvalue]
    exact (ok.inj hitems).symm

theorem lookup_normalizedItem (h : key ≠ "kind") :
    (normalizedItem entries).lookup key = entries.lookup key := by
  rw [normalizedItem]
  split
  · rw [lookup_append, lookup_cons, beq_false_of_ne h]
    exact Option.or_none
  · rfl

theorem evidenceId_eq_none (h : e.Parsed entries role limits)
    (hid : (entries.lookup "evidence_id").getD (get entries "id") = .null) :
    e.evidenceId = none := by
  have hread := h.evidenceId
  rw [hid] at hread
  exact (ok.inj hread).symm

theorem incident_unnamed (h : incident py limits item = .ok i)
    (hitem : ∀ e ∈ elements item "evidence", Unnamed e "evidence_id") :
    ∀ e ∈ i.evidence, e.evidenceId = none := by
  obtain ⟨_, _, rfl, hvalues, hevidence, -⟩ := incident_ok h
  obtain rfl := items_listEntry hvalues
  intro e he
  obtain ⟨_, hvalue, hread⟩ := exists_left hevidence he
  obtain ⟨_, rfl, hparsed⟩ := incidentEvidence_ok hread
  refine evidenceId_eq_none hparsed ?_
  rw [Json.get, lookup_normalizedItem (by decide), lookup_normalizedItem (by decide)]
  exact (hitem _ hvalue).eq_null

theorem hypothesis_unnamed (hread : hypothesis py limits item = .ok h)
    (hitem : ∀ role : EvidenceRole, ∀ e ∈ elements item role.key, Unnamed e "evidence_id")
    (role : EvidenceRole) : ∀ e ∈ h.evidence role, e.evidenceId = none := by
  obtain ⟨entries, occurrence, rfl, -, -, hparsed⟩ := hypothesis_ok hread
  obtain ⟨_, hlist⟩ := hparsed.evidence role
  have hentry : listEntry (hypothesisEntries py entries h.type occurrence) role.key =
      listEntry entries role.key := by
    cases role <;> rfl
  rw [hentry] at hlist
  obtain ⟨_, hvalues, hevidence, -⟩ := evidenceList_parsed hlist
  obtain rfl := items_listEntry hvalues
  intro e he
  obtain ⟨_, hvalue, hread⟩ := exists_left hevidence he
  obtain ⟨_, rfl, hparsed⟩ := Evidence.fromDict_parsed hread
  exact evidenceId_eq_none hparsed (hitem role _ hvalue).eq_null

theorem hypothesis_id (hread : hypothesis py limits item = .ok h)
    (hitem : Unnamed item "hypothesis_id") :
    ∃ text, ∃ n : ℕ, h.hypothesisId = text ++ ":" ++ toString n ∧ h.occurrence = .int n ∧
      field item "occurrence" = .int n := by
  obtain ⟨entries, occurrence, rfl, -, hoccurrence, hparsed⟩ := hypothesis_ok hread
  have hid : hypothesisId py entries h.type occurrence = h.hypothesisId :=
    Json.str.inj (string_eq_ok.mp hparsed.hypothesisId).1
  rw [hypothesisId, hitem.eq_null] at hid
  exact ⟨_, occurrence, hid.symm, hparsed.occurrence, hoccurrence⟩

theorem incident_id (h : incident py limits item = .ok i) :
    i.id = (field item "id").toText py := by
  obtain ⟨_, _, rfl, -, -, hparsed⟩ := incident_ok h
  exact (Json.str.inj (string_eq_ok.mp hparsed.id).1).symm

variable {raw : List Value}
theorem incidentIds_nodup {incidents : List Incident} {ids : List ℤ}
    (h : Forall₂ (fun item i => incident py limits item = .ok i) raw incidents)
    (hraw : raw.map (field · "id") = ids.map .int) (hids : ids.Nodup) :
    (incidents.map Incident.id).Nodup := by
  have hsame : incidents.map Incident.id = (raw.map (field · "id")).map (toText py) := by
    rw [map_map]
    exact map_eq_of_forall₂ h fun item _ i hread => incident_id hread
  rw [hsame, hraw, map_map]
  exact hids.map fun m n h => toString_int_inj h

theorem hypothesisIds_nodup {hypotheses : List RootCauseHypothesis}
    (h : Forall₂ (fun item h => hypothesis py limits item = .ok h) raw hypotheses)
    (hunnamed : ∀ item ∈ raw, Unnamed item "hypothesis_id")
    (hraw : (raw.map (field · "occurrence")).Nodup) :
    (hypotheses.map RootCauseHypothesis.hypothesisId).Nodup := by
  have hsame : hypotheses.map RootCauseHypothesis.occurrence = raw.map (field · "occurrence") := by
    refine map_eq_of_forall₂ h fun item hitem hypothesis hread => ?_
    obtain ⟨text, n, -, hoccurrence, hfield⟩ := hypothesis_id hread (hunnamed item hitem)
    exact hoccurrence.trans hfield.symm
  rw [← hsame] at hraw
  have htext : ∀ h ∈ hypotheses, ∃ text, ∃ n : ℕ,
      h.hypothesisId = text ++ ":" ++ toString n ∧ h.occurrence = .int n := by
    intro hypothesis hmem
    obtain ⟨item, hitem, hread⟩ := exists_left h hmem
    obtain ⟨text, n, hid, hoccurrence, -⟩ := hypothesis_id hread (hunnamed item hitem)
    exact ⟨text, n, hid, hoccurrence⟩
  refine Nodup.map_on (fun a ha b hb hid => ?_) hraw.of_map
  obtain ⟨text, n, ha', han⟩ := htext a ha
  obtain ⟨_, _, hb', hbn⟩ := htext b hb
  rw [ha', hb'] at hid
  refine inj_on_of_nodup_map hraw ha hb ?_
  rw [han, hbn, (colon_number_inj hid).2]

/-- The ids that the adapter makes up are distinct, and a copy keeps them. -/
theorem evidence_ids_identify (hsent : AsSent payload) (h : fromDict py limits payload = .ok s) :
    (s.allEvidence.map Evidence.evidenceId).Nodup ∧
      (∀ e ∈ s.allEvidence, e.evidenceId ≠ none) ∧
      ∀ n, s.normalizedCopy py = .ok n →
        n.allEvidence.map Evidence.evidenceId = s.allEvidence.map Evidence.evidenceId := by
  obtain ⟨entries, s₀, rfl, hadapted, rfl⟩ := fromDict_ok h
  obtain ⟨rawIncidents, hrawIncidents, hincidents⟩ := hadapted.incidents
  obtain ⟨rawHypotheses, hrawHypotheses, hhypotheses⟩ := hadapted.hypotheses
  have hincidentItems : elements (.dict entries) "incidents" = rawIncidents := by
    rw [elements, field, hrawIncidents]
    rfl
  have hhypothesisItems : elements (.dict entries) "hypotheses" = rawHypotheses := by
    rw [elements, field, hrawHypotheses]
    rfl
  have hsentEvidence := hsent.incidentEvidence
  have hsentRoles := hsent.hypothesisEvidence
  have hsentNames := hsent.hypotheses
  have hsentOccurrences := hsent.occurrences
  obtain ⟨ids, hids, hsentIds⟩ := hsent.incidentIds
  rw [hincidentItems] at hsentEvidence hsentIds
  rw [hhypothesisItems] at hsentRoles hsentNames hsentOccurrences
  -- no evidence has an id on arrival, so all ids are made up from an owner, a role and an index
  have hlabels : s₀.ensureEvidenceIds.allEvidence.map Evidence.evidenceId =
      (groups s₀).flatMap fun g => labels g.1.1 g.1.2 g.2 := by
    refine ensureEvidenceIds_ids (fun i hi => ?_) (fun hypothesis hmem => ?_)
    · obtain ⟨item, hitem, hread⟩ := exists_left hincidents hi
      exact incident_unnamed hread (hsentEvidence item hitem)
    · obtain ⟨item, hitem, hread⟩ := exists_left hhypotheses hmem
      exact hypothesis_unnamed hread (hsentRoles item hitem)
  have hnamed : ∀ e ∈ s₀.ensureEvidenceIds.allEvidence, e.evidenceId ≠ none := by
    intro e he
    have hid : e.evidenceId ∈ (groups s₀).flatMap fun g => labels g.1.1 g.1.2 g.2 := by
      rw [← hlabels]
      exact mem_map_of_mem he
    obtain ⟨g, -, hid⟩ := mem_flatMap.mp hid
    obtain ⟨index, -, hid⟩ := mem_map.mp hid
    rw [← hid]
    exact Option.some_ne_none _
  refine ⟨?_, hnamed, fun n hn => normalizedCopy_evidenceIds hnamed hn⟩
  rw [hlabels]
  exact labels_nodup (groups_nodup (incidentIds_nodup hincidents hsentIds hids)
    (hypothesisIds_nodup hhypotheses hsentNames hsentOccurrences))

def sampleIncident : Value :=
  .dict [("id", .int 1), ("type", .str "t"), ("state", .str "s"), ("opened_at_ms", .int 0),
    ("updated_at_ms", .int 0), ("evidence", .list [.dict [("source_kind", .str "0")]])]

def sampleHypothesis : Value :=
  .dict [("occurrence", .int 1), ("type", .str "t"), ("state", .str "s"),
    ("confidence", .str "0"), ("missing_evidence", .list [.dict [("kind", .str "k")]])]

def samplePayload : Value :=
  .dict [("state", .str "s"), ("incidents", .list [sampleIncident]),
    ("hypotheses", .list [sampleHypothesis])]

theorem samplePayload_asSent : AsSent samplePayload where
  incidentIds := ⟨[1], by decide, rfl⟩
  occurrences := nodup_singleton _
  hypotheses := by
    intro item hitem
    obtain rfl : item = sampleHypothesis := mem_singleton.mp hitem
    exact ⟨rfl, rfl⟩
  incidentEvidence := by
    intro item hitem e he
    obtain rfl : item = sampleIncident := mem_singleton.mp hitem
    obtain rfl : e = .dict [("source_kind", .str "0")] := List.mem_singleton.mp he
    exact ⟨rfl, rfl⟩
  hypothesisEvidence := by
    intro item hitem role e he
    obtain rfl : item = sampleHypothesis := mem_singleton.mp hitem
    cases role with
    | supporting | contradicting => cases he
    | missing =>
      obtain rfl : e = .dict [("kind", .str "k")] := List.mem_singleton.mp he
      exact ⟨rfl, rfl⟩

theorem evidence_ids_sample :
    ∃ s, fromDict ⟨fun _ => "0.0", fun _ => ""⟩ {} samplePayload = .ok s ∧
      (s.allEvidence.map Evidence.evidenceId).Nodup := by
  have haccepted : (fromDict ⟨fun _ => "0.0", fun _ => ""⟩ {} samplePayload).isOk = true := by
    decide +kernel
  cases houtcome : fromDict ⟨fun _ => "0.0", fun _ => ""⟩ {} samplePayload with
  | error _ =>
    rw [houtcome] at haccepted
    cases haccepted
  | ok s => exact ⟨s, rfl, (evidence_ids_identify samplePayload_asSent houtcome).1⟩
end DbusDiagnosisAdapter
end WeakNet.Ai
