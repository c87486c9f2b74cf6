import WeakNet.Ai.ExplanationSchema
import WeakNet.Foundation.OrderedMap
import WeakNet.Foundation.Runs

/-! `GroundingValidator.validate`. The loops over sets go through the lists the sets are made of:
another order can only change which of several violations is reported. -/

namespace WeakNet.Ai
open Foundation Foundation.Json Foundation.Fallible Foundation.Runs List OrderedMap

structure GroundingViolation where
  text : String
  listed : List String
deriving DecidableEq

structure EvidenceLocation where
  hypothesisId : Option String
  role : EvidenceRole
deriving DecidableEq

abbrev Locations := OrderedMap String EvidenceLocation

structure Placed where
  hypothesisId : String
  role : EvidenceRole
  evidence : Evidence

namespace GroundingValidator
def violation (text : String) : GroundingViolation := ⟨text, []⟩

def placed (s : DiagnosisSnapshot) : List Placed :=
  s.hypotheses.flatMap fun h => EvidenceRole.all.flatMap fun role =>
    (h.evidence role).map fun e => ⟨h.hypothesisId, role, e⟩

def locateIncident (table : Locations) (e : Evidence) : Locations :=
  e.evidenceId.elim table fun id => table.insert id ⟨none, .supporting⟩

def incidentLocations (s : DiagnosisSnapshot) : Locations :=
  run locateIncident OrderedMap.empty (s.incidents.flatMap Incident.evidence)

def locate (table : Locations) (item : Placed) : Except GroundingViolation Locations :=
  match item.evidence.evidenceId with
  | none => .error (violation "snapshot contains evidence without a local evidence ID")
  | some id =>
    if table.contains id then .error (violation ("duplicate evidence ID: " ++ id))
    else .ok (table.insert id ⟨some item.hypothesisId, item.role⟩)

def locations (s : DiagnosisSnapshot) : Except GroundingViolation Locations :=
  (placed s).foldlM locate (incidentLocations s)

def checkLimitation (table : Locations) (id : String) : Except GroundingViolation Unit :=
  match table.find? id with
  | none => .error (violation ("limitation references unknown evidence: " ++ id))
  | some location =>
    if location.role = .missing then .ok ()
    else .error (violation "limitations may reference missing evidence only")

/-- `hypothesis_by_id.get(id)`: the last hypothesis with the id. -/
def hypothesisById (s : DiagnosisSnapshot) (id : String) : Option RootCauseHypothesis :=
  lastBy RootCauseHypothesis.hypothesisId s.hypotheses id

def checkReference (table : Locations) (h : RootCauseHypothesis) (role : EvidenceRole)
    (id : String) : Except GroundingViolation Unit :=
  match table.find? id with
  | none => .ok ()
  | some location =>
    if ∃ owner ∈ location.hypothesisId, owner ≠ h.hypothesisId then
      .error (violation "evidence belongs to a different hypothesis")
    else if location.hypothesisId = some h.hypothesisId ∧ location.role ≠ role then
      .error (violation "evidence is referenced under the wrong role")
    else .ok ()

def SameSet {α : Type} (l l' : List α) : Prop := l ⊆ l' ∧ l' ⊆ l

instance {α : Type} [DecidableEq α] (l l' : List α) : Decidable (SameSet l l') :=
  inferInstanceAs (Decidable (l ⊆ l' ∧ l' ⊆ l))

def checkRole (table : Locations) (h : RootCauseHypothesis) (x : HypothesisExplanation)
    (role : EvidenceRole) : Except GroundingViolation Unit := do
  let unknown := (x.ids role).filter fun id => !table.contains id
  refuse (unknown ≠ []) ⟨"unknown evidence reference: ", unknown⟩
  (x.ids role).forM (checkReference table h role)
  refuse (¬SameSet ((x.ids role).map some) ((h.evidence role).map Evidence.evidenceId))
    (violation (role.value ++ " evidence must be preserved exactly for " ++ h.hypothesisId))

def checkDisclosed (limitationIds : List String) (e : Evidence) :
    Except GroundingViolation Unit :=
  refuse (¬∃ id ∈ e.evidenceId, id ∈ limitationIds)
    (violation ("missing evidence limitation omitted: " ++ e.evidenceId.getD "None"))

def checkExplanation (s : DiagnosisSnapshot) (table : Locations) (limitationIds : List String)
    (explained : List String) (x : HypothesisExplanation) :
    Except GroundingViolation (List String) :=
  if x.hypothesisId ∈ explained then
    .error (violation "hypothesis is explained more than once")
  else match hypothesisById s x.hypothesisId with
    | none => .error (violation ("unknown hypothesis ID: " ++ x.hypothesisId))
    | some h => do
      EvidenceRole.all.forM (checkRole table h x)
      h.missingEvidence.forM (checkDisclosed limitationIds)
      return explained ++ [x.hypothesisId]

def validate (s : DiagnosisSnapshot) (payload : ProviderExplanationPayload) :
    Except GroundingViolation Unit := do
  let table ← locations s
  let limitationIds := payload.limitations.map Note.id
  refuse (¬limitationIds.Nodup) (violation "duplicate limitation reference")
  limitationIds.forM (checkLimitation table)
  let explained ← payload.hypothesisExplanations.foldlM (checkExplanation s table limitationIds) []
  payload.evidenceExplanations.forM fun note => refuse (table.contains note.id = false)
    (violation ("unknown evidence explanation reference: " ++ note.id))
  refuse (s.hypotheses ≠ [] ∧ explained = [])
    (violation "active hypotheses were omitted from provider output")

variable {table : Locations} {s : DiagnosisSnapshot} {table' : Locations} {item : Placed}
theorem locate_ok (h : locate table item = .ok table') :
    ∃ id, item.evidence.evidenceId = some id ∧ table.find? id = none ∧
      table' = table.insert id ⟨some item.hypothesisId, item.role⟩ := by
  rw [locate] at h
  split at h
  · cases h
  · rename_i id hid
    split_ifs at h with hknown
    refine ⟨id, hid, ?_, (Except.ok.inj h).symm⟩
    cases hfind : table.find? id with
    | none => rfl
    | some location => exact absurd (contains_iff.mpr ⟨location, hfind⟩) hknown

theorem foldlM_locate {items : List Placed} (h : items.foldlM locate table = .ok table') :
    (items.map fun item => item.evidence.evidenceId).Nodup ∧
    (∀ item ∈ items, ∃ id, item.evidence.evidenceId = some id ∧ table.find? id = none) ∧
    ∀ id location, table'.find? id = some location → table.find? id = some location ∨
      ∃ item ∈ items, item.evidence.evidenceId = some id ∧
        location = ⟨some item.hypothesisId, item.role⟩ := by
  induction items generalizing table with
  | nil =>
    cases h
    exact ⟨nodup_nil, forall_mem_nil _,
      fun id location hfind => .inl hfind⟩
  | cons item items ih =>
    rw [foldlM_cons] at h
    obtain ⟨middle, hmiddle, hrest⟩ := bind_eq_ok.mp h
    obtain ⟨id, hid, hnew, rfl⟩ := locate_ok hmiddle
    obtain ⟨hnodup, hfresh, hentries⟩ := ih hrest
    -- the later items are new to a table with this id, so they have others
    have hother : ∀ other ∈ items, ∃ id', other.evidence.evidenceId = some id' ∧ id ≠ id' ∧
        table.find? id' = none := by
      intro other hmem
      obtain ⟨id', hid', hnone⟩ := hfresh other hmem
      rw [find?_insert] at hnone
      split_ifs at hnone with hne
      exact ⟨id', hid', hne, hnone⟩
    refine ⟨?_, ?_, fun id' location hfind => ?_⟩
    · rw [map_cons, nodup_cons]
      refine ⟨fun hmem => ?_, hnodup⟩
      obtain ⟨other, hmem, heq⟩ := mem_map.mp hmem
      obtain ⟨id', hid', hne, -⟩ := hother other hmem
      rw [hid, hid'] at heq
      exact hne (Option.some.inj heq).symm
    · intro other hmem
      rcases mem_cons.mp hmem with rfl | hmem
      · exact ⟨id, hid, hnew⟩
      · obtain ⟨id', hid', -, hnone⟩ := hother other hmem
        exact ⟨id', hid', hnone⟩
    · rcases hentries id' location hfind with hmiddle | ⟨other, hmem, hother⟩
      · rw [find?_insert] at hmiddle
        split_ifs at hmiddle with heq
        · refine .inr ⟨item, mem_cons_self, heq ▸ hid, (Option.some.inj hmiddle).symm⟩
        · exact .inl hmiddle
      · exact .inr ⟨other, mem_cons_of_mem _ hmem, hother⟩

theorem incidentLocations_role {id : String} {location : EvidenceLocation}
    (h : (incidentLocations s).find? id = some location) : location.role = .supporting := by
  have hall : ∀ id location, (incidentLocations s).find? id = some location →
      location.role = .supporting := by
    apply run_invariant (P := fun table : Locations => ∀ id location,
      table.find? id = some location → location.role = .supporting)
    · intro table e htable id location hfind
      rw [locateIncident] at hfind
      cases hid : e.evidenceId with
      | none =>
        rw [hid] at hfind
        exact htable id location hfind
      | some _ =>
        rw [hid, Option.elim_some, find?_insert] at hfind
        split_ifs at hfind
        · rw [← Option.some.inj hfind]
        · exact htable id location hfind
    · intro id location hfind
      rw [find?_empty] at hfind
      cases hfind
  exact hall id location h

def Checked (s : DiagnosisSnapshot) (limitationIds : List String) (x : HypothesisExplanation) :
    Prop :=
  ∃ h, hypothesisById s x.hypothesisId = some h ∧
    (∀ role, SameSet ((x.ids role).map some) ((h.evidence role).map Evidence.evidenceId)) ∧
    ∀ e ∈ h.missingEvidence, ∃ id ∈ e.evidenceId, id ∈ limitationIds

variable {x : HypothesisExplanation}
theorem checkRole_ok {h : RootCauseHypothesis} {role : EvidenceRole}
    (hok : checkRole table h x role = .ok ()) :
    SameSet ((x.ids role).map some) ((h.evidence role).map Evidence.evidenceId) := by
  rw [checkRole] at hok
  obtain ⟨_, -, hok⟩ := bind_eq_ok.mp hok
  obtain ⟨_, -, hok⟩ := bind_eq_ok.mp hok
  exact not_not.mp (refuse_eq_ok.mp hok)

variable {limitationIds explained explained' : List String}
theorem checkExplanation_ok
    (h : checkExplanation s table limitationIds explained x = .ok explained') :
    x.hypothesisId ∉ explained ∧ explained' = explained ++ [x.hypothesisId] ∧
      Checked s limitationIds x := by
  rw [checkExplanation] at h
  split_ifs at h with hrepeated
  split at h
  · cases h
  · rename_i hypothesis hfind
    obtain ⟨_, hroles, h⟩ := bind_eq_ok.mp h
    obtain ⟨_, hmissing, h⟩ := bind_eq_ok.mp h
    refine ⟨hrepeated, (Except.ok.inj h).symm, hypothesis, hfind, fun role => ?_, fun e he => ?_⟩
    · have hmem : role ∈ EvidenceRole.all := by cases role <;> decide
      exact checkRole_ok (forM_eq_ok.mp hroles role hmem)
    · exact not_not.mp (refuse_eq_ok.mp (forM_eq_ok.mp hmissing e he))

theorem foldlM_checkExplanation {xs : List HypothesisExplanation}
    (h : xs.foldlM (checkExplanation s table limitationIds) explained = .ok explained')
    (hnodup : explained.Nodup) :
    (explained ++ xs.map HypothesisExplanation.hypothesisId).Nodup ∧
      ∀ x ∈ xs, Checked s limitationIds x := by
  induction xs generalizing explained with
  | nil =>
    rw [map_nil, append_nil]
    exact ⟨hnodup, forall_mem_nil _⟩
  | cons x _ ih =>
    rw [foldlM_cons] at h
    obtain ⟨middle, hmiddle, hrest⟩ := bind_eq_ok.mp h
    obtain ⟨hnew, rfl, hchecked⟩ := checkExplanation_ok hmiddle
    have hmiddleNodup : (explained ++ [x.hypothesisId]).Nodup := by
      rw [← concat_eq_append]
      exact hnodup.concat hnew
    obtain ⟨hall, hchecks⟩ := ih hrest hmiddleNodup
    rw [append_assoc] at hall
    exact ⟨hall, forall_mem_cons.mpr ⟨hchecked, hchecks⟩⟩

structure Grounded (s : DiagnosisSnapshot) (payload : ProviderExplanationPayload) : Prop where
  distinct : ((placed s).map fun item => item.evidence.evidenceId).Nodup
  limitationIds : (payload.limitations.map Note.id).Nodup
  missing : ∀ note ∈ payload.limitations, ∃ h ∈ s.hypotheses, ∃ e ∈ h.missingEvidence,
    e.evidenceId = some note.id
  explained : (payload.hypothesisExplanations.map HypothesisExplanation.hypothesisId).Nodup
  checked : ∀ x ∈ payload.hypothesisExplanations, Checked s (payload.limitations.map Note.id) x

theorem mem_placed :
    item ∈ placed s ↔ ∃ h ∈ s.hypotheses, item.hypothesisId = h.hypothesisId ∧
      item.evidence ∈ h.evidence item.role := by
  rw [placed, mem_flatMap]
  refine exists_congr fun h => and_congr_right fun _ => ?_
  rw [mem_flatMap]
  constructor
  · rintro ⟨role, -, hmem⟩
    obtain ⟨e, he, rfl⟩ := mem_map.mp hmem
    exact ⟨rfl, he⟩
  · rintro ⟨hid, hevidence⟩
    refine ⟨item.role, ?_, mem_map.mpr ⟨item.evidence, hevidence, ?_⟩⟩
    · cases item.role <;> decide
    · rw [← hid]

theorem validate_grounded {payload : ProviderExplanationPayload} (h : validate s payload = .ok ()) :
    Grounded s payload := by
  rw [validate] at h
  simp only [bind_eq_ok] at h
  obtain ⟨table, htable, _, hdistinct, _, hlimitations, explained, hexplained, h⟩ := h
  obtain ⟨hnodup, -, hentries⟩ := foldlM_locate htable
  obtain ⟨hids, hchecks⟩ := foldlM_checkExplanation hexplained nodup_nil
  refine ⟨hnodup, not_not.mp (refuse_eq_ok.mp hdistinct), fun note hnote => ?_, hids, hchecks⟩
  have hcheck := forM_eq_ok.mp hlimitations note.id (mem_map_of_mem hnote)
  rw [checkLimitation] at hcheck
  split at hcheck
  · cases hcheck
  · rename_i location hfind
    split_ifs at hcheck with hrole
    rcases hentries note.id location hfind with hincident | ⟨item, hitem, hid, rfl⟩
    · cases (incidentLocations_role hincident).symm.trans hrole
    · obtain ⟨hypothesis, hmem, -, hevidence⟩ := mem_placed.mp hitem
      dsimp only at hrole
      rw [hrole] at hevidence
      exact ⟨hypothesis, hmem, item.evidence, hevidence, hid⟩
end GroundingValidator
end WeakNet.Ai
