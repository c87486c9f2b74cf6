import WeakNet.Foundation.Fallible
import WeakNet.Foundation.Json
import WeakNet.NetworkEvent

/-! The data classes of `schemas/diagnosis.py`: parsing with its checks in their order, the
dictionaries they turn into, the local evidence ids and the limits. The interpreter's own
`TypeError` has no text here. A field that a caller may fill without a check holds a plain value. -/

namespace WeakNet.Ai
open Foundation Foundation.Json Foundation.Fallible

abbrev Value := Json Double

inductive SchemaError where
  | validation (text : String) (listed : List String)
  | inputTooLarge (text : String)
  | typeError
deriving DecidableEq

/-- A `DiagnosisValidationError` whose message lists nothing. -/
def SchemaError.invalid (text : String) : SchemaError := .validation text []

inductive EvidenceRole where
  | supporting | contradicting | missing
deriving DecidableEq

namespace EvidenceRole
def value : EvidenceRole → String
  | .supporting => "Supporting"
  | .contradicting => "Contradicting"
  | .missing => "Missing"

/-- `role.value.lower()`. -/
def lower : EvidenceRole → String
  | .supporting => "supporting"
  | .contradicting => "contradicting"
  | .missing => "missing"

def all : List EvidenceRole := [.supporting, .contradicting, .missing]

/-- `EvidenceRole(raw)`. -/
def parse : Value → Option EvidenceRole
  | .str s => all.find? fun role => role.value == s
  | _ => none
end EvidenceRole

structure DiagnosisLimits where
  maxIncidents : ℤ := 64
  maxHypotheses : ℤ := 64
  maxEvidencePerItem : ℤ := 32
  maxTotalEvidence : ℤ := 512
  maxStringLength : ℤ := 2048
  maxSerializedBytes : ℤ := 262144

def DiagnosisLimits.validate (limits : DiagnosisLimits) : Except SchemaError Unit :=
  refuse ([limits.maxIncidents, limits.maxHypotheses, limits.maxEvidencePerItem,
      limits.maxTotalEvidence, limits.maxStringLength, limits.maxSerializedBytes].any (· ≤ 0))
    (.invalid "diagnosis limits must be positive")

def string (value : Value) (field : String) (limits : DiagnosisLimits) :
    Except SchemaError String :=
  match value with
  | .str s =>
    if s = "" then .error (.invalid (field ++ " must be a non-empty string"))
    else if limits.maxStringLength < s.length then
      .error (.inputTooLarge (field ++ " exceeds max_string_length"))
    else .ok s
  | _ => .error (.invalid (field ++ " must be a non-empty string"))

def optionalString (value : Value) (field : String) (limits : DiagnosisLimits) :
    Except SchemaError (Option String) :=
  match value with
  | .null => .ok none
  | value => do
    let s ← string value field limits
    return some s

/-- The entries of an object that is copied, in the order of their keys, up to the first error. -/
def collect {ε α : Type} : List (String × Except ε α) → Except ε (List (String × α))
  | [] => .ok []
  | (key, value) :: entries => do
    let value ← value
    let entries ← collect entries
    return (key, value) :: entries

section Copy
variable (limits : DiagnosisLimits)
mutual

def copyJsonValue (field : String) : Value → Except SchemaError Value
  | .str s => do
    let s ← string (.str s) field limits
    return .str s
  | .dict entries => do
    let entries ← collect (sortKeys (copyEntries field entries))
    return .dict entries
  | .list items =>
    if limits.maxEvidencePerItem * 4 < items.length then
      .error (.inputTooLarge (field ++ " contains too many values"))
    else do
      let items ← copyItems field items
      return .list items
  | value => .ok value

def copyItems (field : String) : List Value → Except SchemaError (List Value)
  | [] => .ok []
  | item :: items => do
    let item ← copyJsonValue field item
    let items ← copyItems field items
    return item :: items

def copyEntries (field : String) :
    List (String × Value) → List (String × Except SchemaError Value)
  | [] => []
  | (key, value) :: entries =>
    (key, do
      let _ ← string (.str key) (field ++ ".key") limits
      copyJsonValue (field ++ "." ++ key) value) :: copyEntries field entries
end
end Copy

def scope (value : Value) (limits : DiagnosisLimits) : Except SchemaError Value :=
  match value with
  | .null => .ok .null
  | value => copyJsonValue limits "scope" value

def timestamp (value : Value) (field : String) (required : Bool) :
    Except SchemaError (Option ℤ) :=
  match value with
  | .null => if required then .error (.invalid (field ++ " is required")) else .ok none
  | .int n =>
    if n < 0 then
      .error (.invalid (field ++ " must be a non-negative integer milliseconds value"))
    else .ok (some n)
  | _ => .error (.invalid (field ++ " must be a non-negative integer milliseconds value"))

def ofText (s : Option String) : Value := s.elim .null .str
def ofInt (n : Option ℤ) : Value := n.elim .null .int

def items (value : Value) : Except SchemaError (List Value) :=
  value.iterate.elim (.error .typeError) .ok

structure Evidence where
  kind : String
  role : EvidenceRole
  evidenceId : Option String
  source : Option String
  provenance : Option String
  scope : Value
  timestampMs : Option ℤ
  value : Value
  unit : Option String
  capability : Option String
  validity : Option String

namespace Evidence
def selectRole (entries : List (String × Value)) (role : Option EvidenceRole) :
    Except SchemaError EvidenceRole :=
  match entries.lookup "role" with
  | some raw =>
    match EvidenceRole.parse raw with
    | none => .error (.invalid "evidence role is invalid")
    | some parsed =>
      if ∃ given ∈ role, parsed ≠ given then
        .error (.invalid "evidence role does not match its structural container")
      else .ok parsed
  | none => role.elim (.error (.invalid "evidence role is required")) .ok

def fromDict (payload : Value) (role : Option EvidenceRole) (limits : DiagnosisLimits) :
    Except SchemaError Evidence :=
  match payload with
  | .dict entries => do
    let role ← selectRole entries role
    let evidenceId ← optionalString ((entries.lookup "evidence_id").getD (get entries "id"))
      "evidence_id" limits
    let kind ← string (get entries "kind") "evidence.kind" limits
    let source ← optionalString (get entries "source") "evidence.source" limits
    let provenance ← optionalString (get entries "provenance") "evidence.provenance" limits
    let place ← Ai.scope (get entries "scope") limits
    let timestampMs ← timestamp (get entries "timestamp_ms") "evidence.timestamp_ms" false
    let value ← copyJsonValue limits "evidence.value" (get entries "value")
    let unit ← optionalString (get entries "unit") "evidence.unit" limits
    let capability ← optionalString (get entries "capability") "evidence.capability" limits
    let validity ← optionalString (get entries "validity") "evidence.validity" limits
    return ⟨kind, role, evidenceId, source, provenance, place, timestampMs, value, unit,
      capability, validity⟩
  | _ => .error (.invalid "evidence must be an object")

def optional (e : Evidence) : List (String × Value) :=
  [("source", ofText e.source), ("provenance", ofText e.provenance), ("scope", e.scope),
    ("timestamp_ms", ofInt e.timestampMs), ("value", e.value), ("unit", ofText e.unit),
    ("capability", ofText e.capability), ("validity", ofText e.validity)]

def entries (e : Evidence) : List (String × Value) :=
  [("evidence_id", ofText e.evidenceId), ("kind", .str e.kind), ("role", .str e.role.value)] ++
    e.optional.filter fun entry => !entry.2.isNull

def toDict (e : Evidence) : Value := .dict e.entries
end Evidence

def evidenceList (values : Value) (role : EvidenceRole) (limits : DiagnosisLimits)
    (field : String) : Except SchemaError (List Evidence) := do
  let values ← items values
  let evidence ← values.mapM fun item => Evidence.fromDict item (some role) limits
  refuse (limits.maxEvidencePerItem < evidence.length)
    (.inputTooLarge (field ++ " exceeds max_evidence_per_item"))
  return evidence

/-- `payload.get(key, [])`. -/
def listEntry (entries : List (String × Value)) (key : String) : Value :=
  (entries.lookup key).getD (.list [])

section Printed
variable (py : Printer Double)
structure Incident where
  id : String
  type : String
  state : String
  severity : Option String
  scope : Value
  openedAtMs : Option ℤ
  updatedAtMs : Option ℤ
  evidence : List Evidence

namespace Incident
def fromDict (payload : Value) (limits : DiagnosisLimits) : Except SchemaError Incident :=
  match payload with
  | .dict entries => do
    let id ← string (.str ((get entries "id").toText py)) "incident.id" limits
    let type ← string (get entries "type") "incident.type" limits
    let state ← string (get entries "state") "incident.state" limits
    let severity ← optionalString (get entries "severity") "incident.severity" limits
    let place ← Ai.scope (get entries "scope") limits
    let openedAtMs ← timestamp (get entries "opened_at_ms") "incident.opened_at_ms" true
    let updatedAtMs ← timestamp
      ((entries.lookup "last_updated_at_ms").getD (get entries "updated_at_ms"))
      "incident.updated_at_ms" true
    let evidence ← evidenceList (listEntry entries "evidence") .supporting limits
      "incident.evidence"
    return ⟨id, type, state, severity, place, openedAtMs, updatedAtMs, evidence⟩
  | _ => .error (.invalid "incident must be an object")

def entries (i : Incident) : List (String × Value) :=
  [("id", .str i.id), ("type", .str i.type), ("state", .str i.state),
    ("severity", ofText i.severity), ("scope", i.scope), ("opened_at_ms", ofInt i.openedAtMs),
    ("updated_at_ms", ofInt i.updatedAtMs), ("evidence", .list (i.evidence.map Evidence.toDict))]

def toDict (i : Incident) : Value := .dict i.entries
end Incident

structure RootCauseHypothesis where
  hypothesisId : String
  type : String
  state : String
  confidence : String
  scope : Value
  openedAtMs : Option ℤ
  updatedAtMs : Option ℤ
  supportingEvidence : List Evidence
  contradictingEvidence : List Evidence
  missingEvidence : List Evidence
  occurrence : Value

namespace RootCauseHypothesis
def fromDict (payload : Value) (limits : DiagnosisLimits) (requireTimestamps : Bool) :
    Except SchemaError RootCauseHypothesis :=
  match payload with
  | .dict entries => do
    let id ← string
      (.str (((entries.lookup "hypothesis_id").getD (get entries "id")).toText py))
      "hypothesis_id" limits
    let type ← string (get entries "type") "hypothesis.type" limits
    let state ← string (get entries "state") "hypothesis.state" limits
    let confidence ← string (.str ((get entries "confidence").toText py)) "hypothesis.confidence"
      limits
    let place ← Ai.scope (get entries "scope") limits
    let openedAtMs ← timestamp (get entries "opened_at_ms") "hypothesis.opened_at_ms"
      requireTimestamps
    let updatedAtMs ← timestamp
      ((entries.lookup "last_updated_at_ms").getD (get entries "updated_at_ms"))
      "hypothesis.updated_at_ms" requireTimestamps
    let supporting ← evidenceList (listEntry entries "supporting_evidence") .supporting limits
      "hypothesis.supporting_evidence"
    let contradicting ← evidenceList (listEntry entries "contradicting_evidence") .contradicting
      limits "hypothesis.contradicting_evidence"
    let missing ← evidenceList (listEntry entries "missing_evidence") .missing limits
      "hypothesis.missing_evidence"
    return ⟨id, type, state, confidence, place, openedAtMs, updatedAtMs, supporting,
      contradicting, missing, get entries "occurrence"⟩
  | _ => .error (.invalid "hypothesis must be an object")

def evidence (h : RootCauseHypothesis) : EvidenceRole → List Evidence
  | .supporting => h.supportingEvidence
  | .contradicting => h.contradictingEvidence
  | .missing => h.missingEvidence

def allEvidence (h : RootCauseHypothesis) : List Evidence :=
  h.supportingEvidence ++ h.contradictingEvidence ++ h.missingEvidence

def entries (h : RootCauseHypothesis) : List (String × Value) :=
  [("hypothesis_id", .str h.hypothesisId), ("type", .str h.type), ("state", .str h.state),
    ("confidence", .str h.confidence), ("scope", h.scope), ("opened_at_ms", ofInt h.openedAtMs),
    ("updated_at_ms", ofInt h.updatedAtMs), ("occurrence", h.occurrence),
    ("supporting_evidence", .list (h.supportingEvidence.map Evidence.toDict)),
    ("contradicting_evidence", .list (h.contradictingEvidence.map Evidence.toDict)),
    ("missing_evidence", .list (h.missingEvidence.map Evidence.toDict))]

def toDict (h : RootCauseHypothesis) : Value := .dict h.entries
end RootCauseHypothesis

def diagnosisSchemaVersion : String := "weaknet.ai.diagnosis.v1"

structure DiagnosisSnapshot where
  schemaVersion : String
  snapshotTimestampMs : Value
  status : String
  limitations : List Value
  topology : Value
  incidents : List Incident
  hypotheses : List RootCauseHypothesis
  limits : DiagnosisLimits

namespace DiagnosisSnapshot
def allEvidence (s : DiagnosisSnapshot) : List Evidence :=
  s.incidents.flatMap Incident.evidence ++ s.hypotheses.flatMap RootCauseHypothesis.allEvidence

def entries (s : DiagnosisSnapshot) : List (String × Value) :=
  [("schema_version", .str s.schemaVersion), ("snapshot_timestamp_ms", s.snapshotTimestampMs),
    ("status", .str s.status), ("limitations", .list s.limitations), ("topology", s.topology),
    ("incidents", .list (s.incidents.map Incident.toDict)),
    ("hypotheses", .list (s.hypotheses.map RootCauseHypothesis.toDict))]

def toDict (s : DiagnosisSnapshot) : Value := .dict s.entries

def validate (s : DiagnosisSnapshot) : Except SchemaError Unit := do
  s.limits.validate
  refuse (s.schemaVersion ≠ diagnosisSchemaVersion)
    (.invalid "unsupported diagnosis schema_version")
  let _ ← timestamp s.snapshotTimestampMs "snapshot_timestamp_ms" false
  let _ ← string (.str s.status) "status" s.limits
  refuse (s.limits.maxIncidents < s.incidents.length) (.inputTooLarge "too many incidents")
  refuse (s.limits.maxHypotheses < s.hypotheses.length) (.inputTooLarge "too many hypotheses")
  refuse (s.limits.maxEvidencePerItem * 4 < s.limitations.length)
    (.inputTooLarge "too many limitations")
  let _ ← s.limitations.mapM fun limitation => string limitation "limitation" s.limits
  refuse (s.limits.maxTotalEvidence < s.allEvidence.length)
    (.inputTooLarge "too much total evidence")
  refuse (s.limits.maxSerializedBytes < (dumps py s.toDict).length)
    (.inputTooLarge "serialized diagnosis exceeds max_serialized_bytes")

def numbered (owner : String) (role : EvidenceRole) (evidence : List Evidence) : List Evidence :=
  evidence.mapIdx fun index e => { e with
    evidenceId := some (e.evidenceId.getD
      (owner ++ ":" ++ role.lower ++ ":" ++ toString index)) }

def nameIncident (i : Incident) : Incident :=
  { i with evidence := numbered ("incident:" ++ i.id) .supporting i.evidence }

def nameRole (h : RootCauseHypothesis) (role : EvidenceRole) : List Evidence :=
  (numbered ("hypothesis:" ++ h.hypothesisId) role (h.evidence role)).map fun e =>
    { e with role := role }

def nameHypothesis (h : RootCauseHypothesis) : RootCauseHypothesis :=
  { h with
    supportingEvidence := nameRole h .supporting
    contradictingEvidence := nameRole h .contradicting
    missingEvidence := nameRole h .missing }

def ensureEvidenceIds (s : DiagnosisSnapshot) : DiagnosisSnapshot :=
  { s with
    incidents := s.incidents.map nameIncident
    hypotheses := s.hypotheses.map nameHypothesis }

def finish (s : DiagnosisSnapshot) : Except SchemaError DiagnosisSnapshot := do
  s.validate py
  s.ensureEvidenceIds.validate py
  return s.ensureEvidenceIds

def fromDict (payload : Value) (limits : DiagnosisLimits)
    (requireTimestamp requireHypothesisTimestamps : Bool) :
    Except SchemaError DiagnosisSnapshot :=
  match payload with
  | .dict entries =>
    match get entries "schema_version" with
    | .str version =>
      if version ≠ diagnosisSchemaVersion then
        .error (.invalid "unsupported diagnosis schema_version")
      else do
        let rawIncidents ← items (listEntry entries "incidents")
        let incidents ← rawIncidents.mapM fun item => Incident.fromDict py item limits
        let rawHypotheses ← items (listEntry entries "hypotheses")
        let hypotheses ← rawHypotheses.mapM fun item =>
          RootCauseHypothesis.fromDict py item limits requireHypothesisTimestamps
        let snapshotTimestampMs ← timestamp (get entries "snapshot_timestamp_ms")
          "snapshot_timestamp_ms" requireTimestamp
        let status ← string (get entries "status") "status" limits
        let rawLimitations ← items (listEntry entries "limitations")
        let limitations ← rawLimitations.mapM fun item => string item "limitation" limits
        let topology ← copyJsonValue limits "topology" (get entries "topology")
        finish py ⟨version, ofInt snapshotTimestampMs, status, limitations.map .str, topology,
          incidents, hypotheses, limits⟩
    | _ => .error (.invalid "unsupported diagnosis schema_version")
  | _ => .error (.invalid "diagnosis snapshot must be an object")

def normalizedCopy (s : DiagnosisSnapshot) : Except SchemaError DiagnosisSnapshot :=
  fromDict py s.toDict s.limits false false
end DiagnosisSnapshot
end Printed
end WeakNet.Ai
