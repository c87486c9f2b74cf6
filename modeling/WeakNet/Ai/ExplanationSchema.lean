import WeakNet.Ai.DiagnosisSchema

/-! The parsers of `schemas/explanation.py`. They take the names in a payload with `set(payload)`
before they know that it is an object, so a list of allowed names or an empty string gets as far as
`payload.get`, which raises `AttributeError`. -/

namespace WeakNet.Ai
open Foundation Foundation.Json

def explanationSchemaVersion : String := "weaknet.ai.explanation.v1"

inductive ParseError where
  | schema (e : SchemaError)
  | attributeError
deriving DecidableEq

namespace ParseError
def invalid (text : String) : ParseError := .schema (.invalid text)
def typeError : ParseError := .schema .typeError
end ParseError

def text (value : Value) (field : String) : Except ParseError String :=
  match value with
  | .str s =>
    if s = "" then .error (.invalid (field ++ " must be a non-empty string")) else .ok s
  | _ => .error (.invalid (field ++ " must be a non-empty string"))

def reference : Value → Option String
  | .str s => if s = "" then none else some s
  | _ => none

def refs (value : Value) (field : String) : Except ParseError (List String) :=
  match value with
  | .null => .ok []
  | .list items => (items.mapM reference).elim
      (.error (.invalid (field ++ " must be a list of non-empty strings"))) .ok
  | _ => .error (.invalid (field ++ " must be a list of non-empty strings"))

def hashable : Value → Bool
  | .list _ | .dict _ => false
  | _ => true

def isNumber : Value → Bool
  | .bool _ | .int _ | .float _ => true
  | _ => false

def isText : Value → Bool
  | .str _ => true
  | _ => false

/-- Whether `sorted` can order the distinct elements. -/
def sortable (values : List Value) : Bool :=
  values.all isText || values.all isNumber || values.all isNull

def supports (allowed : List String) : Value → Bool
  | .str s => allowed.contains s
  | _ => false

/-- `set(payload) - allowed`. -/
def unsupported (payload : Value) (allowed : List String) : Except ParseError (List Value) :=
  match payload.iterate with
  | some values =>
    if values.all hashable then .ok (values.filter fun v => !supports allowed v)
    else .error .typeError
  | none => .error .typeError

/-- `payload.get` for what follows. -/
def objectEntries : Value → Except ParseError (List (String × Value))
  | .dict entries => .ok entries
  | _ => .error .attributeError

section Printed
variable (py : Printer Double)
structure HypothesisExplanation where
  hypothesisId : String
  explanation : String
  supportingEvidenceIds : List String
  contradictingEvidenceIds : List String
  missingEvidenceIds : List String

namespace HypothesisExplanation
def allowed : List String :=
  ["hypothesis_id", "explanation", "supporting_evidence_ids", "contradicting_evidence_ids",
    "missing_evidence_ids"]

def fromDict (payload : Value) : Except ParseError HypothesisExplanation := do
  let unknown ← unsupported payload allowed
  if unknown.isEmpty then
    let entries ← objectEntries payload
    let hypothesisId ← text (get entries "hypothesis_id") "hypothesis_id"
    let explanation ← text (get entries "explanation") "explanation"
    let supporting ← refs (get entries "supporting_evidence_ids") "supporting_evidence_ids"
    let contradicting ← refs (get entries "contradicting_evidence_ids")
      "contradicting_evidence_ids"
    let missing ← refs (get entries "missing_evidence_ids") "missing_evidence_ids"
    return ⟨hypothesisId, explanation, supporting, contradicting, missing⟩
  else if sortable unknown then
    .error (.schema (.validation "provider hypothesis explanation has unsupported fields: "
      (unknown.map fun v => v.toText py)))
  else .error .typeError

def ids (e : HypothesisExplanation) : EvidenceRole → List String
  | .supporting => e.supportingEvidenceIds
  | .contradicting => e.contradictingEvidenceIds
  | .missing => e.missingEvidenceIds
end HypothesisExplanation

structure Note where
  id : String
  explanation : String

def noteFromDict (idName explanationField message : String) (payload : Value) :
    Except ParseError Note := do
  let unknown ← unsupported payload [idName, "explanation"]
  if unknown.isEmpty then
    let entries ← objectEntries payload
    let id ← text (get entries idName) idName
    let explanation ← text (get entries "explanation") explanationField
    return ⟨id, explanation⟩
  else .error (.invalid message)

def EvidenceExplanation.fromDict (payload : Value) : Except ParseError Note :=
  noteFromDict "evidence_id" "explanation" "provider evidence explanation has unsupported fields"
    payload

def LimitationExplanation.fromDict (payload : Value) : Except ParseError Note :=
  noteFromDict "missing_evidence_id" "limitation.explanation"
    "provider limitation has unsupported fields" payload

def LimitationExplanation.toDict (limitation : Note) : Value :=
  .dict [("missing_evidence_id", .str limitation.id), ("explanation", .str limitation.explanation)]

structure ProviderExplanationPayload where
  schemaVersion : String
  summary : String
  hypothesisExplanations : List HypothesisExplanation
  evidenceExplanations : List Note
  limitations : List Note
  provider : String
  simulated : Bool

namespace ProviderExplanationPayload
def allowed : List String :=
  ["schema_version", "provider", "simulated", "summary", "hypothesis_explanations",
    "evidence_explanations", "limitations"]

def arrays (entries : List (String × Value)) :
    Except ParseError (List Value × List Value × List Value) :=
  match listEntry entries "hypothesis_explanations", listEntry entries "evidence_explanations",
      listEntry entries "limitations" with
  | .list hypotheses, .list evidence, .list limitations =>
    .ok (hypotheses, evidence, limitations)
  | _, _, _ => .error (.invalid "provider explanation arrays must be lists")

def isSimulated (entries : List (String × Value)) : Except ParseError Bool :=
  match (entries.lookup "simulated").getD (.bool false) with
  | .bool simulated => .ok simulated
  | _ => .error (.invalid "simulated must be boolean")

def version (entries : List (String × Value)) : Except ParseError String :=
  match get entries "schema_version" with
  | .str s =>
    if s = explanationSchemaVersion then .ok s
    else .error (.invalid "unsupported explanation schema_version")
  | _ => .error (.invalid "unsupported explanation schema_version")

def fromDict (payload : Value) : Except ParseError ProviderExplanationPayload :=
  match payload with
  | .dict entries =>
    let unknown := (entries.map Prod.fst).filter fun name => !allowed.contains name
    if unknown.isEmpty then do
      let schemaVersion ← version entries
      let raw ← arrays entries
      let simulated ← isSimulated entries
      let summary ← text (get entries "summary") "summary"
      let hypotheses ← raw.1.mapM (HypothesisExplanation.fromDict py)
      let evidence ← raw.2.1.mapM EvidenceExplanation.fromDict
      let limitations ← raw.2.2.mapM LimitationExplanation.fromDict
      return ⟨schemaVersion, summary, hypotheses, evidence, limitations,
        ((entries.lookup "provider").getD (.str "")).toText py, simulated⟩
    else
      .error (.schema (.validation
        "provider output contains unsupported authoritative fields: " unknown))
  | _ => .error (.invalid "provider output must be an object")
end ProviderExplanationPayload
end Printed
end WeakNet.Ai
