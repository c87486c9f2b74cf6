import WeakNet.Ai.DiagnosisCopy
import WeakNet.Ai.GroundingValidator

/-! `EvidenceExplainerService.explain`. What the provider does is given as data. Of the request only
the copy of the snapshot that it holds is modelled, since making the copy may fail. -/

namespace WeakNet.Ai
open Foundation Foundation.Json Foundation.Fallible

/-- The subclasses of `AiLayerError` and the class itself. -/
inductive AiLayerError where
  | aiLayerError | invalidDiagnosisInput | providerUnavailable | providerAuthenticationError
  | providerRateLimited | providerTimeout | providerRequestError | providerServerError
  | invalidProviderOutput | groundingValidationError | providerConfigurationError
  | providerSelectionError | diagnosisSourceError | diagnosisSourceTimeout
  | malformedDiagnosisSourcePayload
deriving DecidableEq

inductive ExplainError where
  | inputTooLarge (text : String)
  | aiLayer (kind : AiLayerError) (text : String) (listed : List String)
  | validation (text : String) (listed : List String)
  | typeError
  | attributeError
  | keyError (key : String)
deriving DecidableEq

/-- `InputTooLarge` or an `AiLayerError`. -/
def ExplainError.Classified : ExplainError → Prop
  | .inputTooLarge _ | .aiLayer _ _ _ => True
  | _ => False

structure LlmProviderResult where
  provider : String
  model : String
  structuredPayload : Value
  latencyMs : Option ℤ
  finishStatus : String
  error : Option String
  providerRequestId : Option String

inductive ProviderAnswer where
  | timeout
  | unreachable (text : String)
  | tooLarge (text : String)
  | aiLayer (kind : AiLayerError) (text : String)
  | failed (text : String)
  | result (r : LlmProviderResult)

structure ExplainedHypothesis where
  hypothesisId : String
  type : String
  confidence : String
  state : String
  scope : Value
  explanation : String
  supportingEvidence : List Value
  contradictingEvidence : List Value
  missingEvidence : List Value

def ExplainedHypothesis.evidence (r : ExplainedHypothesis) : EvidenceRole → List Value
  | .supporting => r.supportingEvidence
  | .contradicting => r.contradictingEvidence
  | .missing => r.missingEvidence

structure ExplanationReport where
  schemaVersion : String
  requestId : String
  diagnosisSnapshotTimestampMs : Value
  deterministicStatus : String
  provider : String
  model : String
  simulated : Bool
  summary : String
  hypotheses : List ExplainedHypothesis
  limitations : List Value
  validationStatus : String
  latencyMs : Option ℤ
  providerRequestId : Option String
  finishStatus : String

namespace EvidenceExplainer

def classifyInput {α : Type} : Except SchemaError α → Except ExplainError α
  | .ok a => .ok a
  | .error (.inputTooLarge text) => .error (.inputTooLarge text)
  | .error (.validation text listed) => .error (.aiLayer .invalidDiagnosisInput text listed)
  | .error .typeError => .error (.aiLayer .invalidDiagnosisInput "" [])

def uncaught {α : Type} : Except SchemaError α → Except ExplainError α
  | .ok a => .ok a
  | .error (.inputTooLarge text) => .error (.inputTooLarge text)
  | .error (.validation text listed) => .error (.validation text listed)
  | .error .typeError => .error .typeError

def classifyOutput {α : Type} : Except ParseError α → Except ExplainError α
  | .ok a => .ok a
  | .error (.schema (.inputTooLarge text)) => .error (.aiLayer .invalidProviderOutput text [])
  | .error (.schema (.validation text listed)) =>
    .error (.aiLayer .invalidProviderOutput text listed)
  | .error (.schema .typeError) => .error (.aiLayer .invalidProviderOutput "" [])
  | .error .attributeError => .error .attributeError

def classifyGrounding {α : Type} : Except GroundingViolation α → Except ExplainError α
  | .ok a => .ok a
  | .error violation =>
    .error (.aiLayer .groundingValidationError violation.text violation.listed)

def generate : ProviderAnswer → Except ExplainError LlmProviderResult
  | .timeout => .error (.aiLayer .providerTimeout "LLM provider timed out" [])
  | .unreachable text => .error (.aiLayer .providerUnavailable text [])
  | .tooLarge text => .error (.inputTooLarge text)
  | .aiLayer kind text => .error (.aiLayer kind text [])
  | .failed text => .error (.aiLayer .providerUnavailable text [])
  | .result r => .ok r

def completed (r : LlmProviderResult) : Except ExplainError Unit :=
  let error := r.error.getD ""
  refuse (error ≠ "" ∨ r.finishStatus ∉ ["completed", "success", "stop"])
    (.aiLayer .providerUnavailable (if error = "" then "provider did not complete" else error) [])

/-- `provider_by_id[id]`. -/
def explanationOf (payload : ProviderExplanationPayload) (id : String) :
    Except ExplainError HypothesisExplanation :=
  (lastBy HypothesisExplanation.hypothesisId payload.hypothesisExplanations id).elim
    (.error (.keyError id)) .ok

/-- `by_id[id]`. -/
def evidenceDict (h : RootCauseHypothesis) (id : String) : Except ExplainError Value :=
  (lastBy Evidence.evidenceId h.allEvidence (some id)).elim (.error (.keyError id))
    fun e => .ok e.toDict

def explainHypothesis (payload : ProviderExplanationPayload) (h : RootCauseHypothesis) :
    Except ExplainError ExplainedHypothesis := do
  let item ← explanationOf payload h.hypothesisId
  let supporting ← item.supportingEvidenceIds.mapM (evidenceDict h)
  let contradicting ← item.contradictingEvidenceIds.mapM (evidenceDict h)
  let missing ← item.missingEvidenceIds.mapM (evidenceDict h)
  return ⟨h.hypothesisId, h.type, h.confidence, h.state, h.scope, item.explanation, supporting,
    contradicting, missing⟩

def diagnosisLimitation (item : Value) : Value :=
  .dict [("source", .str "diagnosis"), ("explanation", item)]

def report (s : DiagnosisSnapshot) (payload : ProviderExplanationPayload) (requestId : String)
    (r : LlmProviderResult) : Except ExplainError ExplanationReport := do
  let explained ← s.hypotheses.mapM (explainHypothesis payload)
  return {
    schemaVersion := explanationSchemaVersion
    requestId := requestId
    diagnosisSnapshotTimestampMs := s.snapshotTimestampMs
    deterministicStatus := s.status
    provider := r.provider
    model := r.model
    simulated := r.provider == "fake"
    summary := payload.summary
    hypotheses := explained
    limitations := s.limitations.map diagnosisLimitation ++
      payload.limitations.map LimitationExplanation.toDict
    validationStatus := "validated"
    latencyMs := r.latencyMs
    providerRequestId := r.providerRequestId
    finishStatus := r.finishStatus }

section Explain
variable (py : Printer Double)
def normalized (s : DiagnosisSnapshot) : Except SchemaError DiagnosisSnapshot := do
  let n ← s.normalizedCopy py
  n.validate py
  return n

def conclude (n : DiagnosisSnapshot) (requestId : String) (r : LlmProviderResult) :
    Except ExplainError ExplanationReport := do
  completed r
  let payload ← classifyOutput (ProviderExplanationPayload.fromDict py r.structuredPayload)
  classifyGrounding (GroundingValidator.validate n payload)
  report n payload requestId r

def explain (s : DiagnosisSnapshot) (requestId : String) (answer : ProviderAnswer) :
    Except ExplainError ExplanationReport := do
  let n ← classifyInput (normalized py s)
  let _ ← uncaught (n.normalizedCopy py)
  let r ← generate answer
  conclude py n requestId r
end Explain
end EvidenceExplainer
end WeakNet.Ai
