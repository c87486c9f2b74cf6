import WeakNet.Ai.EvidenceExplainer

/-! What each stage of a successful call has established for the next. The validator does not ask
for an explanation of every hypothesis, and the parsers take a list of names for an object; these
are the two ways an error stays unclassified. -/

namespace WeakNet.Ai.EvidenceExplainer
open ProviderExplanationPayload Except
open Foundation Foundation.Json Foundation.Fallible GroundingValidator List

variable {py : Printer Double} {s n : DiagnosisSnapshot} {requestId : String}
  {answer : ProviderAnswer} {payload : ProviderExplanationPayload}
  {explained : ExplanationReport}

variable {α : Type} {id : String} {h : RootCauseHypothesis} {value : Value} {a : α}
theorem classifyInput_ok {x : Except SchemaError α} (h : classifyInput x = .ok a) :
    x = .ok a := by
  rcases x with (_ | _ | _) | _
  · cases h
  · cases h
  · cases h
  · exact congrArg ok (ok.inj h)

theorem classifyOutput_ok {x : Except ParseError α} (h : classifyOutput x = .ok a) :
    x = .ok a := by
  rcases x with ((_ | _ | _) | _) | _
  · cases h
  · cases h
  · cases h
  · cases h
  · exact congrArg ok (ok.inj h)

theorem classifyGrounding_ok {x : Except GroundingViolation α} (h : classifyGrounding x = .ok a) :
    x = .ok a := by
  cases x with
  | error => cases h
  | ok => exact congrArg ok (ok.inj h)

theorem uncaught_ok {x : Except SchemaError α} (h : uncaught x = .ok a) : x = .ok a := by
  rcases x with (_ | _ | _) | _
  · cases h
  · cases h
  · cases h
  · exact congrArg ok (ok.inj h)

theorem normalized_ok (h : normalized py s = .ok n) : s.normalizedCopy py = .ok n := by
  obtain ⟨_, hcopy, h⟩ := bind_eq_ok.mp h
  obtain ⟨_, -, h⟩ := bind_eq_ok.mp h
  rw [hcopy, ← ok.inj h]

structure Explained (py : Printer Double) (s : DiagnosisSnapshot) (requestId : String)
    (answer : ProviderAnswer) (explained : ExplanationReport) (n : DiagnosisSnapshot)
    (payload : ProviderExplanationPayload) : Prop where
  copy : s.normalizedCopy py = .ok n
  result : ∃ r, answer = .result r ∧
    ProviderExplanationPayload.fromDict py r.structuredPayload = .ok payload ∧
    report n payload requestId r = .ok explained
  grounded : Grounded n payload

theorem explain_ok (h : explain py s requestId answer = .ok explained) :
    ∃ n payload, Explained py s requestId answer explained n payload := by
  rw [explain] at h
  obtain ⟨n, hn, h⟩ := bind_eq_ok.mp h
  obtain ⟨_, -, h⟩ := bind_eq_ok.mp h
  obtain ⟨r, hr, h⟩ := bind_eq_ok.mp h
  obtain ⟨_, -, h⟩ := bind_eq_ok.mp h
  obtain ⟨payload, hpayload, h⟩ := bind_eq_ok.mp h
  obtain ⟨_, hgrounded, h⟩ := bind_eq_ok.mp h
  have hanswer : answer = .result r := by
    cases answer with
    | result => rw [ok.inj hr]
    | _ => cases hr
  exact ⟨n, payload, normalized_ok (classifyInput_ok hn),
    ⟨r, hanswer, classifyOutput_ok hpayload, h⟩,
    validate_grounded (classifyGrounding_ok hgrounded)⟩

variable {r : LlmProviderResult}
theorem explain_of_copy (hnormalized : normalized py s = .ok n) {copy : DiagnosisSnapshot}
    (hcopy : n.normalizedCopy py = .ok copy) :
    explain py s requestId (.result r) = conclude py n requestId r := by
  rw [explain, hnormalized]
  change uncaught (n.normalizedCopy py) >>= _ = _
  rw [hcopy]
  rfl

theorem report_ok (h : report n payload requestId r = .ok explained) :
    Forall₂ (fun hypothesis item => explainHypothesis payload hypothesis = .ok item)
      n.hypotheses explained.hypotheses ∧
    explained.limitations = n.limitations.map diagnosisLimitation ++
      payload.limitations.map LimitationExplanation.toDict := by
  obtain ⟨_, hitems, h⟩ := bind_eq_ok.mp h
  cases h
  exact ⟨mapM_eq_ok.mp hitems, rfl⟩

def samplePrinter : Printer Double := ⟨fun _ => "Infinity", fun _ => ""⟩

def sampleEvidence (role : EvidenceRole) (id : String) : Evidence where
  kind := "k"
  role := role
  evidenceId := some id
  source := none
  provenance := none
  scope := .null
  timestampMs := none
  value := .null
  unit := none
  capability := none
  validity := none

def sampleHypothesis (id : String) (supporting missing : List String) :
    RootCauseHypothesis where
  hypothesisId := id
  type := "t"
  state := "s"
  confidence := "1"
  scope := .null
  openedAtMs := none
  updatedAtMs := none
  supportingEvidence := supporting.map (sampleEvidence .supporting)
  contradictingEvidence := []
  missingEvidence := missing.map (sampleEvidence .missing)
  occurrence := .null

def sample : DiagnosisSnapshot where
  schemaVersion := diagnosisSchemaVersion
  snapshotTimestampMs := .null
  status := "s"
  limitations := [.str "l"]
  topology := .float .posInf
  incidents := []
  hypotheses := [sampleHypothesis "a" ["e"] ["m"], sampleHypothesis "b" [] []]
  limits := {}

theorem sampleEvidence_normal (role : EvidenceRole) (id : String) :
    (sampleEvidence role id).Normal {} role where
  role := rfl
  kind := show Text {} "k" by decide +kernel
  source := forall_mem_none
  provenance := forall_mem_none
  scope := rfl
  timestampMs := forall_mem_none
  value := rfl
  unit := forall_mem_none
  capability := forall_mem_none
  validity := forall_mem_none

variable {ids : List String}
theorem sampleEvidence_listed (role : EvidenceRole) (h : ids.length ≤ 32) :
    Listed {} role (ids.map (sampleEvidence role)) where
  length_le := by
    rw [length_map]
    exact Int.ofNat_le.mpr h
  normal := by
    intro e he
    obtain ⟨id, -, rfl⟩ := mem_map.mp he
    exact sampleEvidence_normal ..

theorem sampleHypothesis_normal {supporting missing : List String} (hid : Text {} id)
    (hsupporting : supporting.length ≤ 32) (hmissing : missing.length ≤ 32) :
    (sampleHypothesis id supporting missing).Normal {} where
  hypothesisId := hid
  type := show Text {} "t" by decide +kernel
  state := show Text {} "s" by decide +kernel
  confidence := show Text {} "1" by decide +kernel
  scope := rfl
  openedAtMs := forall_mem_none
  updatedAtMs := forall_mem_none
  evidence := by
    have hnone : ([] : List String).length ≤ 32 := Nat.zero_le 32
    intro role
    cases role with
    | supporting => exact sampleEvidence_listed .supporting hsupporting
    | contradicting => exact sampleEvidence_listed .contradicting hnone
    | missing => exact sampleEvidence_listed .missing hmissing

theorem sample_ids (hmem : h ∈ sample.hypotheses) (role : EvidenceRole) :
    ∀ e ∈ h.evidence role, ∃ id ∈ ["e", "m"], e = sampleEvidence role id := by
  rcases mem_cons.mp hmem with rfl | hmem
  · intro e he
    cases role with
    | supporting => exact ⟨"e", by decide, List.mem_singleton.mp he⟩
    | contradicting => cases he
    | missing => exact ⟨"m", by decide, List.mem_singleton.mp he⟩
  · rw [mem_singleton.mp hmem]
    intro e he
    cases role <;> exact absurd he not_mem_nil

theorem text_sampleId (h : id ∈ ["e", "m"]) : Text {} id := by
  revert id
  decide +kernel

theorem sample_normal : sample.Normal samplePrinter where
  supported := rfl
  timestamp := ⟨none, rfl, forall_mem_none⟩
  status := show Text {} "s" by decide +kernel
  limitations := by
    refine ⟨["l"], rfl, ?_⟩
    decide +kernel
  topology := rfl
  incidents := forall_mem_nil _
  hypotheses := by
    intro h hmem
    constructor
    · rcases mem_cons.mp hmem with rfl | hmem
      · exact sampleHypothesis_normal (by decide +kernel) (by decide) (by decide)
      · rw [mem_singleton.mp hmem]
        exact sampleHypothesis_normal (by decide +kernel) (by decide) (by decide)
    · intro role e he
      obtain ⟨id, hid, rfl⟩ := sample_ids hmem role e he
      exact ⟨id, rfl, (text_sampleId hid).1⟩
  valid := by decide +kernel

theorem sample_copy : sample.normalizedCopy samplePrinter = .ok sample := by
  refine sample_normal.copy_eq (forall_mem_nil _) ?_
  intro h hmem role e he id hid
  obtain ⟨_, hknown, rfl⟩ := sample_ids hmem role e he
  exact Option.some.inj hid ▸ text_sampleId hknown

/-- Whatever was read from a dictionary is copied unchanged, unless an evidence id that was made up
for it is too long. -/
theorem read_snapshot_stable {payload : Value} {limits : DiagnosisLimits} {timed timedItems : Bool}
    (h : DiagnosisSnapshot.fromDict py payload limits timed timedItems = .ok n) :
    n.normalizedCopy py = .ok n ∨ ∃ text, n.normalizedCopy py = .error (.inputTooLarge text) := by
  obtain ⟨_, _, -, hparsed, rfl, hvalid⟩ := DiagnosisSnapshot.fromDict_parsed h
  have hcopy := (hparsed.normal hvalid).copy_within
  generalize DiagnosisSnapshot.normalizedCopy .. = copy at hcopy ⊢
  cases hcopy with
  | ok => exact .inl rfl
  | error _ htext => exact .inr (htext.imp fun _ => congrArg error)

theorem read_sample_stable :
    sample.normalizedCopy samplePrinter = .ok sample ∨
      ∃ text, sample.normalizedCopy samplePrinter = .error (.inputTooLarge text) :=
  read_snapshot_stable sample_copy

theorem explain_sample (r : LlmProviderResult) :
    explain samplePrinter sample requestId (.result r) =
      conclude samplePrinter sample requestId r := by
  have hnormalized : normalized samplePrinter sample = .ok sample := by
    rw [normalized, sample_copy]
    exact bind_eq_ok.mpr ⟨sample, rfl, bind_eq_ok.mpr ⟨(), sample_normal.valid, rfl⟩⟩
  exact explain_of_copy hnormalized sample_copy

def sampleExplanation (id : String) (supporting missing : List String) : Value :=
  .dict [("hypothesis_id", .str id), ("explanation", .str "x"),
    ("supporting_evidence_ids", .list (supporting.map .str)),
    ("missing_evidence_ids", .list (missing.map .str))]

def sampleResult (explanations : List Value) : LlmProviderResult :=
  ⟨"fake", "m", .dict [("schema_version", .str explanationSchemaVersion), ("summary", .str "x"),
    ("hypothesis_explanations", .list explanations),
    ("limitations", .list [.dict [("missing_evidence_id", .str "m"), ("explanation", .str "x")]])],
    none, "completed", none, none⟩

def faithfulResult : LlmProviderResult :=
  sampleResult [sampleExplanation "a" ["e"] ["m"], sampleExplanation "b" [] []]

theorem faithful_explained :
    ∃ report, explain samplePrinter sample "" (.result faithfulResult) = .ok report := by
  have hok : (explain samplePrinter sample "" (.result faithfulResult)).map (fun _ => ()) =
      .ok () := by
    rw [explain_sample]
    decide +kernel
  generalize explain samplePrinter sample "" (.result faithfulResult) = outcome at hok
  cases outcome with
  | error => cases hok
  | ok report => exact ⟨report, rfl⟩

variable {x : HypothesisExplanation}

theorem checked_hypothesis {limitationIds : List String} (hchecked : Checked n limitationIds x)
    (hid : x.hypothesisId = h.hypothesisId) {last : RootCauseHypothesis}
    (hlast : hypothesisById n h.hypothesisId = some last) :
    (∀ role, SameSet ((x.ids role).map some) ((last.evidence role).map Evidence.evidenceId)) ∧
      ∀ e ∈ last.missingEvidence, ∃ id ∈ e.evidenceId, id ∈ limitationIds := by
  obtain ⟨_, hfind, hroles, hmissing⟩ := hchecked
  rw [hid, hlast] at hfind
  cases hfind
  exact ⟨hroles, hmissing⟩

theorem explanationOf_ok (h : explanationOf payload id = .ok x) :
    x ∈ payload.hypothesisExplanations ∧ x.hypothesisId = id := by
  obtain ⟨_, hfind, hx⟩ := elim_eq_ok.mp h
  cases hx
  exact lastBy_some hfind

structure Entry (payload : ProviderExplanationPayload) (h : RootCauseHypothesis)
    (item : ExplainedHypothesis) (x : HypothesisExplanation) : Prop where
  mem : x ∈ payload.hypothesisExplanations
  id : x.hypothesisId = h.hypothesisId
  same : (item.hypothesisId, item.type, item.confidence, item.state, item.scope) =
    (h.hypothesisId, h.type, h.confidence, h.state, h.scope)
  evidence : ∀ role, List.Forall₂ (fun id value => evidenceDict h id = .ok value) (x.ids role)
    (item.evidence role)

theorem explainHypothesis_ok {item : ExplainedHypothesis}
    (hitem : explainHypothesis payload h = .ok item) : ∃ x, Entry payload h item x := by
  simp only [explainHypothesis, bind_eq_ok] at hitem
  obtain ⟨x, hx, supporting, hsupporting, contradicting, hcontradicting, missing, hmissing, hitem⟩
    := hitem
  cases hitem
  obtain ⟨hmem, hid⟩ := explanationOf_ok hx
  refine ⟨x, hmem, hid, rfl, fun role => ?_⟩
  cases role with
  | supporting => exact mapM_eq_ok.mp hsupporting
  | contradicting => exact mapM_eq_ok.mp hcontradicting
  | missing => exact mapM_eq_ok.mp hmissing

theorem placed_ids (s : DiagnosisSnapshot) :
    ((placed s).map fun item => item.evidence.evidenceId) =
      (s.hypotheses.flatMap RootCauseHypothesis.allEvidence).map Evidence.evidenceId := by
  rw [placed, map_flatMap, map_flatMap]
  refine flatMap_congr fun h _ => ?_
  simp [EvidenceRole.all, RootCauseHypothesis.allEvidence, RootCauseHypothesis.evidence,
    Function.comp_def]

theorem allEvidence_nodup (hgrounded : Grounded n payload) (hmem : h ∈ n.hypotheses) :
    (h.allEvidence.map Evidence.evidenceId).Nodup := by
  have hall := hgrounded.distinct
  rw [placed_ids] at hall
  refine hall.sublist (Sublist.map _ ?_)
  exact sublist_flatten_of_mem (mem_map_of_mem hmem)

theorem evidenceDict_ok (hvalue : evidenceDict h id = .ok value) :
    ∃ e, lastBy Evidence.evidenceId h.allEvidence (some id) = some e ∧ value = e.toDict := by
  obtain ⟨e, hfind, hdict⟩ := elim_eq_ok.mp hvalue
  exact ⟨e, hfind, (ok.inj hdict).symm⟩

theorem allEvidence_eq_nil (hnone : ∀ role, h.evidence role = []) : h.allEvidence = [] := by
  rw [RootCauseHypothesis.allEvidence, show h.supportingEvidence = [] from hnone .supporting,
    show h.contradictingEvidence = [] from hnone .contradicting,
    show h.missingEvidence = [] from hnone .missing]
  rfl

/-- An explanation has the evidence of the last hypothesis with its id, and no other hypothesis
has any of it. -/
theorem ids_eq_nil (hgrounded : Grounded n payload) (hmem : h ∈ n.hypotheses)
    {item : ExplainedHypothesis} (hx : Entry payload h item x) {last : RootCauseHypothesis}
    (hlast : hypothesisById n h.hypothesisId = some last) (hne : last ≠ h) (role : EvidenceRole) :
    x.ids role = [] := by
  have hall := hgrounded.distinct
  rw [placed_ids, map_flatMap, nodup_flatMap] at hall
  have hsymm : Std.Symm (Function.onFun List.Disjoint fun h : RootCauseHypothesis =>
      h.allEvidence.map Evidence.evidenceId) := ⟨fun _ _ hpair => List.Disjoint.symm hpair⟩
  have hdisjoint := hall.2.forall (lastBy_some hlast).1 hmem hne
  refine eq_nil_iff_forall_not_mem.mpr fun id hid => ?_
  have hsame := (checked_hypothesis (hgrounded.checked x hx.mem) hx.id hlast).1 role
  obtain ⟨e, he, heid⟩ := mem_map.mp (hsame.1 (mem_map_of_mem hid))
  obtain ⟨_, -, hvalue⟩ := exists_right (hx.evidence role) hid
  obtain ⟨_, hfind, -⟩ := evidenceDict_ok hvalue
  obtain ⟨hown, hownId⟩ := lastBy_some hfind
  exact hdisjoint (mem_map.mpr ⟨e, (last.evidence_sublist role).subset he, heid⟩)
    (mem_map.mpr ⟨_, hown, hownId⟩)

section Reported
variable {h : RootCauseHypothesis} {values : List Value}
    (hread : List.Forall₂ (fun id value => evidenceDict h id = .ok value) ids values)
include hread
theorem reported_eq : values = (ids.map some).map fun id =>
    (lastBy Evidence.evidenceId h.allEvidence id).elim .null Evidence.toDict := by
  rw [map_map, ← map_id values]
  refine map_eq_of_forall₂ hread fun id _ value hvalue => ?_
  obtain ⟨_, hfind, rfl⟩ := evidenceDict_ok hvalue
  rw [Function.comp_apply, hfind]
  rfl

theorem reported_perm_iff (hnodup : (h.allEvidence.map Evidence.evidenceId).Nodup)
    {role : EvidenceRole}
    (hsame : SameSet (ids.map some) ((h.evidence role).map Evidence.evidenceId)) :
    values.Perm ((h.evidence role).map Evidence.toDict) ↔ ids.Nodup := by
  have hroleNodup : ((h.evidence role).map Evidence.evidenceId).Nodup :=
    hnodup.sublist ((h.evidence_sublist role).map _)
  constructor
  · intro hperm
    -- a list with the same elements as a list without repetitions, and as long
    have hlength : (ids.map some).length = ((h.evidence role).map Evidence.evidenceId).length := by
      rw [length_map, length_map, hread.length_eq, hperm.length_eq, length_map]
    have hids := (subperm_of_subset hroleNodup hsame.2).perm_of_length_le hlength.le
    exact Nodup.of_map some (hids.nodup_iff.mp hroleNodup)
  · intro hids
    have hperm : (ids.map some).Perm ((h.evidence role).map Evidence.evidenceId) := by
      refine (perm_ext_iff_of_nodup ?_ hroleNodup).mpr fun id => ?_
      · exact hids.map (Option.some_injective _)
      · exact ⟨fun hid => hsame.1 hid, fun hid => hsame.2 hid⟩
    have hdicts : ((h.evidence role).map Evidence.evidenceId).map (fun id =>
        (lastBy Evidence.evidenceId h.allEvidence id).elim .null Evidence.toDict) =
          (h.evidence role).map Evidence.toDict := by
      rw [map_map]
      refine map_congr_left fun e he => ?_
      rw [Function.comp_apply, lastBy_of_nodup hnodup ((h.evidence_sublist role).subset he)]
      rfl
    rw [reported_eq hread, ← hdicts]
    exact hperm.map _
end Reported

/-! An entry shows the evidence of the last hypothesis with its id, and nothing for another one. -/

theorem Entry.perm_iff {item : ExplainedHypothesis} (hx : Entry payload h item x)
    (hgrounded : Grounded n payload) (hmem : h ∈ n.hypotheses)
    (hlast : hypothesisById n h.hypothesisId = some h) (role : EvidenceRole) :
    (item.evidence role).Perm ((h.evidence role).map Evidence.toDict) ↔ (x.ids role).Nodup := by
  have hsame := (checked_hypothesis (hgrounded.checked x hx.mem) hx.id hlast).1
  exact reported_perm_iff (hx.evidence role) (allEvidence_nodup hgrounded hmem) (hsame role)

theorem Entry.nothing {item : ExplainedHypothesis} (hx : Entry payload h item x)
    (hgrounded : Grounded n payload) (hmem : h ∈ n.hypotheses)
    (hother : hypothesisById n h.hypothesisId ≠ some h) (role : EvidenceRole) :
    item.evidence role = [] := by
  obtain ⟨last, hlast⟩ : ∃ last, hypothesisById n h.hypothesisId = some last := exists_lastBy hmem
  have hids := ids_eq_nil hgrounded hmem hx hlast (fun heq => hother (heq ▸ hlast)) role
  have hread := hx.evidence role
  rw [hids] at hread
  exact forall₂_nil_left_iff.mp hread

/-- A report lists the hypotheses of the normalized snapshot, whose evidence ids are distinct. It
shows the evidence of every role, each item once, exactly when every hypothesis with evidence is
the last one with its id and the provider repeats no id within a role. -/
theorem evidence_preserved_iff (h : explain py s requestId answer = .ok explained) :
    ∃ n payload r, s.normalizedCopy py = .ok n ∧ answer = .result r ∧
      ProviderExplanationPayload.fromDict py r.structuredPayload = .ok payload ∧
      (explained.hypotheses.map fun item =>
          (item.hypothesisId, item.type, item.confidence, item.state, item.scope)) =
        (n.hypotheses.map fun item =>
          (item.hypothesisId, item.type, item.confidence, item.state, item.scope)) ∧
      ((n.hypotheses.flatMap RootCauseHypothesis.allEvidence).map Evidence.evidenceId).Nodup ∧
      ((∀ pair ∈ n.hypotheses.zip explained.hypotheses, ∀ role,
          (pair.2.evidence role).Perm ((pair.1.evidence role).map Evidence.toDict)) ↔
        (∀ hypothesis ∈ n.hypotheses,
          GroundingValidator.hypothesisById n hypothesis.hypothesisId = some hypothesis ∨
            hypothesis.allEvidence = []) ∧
        ∀ x ∈ payload.hypothesisExplanations, ∀ role, (x.ids role).Nodup) := by
  obtain ⟨n, payload, hcopy, ⟨r, hanswer, hpayload, hreport⟩, hgrounded⟩ := explain_ok h
  obtain ⟨hitems, -⟩ := report_ok hreport
  refine ⟨n, payload, r, hcopy, hanswer, hpayload, ?_, ?_, ?_⟩
  · refine map_eq_of_forall₂ hitems fun hypothesis _ item hitem => ?_
    obtain ⟨x, hx⟩ := explainHypothesis_ok hitem
    exact hx.same
  · rw [← placed_ids]
    exact hgrounded.distinct
  have hpair : ∀ pair ∈ n.hypotheses.zip explained.hypotheses, ∃ x, Entry payload pair.1 pair.2 x :=
    fun _ hmem => explainHypothesis_ok ((forall₂_iff_zip.mp hitems).2 hmem)
  have hzipped : ∀ hypothesis ∈ n.hypotheses, ∃ item,
      (hypothesis, item) ∈ n.hypotheses.zip explained.hypotheses := by
    intro hypothesis hmem
    rw [← map_fst_zip hitems.length_eq.le] at hmem
    obtain ⟨pair, hpair, rfl⟩ := mem_map.mp hmem
    exact ⟨pair.2, hpair⟩
  constructor
  · refine fun hperm => ⟨fun hypothesis hmem => ?_, fun x hx role => ?_⟩
    · obtain ⟨item, hzip⟩ := hzipped hypothesis hmem
      obtain ⟨_, hx⟩ := hpair _ hzip
      refine or_iff_not_imp_left.mpr fun hne => allEvidence_eq_nil fun role => ?_
      have hnone := hperm _ hzip role
      rw [hx.nothing hgrounded hmem hne role] at hnone
      exact map_eq_nil_iff.mp (nil_perm.mp hnone)
    · -- the explanation is about a hypothesis, and it is the one its entry was made from
      obtain ⟨hypothesis, hfind, -⟩ := hgrounded.checked x hx
      obtain ⟨hmem, hid⟩ := lastBy_some hfind
      obtain ⟨item, hzip⟩ := hzipped hypothesis hmem
      obtain ⟨x', hx'⟩ := hpair _ hzip
      have hsame : x' = x := inj_on_of_nodup_map hgrounded.explained hx'.mem hx (hx'.id.trans hid)
      rw [← hsame]
      rw [← hid] at hfind
      exact (hx'.perm_iff hgrounded hmem hfind role).mp (hperm _ hzip role)
  · rintro ⟨hlast, hdistinct⟩ pair hmem role
    obtain ⟨x, hx⟩ := hpair pair hmem
    have hhypothesis : pair.1 ∈ n.hypotheses := (of_mem_zip hmem).1
    by_cases hown : hypothesisById n pair.1.hypothesisId = some pair.1
    · exact (hx.perm_iff hgrounded hhypothesis hown role).mpr (hdistinct x hx.mem role)
    · have hnone := (hlast pair.1 hhypothesis).resolve_left hown
      have hrole : pair.1.evidence role = [] := by
        have hsublist := pair.1.evidence_sublist role
        rw [hnone] at hsublist
        exact sublist_nil.mp hsublist
      rw [hx.nothing hgrounded hhypothesis hown role, hrole]
      rfl

/-- A payload that names an item of evidence twice has it twice in the report. -/
theorem evidence_duplicated :
    (explain samplePrinter sample "" (.result (sampleResult
        [sampleExplanation "a" ["e", "e"] ["m"], sampleExplanation "b" [] []]))).map
      (fun report => report.hypotheses.map fun h => h.supportingEvidence.length) = .ok [2, 0] ∧
    (sample.normalizedCopy samplePrinter).map
      (fun n => n.hypotheses.map fun h => h.supportingEvidence.length) = .ok [1, 0] := by
  rw [explain_sample, sample_copy]
  refine ⟨?_, rfl⟩
  decide +kernel

theorem evidence_preserved_faithful :
    ∃ report, explain samplePrinter sample "" (.result faithfulResult) = .ok report ∧
      report.hypotheses.map ExplainedHypothesis.hypothesisId = ["a", "b"] ∧
      ∀ pair ∈ sample.hypotheses.zip report.hypotheses, ∀ role,
        (pair.2.evidence role).Perm ((pair.1.evidence role).map Evidence.toDict) := by
  obtain ⟨report, hreport⟩ := faithful_explained
  obtain ⟨_, payload, _, hcopy, hresult, hpayload, hsame, -, hiff⟩ := evidence_preserved_iff hreport
  cases sample_copy.symm.trans hcopy
  cases hresult
  refine ⟨report, hreport, ?_, hiff.mpr ⟨?_, ?_⟩⟩
  · have hids := congrArg (List.map Prod.fst) hsame
    rw [map_map, map_map] at hids
    exact hids
  · intro hypothesis hmem
    exact .inl (lastBy_of_nodup (by decide) hmem)
  · have hdistinct : (fromDict samplePrinter
        faithfulResult.structuredPayload).map (fun payload => decide
          (∀ x ∈ payload.hypothesisExplanations, ∀ role ∈ EvidenceRole.all,
            (x.ids role).Nodup)) = .ok true := by decide +kernel
    rw [hpayload] at hdistinct
    intro x hx role
    refine of_decide_eq_true (ok.inj hdistinct) x hx role ?_
    cases role <;> decide

def referenced : Value → Option String
  | .dict entries =>
    match get entries "missing_evidence_id" with
    | .str id => some id
    | _ => none
  | _ => none

/-- The limitations of the snapshot stand first. Those of the provider refer to missing evidence
of the hypotheses, and each item of missing evidence is referred to once. -/
theorem missing_evidence_disclosed
    (hids : (s.hypotheses.map RootCauseHypothesis.hypothesisId).Nodup)
    (h : explain py s requestId answer = .ok explained) :
    ∃ n provider, s.normalizedCopy py = .ok n ∧
      explained.limitations = s.limitations.map diagnosisLimitation ++ provider ∧
      (∀ limitation ∈ provider, ∃ hypothesis ∈ n.hypotheses, ∃ e ∈ hypothesis.missingEvidence,
        ∃ id, e.evidenceId = some id ∧ referenced limitation = some id) ∧
      ∀ hypothesis ∈ n.hypotheses, ∀ e ∈ hypothesis.missingEvidence,
        ∃ id, e.evidenceId = some id ∧ (provider.filterMap referenced).count id = 1 := by
  obtain ⟨n, payload, hcopy, ⟨_, -, -, hreport⟩, hgrounded⟩ := explain_ok h
  obtain ⟨hitems, hlimitations⟩ := report_ok hreport
  rw [DiagnosisSnapshot.normalizedCopy_limitations hcopy] at hlimitations
  rw [← DiagnosisSnapshot.normalizedCopy_hypothesisIds hcopy] at hids
  refine ⟨n, _, hcopy, hlimitations, ?_, fun hypothesis hmem e he => ?_⟩
  · intro limitation hlimitation
    obtain ⟨note, hnote, rfl⟩ := mem_map.mp hlimitation
    obtain ⟨hypothesis, hmem, e, he, hid⟩ := hgrounded.missing note hnote
    exact ⟨hypothesis, hmem, e, he, note.id, hid, rfl⟩
  · -- a hypothesis that is in the report has been explained, and so checked
    obtain ⟨_, hindex, rfl⟩ := getElem_of_mem hmem
    obtain ⟨x, hx⟩ := explainHypothesis_ok (hitems.get hindex (hitems.length_eq ▸ hindex))
    obtain ⟨id, hid, hdisclosed⟩ :=
      (checked_hypothesis (hgrounded.checked x hx.mem) hx.id (lastBy_of_nodup hids hmem)).2 e he
    have hreferenced : (payload.limitations.map LimitationExplanation.toDict).filterMap referenced =
        payload.limitations.map Note.id := by
      rw [filterMap_map, ← filterMap_eq_map]
      rfl
    rw [hreferenced]
    exact ⟨id, hid, count_eq_one_of_mem hgrounded.limitationIds hdisclosed⟩

theorem missing_evidence_faithful :
    ∃ report provider, explain samplePrinter sample "" (.result faithfulResult) = .ok report ∧
      report.limitations = [diagnosisLimitation (.str "l")] ++ provider ∧
      (provider.filterMap referenced).count "m" = 1 := by
  obtain ⟨report, hreport⟩ := faithful_explained
  obtain ⟨_, provider, hcopy, hlimitations, -, hmissing⟩ :=
    missing_evidence_disclosed (by decide) hreport
  cases sample_copy.symm.trans hcopy
  obtain ⟨_, hid, hcount⟩ := hmissing _ mem_cons_self _ mem_cons_self
  cases hid
  exact ⟨report, provider, hreport, hlimitations, hcount⟩

def Caught (e : ParseError) : Prop := e ≠ .attributeError

theorem caught_schema (e : SchemaError) : Caught (.schema e) := by
  rintro ⟨⟩

theorem bind_attributeError {β : Type} {x : Except ParseError α} {f : α → Except ParseError β}
    (h : Raises Caught x) :
    x >>= f = .error .attributeError ↔ ∃ a, x = .ok a ∧ f a = .error .attributeError := by
  rw [bind_eq_error, or_iff_right]
  exact fun herror => h _ herror rfl

def Misread (allowed : List String) (item : Value) : Prop :=
  (∀ fields, item ≠ .dict fields) ∧
    ∃ values, item.iterate = some values ∧ values.all (supports allowed) = true

theorem text_raises (value : Value) (field : String) : Raises Caught (text value field) := by
  rw [text.eq_def]
  split
  · split_ifs
    · exact .error (caught_schema _)
    · exact .ok _
  · exact .error (caught_schema _)

theorem refs_raises (value : Value) (field : String) : Raises Caught (refs value field) := by
  rw [refs.eq_def]
  split
  · exact .ok []
  · rename_i items
    cases items.mapM reference with
    | none => exact .error (caught_schema _)
    | some references => exact .ok references
  · exact .error (caught_schema _)

theorem unsupported_raises (payload : Value) (allowed : List String) :
    Raises Caught (unsupported payload allowed) := by
  rw [unsupported]
  split
  · split_ifs
    · exact .ok _
    · exact .error (caught_schema _)
  · exact .error (caught_schema _)

theorem unsupported_eq_nil {item : Value} {allowed : List String} :
    unsupported item allowed = .ok [] ↔
      ∃ values, item.iterate = some values ∧ values.all (supports allowed) = true := by
  rw [unsupported]
  cases item.iterate with
  | none => exact iff_of_false nofun nofun
  | some values =>
    have hhashable : values.all (supports allowed) → values.all hashable := by
      intro hall
      refine all_eq_true.mpr fun v hv => ?_
      have hv := all_eq_true.mp hall v hv
      cases v with
      | str => rfl
      | _ => cases hv
    constructor
    · intro hnil
      dsimp only at hnil
      split_ifs at hnil
      refine ⟨values, rfl, all_eq_true.mpr fun v hv => ?_⟩
      have hsupported := filter_eq_nil_iff.mp (ok.inj hnil) v hv
      rwa [Bool.not_eq_true', Bool.not_eq_false] at hsupported
    · rintro ⟨_, ⟨⟩, hall⟩
      dsimp only
      rw [if_pos (hhashable hall)]
      refine congrArg ok (filter_eq_nil_iff.mpr fun v hv => ?_)
      rw [Bool.not_eq_true', Bool.not_eq_false]
      exact all_eq_true.mp hall v hv

theorem parse_misread {β : Type} {item : Value} {allowed : List String}
    {rest : List (String × Value) → Except ParseError β}
    {refusal : List Value → Except ParseError β} (hrest : ∀ entries, Raises Caught (rest entries))
    (hrefusal : ∀ unknown, Raises Caught (refusal unknown)) :
    (unsupported item allowed >>= fun unknown =>
        if unknown.isEmpty then objectEntries item >>= rest else refusal unknown) =
      .error .attributeError ↔ Misread allowed item := by
  rw [bind_attributeError (unsupported_raises _ _)]
  constructor
  · rintro ⟨unknown, hunknown, herror⟩
    split_ifs at herror with hempty
    · rw [isEmpty_iff.mp hempty] at hunknown
      refine ⟨?_, unsupported_eq_nil.mp hunknown⟩
      rintro fields rfl
      exact hrest fields _ herror rfl
    · exact absurd rfl (hrefusal unknown _ herror)
  · rintro ⟨hother, hvalues⟩
    refine ⟨[], unsupported_eq_nil.mpr hvalues, ?_⟩
    rw [if_pos isEmpty_nil]
    cases item with
    | dict fields => exact absurd rfl (hother fields)
    | _ => rfl

theorem hypothesisExplanation_misread (item : Value) :
    HypothesisExplanation.fromDict py item = .error .attributeError ↔
      Misread HypothesisExplanation.allowed item := by
  refine parse_misread (fun entries => ?_) fun unknown => ?_
  · refine (text_raises _ _).bind fun hypothesisId _ => ?_
    refine (text_raises _ _).bind fun explanation _ => ?_
    refine (refs_raises _ _).bind fun supporting _ => ?_
    refine (refs_raises _ _).bind fun contradicting _ => ?_
    exact (refs_raises _ _).bind fun missing _ => .ok _
  · split_ifs
    all_goals exact .error (caught_schema _)

theorem noteFromDict_misread (idName explanationField message : String) (item : Value) :
    noteFromDict idName explanationField message item = .error .attributeError ↔
      Misread [idName, "explanation"] item := by
  refine parse_misread (fun entries => ?_) fun unknown => .error (caught_schema _)
  refine (text_raises _ _).bind fun id _ => ?_
  exact (text_raises _ _).bind fun explanation _ => .ok _

section
variable (entries : List (String × Value))
theorem version_raises :
    Raises Caught (version entries) := by
  rw [version]
  split
  · split_ifs
    · exact .ok _
    · exact .error (caught_schema _)
  · exact .error (caught_schema _)

theorem arrays_raises :
    Raises Caught (arrays entries) := by
  rw [arrays]
  split
  · exact .ok _
  · exact .error (caught_schema _)

theorem isSimulated_raises :
    Raises Caught (isSimulated entries) := by
  rw [isSimulated]
  split
  · exact .ok _
  · exact .error (caught_schema _)
end

section Parse
variable (py)
def Stumbles {β : Type} (parse : Value → Except ParseError β) (allowed : List String)
    (items : List Value) : Prop :=
  ∃ before item after, items = before ++ item :: after ∧
    (∀ earlier ∈ before, ∃ b, parse earlier = .ok b) ∧ Misread allowed item

/-- What precedes the lists in a payload is well formed, and so are the lists before the one with
an item that is misread. -/
inductive MisreadPayload : Value → Prop
  | intro (entries : List (String × Value)) (version summary : String)
    (raw : List Value × List Value × List Value) (simulated : Bool)
    (hnames : ∀ entry ∈ entries, entry.1 ∈ ProviderExplanationPayload.allowed)
    (hversion : ProviderExplanationPayload.version entries = .ok version)
    (harrays : arrays entries = .ok raw) (hsimulated : isSimulated entries = .ok simulated)
    (hsummary : text (get entries "summary") "summary" = .ok summary)
    (hitems : Stumbles (HypothesisExplanation.fromDict py) HypothesisExplanation.allowed raw.1 ∨
      (∃ hypotheses, raw.1.mapM (HypothesisExplanation.fromDict py) = .ok hypotheses) ∧
        (Stumbles EvidenceExplanation.fromDict ["evidence_id", "explanation"] raw.2.1 ∨
          (∃ evidence, raw.2.1.mapM EvidenceExplanation.fromDict = .ok evidence) ∧
            Stumbles LimitationExplanation.fromDict ["missing_evidence_id", "explanation"]
              raw.2.2)) :
    MisreadPayload (.dict entries)
end Parse

theorem stumbles_iff {β : Type} {parse : Value → Except ParseError β} {allowed : List String}
    (h : ∀ item, parse item = .error .attributeError ↔ Misread allowed item) {items : List Value} :
    items.mapM parse = .error .attributeError ↔ Stumbles parse allowed items := by
  simp only [mapM_eq_error, h]
  rfl

theorem fromDict_misread {payload : Value} :
    fromDict py payload = .error .attributeError ↔ MisreadPayload py payload := by
  rw [fromDict.eq_def]
  split
  · rename_i entries
    have hnames : ((entries.map Prod.fst).filter fun name => !allowed.contains name).isEmpty ↔
        ∀ entry ∈ entries, entry.1 ∈ ProviderExplanationPayload.allowed := by simp
    dsimp only
    split_ifs with hempty
    · constructor
      · intro herror
        obtain ⟨version, hversion, herror⟩ := (bind_attributeError (version_raises _)).mp herror
        obtain ⟨raw, hraw, herror⟩ := (bind_attributeError (arrays_raises _)).mp herror
        obtain ⟨_, hsimulated, herror⟩ := (bind_attributeError (isSimulated_raises _)).mp herror
        obtain ⟨summary, hsummary, herror⟩ := (bind_attributeError (text_raises _ _)).mp herror
        refine .intro entries version summary raw _ (hnames.mp hempty) hversion hraw hsimulated
          hsummary ?_
        rcases bind_eq_error.mp herror with herror | ⟨hypotheses, hhypotheses, herror⟩
        · exact .inl ((stumbles_iff hypothesisExplanation_misread).mp herror)
        refine .inr ⟨⟨hypotheses, hhypotheses⟩, ?_⟩
        rcases bind_eq_error.mp herror with herror | ⟨evidence, hevidence, herror⟩
        · exact .inl ((stumbles_iff (noteFromDict_misread _ _ _)).mp herror)
        refine .inr ⟨⟨evidence, hevidence⟩, ?_⟩
        rcases bind_eq_error.mp herror with herror | ⟨_, -, herror⟩
        · exact (stumbles_iff (noteFromDict_misread _ _ _)).mp herror
        · cases herror
      · rintro ⟨_, version, summary, raw, simulated, -, hversion, hraw, hsimulated, hsummary, hitems⟩
        refine bind_eq_error.mpr (.inr ⟨version, hversion, bind_eq_error.mpr (.inr ⟨raw, hraw, ?_⟩)⟩)
        refine bind_eq_error.mpr (.inr ⟨simulated, hsimulated, ?_⟩)
        refine bind_eq_error.mpr (.inr ⟨summary, hsummary, bind_eq_error.mpr ?_⟩)
        rcases hitems with hstumbles | ⟨⟨hypotheses, hhypotheses⟩, hitems⟩
        · exact .inl ((stumbles_iff hypothesisExplanation_misread).mpr hstumbles)
        refine .inr ⟨hypotheses, hhypotheses, bind_eq_error.mpr ?_⟩
        rcases hitems with hstumbles | ⟨⟨evidence, hevidence⟩, hstumbles⟩
        · exact .inl ((stumbles_iff (noteFromDict_misread _ _ _)).mpr hstumbles)
        refine .inr ⟨evidence, hevidence, bind_eq_error.mpr (.inl ?_)⟩
        exact (stumbles_iff (noteFromDict_misread _ _ _)).mpr hstumbles
    · refine iff_of_false nofun ?_
      rintro ⟨_, _, _, _, _, hallowed, -⟩
      exact hempty (hnames.mpr hallowed)
  · rename_i hother
    refine iff_of_false nofun ?_
    rintro ⟨entries⟩
    exact hother entries rfl

/-- Every hypothesis has an explanation, which can show its evidence only if the evidence the
validator compared it with is that of the same hypothesis. -/
def Reportable (n : DiagnosisSnapshot) (payload : ProviderExplanationPayload) : Prop :=
  ∀ h ∈ n.hypotheses,
    (∃ x ∈ payload.hypothesisExplanations, x.hypothesisId = h.hypothesisId) ∧
    ∀ last, GroundingValidator.hypothesisById n h.hypothesisId = some last →
      last = h ∨ last.allEvidence = []

theorem explainHypothesis_exists (hgrounded : Grounded n payload) (hmem : h ∈ n.hypotheses)
    (hreportable : Reportable n payload) : ∃ item, explainHypothesis payload h = .ok item := by
  obtain ⟨⟨x₀, hx₀, hid₀⟩, hlast⟩ := hreportable h hmem
  obtain ⟨x, hfind⟩ : ∃ x, lastBy HypothesisExplanation.hypothesisId
      payload.hypothesisExplanations x₀.hypothesisId = some x := exists_lastBy hx₀
  rw [hid₀] at hfind
  obtain ⟨hx, hid⟩ := lastBy_some hfind
  obtain ⟨last, hfound, hsame, -⟩ := hgrounded.checked x hx
  rw [hid] at hfound
  have hread : ∀ role, ∃ values, (x.ids role).mapM (evidenceDict h) = .ok values := by
    refine fun role => exists_mapM fun id hmemId => ?_
    obtain ⟨e, he, heid⟩ := mem_map.mp ((hsame role).1 (mem_map_of_mem hmemId))
    have hall := (last.evidence_sublist role).subset he
    rcases hlast last hfound with rfl | hnone
    · obtain ⟨e', he'⟩ :
          ∃ e', lastBy Evidence.evidenceId last.allEvidence e.evidenceId = some e' :=
        exists_lastBy hall
      refine ⟨e'.toDict, ?_⟩
      rw [evidenceDict, ← heid, he']
      rfl
    · rw [hnone] at hall
      cases hall
  obtain ⟨supporting, hsupporting⟩ := hread .supporting
  obtain ⟨contradicting, hcontradicting⟩ := hread .contradicting
  obtain ⟨missing, hmissing⟩ := hread .missing
  refine ⟨_, bind_eq_ok.mpr ⟨x, ?_, bind_eq_ok.mpr ⟨supporting, hsupporting, bind_eq_ok.mpr
    ⟨contradicting, hcontradicting, bind_eq_ok.mpr ⟨missing, hmissing, rfl⟩⟩⟩⟩⟩
  rw [explanationOf, hfind]
  rfl

theorem reportable_of_report (hgrounded : Grounded n payload)
    (h : report n payload requestId r = .ok explained) : Reportable n payload := by
  intro hypothesis hmem
  obtain ⟨item, -, hitem⟩ := exists_right (report_ok h).1 hmem
  obtain ⟨x, hx⟩ := explainHypothesis_ok hitem
  refine ⟨⟨x, hx.mem, hx.id⟩, fun last hlast => or_iff_not_imp_left.mpr fun hne => ?_⟩
  refine allEvidence_eq_nil fun role => ?_
  have hsame := (checked_hypothesis (hgrounded.checked x hx.mem) hx.id hlast).1 role
  rw [ids_eq_nil hgrounded hmem hx hlast hne role] at hsame
  exact map_eq_nil_iff.mp (subset_nil.mp hsame.2)

def Unclassified (e : ExplainError) : Prop := ¬e.Classified

theorem lookup_raises {γ : Type} (o : Option γ) (g : γ → α) (id : String) :
    Raises Unclassified (o.elim (.error (.keyError id)) fun c => .ok (g c)) := by
  cases o with
  | none => exact .error not_false
  | some c => exact .ok (g c)

theorem report_raises : Raises Unclassified (report n payload requestId r) := by
  have hread : ∀ h (ids : List String), Raises Unclassified (ids.mapM (evidenceDict h)) :=
    fun h ids => Raises.mapM fun id _ => lookup_raises _ Evidence.toDict id
  refine Raises.bind (Raises.mapM fun h _ => ?_) fun _ _ => .ok _
  refine Raises.bind (lookup_raises _ _ _) fun x _ => ?_
  refine (hread h x.supportingEvidenceIds).bind fun _ _ => ?_
  refine (hread h x.contradictingEvidenceIds).bind fun _ _ => ?_
  exact (hread h x.missingEvidenceIds).bind fun _ _ => .ok _

theorem classifyInput_raises (x : Except SchemaError α) :
    Raises ExplainError.Classified (classifyInput x) := by
  rcases x with (_ | _ | _) | a
  · exact .error trivial
  · exact .error trivial
  · exact .error trivial
  · exact .ok a

theorem request_raises (h : DiagnosisSnapshot.Normal py n) :
    Raises ExplainError.Classified (uncaught (n.normalizedCopy py)) := by
  have hwithin := h.copy_within
  generalize n.normalizedCopy py = copy at hwithin
  cases hwithin with
  | ok => exact .ok n
  | error _ he =>
    obtain ⟨_, rfl⟩ := he
    exact .error trivial

theorem generate_raises (answer : ProviderAnswer) :
    Raises ExplainError.Classified (generate answer) := by
  cases answer with
  | result r => exact .ok r
  | _ => exact .error trivial

theorem completed_raises (r : LlmProviderResult) :
    Raises ExplainError.Classified (completed r) := by
  rw [completed, refuse]
  split_ifs
  · exact .error trivial
  · exact .error trivial
  · exact .ok ()

theorem classifyOutput_raises {x : Except ParseError α} (h : x ≠ .error .attributeError) :
    Raises ExplainError.Classified (classifyOutput x) := by
  rcases x with ((_ | _ | _) | _) | a
  · exact .error trivial
  · exact .error trivial
  · exact .error trivial
  · exact absurd rfl h
  · exact .ok a

theorem classifyGrounding_raises (x : Except GroundingViolation α) :
    Raises ExplainError.Classified (classifyGrounding x) := by
  cases x with
  | error => exact .error trivial
  | ok a => exact .ok a

/-- Every exception that leaves `explain` is classified exactly when a payload that is reached is
not misread and, if it is grounded, the report can be built from it. -/
theorem errors_classified_iff :
    (∀ e, explain py s requestId answer = .error e → e.Classified) ↔
      ∀ n r, normalized py s = .ok n → (∃ copy, n.normalizedCopy py = .ok copy) →
        answer = .result r → completed r = .ok () →
        ¬MisreadPayload py r.structuredPayload ∧
        ∀ payload, ProviderExplanationPayload.fromDict py r.structuredPayload = .ok payload →
          GroundingValidator.validate n payload = .ok () → Reportable n payload := by
  constructor
  · rintro hall n r hn ⟨copy, hcopy⟩ rfl hcompleted
    rw [explain_of_copy hn hcopy, conclude, hcompleted] at hall
    refine ⟨fun hmisread => ?_, fun payload hpayload hvalid => ?_⟩
    · rw [fromDict_misread.mpr hmisread] at hall
      exact hall _ rfl
    · rw [hpayload] at hall
      change ∀ e, (classifyGrounding (validate n payload) >>= fun _ =>
        report n payload requestId r) = .error e → _ at hall
      rw [hvalid] at hall
      cases hreport : report n payload requestId r with
      | error e => exact absurd (hall e hreport) (report_raises e hreport)
      | ok => exact reportable_of_report (validate_grounded hvalid) hreport
  · intro hcondition
    rw [explain]
    refine (classifyInput_raises _).bind fun n hn => ?_
    have hnormalized := classifyInput_ok hn
    have hnormal := DiagnosisSnapshot.normalizedCopy_normal (normalized_ok hnormalized)
    refine (request_raises hnormal).bind fun copy hcopy => ?_
    refine (generate_raises answer).bind fun r hr => ?_
    have hanswer : answer = .result r := by
      cases answer with
      | result => rw [ok.inj hr]
      | _ => cases hr
    refine (completed_raises r).bind fun _ hcompleted => ?_
    obtain ⟨hread, hreportable⟩ := hcondition n r hnormalized ⟨copy, uncaught_ok hcopy⟩ hanswer
      hcompleted
    refine (classifyOutput_raises (mt fromDict_misread.mp hread)).bind fun payload hpayload => ?_
    refine (classifyGrounding_raises _).bind fun _ hvalid => ?_
    -- `_report` runs outside of the handlers too, and looks every hypothesis up
    have hvalid := classifyGrounding_ok hvalid
    have hreportable := hreportable payload (classifyOutput_ok hpayload) hvalid
    refine Raises.bind (Raises.mapM fun hypothesis hmem => ?_) fun items _ => .ok _
    obtain ⟨item, hitem⟩ := explainHypothesis_exists (validate_grounded hvalid) hmem hreportable
    rw [hitem]
    exact .ok item

/-- A payload that explains one of the two hypotheses, and one whose explanation list contains
an empty list, raise errors that no handler expects. -/
theorem unclassified_errors :
    explain samplePrinter sample "" (.result (sampleResult [sampleExplanation "a" ["e"] ["m"]])) =
        .error (.keyError "b") ∧
      explain samplePrinter sample "" (.result (sampleResult [.list []])) =
        .error .attributeError := by
  rw [explain_sample, explain_sample]
  refine ⟨eq_error_of_map (f := fun _ => ()) ?_, eq_error_of_map (f := fun _ => ()) ?_⟩
  all_goals decide +kernel
end WeakNet.Ai.EvidenceExplainer
