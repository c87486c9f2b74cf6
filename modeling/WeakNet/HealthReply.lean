import WeakNet.DbusReply
import WeakNet.NetworkQuality
import WeakNet.Foundation.JsonDecode
import WeakNet.Foundation.Utf8

/-! `DbusService::handleHealthCheck`: the text of the assessment without its last brace, the health
of the components, and the brace again. The names and reasons of the components are escaped byte by
byte, the name of the interface is not. -/

namespace WeakNet
open Foundation List Utf8 Numeral Digits Double
open Foundation.Json (quotation backslash hexEscape)

namespace RuntimeHealth
def stateName : RuntimeHealthState → String
  | .starting => "starting"
  | .running => "running"
  | .disabled => "disabled"
  | .degraded => "degraded"
  | .failed => "failed"
  | .stopped => "stopped"

def hexByte (n : UInt8) : UInt8 := UInt8.ofNat (Nat.digitChar n.toNat).toNat

def escapeByte (b : UInt8) : ByteString :=
  if b = 92 then textBytes "\\\\"
  else if b = 34 then textBytes "\\\""
  else if b = 10 then textBytes "\\n"
  else if b = 13 then textBytes "\\r"
  else if b = 9 then textBytes "\\t"
  else if b < 32 then textBytes "\\u00" ++ [hexByte (b >>> 4), hexByte (b &&& 15)]
  else [b]

def jsonEscape (value : ByteString) : ByteString := value.flatMap escapeByte

def entryJson (entry : RuntimeHealthEntry) : ByteString :=
  textBytes "\x7b\"name\":\"" ++ jsonEscape (textBytes entry.component) ++ textBytes "\",\"state\":\"" ++
    textBytes (stateName entry.state) ++ textBytes "\"" ++
    (if entry.reason = "" then []
      else textBytes ",\"reason\":\"" ++ jsonEscape (textBytes entry.reason) ++ textBytes "\"") ++
    textBytes "\x7d"

def toJson (health : RuntimeHealth) : ByteString :=
  textBytes "\x7b\"overall\":\"" ++ textBytes (if health.degraded then "degraded" else "running") ++
    textBytes "\",\"components\":[" ++
    (textBytes ",").intercalate (health.snapshot.map entryJson) ++ textBytes "]\x7d"
end RuntimeHealth

namespace DbusService
def healthCheckText (interfaces : List NetInfo) (health : Option RuntimeHealth) : ByteString :=
  let details := (({} : NetworkQualityAssessor).assessQuality interfaces).2.details
  match health with
  | some health =>
    if details.getLast? = some 125 then
      details.dropLast ++ textBytes ",\"runtime_health\":" ++ health.toJson ++ textBytes "\x7d"
    else details
  | none => details

/-- There is no reply if the text is not UTF-8. -/
def handleHealthCheck (interfaces : List NetInfo) (health : Option RuntimeHealth) : Option String :=
  nameText (healthCheckText interfaces health)
end DbusService

theorem textBytes_eq (s : String) : textBytes s = bytes s.toList := (bytes_toList s).symm

namespace RuntimeHealth
open JsonDecode JsonReader

def spelling (c : Char) : List Char :=
  if c = quotation ∨ c = backslash then [backslash, c]
  else if c.toNat = 10 then [backslash, 'n']
  else if c.toNat = 13 then [backslash, 'r']
  else if c.toNat = 9 then [backslash, 't']
  else if c.toNat < 32 then hexEscape c.toNat
  else [c]

theorem spelling_of_le {c : Char} (h : 128 ≤ c.toNat) : spelling c = [c] := by
  have hmark : ¬(c = quotation ∨ c = backslash) := by
    rintro (rfl | rfl) <;> exact absurd h (by decide)
  rw [spelling, if_neg hmark, if_neg (by omega), if_neg (by omega), if_neg (by omega),
    if_neg (by omega)]

theorem escapeByte_of_le {b : UInt8} (h : 128 ≤ b.toNat) : escapeByte b = [b] := by
  have hne : ∀ c : UInt8, c.toNat < 128 → b ≠ c := by
    rintro c hc rfl
    omega
  have hcontrol : ¬b < 32 := by
    rw [UInt8.lt_iff_toNat_lt]
    change ¬b.toNat < 32
    omega
  rw [escapeByte, if_neg (hne 92 (by decide)), if_neg (hne 34 (by decide)),
    if_neg (hne 10 (by decide)), if_neg (hne 13 (by decide)), if_neg (hne 9 (by decide)),
    if_neg hcontrol]

theorem jsonEscape_textBytes (s : String) :
    jsonEscape (textBytes s) = bytes (s.toList.flatMap spelling) := by
  have hascii : ∀ n < 128, escapeByte (UInt8.ofNat n) = bytes (spelling (Char.ofNat n)) := by
    decide
  rw [jsonEscape, textBytes_eq]
  exact flatMap_bytes hascii (fun b => escapeByte_of_le) (fun c => spelling_of_le) s.toList

theorem spells_spelling (c : Char) : Spells (spelling c) c := by
  rw [spelling]
  split_ifs with hmark hn hr ht hunit
  · exact spells_mark hmark
  · exact spells_control hn (by decide) (by decide)
  · exact spells_control hr (by decide) (by decide)
  · exact spells_control ht (by decide) (by decide)
  · exact spells_unit (by omega)
  · exact spells_char (fun h => hmark (.inl h)) (fun h => hmark (.inr h)) (by omega)

theorem visible_spelling (c : Char) : Visible (spelling c) := by
  by_cases h : c.toNat < 128
  · have hall : ∀ n < 128, Visible (spelling (Char.ofNat n)) := by decide
    have hvisible := hall c.toNat h
    rwa [Char.ofNat_toNat] at hvisible
  · rw [spelling_of_le (by omega)]
    exact .cons (by omega) (forall_mem_nil _)

def entryFields (entry : RuntimeHealthEntry) : List (String × List Char) :=
  [("name", quoted (entry.component.toList.flatMap spelling)),
    ("state", quoted (stateName entry.state).toList)] ++
    if entry.reason = "" then [] else [("reason", quoted (entry.reason.toList.flatMap spelling))]

section Value
variable {φ : Type}
def entryValue (entry : RuntimeHealthEntry) : Json φ :=
  .dict ([("name", .str entry.component), ("state", .str (stateName entry.state))] ++
    if entry.reason = "" then [] else [("reason", .str entry.reason)])

def value (health : RuntimeHealth) : Json φ :=
  .dict [("overall", .str (if health.degraded then "degraded" else "running")),
    ("components", .list (health.snapshot.map entryValue))]
end Value

theorem entryJson_eq (entry : RuntimeHealthEntry) :
    entryJson entry = bytes (objectText (entryFields entry)) := by
  rw [entryJson, jsonEscape_textBytes, jsonEscape_textBytes, entryFields]
  simp only [textBytes_eq]
  split_ifs
  all_goals
    simp only [← bytes_append, append_nil]
    refine congrArg bytes ?_
    simp [objectText, enclosed, fieldText, quoted, quotation, openBrace, closeBrace,
      List.intercalate]

def fields (health : RuntimeHealth) : List (String × List Char) :=
  [("overall", quoted (if health.degraded then "degraded" else "running").toList),
    ("components", enclosed '[' ']' (health.snapshot.map fun e => objectText (entryFields e)))]

theorem toJson_eq (health : RuntimeHealth) :
    toJson health = bytes (objectText health.fields) := by
  have hentries : (textBytes ",").intercalate (health.snapshot.map entryJson) =
      bytes ([','].intercalate (health.snapshot.map fun e => objectText (entryFields e))) := by
    rw [bytes, flatMap_intercalate, map_map]
    exact congrArg _ (map_congr_left fun e _ => entryJson_eq e)
  rw [toJson, hentries]
  simp only [textBytes_eq, ← bytes_append]
  refine congrArg bytes ?_
  simp [fields, objectText, enclosed, fieldText, quoted, quotation, openBrace, closeBrace,
    List.intercalate]

section Document
variable {φ : Type} {float : Floats φ}
theorem entry_document (entry : RuntimeHealthEntry) :
    Document float (objectText (entryFields entry)) (entryValue entry) := by
  have hstate : Plain (stateName entry.state) := by cases entry.state <;> decide
  have hescaped : ∀ s : String, Document float (quoted (s.toList.flatMap spelling)) (.str s) :=
    fun s => .string (fun c _ => spells_spelling c) fun c _ => visible_spelling c
  refine .object (.cons (.of (by decide) (hescaped _)) (.cons (.of (by decide) (.plain hstate)) ?_))
  split_ifs
  · exact .nil
  · exact .cons (.of (by decide) (hescaped _)) .nil

theorem document (health : RuntimeHealth) :
    Document float (objectText health.fields) health.value := by
  have hoverall : Plain (if health.degraded then "degraded" else "running") := by
    split_ifs <;> decide
  have hcomponents : Forall₂ (Document float)
      (health.snapshot.map fun e => objectText (entryFields e)) (health.snapshot.map entryValue) := by
    rw [forall₂_map_left_iff, forall₂_map_right_iff, forall₂_same]
    exact fun e _ => entry_document e
  exact .object (.cons (.of (by decide) (.plain hoverall))
    (.cons (.of (by decide) (.array hcomponents)) .nil))
end Document
end RuntimeHealth

namespace Double
open JsonDecode JsonReader

def fixedNumeral (places : ℕ) (q : ℚ) : Numeral :=
  let scaled := (nearestEven (|q| * 10 ^ places)).toNat
  ⟨decide (q < 0), Numeral.digitsOf (scaled / 10 ^ places),
    some (Digits.fixedDigits 10 places (scaled % 10 ^ places)), none⟩

theorem fixedNumeral_decimal (places : ℕ) (q : ℚ) : (fixedNumeral places q).Decimal where
  whole := digitsOf_lt _
  fraction := by
    rintro ds ⟨⟩
    exact fixedDigits_lt (by decide) _ _
  exponent := fun _ h => absurd h (Option.not_mem_none _)

theorem toList_padded {width n : ℕ} (hwidth : 0 < width) (h : n < 10 ^ width) :
    (padded width n).toList = digitText (fixedDigits 10 width n) := by
  rw [padded, String.toList_append, String.toList_ofList, ← String.length_toList,
    toList_toString, padded_eq (by decide) hwidth h, digitText]

variable {places : ℕ}
theorem fixed_finite (hplaces : 0 < places) (q : ℚ) :
    (fixed places (.finite q)).toList = (fixedNumeral places q).text := by
  have hsign : (if q < 0 then "-" else "").toList = Numeral.signText (decide (q < 0)) := by
    split_ifs with h
    · rw [decide_eq_true h]
      rfl
    · rw [decide_eq_false h]
      rfl
  rw [fixed, String.toList_append, String.toList_append, String.toList_append, hsign,
    toList_padded hplaces (Nat.mod_lt _ (Nat.pow_pos (by decide))), toList_toString,
    ← digitText_digitsOf, text, fixedNumeral, fractionText,
    exponentText, append_nil, append_assoc, append_assoc]
  rfl

theorem fixed_document {φ : Type} {float : Floats φ} (hplaces : 0 < places) (q : ℚ) :
    ∃ v : Json φ, Document float (fixed places (.finite q)).toList v := by
  have hdigits := digitsOf_wellFormed ((nearestEven (|q| * 10 ^ places)).toNat / 10 ^ places)
  have hfraction : some (fixedDigits 10 places
      ((nearestEven (|q| * 10 ^ places)).toNat % 10 ^ places)) ≠ some [] := by
    intro h
    have hlen := congrArg List.length (Option.some.inj h)
    rw [length_fixedDigits] at hlen
    exact absurd hlen (Nat.ne_of_gt hplaces)
  rw [fixed_finite hplaces]
  exact ⟨_, .numeral (fixedNumeral_decimal places q)
    ⟨hdigits.1, hdigits.2, hfraction, (Option.some_ne_none _).symm⟩⟩

theorem plain_fixed (hplaces : 0 < places) (x : Double) : Plain (fixed places x) := by
  cases x with
  | nan => exact (by decide : Plain "nan")
  | negInf => exact (by decide : Plain "-inf")
  | posInf => exact (by decide : Plain "inf")
  | finite q =>
    refine plain_of_subset ?_
    rw [fixed_finite hplaces]
    exact text_subset (fixedNumeral_decimal places q)
end Double

namespace NetworkQualityAssessor
open JsonDecode JsonReader

section Metrics
variable {i : NetInfo} {score : ℚ} {issues : List String}
def metricFields (i : NetInfo) (score : ℚ) (issues : List String) : List (String × List Char) :=
  [("quality_score", (Double.fixed 1 (.finite score)).toList),
    ("rtt_ms", (toString i.rttMs).toList), ("tcp_loss_rate", (Double.fixed 2 i.tcpLossRate).toList),
    ("rssi_dbm", (toString i.rssiDbm).toList), ("traffic_bps", (toString i.trafficTotalBps).toList),
    ("traffic_pps", (toString i.trafficTotalPps).toList),
    ("active_flows", (toString i.trafficActiveFlows).toList),
    ("quality_level", (toString (qualityCode i.quality)).toList),
    ("using_now", (if i.usingNow then "true" else "false").toList),
    ("issues", enclosed '[' ']' (issues.map fun issue => quoted issue.toList))]

def nameField (name : String) : String × List Char := ("interface", quoted name.toList)

theorem metricFields_keys (i : NetInfo) (score : ℚ) (issues : List String) :
    (metricFields i score issues).map Prod.fst =
      ["quality_score", "rtt_ms", "tcp_loss_rate", "rssi_dbm", "traffic_bps",
        "traffic_pps", "active_flows", "quality_level", "using_now", "issues"] :=
  rfl

theorem generateMetricsJson_eq {name : String} (hname : i.ifName = textBytes name) :
    generateMetricsJson i score issues =
      bytes (objectText (nameField name :: metricFields i score issues)) := by
  have hissues : (",".intercalate (issues.map fun issue => "\"" ++ issue ++ "\"")).toList =
      [','].intercalate (issues.map fun issue => quoted issue.toList) := by
    rw [String.toList_intercalate, map_map]
    refine congrArg _ (map_congr_left fun issue _ => ?_)
    simp [quoted, quotation]
  have htext : (metricsText i score issues).toList = quotation :: ',' ::
      [','].intercalate ((metricFields i score issues).map fieldText) ++ [closeBrace] := by
    unfold metricsText
    simp only [String.toList_append, hissues]
    rw [metricFields]
    simp only [map_cons, map_nil, intercalate_cons_cons, intercalate_singleton,
      fieldText, quoted, append_assoc, cons_append, nil_append]
    simp [quotation, closeBrace, enclosed]
  rw [generateMetricsJson, hname, textBytes_eq, textBytes_eq, textBytes_eq, htext,
    ← bytes_append, ← bytes_append]
  refine congrArg bytes ?_
  simp [nameField, metricFields, objectText, enclosed, fieldText, quoted, quotation, openBrace]

variable {t : QualityThresholds}
theorem plain_issue {issue : String} (h : issue ∈ detectNetworkIssues t i score) :
    Plain issue := by
  rcases mem_issues h with ⟨m, h⟩ | h
  · have hshown : Plain (m.shown i) := by
      cases m with
      | rtt | rssi => exact plain_int _
      | tcpLoss => exact plain_fixed (by decide) _
    have hwords : Plain m.heading ∧ Plain m.unit := by cases m <;> decide
    rw [mem_issuesAbout h]
    exact hwords.1.append (hshown.append hwords.2)
  · rcases mem_otherIssues h with ⟨size, rfl⟩ | h
    · exact (by decide : Plain "Small packet size: ").append
        ((plain_fixed (by decide) _).append (by decide))
    · have hall : ∀ issue ∈ ["Poor overall network quality", "Below average network quality"],
          Plain issue := by decide
      exact hall issue h

theorem metric_fields {φ : Type} {float : Floats φ} {loss : ℚ} (hloss : i.tcpLossRate = .finite loss)
    (hissues : ∀ issue ∈ issues, Plain issue) :
    ∃ entries, Forall₂ (Field float) (metricFields i score issues) entries := by
  obtain ⟨scoreValue, hscore⟩ : ∃ v, Document float (fixed 1 (.finite score)).toList v :=
    fixed_document (by decide) score
  obtain ⟨lossValue, hrate⟩ : ∃ v, Document float (fixed 2 (.finite loss)).toList v :=
    fixed_document (by decide) loss
  have hlist : Document float (enclosed '[' ']' (issues.map fun issue => quoted issue.toList))
      (.list (issues.map .str)) := by
    refine .array ?_
    rw [forall₂_map_left_iff, forall₂_map_right_iff, forall₂_same]
    exact fun issue h => .plain (hissues issue h)
  rw [← hloss] at hrate
  refine ⟨_, .cons (.of (by decide) hscore) <|
    .cons (.of (by decide) (.int _)) <| .cons (.of (by decide) hrate) <|
    .cons (.of (by decide) (.int _)) <| .cons (.of (by decide) (.nat _)) <|
    .cons (.of (by decide) (.nat _)) <| .cons (.of (by decide) (.nat _)) <|
    .cons (.of (by decide) (.nat _)) <| .cons (.of (by decide) (.bool _)) <|
    .cons (.of (by decide) hlist) .nil⟩
end Metrics
end NetworkQualityAssessor

namespace DbusService
open JsonDecode JsonReader NetworkQualityAssessor

def assessed : List NetInfo → Option NetInfo
  | [] => none
  | first :: rest => some (activeInterface first rest)

def Printable (i : NetInfo) : Prop :=
  ∃ name loss, i.ifName = textBytes name ∧ Plain name ∧ i.tcpLossRate = .finite loss

def beforeNul (t : List Char) : List Char := t.takeWhile (· != Char.ofNat 0)

theorem beforeNul_le (t : List Char) : beforeNul t <+: t := takeWhile_prefix _

theorem beforeNul_append_cases (t rest : List Char) :
    beforeNul (t ++ rest) = beforeNul t ++ [] ∨
      beforeNul (t ++ rest) = beforeNul t ++ beforeNul rest := by
  rw [beforeNul, takeWhile_append]
  split_ifs with hall
  · have hwhole : beforeNul t = t := (beforeNul_le t).eq_of_length hall
    rw [hwhole]
    exact .inr rfl
  · exact .inl (append_nil _).symm

theorem beforeNul_append {t : List Char} (h : Visible t) (rest : List Char) :
    beforeNul (t ++ rest) = t ++ beforeNul rest := by
  refine takeWhile_append_of_pos fun c hc => bne_iff_ne.mpr ?_
  rintro rfl
  cases h _ hc

theorem beforeNul_of_visible {t : List Char} (h : Visible t) : beforeNul t = t := by
  have happend := beforeNul_append h []
  rw [append_nil] at happend
  exact happend.trans (append_nil t)

theorem nameText_bytes (cs : List Char) :
    nameText (bytes cs) = some (String.ofList (beforeNul cs)) := by
  have htake : (bytes cs).takeWhile (· != 0) = bytes (beforeNul cs) := by
    induction cs with
    | nil => rfl
    | cons c cs ih =>
      by_cases hc : c = Char.ofNat 0
      · rw [hc]
        rfl
      · have hbytes : ∀ b ∈ bytes [c], (b != 0) := by
          intro b hb
          rw [bne_iff_ne]
          rintro rfl
          exact hc (mem_singleton.mp (mem_of_mem_bytes (by decide) hb)).symm
        have hcons : ∀ cs, bytes (c :: cs) = bytes [c] ++ bytes cs := bytes_append [c]
        have hnul : beforeNul (c :: cs) = c :: beforeNul cs :=
          takeWhile_cons_of_pos (bne_iff_ne.mpr hc)
        rw [hnul, hcons cs, hcons (beforeNul cs), takeWhile_append_of_pos hbytes, ih]
  have hread := fromUTF8_bytes (String.ofList (beforeNul cs))
  rw [String.toList_ofList] at hread
  rw [nameText, htake, hread]

variable {interfaces : List NetInfo}

section Details
variable {φ : Type} {float : Floats φ}
theorem details_fields (h : ∀ i ∈ assessed interfaces, Printable i) :
    ∃ fields entries, (({} : NetworkQualityAssessor).assessQuality interfaces).2.details =
        bytes (objectText fields) ∧ fields ≠ [] ∧
      List.Forall₂ (Field float) fields entries ∧ "runtime_health" ∉ fields.map Prod.fst ∧
      ∀ i ∈ assessed interfaces, ∃ name, i.ifName = textBytes name ∧
        Json.get entries "interface" = .str name := by
  cases interfaces with
  | nil =>
    refine ⟨[("error", quoted "No interfaces available".toList)],
      [("error", .str "No interfaces available")], ?_, List.cons_ne_nil _ _,
      .cons (.of (by decide) (.plain (by decide))) .nil, by decide,
      fun _ hi => absurd hi (Option.not_mem_none _)⟩
    exact (textBytes_eq _).trans (congrArg bytes (by decide))
  | cons first rest =>
    obtain ⟨name, loss, hname, hplain, hloss⟩ := h _ rfl
    let i := activeInterface first rest
    let total := score {} i
    obtain ⟨entries, hfields⟩ : ∃ entries, Forall₂ (Field float)
        (metricFields i total (detectNetworkIssues {} i total)) entries :=
      metric_fields hloss fun issue => plain_issue
    refine ⟨_, ("interface", .str name) :: entries, generateMetricsJson_eq hname,
      cons_ne_nil _ _, .cons (.of (by decide) (.plain hplain)) hfields, ?_, ?_⟩
    · rw [map_cons, metricFields_keys, nameField]
      dsimp only
      decide
    · rintro _ ⟨⟩
      exact ⟨name, hname, rfl⟩
end Details

theorem healthCheckText_eq {fields : List (String × List Char)}
    (hdetails : (({} : NetworkQualityAssessor).assessQuality interfaces).2.details = bytes
      (objectText fields)) (hne : fields ≠ []) (health : RuntimeHealth) :
    healthCheckText interfaces (some health) =
      Utf8.bytes (objectText (fields ++ [("runtime_health", objectText health.fields)])) := by
  have hbytes : bytes (objectText fields) =
      bytes (objectText fields).dropLast ++ [125] := by
    rw [dropLast_objectText]
    exact bytes_append (openBrace :: [','].intercalate (fields.map fieldText)) [closeBrace]
  rw [objectText_concat hne, healthCheckText, hdetails, hbytes, if_pos List.getLast?_concat,
    dropLast_concat, health.toJson_eq]
  simp only [textBytes_eq, ← bytes_append]
  refine congrArg bytes ?_
  simp [fieldText, quoted, quotation, closeBrace]

section Decodes
variable {φ : Type} {float : ℚ → φ} {name : String} {i : NetInfo} {score : ℚ} {issues : List String}
  {others : List (String × List Char)}
variable (name i score issues others) in
theorem objectText_name : ∃ more,
    objectText (nameField name :: metricFields i score issues ++ others) =
      openBrace :: (quoted "interface".toList ++ ':' :: quotation ::
        (name.toList ++ quotation :: ',' :: quotation :: 'q' :: more)) := by
  have hfirst : ∀ rest, fieldText (nameField name) ++ rest = quoted "interface".toList ++ ':' ::
      quotation :: (name.toList ++ quotation :: rest) := fun rest => by
    simp only [fieldText, nameField, quoted, cons_append, append_assoc, nil_append]
  have hsecond : quoted "quality_score".toList =
      quotation :: 'q' :: ("uality_score".toList ++ [quotation]) := by decide
  rw [metricFields, cons_append, cons_append, cons_append, objectText_cons _ (cons_ne_nil _ _),
    objectText_cons _ (cons_ne_nil _ _), hfirst, tail_cons]
  simp only [fieldText, hsecond, cons_append]
  exact ⟨_, rfl⟩

theorem plain_of_decode {entries : List (String × Json φ)}
    (h : decode ⟨float, []⟩ (beforeNul (objectText
      (nameField name :: metricFields i score issues ++ others))) = some (.dict entries))
    (hname : Json.get entries "interface" = .str name) : Plain name := by
  obtain ⟨more, htext⟩ := objectText_name name i score issues others
  obtain ⟨tail, htake, htail⟩ : ∃ tail, beforeNul (name.toList ++ quotation :: ',' :: quotation ::
      'q' :: more) = beforeNul name.toList ++ tail ∧
      (tail = [] ∨ ∃ more, tail = quotation :: ',' :: quotation :: 'q' :: more) := by
    rcases beforeNul_append_cases name.toList (quotation :: ',' :: quotation :: 'q' :: more) with h | h
    · exact ⟨_, h, .inl rfl⟩
    · exact ⟨_, h, .inr ⟨_, rfl⟩⟩
  have hfront : ∀ text, beforeNul (openBrace :: (quoted "interface".toList ++ ':' :: quotation ::
      text)) = openBrace :: (quoted "interface".toList ++ ':' :: quotation :: beforeNul text) :=
    fun _ => rfl
  rw [htext, hfront, htake] at h
  obtain ⟨s, rest, others, hstring, hentries, hnext⟩ := decode_first (by decide) h
  cases hentries
  obtain rfl : s = name := Json.str.inj hname
  obtain ⟨codes, hbody, hassemble⟩ := string_body hstring
  have hcodes := assemble_length hassemble
  have hlen := (beforeNul_le s.toList).length_le
  have hmark : ∀ c ∈ tail.head?, c = quotation := by
    rcases htail with rfl | ⟨_, rfl⟩ <;> simp
  rcases body_rest hmark hbody with ⟨rounds, codes, hover⟩ | ⟨hle, hplain⟩
  · exfalso
    rcases htail with rfl | ⟨more, rfl⟩
    · cases rounds <;> cases hover
    · rcases rounds with - | - | rounds
      · cases hover
      · cases hover
      · cases hover
        exact absurd (hnext 'q' rfl) (by decide)
  · have hwhole := (beforeNul_le s.toList).eq_of_length (by omega)
    have hall := (hplain (by omega)).1
    rwa [hwhole] at hall

theorem loss_unreadable {x : Double} (hx : ∀ q, x ≠ .finite q) (levels : ℕ) (more : List Char) :
    (dialect (⟨float, []⟩ : Floats φ)).member ((dialect ⟨float, []⟩).value levels)
      (beforeNul (fieldText ("tcp_loss_rate", (fixed 2 x).toList) ++ more)) = .error () := by
  cases x with
  | finite q => exact absurd rfl (hx q)
  | _ => cases levels <;> rfl

theorem finite_of_decode {v : Json φ} (hname : Plain name)
    (h : decode ⟨float, []⟩ (beforeNul (objectText
      (nameField name :: metricFields i score issues ++ others))) = some v) :
    ∃ loss, i.tcpLossRate = .finite loss := by
  let fields := nameField name :: (metricFields i score issues).take 2
  obtain ⟨scoreValue, hscore⟩ : ∃ v, Document ⟨float, []⟩ (fixed 1 (.finite score)).toList v :=
    fixed_document (by decide) score
  have hfields : Forall₂ (Field ⟨float, []⟩) fields [("interface", .str name),
      ("quality_score", scoreValue), ("rtt_ms", .int i.rttMs)] :=
    .cons (.of (by decide) (.plain hname)) <| .cons (.of (by decide) hscore) <|
      .cons (.of (by decide) (.int _)) .nil
  have hvisible : Visible (openBrace :: fields.flatMap fun f => fieldText f ++ [',']) := by
    refine .cons (by decide) fun c hc => ?_
    obtain ⟨field, hfield, hc⟩ := mem_flatMap.mp hc
    exact ((visible_fieldText (Field.visible hfields hfield)).append (by decide)) c hc
  obtain ⟨more, htext⟩ : ∃ more,
      objectText (nameField name :: metricFields i score issues ++ others) =
      openBrace :: fields.flatMap (fun f => fieldText f ++ [',']) ++
        (fieldText ("tcp_loss_rate", (fixed 2 i.tcpLossRate).toList) ++ more) := by
    refine ⟨(((metricFields i score issues).drop 3 ++ others).map fieldText).flatMap (',' :: ·) ++
      [closeBrace], ?_⟩
    simp [objectText, enclosed, intercalate_cons, metricFields, fields]
  by_contra hloss
  rw [htext, beforeNul_append hvisible, cons_append, decode_unreadable hfields (cons_ne_nil _ _)
    fun levels => ⟨(), loss_unreadable (fun q hq => hloss ⟨q, hq⟩) levels more⟩] at h
  cases h
end Decodes

theorem handleHealthCheck_eq {fields : List (String × List Char)}
    (hdetails : (({} : NetworkQualityAssessor).assessQuality interfaces).2.details = bytes
      (objectText fields)) (hne : fields ≠ []) (health : RuntimeHealth) :
    handleHealthCheck interfaces (some health) = some (String.ofList (beforeNul
      (objectText (fields ++ [("runtime_health", objectText health.fields)])))) := by
  rw [handleHealthCheck, healthCheckText_eq hdetails hne health, nameText_bytes]

/-- The reply is an object with the name of the interface and the health of every component if,
and only if, the name can be copied and the loss rate is a number. -/
theorem healthCheck_decodes_iff {φ : Type} (float : ℚ → φ) (interfaces : List NetInfo)
    (health : RuntimeHealth) :
    (∃ reply entries, handleHealthCheck interfaces (some health) = some reply ∧
      decode ⟨float, []⟩ reply.toList = some (.dict entries) ∧
      (∀ i ∈ assessed interfaces, ∃ name, i.ifName = textBytes name ∧
        Json.get entries "interface" = .str name) ∧
      Json.get entries "runtime_health" = health.value) ↔
    ∀ i ∈ assessed interfaces, Printable i := by
  constructor
  · rintro ⟨reply, entries, hreply, hdecode, hinterface, -⟩
    cases interfaces with
    | nil => exact fun _ hi => absurd hi (Option.not_mem_none _)
    | cons first rest =>
      rintro i ⟨⟩
      obtain ⟨name, hname, hget⟩ := hinterface _ rfl
      have hdetails : (({} : NetworkQualityAssessor).assessQuality (first :: rest)).2.details =
          bytes (objectText (nameField name :: metricFields (activeInterface first rest) _ _)) :=
        generateMetricsJson_eq hname
      rw [handleHealthCheck_eq hdetails (cons_ne_nil _ _) health] at hreply
      rw [← Option.some.inj hreply, String.toList_ofList] at hdecode
      have hplain : Plain name := plain_of_decode hdecode hget
      obtain ⟨loss, hloss⟩ := finite_of_decode hplain hdecode
      exact ⟨name, loss, hname, hplain, hloss⟩
  · intro h
    obtain ⟨fields, entries, hdetails, hne, hfields, habsent, hinterface⟩ := details_fields h
    have hall : List.Forall₂ (Field ⟨float, []⟩)
        (fields ++ [("runtime_health", objectText health.fields)])
        (entries ++ [("runtime_health", health.value)]) :=
      rel_append hfields (.cons (.of (by decide) health.document) .nil)
    have hdocument := Document.object hall
    refine ⟨_, entries ++ [("runtime_health", health.value)], handleHealthCheck_eq hdetails hne health,
      ?_, ?_, ?_⟩
    · rw [String.toList_ofList, beforeNul_of_visible hdocument.visible]
      exact hdocument.decode
    · rw [Json.get_concat_of_ne (by decide)]
      exact hinterface
    · exact Json.get_concat_self (Field.keys hfields ▸ habsent) _

def sampleHealth : RuntimeHealth :=
  RuntimeHealth.set .empty "netlink" .degraded "socket \"nl\"\nlost"

theorem decode_quotation_mark (rest : List Char) :
    decode (⟨id, []⟩ : Floats ℚ) ("\x7b\"interface\":\"eth\"0".toList ++ rest) = none := rfl

theorem quotation_mark_in_name :
    ∃ reply, handleHealthCheck [{ ifName := textBytes "eth\"0" }] (some sampleHealth) = some reply ∧
      decode (⟨id, []⟩ : Floats ℚ) reply.toList = none := by
  let i : NetInfo := { ifName := textBytes "eth\"0" }
  have hdetails : (({} : NetworkQualityAssessor).assessQuality [i]).2.details = Utf8.bytes
      (objectText (nameField "eth\"0" :: metricFields i _ _)) := generateMetricsJson_eq rfl
  refine ⟨_, handleHealthCheck_eq hdetails (cons_ne_nil _ _) sampleHealth, ?_⟩
  rw [String.toList_ofList]
  exact decode_quotation_mark _
end DbusService
end WeakNet
