import WeakNet.Ai.DiagnosisSchema

/-! A copy of a normalized snapshot is that snapshot, unless an evidence id that was made up for it
is longer than the limit. A copy keeps the hypothesis ids and every evidence id that is there. -/

namespace WeakNet.Ai
open Foundation Foundation.Json Foundation.Fallible List RootCauseHypothesis Within

variable {limits : DiagnosisLimits} {field : String}
def Text (limits : DiagnosisLimits) (s : String) : Prop :=
  s ≠ "" ∧ (s.length : ℤ) ≤ limits.maxStringLength
deriving Decidable

theorem forall_mem_none {α : Type} {P : α → Prop} : ∀ a ∈ (none : Option α), P a :=
  fun a ha => absurd ha (Option.not_mem_none a)

def TooLarge (e : SchemaError) : Prop := ∃ text, e = .inputTooLarge text

variable {s : String} {value : Value}
theorem string_of_text (h : Text limits s) :
    string (.str s) field limits = .ok s := by
  rw [string, if_neg h.1, if_neg (not_lt.mpr h.2)]

theorem string_eq_ok :
    string value field limits = .ok s ↔ value = .str s ∧ Text limits s := by
  constructor
  · intro h
    cases value with
    | str _ =>
      rw [string] at h
      split_ifs at h with hempty hlong
      cases h
      exact ⟨rfl, hempty, not_lt.mp hlong⟩
    | _ => cases h
  · rintro ⟨rfl, htext⟩
    exact string_of_text htext

theorem string_within (h : s ≠ "") :
    Within TooLarge s (string (.str s) field limits) := by
  rw [string, if_neg h]
  split_ifs
  · exact .error _ ⟨_, rfl⟩
  · exact .ok

theorem string_within_any :
    Within (fun _ => True) s (string (.str s) field limits) := by
  cases h : string (.str s) field limits with
  | ok _ =>
    rw [Json.str.inj (string_eq_ok.mp h).1]
    exact .ok
  | error e => exact .error e trivial

theorem ofText_injective : Function.Injective ofText := by
  rintro (_ | a) (_ | b) h
  · rfl
  · cases h
  · cases h
  · rw [Json.str.inj h]

theorem ofInt_injective : Function.Injective ofInt := by
  rintro (_ | a) (_ | b) h
  · rfl
  · cases h
  · cases h
  · rw [Json.int.inj h]

variable {P : SchemaError → Prop}
theorem optionalString_within {s : Option String}
    (h : ∀ t ∈ s, Within P t (string (.str t) field limits)) :
    Within P s (optionalString (ofText s) field limits) := by
  cases s with
  | none => exact .ok
  | some t => exact (h t rfl).bind .ok

theorem optionalString_of_text {s : Option String} (h : ∀ t ∈ s, Text limits t) :
    optionalString (ofText s) field limits = .ok s := by
  cases s with
  | none => rfl
  | some t => exact bind_eq_ok.mpr ⟨t, string_of_text (h t rfl), rfl⟩

theorem optionalString_ok {s : Option String} (h : optionalString value field limits = .ok s) :
    value = ofText s ∧ ∀ t ∈ s, Text limits t := by
  cases value with
  | null =>
    cases h
    exact ⟨rfl, forall_mem_none⟩
  | _ =>
    obtain ⟨t, ht, hs⟩ := bind_eq_ok.mp h
    obtain ⟨hvalue, htext⟩ := string_eq_ok.mp ht
    cases hs
    refine ⟨hvalue, fun t' ht' => ?_⟩
    cases ht'
    exact htext

variable {required : Bool}
theorem timestamp_ok {n : Option ℤ} (h : timestamp value field required = .ok n) :
    value = ofInt n ∧ (∀ t ∈ n, 0 ≤ t) ∧ (required → n ≠ none) := by
  cases value with
  | null =>
    rw [timestamp] at h
    split_ifs at h with hrequired
    cases h
    exact ⟨rfl, forall_mem_none, fun h => absurd h hrequired⟩
  | int m =>
    rw [timestamp] at h
    split_ifs at h with hneg
    cases h
    refine ⟨rfl, fun t ht => ?_, fun _ => Option.some_ne_none m⟩
    cases ht
    exact not_lt.mp hneg
  | _ => cases h

theorem timestamp_of {n : Option ℤ} (h : ∀ t ∈ n, 0 ≤ t) (hrequired : required → n ≠ none) :
    timestamp (ofInt n) field required = .ok n := by
  cases n with
  | none =>
    rw [ofInt, Option.elim_none, timestamp]
    exact if_neg fun hreq => hrequired hreq rfl
  | some t =>
    rw [ofInt, Option.elim_some, timestamp]
    exact if_neg (not_lt.mpr (h t rfl))

theorem collect_eq_ok {ε α : Type} {l : List (String × Except ε α)} {l' : List (String × α)} :
    collect l = .ok l' ↔ l = l'.map fun entry => (entry.1, .ok entry.2) := by
  induction l generalizing l' with
  | nil =>
    rw [collect, eq_comm (b := List.map _ l'), map_eq_nil_iff]
    exact ⟨fun h => (Except.ok.inj h).symm, fun h => congrArg Except.ok h.symm⟩
  | cons entry _ ih =>
    obtain ⟨_, _⟩ := entry
    rw [collect]
    constructor <;> intro h
    · obtain ⟨_, hvalue, hrest⟩ := bind_eq_ok.mp h
      obtain ⟨rest, hl, hcons⟩ := bind_eq_ok.mp hrest
      cases hcons
      rw [map_cons, hvalue, ih.mp hl]
    · cases l' with
      | nil => cases h
      | cons entry' rest =>
        rw [map_cons] at h
        obtain ⟨hfirst, hl⟩ := List.cons.inj h
        cases hfirst
        exact bind_eq_ok.mpr ⟨entry'.2, rfl, bind_eq_ok.mpr ⟨rest, ih.mpr hl, rfl⟩⟩

theorem copyEntries_of_fixed {entries : List (String × Value)}
    (h : ∀ entry ∈ entries, Text limits entry.1 ∧
      copyJsonValue limits (field ++ "." ++ entry.1) entry.2 = .ok entry.2) :
    copyEntries limits field entries = entries.map fun entry => (entry.1, .ok entry.2) := by
  induction entries with
  | nil => rfl
  | cons entry _ ih =>
    obtain ⟨key, value⟩ := entry
    obtain ⟨hkey, hvalue⟩ := h (key, value) mem_cons_self
    rw [copyEntries, string_of_text hkey, map_cons,
      ih fun other hother => h other (mem_cons_of_mem _ hother)]
    rw [← hvalue]
    rfl

theorem sortKeys_of_sorted {l : List (String × Except SchemaError Value)}
    {entries : List (String × Value)} (h : sortKeys l = entries.map fun e => (e.1, .ok e.2)) :
    sortKeys (entries.map fun e => (e.1, (.ok e.2 : Except SchemaError Value))) =
      entries.map fun e => (e.1, .ok e.2) := by
  apply List.Pairwise.insertionSort_eq
  rw [← h]
  exact pairwise_insertionSort _ _

mutual

theorem copyJsonValue_fixed (field : String) : ∀ value copied : Value,
    copyJsonValue limits field value = .ok copied → copyJsonValue limits field copied = .ok copied
  | .null, copied, h | .bool b, copied, h | .int n, copied, h | .float x, copied, h => by
    cases h
    rfl
  | .str s, copied, h => by
    rw [copyJsonValue] at h
    obtain ⟨t, ht, hcopied⟩ := bind_eq_ok.mp h
    cases hcopied
    rw [copyJsonValue]
    exact bind_eq_ok.mpr ⟨t, string_of_text (string_eq_ok.mp ht).2, rfl⟩
  | .list items, copied, h => by
    rw [copyJsonValue] at h
    split_ifs at h with hmany
    obtain ⟨rest, hrest, hcopied⟩ := bind_eq_ok.mp h
    obtain ⟨hfixed, hlength⟩ := copyItems_fixed field items rest hrest
    cases hcopied
    rw [copyJsonValue, hlength, if_neg hmany]
    exact bind_eq_ok.mpr ⟨rest, hfixed, rfl⟩
  | .dict entries, copied, h => by
    rw [copyJsonValue] at h
    obtain ⟨rest, hrest, hcopied⟩ := bind_eq_ok.mp h
    -- the copied entries are in the order of their keys, which sorting them again keeps
    have hsorted := collect_eq_ok.mp hrest
    cases hcopied
    rw [copyJsonValue]
    refine bind_eq_ok.mpr ⟨rest, collect_eq_ok.mpr ?_, rfl⟩
    have hentries : copyEntries limits field rest = rest.map fun e => (e.1, .ok e.2) := by
      refine copyEntries_of_fixed fun entry hentry => ?_
      have hmem : (entry.1, .ok entry.2) ∈ sortKeys (copyEntries limits field entries) := by
        rw [hsorted]
        exact mem_map_of_mem hentry
      exact copyEntries_fixed field entries (entry.1, .ok entry.2)
        ((perm_insertionSort _ _).mem_iff.mp hmem) entry.2 rfl
    rw [hentries]
    exact sortKeys_of_sorted hsorted

theorem copyItems_fixed (field : String) : ∀ items copied : List Value,
    copyItems limits field items = .ok copied →
      copyItems limits field copied = .ok copied ∧ copied.length = items.length
  | [], copied, h => by
    cases h
    exact ⟨rfl, rfl⟩
  | item :: items, copied, h => by
    rw [copyItems] at h
    obtain ⟨first, hfirst, hrest⟩ := bind_eq_ok.mp h
    obtain ⟨rest, hitems, hcons⟩ := bind_eq_ok.mp hrest
    obtain ⟨hfixed, hlength⟩ := copyItems_fixed field items rest hitems
    cases hcons
    rw [copyItems]
    refine ⟨bind_eq_ok.mpr ⟨first, copyJsonValue_fixed field item first hfirst, ?_⟩, ?_⟩
    · exact bind_eq_ok.mpr ⟨rest, hfixed, rfl⟩
    · rw [length_cons, length_cons, hlength]

theorem copyEntries_fixed (field : String) : ∀ entries : List (String × Value),
    ∀ entry ∈ copyEntries limits field entries, ∀ copied, entry.2 = .ok copied →
      Text limits entry.1 ∧ copyJsonValue limits (field ++ "." ++ entry.1) copied = .ok copied
  | [], entry, hentry, copied, h => absurd hentry not_mem_nil
  | (key, value) :: entries, entry, hentry, copied, h => by
    rw [copyEntries] at hentry
    rcases mem_cons.mp hentry with rfl | hentry
    · obtain ⟨_, hname, hvalue⟩ := bind_eq_ok.mp h
      obtain ⟨hkey, htext⟩ := string_eq_ok.mp hname
      cases hkey
      exact ⟨htext, copyJsonValue_fixed (field ++ "." ++ key) value copied hvalue⟩
    · exact copyEntries_fixed field entries entry hentry copied h
end

theorem scope_fixed {copied : Value} (h : scope value limits = .ok copied) :
    scope copied limits = .ok copied := by
  have hcopy : ∀ v : Value, scope v limits = copyJsonValue limits "scope" v := by
    intro v
    cases v <;> rfl
  rw [hcopy] at h ⊢
  exact copyJsonValue_fixed "scope" value copied h

variable {payload : Value}

namespace Evidence
structure Parsed (entries : List (String × Value)) (role : EvidenceRole)
    (limits : DiagnosisLimits) (e : Evidence) : Prop where
  role : selectRole entries (some role) = .ok e.role
  evidenceId : optionalString ((entries.lookup "evidence_id").getD (get entries "id"))
    "evidence_id" limits = .ok e.evidenceId
  kind : string (get entries "kind") "evidence.kind" limits = .ok e.kind
  source : optionalString (get entries "source") "evidence.source" limits = .ok e.source
  provenance : optionalString (get entries "provenance") "evidence.provenance" limits =
    .ok e.provenance
  scope : Ai.scope (get entries "scope") limits = .ok e.scope
  timestampMs : timestamp (get entries "timestamp_ms") "evidence.timestamp_ms" false =
    .ok e.timestampMs
  value : copyJsonValue limits "evidence.value" (get entries "value") = .ok e.value
  unit : optionalString (get entries "unit") "evidence.unit" limits = .ok e.unit
  capability : optionalString (get entries "capability") "evidence.capability" limits =
    .ok e.capability
  validity : optionalString (get entries "validity") "evidence.validity" limits = .ok e.validity

variable {role : EvidenceRole} {e : Evidence}
theorem fromDict_parsed (h : fromDict payload (some role) limits = .ok e) :
    ∃ entries, payload = .dict entries ∧ Parsed entries role limits e := by
  cases payload with
  | dict entries =>
    refine ⟨entries, rfl, ?_⟩
    rw [fromDict] at h
    simp only [bind_eq_ok] at h
    obtain ⟨_, hrole, _, hid, _, hkind, _, hsource, _, hprovenance, _, hscope, _, htimestamp, _,
      hvalue, _, hunit, _, hcapability, _, hvalidity, h⟩ := h
    cases h
    exact ⟨hrole, hid, hkind, hsource, hprovenance, hscope, htimestamp, hvalue, hunit, hcapability,
      hvalidity⟩
  | _ => cases h

structure Normal (limits : DiagnosisLimits) (role : EvidenceRole) (e : Evidence) : Prop where
  role : e.role = role
  kind : Text limits e.kind
  source : ∀ t ∈ e.source, Text limits t
  provenance : ∀ t ∈ e.provenance, Text limits t
  scope : Ai.scope e.scope limits = .ok e.scope
  timestampMs : ∀ t ∈ e.timestampMs, 0 ≤ t
  value : copyJsonValue limits "evidence.value" e.value = .ok e.value
  unit : ∀ t ∈ e.unit, Text limits t
  capability : ∀ t ∈ e.capability, Text limits t
  validity : ∀ t ∈ e.validity, Text limits t

theorem selectRole_ok {entries : List (String × Value)} {selected : EvidenceRole}
    (h : selectRole entries (some role) = .ok selected) : selected = role := by
  rw [selectRole] at h
  split at h
  · split at h
    · cases h
    · split_ifs at h with hdiffers
      cases h
      by_contra hne
      exact hdiffers ⟨role, rfl, hne⟩
  · exact (Except.ok.inj h).symm

theorem Parsed.normal {entries : List (String × Value)} (h : Parsed entries role limits e) :
    Normal limits role e where
  role := selectRole_ok h.role
  kind := (string_eq_ok.mp h.kind).2
  source := (optionalString_ok h.source).2
  provenance := (optionalString_ok h.provenance).2
  scope := scope_fixed h.scope
  timestampMs := (timestamp_ok h.timestampMs).2.1
  value := copyJsonValue_fixed "evidence.value" _ _ h.value
  unit := (optionalString_ok h.unit).2
  capability := (optionalString_ok h.capability).2
  validity := (optionalString_ok h.validity).2

theorem get_entries (e : Evidence) {key : String} (h : key ∉ ["evidence_id", "kind", "role"]) :
    get e.entries key = get e.optional key := by
  have hnames : (e.optional.map Prod.fst).Nodup := by
    have hlist : e.optional.map Prod.fst = ["source", "provenance", "scope", "timestamp_ms",
      "value", "unit", "capability", "validity"] := rfl
    rw [hlist]
    decide
  rw [← get_filter_isNull hnames]
  simp only [mem_cons, not_mem_nil, or_false, not_or] at h
  obtain ⟨hid, hkind, hrole⟩ := h
  rw [Json.get, entries, cons_append, lookup_cons, beq_false_of_ne hid,
    cons_append, lookup_cons, beq_false_of_ne hkind, cons_append,
    lookup_cons, beq_false_of_ne hrole, nil_append]
  rfl

theorem parse_value (role : EvidenceRole) : EvidenceRole.parse (.str role.value) = some role := by
  cases role <;> decide

theorem selectRole_entries (h : e.role = role) :
    selectRole e.entries (some role) = .ok role := by
  have hlookup : e.entries.lookup "role" = some (.str role.value) := by
    rw [← h]
    rfl
  rw [selectRole, hlookup]
  dsimp only
  rw [parse_value]
  refine if_neg ?_
  rintro ⟨_, hgiven, hne⟩
  exact hne (Option.some.inj hgiven)

theorem Normal.fromDict_within (h : Normal limits role e)
    (hid : ∀ id ∈ e.evidenceId, Within P id (string (.str id) "evidence_id" limits)) :
    Within P e (fromDict e.toDict (some role) limits) := by
  have hsource : get e.entries "source" = ofText e.source := get_entries e (by decide)
  have hprovenance : get e.entries "provenance" = ofText e.provenance := get_entries e (by decide)
  have hscope : get e.entries "scope" = e.scope := get_entries e (by decide)
  have htimestamp : get e.entries "timestamp_ms" = ofInt e.timestampMs := get_entries e (by decide)
  have hvalue : get e.entries "value" = e.value := get_entries e (by decide)
  have hunit : get e.entries "unit" = ofText e.unit := get_entries e (by decide)
  have hcapability : get e.entries "capability" = ofText e.capability := get_entries e (by decide)
  have hvalidity : get e.entries "validity" = ofText e.validity := get_entries e (by decide)
  rw [toDict, fromDict, selectRole_entries h.role, hsource, hprovenance, hscope, htimestamp,
    hvalue, hunit, hcapability, hvalidity, optionalString_of_text h.source,
    optionalString_of_text h.provenance, h.scope, timestamp_of h.timestampMs (by simp), h.value,
    optionalString_of_text h.unit, optionalString_of_text h.capability,
    optionalString_of_text h.validity]
  refine ok.bind ((optionalString_within hid).bind ?_)
  have hkind : string (get e.entries "kind") "evidence.kind" limits = .ok e.kind :=
    string_of_text h.kind
  rw [hkind, ← h.role]
  exact .ok

theorem Normal.fromDict_eq {e' : Evidence} (h : Normal limits role e)
    (hread : fromDict e.toDict (some role) limits = .ok e') : e' = e :=
  (h.fromDict_within fun _ _ => string_within_any).eq_of_ok hread
end Evidence

structure Listed (limits : DiagnosisLimits) (role : EvidenceRole) (evidence : List Evidence) :
    Prop where
  length_le : (evidence.length : ℤ) ≤ limits.maxEvidencePerItem
  normal : ∀ e ∈ evidence, e.Normal limits role

def Identified (evidence : List Evidence) : Prop :=
  ∀ e ∈ evidence, ∃ id, e.evidenceId = some id ∧ id ≠ ""

def Admits (P : SchemaError → Prop) (limits : DiagnosisLimits) (evidence : List Evidence) : Prop :=
  ∀ e ∈ evidence, ∃ id, e.evidenceId = some id ∧
    Within P id (string (.str id) "evidence_id" limits)

section Lists
variable {role : EvidenceRole} {evidence : List Evidence}
theorem Identified.admits (h : Identified evidence) : Admits TooLarge limits evidence := by
  intro e he
  obtain ⟨id, hid, hne⟩ := h e he
  exact ⟨id, hid, string_within hne⟩

theorem Identified.admits_text (h : Identified evidence)
    (htext : ∀ e ∈ evidence, ∀ id ∈ e.evidenceId, Text limits id) : Admits P limits evidence := by
  intro e he
  obtain ⟨id, hid, -⟩ := h e he
  refine ⟨id, hid, ?_⟩
  rw [string_of_text (htext e he id hid)]
  exact .ok

variable {values : Value}
theorem evidenceList_parsed (h : evidenceList values role limits field = .ok evidence) :
    ∃ raw, items values = .ok raw ∧
      Forall₂ (fun item e => Evidence.fromDict item (some role) limits = .ok e) raw evidence ∧
      (evidence.length : ℤ) ≤ limits.maxEvidencePerItem := by
  obtain ⟨raw, hraw, hrest⟩ := bind_eq_ok.mp h
  obtain ⟨_, hparsed, hrest⟩ := bind_eq_ok.mp hrest
  obtain ⟨_, hcount, hrest⟩ := bind_eq_ok.mp hrest
  cases hrest
  exact ⟨raw, hraw, mapM_eq_ok.mp hparsed, not_lt.mp (refuse_eq_ok.mp hcount)⟩

theorem mem_parsed {raw : List Value}
    (h : Forall₂ (fun item e => Evidence.fromDict item (some role) limits = .ok e) raw
      evidence) {e : Evidence} (he : e ∈ evidence) :
    ∃ entries, e.Parsed entries role limits := by
  obtain ⟨item, -, hitem⟩ := exists_left h he
  obtain ⟨entries, -, hparsed⟩ := Evidence.fromDict_parsed hitem
  exact ⟨entries, hparsed⟩

theorem evidenceList_listed (h : evidenceList values role limits field = .ok evidence) :
    Listed limits role evidence ∧ ∀ e ∈ evidence, ∀ id ∈ e.evidenceId, id ≠ "" := by
  obtain ⟨_, -, hparsed, hlength⟩ := evidenceList_parsed h
  refine ⟨⟨hlength, fun e he => ?_⟩, fun e he id hid => ?_⟩
  · obtain ⟨entries, he⟩ := mem_parsed hparsed he
    exact he.normal
  · obtain ⟨entries, he⟩ := mem_parsed hparsed he
    exact ((optionalString_ok he.evidenceId).2 id hid).1

theorem Listed.within (h : Listed limits role evidence) (hid : Admits P limits evidence) :
    Within P evidence
      (evidenceList (.list (evidence.map Evidence.toDict)) role limits field) := by
  have hread : Forall₂
      (fun item e => Within P e (Evidence.fromDict item (some role) limits))
      (evidence.map Evidence.toDict) evidence := by
    rw [forall₂_map_left_iff, forall₂_same]
    intro e he
    refine (h.normal e he).fromDict_within fun id hsome => ?_
    obtain ⟨_, hknown, hwithin⟩ := hid e he
    rw [Option.mem_def, hknown] at hsome
    exact Option.some.inj hsome ▸ hwithin
  rw [evidenceList]
  refine ok.bind ((mapM hread).bind ?_)
  rw [refuse_eq_ok.mpr (not_lt.mpr h.length_le)]
  exact .ok

variable {copied : List Evidence}
theorem evidenceList_ids
    (h : evidenceList (.list (evidence.map Evidence.toDict)) role limits field = .ok copied) :
    copied.map Evidence.evidenceId = evidence.map Evidence.evidenceId := by
  obtain ⟨_, hraw, hparsed, -⟩ := evidenceList_parsed h
  cases hraw
  rw [forall₂_map_left_iff] at hparsed
  refine map_eq_of_forall₂ hparsed fun e _ e' he => ?_
  obtain ⟨_, hentries, he'⟩ := Evidence.fromDict_parsed he
  cases hentries
  exact (ofText_injective (optionalString_ok he'.evidenceId).1).symm

theorem evidenceList_eq (hnormal : ∀ e ∈ evidence, e.Normal limits role)
    (h : evidenceList (.list (evidence.map Evidence.toDict)) role limits field = .ok copied) :
    copied = evidence := by
  obtain ⟨_, hraw, hparsed, -⟩ := evidenceList_parsed h
  cases hraw
  rw [forall₂_map_left_iff] at hparsed
  have hsame : copied.map id = evidence.map id :=
    map_eq_of_forall₂ hparsed fun e he e' hread => (hnormal e he).fromDict_eq hread
  rwa [map_id, map_id] at hsame

theorem evidenceList_named (hids : ∀ e ∈ evidence, e.evidenceId ≠ none)
    (h : evidenceList (.list (evidence.map Evidence.toDict)) role limits field = .ok copied) :
    Identified copied := by
  have hsame := evidenceList_ids h
  intro e he
  have hid : e.evidenceId ∈ evidence.map Evidence.evidenceId := hsame ▸ mem_map_of_mem he
  obtain ⟨e₀, he₀, hid⟩ := mem_map.mp hid
  obtain ⟨id, hsome⟩ := Option.ne_none_iff_exists'.mp (hids e₀ he₀)
  rw [hid] at hsome
  exact ⟨id, hsome, (evidenceList_listed h).2 e he id hsome⟩
end Lists

section Printed
variable {py : Printer Double} {i : Incident}
namespace Incident
structure Parsed (py : Printer Double) (entries : List (String × Value))
    (limits : DiagnosisLimits) (i : Incident) : Prop where
  id : string (.str ((get entries "id").toText py)) "incident.id" limits = .ok i.id
  type : string (get entries "type") "incident.type" limits = .ok i.type
  state : string (get entries "state") "incident.state" limits = .ok i.state
  severity : optionalString (get entries "severity") "incident.severity" limits = .ok i.severity
  scope : Ai.scope (get entries "scope") limits = .ok i.scope
  openedAtMs : timestamp (get entries "opened_at_ms") "incident.opened_at_ms" true =
    .ok i.openedAtMs
  updatedAtMs : timestamp ((entries.lookup "last_updated_at_ms").getD (get entries "updated_at_ms"))
    "incident.updated_at_ms" true = .ok i.updatedAtMs
  evidence : evidenceList (listEntry entries "evidence") .supporting limits "incident.evidence" =
    .ok i.evidence

theorem fromDict_parsed (h : fromDict py payload limits = .ok i) :
    ∃ entries, payload = .dict entries ∧ Parsed py entries limits i := by
  cases payload with
  | dict entries =>
    refine ⟨entries, rfl, ?_⟩
    rw [fromDict] at h
    simp only [bind_eq_ok] at h
    obtain ⟨_, hid, _, htype, _, hstate, _, hseverity, _, hscope, _, hopened, _, hupdated, _,
      hevidence, h⟩ := h
    cases h
    exact ⟨hid, htype, hstate, hseverity, hscope, hopened, hupdated, hevidence⟩
  | _ => cases h

structure Normal (limits : DiagnosisLimits) (i : Incident) : Prop where
  id : Text limits i.id
  type : Text limits i.type
  state : Text limits i.state
  severity : ∀ t ∈ i.severity, Text limits t
  scope : Ai.scope i.scope limits = .ok i.scope
  openedAtMs : (∀ t ∈ i.openedAtMs, 0 ≤ t) ∧ i.openedAtMs ≠ none
  updatedAtMs : (∀ t ∈ i.updatedAtMs, 0 ≤ t) ∧ i.updatedAtMs ≠ none
  evidence : Listed limits .supporting i.evidence

theorem Parsed.normal {entries : List (String × Value)} (h : Parsed py entries limits i) :
    Normal limits i where
  id := (string_eq_ok.mp h.id).2
  type := (string_eq_ok.mp h.type).2
  state := (string_eq_ok.mp h.state).2
  severity := (optionalString_ok h.severity).2
  scope := scope_fixed h.scope
  openedAtMs := ⟨(timestamp_ok h.openedAtMs).2.1, (timestamp_ok h.openedAtMs).2.2 rfl⟩
  updatedAtMs := ⟨(timestamp_ok h.updatedAtMs).2.1, (timestamp_ok h.updatedAtMs).2.2 rfl⟩
  evidence := (evidenceList_listed h.evidence).1

theorem Normal.fromDict_within (h : Normal limits i) (hid : Admits P limits i.evidence) :
    Within P i (fromDict py i.toDict limits) := by
  have hname : string (.str ((get i.entries "id").toText py)) "incident.id" limits = .ok i.id :=
    string_of_text h.id
  have htype : string (get i.entries "type") "incident.type" limits = .ok i.type :=
    string_of_text h.type
  have hstate : string (get i.entries "state") "incident.state" limits = .ok i.state :=
    string_of_text h.state
  have hseverity : optionalString (get i.entries "severity") "incident.severity" limits =
      .ok i.severity := optionalString_of_text h.severity
  have hscope : Ai.scope (get i.entries "scope") limits = .ok i.scope := h.scope
  have hopened : timestamp (get i.entries "opened_at_ms") "incident.opened_at_ms" true =
      .ok i.openedAtMs := timestamp_of h.openedAtMs.1 fun _ => h.openedAtMs.2
  have hupdated : timestamp ((i.entries.lookup "last_updated_at_ms").getD
      (get i.entries "updated_at_ms")) "incident.updated_at_ms" true = .ok i.updatedAtMs :=
    timestamp_of h.updatedAtMs.1 fun _ => h.updatedAtMs.2
  rw [toDict, fromDict, hname, htype, hstate, hseverity, hscope, hopened, hupdated]
  exact (h.evidence.within hid).bind .ok
end Incident

def EvidenceRole.key : EvidenceRole → String
  | .supporting => "supporting_evidence"
  | .contradicting => "contradicting_evidence"
  | .missing => "missing_evidence"

namespace RootCauseHypothesis
structure Parsed (py : Printer Double) (entries : List (String × Value))
    (limits : DiagnosisLimits) (requireTimestamps : Bool) (h : RootCauseHypothesis) : Prop where
  hypothesisId : string
    (.str (((entries.lookup "hypothesis_id").getD (get entries "id")).toText py))
    "hypothesis_id" limits = .ok h.hypothesisId
  type : string (get entries "type") "hypothesis.type" limits = .ok h.type
  state : string (get entries "state") "hypothesis.state" limits = .ok h.state
  confidence : string (.str ((get entries "confidence").toText py)) "hypothesis.confidence"
    limits = .ok h.confidence
  scope : Ai.scope (get entries "scope") limits = .ok h.scope
  openedAtMs : timestamp (get entries "opened_at_ms") "hypothesis.opened_at_ms"
    requireTimestamps = .ok h.openedAtMs
  updatedAtMs : timestamp ((entries.lookup "last_updated_at_ms").getD (get entries "updated_at_ms"))
    "hypothesis.updated_at_ms" requireTimestamps = .ok h.updatedAtMs
  supporting : evidenceList (listEntry entries "supporting_evidence") .supporting limits
    "hypothesis.supporting_evidence" = .ok h.supportingEvidence
  contradicting : evidenceList (listEntry entries "contradicting_evidence") .contradicting limits
    "hypothesis.contradicting_evidence" = .ok h.contradictingEvidence
  missing : evidenceList (listEntry entries "missing_evidence") .missing limits
    "hypothesis.missing_evidence" = .ok h.missingEvidence
  occurrence : h.occurrence = get entries "occurrence"

variable {requireTimestamps : Bool}
variable {h : RootCauseHypothesis} {entries : List (String × Value)}
theorem fromDict_parsed (hread : fromDict py payload limits requireTimestamps = .ok h) :
    ∃ entries, payload = .dict entries ∧ Parsed py entries limits requireTimestamps h := by
  cases payload with
  | dict entries =>
    refine ⟨entries, rfl, ?_⟩
    rw [fromDict] at hread
    simp only [bind_eq_ok] at hread
    obtain ⟨_, hid, _, htype, _, hstate, _, hconfidence, _, hscope, _, hopened, _, hupdated, _,
      hsupporting, _, hcontradicting, _, hmissing, hread⟩ := hread
    cases hread
    exact ⟨hid, htype, hstate, hconfidence, hscope, hopened, hupdated, hsupporting,
      hcontradicting, hmissing, rfl⟩
  | _ => cases hread

structure Normal (limits : DiagnosisLimits) (h : RootCauseHypothesis) : Prop where
  hypothesisId : Text limits h.hypothesisId
  type : Text limits h.type
  state : Text limits h.state
  confidence : Text limits h.confidence
  scope : Ai.scope h.scope limits = .ok h.scope
  openedAtMs : ∀ t ∈ h.openedAtMs, 0 ≤ t
  updatedAtMs : ∀ t ∈ h.updatedAtMs, 0 ≤ t
  evidence : ∀ role, Listed limits role (h.evidence role)

section
variable (hparsed : Parsed py entries limits requireTimestamps h)
include hparsed
theorem Parsed.evidence (role : EvidenceRole) :
    ∃ field, evidenceList (listEntry entries role.key) role limits field =
      .ok (h.evidence role) := by
  cases role with
  | supporting => exact ⟨_, hparsed.supporting⟩
  | contradicting => exact ⟨_, hparsed.contradicting⟩
  | missing => exact ⟨_, hparsed.missing⟩

theorem Parsed.listed (role : EvidenceRole) :
    Listed limits role (h.evidence role) ∧
      ∀ e ∈ h.evidence role, ∀ id ∈ e.evidenceId, id ≠ "" := by
  obtain ⟨_, hread⟩ := hparsed.evidence role
  exact evidenceList_listed hread
end

theorem listEntry_entries (h : RootCauseHypothesis) (role : EvidenceRole) :
    listEntry h.entries role.key = .list ((h.evidence role).map Evidence.toDict) := by
  cases role <;> rfl

theorem evidence_sublist (h : RootCauseHypothesis) (role : EvidenceRole) :
    (h.evidence role).Sublist h.allEvidence := by
  cases role with
  | supporting =>
    exact (sublist_append_left _ _).trans (sublist_append_left _ _)
  | contradicting =>
    exact (sublist_append_right _ _).trans (sublist_append_left _ _)
  | missing => exact sublist_append_right _ _

theorem Parsed.normal (hparsed : Parsed py entries limits requireTimestamps h) :
    Normal limits h where
  hypothesisId := (string_eq_ok.mp hparsed.hypothesisId).2
  type := (string_eq_ok.mp hparsed.type).2
  state := (string_eq_ok.mp hparsed.state).2
  confidence := (string_eq_ok.mp hparsed.confidence).2
  scope := scope_fixed hparsed.scope
  openedAtMs := (timestamp_ok hparsed.openedAtMs).2.1
  updatedAtMs := (timestamp_ok hparsed.updatedAtMs).2.1
  evidence role := (hparsed.listed role).1

theorem Normal.fromDict_within (hnormal : Normal limits h)
    (hid : ∀ role, Admits P limits (h.evidence role)) :
    Within P h (fromDict py h.toDict limits false) := by
  have hname : string (.str (((h.entries.lookup "hypothesis_id").getD
      (get h.entries "id")).toText py)) "hypothesis_id" limits = .ok h.hypothesisId :=
    string_of_text hnormal.hypothesisId
  have htype : string (get h.entries "type") "hypothesis.type" limits = .ok h.type :=
    string_of_text hnormal.type
  have hstate : string (get h.entries "state") "hypothesis.state" limits = .ok h.state :=
    string_of_text hnormal.state
  have hconfidence : string (.str ((get h.entries "confidence").toText py))
      "hypothesis.confidence" limits = .ok h.confidence := string_of_text hnormal.confidence
  have hscope : Ai.scope (get h.entries "scope") limits = .ok h.scope := hnormal.scope
  have hopened : timestamp (get h.entries "opened_at_ms") "hypothesis.opened_at_ms" false =
      .ok h.openedAtMs := timestamp_of hnormal.openedAtMs (by simp)
  have hupdated : timestamp ((h.entries.lookup "last_updated_at_ms").getD
      (get h.entries "updated_at_ms")) "hypothesis.updated_at_ms" false = .ok h.updatedAtMs :=
    timestamp_of hnormal.updatedAtMs (by simp)
  rw [toDict, fromDict, hname, htype, hstate, hconfidence, hscope, hopened, hupdated]
  refine ((hnormal.evidence .supporting).within (hid .supporting)).bind ?_
  refine ((hnormal.evidence .contradicting).within (hid .contradicting)).bind ?_
  exact ((hnormal.evidence .missing).within (hid .missing)).bind .ok
end RootCauseHypothesis

namespace DiagnosisSnapshot
variable {owner : String} {role : EvidenceRole} {evidence : List Evidence} {s n : DiagnosisSnapshot}
    {entries : List (String × Value)}
theorem mem_numbered {e : Evidence} (h : e ∈ numbered owner role evidence) :
    ∃ e₀ ∈ evidence, ∃ index : ℕ, e = { e₀ with
      evidenceId := some (e₀.evidenceId.getD
        (owner ++ ":" ++ role.lower ++ ":" ++ toString index)) } := by
  obtain ⟨index, hindex, rfl⟩ := mem_mapIdx.mp h
  exact ⟨evidence[index], getElem_mem hindex, index, rfl⟩

theorem length_numbered (owner : String) (role : EvidenceRole) (evidence : List Evidence) :
    (numbered owner role evidence).length = evidence.length :=
  length_mapIdx

theorem numbered_identified (h : ∀ e ∈ evidence, ∀ id ∈ e.evidenceId, id ≠ "") :
    Identified (numbered owner role evidence) := by
  intro e he
  obtain ⟨e₀, he₀, _, rfl⟩ := mem_numbered he
  refine ⟨_, rfl, ?_⟩
  cases hid : e₀.evidenceId with
  | some id => exact h e₀ he₀ id hid
  | none =>
    intro hempty
    have hlength := congrArg String.length hempty
    simp only [Option.getD_none, String.length_append] at hlength
    have hcolon : ":".length = 1 := rfl
    rw [hcolon, String.length_empty] at hlength
    omega

theorem numbered_normal (h : Listed limits role evidence) :
    Listed limits role (numbered owner role evidence) := by
  refine ⟨?_, fun e he => ?_⟩
  · rw [length_numbered]
    exact h.length_le
  · obtain ⟨e₀, he₀, _, rfl⟩ := mem_numbered he
    have hnormal := h.normal e₀ he₀
    exact { hnormal with }

theorem numbered_of_identified (h : Identified evidence) :
    numbered owner role evidence = evidence := by
  apply ext_getElem (length_numbered owner role evidence)
  intro index hindex hindex'
  obtain ⟨_, hid, -⟩ := h evidence[index] (getElem_mem hindex')
  simp only [numbered, getElem_mapIdx, hid, Option.getD_some]
  rw [← hid]

theorem nameRole_eq {h : RootCauseHypothesis} (hlisted : Listed limits role (h.evidence role)) :
    nameRole h role = numbered ("hypothesis:" ++ h.hypothesisId) role (h.evidence role) := by
  refine (map_congr_left fun e he => ?_).trans (map_id _)
  have hrole := ((numbered_normal hlisted).normal e he).role
  rw [← hrole]
  rfl

theorem evidence_nameHypothesis (h : RootCauseHypothesis) (role : EvidenceRole) :
    (nameHypothesis h).evidence role = nameRole h role := by
  cases role <;> rfl

structure Parsed (py : Printer Double) (entries : List (String × Value))
    (limits : DiagnosisLimits) (requireTimestamp requireHypothesisTimestamps : Bool)
    (s : DiagnosisSnapshot) : Prop where
  version : get entries "schema_version" = .str s.schemaVersion
  supported : s.schemaVersion = diagnosisSchemaVersion
  incidents : ∃ raw, items (listEntry entries "incidents") = .ok raw ∧
    List.Forall₂ (fun item i => Incident.fromDict py item limits = .ok i) raw s.incidents
  hypotheses : ∃ raw, items (listEntry entries "hypotheses") = .ok raw ∧
    List.Forall₂ (fun item h =>
      RootCauseHypothesis.fromDict py item limits requireHypothesisTimestamps = .ok h) raw
      s.hypotheses
  timestamp : ∃ t, timestamp (get entries "snapshot_timestamp_ms") "snapshot_timestamp_ms"
    requireTimestamp = .ok t ∧ s.snapshotTimestampMs = ofInt t
  status : string (get entries "status") "status" limits = .ok s.status
  limitations : ∃ raw texts, items (listEntry entries "limitations") = .ok raw ∧
    List.Forall₂ (fun item text => string item "limitation" limits = .ok text) raw texts ∧
    s.limitations = texts.map .str
  topology : copyJsonValue limits "topology" (get entries "topology") = .ok s.topology
  limits_eq : s.limits = limits

variable {requireTimestamp requireHypothesisTimestamps : Bool}
theorem finish_ok (h : finish py s = .ok n) :
    n = s.ensureEvidenceIds ∧ n.validate py = .ok () := by
  obtain ⟨_, -, h⟩ := bind_eq_ok.mp h
  obtain ⟨_, hvalid, h⟩ := bind_eq_ok.mp h
  cases h
  exact ⟨rfl, hvalid⟩

theorem fromDict_parsed
    (h : fromDict py payload limits requireTimestamp requireHypothesisTimestamps = .ok n) :
    ∃ entries s, payload = .dict entries ∧
      Parsed py entries limits requireTimestamp requireHypothesisTimestamps s ∧
      n = s.ensureEvidenceIds ∧ n.validate py = .ok () := by
  cases payload with
  | dict entries =>
    rw [fromDict] at h
    split at h
    · rename_i version hversion
      split_ifs at h with hsupported
      simp only [bind_eq_ok] at h
      obtain ⟨rawIncidents, hrawIncidents, incidents, hincidents, rawHypotheses, hrawHypotheses,
        hypotheses, hhypotheses, timestampMs, htimestamp, status, hstatus, rawLimitations,
        hrawLimitations, texts, htexts, topology, htopology, h⟩ := h
      refine ⟨entries, _, rfl, ⟨hversion, not_not.mp hsupported, ?_, ?_, ?_, hstatus, ?_,
        htopology, rfl⟩, finish_ok h⟩
      · exact ⟨rawIncidents, hrawIncidents, mapM_eq_ok.mp hincidents⟩
      · exact ⟨rawHypotheses, hrawHypotheses, mapM_eq_ok.mp hhypotheses⟩
      · exact ⟨timestampMs, htimestamp, rfl⟩
      · exact ⟨rawLimitations, texts, hrawLimitations, mapM_eq_ok.mp htexts, rfl⟩
    · cases h
  | _ => cases h

structure Normal (py : Printer Double) (n : DiagnosisSnapshot) : Prop where
  supported : n.schemaVersion = diagnosisSchemaVersion
  timestamp : ∃ t, n.snapshotTimestampMs = ofInt t ∧ ∀ m ∈ t, 0 ≤ m
  status : Text n.limits n.status
  limitations : ∃ texts : List String, n.limitations = texts.map .str ∧
    ∀ text ∈ texts, Text n.limits text
  topology : copyJsonValue n.limits "topology" n.topology = .ok n.topology
  incidents : ∀ i ∈ n.incidents, i.Normal n.limits ∧ Identified i.evidence
  hypotheses : ∀ h ∈ n.hypotheses, h.Normal n.limits ∧ ∀ role, Identified (h.evidence role)
  valid : n.validate py = .ok ()

theorem nameIncident_normal (h : i.Parsed py entries limits) :
    (nameIncident i).Normal limits ∧ Identified (nameIncident i).evidence := by
  obtain ⟨hlisted, hids⟩ := evidenceList_listed h.evidence
  have hnormal := h.normal
  refine ⟨{ hnormal with evidence := numbered_normal hlisted }, numbered_identified hids⟩

theorem nameHypothesis_normal {h : RootCauseHypothesis}
    (hparsed : h.Parsed py entries limits requireHypothesisTimestamps) :
    (nameHypothesis h).Normal limits ∧ ∀ role, Identified ((nameHypothesis h).evidence role) := by
  have hnormal := hparsed.normal
  have hevidence : ∀ role, (nameHypothesis h).evidence role =
      numbered ("hypothesis:" ++ h.hypothesisId) role (h.evidence role) := fun role =>
    (evidence_nameHypothesis h role).trans (nameRole_eq (hnormal.evidence role))
  refine ⟨{ hnormal with evidence := fun role => ?_ }, fun role => ?_⟩ <;> rw [hevidence]
  · exact numbered_normal (hnormal.evidence role)
  · exact numbered_identified (hparsed.listed role).2

theorem Parsed.normal (h : Parsed py entries limits requireTimestamp requireHypothesisTimestamps s)
    (hvalid : s.ensureEvidenceIds.validate py = .ok ()) : Normal py s.ensureEvidenceIds := by
  obtain ⟨-, hsupported, ⟨_, -, hincidents⟩, ⟨_, -, hhypotheses⟩, ⟨t, ht, htimestamp⟩, hstatus,
    ⟨_, texts, -, htexts, hlimitations⟩, htopology, rfl⟩ := h
  refine ⟨hsupported, ⟨t, htimestamp, (timestamp_ok ht).2.1⟩, (string_eq_ok.mp hstatus).2,
    ⟨texts, hlimitations, fun text htext => ?_⟩, copyJsonValue_fixed "topology" _ _ htopology,
    fun i hi => ?_, fun h hh => ?_, hvalid⟩
  · obtain ⟨item, -, hitem⟩ := exists_left htexts htext
    exact (string_eq_ok.mp hitem).2
  · obtain ⟨_, hi₀, rfl⟩ := mem_map.mp hi
    obtain ⟨item, -, hitem⟩ := exists_left hincidents hi₀
    obtain ⟨entries', -, hparsed⟩ := Incident.fromDict_parsed hitem
    exact nameIncident_normal hparsed
  · obtain ⟨_, hh₀, rfl⟩ := mem_map.mp hh
    obtain ⟨item, -, hitem⟩ := exists_left hhypotheses hh₀
    obtain ⟨entries', -, hparsed⟩ := RootCauseHypothesis.fromDict_parsed hitem
    exact nameHypothesis_normal hparsed

section
variable (h : Normal py n)
include h
theorem Normal.ensureEvidenceIds :
    n.ensureEvidenceIds = n := by
  have hincidents : n.incidents.map nameIncident = n.incidents := by
    refine (map_congr_left fun i hi => ?_).trans (map_id _)
    rw [nameIncident, numbered_of_identified (h.incidents i hi).2]
    rfl
  have hhypotheses : n.hypotheses.map nameHypothesis = n.hypotheses := by
    refine (map_congr_left fun hypothesis hmem => ?_).trans (map_id _)
    obtain ⟨hnormal, hids⟩ := h.hypotheses hypothesis hmem
    have hrole : ∀ role, nameRole hypothesis role = hypothesis.evidence role := fun role =>
      (nameRole_eq (hnormal.evidence role)).trans (numbered_of_identified (hids role))
    rw [nameHypothesis, hrole, hrole, hrole]
    rfl
  rw [DiagnosisSnapshot.ensureEvidenceIds, hincidents, hhypotheses]

theorem Normal.copy (hincidentIds : ∀ i ∈ n.incidents, Admits P n.limits i.evidence)
    (hhypothesisIds : ∀ hypothesis ∈ n.hypotheses, ∀ role, Admits P n.limits (hypothesis.evidence
      role)) : Within P n (normalizedCopy py n) := by
  obtain ⟨t, ht, hpositive⟩ := h.timestamp
  obtain ⟨texts, htexts, hallowed⟩ := h.limitations
  have hincidents : Forall₂
      (fun item i => Within P i (Incident.fromDict py item n.limits))
      (n.incidents.map Incident.toDict) n.incidents := by
    rw [forall₂_map_left_iff, forall₂_same]
    exact fun i hi => (h.incidents i hi).1.fromDict_within (hincidentIds i hi)
  have hhypotheses : Forall₂
      (fun item hypothesis => Within P hypothesis
        (RootCauseHypothesis.fromDict py item n.limits false))
      (n.hypotheses.map RootCauseHypothesis.toDict) n.hypotheses := by
    rw [forall₂_map_left_iff, forall₂_same]
    exact fun hypothesis hmem =>
      (h.hypotheses hypothesis hmem).1.fromDict_within (hhypothesisIds hypothesis hmem)
  have hlimitations : n.limitations.mapM (fun item => string item "limitation" n.limits) =
      .ok texts := by
    rw [htexts, mapM_eq_ok, forall₂_map_left_iff, forall₂_same]
    exact fun text htext => string_of_text (hallowed text htext)
  have hstatus : string (get n.entries "status") "status" n.limits = .ok n.status :=
    string_of_text h.status
  have htimestamp : Ai.timestamp (get n.entries "snapshot_timestamp_ms") "snapshot_timestamp_ms"
      false = .ok t := by
    have hget : get n.entries "snapshot_timestamp_ms" = n.snapshotTimestampMs := rfl
    rw [hget, ht]
    exact timestamp_of hpositive (by simp)
  have htopology : copyJsonValue n.limits "topology" (get n.entries "topology") =
      .ok n.topology := h.topology
  have hversion : get n.entries "schema_version" = .str n.schemaVersion := rfl
  rw [normalizedCopy, toDict, fromDict, hversion]
  dsimp only
  rw [if_neg (not_not.mpr h.supported), hstatus, htimestamp, htopology]
  refine ok.bind ((mapM hincidents).bind ?_)
  refine ok.bind ((mapM hhypotheses).bind ?_)
  refine ok.bind (ok.bind (ok.bind ?_))
  rw [hlimitations]
  refine ok.bind (ok.bind ?_)
  rw [← ht, ← htexts]
  rw [finish, h.ensureEvidenceIds, h.valid]
  exact .ok

theorem Normal.copy_within : Within TooLarge n (normalizedCopy py n) :=
  h.copy (fun i hi => (h.incidents i hi).2.admits)
    fun hypothesis hmem role => ((h.hypotheses hypothesis hmem).2 role).admits

theorem Normal.copy_eq
    (hincidentIds : ∀ i ∈ n.incidents, ∀ e ∈ i.evidence, ∀ id ∈ e.evidenceId, Text n.limits id)
    (hhypothesisIds : ∀ hypothesis ∈ n.hypotheses, ∀ role, ∀ e ∈ hypothesis.evidence role, ∀ id ∈
      e.evidenceId, Text n.limits id) : normalizedCopy py n = .ok n := by
  have hwithin : Within (fun _ => False) n (normalizedCopy py n) :=
    h.copy (fun i hi => (h.incidents i hi).2.admits_text (hincidentIds i hi))
      fun hypothesis hmem role =>
        ((h.hypotheses hypothesis hmem).2 role).admits_text (hhypothesisIds hypothesis hmem role)
  generalize normalizedCopy py n = copy at hwithin
  cases hwithin with
  | ok => rfl
  | error _ he => exact he.elim
end

theorem normalizedCopy_normal (h : normalizedCopy py s = .ok n) :
    Normal py n := by
  obtain ⟨_, _, -, hparsed, rfl, hvalid⟩ := fromDict_parsed h
  exact hparsed.normal hvalid

theorem normalizedCopy_hypothesisIds (h : normalizedCopy py s = .ok n) :
    n.hypotheses.map hypothesisId =
      s.hypotheses.map hypothesisId := by
  obtain ⟨entries, s', hentries, hparsed, rfl, -⟩ := fromDict_parsed h
  cases hentries
  obtain ⟨_, hraw, hhypotheses⟩ := hparsed.hypotheses
  cases hraw
  rw [forall₂_map_left_iff] at hhypotheses
  have hnamed : s'.ensureEvidenceIds.hypotheses.map hypothesisId =
      s'.hypotheses.map hypothesisId := map_map
  rw [hnamed]
  refine map_eq_of_forall₂ hhypotheses fun hypothesis _ copied hread => ?_
  obtain ⟨entries, hentries, hcopied⟩ := RootCauseHypothesis.fromDict_parsed hread
  cases hentries
  exact (Json.str.inj (string_eq_ok.mp hcopied.hypothesisId).1).symm

theorem allEvidence_ids (s : DiagnosisSnapshot) : s.allEvidence.map Evidence.evidenceId =
    (s.incidents.map fun i => i.evidence.map Evidence.evidenceId).flatten ++
      (s.hypotheses.map fun h => EvidenceRole.all.flatMap fun role =>
        (h.evidence role).map Evidence.evidenceId).flatten := by
  rw [allEvidence, map_append, map_flatMap, map_flatMap, ← flatMap_def, ← flatMap_def]
  congr 1
  refine flatMap_congr fun h _ => ?_
  simp [EvidenceRole.all, RootCauseHypothesis.allEvidence, RootCauseHypothesis.evidence]

theorem nameRole_ids (h : RootCauseHypothesis) (role : EvidenceRole) :
    (nameRole h role).map Evidence.evidenceId =
      (numbered ("hypothesis:" ++ h.hypothesisId) role (h.evidence role)).map Evidence.evidenceId :=
  map_map

theorem normalizedCopy_evidenceIds (hids : ∀ e ∈ s.allEvidence, e.evidenceId ≠ none)
    (h : normalizedCopy py s = .ok n) :
    n.allEvidence.map Evidence.evidenceId = s.allEvidence.map Evidence.evidenceId := by
  obtain ⟨entries, _, hentries, hparsed, rfl, -⟩ := fromDict_parsed h
  cases hentries
  obtain ⟨_, hrawIncidents, hincidents⟩ := hparsed.incidents
  cases hrawIncidents
  rw [forall₂_map_left_iff] at hincidents
  obtain ⟨_, hrawHypotheses, hhypotheses⟩ := hparsed.hypotheses
  cases hrawHypotheses
  rw [forall₂_map_left_iff] at hhypotheses
  rw [allEvidence_ids, allEvidence_ids, ensureEvidenceIds, map_map, map_map]
  -- `_ensure_evidence_ids` finds an id on every item of the copy
  congr 2
  · refine map_eq_of_forall₂ hincidents fun i hi copied hread => ?_
    obtain ⟨entries, hentries, hcopied⟩ := Incident.fromDict_parsed hread
    cases hentries
    have hnamed : Identified copied.evidence := by
      refine evidenceList_named (fun e he => hids e ?_) hcopied.evidence
      exact mem_append_left _ (mem_flatMap_of_mem hi he)
    rw [Function.comp_apply, nameIncident, numbered_of_identified hnamed]
    exact evidenceList_ids hcopied.evidence
  · refine map_eq_of_forall₂ hhypotheses fun h hmem copied hread => ?_
    obtain ⟨entries, hentries, hcopied⟩ := RootCauseHypothesis.fromDict_parsed hread
    cases hentries
    rw [Function.comp_apply]
    refine flatMap_congr fun role _ => ?_
    obtain ⟨_, hevidence⟩ := hcopied.evidence role
    rw [RootCauseHypothesis.listEntry_entries] at hevidence
    have hnamed : Identified (copied.evidence role) := by
      refine evidenceList_named (fun e he => hids e ?_) hevidence
      exact mem_append_right _ (mem_flatMap_of_mem hmem ((h.evidence_sublist role).subset he))
    rw [evidence_nameHypothesis, nameRole_ids, numbered_of_identified hnamed]
    exact evidenceList_ids hevidence

theorem normalizedCopy_limitations (h : normalizedCopy py s = .ok n) :
    n.limitations = s.limitations := by
  obtain ⟨_, _, hentries, hparsed, rfl, -⟩ := fromDict_parsed h
  cases hentries
  obtain ⟨_, texts, hraw, htexts, hlimitations⟩ := hparsed.limitations
  cases hraw
  have hsame : texts.map Json.str = s.limitations.map id :=
    map_eq_of_forall₂ htexts fun item _ text htext => (string_eq_ok.mp htext).1.symm
  rw [map_id] at hsame
  exact hlimitations.trans hsame
end DiagnosisSnapshot
end Printed
end WeakNet.Ai
