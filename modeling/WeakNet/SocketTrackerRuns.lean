import WeakNet.Foundation.Fallible
import WeakNet.SocketSnapshots
import WeakNet.SocketTracker

/-! The records are observed in order up to the first refusal, publication appends events and
touches nothing else, and a reconciliation fails, runs out of generations, or commits the whole
snapshot. A failed one is invisible. -/

namespace WeakNet.SocketTracker
open Foundation Foundation.Runs List SocketLifecycleTable SocketRouteAttributor Attempt
open SocketLifecycleTable (Sound SameLive Reaches)

variable {t t' t'' : SocketTracker} {clock : Clock}

structure Emits (t t' : SocketTracker) (events : List NetworkEvent) : Prop where
  published : t'.published = t.published ++ events
  netns : t'.netns = t.netns
  lifecycle : t'.lifecycle = t.lifecycle
  tcpBaselines : t'.tcpBaselines = t.tcpBaselines
  attributes : t'.attributes = t.attributes
  routeTopology : t'.routeTopology = t.routeTopology
  routeUplink : t'.routeUplink = t.routeUplink
  routeContexts : t'.routeContexts = t.routeContexts
  telemetry : t'.telemetry = t.telemetry
  threw : t'.threw = t.threw
  reads : t.reads ≤ t'.reads
  numbered : t.nextEventId ≠ 0 → t'.nextEventId ≠ 0

theorem Emits.refl (t : SocketTracker) : Emits t t [] :=
  ⟨(append_nil _).symm, rfl, rfl, rfl, rfl, rfl, rfl, rfl, rfl, rfl, le_rfl, id⟩

variable {events events' : List NetworkEvent} {records : List SocketDiagRecord}
    {table : SocketLifecycleTable} {o : SocketObservation} {text : Option String}
    {contexts : List SocketRouteContextObservation}
theorem Emits.trans (h : Emits t t' events) (h' : Emits t' t'' events') :
    Emits t t'' (events ++ events') where
  published := by rw [h'.published, h.published, append_assoc]
  netns := h'.netns.trans h.netns
  lifecycle := h'.lifecycle.trans h.lifecycle
  tcpBaselines := h'.tcpBaselines.trans h.tcpBaselines
  attributes := h'.attributes.trans h.attributes
  routeTopology := h'.routeTopology.trans h.routeTopology
  routeUplink := h'.routeUplink.trans h.routeUplink
  routeContexts := h'.routeContexts.trans h.routeContexts
  telemetry := h'.telemetry.trans h.telemetry
  threw := h'.threw.trans h.threw
  reads := h.reads.trans h'.reads
  numbered := h'.numbered ∘ h.numbered

section Emission
variable {α : Type} {draft : SocketTracker → α → NetworkEventHeader × NetworkEventPayload}
def Drafted (draft : SocketTracker → α → NetworkEventHeader × NetworkEventPayload)
    (event : NetworkEvent) (a : α) : Prop :=
  ∃ s, (event.header, event.payload) = draft s a

variable {items : List α}
theorem emit_cases (t : SocketTracker) (reads : ℕ)
    (drafted : NetworkEventHeader × NetworkEventPayload) :
    (∃ event, (event.header, event.payload) = drafted ∧ (t.emit reads drafted).2 = none ∧
        Emits t (t.emit reads drafted).1 [event]) ∨
      (constructorError drafted.1 drafted.2 ≠ none ∧ (t.emit reads drafted).2 ≠ none ∧
        Emits t (t.emit reads drafted).1 []) := by
  rw [emit]
  cases hmake : NetworkEvent.make drafted.1 drafted.2 with
  | ok event =>
    refine .inl ⟨event, NetworkEvent.make_ok hmake, rfl, ?_⟩
    exact ⟨rfl, rfl, rfl, rfl, rfl, rfl, rfl, rfl, rfl, rfl, Nat.le_add_right _ _,
      fun _ => Nat.succ_ne_zero _⟩
  | error =>
    refine .inr ⟨fun haccept => ?_, by rintro ⟨⟩, ?_⟩
    · rw [NetworkEvent.make, dif_pos haccept] at hmake
      cases hmake
    · exact ⟨(append_nil _).symm, rfl, rfl, rfl, rfl, rfl, rfl, rfl, rfl, rfl,
        Nat.le_add_right _ _, fun _ => Nat.succ_ne_zero _⟩

variable (draft) in
theorem emitAll_spec (reads : ℕ) (items : List α) (t : SocketTracker) :
    ∃ events done, done <+: items ∧ Forall₂ (Drafted draft) events done ∧
      Emits t (emitAll reads draft items t).1 events ∧
      ((emitAll reads draft items t).2 = none → done = items) := by
  induction items generalizing t with
  | nil => exact ⟨[], [], prefix_refl _, .nil, Emits.refl t, fun _ => rfl⟩
  | cons a _ ih =>
    rw [emitAll]
    rcases emit_cases t reads (draft t a) with ⟨event, hdraft, hok, hemit⟩ | ⟨-, hthrow, hemit⟩
    · obtain ⟨events, done, hdone, hall, hrest, hfull⟩ := ih (t.emit reads (draft t a)).1
      rw [andThen_of_none _ hok]
      refine ⟨event :: events, a :: done, ?_, .cons ⟨t, hdraft⟩ hall, hemit.trans hrest, ?_⟩
      · exact cons_prefix_cons.mpr ⟨rfl, hdone⟩
      · exact fun hnone => congrArg (a :: ·) (hfull hnone)
    · rw [andThen_of_ne_none _ hthrow]
      exact ⟨[], [], nil_prefix, .nil, hemit, fun hnone => absurd hnone hthrow⟩

variable (draft) in
theorem emitAll_accepted (reads : ℕ) {t : SocketTracker}
    (haccept : ∀ s : SocketTracker, s.nextEventId ≠ 0 → ∀ a ∈ items, constructorError (draft s a).1
      (draft s a).2 = none) (hid : t.nextEventId ≠ 0) :
    (emitAll reads draft items t).2 = none := by
  induction items generalizing t with
  | nil => rfl
  | cons a _ ih =>
    rw [emitAll]
    rcases emit_cases t reads (draft t a) with ⟨_, -, hok, hemit⟩ | ⟨hrefused, -, -⟩
    · rw [andThen_of_none _ hok]
      apply ih
      · exact fun s hs b hb => haccept s hs b (mem_cons_of_mem a hb)
      · exact hemit.numbered hid
    · exact absurd (haccept t hid a mem_cons_self) hrefused
end Emission

def inputsFrom (clock : Clock) : ℕ → List SocketDiagRecord → List SocketObservationInput
  | _, [] => []
  | n, record :: records => input (clock n) record :: inputsFrom clock (n + 1) records

theorem observeRecords_spec (clock : Clock) (records : List SocketDiagRecord)
    (table : SocketLifecycleTable) (reads : ℕ) :
    ∃ seen, (observeRecords clock records (table, reads)).1 = table.observeAll seen ∧
      reads ≤ (observeRecords clock records (table, reads)).2.1 ∧
      ((observeRecords clock records (table, reads)).2.2 = .accepted →
        seen = inputsFrom clock reads records ∧
          (observeRecords clock records (table, reads)).2.1 = reads + records.length) := by
  induction records generalizing table reads with
  | nil => exact ⟨[], rfl, le_rfl, fun _ => ⟨rfl, rfl⟩⟩
  | cons record _ ih =>
    rw [observeRecords]
    cases hobserve : table.observe (input (clock reads) record) with
    | mk next outcome =>
      have hnext : (table.observe (input (clock reads) record)).1 = next := by rw [hobserve]
      cases outcome with
      | accepted _ =>
        obtain ⟨seen, htable, hreads, hall⟩ := ih next (reads + 1)
        refine ⟨input (clock reads) record :: seen, ?_, (Nat.le_succ _).trans hreads,
          fun haccepted => ?_⟩
        · rw [observeAll, run_cons, hnext]
          exact htable
        · obtain ⟨hseen, hcount⟩ := hall haccepted
          rw [hseen, hcount]
          exact ⟨rfl, by simp only [length_cons]; omega⟩
      | refused | generationExhausted =>
        refine ⟨[input (clock reads) record], ?_, Nat.le_succ _, by rintro ⟨⟩⟩
        rw [observeAll, run_cons, hnext, run_nil]

def committedTable (clock : Clock) (t : SocketTracker) (records : List SocketDiagRecord) :
    SocketLifecycleTable :=
  (t.lifecycle.opened.observeAll (inputsFrom clock t.reads records)).commitSnapshot.1

def reported (t : SocketTracker) (inet inet6 : DumpSource) : Option (List SocketDiagRecord) :=
  (dumpFamilies t.netns { t.telemetry with
    reconciliationAttempts := t.telemetry.reconciliationAttempts + 1 } inet inet6).2

inductive Reconciled (clock : Clock) (t : SocketTracker) (dumped : Option (List SocketDiagRecord)) :
    SocketTracker × Outcome → Prop
  | failed (table : SocketLifecycleTable) (reads : ℕ) (telemetry : SocketTrackerTelemetry)
    (hreach : Reaches t.lifecycle table) (hlive : SameLive t.lifecycle table)
    (hreads : t.reads ≤ reads) (hdegraded : telemetry.degraded = true) :
    Reconciled clock t dumped
      ({ t with lifecycle := table, reads := reads, telemetry := telemetry }, .returned false)
  | exhausted (table : SocketLifecycleTable) (reads : ℕ) (telemetry : SocketTrackerTelemetry)
    (text : String) (hreach : Reaches t.lifecycle table) (hlive : SameLive t.lifecycle table)
    (hreads : t.reads ≤ reads) :
    Reconciled clock t dumped
      ({ t with lifecycle := table, reads := reads, telemetry := telemetry }, .threw text)
  | resolved (records : List SocketDiagRecord) (telemetry : SocketTrackerTelemetry)
    (hdumped : dumped = some records)
    (hreach : Reaches t.lifecycle (committedTable clock t records)) :
    Reconciled clock t dumped (finish clock
      { t with reads := t.reads + records.length, telemetry := telemetry }
      (committedTable clock t records) records.length)

theorem inputsFrom_tracker {i : SocketObservationInput} {n : ℕ}
    (h : i ∈ inputsFrom clock n records) :
    ∃ k record, n ≤ k ∧ k < n + records.length ∧ record ∈ records ∧
      i = input (clock k) record := by
  induction records generalizing n with
  | nil => cases h
  | cons record _ ih =>
    rcases mem_cons.mp h with rfl | hrest
    · exact ⟨n, record, le_rfl, by simp, mem_cons_self, rfl⟩
    · obtain ⟨k, other, _, _, hmem, rfl⟩ := ih hrest
      refine ⟨k, other, by omega, ?_, mem_cons_of_mem record hmem, rfl⟩
      simp only [length_cons]
      omega

theorem sound_opened (h : Sound table) : Sound table.opened :=
  ⟨(collecting_opened h).consistent, fun _ => ⟨rfl, rfl⟩⟩

theorem commitSnapshot_observed (hsound : Sound t.lifecycle) (records : List SocketDiagRecord) :
    (t.lifecycle.opened.observeAll (inputsFrom clock t.reads records)).commitSnapshot =
      (committedTable clock t records, true) := by
  have hcollect := (collecting_opened hsound).observeAll (inputsFrom clock t.reads records)
  obtain ⟨_, -, hcommit⟩ := commitSnapshot_authoritative
    hcollect.consistent hcollect.inProgress hcollect.authoritative
  rw [committedTable, hcommit]

theorem resolveRecords_reconciled (hsound : Sound t.lifecycle) (telemetry : SocketTrackerTelemetry)
    (records : List SocketDiagRecord) :
    Reconciled clock t (some records)
      (resolveRecords clock { t with telemetry := telemetry } records) := by
  rw [resolveRecords, beginSnapshot]
  cases hidle : t.lifecycle.snapshotInProgress with
  | true => exact .failed t.lifecycle t.reads _ (.refl _) (SameLive.refl _) le_rfl rfl
  | false =>
    obtain ⟨seen, htable, hreads, hall⟩ :=
      observeRecords_spec clock records t.lifecycle.opened t.reads
    have hopened : SameLive t.lifecycle t.lifecycle.opened := ⟨rfl, rfl, rfl, rfl⟩
    have hlive := hopened.trans (observeAll_sameLive (sound_opened hsound) seen).2
    have hreach := reaches_observeAll hidle seen
    have hbegin : ({ t.lifecycle.clearPending with
        snapshotInProgress := true, disposition := .authoritative } : SocketLifecycleTable) =
          t.lifecycle.opened := rfl
    simp only [Bool.false_eq_true, ↓reduceIte, hbegin]
    generalize observeRecords .. = observed at *
    obtain ⟨table, reads, observing⟩ := observed
    obtain rfl : table = t.lifecycle.opened.observeAll seen := htable
    cases observing with
    | refused =>
      exact .failed _ reads _ (hreach.step .abortSnapshot)
        (hlive.trans (clearCandidate_sameLive _)) hreads rfl
    | exhausted => exact .exhausted _ reads telemetry _ hreach hlive hreads
    | accepted =>
      obtain ⟨rfl, rfl⟩ := hall rfl
      simp only [commitSnapshot_observed hsound records]
      exact .resolved records telemetry rfl (hreach.step .commitSnapshot)

variable (clock) in
theorem reconcile_reconciled (hsound : Sound t.lifecycle) (inet inet6 : DumpSource) :
    Reconciled clock t (t.reported inet inet6) (t.reconcile clock inet inet6) := by
  rw [reconcile, reported]
  dsimp only
  generalize dumpFamilies .. = dumped
  obtain ⟨telemetry, records⟩ := dumped
  cases records with
  | none => exact .failed t.lifecycle t.reads _ (.refl _) (SameLive.refl _) le_rfl rfl
  | some records => exact resolveRecords_reconciled hsound telemetry records

def contextsOf (t : SocketTracker) (after : List SocketObservation) :
    List SocketRouteContextObservation :=
  if t.attributes then
    after.map fun item => SocketRouteAttributor.attributeSocket item t.routeTopology t.routeUplink
  else []

variable {after : List SocketObservation}
theorem mem_contextsOf {context : SocketRouteContextObservation} :
    context ∈ t.contextsOf after ↔ t.attributes ∧ ∃ o ∈ after,
      context = attributeSocket o t.routeTopology t.routeUplink := by
  rw [contextsOf]
  split_ifs with hattributes
  · rw [mem_map]
    refine ⟨fun h => ?_, fun h => ?_⟩
    · obtain ⟨o, ho, rfl⟩ := h
      exact ⟨hattributes, o, ho, rfl⟩
    · obtain ⟨-, o, ho, rfl⟩ := h
      exact ⟨o, ho, rfl⟩
  · exact ⟨fun h => absurd h not_mem_nil, fun h => absurd h.1 hattributes⟩

def attributed (t : SocketTracker) (after closed : List SocketObservation) : SocketTracker :=
  if t.attributes then (t.attributeCommitted t.routeTopology t.routeUplink after closed).1 else t

theorem publishContexts_eq (after closed : List SocketObservation) (t : SocketTracker) :
    publishContexts clock after closed t =
      emitAll 1 (contextEvent clock) (contextsOf t after) (t.attributed after closed) := by
  rw [publishContexts, contextsOf, attributed]
  split_ifs <;> rfl

structure Located (o : SocketObservation) : Prop where
  id : o.id.netns = o.netns
  tuple : o.tuple.netns = o.netns
  inode : o.netns.inode ≠ 0

variable {s : SocketTracker}
theorem tcpInfoEvent_accepted (h : Located o) (hid : s.nextEventId ≠ 0) :
    constructorError (tcpInfoEvent s (tcpInfoOf o)).1 (tcpInfoEvent s (tcpInfoOf o)).2 = none := by
  simp [constructorError, tcpInfoEvent, tcpInfoOf, header, payloadError, kindFor, h.id, h.tuple,
    h.inode, hid]

theorem intervalEvent_accepted {m : TcpIntervalMetrics} (h : m.id.netns.inode ≠ 0)
    (hid : s.nextEventId ≠ 0) :
    constructorError (intervalEvent clock s m).1 (intervalEvent clock s m).2 = none := by
  simp [constructorError, intervalEvent, header, payloadError, kindFor, h, hid]

theorem sampleSocket_intervals (s : Sampling) (item : SocketObservation) :
    ∃ new, (sampleSocket s item).intervals = s.intervals ++ new ∧ ∀ m ∈ new, m.id = item.id := by
  rw [sampleSocket]
  dsimp only
  split_ifs
  · exact ⟨[], (append_nil _).symm, forall_mem_nil _⟩
  · cases s.baselines.find? (tcpInfoOf item).id with
    | none => exact ⟨[], (append_nil _).symm, forall_mem_nil _⟩
    | some =>
      refine ⟨_, rfl, fun m hm => ?_⟩
      obtain ⟨_, _, -, -, rfl⟩ := TcpIntervalCalculator.calculate_eq_some (Option.mem_toList.mp hm)
      rfl

theorem sampleAll_ids (t : SocketTracker) (after : List SocketObservation) :
    ∀ m ∈ (t.sampleAll after).intervals, ∃ item ∈ after, m.id = item.id := by
  refine foldlRecOn (motive := fun s : Sampling => ∀ m ∈ s.intervals, ∃ item ∈ after,
    m.id = item.id) after _ (forall_mem_nil _) fun s hs item hitem => ?_
  obtain ⟨_, hnew, hids⟩ := sampleSocket_intervals s item
  rw [hnew]
  exact forall_mem_append.mpr ⟨hs, fun m hm => ⟨item, hitem, hids m hm⟩⟩

theorem publishSamples_spec (hlocated : ∀ o ∈ after, Located o) (hid : t.nextEventId ≠ 0) :
    ∃ infos intervals, Forall₂ (Drafted tcpInfoEvent) infos (after.map tcpInfoOf) ∧
      Forall₂ (Drafted (intervalEvent clock)) intervals (t.sampleAll after).intervals ∧
      (publishSamples clock after t).2 = none ∧
      Emits { t with
          tcpBaselines := (t.sampleAll after).baselines
          telemetry := (t.sampleAll after).telemetry }
        (publishSamples clock after t).1 (infos ++ intervals) := by
  rw [publishSamples]
  generalize hsampled : ({ t with
      tcpBaselines := (t.sampleAll after).baselines
      telemetry := (t.sampleAll after).telemetry } : SocketTracker) = sampled
  have hsampledId : sampled.nextEventId ≠ 0 := by
    rw [← hsampled]
    exact hid
  have hinfo : (emitAll 0 tcpInfoEvent (after.map tcpInfoOf) sampled).2 = none := by
    apply emitAll_accepted tcpInfoEvent 0 _ hsampledId
    intro s hs a ha
    obtain ⟨o, ho, rfl⟩ := mem_map.mp ha
    exact tcpInfoEvent_accepted (hlocated o ho) hs
  obtain ⟨infos, done, -, hinfos, hemit, hall⟩ :=
    emitAll_spec tcpInfoEvent 0 (after.map tcpInfoOf) sampled
  obtain rfl := hall hinfo
  rw [andThen_of_none _ hinfo]
  have hinterval : (emitAll 1 (intervalEvent clock) (t.sampleAll after).intervals
      (emitAll 0 tcpInfoEvent (after.map tcpInfoOf) sampled).1).2 = none := by
    apply emitAll_accepted (intervalEvent clock) 1 _ (hemit.numbered hsampledId)
    intro s hs m hm
    obtain ⟨item, hitem, hm⟩ := sampleAll_ids t after m hm
    have hitem := hlocated item hitem
    apply intervalEvent_accepted _ hs
    rw [hm, hitem.id]
    exact hitem.inode
  obtain ⟨intervals, done, -, hintervals, hemit', hall'⟩ := emitAll_spec (intervalEvent clock) 1
    (t.sampleAll after).intervals (emitAll 0 tcpInfoEvent (after.map tcpInfoOf) sampled).1
  obtain rfl := hall' hinterval
  exact ⟨infos, intervals, hinfos, hintervals, hinterval, hemit.trans hemit'⟩

theorem mem_activeSockets :
    o ∈ activeSockets table ↔ ∃ id, table.active.find? id = some o := by
  simp [activeSockets, OrderedMap.mem_entries]

section
variable (h : Sound t.lifecycle)
include h
theorem sound_committedTable (records : List SocketDiagRecord) :
    Sound (committedTable clock t records) := by
  have hobserved := (observeAll_sameLive (sound_opened h) (inputsFrom clock t.reads records)).1
  exact hobserved.step _ .commitSnapshot

theorem committed_record {id : SocketId}
    (ho : (committedTable clock t records).active.find? id = some o) :
    ∃ k record, t.reads ≤ k ∧ k < t.reads + records.length ∧ record ∈ records ∧
      validInput (input (clock k) record) ∧
      o = makeObservation id (input (clock k) record) := by
  obtain ⟨_, hi, hvalid, rfl⟩ := snapshot_recorded h (inputsFrom clock t.reads records) id o ho
  obtain ⟨k, record, hlow, hhigh, hmem, rfl⟩ := inputsFrom_tracker hi
  exact ⟨k, record, hlow, hhigh, hmem, hvalid, rfl⟩

theorem located_committedTable (records : List SocketDiagRecord) :
    ∀ o ∈ activeSockets (committedTable clock t records), Located o := by
  intro o ho
  obtain ⟨id, hid⟩ := mem_activeSockets.mp ho
  have hissued := (sound_committedTable h records).consistent.activeIssued id o.tuple ⟨o, hid, rfl⟩
  obtain ⟨_, _, -, -, -, hvalid, rfl⟩ := committed_record h hid
  simp only [validInput, Bool.and_eq_true, bne_iff_ne] at hvalid
  exact ⟨hissued.1, rfl, hvalid.1.1.1.1.2⟩
end

def announced (clock : Clock) (t : SocketTracker) (table : SocketLifecycleTable) :
    List SocketObservation :=
  (activeSockets table).filter (changed (activeSockets t.lifecycle)) ++
    closedSockets clock (activeSockets t.lifecycle) (activeSockets table) t.reads

structure Moved (t t' : SocketTracker) (table : SocketLifecycleTable)
    (events : List NetworkEvent) : Prop where
  published : t'.published = t.published ++ events
  lifecycle : t'.lifecycle = table
  netns : t'.netns = t.netns
  attributes : t'.attributes = t.attributes
  routeTopology : t'.routeTopology = t.routeTopology
  routeUplink : t'.routeUplink = t.routeUplink
  threw : t'.threw = t.threw
  reads : t.reads ≤ t'.reads
  numbered : t'.nextEventId ≠ 0

theorem Moved.emits (h : Moved t t' table events) (hemit : Emits t' t'' events') :
    Moved t t'' table (events ++ events') where
  published := by rw [hemit.published, h.published, append_assoc]
  lifecycle := hemit.lifecycle.trans h.lifecycle
  netns := hemit.netns.trans h.netns
  attributes := hemit.attributes.trans h.attributes
  routeTopology := hemit.routeTopology.trans h.routeTopology
  routeUplink := hemit.routeUplink.trans h.routeUplink
  threw := hemit.threw.trans h.threw
  reads := h.reads.trans hemit.reads
  numbered := hemit.numbered h.numbered

inductive Published (clock : Clock) (t : SocketTracker) (table : SocketLifecycleTable)
    (t' : SocketTracker) : Option String → Prop
  | done (sockets contexts infos intervals : List NetworkEvent)
    (hsockets : List.Forall₂ (Drafted socketEvent) sockets (announced clock t table))
    (hcontexts : List.Forall₂ (Drafted (contextEvent clock)) contexts
      (contextsOf t (activeSockets table)))
    (hinfos : List.Forall₂ (Drafted tcpInfoEvent) infos ((activeSockets table).map tcpInfoOf))
    (hintervals : List.Forall₂ (Drafted (intervalEvent clock)) intervals
      (t.sampleAll (activeSockets table)).intervals)
    (hmoved : Moved t t' table (sockets ++ contexts ++ (infos ++ intervals)))
    (hbaselines : t'.tcpBaselines = (t.sampleAll (activeSockets table)).baselines) :
    Published clock t table t' none
  | threw (text : String) (sockets contexts : List NetworkEvent)
    (seen : List SocketObservation) (computed : List SocketRouteContextObservation)
    (hseen : seen <+: announced clock t table)
    (hcomputed : computed <+: contextsOf t (activeSockets table))
    (hsockets : List.Forall₂ (Drafted socketEvent) sockets seen)
    (hcontexts : List.Forall₂ (Drafted (contextEvent clock)) contexts computed)
    (hmoved : Moved t t' table (sockets ++ contexts)) : Published clock t table t' (some text)

inductive Finished (clock : Clock) (t : SocketTracker) (table : SocketLifecycleTable) :
    SocketTracker × Outcome → Prop
  | done (u : SocketTracker) (telemetry : SocketTrackerTelemetry)
    (hpublished : Published clock t table u none) (hdegraded : telemetry.degraded = false) :
    Finished clock t table
      ({ u with reads := u.reads + 1, telemetry := telemetry }, .returned true)
  | threw (u : SocketTracker) (text : String) (hpublished : Published clock t table u (some text)) :
    Finished clock t table (u, .threw text)

theorem sampleAll_congr (h : t'.tcpBaselines = t.tcpBaselines) (h' : t'.telemetry = t.telemetry)
    (after : List SocketObservation) : t'.sampleAll after = t.sampleAll after := by
  rw [sampleAll, sampleAll, h, h']

theorem attributed_frame (t : SocketTracker) (after closed : List SocketObservation) :
    ∃ contexts, t.attributed after closed = { t with routeContexts := contexts } := by
  rw [attributed]
  split_ifs
  · exact ⟨_, rfl⟩
  · exact ⟨t.routeContexts, rfl⟩

theorem publishCommitted_published {start : SocketTracker} (closed : List SocketObservation)
    (hstart : Moved t start table []) (hbaselines : start.tcpBaselines = t.tcpBaselines)
    (htelemetry : start.telemetry = t.telemetry)
    (hclosed : announced clock t table = (activeSockets table).filter (changed (activeSockets
      t.lifecycle)) ++ closed) (hlocated : ∀ o ∈ activeSockets table, Located o) {u : SocketTracker}
    (hresult : publishCommitted clock (activeSockets t.lifecycle) (activeSockets table) closed
      start = (u, text)) : Published clock t table u text := by
  rw [publishCommitted, ← hclosed] at hresult
  obtain ⟨sockets, seen, hseen, hsockets, hemit, hall⟩ :=
    emitAll_spec socketEvent 0 (announced clock t table) start
  generalize emitAll .. = first at *
  have hfirst := hstart.emits hemit
  rw [nil_append] at hfirst
  by_cases hok : first.2 = none
  · obtain rfl := hall hok
    rw [andThen_of_none _ hok, publishContexts_eq] at hresult
    have hcontexts : contextsOf first.1 (activeSockets table) =
        contextsOf t (activeSockets table) := by
      rw [contextsOf, contextsOf, hfirst.attributes, hfirst.routeTopology, hfirst.routeUplink]
    obtain ⟨stored, hstored⟩ := attributed_frame first.1 (activeSockets table) closed
    rw [hcontexts, hstored] at hresult
    have hkept : Moved t { first.1 with routeContexts := stored } table sockets := { hfirst with }
    obtain ⟨contexts, computed, hcomputed, hdrafted, hemit', hall'⟩ := emitAll_spec
      (contextEvent clock) 1 (contextsOf t (activeSockets table))
      { first.1 with routeContexts := stored }
    generalize emitAll 1 (contextEvent clock) (contextsOf t (activeSockets table))
      { first.1 with routeContexts := stored } = second at *
    have hsecond := hkept.emits hemit'
    by_cases hok' : second.2 = none
    · obtain rfl := hall' hok'
      rw [andThen_of_none _ hok'] at hresult
      have hsample : second.1.sampleAll (activeSockets table) =
          t.sampleAll (activeSockets table) := by
        apply sampleAll_congr
        · exact (hemit'.tcpBaselines.trans hemit.tcpBaselines).trans hbaselines
        · exact (hemit'.telemetry.trans hemit.telemetry).trans htelemetry
      obtain ⟨infos, intervals, hinfos, hintervals, hnone, hsamples⟩ :=
        publishSamples_spec (t := second.1) hlocated hsecond.numbered
      rw [hresult] at hnone hsamples
      rw [hsample] at hintervals hsamples
      obtain rfl : text = none := hnone
      refine .done sockets contexts infos intervals hsockets hdrafted hinfos hintervals ?_
        hsamples.tcpBaselines
      have hsampled : Moved t { second.1 with
          tcpBaselines := (t.sampleAll (activeSockets table)).baselines
          telemetry := (t.sampleAll (activeSockets table)).telemetry } table
          (sockets ++ contexts) := { hsecond with }
      exact hsampled.emits hsamples
    · rw [andThen_of_ne_none _ hok'] at hresult
      rw [hresult] at hok' hsecond
      obtain ⟨text, rfl⟩ := Option.ne_none_iff_exists'.mp hok'
      exact .threw text sockets contexts _ computed hseen hcomputed hsockets hdrafted hsecond
  · rw [andThen_of_ne_none _ hok, andThen_of_ne_none _ hok] at hresult
    rw [hresult] at hok hfirst
    obtain ⟨text, rfl⟩ := Option.ne_none_iff_exists'.mp hok
    refine .threw text sockets [] seen [] hseen nil_prefix hsockets .nil ?_
    rw [append_nil]
    exact hfirst

theorem finish_finished (table : SocketLifecycleTable) (count : ℕ)
    (hlocated : ∀ o ∈ activeSockets table, Located o) (hid : t.nextEventId ≠ 0) :
    Finished clock t table (finish clock t table count) := by
  rw [finish]
  dsimp only
  generalize hclosed :
    closedSockets clock (activeSockets t.lifecycle) (activeSockets table) t.reads = closed
  have hstart : Moved t { t with lifecycle := table, reads := t.reads + closed.length } table [] :=
    ⟨(append_nil _).symm, rfl, rfl, rfl, rfl, rfl, rfl, Nat.le_add_right _ _, hid⟩
  have hannounced : announced clock t table =
      (activeSockets table).filter (changed (activeSockets t.lifecycle)) ++ closed := by
    rw [announced, hclosed]
  cases hresult : publishCommitted clock (activeSockets t.lifecycle) (activeSockets table) closed
    { t with lifecycle := table, reads := t.reads + closed.length } with
  | mk u text =>
    have hpublished := publishCommitted_published closed hstart rfl rfl hannounced hlocated hresult
    cases text with
    | none => exact .done u _ hpublished rfl
    | some text => exact .threw u text hpublished

variable (clock) in
theorem recomputeAll_spec (topology : TopologySnapshot) (uplink : UplinkSelection)
    (items : List SocketObservation) (t : SocketTracker) (hid : t.nextEventId ≠ 0) :
    ∃ events done, done <+: items ∧ Forall₂ (Drafted (contextEvent clock)) events
        (done.map fun item => attributeSocket item topology uplink) ∧
      Moved t (recomputeAll clock topology uplink items t).1 t.lifecycle events ∧
      (recomputeAll clock topology uplink items t).1.tcpBaselines = t.tcpBaselines ∧
      (recomputeAll clock topology uplink items t).1.telemetry = t.telemetry := by
  induction items generalizing t with
  | nil =>
    refine ⟨[], [], nil_prefix, .nil, ?_, rfl, rfl⟩
    exact ⟨(append_nil _).symm, rfl, rfl, rfl, rfl, rfl, rfl, le_rfl, hid⟩
  | cons item _ ih =>
    rw [recomputeAll, recomputeSocket]
    generalize hcontext :
      attributeSocket item topology uplink = context
    generalize hstored : ({ t with
      routeContexts := t.routeContexts.insert item.id context } : SocketTracker) = stored
    have hbase : ∀ {u events}, Emits stored u events → Moved t u t.lifecycle events ∧
        u.tcpBaselines = t.tcpBaselines ∧ u.telemetry = t.telemetry := by
      intro u events hemit
      subst hstored
      exact ⟨{ hemit with numbered := hemit.numbered hid }, hemit.tcpBaselines, hemit.telemetry⟩
    rcases emit_cases stored 1 (contextEvent clock stored context) with
      ⟨event, hdraft, hok, hemit⟩ | ⟨-, hthrow, hemit⟩
    · obtain ⟨hmoved, hbaselines, htelemetry⟩ := hbase hemit
      rw [andThen_of_none _ hok]
      obtain ⟨events, done, hdone, hall, hrest, hbaselines', htelemetry'⟩ := ih _ hmoved.numbered
      refine ⟨event :: events, item :: done, cons_prefix_cons.mpr ⟨rfl, hdone⟩, ?_, ?_,
        hbaselines'.trans hbaselines, htelemetry'.trans htelemetry⟩
      · rw [map_cons, hcontext]
        exact .cons ⟨stored, hdraft⟩ hall
      · refine ⟨?_, hrest.lifecycle.trans hmoved.lifecycle, hrest.netns.trans hmoved.netns,
          hrest.attributes.trans hmoved.attributes, hrest.routeTopology.trans hmoved.routeTopology,
          hrest.routeUplink.trans hmoved.routeUplink, hrest.threw.trans hmoved.threw,
          hmoved.reads.trans hrest.reads, hrest.numbered⟩
        rw [hrest.published, hmoved.published, append_assoc]
        rfl
    · obtain ⟨hmoved, hbaselines, htelemetry⟩ := hbase hemit
      rw [andThen_of_ne_none _ hthrow]
      exact ⟨[], [], nil_prefix, .nil, hmoved, hbaselines, htelemetry⟩

structure Tracking (t : SocketTracker) : Prop where
  sound : Sound t.lifecycle
  numbered : t.nextEventId ≠ 0

inductive Stepped (clock : Clock) (t : SocketTracker) : Op → SocketTracker → Prop
  | failed (inet inet6 : DumpSource) (table : SocketLifecycleTable) (reads : ℕ)
    (telemetry : SocketTrackerTelemetry) (thrown : Bool)
    (hreturned : (t.reconcile clock inet inet6).2 ≠ .returned true)
    (hreach : Reaches t.lifecycle table) (hlive : SameLive t.lifecycle table)
    (hreads : t.reads ≤ reads) :
    Stepped clock t (.reconcile inet inet6)
      { t with lifecycle := table, reads := reads, telemetry := telemetry, threw := thrown }
  | committed (inet inet6 : DumpSource) (records : List SocketDiagRecord)
    (reading telemetry : SocketTrackerTelemetry) (u : SocketTracker)
    (hreturned : (t.reconcile clock inet inet6).2 = .returned true)
    (hdumped : t.reported inet inet6 = some records)
    (hreach : Reaches t.lifecycle (committedTable clock t records))
    (hpublished : Published clock
      { t with reads := t.reads + records.length, telemetry := reading }
      (committedTable clock t records) u none) :
    Stepped clock t (.reconcile inet inet6)
      { u with reads := u.reads + 1, telemetry := telemetry }
  | interrupted (inet inet6 : DumpSource) (records : List SocketDiagRecord)
    (reading : SocketTrackerTelemetry) (u : SocketTracker) (text : String)
    (hreturned : (t.reconcile clock inet inet6).2 ≠ .returned true)
    (hdumped : t.reported inet inet6 = some records)
    (hreach : Reaches t.lifecycle (committedTable clock t records))
    (hpublished : Published clock
      { t with reads := t.reads + records.length, telemetry := reading }
      (committedTable clock t records) u (some text)) :
    Stepped clock t (.reconcile inet inet6) { u with threw := true }
  | recomputed (topology : TopologySnapshot) (uplink : UplinkSelection) (u : SocketTracker)
    (thrown : Bool) (events : List NetworkEvent) (computed : List SocketRouteContextObservation)
    (hcomputed : computed <+: contextsOf
      { t with routeTopology := topology, routeUplink := uplink } (activeSockets t.lifecycle))
    (hdrafted : List.Forall₂ (Drafted (contextEvent clock)) events computed)
    (hmoved : Moved { t with routeTopology := topology, routeUplink := uplink } u t.lifecycle
      events)
    (hbaselines : u.tcpBaselines = t.tcpBaselines) (htelemetry : u.telemetry = t.telemetry) :
    Stepped clock t (.recomputeRouteContexts topology uplink) { u with threw := thrown }
  | attributor (present : Bool) :
    Stepped clock t (.setRouteAttributor present) { t with attributes := present }

variable (clock) in
theorem finish_resolved (h : Tracking t) (records : List SocketDiagRecord)
    (telemetry : SocketTrackerTelemetry) :
    Finished clock { t with reads := t.reads + records.length, telemetry := telemetry }
      (committedTable clock t records) (finish clock
        { t with reads := t.reads + records.length, telemetry := telemetry }
        (committedTable clock t records) records.length) :=
  finish_finished _ _ (located_committedTable h.sound records) h.numbered

theorem step_reconcile (h : Tracking t) (hthrew : t.threw = false) (inet inet6 : DumpSource) :
    Stepped clock t (.reconcile inet inet6) (step clock t (.reconcile inet inet6)) := by
  rw [step, if_neg (Bool.eq_false_iff.mp hthrew)]
  have hreconciled := reconcile_reconciled clock h.sound inet inet6
  generalize hresult : t.reconcile .. = result at hreconciled
  cases hreconciled with
  | failed table reads telemetry hreach hlive hreads =>
    apply Stepped.failed inet inet6 table reads telemetry t.threw _ hreach hlive hreads
    rw [hresult]
    nofun
  | exhausted table reads telemetry _ hreach hlive hreads =>
    apply Stepped.failed inet inet6 table reads telemetry true _ hreach hlive hreads
    rw [hresult]
    nofun
  | resolved records telemetry hdumped hreach =>
    have hfinished := finish_resolved clock h records telemetry
    generalize finish .. = result at *
    cases hfinished with
    | done u telemetry' hpublished =>
      apply Stepped.committed inet inet6 records telemetry telemetry' u _ hdumped hreach hpublished
      rw [hresult]
    | threw u text hpublished =>
      apply Stepped.interrupted inet inet6 records telemetry u text _ hdumped hreach hpublished
      rw [hresult]
      nofun

variable (clock) in
theorem step_recompute (h : Tracking t) (hthrew : t.threw = false) (topology : TopologySnapshot)
    (uplink : UplinkSelection) :
    Stepped clock t (.recomputeRouteContexts topology uplink)
      (step clock t (.recomputeRouteContexts topology uplink)) := by
  rw [step, if_neg (Bool.eq_false_iff.mp hthrew), recomputeRouteContexts]
  by_cases hattributes : t.attributes
  · obtain ⟨events, done, hdone, hall, hmoved, hbaselines, htelemetry⟩ := recomputeAll_spec clock
      topology uplink (activeSockets t.lifecycle) { t with
        routeTopology := topology
        routeUplink := uplink
        routeContexts := .empty } h.numbered
    rw [if_pos hattributes]
    generalize recomputeAll .. = result at *
    obtain ⟨u, text⟩ := result
    have hmoved' : Moved { t with routeTopology := topology, routeUplink := uplink } u
        t.lifecycle events := { hmoved with }
    have hcomputed : (done.map fun item =>
        attributeSocket item topology uplink) <+: contextsOf
          { t with routeTopology := topology, routeUplink := uplink }
          (activeSockets t.lifecycle) := by
      rw [contextsOf, if_pos hattributes]
      exact hdone.map _
    cases text with
    | none =>
      exact .recomputed topology uplink u u.threw events _ hcomputed hall hmoved' hbaselines
        htelemetry
    | some =>
      exact .recomputed topology uplink u true events _ hcomputed hall hmoved' hbaselines htelemetry
  · rw [if_neg hattributes]
    refine .recomputed topology uplink { t with
        routeTopology := topology
        routeUplink := uplink
        routeContexts := .empty } t.threw [] [] nil_prefix .nil ?_ rfl rfl
    exact ⟨(append_nil _).symm, rfl, rfl, rfl, rfl, rfl, rfl, le_rfl, h.numbered⟩

variable (clock) in
theorem step_stepped (h : Tracking t) (hthrew : t.threw = false) (op : Op) :
    Stepped clock t op (step clock t op) := by
  cases op with
  | reconcile inet inet6 => exact step_reconcile h hthrew inet inet6
  | recomputeRouteContexts topology uplink => exact step_recompute clock h hthrew topology uplink
  | setRouteAttributor present =>
    rw [step, if_neg (Bool.eq_false_iff.mp hthrew)]
    exact .attributor present

theorem step_of_threw (h : t.threw) (op : Op) : step clock t op = t := by
  rw [step.eq_def, if_pos h]

theorem Published.moved (h : Published clock t table t' text) :
    ∃ events, Moved t t' table events := by
  cases h with
  | done _ _ _ _ _ _ _ _ hmoved _
  | threw _ _ _ _ _ _ _ _ _ hmoved => exact ⟨_, hmoved⟩

theorem Tracking.published {telemetry : SocketTrackerTelemetry} (h : Tracking t)
    (hpublished : Published clock { t with reads := t.reads + records.length, telemetry :=
      telemetry } (committedTable clock t records) t' text) : Tracking t' := by
  obtain ⟨_, hmoved⟩ := hpublished.moved
  refine ⟨?_, hmoved.numbered⟩
  rw [hmoved.lifecycle]
  exact sound_committedTable h.sound records

theorem Tracking.step (h : Tracking t) (op : Op) : Tracking (step clock t op) := by
  by_cases hthrew : t.threw
  · rw [step_of_threw hthrew]
    exact h
  · have hstepped := step_stepped clock h (Bool.eq_false_iff.mpr hthrew) op
    generalize SocketTracker.step clock t op = next at hstepped
    cases hstepped with
    | failed _ _ _ _ _ _ _ hreach =>
      exact ⟨hreach.sound h.sound, h.numbered⟩
    | committed _ _ _ _ _ _ _ _ _ hpublished
    | interrupted _ _ _ _ _ _ _ _ _ hpublished =>
      exact ⟨(h.published hpublished).sound, (h.published hpublished).numbered⟩
    | recomputed _ _ _ _ _ _ _ _ hmoved =>
      refine ⟨?_, hmoved.numbered⟩
      rw [hmoved.lifecycle]
      exact h.sound
    | attributor => exact ⟨h.sound, h.numbered⟩

theorem tracking_create (netns : NetnsId) (hinode : netns.inode ≠ 0)
    (config : SocketLifecycleConfig) : Tracking (create netns hinode config) :=
  ⟨sound_initial config, Nat.one_ne_zero⟩

theorem tracking_run (netns : NetnsId) (hinode : netns.inode ≠ 0)
    (config : SocketLifecycleConfig) (ops : List Op) :
    Tracking (run (step clock) (create netns hinode config) ops) :=
  run_invariant (fun _ op h => h.step op) (tracking_create netns hinode config) ops

def computes (clock : Clock) (t : SocketTracker) : Op → List SocketRouteContextObservation
  | .reconcile inet inet6 => (t.reported inet inet6).elim [] fun records =>
      contextsOf t (activeSockets (committedTable clock t records))
  | .recomputeRouteContexts topology uplink =>
      contextsOf { t with routeTopology := topology, routeUplink := uplink }
        (activeSockets t.lifecycle)
  | .setRouteAttributor _ => []

def Carries (contexts : List SocketRouteContextObservation) (events : List NetworkEvent) : Prop :=
  ∀ event ∈ events, event.header.source = .socketTracker ∧
    ∀ context, event.payload = .socketRoute context → context ∈ contexts

theorem carries_nil (contexts : List SocketRouteContextObservation) : Carries contexts [] :=
  forall_mem_nil _

theorem Carries.append (h : Carries contexts events) (h' : Carries contexts events') :
    Carries contexts (events ++ events') :=
  forall_mem_append.mpr ⟨h, h'⟩

theorem carries_drafted {α : Type}
    {draft : SocketTracker → α → NetworkEventHeader × NetworkEventPayload} {items : List α}
    (h : Forall₂ (Drafted draft) events items)
    (hsource : ∀ s a, (draft s a).1.source = .socketTracker)
    (hpayload : ∀ s, ∀ a ∈ items, ∀ context, (draft s a).2 = .socketRoute context → context ∈
      contexts) : Carries contexts events := by
  intro event hevent
  obtain ⟨a, ha, s, hs⟩ := Fallible.exists_right h hevent
  obtain ⟨hheader, hpay⟩ := Prod.mk.inj hs
  rw [hheader, hpay]
  exact ⟨hsource s a, hpayload s a ha⟩

theorem carries_contexts {computed : List SocketRouteContextObservation}
    (h : Forall₂ (Drafted (contextEvent clock)) events computed)
    (hcomputed : computed ⊆ contexts) : Carries contexts events := by
  apply carries_drafted h fun _ _ => rfl
  intro s a ha context hcontext
  cases hcontext
  exact hcomputed ha

theorem Published.carries (h : Published clock t table t' text) :
    ∃ events, t'.published = t.published ++ events ∧
      Carries (contextsOf t (activeSockets table)) events := by
  cases h with
  | done _ _ _ _ hsockets hcontexts hinfos hintervals hmoved _ =>
    refine ⟨_, hmoved.published, Carries.append (Carries.append ?_ ?_) (Carries.append ?_ ?_)⟩
    · exact carries_drafted hsockets (fun _ _ => rfl) fun _ _ _ _ hcontext => absurd hcontext nofun
    · exact carries_contexts hcontexts (List.Subset.refl _)
    · exact carries_drafted hinfos (fun _ _ => rfl) fun _ _ _ _ hcontext => absurd hcontext nofun
    · exact carries_drafted hintervals (fun _ _ => rfl)
        fun _ _ _ _ hcontext => absurd hcontext nofun
  | threw _ _ _ _ _ _ hcomputed hsockets hcontexts hmoved =>
    refine ⟨_, hmoved.published, Carries.append ?_ ?_⟩
    · exact carries_drafted hsockets (fun _ _ => rfl) fun _ _ _ _ hcontext => absurd hcontext nofun
    · exact carries_contexts hcontexts hcomputed.subset

variable (clock) in
theorem step_carries (h : Tracking t) (op : Op) :
    ∃ events, (step clock t op).published = t.published ++ events ∧
      Carries (t.computes clock op) events := by
  by_cases hthrew : t.threw
  · rw [step_of_threw hthrew]
    exact ⟨[], (append_nil _).symm, carries_nil _⟩
  · have hstepped := step_stepped clock h (Bool.eq_false_iff.mpr hthrew) op
    generalize SocketTracker.step clock t op = next at hstepped
    cases hstepped with
    | failed _ _ _ _ _ _ _ | attributor =>
      exact ⟨[], (append_nil _).symm, carries_nil _⟩
    | committed _ _ _ _ _ _ _ hdumped _ hpublished
    | interrupted _ _ _ _ _ _ _ hdumped _ hpublished =>
      rw [computes, hdumped]
      exact hpublished.carries
    | recomputed _ _ _ _ events _ hcomputed hdrafted hmoved =>
      exact ⟨events, hmoved.published, carries_contexts hdrafted hcomputed.subset⟩

variable (clock) in
theorem Tracking.reconcile (h : Tracking t) (inet inet6 : DumpSource) :
    Tracking (t.reconcile clock inet inet6).1 := by
  have hreconciled := reconcile_reconciled clock h.sound inet inet6
  generalize SocketTracker.reconcile .. = result at hreconciled
  cases hreconciled with
  | failed _ _ _ hreach
  | exhausted _ _ _ _ hreach =>
    exact ⟨hreach.sound h.sound, h.numbered⟩
  | resolved records telemetry =>
    have hfinished := finish_resolved clock h records telemetry
    generalize finish .. = result at hfinished
    cases hfinished with
    | done _ _ hpublished =>
      exact ⟨(h.published hpublished).sound, (h.published hpublished).numbered⟩
    | threw _ _ hpublished => exact h.published hpublished

theorem reconcile_false (h : Tracking t) {inet inet6 : DumpSource}
    (hfalse : t.reconcile clock inet inet6 = (t', .returned false)) :
    SameLive t.lifecycle t'.lifecycle ∧ t'.tcpBaselines = t.tcpBaselines ∧
      t'.routeContexts = t.routeContexts ∧ t'.published = t.published := by
  have hreconciled := reconcile_reconciled clock h.sound inet inet6
  rw [hfalse] at hreconciled
  generalize hresult : (t', Outcome.returned false) = result at hreconciled
  cases hreconciled with
  | failed _ _ _ _ hlive =>
    cases hresult
    exact ⟨hlive, rfl, rfl, rfl⟩
  | exhausted =>
    cases hresult
  | resolved records telemetry =>
    -- A finished reconciliation returns true or throws.
    have hfinished := finish_resolved clock h records telemetry
    rw [← hresult] at hfinished
    cases hfinished

/-- A snapshot that is not committed with authority, and a reconciliation that returns false,
change nothing that is live. -/
theorem snapshots_transactional (config : SocketLifecycleConfig) :
    (∀ (ops : List SocketLifecycleTable.Op) (disposition : SocketSnapshotDisposition)
        (inputs : List SocketObservationInput),
      let table := SocketLifecycleTable.after config ops
      let observed := (table.beginSnapshot disposition).1.observeAll inputs
      SameLive table observed.abortSnapshot ∧
        ((table.beginSnapshot disposition).1.disposition ≠ .authoritative →
          SameLive table observed.commitSnapshot.1)) ∧
    ∀ (clock : Clock) (netns : NetnsId) (hinode : netns.inode ≠ 0) (ops : List Op)
        (inet inet6 : DumpSource) (t' : SocketTracker),
      let t := run (step clock) (create netns hinode config) ops
      t.reconcile clock inet inet6 = (t', .returned false) →
        SameLive t.lifecycle t'.lifecycle ∧ t'.tcpBaselines = t.tcpBaselines ∧
          t'.routeContexts = t.routeContexts ∧ t'.published = t.published := by
  constructor
  · intro ops disposition inputs
    exact discarded_sameLive (sound_after config ops).1 disposition inputs
  · intro clock netns hinode ops inet inet6 t' t hfalse
    exact reconcile_false (tracking_run netns hinode config ops) hfalse

def sampleRecord (cookie : Option ℕ) (port : ℕ) (info : Option TcpInfoRaw) : SocketDiagRecord where
  tuple := SocketLifecycleTable.sampleTuple port
  tcpState := 1
  cookie := cookie
  diagIfindex := none
  uid := none
  inode := none
  tcpInfo := info
  tcpInfoMalformed := false

def sampleClock : Clock := fun n => ((n : ℤ), (n : ℤ))

def sampleTracker : SocketTracker :=
  run (step sampleClock)
    (create ⟨4, 1⟩ (by decide) (SocketLifecycleTable.sampleConfig 3))
    [.reconcile (.hook (some [sampleRecord (some 1) 80 none])) (.hook (some []))]

theorem failed_reconciliation_sample :
    SameLive sampleTracker.lifecycle
      (sampleTracker.reconcile sampleClock (.hook (some [])) (.hook none)).1.lifecycle ∧
    (sampleTracker.reconcile sampleClock (.hook (some [])) (.hook none)).1.published =
      sampleTracker.published ∧
    sampleTracker.published.length = 2 := by
  have hkept := (snapshots_transactional
    (sampleConfig 3)).2 sampleClock ⟨4, 1⟩ (by decide)
    [.reconcile (.hook (some [sampleRecord (some 1) 80 none])) (.hook (some []))]
    (.hook (some [])) (.hook none)
    (sampleTracker.reconcile sampleClock (.hook (some [])) (.hook none)).1
    (Prod.ext rfl (by decide +kernel))
  exact ⟨hkept.1, hkept.2.2.2, by decide +kernel⟩
end WeakNet.SocketTracker
