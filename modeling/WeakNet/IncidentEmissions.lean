import WeakNet.IncidentLifecycle

/-! An event resolves incidents first and then opens or updates at most one, so an engine that has
an incident id left never throws. `held` rebuilds the active incidents from what was emitted. -/

namespace WeakNet.IncidentEngine
open IncidentObservation
open Foundation Foundation.OrderedMap Foundation.Runs Foundation.Lifecycle List Working

structure Clears (w w' : Working) : Prop where
  nextIncidentId : w'.engine.nextIncidentId = w.engine.nextIncidentId
  emissions : ∃ closed, w'.emissions = w.emissions ++ closed ∧ ∀ o ∈ closed, o.state = .resolved

variable {w : Working} {key : IncidentKey} {netns : NetnsId} {evidence : IncidentEvidence}
    {severity : IncidentSeverity} {completeness : IncidentEvidenceCompleteness}

section Clears
variable {w' w'' : Working} {evaluation : Evaluation}
theorem clears_of_quiet (hnext : w'.engine.nextIncidentId = w.engine.nextIncidentId)
    (hemissions : w'.emissions = w.emissions) : Clears w w' :=
  ⟨hnext, [], hemissions.trans (append_nil _).symm, forall_mem_nil _⟩

theorem Clears.refl (w : Working) : Clears w w := clears_of_quiet rfl rfl

theorem Clears.trans (h : Clears w w') (h' : Clears w' w'') : Clears w w'' := by
  refine ⟨h'.nextIncidentId.trans h.nextIncidentId, ?_⟩
  obtain ⟨closed, hclosed, hall⟩ := h.emissions
  obtain ⟨closed', hclosed', hall'⟩ := h'.emissions
  refine ⟨closed ++ closed', ?_, forall_mem_append.mpr ⟨hall, hall'⟩⟩
  rw [hclosed', hclosed, append_assoc]

section
variable (w : Working)
theorem clears_resolveRecordLocked (key : IncidentKey) (record : IncidentRecord)
    (realtime : RealtimeTime) (monotonic : MonotonicTime) (condition : String) :
    Clears w (w.resolveRecordLocked key record realtime monotonic condition) := by
  refine ⟨rfl, [resolvedCopy record.observation realtime monotonic condition], rfl, ?_⟩
  intro o ho
  rw [mem_singleton.mp ho]
  rfl

theorem Clears.resolvable : Resolvable (Clears w) :=
  ⟨fun v key record realtime monotonic condition _ _ h =>
      h.trans (clears_resolveRecordLocked v key record realtime monotonic condition),
    fun _ _ _ _ _ h => h.trans (clears_of_quiet rfl rfl),
    fun _ _ h => h.trans (clears_of_quiet rfl rfl)⟩

theorem clears_resolveSuperseded (current : SocketId) (realtime : RealtimeTime)
    (monotonic : MonotonicTime) :
    Clears w (w.resolveSupersededSocketGenerationsLocked current realtime monotonic) :=
  (Clears.resolvable w).resolveSuperseded (Clears.refl w) current realtime monotonic

theorem clears_processSocket (event : NetworkEvent) (o : SocketObservation) :
    Clears w (w.processSocket event o) :=
  (Clears.resolvable w).processSocket (Clears.refl w) event o
end

theorem evaluateLocked_clears (hbad : evaluation ≠ .bad) :
    ∃ w', w.evaluateLocked key netns evaluation evidence severity completeness = .ok w' ∧
      Clears w w' := by
  generalize hresult : w.evaluateLocked .. = result
  cases evaluateLocked_evaluated hresult with
  | silent => exact ⟨w, rfl, Clears.refl w⟩
  | counted | forgotten => exact ⟨_, rfl, clears_of_quiet rfl rfl⟩
  | recovered _ record =>
    exact ⟨_, rfl, clears_resolveRecordLocked w key record ..⟩
  | updated o record hbad' | opened record hbad' | exhausted record hbad' => exact absurd hbad' hbad
end Clears

def Tidy (emissions : List IncidentObservation) : Prop :=
  ∃ closed last, emissions = closed ++ last ∧ (∀ o ∈ closed, o.state = .resolved) ∧
    last.length ≤ 1

def Orderly (e : IncidentEngine) : Except Working Working → Prop :=
  Ends (fun w => Tidy w.emissions) (fun _ => e.nextIncidentId = 0)

variable {e : IncidentEngine} {log : List IncidentObservation}

section Orderly
variable {e' : IncidentEngine} {event : NetworkEvent}

section
variable (h : Clears ⟨e, []⟩ w)
include h
theorem Clears.tidy : Tidy w.emissions := by
  obtain ⟨closed, hclosed, hall⟩ := h.emissions
  exact ⟨closed, [], hclosed.trans (append_nil _).symm, hall, Nat.zero_le 1⟩

theorem Clears.tidy_emit (o : IncidentObservation) :
    Tidy (w.emissions ++ [o]) := by
  obtain ⟨closed, hclosed, hall⟩ := h.emissions
  exact ⟨closed, [o], by rw [hclosed, nil_append], hall, le_rfl⟩

theorem Clears.evaluateLocked (evaluation : Evaluation) :
    Orderly e (w.evaluateLocked key netns evaluation evidence severity completeness) := by
  generalize hresult : w.evaluateLocked .. = result
  cases evaluateLocked_evaluated hresult with
  | silent | counted | forgotten => exact h.tidy
  | updated o record | opened record =>
    exact h.tidy_emit ..
  | recovered => exact h.tidy_emit _
  | exhausted _ _ hid => exact h.nextIncidentId.symm.trans hid
end

theorem conflictVerdict_unavailable (authoritative conflicts : Bool) :
    (conflictVerdict authoritative (authoritative && conflicts &&
      (RouteAttributionStatus.unavailable == .partly ||
        RouteAttributionStatus.unavailable == .ambiguous)) .unavailable).evaluation =
      .unavailable := by
  cases authoritative <;> cases conflicts <;> rfl

theorem orderly_processSocketRoute (e : IncidentEngine) (event : NetworkEvent)
    (o : SocketRouteContextObservation) :
    Orderly e (processSocketRoute ⟨e, []⟩ event o) := by
  rw [processSocketRoute]
  simp only [bind, Except.bind]
  by_cases hstatus : o.attributionStatus = .unavailable
  · -- Only the first rule can judge the route.
    simp only [hstatus, conflictVerdict_unavailable]
    generalize hfirst : evaluateLocked .. = first
    have hends : Orderly e first := hfirst ▸ (Clears.refl ⟨e, []⟩).evaluateLocked _
    cases first with
    | error | ok => exact hends
  · -- The first rule finds nothing missing and only clears.
    generalize hmissing : routeVerdict _ _ _ = missing
    have hbad : missing.evaluation ≠ .bad := by
      rw [← hmissing, routeVerdict]
      split_ifs with hfound
      · simp [hstatus] at hfound
      all_goals rintro ⟨⟩
    generalize hfirst : evaluateLocked .. = first
    have hcleared : ∃ w, first = .ok w ∧ Clears ⟨e, []⟩ w := hfirst ▸ evaluateLocked_clears hbad
    obtain ⟨w, rfl, hclears⟩ := hcleared
    exact hclears.evaluateLocked _

theorem orderly_dispatch {result : Except Working Working}
    (hresult : dispatch ⟨e, []⟩ event = some result) : Orderly e result := by
  cases dispatch_dispatched hresult with
  | socket o => exact (clears_processSocket _ event o).tidy
  | tcpInfo | tcpInterval => exact (clears_resolveSuperseded _ _ _ _).evaluateLocked _
  | socketRoute o => exact orderly_processSocketRoute ..
  | uplink => exact (Clears.refl _).evaluateLocked _

theorem process_accounted (h : Accounted log ⟨e, []⟩) (hid : e.nextIncidentId ≠ 0)
    (event : NetworkEvent) :
    ∃ e' consumed emissions, e.process event = (e', .done consumed emissions) ∧
      Accounted (log ++ emissions) ⟨e', []⟩ ∧ Tidy emissions := by
  rw [process]
  cases hdispatch : dispatch ⟨e, []⟩ event with
  | none =>
    refine ⟨e, false, [], rfl, ?_, (Clears.refl ⟨e, []⟩).tidy⟩
    rw [append_nil]
    exact h
  | some result =>
    have hends := h.dispatch hdispatch
    have horderly := orderly_dispatch hdispatch
    cases result with
    | ok w =>
      have hw : Accounted log w := hends
      exact ⟨w.engine, true, w.emissions, rfl, hw.settle, horderly⟩
    | error => exact absurd horderly hid
end Orderly

def keep (m : OrderedMap ℕ IncidentObservation) (o : IncidentObservation) :
    OrderedMap ℕ IncidentObservation :=
  match o.state with
  | .active => m.insert o.id o
  | .resolved => m.erase o.id
  | .pending => m

def held (log : List IncidentObservation) : OrderedMap ℕ IncidentObservation :=
  log.foldl keep .empty

theorem held_append_single (log : List IncidentObservation) (o : IncidentObservation) :
    held (log ++ [o]) = keep (held log) o := by
  rw [held, foldl_append]
  rfl

section Held
variable {id : ℕ} {o : IncidentObservation}
theorem find?_held (h : ∀ o ∈ log, o.state = .active ∨ o.state = .resolved) (id : ℕ) :
    (held log).find? id = (lastOf reading log id).filter reading.isOpen := by
  induction log using List.reverseRecOn with
  | nil => rfl
  | append_singleton _ o ih =>
    have hlog := ih fun a ha => h a (mem_append_left _ ha)
    have ho := h o (mem_append_right _ mem_cons_self)
    rw [held_append_single, lastOf_append_single, keep]
    rcases ho with hactive | hresolved
    · simp only [hactive, find?_insert, hlog, reading]
      by_cases hid : o.id = id
      · simp [hid, hactive, Option.filter]
      · simp [hid]
    · simp only [hresolved, find?_erase, hlog, reading]
      by_cases hid : o.id = id
      · simp [hid, hresolved, Option.filter]
      · simp [hid, Ne.symm hid]

theorem Accounted.states (h : Accounted log ⟨e, []⟩) :
    ∀ o ∈ log, o.state = .active ∨ o.state = .resolved :=
  fun o ho => (h.entries o (mem_append_left _ ho)).state

theorem tag_of_lastOf (h : lastOf reading log id = some o) : o.id = id := by
  have hmem := mem_of_getLast? h
  exact of_decide_eq_true (mem_filter.mp hmem).2

theorem find?_held_iff (h : Accounted log ⟨e, []⟩) :
    (held log).find? id = some o ↔ o ∈ e.listActiveIncidents ∧ o.id = id := by
  have hcurrent := h.ledger.current o
  simp only [append_nil] at hcurrent
  rw [find?_held h.states, mem_listActiveIncidents, hcurrent, Option.filter_eq_some_iff]
  refine ⟨fun hlast => ?_, fun hlast => ?_⟩
  · obtain rfl := tag_of_lastOf hlast.1
    exact ⟨⟨hlast.2, hlast.1⟩, rfl⟩
  · obtain ⟨⟨hopen, hlast⟩, rfl⟩ := hlast
    exact ⟨hlast, hopen⟩

section
variable (h : Accounted log ⟨e, []⟩)
include h
theorem nodup_listActiveIncidents : e.listActiveIncidents.Nodup := by
  rw [listActiveIncidents]
  refine Nodup.map_on (fun a ha b hb hsame => ?_) ((nodup_entries e.records).filter _)
  obtain ⟨ha, hactive⟩ := mem_filter.mp ha
  obtain ⟨hb, hactive'⟩ := mem_filter.mp hb
  have hopen : ∀ {r : IncidentKey × IncidentRecord}, r ∈ e.records.entries →
      r.2.active → e.openAt r.1 = some r.2.observation := by
    intro r hr hractive
    rw [openAt_of_find (mem_entries.mp hr), IncidentRecord.openObservation_of_active hractive]
  have hkey : a.1 = b.1 := h.ledger.distinct a.1 b.1 _ _ (hopen ha hactive) (hopen hb hactive')
    (congrArg IncidentObservation.id hsame)
  have hfind := mem_entries.mp ha
  rw [hkey] at hfind
  exact Prod.ext hkey (Option.some.inj (hfind.symm.trans (mem_entries.mp hb)))

theorem held_perm :
    ((held log).entries.map Prod.snd).Perm e.listActiveIncidents := by
  have hids : ((held log).entries.map Prod.snd).map IncidentObservation.id =
      (held log).entries.map Prod.fst := by
    rw [map_map]
    apply map_congr_left
    intro entry hentry
    exact ((find?_held_iff h).mp (mem_entries.mp hentry)).2
  have hnodup : ((held log).entries.map Prod.snd).Nodup := by
    apply Nodup.of_map IncidentObservation.id
    rw [hids]
    exact nodup_fst _
  rw [perm_ext_iff_of_nodup hnodup (nodup_listActiveIncidents h)]
  intro o
  rw [mem_map]
  refine ⟨fun ho => ?_, fun ho => ?_⟩
  · obtain ⟨entry, hentry, rfl⟩ := ho
    exact ((find?_held_iff h).mp (mem_entries.mp hentry)).1
  · exact ⟨(o.id, o), mem_entries.mpr ((find?_held_iff h).mpr ⟨ho, rfl⟩), rfl⟩

theorem size_held :
    (held log).size = e.listActiveIncidents.length := by
  rw [← (held_perm h).length_eq, length_map, OrderedMap.size]
end
end Held
end WeakNet.IncidentEngine
