import Mathlib.Data.Int.ConditionallyCompleteOrder
import WeakNet.Foundation.Telescope
import WeakNet.SocketTrackerRuns

/-! Seen from one socket, a commit compares its sample with the baseline and keeps the sample as the
next baseline. Over a run the intervals are those between consecutive committed samples; an identity
that has left the table never returns. -/

namespace WeakNet.SocketTracker
open Foundation Foundation.Runs TcpIntervalCalculator List TcpInfoRaw OrderedMap
open SocketLifecycleTable (Sound SameLive Reaches Retired)

variable {t t' : SocketTracker} {clock : Clock} {id : SocketId} {o : SocketObservation}

def Sampling.view (id : SocketId) (s : Sampling) :
    Option TcpInfoObservation × List TcpIntervalMetrics :=
  (s.baselines.find? id, s.intervals.filter fun m => m.id = id)

def viewStep (v : Option TcpInfoObservation × List TcpIntervalMetrics) (item : SocketObservation) :
    Option TcpInfoObservation × List TcpIntervalMetrics :=
  if item.tcpInfo.isNone then v
  else (some (tcpInfoOf item), v.2 ++ (v.1.elim [] fun previous =>
    (calculate previous (tcpInfoOf item)).metrics.toList))

theorem calculate_id {previous current : TcpInfoObservation} :
    ∀ m ∈ (calculate previous current).metrics.toList, m.id = current.id := by
  intro m hm
  obtain ⟨_, _, -, -, rfl⟩ := calculate_eq_some (Option.mem_toList.mp hm)
  rfl

theorem sampleSocket_view (id : SocketId) (s : Sampling) (item : SocketObservation) :
    (sampleSocket s item).view id =
      if item.id = id then viewStep (s.view id) item else s.view id := by
  rw [sampleSocket, viewStep]
  change (if item.tcpInfo.isNone then _ else _ : Sampling).view id = _
  by_cases hinfo : item.tcpInfo.isNone
  · rw [if_pos hinfo, if_pos hinfo, ite_self]
    rfl
  · have hcurrent : (tcpInfoOf item).id = item.id := rfl
    rw [if_neg hinfo, if_neg hinfo]
    simp only [hcurrent]
    by_cases hid : item.id = id
    · subst hid
      rw [if_pos rfl]
      cases hbase : s.baselines.find? item.id with
      | none => simp [Sampling.view, tcpInfoOf, hbase]
      | some previous =>
        have hall : (calculate previous (tcpInfoOf item)).metrics.toList.filter
            (fun m => m.id = item.id) = (calculate previous (tcpInfoOf item)).metrics.toList :=
          filter_eq_self.mpr fun m hm => decide_eq_true (calculate_id m hm)
        simp [Sampling.view, hbase, find?_insert, hall]
    · rw [if_neg hid]
      cases hbase : s.baselines.find? item.id with
      | none => simp [Sampling.view, hid]
      | some previous =>
        have hnone : (calculate previous (tcpInfoOf item)).metrics.toList.filter
            (fun m => m.id = id) = [] := by
          refine filter_eq_nil_iff.mpr fun m hm => ?_
          rw [calculate_id m hm]
          exact fun h => hid (of_decide_eq_true h)
        simp [Sampling.view, find?_insert, hnone, hid]

theorem sampleSockets_view (id : SocketId) (items : List SocketObservation) (s : Sampling) :
    (items.foldl sampleSocket s).view id =
      (items.filter fun o => o.id = id).foldl viewStep (s.view id) := by
  induction items generalizing s with
  | nil => rfl
  | cons item _ ih =>
    rw [foldl_cons, ih, sampleSocket_view]
    split_ifs with hid
    · rw [filter_cons_of_pos (by simp [hid]), foldl_cons]
    · rw [filter_cons_of_neg (by simp [hid])]

variable {table : SocketLifecycleTable} {last : Option SocketObservation}
theorem activeSockets_filter (hkeys : ∀ k o, table.active.find? k = some o → o.id = k)
    (id : SocketId) :
    ((activeSockets table).filter fun o => o.id = id) = (table.active.find? id).toList := by
  have hentries : (table.active.entries.filter fun e => e.2.id = id) =
      table.active.entries.filter fun e => e.1 = id := by
    refine filter_congr fun e he => ?_
    rw [hkeys e.1 e.2 (mem_entries.mp he)]
  rw [activeSockets, filter_map]
  change (table.active.entries.filter fun e => e.2.id = id).map Prod.snd = _
  rw [hentries, filter_key_eq_lookup table.active.sorted]
  change ((table.active.find? id).map (Prod.mk id)).toList.map Prod.snd = _
  cases table.active.find? id with
  | none | some => rfl

theorem find?_pruneBaselines {table : SocketLifecycleTable}
    (hkeys : ∀ k o, table.active.find? k = some o → o.id = k) (id : SocketId)
    (baselines : OrderedMap SocketId TcpInfoObservation) :
    (pruneBaselines baselines (activeSockets table)).find? id =
      if (table.active.find? id).any (fun o => o.tcpInfo.isSome) then baselines.find? id
      else none := by
  have hfind : ((activeSockets table).find? fun o => o.id == id) = table.active.find? id := by
    have hfilter : ((activeSockets table).filter fun o => o.id == id) =
        (table.active.find? id).toList := by
      rw [← activeSockets_filter hkeys id]
      exact filter_congr fun o _ => beq_eq_decide _ _
    rw [← List.head?_filter, hfilter]
    cases table.active.find? id with
    | none | some => rfl
  rw [pruneBaselines, OrderedMap.find?, OrderedMap.filter]
  exact (OrderedMap.lookup_filter_key
    (fun k => ((activeSockets table).find? fun o => o.id == k).any fun o => o.tcpInfo.isSome) id
    baselines.entries).trans (by rw [hfind])

theorem sampleAll_view (hkeys : ∀ k o, table.active.find? k = some o → o.id = k) (t : SocketTracker)
    (id : SocketId) :
    (table.active.find? id = none → (t.sampleAll (activeSockets table)).view id = (none, [])) ∧
    ∀ o, table.active.find? id = some o → o.tcpInfo ≠ none →
      (t.sampleAll (activeSockets table)).view id = (some (tcpInfoOf o),
        (t.tcpBaselines.find? id).elim [] fun previous =>
          (calculate previous (tcpInfoOf o)).metrics.toList) := by
  have hview : (t.sampleAll (activeSockets table)).view id =
      (table.active.find? id).toList.foldl viewStep
        ((pruneBaselines t.tcpBaselines (activeSockets table)).find? id, []) := by
    rw [sampleAll, sampleSockets_view, activeSockets_filter hkeys]
    rfl
  rw [hview, find?_pruneBaselines hkeys]
  constructor
  · intro hnone
    rw [hnone]
    rfl
  · intro o ho hinfo
    have hsome : o.tcpInfo.isSome := Option.isSome_iff_ne_none.mpr hinfo
    have hpresent : ¬o.tcpInfo.isNone := by simp [hinfo]
    rw [ho, Option.toList_some, foldl_cons, foldl_nil, Option.any_some, if_pos hsome,
      viewStep, if_neg hpresent]
    rfl

def intervalOf (id : SocketId) : NetworkEventPayload → Option TcpIntervalMetrics
  | .tcpInterval m => if m.id = id then some m else none
  | _ => none

def intervalsOf (id : SocketId) (events : List NetworkEvent) : List TcpIntervalMetrics :=
  events.filterMap fun event => intervalOf id event.payload

theorem intervalsOf_append (events events' : List NetworkEvent) :
    intervalsOf id (events ++ events') = intervalsOf id events ++ intervalsOf id events' :=
  filterMap_append

section
variable {α : Type} {draft : SocketTracker → α → NetworkEventHeader × NetworkEventPayload}
  {events : List NetworkEvent} {items : List α} (h : List.Forall₂ (Drafted draft) events items)
include h
theorem intervalsOf_drafted {g : α → Option TcpIntervalMetrics}
    (hdraft : ∀ s a, intervalOf id (draft s a).2 = g a) :
    intervalsOf id events = items.filterMap g := by
  induction h with
  | nil => rfl
  | @cons event a _ _ hfirst _ ih =>
    obtain ⟨s, hs⟩ := hfirst
    have hpayload : intervalOf id event.payload = g a := by
      rw [← hdraft s a, ← hs]
    rw [intervalsOf] at ih ⊢
    rw [filterMap_cons, filterMap_cons, hpayload, ih]

theorem intervalsOf_none (hdraft : ∀ s a, intervalOf id (draft s a).2 = none) :
    intervalsOf id events = [] := by
  rw [intervalsOf_drafted h hdraft, filterMap_none]
end

variable (id) in
theorem Published.intervals (h : Published clock t table t' none) :
    intervalsOf id t'.published = intervalsOf id t.published ++
        ((t.sampleAll (activeSockets table)).view id).2 ∧
      t'.tcpBaselines.find? id = ((t.sampleAll (activeSockets table)).view id).1 ∧
      t'.lifecycle = table ∧ t.reads ≤ t'.reads := by
  cases h with
  | done _ _ _ intervals hsockets hcontexts hinfos hintervals hmoved hbaselines =>
    refine ⟨?_, by rw [hbaselines]; rfl, hmoved.lifecycle, hmoved.reads⟩
    have hfilter : intervalsOf id intervals = (t.sampleAll (activeSockets table)).intervals.filter
        fun m => m.id = id := by
      have hone : ∀ (s : SocketTracker) (m : TcpIntervalMetrics),
          intervalOf id (intervalEvent clock s m).2 = Option.guard (fun m => m.id = id) m := by
        intro s m
        simp [intervalOf, intervalEvent, Option.guard]
      rw [intervalsOf_drafted hintervals hone, filterMap_eq_filter]
    rw [hmoved.published, intervalsOf_append, intervalsOf_append, intervalsOf_append,
      intervalsOf_append, intervalsOf_none hsockets (fun _ _ => rfl),
      intervalsOf_none hcontexts (fun _ _ => rfl), intervalsOf_none hinfos (fun _ _ => rfl), hfilter]
    rfl

theorem Published.no_intervals {text : String} (h : Published clock t table t' (some text)) :
    intervalsOf id t'.published = intervalsOf id t.published := by
  cases h with
  | threw _ _ _ _ _ _ _ hsockets hcontexts hmoved =>
    rw [hmoved.published, intervalsOf_append, intervalsOf_append,
      intervalsOf_none hsockets (fun _ _ => rfl), intervalsOf_none hcontexts (fun _ _ => rfl),
      append_nil, append_nil]

def committedSocket (clock : Clock) (id : SocketId) (t : SocketTracker) :
    Op → Option SocketObservation
  | .reconcile inet inet6 =>
    if t.threw = false ∧ (t.reconcile clock inet inet6).2 = .returned true then
      (t.reconcile clock inet inet6).1.lifecycle.active.find? id
    else none
  | _ => none

def committedSockets (clock : Clock) (id : SocketId) :
    SocketTracker → List Op → List SocketObservation
  | _, [] => []
  | t, op :: ops =>
    (committedSocket clock id t op).toList ++ committedSockets clock id (step clock t op) ops

variable {inet inet6 : DumpSource}
theorem committedSocket_of_ne (h : (t.reconcile clock inet inet6).2 ≠ .returned true) :
    committedSocket clock id t (.reconcile inet inet6) = none :=
  if_neg fun hboth => h hboth.2

theorem committedSocket_of_threw (h : t.threw) (op : Op) :
    committedSocket clock id t op = none := by
  cases op with
  | reconcile => exact if_neg fun hboth => by simp [h] at hboth
  | recomputeRouteContexts | setRouteAttributor => rfl

variable (id) in
theorem committedSocket_of_returned (hthrew : t.threw = false)
    (h : (t.reconcile clock inet inet6).2 = .returned true) :
    committedSocket clock id t (.reconcile inet inet6) =
      (step clock t (.reconcile inet inet6)).lifecycle.active.find? id := by
  rw [committedSocket, if_pos ⟨hthrew, h⟩, step, if_neg (Bool.eq_false_iff.mp hthrew)]
  generalize t.reconcile .. = result at *
  obtain ⟨_, outcome⟩ := result
  obtain rfl : outcome = .returned true := h
  rfl

inductive Phase (clock : Clock) (id : SocketId) (t : SocketTracker) :
    Option SocketObservation → Prop
  | unseen (hactive : t.lifecycle.active.find? id = none)
    (hbaseline : t.tcpBaselines.find? id = none) : Phase clock id t none
  | live (o : SocketObservation) (k : ℕ) (hactive : t.lifecycle.active.find? id = some o)
    (hbaseline : t.tcpBaselines.find? id = some (tcpInfoOf o)) (hid : o.id = id)
    (hread : k < t.reads) (htime : o.monotonicAt = (clock k).2) : Phase clock id t (some o)
  | ended (last : Option SocketObservation)
    (hended : t.threw = true ∨ Retired t.lifecycle id) : Phase clock id t last

theorem Phase.keep (h : Phase clock id t last) (hsound : Sound t.lifecycle)
    (hreach : Reaches t.lifecycle t'.lifecycle) (hlive : SameLive t.lifecycle t'.lifecycle)
    (hbaselines : t'.tcpBaselines = t.tcpBaselines) (hreads : t.reads ≤ t'.reads)
    (hthrew : t.threw → t'.threw) :
    Phase clock id t' last := by
  cases h with
  | unseen hactive hbaseline =>
    exact .unseen (by rw [hlive.active, hactive]) (by rw [hbaselines, hbaseline])
  | live o k hactive hbaseline hid hread htime =>
    exact .live o k (by rw [hlive.active, hactive]) (by rw [hbaselines, hbaseline]) hid
      (hread.trans_le hreads) htime
  | ended last hended =>
    refine .ended last (hended.imp hthrew fun hretired => ?_)
    obtain ⟨ops, hops⟩ := hreach
    rw [← hops]
    exact SocketLifecycleTable.retired_run hsound hretired ops

theorem committed_id (h : Sound t.lifecycle) (records : List SocketDiagRecord) :
    ∀ k o, (committedTable clock t records).active.find? k = some o → o.id = k := by
  intro k o ho
  obtain ⟨_, _, -, -, -, -, rfl⟩ := committed_record h ho
  rfl

theorem not_active_of_retired (h : Retired table id) : table.active.find? id = none :=
  Option.not_isSome_iff_eq_none.mp (Bool.eq_false_iff.mp h.notActive)

variable {records : List SocketDiagRecord}
theorem Phase.absent (h : Phase clock id t last) (hsound : Sound t.lifecycle)
    (hthrew : t.threw = false) (hreach : Reaches t.lifecycle (committedTable clock t records))
    (hnone : (committedTable clock t records).active.find? id = none)
    (hlifecycle : t'.lifecycle = committedTable clock t records)
    (hbaseline : t'.tcpBaselines.find? id = none) : Phase clock id t' last := by
  cases h with
  | unseen => exact .unseen (by rw [hlifecycle, hnone]) hbaseline
  | live _ _ hactive _ _ _ _ =>
    refine .ended _ (.inr ?_)
    obtain ⟨ops, hops⟩ := hreach
    have hcontains : t.lifecycle.active.contains id := by
      rw [OrderedMap.contains, hactive]
      rfl
    have hleft := SocketLifecycleTable.active_run hsound hcontains ops
    rw [hops, OrderedMap.contains, hnone] at hleft
    rw [hlifecycle]
    exact hleft.resolve_left Bool.false_ne_true
  | ended last hended =>
    refine .ended last (.inr ?_)
    obtain ⟨ops, hops⟩ := hreach
    rw [hlifecycle, ← hops]
    exact SocketLifecycleTable.retired_run hsound
      (hended.resolve_left (Bool.eq_false_iff.mp hthrew)) ops

inductive Progress (clock : Clock) (id : SocketId) (t t' : SocketTracker) :
    Option SocketObservation → Option SocketObservation → Prop
  | quiet (last : Option SocketObservation)
    (hsame : intervalsOf id t'.published = intervalsOf id t.published)
    (hphase : Phase clock id t' last) : Progress clock id t t' last none
  | first (o : SocketObservation)
    (hsame : intervalsOf id t'.published = intervalsOf id t.published)
    (hphase : Phase clock id t' (some o)) : Progress clock id t t' none (some o)
  | next (a o : SocketObservation)
    (hnew : intervalsOf id t'.published = intervalsOf id t.published ++
      (calculate (tcpInfoOf a) (tcpInfoOf o)).metrics.toList)
    (hid : a.id = o.id) (htime : a.monotonicAt < o.monotonicAt)
    (hphase : Phase clock id t' (some o)) : Progress clock id t t' (some a) (some o)

theorem commit_progress (hclock : StrictMono fun n => (clock n).2) (h : Tracking t)
    (hthrew : t.threw = false) (hphase : Phase clock id t last)
    {reading telemetry : SocketTrackerTelemetry}
    (hreach : Reaches t.lifecycle (committedTable clock t records))
    (hpublished : Published clock { t with reads := t.reads + records.length, telemetry := reading
      } (committedTable clock t records) t' none)
    (hinfo : ∀ o, (committedTable clock t records).active.find? id = some o → o.tcpInfo ≠ none) :
    Progress clock id t { t' with reads := t'.reads + 1, telemetry := telemetry } last
      ((committedTable clock t records).active.find? id) := by
  obtain ⟨hintervals, hbaseline, hlifecycle, hreads⟩ := hpublished.intervals id
  obtain ⟨habsent, hpresent⟩ := sampleAll_view (committed_id h.sound records)
    { t with reads := t.reads + records.length, telemetry := reading } id
  cases hfind : (committedTable clock t records).active.find? id with
  | none =>
    rw [habsent hfind] at hintervals hbaseline
    refine .quiet last (hintervals.trans (append_nil _)) ?_
    exact hphase.absent h.sound hthrew hreach hfind hlifecycle hbaseline
  | some o =>
    rw [hpresent o hfind (hinfo o hfind)] at hintervals hbaseline
    obtain ⟨n, _, hlow, hhigh, -, -, ho⟩ := committed_record h.sound hfind
    have hid : o.id = id := by rw [ho]; rfl
    have htime : o.monotonicAt = (clock n).2 := by rw [ho]; rfl
    have hread : n < t'.reads + 1 := (hhigh.trans_le hreads).trans (Nat.lt_succ_self _)
    have hlive : Phase clock id { t' with reads := t'.reads + 1, telemetry := telemetry }
        (some o) :=
      .live o n (by rw [hlifecycle, hfind]) hbaseline hid hread htime
    cases hphase with
    | unseen _ hunseen =>
      rw [show t.tcpBaselines.find? id = none from hunseen] at hintervals
      exact .first o (hintervals.trans (append_nil _)) hlive
    | live a _ _ hsample hsame hbefore hat =>
      rw [show t.tcpBaselines.find? id = some (tcpInfoOf a) from hsample] at hintervals
      refine .next a o hintervals (hsame.trans hid.symm) ?_ hlive
      rw [hat, htime]
      exact hclock (hbefore.trans_le hlow)
    | ended _ hended =>
      obtain ⟨ops, hops⟩ := hreach
      have hretired := SocketLifecycleTable.retired_run h.sound
        (hended.resolve_left (Bool.eq_false_iff.mp hthrew)) ops
      rw [hops] at hretired
      exact absurd (hfind.symm.trans (not_active_of_retired hretired)) nofun

theorem step_progress (hclock : StrictMono fun n => (clock n).2) (h : Tracking t)
    (hphase : Phase clock id t last) (op : Op)
    (hinfo : ∀ o, committedSocket clock id t op = some o → o.tcpInfo ≠ none) :
    Progress clock id t (step clock t op) last (committedSocket clock id t op) := by
  by_cases hthrew : t.threw
  · rw [step_of_threw hthrew, committedSocket_of_threw hthrew]
    exact .quiet last rfl hphase
  · have hidle : t.threw = false := Bool.eq_false_iff.mpr hthrew
    have hstepped := step_stepped clock h hidle op
    generalize hnext : step clock t op = next at hstepped
    cases hstepped with
    | failed _ _ _ _ _ _ hreturned hreach hlive hreads =>
      rw [committedSocket_of_ne hreturned]
      refine .quiet last rfl (hphase.keep h.sound hreach hlive rfl hreads ?_)
      exact fun ht => absurd ht hthrew
    | committed inet inet6 records _ _ _ hreturned _ hreach hpublished =>
      obtain ⟨-, -, hlifecycle, -⟩ := hpublished.intervals id
      have hcommitted : committedSocket clock id t (.reconcile inet inet6) =
          (committedTable clock t records).active.find? id := by
        rw [committedSocket_of_returned id hidle hreturned, hnext]
        exact congrArg (fun table => table.active.find? id) hlifecycle
      rw [hcommitted] at hinfo ⊢
      exact commit_progress hclock h hidle hphase hreach hpublished hinfo
    | interrupted _ _ _ _ _ _ hreturned _ _ hpublished =>
      rw [committedSocket_of_ne hreturned]
      exact .quiet last hpublished.no_intervals (.ended last (.inl rfl))
    | recomputed _ _ u _ events _ _ hdrafted hmoved hbaselines _ =>
      refine .quiet last ?_ (hphase.keep h.sound ?_ ?_ hbaselines hmoved.reads ?_)
      · have hpublished : u.published = t.published ++ events := hmoved.published
        rw [hpublished, intervalsOf_append, intervalsOf_none hdrafted (fun _ _ => rfl), append_nil]
      · rw [hmoved.lifecycle]
        exact .refl _
      · rw [hmoved.lifecycle]
        exact .refl _
      · exact fun ht => absurd ht hthrew
    | attributor =>
      refine .quiet last rfl (hphase.keep h.sound (.refl _) (.refl _) rfl le_rfl ?_)
      exact fun ht => absurd ht hthrew

def Retransmits (o : SocketObservation) : Prop :=
  o.tcpInfoMalformed = false ∧ (o.tcpInfo.bind TcpInfoRaw.totalRetrans).isSome = true

def Steady (a b : SocketObservation) : Prop :=
  ∀ counter ∈ counters, ∀ r ∈ a.tcpInfo.bind counter, ∀ r' ∈ b.tcpInfo.bind counter, r ≤ r'

structure Measured (a b : SocketObservation) (m : TcpIntervalMetrics) : Prop where
  steady : Steady a b
  metrics : (calculate (tcpInfoOf a) (tcpInfoOf b)).metrics = some m

theorem Retransmits.counted (h : Retransmits o) :
    ∃ raw r, o.tcpInfo = some raw ∧ Counted (tcpInfoOf o) raw r := by
  obtain ⟨hwell, hsome⟩ := h
  obtain ⟨r, hr⟩ := Option.isSome_iff_exists.mp hsome
  obtain ⟨raw, hraw, hcount⟩ := Option.bind_eq_some_iff.mp hr
  refine ⟨raw, r, hraw, hraw, ?_, hwell, hcount⟩
  change (if o.tcpInfo.isSome then Validity.valid else .unavailable) = .valid
  rw [hraw]
  rfl

variable {a b : SocketObservation}
theorem exists_measured (ha : Retransmits a) (hb : Retransmits b) (hsteady : Steady a b)
    (hid : a.id = b.id) (htime : a.monotonicAt < b.monotonicAt) :
    ∃ m, Measured a b m := by
  obtain ⟨before, r, hbefore, hprevious⟩ := ha.counted
  obtain ⟨after, r', hafter, hcurrent⟩ := hb.counted
  have hmono : r ≤ r' := by
    apply hsteady totalRetrans (by simp [counters])
    · rw [hbefore]
      exact hprevious.retrans
    · rw [hafter]
      exact hcurrent.retrans
  have hcalculate : calculate (tcpInfoOf a) (tcpInfoOf b) =
      ⟨some (intervalMetrics (tcpInfoOf a) (tcpInfoOf b) before after), none⟩ :=
    calculate_counted hid htime hprevious hcurrent hmono
  exact ⟨_, hsteady, congrArg TcpIntervalResult.metrics hcalculate⟩

theorem run_measured (hclock : StrictMono fun n => (clock n).2) (ops : List Op) (h : Tracking t)
    (hphase : Phase clock id t last)
    (hinfo : ∀ o ∈ last.toList ++ committedSockets clock id t ops, Retransmits o)
    (hsteady : (last.toList ++ committedSockets clock id t ops).IsChain Steady) :
    ∃ intervals, intervalsOf id (run (step clock) t ops).published =
        intervalsOf id t.published ++ intervals ∧
      Consecutive Measured (last.toList ++ committedSockets clock id t ops) intervals := by
  induction ops generalizing t last with
  | nil =>
    refine ⟨[], (append_nil _).symm, ?_⟩
    cases last with
    | none => exact .nil
    | some a => exact .single a
  | cons op ops ih =>
    rw [committedSockets] at hinfo hsteady ⊢
    rw [run_cons]
    have hprogress := step_progress hclock h hphase op fun o ho hnone => by
      have hmem := hinfo o (mem_append_right _ (mem_append_left _ (by rw [ho]; simp)))
      obtain ⟨_, _, hraw, -⟩ := hmem.counted
      exact absurd (hraw.symm.trans hnone) nofun
    generalize committedSocket .. = seen at *
    have hnext : Tracking (step clock t op) := h.step op
    cases hprogress with
    | quiet last hsame hphase' | first o hsame hphase' =>
      obtain ⟨intervals, hrest, hall⟩ := ih hnext hphase' hinfo hsteady
      exact ⟨intervals, hrest.trans (by rw [hsame]), hall⟩
    | next a o hnew hid htime hphase' =>
      have ho : o ∈ [a] ++ ([o] ++ committedSockets clock id (step clock t op) ops) := by simp
      obtain ⟨hab, hchain⟩ := isChain_cons_cons.mp hsteady
      obtain ⟨m, hm⟩ := exists_measured (hinfo a mem_cons_self) (hinfo o ho) hab hid htime
      obtain ⟨intervals, hrest, hall⟩ := ih hnext hphase'
        (fun b hb => hinfo b (mem_cons_of_mem a hb)) hchain
      refine ⟨m :: intervals, ?_, .cons hm hall⟩
      rw [hrest, hnew, hm.metrics, append_assoc]
      rfl

section Deltas
variable {m : TcpIntervalMetrics}
section
variable (h : Measured a b m)
include h
theorem Measured.raws : ∃ before after, a.tcpInfo = some before ∧
    b.tcpInfo = some after ∧ m = intervalMetrics (tcpInfoOf a) (tcpInfoOf b) before after :=
  calculate_eq_some h.metrics

theorem Measured.contiguous {c : SocketObservation} {m' : TcpIntervalMetrics}
    (h' : Measured b c m') :
    m.intervalEnd = m'.intervalStart := by
  obtain ⟨_, _, -, -, rfl⟩ := h.raws
  obtain ⟨_, _, -, -, rfl⟩ := h'.raws
  rfl

theorem Measured.delta (counter : TcpInfoRaw → Option ℕ) (hcounter : counter ∈ counters)
    (ha : (a.tcpInfo.bind counter).isSome) (hb : (b.tcpInfo.bind counter).isSome) :
    ∃ before after r d, a.tcpInfo = some before ∧ b.tcpInfo = some after ∧
      m = intervalMetrics (tcpInfoOf a) (tcpInfoOf b) before after ∧
      a.tcpInfo.bind counter = some r ∧ b.tcpInfo.bind counter = some (r + d) ∧
      counterDelta (counter before) (counter after) = some d := by
  obtain ⟨before, after, hbefore, hafter, hm⟩ := h.raws
  obtain ⟨r, hr⟩ := Option.isSome_iff_exists.mp ha
  obtain ⟨r', hr'⟩ := Option.isSome_iff_exists.mp hb
  have hle : r ≤ r' := h.steady counter hcounter r hr r' hr'
  refine ⟨before, after, r, r' - r, hbefore, hafter, hm, hr, ?_, ?_⟩
  · rw [hr', Nat.add_sub_cancel' hle]
  · rw [hbefore] at hr
    rw [hafter] at hr'
    rw [show counter before = some r from hr, show counter after = some r' from hr',
      counterDelta_eq_some hle]

theorem Measured.deltaTotalRetrans (ha : Retransmits a) (hb : Retransmits b) :
    ∃ r d, a.tcpInfo.bind totalRetrans = some r ∧ m.deltaTotalRetrans = some d ∧
      b.tcpInfo.bind totalRetrans = some (r + d) := by
  obtain ⟨_, _, r, d, -, -, rfl, hr, hr', hdelta⟩ :=
    h.delta totalRetrans (by simp [counters]) ha.2 hb.2
  exact ⟨r, d, hr, hdelta, hr'⟩

theorem Measured.deltaDataSegsOut (ha : Retransmits a) (hb : Retransmits b)
    (ha' : (a.tcpInfo.bind dataSegsOut).isSome)
    (hb' : (b.tcpInfo.bind dataSegsOut).isSome) :
    ∃ r d, a.tcpInfo.bind dataSegsOut = some r ∧ m.deltaDataSegsOut = some d ∧
      b.tcpInfo.bind dataSegsOut = some (r + d) := by
  obtain ⟨-, e, -, hretrans, -⟩ := h.deltaTotalRetrans ha hb
  obtain ⟨before, after, r, d, -, -, rfl, hr, hr', hdelta⟩ :=
    h.delta dataSegsOut (by simp [counters]) ha' hb'
  refine ⟨r, d, hr, ?_, hr'⟩
  -- The data segments are only compared when the retransmissions are.
  change (if (counterDelta before.totalRetrans after.totalRetrans).isSome then
    counterDelta before.dataSegsOut after.dataSegsOut else none) = some d
  rw [show counterDelta before.totalRetrans after.totalRetrans = some e from hretrans]
  exact hdelta
end
end Deltas

def Telescopes (counter : TcpInfoRaw → Option ℕ) (delta : TcpIntervalMetrics → Option ℕ)
    (samples : List SocketObservation) (intervals : List TcpIntervalMetrics) : Prop :=
  ∃ deltas : List ℕ, intervals.map delta = deltas.map some ∧
    ∀ first last r, samples.head? = some first → samples.getLast? = some last →
      first.tcpInfo.bind counter = some r → last.tcpInfo.bind counter = some (r + deltas.sum)

/-- The intervals of a socket are contiguous, one for each two consecutive committed samples,
and their differences telescope. -/
theorem intervals_telescope (config : SocketLifecycleConfig) (clock : Clock)
    (hclock : StrictMono fun n => (clock n).2) (netns : NetnsId) (hinode : netns.inode ≠ 0)
    (ops : List Op) (id : SocketId) :
    let samples := committedSockets clock id (create netns hinode config) ops
    let intervals := intervalsOf id (run (step clock) (create netns hinode config) ops).published
    (∀ o ∈ samples, Retransmits o) → samples.IsChain Steady →
      intervals.length = samples.length - 1 ∧
      (intervals.IsChain fun m m' => m.intervalEnd = m'.intervalStart) ∧
      Telescopes TcpInfoRaw.totalRetrans TcpIntervalMetrics.deltaTotalRetrans samples intervals ∧
      ((∀ o ∈ samples, (o.tcpInfo.bind TcpInfoRaw.dataSegsOut).isSome) →
        Telescopes TcpInfoRaw.dataSegsOut TcpIntervalMetrics.deltaDataSegsOut samples
          intervals) := by
  intro samples intervals hinfo hsteady
  have hphase : Phase clock id (create netns hinode config) none := .unseen rfl rfl
  obtain ⟨readings, hreadings, hall⟩ := run_measured hclock ops
    (tracking_create netns hinode config) hphase hinfo hsteady
  have hintervals : intervals = readings := hreadings
  rw [hintervals]
  refine ⟨hall.length, ?_, ?_, fun hdata => ?_⟩
  · apply hall.isChain
    intro a b c m m' hm hm'
    exact hm.contiguous hm'
  · apply hall.telescope
    intro a ha b hb m hm
    exact hm.deltaTotalRetrans (hinfo a ha) (hinfo b hb)
  · apply hall.telescope
    intro a ha b hb m hm
    exact hm.deltaDataSegsOut (hinfo a ha) (hinfo b hb) (hdata a ha) (hdata b hb)

def sampleInfo (retrans sent : ℕ) : TcpInfoRaw where
  rttUs := none
  rttvarUs := none
  sndCwnd := none
  sndSsthresh := none
  unacked := none
  reordering := none
  rcvSpace := none
  bytesAcked := none
  bytesReceived := none
  segsOut := none
  segsIn := none
  dataSegsOut := some sent
  dataSegsIn := none
  totalRetrans := some retrans
  lost := none
  retrans := none
  delivered := none
  deliveredCe := none

def sampleDump (retrans sent : ℕ) : DumpSource :=
  .hook (some [sampleRecord (some 1) 80 (some (sampleInfo retrans sent))])

def sampledOps : List Op :=
  [.reconcile (sampleDump 3 10) (.hook (some [])), .reconcile (.hook (some [])) (.hook none),
    .reconcile (sampleDump 5 40) (.hook (some []))]

def sampledStart : SocketTracker :=
  create ⟨4, 1⟩ Nat.one_ne_zero
    (SocketLifecycleTable.sampleConfig 3)

def sampledSockets : List SocketObservation :=
  committedSockets sampleClock ⟨⟨4, 1⟩, some 1, 1⟩ sampledStart sampledOps

theorem intervals_telescope_sample :
    sampledSockets.map (fun o => o.tcpInfo.bind TcpInfoRaw.totalRetrans) = [some 3, some 5] ∧
    Telescopes TcpInfoRaw.totalRetrans TcpIntervalMetrics.deltaTotalRetrans sampledSockets
      (intervalsOf ⟨⟨4, 1⟩, some 1, 1⟩
        (run (step sampleClock) sampledStart sampledOps).published) := by
  have hsteady : sampledSockets.IsChain Steady := by
    have hpair : ∃ a b, sampledSockets = [a, b] ∧ a.tcpInfo = some (sampleInfo 3 10) ∧
        b.tcpInfo = some (sampleInfo 5 40) := ⟨_, _, rfl, rfl, rfl⟩
    obtain ⟨a, b, heq, ha, hb⟩ := hpair
    rw [heq]
    refine .cons_cons ?_ (.singleton b)
    intro counter hcounter
    rw [ha, hb]
    simp only [counters, mem_cons, not_mem_nil, or_false] at hcounter
    rcases hcounter with rfl | rfl | rfl | rfl | rfl | rfl | rfl <;> simp [sampleInfo]
  have hinfo : ∀ o ∈ sampledSockets, Retransmits o := by
    have hall : sampledSockets.all (fun o => !o.tcpInfoMalformed &&
        (o.tcpInfo.bind totalRetrans).isSome) := by decide +kernel
    intro o ho
    have hone := all_eq_true.mp hall o ho
    simpa [Retransmits] using hone
  have hclock : StrictMono fun n => (sampleClock n).2 := fun a b hab => Int.ofNat_lt.mpr hab
  exact ⟨by decide +kernel, (intervals_telescope
    (SocketLifecycleTable.sampleConfig 3) sampleClock hclock ⟨4, 1⟩ (by decide)
    sampledOps ⟨⟨4, 1⟩, some 1, 1⟩ hinfo hsteady).2.2.1⟩
end WeakNet.SocketTracker
