import WeakNet.NetlinkCollector

/-! Which operations write the `degraded` flag of the committed snapshot: the three marks set it on
an authoritative snapshot, a commit clears it, and so does a notification batch that changes the
topology. A discarded notification is counted and leaves the snapshot as it is. -/

namespace WeakNet.NetlinkCollector
open Foundation.Runs TopologyState List UplinkPolicy

def batchChanges (s : TopologySnapshot) (messages : List ParsedMessage) : Bool :=
  messages.all isFact && match applyBatch s messages with
    | .ok (_, changed) => changed
    | .error _ => false

def batchRefused (s : TopologySnapshot) (messages : List ParsedMessage) : Bool :=
  !messages.all isFact || match applyBatch s messages with
    | .ok _ => false
    | .error _ => true

def changes (c : NetlinkCollector) : Op → Bool
  | .datagram sender bytes =>
    let parsed := RtnetlinkParser.parse bytes sender none c.netns
    !rejected parsed && batchChanges c.state (parsed.messages.filter isNotification)
  | .notificationForTests bytes =>
    let parsed := RtnetlinkParser.parse bytes 0 none c.netns
    !rejected parsed && batchChanges c.state parsed.messages
  | _ => false

def discards (c : NetlinkCollector) : Op → Bool
  | .truncated => true
  | .datagram sender bytes =>
    let parsed := RtnetlinkParser.parse bytes sender none c.netns
    rejected parsed || batchRefused c.state (parsed.messages.filter isNotification)
  | .notificationForTests bytes =>
    let parsed := RtnetlinkParser.parse bytes 0 none c.netns
    rejected parsed || batchRefused c.state parsed.messages
  | _ => false

/-- The reconciliation gathers a candidate: every dump completes and no notification races it. -/
def commits (c : NetlinkCollector) : Op → Bool
  | .reconcile scheduled source =>
    (gather (if scheduled then c.countResync else c) source).2.isSome
  | _ => false

theorem degrade_degrade (s : TopologySnapshot) : degrade (degrade s) = degrade s := by
  by_cases hauth : s.authoritative
  all_goals simp [degrade, hauth]

theorem degrade_degraded {s : TopologySnapshot} (h : s.authoritative ∨ s.degraded) :
    (degrade s).degraded := by
  rw [degrade]
  split_ifs with hauth
  · rfl
  · exact h.resolve_left hauth

theorem degrade_authoritative (s : TopologySnapshot) :
    (degrade s).authoritative = s.authoritative := by
  rw [degrade]
  split_ifs <;> rfl

abbrev accepted (c : NetlinkCollector) (candidate : TopologySnapshot) : TopologySnapshot :=
  { candidate with
    authoritative := true
    partly := false
    degraded := false
    generation := c.state.generation + 1 }

section Publish
variable {c c' c'' : NetlinkCollector} {clock : ℕ → RealtimeTime × MonotonicTime}
structure Publishes (c c' : NetlinkCollector) (events : List NetworkEvent) : Prop where
  published : c'.published = c.published ++ events
  netns : c'.netns = c.netns
  state : c'.state = c.state
  selected : c'.selected = c.selected
  committed : c'.committed = c.committed

theorem Publishes.refl (c : NetlinkCollector) : Publishes c c [] :=
  ⟨(append_nil _).symm, rfl, rfl, rfl, rfl⟩

theorem Publishes.trans {events events' : List NetworkEvent} (h : Publishes c c' events)
    (h' : Publishes c' c'' events') : Publishes c c'' (events ++ events') where
  published := by rw [h'.published, h.published, append_assoc]
  netns := h'.netns.trans h.netns
  state := h'.state.trans h.state
  selected := h'.selected.trans h.selected
  committed := h'.committed.trans h.committed

def isTopologyFact : NetworkEventPayload → Bool
  | .link _ | .address _ | .route _ => true
  | _ => false

def uplinkPayload (uplink : UplinkSelection) : NetworkEventPayload :=
  .uplink ⟨uplink.interface.elim [] InterfaceId.observedName, uplink.methodFlags,
    uplink.interface.isSome, uplink.evidence⟩

inductive Announces (netns : NetnsId) (after : TopologySnapshot) (event : NetworkEvent) : Prop
  | fact (hpayload : isTopologyFact event.payload = true)
  | uplink (hpayload : event.payload = uplinkPayload (UplinkPolicy.select after))
    (hvalidity : event.header.validity = (UplinkPolicy.select after).validity)
    (hnetns : event.header.netns = netns)

theorem emit_publishes (c : NetlinkCollector) (head : NetworkEventHeader)
    (payload : NetworkEventPayload) :
    ∃ events, Publishes c (emit c head payload).1 events ∧
      ∀ event ∈ events, (event.header, event.payload) = (head, payload) := by
  rw [emit]
  cases hmake : NetworkEvent.make head payload with
  | ok event =>
    exact ⟨[event], ⟨rfl, rfl, rfl, rfl, rfl⟩, forall_mem_singleton.mpr (NetworkEvent.make_ok hmake)⟩
  | error =>
    exact ⟨[], ⟨(append_nil _).symm, rfl, rfl, rfl, rfl⟩, forall_mem_nil _⟩

theorem messageEvent_fact {message : ParsedMessage}
    {drafted : NetworkEventHeader × NetworkEventPayload}
    (h : messageEvent clock c message = some drafted) : isTopologyFact drafted.2 := by
  rw [messageEvent.eq_def] at h
  split at h
  · cases h
    rfl
  · cases h
    rfl
  · cases h
    rfl
  · cases h

variable (clock)
theorem publishMessage_publishes (c : NetlinkCollector) (message : ParsedMessage) :
    ∃ events, Publishes c (publishMessage clock c message).1 events ∧
      ∀ event ∈ events, isTopologyFact event.payload := by
  rw [publishMessage]
  cases hdraft : messageEvent clock c message with
  | none =>
    exact ⟨[], ⟨(append_nil _).symm, rfl, rfl, rfl, rfl⟩, forall_mem_nil _⟩
  | some drafted =>
    obtain ⟨events, hpublishes, hall⟩ := emit_publishes c drafted.1 drafted.2
    refine ⟨events, ?_, fun event hevent => ?_⟩
    · dsimp only
      generalize emit .. = sent at *
      obtain ⟨_, thrown⟩ := sent
      cases thrown with
      | none =>
        exact { hpublishes with }
      | some => exact hpublishes
    · rw [(Prod.mk.inj (hall event hevent)).2]
      exact messageEvent_fact hdraft

theorem publishAll_publishes (messages : List ParsedMessage) (c : NetlinkCollector) :
    ∃ events, Publishes c (publishAll clock c messages).1 events ∧
      ∀ event ∈ events, isTopologyFact event.payload := by
  induction messages generalizing c with
  | nil => exact ⟨[], .refl c, forall_mem_nil _⟩
  | cons message _ ih =>
    obtain ⟨events, hpublishes, hall⟩ := publishMessage_publishes clock c message
    rw [publishAll]
    generalize publishMessage .. = sent at *
    obtain ⟨next, thrown⟩ := sent
    cases thrown with
    | some => exact ⟨events, hpublishes, hall⟩
    | none =>
      obtain ⟨rest, hrest, hall'⟩ := ih next
      exact ⟨events ++ rest, hpublishes.trans hrest, forall_mem_append.mpr ⟨hall, hall'⟩⟩

theorem publishChanges_publishes (c : NetlinkCollector) (before after : TopologySnapshot) :
    ∃ events, Publishes c (publishChanges clock c before after).1 events ∧
      ∀ event ∈ events, Announces c.netns after event := by
  obtain ⟨events, hpublishes, hall⟩ := publishAll_publishes clock
    (linkChanges before after ++ addressChanges before after ++ routeChanges before after) c
  rw [publishChanges]
  generalize publishAll clock c _ = sent at *
  obtain ⟨next, thrown⟩ := sent
  cases thrown with
  | some => exact ⟨events, hpublishes, fun event hevent => .fact (hall event hevent)⟩
  | none =>
    dsimp only
    split_ifs
    · rw [publishUplink]
      obtain ⟨last, hlast, hdrafted⟩ := emit_publishes next
        (header clock next .uplinkObservation (select after).interface (select after).validity
          (some ⟨.policyEvidence, (select after).evidence⟩))
        (uplinkPayload (select after))
      refine ⟨events ++ last, hpublishes.trans hlast, fun event hevent => ?_⟩
      rcases mem_append.mp hevent with hfirst | hsecond
      · exact .fact (hall event hfirst)
      · obtain ⟨hheader, hpayload⟩ := Prod.mk.inj (hdrafted event hsecond)
        refine .uplink hpayload (by rw [hheader]; rfl) ?_
        rw [hheader]
        exact hpublishes.netns
    · exact ⟨events, hpublishes, fun event hevent => .fact (hall event hevent)⟩

/-- The snapshot is installed, its changes are published and, unless an event is refused, it is
handed to the callback with its uplink. -/
structure Installed (c c' : NetlinkCollector) (after : TopologySnapshot)
    (events : List NetworkEvent) (handed : List (TopologySnapshot × UplinkSelection)) : Prop where
  state : c'.state = after
  netns : c'.netns = c.netns
  published : c'.published = c.published ++ events
  announces : ∀ event ∈ events, Announces c.netns after event
  committed : c'.committed = c.committed ++ handed
  pair : handed = [] ∨ handed = [(after, UplinkPolicy.select after)]
  selected : c'.selected = UplinkPolicy.select after

section
variable (c : NetlinkCollector)
theorem install_installed (after : TopologySnapshot) :
    ∃ events handed, Installed c (install clock c after).1 after events handed := by
  obtain ⟨events, hpublishes, hall⟩ := publishChanges_publishes clock
    { c with state := after, selected := select after } c.state after
  unfold install
  dsimp only
  generalize publishChanges .. = sent at *
  obtain ⟨next, thrown⟩ := sent
  cases thrown with
  | some =>
    refine ⟨events, [], ⟨hpublishes.state, hpublishes.netns, hpublishes.published, hall, ?_,
      .inl rfl, hpublishes.selected⟩⟩
    rw [append_nil]
    exact hpublishes.committed
  | none =>
    refine ⟨events, [(after, select after)], ⟨hpublishes.state, hpublishes.netns,
      hpublishes.published, hall, ?_, .inr rfl, hpublishes.selected⟩⟩
    rw [← show next.committed = c.committed from hpublishes.committed]

theorem install_state (after : TopologySnapshot) :
    (install clock c after).1.state = after := by
  obtain ⟨_, _, hinstalled⟩ := install_installed clock c after
  exact hinstalled.state

theorem commitReconciliation_eq (candidate : TopologySnapshot) :
    ∃ telemetry, commitReconciliation clock c candidate =
      ({ (install clock c (c.accepted candidate)).1 with telemetry := telemetry },
        (install clock c (c.accepted candidate)).2) := by
  unfold commitReconciliation accepted
  generalize install clock c _ = sent
  obtain ⟨_, thrown⟩ := sent
  cases thrown <;> exact ⟨_, rfl⟩

theorem commitReconciliation_state (candidate : TopologySnapshot) :
    (commitReconciliation clock c candidate).1.state = c.accepted candidate := by
  obtain ⟨_, heq⟩ := commitReconciliation_eq clock c candidate
  rw [heq]
  exact install_state ..
end
end Publish

section Batch
variable (clock : ℕ → RealtimeTime × MonotonicTime) {c : NetlinkCollector}
  {messages : List ParsedMessage}
theorem batchRefused_of_changes (s : TopologySnapshot) (messages : List ParsedMessage)
    (h : batchChanges s messages) : batchRefused s messages = false := by
  rw [batchChanges] at h
  rw [batchRefused]
  cases hresult : applyBatch s messages with
  | error => simp [hresult] at h
  | ok => simp_all

/-- What becomes of a batch, by the result of applying it to a copy of the snapshot. -/
inductive Batched (clock : ℕ → RealtimeTime × MonotonicTime) (c : NetlinkCollector)
    (messages : List ParsedMessage) : NetlinkCollector × Except String Bool → Prop
  | refused (telemetry : NetlinkCollectorTelemetry)
    (hrefused : batchRefused c.state messages = true) :
    Batched clock c messages ({ c with telemetry := telemetry }, .ok false)
  | unchanged (telemetry : NetlinkCollectorTelemetry) (after : TopologySnapshot)
    (hfacts : messages.all isFact = true)
    (hresult : applyBatch c.state messages = .ok (after, false)) :
    Batched clock c messages ({ c with telemetry := telemetry }, .ok true)
  | installed (telemetry : NetlinkCollectorTelemetry) (after : TopologySnapshot)
    (next : NetlinkCollector) (thrown : Option String) (hfacts : messages.all isFact = true)
    (hresult : applyBatch c.state messages = .ok (after, true))
    (hinstall : install clock c
      { after with degraded := false, generation := c.state.generation + 1 } = (next, thrown)) :
    Batched clock c messages
      ({ next with telemetry := telemetry }, thrown.elim (.ok true) .error)

theorem processNotificationBatch_batched (c : NetlinkCollector) (messages : List ParsedMessage) :
    Batched clock c messages (processNotificationBatch clock c messages) := by
  rw [processNotificationBatch]
  split_ifs with hnil hfacts
  · exact .unchanged c.telemetry c.state (by rw [hnil]; rfl) (by rw [hnil]; rfl)
  · cases hresult : applyBatch c.state messages with
    | error =>
      have hrefused : batchRefused c.state messages := by simp [batchRefused, hresult]
      dsimp only
      rw [refuseFailure]
      split_ifs <;> exact .refused _ hrefused
    | ok reached =>
      obtain ⟨after, changed⟩ := reached
      cases changed with
      | false => exact .unchanged _ after hfacts hresult
      | true =>
        cases hinstall : install clock c
            { after with degraded := false, generation := c.state.generation + 1 } with
        | mk next thrown =>
          have hout := fun telemetry =>
            Batched.installed telemetry after next thrown hfacts hresult hinstall
          dsimp only
          rw [hinstall]
          cases thrown with
          | none | some => exact hout _
  · exact .refused _ (by simp [batchRefused, hfacts])

theorem processNotificationBatch_changed (h : batchChanges c.state messages) :
    ∃ after, applyBatch c.state messages = .ok (after, true) ∧
      (processNotificationBatch clock c messages).1.state =
        { after with degraded := false, generation := c.state.generation + 1 } := by
  have hbatched := processNotificationBatch_batched clock c messages
  generalize processNotificationBatch .. = out at *
  cases hbatched with
  | refused _ hrefused => simp [batchRefused_of_changes c.state messages h] at hrefused
  | unchanged _ _ _ hresult => simp [batchChanges, hresult] at h
  | installed _ after _ _ _ hresult hinstall =>
    exact ⟨after, hresult, congrArg (·.1.state) hinstall ▸ install_state clock c _⟩

theorem processNotificationBatch_state_of_changes (h : batchChanges c.state messages) :
    (processNotificationBatch clock c messages).1.state.degraded = false ∧
      (processNotificationBatch clock c messages).1.state.authoritative = c.state.authoritative ∧
      (processNotificationBatch clock c messages).1.state.generation =
        c.state.generation + 1 := by
  obtain ⟨_, hresult, hstate⟩ := processNotificationBatch_changed clock h
  rw [hstate]
  exact ⟨rfl, (applyBatch_sameFlags hresult).2.1, rfl⟩

theorem processNotificationBatch_state_of_not_changes (h : batchChanges c.state messages = false) :
    (processNotificationBatch clock c messages).1.state = c.state := by
  have hbatched := processNotificationBatch_batched clock c messages
  generalize processNotificationBatch .. = out at *
  cases hbatched with
  | refused | unchanged => rfl
  | installed _ _ _ _ hfacts hresult =>
    simp [batchChanges, hfacts, hresult] at h
end Batch

section Dump
variable {c c' c'' : NetlinkCollector}
structure Marked (c c' : NetlinkCollector) : Prop where
  state : degrade c'.state = degrade c.state
  netns : c'.netns = c.netns
  published : c'.published = c.published
  committed : c'.committed = c.committed
  selected : c'.selected = c.selected

theorem Marked.refl (c : NetlinkCollector) : Marked c c := ⟨rfl, rfl, rfl, rfl, rfl⟩

theorem Marked.trans (h : Marked c c') (h' : Marked c' c'') : Marked c c'' where
  state := h'.state.trans h.state
  netns := h'.netns.trans h.netns
  published := h'.published.trans h.published
  committed := h'.committed.trans h.committed
  selected := h'.selected.trans h.selected

theorem Marked.unmarked {α : Type} {f : TopologySnapshot → α} (h : Marked c c')
    (hf : ∀ s, f (degrade s) = f s) : f c'.state = f c.state := by
  rw [← hf c'.state, h.state, hf]

theorem degrade_fields (s : TopologySnapshot) :
    (degrade s).generation = s.generation ∧ (degrade s).partly = s.partly := by
  rw [degrade]
  split_ifs <;> exact ⟨rfl, rfl⟩

theorem Marked.generation (h : Marked c c') : c'.state.generation = c.state.generation :=
  h.unmarked fun s => (degrade_fields s).1

theorem Marked.partly (h : Marked c c') : c'.state.partly = c.state.partly :=
  h.unmarked fun s => (degrade_fields s).2

theorem dumpMessage_marked (d : DumpState) (item : ParsedMessage) :
    (∀ next, dumpMessage d item = .ok next → Marked d.collector next.collector) ∧
      ∀ stopped, dumpMessage d item = .error stopped → Marked d.collector stopped.collector := by
  rw [dumpMessage]
  dsimp only
  refine ⟨fun next h => ?_, fun stopped h => ?_⟩
  all_goals
    split_ifs at h
    all_goals
      cases h
      exact ⟨rfl, rfl, rfl, rfl, rfl⟩

theorem foldlM_dumpMessage_marked (items : List ParsedMessage) (d : DumpState) :
    (∀ next, items.foldlM dumpMessage d = .ok next → Marked d.collector next.collector) ∧
      ∀ stopped, items.foldlM dumpMessage d = .error stopped →
        Marked d.collector stopped.collector :=
  foldlM_invariant (P := fun e => Marked d.collector e.collector)
    (Q := fun e => Marked d.collector e.collector)
    (fun s item next hs h => hs.trans ((dumpMessage_marked s item).1 next h))
    (fun s item stopped hs h => hs.trans ((dumpMessage_marked s item).2 stopped h)) (.refl _) items

theorem dumpLoop_marked (sequence : ℕ) (events : List DumpEvent) (d : DumpState) :
    Marked d.collector (dumpLoop sequence events d).1.collector := by
  induction events generalizing d with
  | nil => exact .refl _
  | cons event _ ih =>
    cases event with
    | idle =>
      rw [dumpLoop]
      exact ih d
    | failed => exact .refl _
    | overflow => exact ⟨degrade_degrade d.collector.state, rfl, rfl, rfl, rfl⟩
    | truncated => exact ⟨rfl, rfl, rfl, rfl, rfl⟩
    | datagram sender bytes =>
      have hfold := foldlM_dumpMessage_marked
        (RtnetlinkParser.parse bytes sender (some sequence) d.collector.netns).messages d
      rw [dumpLoop]
      dsimp only
      split_ifs with hrejected
      · exact ⟨rfl, rfl, rfl, rfl, rfl⟩
      · cases hpass : List.foldlM dumpMessage d
            (RtnetlinkParser.parse bytes sender (some sequence) d.collector.netns).messages with
        | error stopped => exact hfold.2 stopped hpass
        | ok next =>
          have hnext := hfold.1 next hpass
          dsimp only
          split_ifs with hcomplete
          · exact hnext
          · exact hnext.trans (ih next)

theorem dump_marked (replies : DumpReplies) (d : DumpState) :
    Marked d.collector (dump replies d).1.collector := by
  rw [dump]
  split_ifs with hsent
  · exact dumpLoop_marked replies.sequence replies.events { d with complete := false }
  · exact .refl _

theorem dumpAll_marked (replies : List DumpReplies) (d : DumpState) :
    Marked d.collector (dumpAll replies d).1.collector := by
  induction replies generalizing d with
  | nil => exact .refl _
  | cons first _ ih =>
    have hfirst := dump_marked first d
    rw [dumpAll]
    cases hdump : dump first d with
    | mk next done =>
      rw [hdump] at hfirst
      cases done with
      | true => exact hfirst.trans (ih next)
      | false => exact hfirst

theorem gather_marked (c : NetlinkCollector) (source : ReconcileSource) :
    Marked c (gather c source).1 ∧
      ((gather c source).2 = none → (gather c source).1.state = degrade c.state) := by
  cases source with
  | hook result =>
    cases result with
    | none => exact ⟨⟨degrade_degrade c.state, rfl, rfl, rfl, rfl⟩, fun _ => rfl⟩
    | some => exact ⟨.refl c, fun h => by cases h⟩
  | dumps links addresses routes4 routes6 =>
    have hall := dumpAll_marked [links, addresses, routes4, routes6]
      ⟨c, .blank c.netns, false, false⟩
    rw [gather]
    generalize dumpAll .. = result at *
    obtain ⟨d, done⟩ := result
    have hmark : ∀ u : NetlinkCollector, u.state = degrade d.collector.state →
        u.netns = d.collector.netns → u.published = d.collector.published →
        u.committed = d.collector.committed → u.selected = d.collector.selected →
        Marked c u ∧ ((u, (none : Option TopologySnapshot)).2 = none →
          u.state = degrade c.state) := by
      intro u hstate hnetns hpublished hcommitted hselected
      refine ⟨hall.trans ⟨?_, hnetns, hpublished, hcommitted, hselected⟩,
        fun _ => hstate.trans hall.state⟩
      rw [hstate, degrade_degrade]
    cases done with
    | false =>
      dsimp only
      split_ifs
      · exact hmark _ (degrade_degrade _) rfl rfl rfl rfl
      · exact hmark _ rfl rfl rfl rfl rfl
    | true =>
      dsimp only
      split_ifs
      · exact hmark _ rfl rfl rfl rfl rfl
      · exact ⟨hall, fun h => by cases h⟩

variable (clock : ℕ → RealtimeTime × MonotonicTime) {source : ReconcileSource}
theorem fullReconcile_none (h : (gather c source).2 = none) :
    fullReconcile clock c source = ((gather c source).1, .ok false) := by
  rw [fullReconcile]
  cases hgather : gather c source with
  | mk _ found =>
    rw [hgather] at h
    obtain rfl : found = none := h
    rfl

theorem fullReconcile_some {candidate : TopologySnapshot}
    (h : (gather c source).2 = some candidate) :
    (fullReconcile clock c source).1 =
        (commitReconciliation clock (gather c source).1 candidate).1 ∧
      (fullReconcile clock c source).2 ≠ .ok false := by
  rw [fullReconcile]
  cases hgather : gather c source with
  | mk gathered found =>
    rw [hgather] at h
    obtain rfl : found = some candidate := h
    dsimp only
    cases commitReconciliation clock gathered candidate with
    | mk _ text => cases text <;> exact ⟨rfl, by rintro ⟨⟩⟩
end Dump

section Step
variable (clock : ℕ → RealtimeTime × MonotonicTime) {c : NetlinkCollector} {op : Op}
theorem step_state_of_commits (h : commits c op) :
    (step clock c op).state.degraded = false ∧ (step clock c op).state.authoritative ∧
      (step clock c op).state.generation = c.state.generation + 1 := by
  cases op with
  | reconcile scheduled source =>
    obtain ⟨_, hcandidate⟩ := Option.isSome_iff_exists.mp h
    change (fullReconcile clock _ source).1.state.degraded = false ∧
      (fullReconcile clock _ source).1.state.authoritative ∧
      (fullReconcile clock _ source).1.state.generation = _
    rw [(fullReconcile_some clock hcandidate).1, commitReconciliation_state]
    refine ⟨rfl, rfl, congrArg (· + 1) ((gather_marked _ source).1.generation.trans ?_)⟩
    cases scheduled <;> rfl
  | overflow | truncated | datagram | notificationForTests => simp [commits] at h

theorem step_state_of_reconcile {scheduled : Bool} {source : ReconcileSource}
    (h : commits c (.reconcile scheduled source) = false) :
    (step clock c (.reconcile scheduled source)).state = degrade c.state := by
  have hnone : (gather (if scheduled then c.countResync else c) source).2 = none :=
    Option.isNone_iff_eq_none.mp (by simpa [commits] using h)
  have hcount : (if scheduled then c.countResync else c).state = c.state := by
    cases scheduled <;> rfl
  change (fullReconcile clock _ source).1.state = _
  rw [fullReconcile_none clock hnone, (gather_marked _ source).2 hnone, hcount]

theorem step_state_of_changes (h : changes c op) :
    (step clock c op).state.degraded = false ∧
      (step clock c op).state.authoritative = c.state.authoritative ∧
      (step clock c op).state.generation = c.state.generation + 1 := by
  cases op with
  | reconcile | overflow | truncated => simp [changes] at h
  | datagram | notificationForTests =>
    obtain ⟨hparsed, hbatch⟩ := Bool.and_eq_true_iff.mp h
    simp only [step, receiveDatagram, processNotificationForTests]
    rw [if_neg (by simpa using hparsed)]
    exact processNotificationBatch_state_of_changes clock hbatch

theorem step_state_of_kept (hcommit : commits c op = false) (hchange : changes c op = false) :
    (step clock c op).state = c.state ∨
      (discards c op = false ∧ (step clock c op).state = degrade c.state) := by
  cases op with
  | reconcile => exact .inr ⟨rfl, step_state_of_reconcile clock hcommit⟩
  | overflow => exact .inr ⟨rfl, rfl⟩
  | truncated => exact .inl rfl
  | datagram | notificationForTests =>
    refine .inl ?_
    simp only [step, receiveDatagram, processNotificationForTests]
    split_ifs with hrejected
    · rfl
    · apply processNotificationBatch_state_of_not_changes
      simpa [changes, hrejected] using hchange

theorem step_authoritative (h : c.state.authoritative) :
    (step clock c op).state.authoritative := by
  by_cases hcommit : commits c op
  · exact (step_state_of_commits clock hcommit).2.1
  · by_cases hchange : changes c op
    · exact (step_state_of_changes clock hchange).2.1.trans h
    · rcases step_state_of_kept clock (by simpa using hcommit) (by simpa using hchange) with
        hsame | hmarked
      · rw [hsame]
        exact h
      · rw [hmarked.2, degrade_authoritative]
        exact h

theorem step_degraded_iff (h : c.state.degraded) (hcommit : commits c op = false) :
    (step clock c op).state.degraded ↔ changes c op = false := by
  by_cases hchange : changes c op
  · simp [(step_state_of_changes clock hchange).1, hchange]
  · have hkept : (step clock c op).state.degraded := by
      rcases step_state_of_kept clock hcommit (by simpa using hchange) with hsame | hmarked
      · rw [hsame]
        exact h
      · rw [hmarked.2]
        exact degrade_degraded (.inr h)
    simpa [hkept] using hchange

theorem discards_of_changes (h : changes c op) : discards c op = false := by
  cases op with
  | reconcile | overflow => rfl
  | truncated => simp [changes] at h
  | datagram | notificationForTests =>
    obtain ⟨_, hbatch⟩ := Bool.and_eq_true_iff.mp h
    have hrefused := batchRefused_of_changes _ _ hbatch
    simp_all [discards]
end Step

inductive Mark where
  | reconciliationFailed | notificationRace | overflow
deriving DecidableEq

def Mark.apply : Mark → NetlinkCollector → NetlinkCollector
  | .reconciliationFailed => markReconciliationFailed
  | .notificationRace => markNotificationRace
  | .overflow => markOverflow

theorem Mark.apply_state (mark : Mark) (c : NetlinkCollector) :
    (mark.apply c).state = degrade c.state := by
  cases mark <;> rfl

variable (clock : ℕ → RealtimeTime × MonotonicTime)

/-- Between a mark and the next commit the snapshot stays degraded exactly as long as no
notification batch changes the topology. -/
theorem degraded_kept_iff {c : NetlinkCollector} (hauth : c.state.authoritative = true)
    (mark : Mark) {ops : List Op}
    (hops : AllSteps (step clock) (fun c op => commits c op = false) (mark.apply c) ops) :
    AllStates (step clock) (fun c => c.state.degraded = true) (mark.apply c) ops ↔
      AllSteps (step clock) (fun c op => changes c op = false) (mark.apply c) ops := by
  have hmarked : (mark.apply c).state.degraded := by
    rw [mark.apply_state]
    exact degrade_degraded (.inl hauth)
  have hstep : ∀ (c : NetlinkCollector) (op : Op), c.state.degraded →
      commits c op = false → ((step clock c op).state.degraded ↔ changes c op = false) :=
    fun _ _ hs hcommit => step_degraded_iff clock hs hcommit
  exact allStates_iff_allSteps hstep hmarked hops

/-- A collector with a note whether a notification was discarded since the last commit. -/
structure Watched where
  collector : NetlinkCollector
  discarded : Bool

def Watched.step (w : Watched) (op : Op) : Watched where
  collector := NetlinkCollector.step clock w.collector op
  discarded := !commits w.collector op && (w.discarded || discards w.collector op)

def Watched.Reported (w : Watched) : Prop :=
  w.collector.state.authoritative = true → w.collector.state.degraded = false →
    w.discarded = false

def Watched.Covered (w : Watched) (op : Op) : Prop :=
  (discards w.collector op = true → w.collector.state.degraded = true) ∧
    (changes w.collector op = true → w.discarded = false)

theorem Watched.step_reported_iff {w : Watched} {op : Op}
    (hauth : w.collector.state.authoritative) (h : w.Reported) :
    (w.step clock op).Reported ↔ w.Covered op := by
  have hnext : (w.step clock op).collector.state.authoritative :=
    step_authoritative clock hauth
  by_cases hcommit : commits w.collector op
  · have hnote : (w.step clock op).discarded = false := by simp [Watched.step, hcommit]
    have hquiet : discards w.collector op = false ∧ changes w.collector op = false := by
      cases op <;> simp_all [commits, discards, changes]
    simp [Watched.Reported, Watched.Covered, hnote, hquiet]
  · have hcommit' : commits w.collector op = false := by simpa using hcommit
    have hnote : (w.step clock op).discarded = (w.discarded || discards w.collector op) := by
      simp [Watched.step, hcommit']
    by_cases hchange : changes w.collector op
    · have hdegraded : (w.step clock op).collector.state.degraded = false :=
        (step_state_of_changes clock hchange).1
      have hdiscards := discards_of_changes hchange
      simp [Watched.Reported, Watched.Covered, hnext, hdegraded, hnote, hdiscards, hchange]
    · have hchange' : changes w.collector op = false := by simpa using hchange
      rcases step_state_of_kept clock hcommit' hchange' with hsame | hmarked
      · have hdegraded : (w.step clock op).collector.state.degraded =
            w.collector.state.degraded := congrArg TopologySnapshot.degraded hsame
        have hbefore := h hauth
        cases hflag : w.collector.state.degraded with
        | true => simp [Watched.Reported, Watched.Covered, hdegraded, hflag, hchange']
        | false =>
          have hnone := hbefore hflag
          simp [Watched.Reported, Watched.Covered, hnext, hdegraded, hflag, hnote, hnone, hchange']
      · have hdegraded : (w.step clock op).collector.state.degraded := by
          change (NetlinkCollector.step clock w.collector op).state.degraded
          rw [hmarked.2]
          exact degrade_degraded (.inl hauth)
        simp [Watched.Reported, Watched.Covered, hdegraded, hmarked.1, hchange']

/-- After a commit, no notification is lost silently exactly in the runs in which every discard
meets a degraded snapshot and no batch changes the topology while a discard is unreported. -/
theorem discards_reported_iff (c : NetlinkCollector) (candidate : TopologySnapshot)
    (ops : List Op) :
    let committed : Watched := ⟨(commitReconciliation clock c candidate).1, false⟩
    AllStates (Watched.step clock) Watched.Reported committed ops ↔
      AllSteps (Watched.step clock) Watched.Covered committed ops := by
  intro committed
  have hauth : committed.collector.state.authoritative := by
    change (commitReconciliation clock c candidate).1.state.authoritative
    rw [commitReconciliation_state]
  have hsteps : AllSteps (Watched.step clock)
      (fun w _ => w.collector.state.authoritative) committed ops :=
    allSteps_of_invariant (P := fun w : Watched => w.collector.state.authoritative)
      (fun _ _ hw => hw) (fun _ _ hw => step_authoritative clock hw) hauth ops
  exact allStates_iff_allSteps (fun _ _ hw hguard => Watched.step_reported_iff clock hguard hw)
    (fun _ _ => rfl) hsteps

section Sample
def sampleClock : ℕ → RealtimeTime × MonotonicTime := fun _ => (0, 0)

def sampleCollector : NetlinkCollector :=
  (commitReconciliation sampleClock (start ⟨4, 1⟩ Nat.one_ne_zero) (.blank ⟨4, 1⟩)).1

/-- A notification for an interface, up and without attributes: `RTM_NEWLINK` is 16 and
`RTM_DELLINK` is 17. -/
def linkDatagram (type ifindex : ℕ) : ByteString :=
  Foundation.Bytes.encode 4 32 ++ Foundation.Bytes.encode 2 type ++ List.replicate 10 0 ++
    List.replicate 4 0 ++ Foundation.Bytes.encode 4 ifindex ++ Foundation.Bytes.encode 4 1 ++
    List.replicate 4 0

theorem sampleCollector_state :
    sampleCollector.state = { TopologySnapshot.blank ⟨4, 1⟩ with
      authoritative := true
      generation := 1 } :=
  commitReconciliation_state sampleClock _ _

theorem degraded_kept_sample :
    AllStates (step sampleClock) (fun c => c.state.degraded = true)
      (Mark.overflow.apply sampleCollector)
      [.truncated, .datagram 0 (linkDatagram 17 2), .overflow] := by
  have hauth : sampleCollector.state.authoritative = true := by rw [sampleCollector_state]
  have hops : AllSteps (step sampleClock) (fun c op => commits c op = false)
      (Mark.overflow.apply sampleCollector)
      [.truncated, .datagram 0 (linkDatagram 17 2), .overflow] := ⟨rfl, rfl, rfl, trivial⟩
  exact (degraded_kept_iff sampleClock hauth .overflow hops).mpr
    ⟨rfl, by decide +kernel, rfl, trivial⟩

/-- A new interface reported after an overflow makes the snapshot look complete again. -/
theorem notification_clears_overflow :
    (Mark.overflow.apply sampleCollector).state.authoritative = true ∧
      (Mark.overflow.apply sampleCollector).state.degraded = true ∧
      (step sampleClock (Mark.overflow.apply sampleCollector)
        (.datagram 0 (linkDatagram 16 2))).state.degraded = false := by
  have hmarked : (Mark.overflow.apply sampleCollector).state =
      degrade sampleCollector.state := Mark.apply_state .overflow sampleCollector
  rw [hmarked, sampleCollector_state]
  refine ⟨rfl, rfl, ?_⟩
  apply (step_state_of_changes sampleClock _).1
  decide +kernel

theorem truncation_unreported :
    (Watched.step sampleClock ⟨sampleCollector, false⟩ .truncated).discarded = true ∧
      (step sampleClock sampleCollector .truncated).state.authoritative = true ∧
      (step sampleClock sampleCollector .truncated).state.degraded = false := by
  have hsame : (step sampleClock sampleCollector .truncated).state = sampleCollector.state := rfl
  rw [hsame, sampleCollector_state]
  exact ⟨rfl, rfl, rfl⟩
end Sample
end WeakNet.NetlinkCollector
