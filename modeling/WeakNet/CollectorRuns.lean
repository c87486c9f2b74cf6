import WeakNet.CollectorHealth

/-! A step of the collector installs a snapshot that is not degraded, publishes its changes with the
uplink selected from it and calls the callback, or it publishes nothing and at most marks the
snapshot it has. -/

namespace WeakNet.NetlinkCollector
open Foundation.Runs TopologyState

variable {c c' c'' : NetlinkCollector} {clock : ℕ → RealtimeTime × MonotonicTime}

inductive Stepped (c c' : NetlinkCollector) : Prop
  | kept (hmarked : Marked c c')
  | installed (after : TopologySnapshot) (events : List NetworkEvent)
    (handed : List (TopologySnapshot × UplinkSelection))
    (hinstalled : Installed c c' after events handed) (hdegraded : after.degraded = false)
    (hgeneration : after.generation = c.state.generation + 1)
    (hpartly : after.partly = true → c.state.partly = true)

theorem Installed.withTelemetry {after : TopologySnapshot} {events : List NetworkEvent}
    {handed : List (TopologySnapshot × UplinkSelection)} (h : Installed c c' after events handed)
    (telemetry : NetlinkCollectorTelemetry) :
    Installed c { c' with telemetry := telemetry } after events handed := { h with }

theorem Stepped.after_marked (hmarked : Marked c c') (h : Stepped c' c'') : Stepped c c'' := by
  cases h with
  | kept hlater => exact .kept (hmarked.trans hlater)
  | installed after events handed h hdegraded hgeneration hpartly =>
    refine .installed after events handed ⟨h.state, h.netns.trans hmarked.netns, ?_, ?_, ?_,
      h.pair, h.selected⟩ hdegraded ?_ fun hafter => hmarked.partly ▸ hpartly hafter
    · rw [h.published, hmarked.published]
    · rw [← hmarked.netns]
      exact h.announces
    · rw [h.committed, hmarked.committed]
    · rw [hgeneration, hmarked.generation]

variable (clock)

section
variable (c : NetlinkCollector)
theorem commitReconciliation_stepped (candidate : TopologySnapshot) :
    Stepped c (commitReconciliation clock c candidate).1 := by
  obtain ⟨telemetry, heq⟩ := commitReconciliation_eq clock c candidate
  obtain ⟨events, handed, hinstalled⟩ := install_installed clock c (c.accepted candidate)
  rw [heq]
  exact .installed _ events handed (hinstalled.withTelemetry telemetry) rfl rfl
    (absurd · Bool.false_ne_true)

theorem fullReconcile_stepped (source : ReconcileSource) :
    Stepped c (fullReconcile clock c source).1 := by
  have hmarked := (gather_marked c source).1
  cases hfound : (gather c source).2 with
  | none =>
    rw [fullReconcile_none clock hfound]
    exact .kept hmarked
  | some candidate =>
    rw [(fullReconcile_some clock hfound).1]
    exact .after_marked hmarked (commitReconciliation_stepped clock _ candidate)

theorem processNotificationBatch_stepped (messages : List ParsedMessage) :
    Stepped c (processNotificationBatch clock c messages).1 := by
  have hbatched := processNotificationBatch_batched clock c messages
  generalize processNotificationBatch .. = out at *
  cases hbatched with
  | refused | unchanged => exact .kept ⟨rfl, rfl, rfl, rfl, rfl⟩
  | installed _ after _ _ _ hresult hinstall =>
    obtain ⟨events, handed, hinstalled⟩ := install_installed clock c
      { after with degraded := false, generation := c.state.generation + 1 }
    rw [hinstall] at hinstalled
    exact .installed _ events handed (hinstalled.withTelemetry _) rfl rfl
      fun h => (applyBatch_sameFlags hresult).2.2.1 ▸ h

theorem step_stepped (op : Op) : Stepped c (step clock c op) := by
  cases op with
  | reconcile scheduled source =>
    cases scheduled with
    | false => exact fullReconcile_stepped ..
    | true =>
      have hcounted : Marked c c.countResync := ⟨rfl, rfl, rfl, rfl, rfl⟩
      exact .after_marked hcounted (fullReconcile_stepped clock c.countResync source)
  | overflow => exact .kept ⟨degrade_degrade c.state, rfl, rfl, rfl, rfl⟩
  | truncated => exact .kept ⟨rfl, rfl, rfl, rfl, rfl⟩
  | datagram | notificationForTests =>
    simp only [step, receiveDatagram, processNotificationForTests]
    split_ifs
    · exact .kept ⟨rfl, rfl, rfl, rfl, rfl⟩
    · exact processNotificationBatch_stepped ..
end

/-- What the callback has been given: snapshots of increasing generations up to the present one,
none of them degraded, each with the uplink selected from it. -/
structure HandedOver (c : NetlinkCollector) : Prop where
  ordered : c.committed.Pairwise fun p q => p.1.generation < q.1.generation
  each : ∀ p ∈ c.committed, p.1.generation ≤ c.state.generation ∧ p.1.degraded = false ∧
    p.2 = UplinkPolicy.select p.1

theorem HandedOver.step (h : HandedOver c) (op : Op) : HandedOver (step clock c op) := by
  cases step_stepped clock c op with
  | kept hkept =>
    constructor <;> rw [hkept.committed]
    · exact h.ordered
    · rw [hkept.generation]
      exact h.each
  | installed after _ handed hnew hdegraded hgeneration _ =>
    have hpair : handed.Pairwise (fun p q => p.1.generation < q.1.generation) ∧
        ∀ p ∈ handed, p = (after, UplinkPolicy.select after) := by
      rcases hnew.pair with rfl | rfl <;> simp
    constructor <;> rw [hnew.committed]
    · refine List.pairwise_append.mpr ⟨h.ordered, hpair.1, fun p hp q hq => ?_⟩
      rw [hpair.2 q hq, hgeneration]
      exact Nat.lt_succ_of_le (h.each p hp).1
    · rw [hnew.state]
      refine List.forall_mem_append.mpr ⟨fun p hp => ⟨?_, (h.each p hp).2⟩, fun p hp => ?_⟩
      · exact hgeneration ▸ (h.each p hp).1.trans (Nat.le_succ _)
      · rw [hpair.2 p hp]
        exact ⟨le_rfl, hdegraded, rfl⟩

/-- Whenever the callback is set, what it is given from then on comes in order. -/
theorem commits_ordered (c : NetlinkCollector) (ops : List Op) :
    HandedOver (run (NetlinkCollector.step clock) { c with committed := [] } ops) :=
  run_invariant (fun _ op h => h.step clock op) ⟨.nil, List.forall_mem_nil _⟩ ops
end WeakNet.NetlinkCollector
