import WeakNet.RootCauseGrounding

/-! The active hypotheses are the open items of a ledger whose log is everything emitted. Openings
are refused while the active map is full, and the entries about to be resolved still count. -/

namespace WeakNet
open Finset Function
namespace RootCauseEngine
open Foundation Foundation.OrderedMap Foundation.Runs Foundation.Lifecycle

/-- A hypothesis is numbered by its occurrence and must keep its id and its opening time. -/
def reading : Reading RootCauseHypothesisObservation (RootCauseHypothesisId × RealtimeTime) where
  tag h := h.id.occurrence
  isOpen h := h.state = .active
  core h := (h.id, h.openedAt)

def SaysNew (a b : RootCauseHypothesisObservation) : Prop :=
  b.state = .active → sameContent a b = false

structure Accounted (log : List RootCauseHypothesisObservation) (w : Working) : Prop where
  ledger : Ledger reading w.engine.active.find? w.engine.issued (log ++ w.emissions)
  linked : Linked reading SaysNew (log ++ w.emissions)
  counter : w.engine.nextOccurrence < 2 ^ 64

variable {next : RootCauseEngine} {event : NetworkEvent}

section Moves
variable {log : List RootCauseHypothesisObservation} {w : Working} {key : CandidateKey}
  {candidate current : RootCauseHypothesisObservation} {now : RealtimeTime}
theorem insert_find?_eq (m : CandidateMap) (key : CandidateKey)
    (h : RootCauseHypothesisObservation) :
    (m.insert key h).find? = update m.find? key (some h) := by
  funext k
  rw [find?_insert]
  by_cases hk : key = k
  · subst hk
    simp
  · rw [if_neg hk, update_of_ne (Ne.symm hk)]

theorem erase_find?_eq (m : CandidateMap) (key : CandidateKey) :
    (m.erase key).find? = update m.find? key none := by
  funext k
  rw [find?_erase]
  by_cases hk : k = key
  · subst hk
    simp
  · rw [if_neg hk, update_of_ne hk]

variable {engine : RootCauseEngine}
theorem issued_of_pos (hpos : engine.nextOccurrence ≠ 0) (hlt : engine.nextOccurrence < 2 ^ 64) :
    engine.issued + 1 = engine.nextOccurrence := by
  rw [issued]
  omega

theorem issued_succ {n : ℕ} (hlt : n < 2 ^ 64) (hnext : engine.nextOccurrence = (n + 1) % 2 ^ 64) :
    engine.issued = n := by
  rw [issued]
  omega

section
variable (h : Accounted log w)
include h
theorem Accounted.openHypothesis (hnone : w.engine.active.find? key = none)
    (hnext : w.engine.nextOccurrence ≠ 0) : Accounted log (w.openHypothesis key candidate) := by
  have hbefore := issued_of_pos hnext h.counter
  have hafter : (w.openHypothesis key candidate).engine.issued = w.engine.nextOccurrence :=
    issued_succ h.counter rfl
  have hemit : log ++ (w.openHypothesis key candidate).emissions =
      log ++ w.emissions ++ [w.opened key candidate] := (List.append_assoc ..).symm
  refine ⟨?_, ?_, Nat.mod_lt _ (by decide)⟩
  · have hledger := h.ledger.openItem (o := w.opened key candidate) hnone hbefore.symm rfl
    have hactive : (w.openHypothesis key candidate).engine.active.find? =
        update w.engine.active.find? key (some (w.opened key candidate)) :=
      insert_find?_eq _ _ _
    rw [hactive, hafter, hemit, ← hbefore]
    exact hledger
  · rw [hemit]
    apply h.linked.append_single
    -- the number is new, so nothing precedes the opening
    intro a ha
    have hmem := List.mem_filter.mp (List.mem_of_getLast? ha)
    have htag := h.ledger.tag_mem.mp (List.mem_map.mpr ⟨a, hmem.1, rfl⟩)
    have hsame : reading.tag a = w.engine.nextOccurrence := of_decide_eq_true hmem.2
    omega

section
variable (hcurrent : w.engine.active.find? key = some current)
include hcurrent
theorem Accounted.current_last :
    current.state = .active ∧
      lastOf reading (log ++ w.emissions) current.id.occurrence = some current := by
  obtain ⟨hopen, hlast⟩ := (h.ledger.current current).mp ⟨key, hcurrent⟩
  exact ⟨of_decide_eq_true hopen, hlast⟩

theorem Accounted.setActive (hnew : sameContent current candidate = false) :
    Accounted log (w.setActive key (Working.updated now current candidate)) := by
  have hemit : log ++ (w.setActive key (Working.updated now current candidate)).emissions =
      log ++ w.emissions ++ [Working.updated now current candidate] :=
    (List.append_assoc ..).symm
  refine ⟨?_, ?_, h.counter⟩
  · have htag : reading.tag (Working.updated now current candidate) = reading.tag current := rfl
    have hledger := h.ledger.continueItem hcurrent htag rfl
    have hactive : (w.setActive key (Working.updated now current candidate)).engine.active.find? =
        update w.engine.active.find? key
          (some (Working.updated now current candidate)) := insert_find?_eq _ _ _
    rw [hactive, hemit]
    exact hledger
  · rw [hemit]
    apply h.linked.append_single
    intro a ha _
    cases (h.current_last hcurrent).2.symm.trans ha
    have hsame : sameContent current (Working.updated now current candidate) =
        sameContent current candidate := sameContent_congr rfl
    rw [hsame]
    exact hnew

theorem Accounted.resolved :
    Accounted log (w.resolved now key current) := by
  have hemit : log ++ (w.resolved now key current).emissions =
      log ++ w.emissions ++ [Working.resolvedCopy current now] := (List.append_assoc ..).symm
  refine ⟨?_, ?_, h.counter⟩
  · have htag : reading.tag (Working.resolvedCopy current now) = reading.tag current := rfl
    have hledger := h.ledger.continueItem hcurrent htag rfl
    have hactive : (w.resolved now key current).engine.active.find? =
        update w.engine.active.find? key none := erase_find?_eq _ _
    rw [hactive, hemit]
    exact hledger
  · rw [hemit]
    apply h.linked.append_single
    intro a _ hstate
    cases hstate
end

theorem Accounted.turned {w' : Working} (hturn : Working.Turned now w key candidate (.ok w')) :
    Accounted log w' := by
  cases hturn with
  | kept | full => exact h
  | updated _ hcurrent hnew => exact h.setActive hcurrent hnew
  | opened hnone _ hnext => exact h.openHypothesis hnone hnext

theorem Accounted.reconciled {desired : CandidateMap} {w' : Working}
    (hall : Working.reconcileAll desired now w = .ok w') :
    Accounted log (w'.resolveAll desired now) := by
  have hfirst : Accounted log w' := (Working.reconcileAll_rule (P := Accounted log)
    (Q := fun _ => True) (fun w₁ k c w₂ _ hw hturn => hw.turned hturn)
    (fun _ _ _ _ _ _ _ => trivial) h).1 w' hall
  exact Working.resolveAll_rule (fun w₁ k c _ hcurrent hw => hw.resolved hcurrent) hfirst
end

theorem Accounted.of_absorb (h : Accounted log ⟨engine, []⟩)
    (habsorb : engine.absorb event = .changed next) :
    Accounted log ⟨next, []⟩ := by
  have hframe := absorb_frame habsorb
  have hissued : next.issued = engine.issued := by rw [issued, issued, hframe.nextOccurrence]
  refine ⟨?_, h.linked, ?_⟩
  · rw [hframe.active, hissued]
    exact h.ledger
  · rw [hframe.nextOccurrence]
    exact h.counter
end Moves

theorem history_accounted (policy : AcceptedRootCausePolicy) (deliveries : List Delivery)
    (hgoing : (history policy deliveries).exhausted = false) :
    Accounted (history policy deliveries).log ⟨(history policy deliveries).engine, []⟩ := by
  apply history_rule (P := fun g => Accounted g.log ⟨g.engine, []⟩) policy deliveries _ _ hgoing
  · have hissued : (initial policy).issued = 0 := by
      rw [issued]
      change (1 + (2 ^ 64 - 1)) % 2 ^ 64 = 0
      omega
    refine ⟨?_, Linked.nil, ?_⟩
    · rw [hissued]
      exact Ledger.nil
    · change 1 < 2 ^ 64
      omega
  · intro g delivery g' _ hg hstep
    cases hstep with
    | quiet => exact hg
    | threw _ _ habsorb => exact hg.of_absorb habsorb
    | reconciled _ _ habsorb _ hall =>
      have hdone := (hg.of_absorb habsorb).reconciled hall
      refine ⟨?_, ?_, hdone.counter⟩
      · simpa using hdone.ledger
      · simpa using hdone.linked

/-- Over every run of `process` the occurrence numbers in the order of their openings are 1, 2,
3, ..., the emissions of each number are active ones, each saying something new, followed by at
most one resolved one, with one id and opening time, and the active hypotheses are the last
emissions that are active. Only the exhaustion of all numbers ends a run. -/
theorem hypothesis_lifecycle (policy : AcceptedRootCausePolicy) (deliveries : List Delivery) :
    ((history policy deliveries).exhausted = false →
      firstTags reading (history policy deliveries).log =
        List.range' 1 (history policy deliveries).engine.issued ∧
      (∀ h ∈ (history policy deliveries).log,
        Episode reading (entriesOf reading (history policy deliveries).log h.id.occurrence) ∧
          (entriesOf reading (history policy deliveries).log h.id.occurrence).IsChain
            (fun a b => b.state = .active → sameContent a b = false)) ∧
      ∀ h, h ∈ (history policy deliveries).engine.listActiveHypotheses ↔
        ∃ n, lastOf reading (history policy deliveries).log n = some h ∧ h.state = .active) ∧
    ((history policy deliveries).exhausted = true →
      (history policy deliveries).engine.issued = 2 ^ 64 - 1) := by
  refine ⟨fun hgoing => ?_, issued_of_exhausted⟩
  have haccount := history_accounted policy deliveries hgoing
  obtain ⟨horder, hepisode, hcurrent⟩ := haccount.ledger.history
  have hlinked := haccount.linked
  simp only [List.append_nil] at horder hepisode hcurrent hlinked
  refine ⟨horder, fun h hh => ⟨hepisode h hh, hlinked _⟩, fun h => ?_⟩
  have hlisted : h ∈ (history policy deliveries).engine.listActiveHypotheses ↔
      ∃ k, (history policy deliveries).engine.active.find? k = some h := by
    simp [listActiveHypotheses, mem_entries]
  rw [hlisted, hcurrent]
  simp [reading]

/-- What the first loop has made of the active map, whose keys were `old` and for which `start`
numbers had been assigned, once the candidates `passed` have had their turns. -/
structure Admitted (policy : AcceptedRootCausePolicy) (old : Finset CandidateKey) (start : ℕ)
    (passed : List (CandidateKey × RootCauseHypothesisObservation)) (w : Working) : Prop where
  accepted : w.engine.policy = policy
  old_held : old ⊆ w.engine.active.keys
  held : w.engine.active.keys ⊆ old ∪ (passed.map Prod.fst).toFinset
  bounded : w.engine.active.keys.card ≤ policy.maxActiveHypotheses
  numbers : w.engine.issued + old.card = start + w.engine.active.keys.card
  counter : w.engine.nextOccurrence < 2 ^ 64
  -- a candidate is only passed over when the map is full, and then it stays full
  refused : (∀ e ∈ passed, e.1 ∈ w.engine.active.keys) ∨
    w.engine.active.keys.card = policy.maxActiveHypotheses

section Admission
variable {policy : AcceptedRootCausePolicy} {old : Finset CandidateKey} {start : ℕ}
  {passed : List (CandidateKey × RootCauseHypothesisObservation)} {w w' : Working}
  {key : CandidateKey} {candidate : RootCauseHypothesisObservation} {now : RealtimeTime}
  {desired : CandidateMap}

section
variable (h : Admitted policy old start passed w)
include h
theorem Admitted.same_keys (hpolicy : w'.engine.policy = w.engine.policy)
    (hkeys : w'.engine.active.keys = w.engine.active.keys)
    (hnext : w'.engine.nextOccurrence = w.engine.nextOccurrence)
    (hkey : key ∈ w.engine.active.keys ∨ w.engine.active.keys.card = policy.maxActiveHypotheses) :
    Admitted policy old start (passed ++ [(key, candidate)]) w' := by
  have hissued : w'.engine.issued = w.engine.issued := by rw [issued, issued, hnext]
  refine ⟨hpolicy.trans h.accepted, hkeys ▸ h.old_held, fun k hk => ?_, hkeys ▸ h.bounded, ?_,
    hnext ▸ h.counter, ?_⟩
  · rw [hkeys] at hk
    rcases mem_union.mp (h.held hk) with hold | hpassed
    · exact mem_union_left _ hold
    · simp only [List.map_append, List.toFinset_append, mem_union]
      exact .inr (.inl hpassed)
  · rw [hissued, hkeys]
    exact h.numbers
  · rw [hkeys]
    rcases h.refused with hall | hfull
    · rcases hkey with hheld | hfull
      · left
        exact List.forall_mem_append.mpr ⟨hall, List.forall_mem_singleton.mpr hheld⟩
      · exact .inr hfull
    · exact .inr hfull

theorem Admitted.openHypothesis (hnone : w.engine.active.find? key = none)
    (hroom : w.engine.active.size < w.engine.policy.maxActiveHypotheses)
    (hnext : w.engine.nextOccurrence ≠ 0) :
    Admitted policy old start (passed ++ [(key, candidate)]) (w.openHypothesis key candidate) := by
  have hkeys : (w.openHypothesis key candidate).engine.active.keys =
      Insert.insert key w.engine.active.keys := keys_insert _ _ _
  have hnew : key ∉ w.engine.active.keys := notMem_keys hnone
  have hcard : (w.openHypothesis key candidate).engine.active.keys.card =
      w.engine.active.keys.card + 1 := by rw [hkeys, card_insert_of_notMem hnew]
  have hbefore := issued_of_pos hnext h.counter
  have hafter : (w.openHypothesis key candidate).engine.issued = w.engine.nextOccurrence :=
    issued_succ h.counter rfl
  rw [h.accepted, ← card_keys] at hroom
  refine ⟨h.accepted, ?_, fun k hk => ?_, ?_, ?_, Nat.mod_lt _ (by decide), ?_⟩
  · rw [hkeys]
    exact h.old_held.trans (subset_insert _ _)
  · rw [hkeys] at hk
    simp only [List.map_append, List.toFinset_append, mem_union]
    rcases mem_insert.mp hk with rfl | hk
    · simp
    · exact (mem_union.mp (h.held hk)).imp_right .inl
  · omega
  · have hnumbers := h.numbers
    omega
  · left
    intro e he
    rw [hkeys]
    rcases List.mem_append.mp he with he | he
    · rcases h.refused with hall | hfull
      · exact mem_insert_of_mem (hall e he)
      · omega
    · rw [List.mem_singleton.mp he]
      exact mem_insert_self _ _

theorem Admitted.turned (hturn : Working.Turned now w key candidate (.ok w')) :
    Admitted policy old start (passed ++ [(key, candidate)]) w' := by
  cases hturn with
  | kept _ hcurrent =>
    exact h.same_keys rfl rfl rfl (.inl (mem_keys_of_find? hcurrent))
  | updated _ hcurrent =>
    have hheld : key ∈ w.engine.active.keys := mem_keys_of_find? hcurrent
    refine h.same_keys rfl ?_ rfl (.inl hheld)
    exact (keys_insert ..).trans (insert_eq_of_mem hheld)
  | full _ hfull =>
    refine h.same_keys rfl rfl rfl (.inr ?_)
    rw [h.accepted, ← card_keys] at hfull
    exact le_antisymm h.bounded hfull
  | opened hnone hroom hnext => exact h.openHypothesis hnone hroom hnext
end

theorem card_old_union (D : Finset CandidateKey) : (old ∪ D).card = old.card + (D \ old).card := by
  rw [← union_sdiff_self_eq_union, card_union_of_disjoint disjoint_sdiff]

theorem Admitted.exhausted (h : Admitted policy old start passed w)
    (hpassed : (passed.map Prod.fst).toFinset ⊆ desired.keys) (hkey : key ∈ desired.keys)
    (hturn : Working.Turned now w key candidate (.error w')) :
    key ∉ w'.engine.active.keys ∧ 2 ^ 64 - 1 < start + (desired.keys \ old).card := by
  cases hturn with
  | exhausted hnone _ hzero =>
    have hnot : key ∉ w.engine.active.keys := notMem_keys hnone
    refine ⟨hnot, ?_⟩
    have hissued : w.engine.issued = 2 ^ 64 - 1 := by
      rw [issued, hzero]
      omega
    have hsub : Insert.insert key w.engine.active.keys ⊆ old ∪ desired.keys := by
      intro k hk
      rcases mem_insert.mp hk with rfl | hk
      · exact mem_union_right _ hkey
      · exact union_subset_union_right hpassed (h.held hk)
    have hcard := card_le_card hsub
    rw [card_insert_of_notMem hnot, card_old_union] at hcard
    have hnumbers := h.numbers
    omega

theorem Admitted.complete_iff (h : Admitted policy old start desired.entries w) :
    desired.keys ⊆ w.engine.active.keys ↔ (old ∪ desired.keys).card ≤ policy.maxActiveHypotheses ∧
        start + (desired.keys \ old).card ≤ 2 ^ 64 - 1 := by
  have hheld : w.engine.active.keys ⊆ old ∪ desired.keys := h.held
  have hnumbers := h.numbers
  have hissued : w.engine.issued < 2 ^ 64 := Nat.mod_lt _ (by decide)
  refine ⟨fun hall => ?_, fun ⟨hroom, _⟩ => ?_⟩
  · have hkeys : w.engine.active.keys = old ∪ desired.keys :=
      hheld.antisymm (union_subset h.old_held hall)
    have hbounded := h.bounded
    rw [hkeys] at hnumbers hbounded
    refine ⟨hbounded, ?_⟩
    rw [card_old_union] at hnumbers
    omega
  · rcases h.refused with hall | hfull
    · intro k hk
      obtain ⟨c, hc⟩ := contains_iff.mp (mem_keys.mp hk)
      exact hall (k, c) (mem_entries.mpr hc)
    · have hkeys := eq_of_subset_of_card_le hheld (by omega)
      rw [hkeys]
      exact subset_union_right

theorem keys_resolveAll :
    (w.resolveAll desired now).engine.active.keys = w.engine.active.keys ∩ desired.keys := by
  ext k
  rw [mem_inter, mem_keys, mem_keys, mem_keys, contains, Working.resolveAll_find?]
  by_cases hwanted : desired.contains k
  · rw [if_pos hwanted]
    exact (and_iff_left hwanted).symm
  · simp [hwanted]

structure Bounded (policy : AcceptedRootCausePolicy) (engine : RootCauseEngine) : Prop where
  accepted : engine.policy = policy
  active : engine.active.keys.card ≤ policy.maxActiveHypotheses
  counter : engine.nextOccurrence < 2 ^ 64

variable {engine : RootCauseEngine}

section
variable (h : Bounded policy engine)
include h
theorem Bounded.of_absorb (habsorb : engine.absorb event = .changed next) :
    Bounded policy next := by
  have hframe := absorb_frame habsorb
  refine ⟨hframe.policy.trans h.accepted, ?_, ?_⟩
  · rw [hframe.active]
    exact h.active
  · rw [hframe.nextOccurrence]
    exact h.counter

theorem Bounded.admitted : Admitted policy engine.active.keys engine.issued [] ⟨engine, []⟩ :=
  ⟨h.accepted, subset_rfl, subset_union_left, h.active, rfl, h.counter,
    .inl (List.forall_mem_nil _)⟩

theorem Bounded.reconcileAll (desired : CandidateMap) (now : RealtimeTime) :
    (∀ w, Working.reconcileAll desired now ⟨engine, []⟩ = .ok w →
      Admitted policy engine.active.keys engine.issued desired.entries w) ∧
    ∀ w, Working.reconcileAll desired now ⟨engine, []⟩ = .error w → Bounded policy w.engine ∧
      (∃ key ∈ desired.keys, key ∉ w.engine.active.keys) ∧
      2 ^ 64 - 1 < engine.issued + (desired.keys \ engine.active.keys).card := by
  have hloop := Working.reconcileAll_progress now desired ⟨engine, []⟩
    (P := fun passed w => (passed.map Prod.fst).toFinset ⊆ desired.keys ∧
      Admitted policy engine.active.keys engine.issued passed w)
    (Q := fun w => Bounded policy w.engine ∧ (∃ key ∈ desired.keys, key ∉ w.engine.active.keys) ∧
      2 ^ 64 - 1 < engine.issued + (desired.keys \ engine.active.keys).card)
    ?_ ?_ ⟨by simp, h.admitted⟩
  · exact ⟨fun w hw => (hloop.1 w hw).2, hloop.2⟩
  · intro passed key candidate w w' _ hkey hpassed hturn
    refine ⟨?_, hpassed.2.turned hturn⟩
    simp only [List.map_append, List.toFinset_append]
    apply union_subset hpassed.1
    intro k hk
    rw [List.mem_singleton.mp (List.mem_toFinset.mp hk)]
    exact mem_keys_of_find? hkey
  · intro passed key candidate w w' _ hkey hpassed hturn
    have hheld := mem_keys_of_find? hkey
    obtain ⟨hnot, hnumbers⟩ := hpassed.2.exhausted hpassed.1 hheld hturn
    refine ⟨?_, ⟨key, hheld, hnot⟩, hnumbers⟩
    cases hturn with
    | exhausted =>
      exact ⟨hpassed.2.accepted, hpassed.2.bounded, hpassed.2.counter⟩

theorem Bounded.step (delivery : Delivery) :
    Bounded policy (engine.step delivery) := by
  rw [RootCauseEngine.step, process]
  cases habsorb : engine.absorb delivery.event with
  | ignored | unchanged => exact h
  | changed next =>
    have hnext := h.of_absorb habsorb
    simp only [reconcileLocked]
    cases hbuilt : next.buildCandidatesLocked delivery.clock with
    | error => exact hnext
    | ok desired =>
      simp only
      obtain ⟨hok, herror⟩ := hnext.reconcileAll desired delivery.event.header.observedAt
      cases hall : Working.reconcileAll desired delivery.event.header.observedAt ⟨next, []⟩ with
      | error w => exact (herror w hall).1
      | ok w =>
        have hw := hok w hall
        have hcaches := Working.resolveAll_caches delivery.event.header.observedAt desired w
        refine ⟨hcaches.policy.symm.trans hw.accepted, ?_, ?_⟩
        · rw [keys_resolveAll]
          exact (card_le_card inter_subset_left).trans hw.bounded
        · rw [Working.resolveAll_nextOccurrence]
          exact hw.counter
end

theorem Reachable.bounded (h : Reachable policy engine) :
    Bounded policy engine := by
  obtain ⟨_, rfl⟩ := h
  apply run_invariant (fun s a hs => hs.step a)
  refine ⟨rfl, Nat.zero_le _, ?_⟩
  change 1 < 2 ^ 64
  omega

/-- A reconciliation leaves exactly the hypotheses that have a candidate if and only if there is
room for the old and the new ones together, and a number for each new one. -/
theorem reconciliation_complete_iff {engine next : RootCauseEngine} {delivery : Delivery}
    (hreach : Reachable policy engine) (habsorb : engine.absorb delivery.event = .changed next)
    (hbuilt : next.buildCandidatesLocked delivery.clock = .ok desired) :
    (engine.step delivery).active.keys = desired.keys ↔
      (engine.active.keys ∪ desired.keys).card ≤ policy.maxActiveHypotheses ∧
        engine.issued + (desired.keys \ engine.active.keys).card ≤ 2 ^ 64 - 1 := by
  have hframe := absorb_frame habsorb
  have hissued : next.issued = engine.issued := by rw [issued, issued, hframe.nextOccurrence]
  obtain ⟨hok, herror⟩ := (hreach.bounded.of_absorb habsorb).reconcileAll desired
    delivery.event.header.observedAt
  rw [hframe.active, hissued] at hok herror
  rw [RootCauseEngine.step, process, habsorb]
  simp only [reconcileLocked, hbuilt]
  cases hall : Working.reconcileAll desired delivery.event.header.observedAt ⟨next, []⟩ with
  | ok w =>
    rw [keys_resolveAll, inter_eq_right]
    exact (hok w hall).complete_iff
  | error w =>
    obtain ⟨-, ⟨_, hkey, hnot⟩, _⟩ := herror w hall
    refine ⟨fun hkeys => ?_, fun hroom => ?_⟩
    · rw [hkeys] at hnot
      exact absurd hkey hnot
    · omega
end Admission

/-- The active hypotheses stay within the policy, and each is the one found under its id. -/
theorem listed_hypotheses_found (policy : AcceptedRootCausePolicy) (deliveries : List Delivery) :
    (run step (initial policy) deliveries).listActiveHypotheses.length ≤
      policy.maxActiveHypotheses ∧
    let g := history policy deliveries
    g.exhausted ∨
      ∀ h ∈ g.engine.listActiveHypotheses, g.engine.getHypothesis h.id = some h := by
  refine ⟨?_, or_iff_not_imp_left.mpr fun hgoing h hh => ?_⟩
  · have hbounded : Bounded policy _ := Reachable.bounded ⟨deliveries, rfl⟩
    rw [listActiveHypotheses, List.length_map]
    exact (card_keys _).symm.trans_le hbounded.active
  · have hledger := (history_accounted policy deliveries (Bool.eq_false_of_not_eq_true hgoing)).ledger
    rw [getHypothesis]
    cases hfind : List.find? _ (listActiveHypotheses _) with
    | none => exact absurd (beq_self_eq_true _) (List.find?_eq_none.mp hfind h hh)
    | some found =>
      have hid : found.id = h.id := by simpa using List.find?_some hfind
      obtain ⟨⟨k, _⟩, hk, rfl⟩ := List.mem_map.mp hh
      obtain ⟨⟨k', _⟩, hk', rfl⟩ := List.mem_map.mp (List.mem_of_find?_eq_some hfind)
      rw [mem_entries] at hk hk'
      -- one occurrence number stands under one key
      obtain rfl := hledger.distinct k' k _ _ hk' hk (congrArg (·.occurrence) hid)
      exact hk'.symm.trans hk

def sampleRouteContext (selected : InterfaceId) : SocketRouteContextObservation where
  socketId := sampleSocket 1
  netns := ⟨4, 1⟩
  destination := ⟨2, .zero, 443⟩
  route := none
  possibleInterfaces := []
  selectedInterface := some selected
  uplinkRelationship := .unknown
  diagIfindex := none
  attributionStatus := .available
  reasons := ∅
  topologyGeneration := 1
  topologyAuthoritative := true

def sampleWifi (linkState : WifiLinkState) (capability : WifiCapability) (signal : Option ℤ)
    (bitrate : Option ℕ) : WifiObservation where
  netns := ⟨4, 1⟩
  interface := some ⟨3, []⟩
  interfaceGeneration := 1
  linkState := linkState
  capability := capability
  nl80211Iftype := none
  bssid := none
  ssid := none
  frequencyMhz := none
  signalDbm := signal
  signalAvgDbm := none
  txBitrateKbps := bitrate
  rxBitrateKbps := none
  txRetries := none
  txFailed := none
  rxPackets := none
  txPackets := none
  rxBytes := none
  txBytes := none
  observedAt := 0
  monotonicAt := 0
  source := .wifiCollector
  validity := .valid
  status := ""

def incidentArrives : Delivery :=
  ⟨⟨sampleHeader .incidentObservation .incidentEngine, .incident (samplePathIncident 1 1),
    by decide⟩, fun _ _ => 0⟩

def associationLost : List Delivery :=
  [incidentArrives,
    ⟨⟨{ sampleHeader .wifiObservation .wifiCollector with interface := some ⟨3, []⟩ },
      .wifi (sampleWifi .notAssociated .notAssociated none none), by decide⟩, fun _ _ => 0⟩]

def routeArrives : Delivery :=
  ⟨⟨sampleHeader .socketRouteObservation .socketTracker,
    .socketRoute (sampleRouteContext ⟨3, []⟩), by decide⟩, fun _ _ => 0⟩

def twoHypotheses : AcceptedRootCausePolicy :=
  ⟨{ RootCausePolicy.standard with maxActiveHypotheses := 2 }, by decide⟩

theorem reconciliation_complete_sample : ∃ next desired,
    (run step (initial .standard) associationLost).absorb routeArrives.event = .changed next ∧
      next.buildCandidatesLocked routeArrives.clock = .ok desired ∧ desired.size = 2 ∧
      ((run step (initial .standard) associationLost).step routeArrives).active.keys =
        desired.keys := by
  have hmoment : (moment (run step (initial .standard) associationLost) routeArrives).any (fun μ =>
      decide (μ.desired.size = 2) && decide
        (((run step (initial .standard) associationLost).active.keys ∪ μ.desired.keys).card ≤ 1024 ∧
          (run step (initial .standard) associationLost).issued +
            (μ.desired.keys \ (run step (initial .standard) associationLost).active.keys).card ≤
              2 ^ 64 - 1)) := by
    decide +kernel
  obtain ⟨μ, hμ, hroom⟩ := (Option.any_eq_true _ _).mp hmoment
  obtain ⟨hsize, hroom⟩ := (Bool.and_eq_true _ _).mp hroom
  obtain ⟨habsorb, hclock⟩ := moment_eq_some hμ
  have hbuilt := μ.built
  rw [hclock] at hbuilt
  exact ⟨μ.engine, μ.desired, habsorb, hbuilt, of_decide_eq_true hsize,
    (reconciliation_complete_iff ⟨associationLost, rfl⟩ habsorb hbuilt).mpr
      (of_decide_eq_true hroom)⟩

/-- With room for two hypotheses the local-link candidate is refused for the sake of the one about
to be resolved, and a single hypothesis is left. -/
theorem obsolete_entry_blocks_candidate : ∃ next desired,
    (run step (initial twoHypotheses) associationLost).absorb routeArrives.event = .changed next ∧
      next.buildCandidatesLocked routeArrives.clock = .ok desired ∧
      desired.size ≤ twoHypotheses.maxActiveHypotheses ∧
      ((run step (initial twoHypotheses) associationLost).step routeArrives).active.size = 1 ∧
      ((run step (initial twoHypotheses) associationLost).step routeArrives).active.keys ≠
        desired.keys := by
  have hmoment : (moment (run step (initial twoHypotheses) associationLost) routeArrives).any
      (fun μ => decide (μ.desired.size ≤ twoHypotheses.maxActiveHypotheses ∧
        ((run step (initial twoHypotheses) associationLost).step routeArrives).active.size = 1 ∧
        ((run step (initial twoHypotheses) associationLost).step routeArrives).active.keys ≠
          μ.desired.keys)) := by
    decide +kernel
  obtain ⟨μ, hμ, hleft⟩ := (Option.any_eq_true _ _).mp hmoment
  obtain ⟨habsorb, hclock⟩ := moment_eq_some hμ
  have hbuilt := μ.built
  rw [hclock] at hbuilt
  exact ⟨μ.engine, μ.desired, habsorb, hbuilt, of_decide_eq_true hleft⟩
end RootCauseEngine
end WeakNet
