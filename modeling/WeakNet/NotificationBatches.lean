import WeakNet.TopologyEvents

/-! A batch is applied to a copy of the snapshot, which is installed when some message is reported
as a change. For a link only the name, the flags, the operational state and the carrier are
compared, so a batch that gives a link another type is dropped. -/

namespace WeakNet
variable {after : TopologySnapshot}

namespace TopologyState
open Foundation.OrderedMap

def SameFacts (s s' : TopologySnapshot) : Prop :=
  s'.links = s.links ∧ s'.addresses = s.addresses ∧ s'.routes = s.routes

def linkOf (message : ParsedMessage) (ifindex : ℕ) : Option LinkFact :=
  if message.kind = .link then
    message.link.filter fun fact => fact.present && fact.interface.ifindex == ifindex
  else none

def lastLink : List ParsedMessage → ℕ → Option LinkFact
  | [], _ => none
  | message :: messages, ifindex => (lastLink messages ifindex).or (linkOf message ifindex)

/-- The snapshot with the links of the batch and nothing else of it. -/
structure Relinked (s : TopologySnapshot) (link : ℕ → Option LinkFact) (after : TopologySnapshot) :
    Prop where
  links : ∀ i, after.links.find? i = (link i).or (s.links.find? i)
  addresses : after.addresses = s.addresses
  routes : after.routes = s.routes

variable {s : TopologySnapshot}
theorem Relinked.refl (s : TopologySnapshot) : Relinked s (fun _ => none) s :=
  ⟨fun _ => Option.none_or.symm, rfl, rfl⟩

theorem ofChanged_noChange {changed : Bool}
    (h : TopologyApplyResult.ofChanged changed = .noChange) : changed = false := by
  cases changed with
  | false => rfl
  | true => cases h

theorem removeLink_noChange {ifindex : ℕ} (h : (removeLink s ifindex).2 = .noChange) :
    Relinked s (fun _ => none) (removeLink s ifindex).1 := by
  have hsame := ofChanged_noChange h
  simp only [Bool.or_eq_false_iff, bne_eq_false_iff_eq] at hsame
  obtain ⟨⟨hlink, haddresses⟩, hroutes⟩ := hsame
  refine ⟨fun i => ?_, List.filter_sublist.eq_of_length haddresses.symm,
    List.filter_sublist.eq_of_length hroutes.symm⟩
  rw [removeLink, find?_erase, Option.none_or]
  split_ifs with hi
  · have hnone : s.links.find? ifindex = none := by simpa [contains] using hlink
    rw [hi, hnone]
  · rfl

variable {message : ParsedMessage}
theorem applyLink_noChange {fact : LinkFact} (hkind : message.kind = .link)
    (hlink : message.link = some fact) (h : (applyLink s fact).2 = .noChange) :
    Relinked s (linkOf message) (applyLink s fact).1 := by
  have hof : linkOf message = fun i =>
      if fact.present && fact.interface.ifindex == i then some fact else none := by
    funext i
    rw [linkOf, if_pos hkind, hlink]
    rfl
  rw [hof]
  rw [applyLink] at h ⊢
  split_ifs at h ⊢ with hnetns hpresent
  · have habsent : fact.present = false := by simpa using hpresent
    simpa [habsent] using removeLink_noChange h
  · refine ⟨fun i => ?_, rfl, rfl⟩
    simp only [find?_insert]
    split_ifs <;> simp_all

theorem applyAddress_noChange {fact : AddressFact} (h : (applyAddress s fact).2 = .noChange) :
    (applyAddress s fact).1 = s := by
  unfold applyAddress at h ⊢
  grind

theorem applyChecked_noChange (h : (applyChecked s message).2 = .noChange) :
    Relinked s (linkOf message) (applyChecked s message).1 := by
  have hother : message.kind ≠ .link → linkOf message = fun _ => none :=
    fun hkind => funext fun i => if_neg hkind
  rw [applyChecked] at h ⊢
  split at h
  · exact applyLink_noChange ‹_› ‹_› h
  · rw [hother (by simp [*]), applyAddress_noChange h]
    exact .refl s
  · rw [hother (by simp [*]), applyRoute_noChange h]
    exact .refl s
  · simp at h

theorem applyBatch_noChange {messages : List ParsedMessage}
    (h : applyBatch s messages = .ok (after, false)) : Relinked s (lastLink messages) after := by
  induction messages generalizing s with
  | nil =>
    obtain ⟨rfl, -⟩ := Prod.mk.inj (Except.ok.inj h)
    exact .refl s
  | cons message messages ih =>
    obtain ⟨later, hrest, happlied, hchanged⟩ := applyBatch_cons h
    rw [eq_comm, Bool.or_eq_false_iff, decide_eq_false_iff_not] at hchanged
    obtain ⟨hsame, rfl⟩ := hchanged
    have hnone : (applyChecked s message).2 = .noChange := by
      cases hresult : (applyChecked s message).2 <;> simp_all [TopologyApplyResult.applied]
    have hstep := applyChecked_noChange hnone
    have hlater := ih hrest
    refine ⟨fun i => ?_, hlater.addresses.trans hstep.addresses, hlater.routes.trans hstep.routes⟩
    rw [hlater.links, hstep.links, lastLink, Option.or_assoc]
end TopologyState

namespace NetlinkCollector
open Foundation TopologyState

variable (clock : ℕ → RealtimeTime × MonotonicTime) (c : NetlinkCollector)
  (messages : List ParsedMessage)

def AllOrNothing : Prop :=
  let out := processNotificationBatch clock c messages
  (out.2 = .ok true → ∃ after changed, applyBatch c.state messages = .ok (after, changed) ∧
    SameFacts after out.1.state) ∧
  (out.2 = .ok false → out.1.state = c.state ∧ out.1.selected = c.selected ∧
    out.1.published = c.published)

def Restates : Prop :=
  ∀ i fact, lastLink messages i = some fact → c.state.links.find? i = some fact

variable {c messages}
theorem restates_iff (hresult : applyBatch c.state messages = .ok (after, false)) :
    Restates c messages ↔ SameFacts after c.state := by
  have hlinked := applyBatch_noChange hresult
  refine ⟨fun h => ⟨OrderedMap.ext_find? fun i => ?_, hlinked.addresses.symm,
    hlinked.routes.symm⟩, fun h i fact hlast => ?_⟩
  · rw [hlinked.links]
    cases hlast : lastLink messages i with
    | none => rfl
    | some fact => exact h i fact hlast
  · rw [h.1, hlinked.links, hlast]
    rfl

theorem allOrNothing_iff : AllOrNothing clock c messages ↔
    batchRefused c.state messages ∨ batchChanges c.state messages ∨
      Restates c messages := by
  have hbatched := processNotificationBatch_batched clock c messages
  unfold AllOrNothing
  generalize processNotificationBatch .. = out at *
  cases hbatched with
  | refused _ hrefused => simp [hrefused]
  | unchanged _ _ hfacts hresult =>
    simp [batchRefused, batchChanges, hfacts, hresult, restates_iff hresult]
  | installed _ after next thrown hfacts hresult hinstall =>
    have hstate := install_state clock c
      { after with degraded := false, generation := c.state.generation + 1 }
    rw [hinstall] at hstate
    have hsame : SameFacts after next.state := by
      rw [hstate]
      exact ⟨rfl, rfl, rfl⟩
    cases thrown <;> simp [batchChanges, hfacts, hresult, hsame]

/-- A batch that is accepted without a reported change drops the link types it brings. -/
theorem batches_all_or_nothing_iff (clock : ℕ → RealtimeTime × MonotonicTime)
    (c : NetlinkCollector) (messages : List ParsedMessage) :
    (AllOrNothing clock c messages ↔ batchRefused c.state messages = true ∨
      batchChanges c.state messages = true ∨ Restates c messages) ∧
    (processNotificationBatch clock c messages).1.state.generation =
      c.state.generation + (if batchChanges c.state messages then 1 else 0) ∧
    ∀ op, (step clock c op).state.generation =
      c.state.generation + if commits c op || changes c op then 1 else 0 := by
  refine ⟨allOrNothing_iff clock, ?_, fun op => ?_⟩
  · cases hchange : batchChanges c.state messages with
    | true => exact (processNotificationBatch_state_of_changes clock hchange).2.2
    | false =>
      rw [processNotificationBatch_state_of_not_changes clock hchange]
      rfl
  cases hcommit : commits c op with
  | true => exact (step_state_of_commits clock hcommit).2.2
  | false =>
    cases hchange : changes c op with
    | true => exact (step_state_of_changes clock hchange).2.2
    | false =>
      rcases step_state_of_kept clock hcommit hchange with hstate | ⟨-, hstate⟩
      · rw [hstate]
        rfl
      · rw [hstate, (degrade_fields c.state).1]
        rfl

def linkedCollector : NetlinkCollector :=
  (commitReconciliation sampleClock (start ⟨4, 1⟩ Nat.one_ne_zero)
    { TopologySnapshot.blank ⟨4, 1⟩ with links := OrderedMap.empty.insert 2 secondLink }).1

/-- The second interface is reported again as one of another type. -/
theorem retyped_link_dropped :
    ¬ AllOrNothing sampleClock linkedCollector
      [linkMessage { secondLink with linkType := 1 }] := by
  have hstate := commitReconciliation_state sampleClock (start ⟨4, 1⟩ Nat.one_ne_zero)
    { TopologySnapshot.blank ⟨4, 1⟩ with links := OrderedMap.empty.insert 2 secondLink }
  change linkedCollector.state = _ at hstate
  rw [allOrNothing_iff, hstate]
  rintro (hrefused | hchanges | hrestates)
  · revert hrefused
    decide
  · revert hchanges
    decide
  · have hlink := hrestates 2 _ rfl
    rw [hstate] at hlink
    revert hlink
    decide
end NetlinkCollector
end WeakNet
