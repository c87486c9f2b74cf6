import WeakNet.RtnetlinkParser

/-! `TopologyState::applyChecked`: one parsed message applied to a snapshot. A result of `invalid`
or `ambiguousDelete` leaves it alone, and no message touches its flags or its generation. -/

namespace WeakNet
open Foundation List

inductive TopologyApplyResult where
  | noChange | changed | invalid | ambiguousDelete
deriving DecidableEq

namespace TopologyApplyResult
def ofChanged (changed : Bool) : TopologyApplyResult := if changed then .changed else .noChange

def applied : TopologyApplyResult → Bool
  | .noChange | .changed => true
  | .invalid | .ambiguousDelete => false
end TopologyApplyResult

namespace TopologyState
def routeUses (ifindex : ℕ) (route : RouteFact) : Bool :=
  route.outputIfindex == some ifindex || route.multipath.any fun hop => hop.ifindex == ifindex

def removeLink (s : TopologySnapshot) (ifindex : ℕ) : TopologySnapshot × TopologyApplyResult :=
  let addresses := s.addresses.filter fun item => item.interface.ifindex != ifindex
  let routes := s.routes.filter fun item => !routeUses ifindex item
  ({ s with links := s.links.erase ifindex, addresses := addresses, routes := routes },
    .ofChanged (s.links.contains ifindex || s.addresses.length != addresses.length ||
      s.routes.length != routes.length))

def linkDiffers (old fact : LinkFact) : Bool :=
  old.interface.observedName != fact.interface.observedName || old.flags != fact.flags ||
    old.operState != fact.operState || old.carrier != fact.carrier ||
    old.carrierKnown != fact.carrierKnown

def applyLink (s : TopologySnapshot) (fact : LinkFact) : TopologySnapshot × TopologyApplyResult :=
  if fact.netns ≠ s.netns then (s, .invalid)
  else if !fact.present then removeLink s fact.interface.ifindex
  else
    ({ s with links := s.links.insert fact.interface.ifindex fact },
      .ofChanged ((s.links.find? fact.interface.ifindex).elim true (linkDiffers · fact)))

def sameAddress (fact item : AddressFact) : Bool :=
  item.netns == fact.netns && item.interface.same fact.interface && item.family == fact.family &&
    item.prefixLength == fact.prefixLength && item.address == fact.address

def applyAddress (s : TopologySnapshot) (fact : AddressFact) :
    TopologySnapshot × TopologyApplyResult :=
  if fact.netns ≠ s.netns then (s, .invalid)
  else match s.addresses.find? (sameAddress fact) with
    | none =>
      if !fact.present then (s, .noChange)
      else ({ s with addresses := s.addresses ++ [fact] }, .changed)
    | some item =>
      if !fact.present then
        ({ s with addresses := s.addresses.eraseP (sameAddress fact) }, .changed)
      else if item.same fact then (s, .noChange)
      else
        ({ s with addresses := s.addresses.set (s.addresses.findIdx (sameAddress fact)) fact },
          .changed)

def deleteMatches (fact item : RouteFact) : Bool :=
  item.netns == fact.netns && item.family == fact.family &&
    item.destinationPrefix == fact.destinationPrefix && item.table == fact.table &&
    item.protocol == fact.protocol && item.scope == fact.scope && item.type == fact.type &&
    (.destination ∉ fact.attributeMask || item.destination == fact.destination) &&
    (.priority ∉ fact.attributeMask || item.priority == fact.priority) &&
    (.outputInterface ∉ fact.attributeMask || item.outputIfindex == fact.outputIfindex) &&
    (.gateway ∉ fact.attributeMask || item.gateway == fact.gateway) &&
    (.preferredSource ∉ fact.attributeMask || item.preferredSource == fact.preferredSource) &&
    (.multipath ∉ fact.attributeMask || item.multipath == fact.multipath)

def removeRoute (s : TopologySnapshot) (fact : RouteFact) :
    TopologySnapshot × TopologyApplyResult :=
  if fact.destinationPrefix ≠ 0 ∧ .destination ∉ fact.attributeMask then (s, .ambiguousDelete)
  else match s.routes.filter (deleteMatches fact) with
    | [] => (s, .noChange)
    | [_] => ({ s with routes := s.routes.eraseP (deleteMatches fact) }, .changed)
    | _ => (s, .ambiguousDelete)

def applyRoute (s : TopologySnapshot) (given : RouteFact) :
    TopologySnapshot × TopologyApplyResult :=
  let fact := { given with multipath := RouteNexthop.sort given.multipath }
  if fact.netns ≠ s.netns then (s, .invalid)
  else if !fact.present then removeRoute s fact
  else if s.routes.any fun item => item.identity == fact.identity then (s, .noChange)
  else ({ s with routes := s.routes ++ [fact] }, .changed)

def applyChecked (s : TopologySnapshot) (message : ParsedMessage) :
    TopologySnapshot × TopologyApplyResult :=
  match message.kind, message.link, message.address, message.route with
  | .link, some fact, _, _ => applyLink s fact
  | .address, _, some fact, _ => applyAddress s fact
  | .route, _, _, some fact => applyRoute s fact
  | _, _, _, _ => (s, .invalid)

def SameFlags (s s' : TopologySnapshot) : Prop :=
  s'.netns = s.netns ∧ s'.authoritative = s.authoritative ∧ s'.partly = s.partly ∧
    s'.degraded = s.degraded ∧ s'.generation = s.generation

theorem SameFlags.refl (s : TopologySnapshot) : SameFlags s s := ⟨rfl, rfl, rfl, rfl, rfl⟩

theorem SameFlags.trans {s s' s'' : TopologySnapshot} (h : SameFlags s s')
    (h' : SameFlags s' s'') : SameFlags s s'' := by
  obtain ⟨hn, ha, hp, hd, hg⟩ := h
  obtain ⟨hn', ha', hp', hd', hg'⟩ := h'
  exact ⟨hn'.trans hn, ha'.trans ha, hp'.trans hp, hd'.trans hd, hg'.trans hg⟩

section
variable (s : TopologySnapshot)
theorem applyLink_sameFlags (fact : LinkFact) :
    SameFlags s (applyLink s fact).1 := by
  rw [applyLink]
  split_ifs with hnetns hpresent
  all_goals exact SameFlags.refl s

theorem applyAddress_sameFlags (fact : AddressFact) :
    SameFlags s (applyAddress s fact).1 := by
  rw [applyAddress]
  by_cases hnetns : fact.netns ≠ s.netns
  · rw [if_pos hnetns]
    exact SameFlags.refl s
  · rw [if_neg hnetns]
    cases s.addresses.find? (sameAddress fact) with
    | none | some item =>
      dsimp only
      split_ifs <;> exact SameFlags.refl s

theorem applyRoute_sameFlags (fact : RouteFact) :
    SameFlags s (applyRoute s fact).1 := by
  rw [applyRoute]
  split_ifs with hnetns hpresent hknown
  · exact SameFlags.refl s
  · rw [removeRoute]
    split_ifs with hmask
    · exact SameFlags.refl s
    · split <;> exact SameFlags.refl s
  all_goals exact SameFlags.refl s
end

theorem eraseP_of_single {α : Type*} {p : α → Bool} {l : List α} {a : α} (h : l.filter p = [a]) :
    ∃ pre post, l = pre ++ a :: post ∧ l.eraseP p = pre ++ post ∧ p a ∧
      ∀ b ∈ pre ++ post, p b = false := by
  have ha : a ∈ l.filter p := h ▸ mem_cons_self
  obtain ⟨hmem, hpa⟩ := mem_filter.mp ha
  obtain ⟨b, pre, post, hpre, hb, rfl, herase⟩ := exists_of_eraseP hmem hpa
  rw [filter_append, filter_eq_nil_iff.mpr hpre, filter_cons_of_pos hb] at h
  obtain ⟨rfl, hpost⟩ := List.cons.inj h
  refine ⟨pre, post, rfl, herase, hb, fun c hc => Bool.eq_false_of_not_eq_true ?_⟩
  exact forall_mem_append.mpr ⟨hpre, filter_eq_nil_iff.mp hpost⟩ c hc

theorem applyRoute_noChange {s : TopologySnapshot} {fact : RouteFact}
    (h : (applyRoute s fact).2 = .noChange) :
    (applyRoute s fact).1 = s := by
  rw [applyRoute] at h ⊢
  split_ifs at h ⊢ with hnetns hpresent hknown
  · rw [removeRoute] at h ⊢
    split_ifs at h ⊢ with hmask
    cases hmatches : s.routes.filter (deleteMatches _) with
    | nil => rfl
    | cons _ rest =>
      simp only [hmatches] at h
      cases rest with
      | nil | cons y rest => cases h
  · rfl

theorem applyChecked_sameFlags (s : TopologySnapshot) (message : ParsedMessage) :
    SameFlags s (applyChecked s message).1 := by
  rw [applyChecked]
  split
  · exact applyLink_sameFlags s _
  · exact applyAddress_sameFlags s _
  · exact applyRoute_sameFlags s _
  · exact SameFlags.refl s

/-- A batch applied in order up to its first failure: the snapshot reached and whether a
message changed it, or the failing result. -/
def applyBatch (s : TopologySnapshot) :
    List ParsedMessage → Except TopologyApplyResult (TopologySnapshot × Bool)
  | [] => .ok (s, false)
  | message :: messages =>
    let result := applyChecked s message
    if result.2.applied then
      match applyBatch result.1 messages with
      | .ok (after, changed) => .ok (after, result.2 = .changed || changed)
      | .error failure => .error failure
    else .error result.2

variable {s after : TopologySnapshot} {messages : List ParsedMessage} {changed : Bool}
theorem applyBatch_cons {message : ParsedMessage}
    (h : applyBatch s (message :: messages) = .ok (after, changed)) :
    ∃ later, applyBatch (applyChecked s message).1 messages = .ok (after, later) ∧
      (applyChecked s message).2.applied ∧
      changed = ((applyChecked s message).2 = .changed || later) := by
  rw [applyBatch] at h
  split_ifs at h with happlied
  split at h
  · cases h
    exact ⟨_, ‹_›, happlied, rfl⟩
  · cases h

theorem applyBatch_sameFlags (h : applyBatch s messages = .ok (after, changed)) :
    SameFlags s after := by
  induction messages generalizing s changed with
  | nil =>
    obtain ⟨rfl, -⟩ := Prod.mk.inj (Except.ok.inj h)
    exact SameFlags.refl s
  | cons message messages ih =>
    obtain ⟨_, hrest, -⟩ := applyBatch_cons h
    exact (applyChecked_sameFlags s message).trans (ih hrest)
end TopologyState
end WeakNet
