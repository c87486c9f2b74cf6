import WeakNet.Foundation.Runs
import WeakNet.TopologyState

/-! `Applied` says everything one message can do to a snapshot. Deleting a link takes every address
and route with it that refers to the link; a route is deleted only when the attributes given single
it out. -/

namespace WeakNet
open Foundation Foundation.OrderedMap Foundation.Runs List

def AddressFact.key (fact : AddressFact) : ℕ × ℕ × ℕ × Address :=
  (fact.interface.ifindex, fact.family, fact.prefixLength, fact.address)

namespace TopologyState
variable {s : TopologySnapshot} {message : ParsedMessage}
variable {fact item : AddressFact}
theorem sameAddress_iff :
    sameAddress fact item ↔ item.netns = fact.netns ∧ item.key = fact.key := by
  simp only [sameAddress, InterfaceId.same, AddressFact.key, Bool.and_eq_true, beq_iff_eq,
    Prod.mk.injEq]
  tauto

/-- The route has the value of the delete in every field that a delete always carries, and in
every attribute given with it. -/
structure Matches (fact route : RouteFact) : Prop where
  netns : route.netns = fact.netns
  family : route.family = fact.family
  destinationPrefix : route.destinationPrefix = fact.destinationPrefix
  table : route.table = fact.table
  protocol : route.protocol = fact.protocol
  scope : route.scope = fact.scope
  type : route.type = fact.type
  destination : .destination ∈ fact.attributeMask → route.destination = fact.destination
  priority : .priority ∈ fact.attributeMask → route.priority = fact.priority
  outputIfindex : .outputInterface ∈ fact.attributeMask → route.outputIfindex = fact.outputIfindex
  gateway : .gateway ∈ fact.attributeMask → route.gateway = fact.gateway
  preferredSource : .preferredSource ∈ fact.attributeMask →
    route.preferredSource = fact.preferredSource
  multipath : .multipath ∈ fact.attributeMask → route.multipath = fact.multipath

theorem deleteMatches_iff {fact route : RouteFact} :
    deleteMatches fact route ↔ Matches fact route := by
  simp only [deleteMatches, Bool.and_eq_true, Bool.or_eq_true, beq_iff_eq, decide_eq_true_eq,
    ← imp_iff_not_or]
  refine ⟨fun h => ?_, fun h => ?_⟩
  · obtain ⟨⟨⟨⟨⟨⟨⟨⟨⟨⟨⟨⟨hn, hf⟩, hp⟩, ht⟩, hpr⟩, hs⟩, hty⟩, hd⟩, hpri⟩, ho⟩, hg⟩, hps⟩, hm⟩ := h
    exact ⟨hn, hf, hp, ht, hpr, hs, hty, hd, hpri, ho, hg, hps, hm⟩
  · exact ⟨⟨⟨⟨⟨⟨⟨⟨⟨⟨⟨⟨h.netns, h.family⟩, h.destinationPrefix⟩, h.table⟩, h.protocol⟩, h.scope⟩,
      h.type⟩, h.destination⟩, h.priority⟩, h.outputIfindex⟩, h.gateway⟩, h.preferredSource⟩,
      h.multipath⟩

def sortedRoute (fact : RouteFact) : RouteFact :=
  { fact with multipath := RouteNexthop.sort fact.multipath }

inductive Applied (s : TopologySnapshot) (message : ParsedMessage) :
    TopologySnapshot × TopologyApplyResult → Prop
  | refused (result : TopologyApplyResult) (hresult : result.applied = false) :
    Applied s message (s, result)
  | unchanged : Applied s message (s, .noChange)
  | linkStored (fact : LinkFact) (result : TopologyApplyResult)
    (hmessage : message.link = some fact) (hnetns : fact.netns = s.netns)
    (hpresent : fact.present = true) (hresult : result.applied = true) :
    Applied s message ({ s with links := s.links.insert fact.interface.ifindex fact }, result)
  | linkRemoved (ifindex : ℕ) (after : TopologySnapshot) (result : TopologyApplyResult)
    (hremoved : removeLink s ifindex = (after, result)) : Applied s message (after, result)
  | addressAdded (fact : AddressFact) (hmessage : message.address = some fact)
    (hnetns : fact.netns = s.netns) (hpresent : fact.present = true)
    (hnew : s.addresses.find? (sameAddress fact) = none) :
    Applied s message ({ s with addresses := s.addresses ++ [fact] }, .changed)
  | addressRemoved (fact : AddressFact) :
    Applied s message
      ({ s with addresses := s.addresses.eraseP (sameAddress fact) }, .changed)
  | addressReplaced (fact item : AddressFact) (hmessage : message.address = some fact)
    (hnetns : fact.netns = s.netns) (hpresent : fact.present = true)
    (hfind : s.addresses.find? (sameAddress fact) = some item) :
    Applied s message ({ s with
      addresses := s.addresses.set (s.addresses.findIdx (sameAddress fact)) fact }, .changed)
  | routeAdded (fact : RouteFact) (hmessage : message.route = some fact)
    (hnetns : fact.netns = s.netns) (hpresent : fact.present = true)
    (hnew : ∀ item ∈ s.routes, item.identity ≠ (sortedRoute fact).identity) :
    Applied s message ({ s with routes := s.routes ++ [sortedRoute fact] }, .changed)
  | routeRemoved (fact route : RouteFact) (hmessage : message.route = some fact)
    (hfound : s.routes.filter (deleteMatches (sortedRoute fact)) = [route]) :
    Applied s message
      ({ s with routes := s.routes.eraseP (deleteMatches (sortedRoute fact)) }, .changed)

theorem ofChanged_applied (changed : Bool) :
    (TopologyApplyResult.ofChanged changed).applied := by
  cases changed <;> rfl

theorem applied_of_netns {netns : NetnsId} {out : TopologySnapshot × TopologyApplyResult}
    (h : netns = s.netns → Applied s message out) :
    Applied s message (if netns ≠ s.netns then (s, .invalid) else out) := by
  split_ifs with hnetns
  · exact .refused .invalid rfl
  · exact h (not_not.mp hnetns)

theorem applyLink_applied {fact : LinkFact} (hmessage : message.link = some fact) :
    Applied s message (applyLink s fact) := by
  rw [applyLink]
  refine applied_of_netns fun hsame => ?_
  cases hpresent : fact.present with
  | false => exact .linkRemoved fact.interface.ifindex _ _ rfl
  | true => exact .linkStored fact _ hmessage hsame hpresent (ofChanged_applied _)

theorem applyAddress_applied (hmessage : message.address = some fact) :
    Applied s message (applyAddress s fact) := by
  rw [applyAddress]
  refine applied_of_netns fun hsame => ?_
  cases hfind : s.addresses.find? (sameAddress fact) with
  | none =>
    cases hpresent : fact.present with
    | false => exact .unchanged
    | true => exact .addressAdded fact hmessage hsame hpresent hfind
  | some item =>
    cases hpresent : fact.present with
    | false => exact .addressRemoved fact
    | true =>
      cases hitem : item.same fact with
      | true =>
        simp only [hitem, ↓reduceIte]
        exact .unchanged
      | false =>
        simp only [hitem, Bool.not_true, Bool.false_eq_true, ↓reduceIte]
        exact .addressReplaced fact item hmessage hsame hpresent hfind

theorem removeRoute_applied {fact : RouteFact} (hmessage : message.route = some fact) :
    Applied s message (removeRoute s (sortedRoute fact)) := by
  rw [removeRoute]
  split_ifs with hmask
  · exact .refused .ambiguousDelete rfl
  · rcases hfound : s.routes.filter (deleteMatches (sortedRoute fact)) with _ | ⟨route, _ | _⟩
    · exact .unchanged
    · exact .routeRemoved fact route hmessage hfound
    · exact .refused .ambiguousDelete rfl

theorem applyRoute_applied {fact : RouteFact} (hmessage : message.route = some fact) :
    Applied s message (applyRoute s fact) := by
  have hsorted : applyRoute s fact = if fact.netns ≠ s.netns then (s, .invalid)
      else if !fact.present then removeRoute s (sortedRoute fact)
      else if s.routes.any fun item => item.identity == (sortedRoute fact).identity then
        (s, .noChange)
      else ({ s with routes := s.routes ++ [sortedRoute fact] }, .changed) := rfl
  rw [hsorted]
  refine applied_of_netns fun hsame => ?_
  cases hpresent : fact.present with
  | false => exact removeRoute_applied hmessage
  | true =>
    simp only [Bool.not_true, Bool.false_eq_true, ↓reduceIte]
    split_ifs with hknown
    · exact .unchanged
    · refine .routeAdded fact hmessage hsame hpresent fun item hitem hequal => hknown ?_
      exact any_eq_true.mpr ⟨item, hitem, beq_iff_eq.mpr hequal⟩

variable (s message) in
theorem applyChecked_applied : Applied s message (applyChecked s message) := by
  rw [applyChecked.eq_def]
  split
  · exact applyLink_applied ‹_›
  · exact applyAddress_applied ‹_›
  · exact applyRoute_applied ‹_›
  · exact .refused .invalid rfl

theorem applyChecked_refused (h : (applyChecked s message).2.applied = false) :
    (applyChecked s message).1 = s := by
  have happlied := applyChecked_applied s message
  generalize applyChecked s message = out at *
  cases happlied with
  | refused | unchanged => rfl
  | linkStored _ _ _ _ _ hresult => cases h.symm.trans hresult
  | linkRemoved _ _ _ hremoved =>
    have hresult := congrArg Prod.snd hremoved
    rw [removeLink] at hresult
    rw [← hresult, ofChanged_applied] at h
    cases h
  | addressAdded | addressRemoved | addressReplaced | routeAdded | routeRemoved => cases h

/-- The routes as `applyChecked` keeps them: no identity twice, and nexthops in order. -/
structure Canonical (s : TopologySnapshot) : Prop where
  identities : (s.routes.map RouteFact.identity).Nodup
  sorted : ∀ route ∈ s.routes, route.multipath.Pairwise (· ≤ ·)

theorem Canonical.sublist {s' : TopologySnapshot} (h : Canonical s)
    (hroutes : s'.routes.Sublist s.routes) : Canonical s' where
  identities := h.identities.sublist (hroutes.map _)
  sorted route hroute := h.sorted route (hroutes.subset hroute)

theorem Canonical.addRoute (h : Canonical s) {fact : RouteFact}
    (hnew : ∀ item ∈ s.routes, item.identity ≠ (sortedRoute fact).identity) :
    Canonical { s with routes := s.routes ++ [sortedRoute fact] } := by
  refine ⟨?_, forall_mem_append.mpr ⟨h.sorted, forall_mem_singleton.mpr
    (pairwise_insertionSort _ _)⟩⟩
  rw [map_append, map_singleton, ← concat_eq_append, nodup_concat]
  refine ⟨fun htext => ?_, h.identities⟩
  obtain ⟨item, hitem, hsame⟩ := mem_map.mp htext
  exact hnew item hitem hsame

theorem Canonical.applyChecked (h : Canonical s) (message : ParsedMessage) :
    Canonical (applyChecked s message).1 := by
  have happlied := applyChecked_applied s message
  generalize TopologyState.applyChecked s message = out at *
  cases happlied with
  | refused | unchanged => exact h
  | linkStored | addressAdded | addressRemoved | addressReplaced => exact ⟨h.identities, h.sorted⟩
  | linkRemoved ifindex _ _ hremoved =>
    have hshrunk : Canonical (removeLink s ifindex).1 := h.sublist filter_sublist
    rw [hremoved] at hshrunk
    exact hshrunk
  | routeAdded _ _ _ _ hnew => exact h.addRoute hnew
  | routeRemoved => exact h.sublist eraseP_sublist

structure ModelInvariant (s : TopologySnapshot) : Prop extends Canonical s where
  addressKeys : (s.addresses.map AddressFact.key).Nodup
  links : ∀ i link, s.links.find? i = some link →
    link.netns = s.netns ∧ link.interface.ifindex = i ∧ link.present = true
  addresses : ∀ fact ∈ s.addresses, fact.netns = s.netns ∧ fact.present = true
  routes : ∀ route ∈ s.routes, route.netns = s.netns ∧ route.present = true

theorem modelInvariant_blank (netns : NetnsId) : ModelInvariant (.blank netns) := by
  refine ⟨⟨nodup_nil, forall_mem_nil _⟩, nodup_nil, fun i link hlink => ?_, ?_, ?_⟩
  · cases hlink
  all_goals exact forall_mem_nil _

section
variable (h : ModelInvariant s)
include h
theorem ModelInvariant.shrink {s' : TopologySnapshot} (hnetns : s'.netns = s.netns)
    (hlinks : ∀ i link, s'.links.find? i = some link → s.links.find? i = some link)
    (haddresses : s'.addresses.Sublist s.addresses) (hroutes : s'.routes.Sublist s.routes) :
    ModelInvariant s' := by
  refine ⟨h.toCanonical.sublist hroutes, h.addressKeys.sublist (haddresses.map _),
    fun i link hlink => ?_, fun fact hfact => ?_, fun route hroute => ?_⟩
  · rw [hnetns]
    exact h.links i link (hlinks i link hlink)
  · rw [hnetns]
    exact h.addresses fact (haddresses.subset hfact)
  · rw [hnetns]
    exact h.routes route (hroutes.subset hroute)

theorem ModelInvariant.removeLink (ifindex : ℕ) :
    ModelInvariant (removeLink s ifindex).1 := by
  refine h.shrink rfl (fun i link hlink => ?_) filter_sublist filter_sublist
  rw [TopologyState.removeLink, find?_erase] at hlink
  split_ifs at hlink
  exact hlink

theorem ModelInvariant.storeLink {fact : LinkFact} (hnetns : fact.netns = s.netns)
    (hpresent : fact.present) :
    ModelInvariant { s with links := s.links.insert fact.interface.ifindex fact } := by
  refine { h with links := fun i link hlink => ?_ }
  rw [find?_insert] at hlink
  split_ifs at hlink with hi
  · cases hlink
    exact ⟨hnetns, hi, hpresent⟩
  · exact h.links i link hlink

theorem ModelInvariant.addAddress (hnetns : fact.netns = s.netns) (hpresent : fact.present)
    (hnew : s.addresses.find? (sameAddress fact) = none) :
    ModelInvariant { s with addresses := s.addresses ++ [fact] } := by
  refine ⟨⟨h.identities, h.sorted⟩, ?_, h.links,
    forall_mem_append.mpr ⟨h.addresses, forall_mem_singleton.mpr ⟨hnetns, hpresent⟩⟩, h.routes⟩
  rw [map_append, map_singleton, ← concat_eq_append, nodup_concat]
  refine ⟨fun hkey => ?_, h.addressKeys⟩
  obtain ⟨item, hitem, hequal⟩ := mem_map.mp hkey
  -- an item with the key of the new address would have been found
  have hsame : sameAddress fact item :=
    sameAddress_iff.mpr ⟨(h.addresses item hitem).1.trans hnetns.symm, hequal⟩
  exact List.find?_eq_none.mp hnew item hitem hsame
end

theorem keys_replaced {l : List AddressFact} (hfind : l.find? (sameAddress fact) = some item) :
    (l.set (l.findIdx (sameAddress fact)) fact).map AddressFact.key = l.map AddressFact.key := by
  have hlt : l.findIdx (sameAddress fact) < l.length := findIdx_lt_length_of_exists
      ⟨item, mem_of_find?_eq_some hfind, List.find?_some hfind⟩
  have hkey : (l[l.findIdx (sameAddress fact)]).key = fact.key :=
    (sameAddress_iff.mp (findIdx_getElem (w := hlt))).2
  have hsame := @set_getElem_self _ (l.map AddressFact.key) _ (length_map _ ▸ hlt)
  rwa [getElem_map, hkey, ← map_set] at hsame

section
variable (h : ModelInvariant s)
include h
theorem ModelInvariant.replaceAddress (hnetns : fact.netns = s.netns)
    (hpresent : fact.present) (hfind : s.addresses.find? (sameAddress fact) = some item) :
    ModelInvariant { s with
      addresses := s.addresses.set (s.addresses.findIdx (sameAddress fact)) fact } := by
  refine ⟨⟨h.identities, h.sorted⟩, ?_, h.links, fun other hother => ?_, h.routes⟩
  · rw [keys_replaced hfind]
    exact h.addressKeys
  · rcases mem_or_eq_of_mem_set hother with hother | rfl
    · exact h.addresses other hother
    · exact ⟨hnetns, hpresent⟩

theorem ModelInvariant.addRoute {fact : RouteFact} (hnetns : fact.netns = s.netns)
    (hpresent : fact.present)
    (hnew : ∀ item ∈ s.routes, item.identity ≠ (sortedRoute fact).identity) :
    ModelInvariant { s with routes := s.routes ++ [sortedRoute fact] } :=
  ⟨h.toCanonical.addRoute hnew, h.addressKeys, h.links, h.addresses,
    forall_mem_append.mpr ⟨h.routes, forall_mem_singleton.mpr ⟨hnetns, hpresent⟩⟩⟩

theorem ModelInvariant.applyChecked (message : ParsedMessage) :
    ModelInvariant (applyChecked s message).1 := by
  have happlied := applyChecked_applied s message
  generalize TopologyState.applyChecked s message = out at *
  cases happlied with
  | refused | unchanged => exact h
  | linkStored _ _ _ hnetns hpresent => exact h.storeLink hnetns hpresent
  | linkRemoved ifindex _ _ hremoved =>
    have hshrunk := h.removeLink ifindex
    rw [hremoved] at hshrunk
    exact hshrunk
  | addressAdded _ _ hnetns hpresent hnew => exact h.addAddress hnetns hpresent hnew
  | addressRemoved =>
    exact h.shrink rfl (fun _ _ hlink => hlink) eraseP_sublist (Sublist.refl _)
  | addressReplaced _ _ _ hnetns hpresent hfind =>
    exact h.replaceAddress hnetns hpresent hfind
  | routeAdded _ _ hnetns hpresent hnew => exact h.addRoute hnetns hpresent hnew
  | routeRemoved =>
    exact h.shrink rfl (fun _ _ hlink => hlink) (Sublist.refl _) eraseP_sublist
end

structure Unused (s : TopologySnapshot) (ifindex : ℕ) : Prop where
  link : s.links.find? ifindex = none
  addresses : ∀ fact ∈ s.addresses, fact.interface.ifindex ≠ ifindex
  outputs : ∀ route ∈ s.routes, route.outputIfindex ≠ some ifindex
  nexthops : ∀ route ∈ s.routes, ∀ hop ∈ route.multipath, hop.ifindex ≠ ifindex

theorem removeLink_unused (s : TopologySnapshot) (ifindex : ℕ) :
    Unused (removeLink s ifindex).1 ifindex := by
  have hroute : ∀ route ∈ (removeLink s ifindex).1.routes, routeUses ifindex route = false := by
    intro route hmem
    have hkept := (mem_filter.mp hmem).2
    simpa using hkept
  refine ⟨?_, fun fact hfact => ?_, fun route hmem hout => ?_, fun route hmem hop hhop heq => ?_⟩
  · rw [removeLink, find?_erase, if_pos rfl]
  · have hkept := (mem_filter.mp hfact).2
    simpa using hkept
  · have hunused := hroute route hmem
    simp [routeUses, hout] at hunused
  · have hunused := hroute route hmem
    rw [routeUses, Bool.or_eq_false_iff, any_eq_false] at hunused
    exact hunused.2 hop hhop (beq_iff_eq.mpr heq)

def Addressed (fact : RouteFact) : Prop :=
  fact.destinationPrefix = 0 ∨ .destination ∈ fact.attributeMask

/-- What a route delete does: it takes out the only route that matches, or nothing. -/
inductive RouteDeleted (s : TopologySnapshot) (fact : RouteFact) :
    TopologySnapshot × TopologyApplyResult → Prop
  | removed (pre post : List RouteFact) (route : RouteFact) (hsplit : s.routes = pre ++ route :: post)
    (haddressed : Addressed fact) (hmatches : Matches fact route)
    (honly : ∀ other ∈ pre ++ post, ¬Matches fact other) :
    RouteDeleted s fact ({ s with routes := pre ++ post }, .changed)
  | none (hnone : ∀ route ∈ s.routes, ¬Matches fact route) :
    RouteDeleted s fact (s, .noChange)
  | ambiguous (hambiguous : Addressed fact → ∃ first second, [first, second].Sublist s.routes ∧
      Matches fact first ∧ Matches fact second) :
    RouteDeleted s fact (s, .ambiguousDelete)

theorem removeRoute_deleted (s : TopologySnapshot) (fact : RouteFact) :
    RouteDeleted s fact (removeRoute s fact) := by
  rw [removeRoute]
  split_ifs with hmask
  · refine .ambiguous fun haddressed => ?_
    rcases haddressed with hzero | hgiven
    · exact absurd hzero hmask.1
    · exact absurd hgiven hmask.2
  · have haddressed : Addressed fact := by
      rw [not_and_or, not_not, not_not] at hmask
      exact hmask
    rcases hfound : s.routes.filter (deleteMatches fact) with _ | ⟨first, _ | ⟨second, rest⟩⟩
    · refine .none fun route hroute hmatches => ?_
      exact filter_eq_nil_iff.mp hfound route hroute (deleteMatches_iff.mpr hmatches)
    · obtain ⟨pre, post, hsplit, herase, hfirst, hothers⟩ := eraseP_of_single hfound
      rw [herase]
      refine .removed pre post first hsplit haddressed (deleteMatches_iff.mp hfirst) ?_
      intro other hother hmatches
      cases (hothers other hother).symm.trans (deleteMatches_iff.mpr hmatches)
    · have hmatches : ∀ route ∈ [first, second], Matches fact route := by
        intro route hroute
        have hmem : route ∈ s.routes.filter (deleteMatches fact) := by
          rw [hfound]
          exact mem_append_left rest hroute
        exact deleteMatches_iff.mp (mem_filter.mp hmem).2
      have hpair : [first, second].Sublist (s.routes.filter (deleteMatches fact)) := by
        rw [hfound]
        exact sublist_append_left [first, second] rest
      refine .ambiguous fun _ => ⟨first, second, hpair.trans filter_sublist, ?_, ?_⟩
      · exact hmatches first mem_cons_self
      · exact hmatches second (mem_cons_of_mem _ mem_cons_self)

def reached (netns : NetnsId) (messages : List ParsedMessage) : TopologySnapshot :=
  run (fun s message => (applyChecked s message).1) (.blank netns) messages

theorem reached_netns (netns : NetnsId) (messages : List ParsedMessage) :
    (reached netns messages).netns = netns := by
  apply run_invariant (P := fun s : TopologySnapshot => s.netns = netns)
  · intro s message hs
    exact (applyChecked_sameFlags s message).1.trans hs
  · rfl

theorem reached_invariant (netns : NetnsId) (messages : List ParsedMessage) :
    ModelInvariant (reached netns messages) :=
  run_invariant (fun _ message h => h.applyChecked message) (modelInvariant_blank netns) messages

/-- After every sequence of messages the model invariant holds. The next message deletes a link
together with everything that refers to it, deletes the only route that has all the
attributes it gives or none, and changes nothing when it is refused. -/
theorem topology_model (netns : NetnsId) (messages : List ParsedMessage) :
    ModelInvariant (reached netns messages) ∧ (reached netns messages).netns = netns ∧
    ∀ message : ParsedMessage,
      (∀ fact, message.kind = .link → message.link = some fact → fact.netns = netns →
        fact.present = false →
          Unused (applyChecked (reached netns messages) message).1 fact.interface.ifindex) ∧
      (∀ fact, message.kind = .route → message.route = some fact → fact.netns = netns →
        fact.present = false →
          RouteDeleted (reached netns messages) (sortedRoute fact)
            (applyChecked (reached netns messages) message)) ∧
      ((applyChecked (reached netns messages) message).2 = .invalid ∨
          (applyChecked (reached netns messages) message).2 = .ambiguousDelete →
        (applyChecked (reached netns messages) message).1 = reached netns messages) := by
  have hnetns := reached_netns netns messages
  refine ⟨reached_invariant netns messages, hnetns, fun message => ⟨?_, ?_, ?_⟩⟩
  · intro fact hkind hlink hfact hpresent
    have happly : applyChecked (reached netns messages) message =
        removeLink (reached netns messages) fact.interface.ifindex := by
      rw [applyChecked.eq_def, hkind, hlink]
      dsimp only
      rw [applyLink, if_neg (not_not.mpr (hfact.trans hnetns.symm)), hpresent]
      rfl
    rw [happly]
    exact removeLink_unused _ _
  · intro fact hkind hroute hfact hpresent
    have happly : applyChecked (reached netns messages) message =
        removeRoute (reached netns messages) (sortedRoute fact) := by
      rw [applyChecked.eq_def, hkind, hroute]
      dsimp only
      rw [applyRoute, if_neg (not_not.mpr (hfact.trans hnetns.symm)), hpresent]
      rfl
    rw [happly]
    exact removeRoute_deleted _ _
  · intro hresult
    apply applyChecked_refused
    rcases hresult with hinvalid | hambiguous
    · rw [hinvalid]
      rfl
    · rw [hambiguous]
      rfl
end TopologyState
end WeakNet
