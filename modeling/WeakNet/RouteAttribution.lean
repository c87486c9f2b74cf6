import WeakNet.SocketRouteAttributor

/-! A conflict with the interface the socket reports is claimed against the outputs of the best
routes, also when these have none. An available attribution names the one route and interface that
everything known about the socket agrees with. -/

namespace WeakNet.SocketRouteAttributor
open Foundation List

variable {id : SocketId} {tuple : SocketTuple} {diagIfindex : Option ℕ}
  {topology : TopologySnapshot} {uplink : UplinkSelection} {first : RouteFact}
  {rest : List RouteFact} {i : ℕ}

variable {route : RouteFact}
theorem mem_forwardOutputs :
    i ∈ forwardOutputs route ↔ route.type = rtnUnicast ∧ i ∈ outputs route := by
  rw [forwardOutputs, normalForwardRoute]
  by_cases htype : route.type = rtnUnicast
  all_goals simp [htype]

theorem forwardOutputs_of_sameOutput {a b : RouteFact} (h : sameOutput a b) :
    i ∈ forwardOutputs a ↔ i ∈ forwardOutputs b := by
  simp only [sameOutput, Bool.and_eq_true, decide_eq_true_eq, beq_iff_eq] at h
  have hmem : i ∈ outputs a ↔ i ∈ outputs b := by
    rw [← mem_toFinset, h.1, mem_toFinset]
  rw [mem_forwardOutputs, mem_forwardOutputs, h.2, hmem]

theorem sameOutput_of_not_ambiguous (h : ambiguous (first :: rest) = false) :
    ∀ route ∈ first :: rest, i ∈ forwardOutputs first ↔ i ∈ forwardOutputs route := by
  intro route hroute
  rcases mem_cons.mp hroute with rfl | hrest
  · exact Iff.rfl
  · rw [ambiguous, any_eq_false] at h
    have hsame := h route hrest
    rw [Bool.not_eq_true, Bool.not_eq_false'] at hsame
    exact forwardOutputs_of_sameOutput hsame

theorem mem_possibleIfindices :
    i ∈ possibleIfindices (first :: rest) (representative first rest) ↔
      ∃ route ∈ first :: rest, i ∈ forwardOutputs route := by
  rw [possibleIfindices, mem_insertionSort, mem_dedup]
  split_ifs with hambiguous
  · exact mem_flatMap
  · have hsame : ∀ route ∈ first :: rest, i ∈ forwardOutputs first ↔ i ∈ forwardOutputs route :=
      sameOutput_of_not_ambiguous (Bool.eq_false_iff.mpr hambiguous)
    have hmem : representative first rest ∈ first :: rest := minElement_mem first rest
    refine ⟨fun h => ⟨_, hmem, h⟩, fun h => ?_⟩
    obtain ⟨route, hroute, hi⟩ := h
    exact (hsame _ hmem).mp ((hsame route hroute).mpr hi)

/-- A modelled route to the endpoint that no other one beats by its prefix or, for equal prefixes,
by its table and metric. -/
def Best (remote : SocketEndpoint) (topology : TopologySnapshot) (route : RouteFact) : Prop :=
  (route ∈ topology.routes ∧ modeled topology route = true ∧ prefixMatches remote route = true) ∧
    ∀ other ∈ topology.routes, modeled topology other = true →
      prefixMatches remote other = true → other.destinationPrefix ≤ route.destinationPrefix ∧
        (other.destinationPrefix = route.destinationPrefix → rank route ≤ rank other)

theorem mem_tied_candidates {remote : SocketEndpoint} :
    route ∈ tied (candidates remote topology) ↔ Best remote topology route := by
  rw [mem_tied, mem_candidates, Best]
  refine and_congr_right fun _ => ⟨fun h other hother hmodeled hmatch => ?_, fun h => ?_⟩
  · have hmem := mem_candidates.mpr ⟨hother, hmodeled, hmatch⟩
    exact ⟨h.1 other hmem, h.2 other hmem⟩
  · refine ⟨fun other hother => ?_, fun other hother => ?_⟩
    · obtain ⟨hmem, hmodeled, hmatch⟩ := mem_candidates.mp hother
      exact (h other hmem hmodeled hmatch).1
    · obtain ⟨hmem, hmodeled, hmatch⟩ := mem_candidates.mp hother
      exact (h other hmem hmodeled hmatch).2

def Sends (tuple : SocketTuple) (topology : TopologySnapshot) (i : ℕ) : Prop :=
  ∃ route, Best tuple.remoteEnd topology route ∧ route.type = rtnUnicast ∧ i ∈ outputs route

theorem sends_iff (htied : tied (candidates tuple.remoteEnd topology) = first :: rest) :
    Sends tuple topology i ↔
      i ∈ possibleIfindices (first :: rest) (representative first rest) := by
  rw [mem_possibleIfindices, Sends, ← htied]
  simp [mem_forwardOutputs, mem_tied_candidates]

theorem diagIfindexConflicts_sends :
    .diagIfindexConflicts ∈ (attributeTuple id tuple diagIfindex topology uplink).reasons ↔
      usable tuple topology ∧ diagIfindex.getD 0 ≠ 0 ∧
        Routed tuple.remoteEnd topology ∧ ¬ Sends tuple topology (diagIfindex.getD 0) := by
  rw [diagIfindexConflicts_iff]
  refine and_congr_right fun _ => and_congr_right fun _ => ?_
  cases htied : tied (candidates tuple.remoteEnd topology) with
  | nil =>
    have hnone := candidates_eq_nil.mp (tied_eq_nil.mp htied)
    refine ⟨fun h => ?_, fun h => absurd h.1 hnone⟩
    obtain ⟨first, rest, hcons, -⟩ := h
    cases hcons
  | cons first rest =>
    have hsome : Routed tuple.remoteEnd topology := by
      by_contra hnone
      rw [tied_eq_nil.mpr (candidates_eq_nil.mpr hnone)] at htied
      cases htied
    rw [sends_iff htied]
    refine ⟨fun h => ?_, fun h => ⟨first, rest, rfl, h.2⟩⟩
    obtain ⟨_, _, hcons, hmem⟩ := h
    cases hcons
    exact ⟨hsome, hmem⟩

/-- A conflict is claimed with knowledge of the outputs exactly when a socket that reports an
interface, and has a route in a usable snapshot, has one with an output. -/
theorem conflict_known_iff (id : SocketId) (tuple : SocketTuple) (diagIfindex : Option ℕ)
    (topology : TopologySnapshot) (uplink : UplinkSelection) :
    (.diagIfindexConflicts ∈ (attributeTuple id tuple diagIfindex topology uplink).reasons →
        (∃ i, Sends tuple topology i) ∧ ¬ Sends tuple topology (diagIfindex.getD 0)) ↔
      (usable tuple topology = true → diagIfindex.getD 0 ≠ 0 → Routed tuple.remoteEnd topology →
        ∃ i, Sends tuple topology i) := by
  rw [diagIfindexConflicts_sends]
  refine ⟨fun h husable hdiag hrouted => ?_, fun h hconflict => ?_⟩
  · by_cases hsends : Sends tuple topology (diagIfindex.getD 0)
    · exact ⟨_, hsends⟩
    · exact (h ⟨husable, hdiag, hrouted, hsends⟩).1
  · obtain ⟨husable, hdiag, hrouted, hsends⟩ := hconflict
    exact ⟨h husable hdiag hrouted, hsends⟩

def localAddressRoute : RouteFact :=
  { defaultRoute with
    destinationPrefix := 32
    destination := Address.ofBytes 4 [10, 0, 0, 2]
    table := 255
    type := rtnLocal
    gateway := none }

def selfTuple : SocketTuple :=
  { mappedTuple.embedded with remoteEnd := ⟨afInet, Address.ofBytes 4 [10, 0, 0, 2], 443⟩ }

/-- A socket bound to interface 2 and connected to its own host is said to conflict with a local
route, whose interface is not even looked at. -/
theorem local_route_conflicts :
    .diagIfindexConflicts ∈ (attributeTuple ⟨⟨4, 1⟩, some 1, 1⟩ selfTuple (some 2)
        (sampleTopology [localAddressRoute]) .blank).reasons ∧
      ¬ ∃ i, Sends selfTuple (sampleTopology [localAddressRoute]) i := by
  refine ⟨by decide +kernel, fun h => ?_⟩
  obtain ⟨i, _, hbest, htype, -⟩ := h
  obtain rfl := mem_singleton.mp hbest.1.1
  cases htype

theorem interfaceFor_ifindex (hlinks : ∀ ifindex link, topology.links.find? ifindex = some link →
      link.interface.ifindex = ifindex) (ifindex : ℕ) :
    (interfaceFor topology ifindex).ifindex = ifindex := by
  rw [interfaceFor]
  split
  · rename_i link hlink
    split_ifs
    · exact hlinks ifindex link hlink
    · rfl
  · rfl

structure Unopposed (tuple : SocketTuple) (diagIfindex : Option ℕ) (topology : TopologySnapshot)
    (first : RouteFact) (rest : List RouteFact) (ifindices : List ℕ) : Prop where
  unique : ambiguous (first :: rest) = false
  unicast : (representative first rest).type = rtnUnicast
  singlePath : (representative first rest).multipath = []
  table : tableRank (representative first rest).table ≠ 2
  output : ifindices ≠ []
  diag : .diagIfindexConflicts ∉ diagReasons diagIfindex ifindices
  localAddress :
    .localAddressConflicts ∉ localReasons tuple topology (representative first rest) ifindices
  complete : topology.partly = false ∧ topology.degraded = false

variable {base : SocketRouteContextObservation}
theorem attributeRoute_available
    (h : (attributeRoute base tuple topology uplink first rest).attributionStatus = .available) :
    Unopposed tuple base.diagIfindex topology first rest
      (possibleIfindices (first :: rest) (representative first rest)) := by
  simp only [attributeRoute] at h
  split_ifs at h with hexact
  simp only [exact, Bool.and_eq_true, Bool.not_eq_true', decide_eq_true_eq, Finset.mem_union,
    not_or, List.isEmpty_iff] at hexact
  obtain ⟨⟨⟨⟨⟨⟨⟨⟨hunique, hforward⟩, hpath⟩, hdiag⟩, hlocal⟩, hmissing⟩, hpolicy⟩, hpartly⟩,
    hdegraded⟩ := hexact
  have htype : (representative first rest).type = rtnUnicast := beq_iff_eq.mp hforward
  refine ⟨hunique, htype, hpath, fun hrank => ?_, fun hnone => ?_, hdiag.1.2, hlocal.2,
    hpartly, hdegraded⟩
  · exact hpolicy.1.1.2 (by simp [routeReasons, hrank])
  · exact hmissing.1.1.2 (by simp [routeReasons, hforward, hnone])

theorem Unopposed.single (h : Unopposed tuple diagIfindex topology first rest
      (possibleIfindices (first :: rest) (representative first rest))) :
    ∃ ifindex, (representative first rest).outputIfindex = some ifindex ∧
      possibleIfindices (first :: rest) (representative first rest) = [ifindex] := by
  have hforward : normalForwardRoute (representative first rest) := by
    rw [normalForwardRoute, h.unicast, beq_self_eq_true]
  have hsome := h.output
  rw [possibleIfindices, if_neg (Bool.eq_false_iff.mp h.unique), forwardOutputs, if_pos hforward,
    outputs, h.singlePath] at hsome ⊢
  cases houtput : (representative first rest).outputIfindex with
  | none =>
    rw [houtput] at hsome
    exact absurd rfl hsome
  | some ifindex =>
    rw [houtput] at hsome
    refine ⟨ifindex, rfl, ?_⟩
    by_cases hzero : ifindex = 0
    · rw [hzero] at hsome
      exact absurd rfl hsome
    · simp [hzero]

theorem localAddress_known (hfamily : tuple.localEnd.family = tuple.family)
    (h : .localAddressConflicts ∉ localReasons tuple topology route [i]) :
    (∃ address ∈ topology.addresses, address.netns = topology.netns ∧
        address.family = tuple.localEnd.family ∧ address.address = tuple.localEnd.address ∧
        address.interface.ifindex = i) ∨
      route.preferredSource = some tuple.localEnd.address := by
  by_contra hneither
  obtain ⟨hconfigured, hpreferred⟩ := not_or.mp hneither
  have hagrees : localAgrees tuple topology [i] = false := by
    rw [localAgrees, any_eq_false]
    intro address hmem hmatch
    simp only [Bool.and_eq_true, beq_iff_eq, contains_iff_mem, mem_singleton] at hmatch
    exact hconfigured ⟨address, hmem, hmatch.1.1.1, hmatch.1.1.2, hmatch.1.2, hmatch.2⟩
  apply h
  simp [localReasons, hagrees, hpreferred, hfamily]

structure Established (tuple : SocketTuple) (diagIfindex : Option ℕ)
    (topology : TopologySnapshot) (context : SocketRouteContextObservation) (route : RouteFact)
    (ifindex : ℕ) : Prop where
  netns : tuple.netns = topology.netns
  authoritative : topology.authoritative = true
  complete : topology.partly = false ∧ topology.degraded = false
  reported : context.route = some (summary route)
  known : route ∈ topology.routes
  isModeled : modeled topology route = true
  leads : prefixMatches tuple.remoteEnd route = true
  longest : ∀ other ∈ topology.routes, modeled topology other = true →
    prefixMatches tuple.remoteEnd other = true → other.destinationPrefix ≤ route.destinationPrefix
  unicast : route.type = rtnUnicast
  singlePath : route.multipath = []
  table : route.table = rtTableMain ∨ route.table = rtTableDefault
  output : route.outputIfindex = some ifindex
  selected : context.selectedInterface.map InterfaceId.ifindex = some ifindex
  diag : diagIfindex = none ∨ diagIfindex = some 0 ∨ diagIfindex = some ifindex
  localAddress : (∃ address ∈ topology.addresses, address.netns = topology.netns ∧
      address.family = tuple.localEnd.family ∧ address.address = tuple.localEnd.address ∧
      address.interface.ifindex = ifindex) ∨
    route.preferredSource = some tuple.localEnd.address

theorem tableRank_ne_two {table : ℕ} (h : tableRank table ≠ 2) :
    table = rtTableMain ∨ table = rtTableDefault := by
  by_contra hother
  obtain ⟨hmain, hdefault⟩ := not_or.mp hother
  exact h (by rw [tableRank, if_neg hmain, if_neg hdefault])

theorem selectedInterface_single (hunicast : (representative first rest).type = rtnUnicast)
    (hsingle : possibleIfindices (first :: rest) (representative first rest) = [i]) :
    (attributeRoute base tuple topology uplink first rest).selectedInterface =
      some (interfaceFor topology i) := by
  have hlocal : localRoute (representative first rest) = false := by
    rw [localRoute, hunicast]
    rfl
  simp [attributeRoute, hsingle, hlocal]

theorem diagIfindex_cases {ifindex : ℕ}
    (h : .diagIfindexConflicts ∉ diagReasons diagIfindex [ifindex]) :
    diagIfindex = none ∨ diagIfindex = some 0 ∨ diagIfindex = some ifindex := by
  rw [diagIfindexConflicts_diagReasons, not_and, not_not, mem_singleton] at h
  cases diagIfindex with
  | none => exact .inl rfl
  | some diag =>
    by_cases hzero : diag = 0
    · exact .inr (.inl (congrArg some hzero))
    · exact .inr (.inr (congrArg some (h hzero)))

/-- An available attribution names a route and an interface that everything known about the socket
agrees with. -/
theorem available_established (id : SocketId) (tuple : SocketTuple) (diagIfindex : Option ℕ)
    (topology : TopologySnapshot) (uplink : UplinkSelection)
    (hfamily : tuple.localEnd.family = tuple.family)
    (hlinks : ∀ ifindex link, topology.links.find? ifindex = some link →
      link.interface.ifindex = ifindex)
    (havailable : (attributeTuple id tuple diagIfindex topology uplink).attributionStatus =
      .available) :
    ∃ route ifindex, Established tuple diagIfindex topology
      (attributeTuple id tuple diagIfindex topology uplink) route ifindex := by
  rw [attributeTuple] at havailable ⊢
  cases husable : usable tuple topology with
  | false =>
    rw [husable] at havailable
    cases havailable
  | true =>
    rw [husable] at havailable
    have hsnapshot : tuple.netns = topology.netns ∧ topology.authoritative := by
      simpa [usable] using husable
    cases htied : tied (candidates tuple.remoteEnd topology) with
    | nil =>
      rw [htied] at havailable
      cases havailable
    | cons first rest =>
      rw [htied] at havailable
      have hagreed := attributeRoute_available havailable
      obtain ⟨ifindex, houtput, hsingle⟩ := hagreed.single
      have hmem : representative first rest ∈ tied (candidates tuple.remoteEnd topology) := by
        rw [htied]
        exact minElement_mem ..
      obtain ⟨⟨hknown, hmodeled, hleads⟩, hlongest⟩ := mem_tied_candidates.mp hmem
      have hdiag := hagreed.diag
      have hlocal := hagreed.localAddress
      rw [hsingle] at hdiag hlocal
      refine ⟨representative first rest, ifindex, hsnapshot.1, hsnapshot.2, hagreed.complete, rfl,
        hknown, hmodeled, hleads, fun other hother hothers hmatch => ?_, hagreed.unicast,
        hagreed.singlePath, tableRank_ne_two hagreed.table, houtput, ?_, diagIfindex_cases hdiag,
        localAddress_known hfamily hlocal⟩
      · exact (hlongest other hother hothers hmatch).1
      · refine (congrArg _ (selectedInterface_single hagreed.unicast hsingle)).trans ?_
        exact congrArg some (interfaceFor_ifindex hlinks ifindex)

theorem available_established_sample : ∃ route ifindex,
    Established mappedTuple.embedded none (sampleTopology [defaultRoute])
      (attributeTuple ⟨⟨4, 1⟩, some 1, 1⟩ mappedTuple.embedded none
        (sampleTopology [defaultRoute]) .blank) route ifindex :=
  available_established ⟨⟨4, 1⟩, some 1, 1⟩ mappedTuple.embedded none
    (sampleTopology [defaultRoute]) .blank rfl (fun _ _ hlink => absurd hlink nofun)
    (by decide +kernel)
end WeakNet.SocketRouteAttributor
