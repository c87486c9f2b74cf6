import WeakNet.NetlinkTopology

/-! `SocketRouteAttributor::attribute`, whose two overloads are `attributeTuple` and
`attributeSocket`: the matching routes are narrowed to the longest prefix and then to the best table
and metric, and the one with the smallest identity is reported. Several outputs among the routes
left make it ambiguous. -/

namespace WeakNet
open Foundation List

def rtnLocal : ℕ := 2
def rtnBlackhole : ℕ := 6
def rtnUnreachable : ℕ := 7
def rtnProhibit : ℕ := 8

def Address.byte (a : Address) (i : ℕ) : UInt8 := a.bytes.getD i 0

namespace SocketEndpoint

/-- `::ffff:a.b.c.d`, as the kernel reports an IPv4 connection of a dual-stack socket. -/
def Ipv4Mapped (e : SocketEndpoint) : Prop :=
  e.family = afInet6 ∧ e.address.bytes.take 12 = List.replicate 10 0 ++ [255, 255]

def embedded (e : SocketEndpoint) : SocketEndpoint where
  family := afInet
  address := Address.ofBytes 4 (e.address.bytes.drop 12)
  port := e.port
end SocketEndpoint

namespace SocketTuple
def Ipv4Mapped (t : SocketTuple) : Prop :=
  t.family = afInet6 ∧ t.localEnd.Ipv4Mapped ∧ t.remoteEnd.Ipv4Mapped

def embedded (t : SocketTuple) : SocketTuple where
  netns := t.netns
  protocol := t.protocol
  family := afInet
  localEnd := t.localEnd.embedded
  remoteEnd := t.remoteEnd.embedded
end SocketTuple

namespace SocketRouteAttributor
def supportedFamily (family : ℕ) : Bool := family == afInet || family == afInet6

def normalForwardRoute (route : RouteFact) : Bool := route.type == rtnUnicast

def localRoute (route : RouteFact) : Bool := route.type == rtnLocal

def tableRank (table : ℕ) : ℕ :=
  if table = rtTableMain then 0 else if table = rtTableDefault then 1 else 2

def outputs (route : RouteFact) : List ℕ :=
  (route.outputIfindex.toList ++ route.multipath.map RouteNexthop.ifindex).filter (· != 0)

def sameOutput (left right : RouteFact) : Bool :=
  decide ((outputs left).toFinset = (outputs right).toFinset) && left.type == right.type

/-- `0xffU << (8U - remainder)` cut to a byte. -/
def prefixMask (remainder : ℕ) : UInt8 := UInt8.ofNat (255 * 2 ^ (8 - remainder))

def prefixMatches (destination : SocketEndpoint) (route : RouteFact) : Bool :=
  let full := route.destinationPrefix / 8
  let remainder := route.destinationPrefix % 8
  supportedFamily destination.family && destination.family == route.family &&
    decide (route.destinationPrefix ≤ if destination.family = afInet then 32 else 128) &&
    destination.address.bytes.take full == route.destination.bytes.take full &&
    (remainder == 0 ||
      destination.address.byte full &&& prefixMask remainder ==
        route.destination.byte full &&& prefixMask remainder)

def interfaceFor (topology : TopologySnapshot) (ifindex : ℕ) : InterfaceId :=
  match topology.links.find? ifindex with
  | some link => if link.netns = topology.netns then link.interface else ⟨ifindex, []⟩
  | none => ⟨ifindex, []⟩

def modeledType (type : ℕ) : Bool :=
  type == rtnUnicast || type == rtnLocal || type == rtnBlackhole || type == rtnUnreachable ||
    type == rtnProhibit

def modeled (topology : TopologySnapshot) (route : RouteFact) : Bool :=
  route.present && route.netns == topology.netns && supportedFamily route.family &&
    modeledType route.type

def candidates (remote : SocketEndpoint) (topology : TopologySnapshot) : List RouteFact :=
  topology.routes.filter fun route => modeled topology route && prefixMatches remote route

/-- The routes whose key is the first one in the order `before`. -/
def keepBest {κ : Type} [DecidableEq κ] (key : RouteFact → κ) (before : κ → κ → Bool) :
    List RouteFact → List RouteFact
  | [] => []
  | first :: rest =>
    let best := key (minElement (fun a b => before (key a) (key b)) first rest)
    (first :: rest).filter fun route => key route == best

def rank (route : RouteFact) : List ℕ := [tableRank route.table, route.priority]

def tied (found : List RouteFact) : List RouteFact :=
  keepBest rank (fun a b => a < b)
    (keepBest RouteFact.destinationPrefix (fun a b => b < a) found)

def ambiguous : List RouteFact → Bool
  | [] => false
  | first :: rest => rest.any fun route => !sameOutput first route

def representative (first : RouteFact) (rest : List RouteFact) : RouteFact :=
  minElement (fun a b => a.identity.map Char.toNat < b.identity.map Char.toNat) first rest

def summary (route : RouteFact) : MatchedRouteSummary where
  identity := String.ofList route.identity
  family := route.family
  prefixLength := route.destinationPrefix
  table := route.table
  priority := route.priority
  type := route.type
  gateway := route.gateway
  preferredSource := route.preferredSource
  nexthopIfindices := route.multipath.map RouteNexthop.ifindex
  nexthopGateways := route.multipath.map RouteNexthop.gateway
  onLink := normalForwardRoute route && route.onLink
  multipath := !route.multipath.isEmpty

def forwardOutputs (route : RouteFact) : List ℕ :=
  if normalForwardRoute route then outputs route else []

/-- The contents of the `std::set` of interfaces, in order: those of every tied route when
they disagree, those of the reported one otherwise. -/
def possibleIfindices (routes : List RouteFact) (route : RouteFact) : List ℕ :=
  (if ambiguous routes then routes.flatMap forwardOutputs
    else forwardOutputs route).dedup.insertionSort (· ≤ ·)

/-- `reasons |= condition ? reason : None`. -/
def flag (condition : Bool) (reason : RouteAttributionReason) : Finset RouteAttributionReason :=
  if condition then {reason} else ∅

variable {r : RouteAttributionReason} {remote : SocketEndpoint} {route : RouteFact}
@[simp] theorem mem_flag {condition : Bool} {reason : RouteAttributionReason} :
    r ∈ flag condition reason ↔ condition ∧ r = reason := by
  cases condition <;> simp [flag]

def routeReasons (isAmbiguous : Bool) (route : RouteFact) (ifindices : List ℕ) :
    Finset RouteAttributionReason :=
  flag isAmbiguous .ambiguousCandidate ∪
    flag (normalForwardRoute route && ifindices.isEmpty) .missingOutputInterface ∪
    flag (route.gateway.isSome || route.multipath.any (·.gateway != Address.zero))
      .gatewayEvidence ∪
    flag (route.onLink && normalForwardRoute route) .onLinkEvidence ∪
    flag (localRoute route) .localRoute ∪
    flag ((!normalForwardRoute route && !localRoute route) || tableRank route.table == 2)
      .policyRoutingNotModeled

def diagReasons (diagIfindex : Option ℕ) (ifindices : List ℕ) : Finset RouteAttributionReason :=
  match diagIfindex.getD 0 with
  | 0 => ∅
  | i => {if i ∈ ifindices then .diagIfindexAgrees else .diagIfindexConflicts}

def localAgrees (tuple : SocketTuple) (topology : TopologySnapshot) (ifindices : List ℕ) : Bool :=
  topology.addresses.any fun address =>
    address.netns == topology.netns && address.family == tuple.localEnd.family &&
      address.address == tuple.localEnd.address && ifindices.contains address.interface.ifindex

/-- A preferred source other than the local address conflicts even when an interface address
agrees. -/
def localReasons (tuple : SocketTuple) (topology : TopologySnapshot) (route : RouteFact)
    (ifindices : List ℕ) : Finset RouteAttributionReason :=
  let agrees := localAgrees tuple topology ifindices ||
    route.preferredSource == some tuple.localEnd.address
  flag agrees .localAddressAgrees ∪
    flag ((!agrees && !ifindices.isEmpty && tuple.localEnd.family == tuple.family) ||
      route.preferredSource.any (· != tuple.localEnd.address)) .localAddressConflicts

def relationship (isLocal : Bool) (uplink : UplinkSelection) (possible : List InterfaceId) :
    SelectedUplinkRelationship :=
  if isLocal then .nonUplinkLocal
  else match uplink.interface with
    | none => .unknown
    | some selected =>
      if possible = [] then .unknown
      else if possible.any (·.same selected) then
        if possible.length = 1 then .matchesSelectedUplink else .possibleSelectedUplink
      else .differentFromSelectedUplink

def exact (topology : TopologySnapshot) (isAmbiguous : Bool) (route : RouteFact)
    (reasons : Finset RouteAttributionReason) : Bool :=
  !isAmbiguous && normalForwardRoute route && route.multipath.isEmpty &&
    decide (.diagIfindexConflicts ∉ reasons) && decide (.localAddressConflicts ∉ reasons) &&
    decide (.missingOutputInterface ∉ reasons) && decide (.policyRoutingNotModeled ∉ reasons) &&
    !topology.partly && !topology.degraded

/-- The end of `attribute`, once routes are left; `base` holds the fields set before and
`first :: rest` are the tied routes. -/
def attributeRoute (base : SocketRouteContextObservation) (tuple : SocketTuple)
    (topology : TopologySnapshot) (uplink : UplinkSelection) (first : RouteFact)
    (rest : List RouteFact) : SocketRouteContextObservation :=
  let isAmbiguous := ambiguous (first :: rest)
  let route := representative first rest
  let ifindices := possibleIfindices (first :: rest) route
  let possible := ifindices.map (interfaceFor topology)
  let reasons := base.reasons ∪ routeReasons isAmbiguous route ifindices ∪
    diagReasons base.diagIfindex ifindices ∪ localReasons tuple topology route ifindices
  let available := exact topology isAmbiguous route reasons
  { base with
    route := some (summary route)
    possibleInterfaces := possible
    selectedInterface :=
      if !localRoute route && possible.length == 1 then possible.head? else none
    uplinkRelationship := relationship (localRoute route) uplink possible
    attributionStatus := if available then .available
      else if isAmbiguous then .ambiguous else .partly
    reasons := reasons ∪ flag available .exactModeledMatch ∪
      flag (!available && !isAmbiguous && !route.multipath.isEmpty) .multipathWithoutFlowHash }

def usable (tuple : SocketTuple) (topology : TopologySnapshot) : Bool :=
  tuple.netns == topology.netns && topology.authoritative

def unattributed (id : SocketId) (tuple : SocketTuple) (diagIfindex : Option ℕ)
    (topology : TopologySnapshot) (reasons : Finset RouteAttributionReason) :
    SocketRouteContextObservation where
  socketId := id
  netns := tuple.netns
  destination := tuple.remoteEnd
  route := none
  possibleInterfaces := []
  selectedInterface := none
  uplinkRelationship := .unknown
  diagIfindex := diagIfindex
  attributionStatus := .unavailable
  reasons := reasons ∪ flag (diagIfindex.getD 0 == 0) .diagIfindexUnavailable
  topologyGeneration := topology.generation
  topologyAuthoritative := topology.authoritative

def qualityReasons (topology : TopologySnapshot) : Finset RouteAttributionReason :=
  flag topology.partly .topologyPartial ∪ flag topology.degraded .topologyDegraded

/-- The narrowing leaves at least one of several candidates, so the first case is the one in
which there are none. -/
def attributeTuple (id : SocketId) (tuple : SocketTuple) (diagIfindex : Option ℕ)
    (topology : TopologySnapshot) (uplink : UplinkSelection) : SocketRouteContextObservation :=
  if usable tuple topology then
    match tied (candidates tuple.remoteEnd topology) with
    | [] => unattributed id tuple diagIfindex topology
        (qualityReasons topology ∪ {.noModeledRoute})
    | first :: rest =>
      attributeRoute (unattributed id tuple diagIfindex topology (qualityReasons topology)) tuple
        topology uplink first rest
  else unattributed id tuple diagIfindex topology {.topologyNonAuthoritative}

def attributeSocket (socket : SocketObservation) (topology : TopologySnapshot)
    (uplink : UplinkSelection) : SocketRouteContextObservation :=
  attributeTuple socket.id socket.tuple socket.diagIfindex topology uplink

section Selection
variable {found : List RouteFact} {r : RouteFact} {κ : Type} [DecidableEq κ] {key : RouteFact → κ} {order : κ → κ → Bool}
theorem keepBest_subset : keepBest key order found ⊆ found := by
  cases found with
  | nil => exact List.Subset.refl _
  | cons _ _ => exact filter_subset_self _

theorem keepBest_eq_nil : keepBest key order found = [] ↔ found = [] := by
  cases found with
  | nil => exact Iff.rfl
  | cons first rest =>
    have hbest : minElement (fun a b => order (key a) (key b)) first rest ∈
        keepBest key order (first :: rest) :=
      mem_filter.mpr ⟨minElement_mem first rest, beq_self_eq_true _⟩
    refine ⟨fun hnil => ?_, fun hnil => ?_⟩
    · rw [hnil] at hbest
      cases hbest
    · cases hnil

theorem mem_keepBest {ι : Type*} [LinearOrder ι] (f : κ → ι) (hf : Function.Injective f)
    (horder : ∀ a b, order a b = decide (f a < f b)) :
    r ∈ keepBest key order found ↔ r ∈ found ∧ ∀ other ∈ found, f (key r) ≤ f (key other) := by
  cases found with
  | nil => simp [keepBest]
  | cons first rest =>
    have hscan : minElement (fun a b => order (key a) (key b)) first rest =
        minBy (f ∘ key) first rest := by
      simp only [horder]
      rfl
    rw [keepBest, mem_filter, beq_iff_eq, hscan]
    have hmin : ∀ other ∈ first :: rest,
        (f ∘ key) (minBy (f ∘ key) first rest) ≤ (f ∘ key) other := minBy_le
    refine and_congr_right fun hr => ⟨fun hkey other hother => ?_, fun hleast => ?_⟩
    · rw [hkey]
      exact hmin other hother
    · apply hf
      exact le_antisymm (hleast _ minBy_mem) (hmin r hr)

theorem mem_tied : r ∈ tied found ↔ r ∈ found ∧
    (∀ other ∈ found, other.destinationPrefix ≤ r.destinationPrefix) ∧
    ∀ other ∈ found, other.destinationPrefix = r.destinationPrefix → rank r ≤ rank other := by
  have hlongest : ∀ {r}, r ∈ keepBest RouteFact.destinationPrefix (fun a b => b < a) found ↔
      r ∈ found ∧ ∀ other ∈ found, other.destinationPrefix ≤ r.destinationPrefix := fun {r} =>
    mem_keepBest OrderDual.toDual OrderDual.toDual.injective fun _ _ => rfl
  have hbest : ∀ {left}, r ∈ keepBest rank (fun a b => a < b) left ↔
      r ∈ left ∧ ∀ other ∈ left, rank r ≤ rank other :=
    mem_keepBest id Function.injective_id fun _ _ => decide_eq_decide.mpr Iff.rfl
  rw [tied, hbest, hlongest, and_assoc]
  refine and_congr_right fun hr => and_congr_right fun hlong => ⟨fun h other hother heq => ?_,
    fun h other hother => ?_⟩
  · refine h other (hlongest.mpr ⟨hother, fun third hthird => ?_⟩)
    rw [heq]
    exact hlong third hthird
  · obtain ⟨hother, hlong'⟩ := hlongest.mp hother
    exact h other hother (le_antisymm (hlong other hother) (hlong' r hr))

theorem tied_subset : tied found ⊆ found := List.Subset.trans keepBest_subset keepBest_subset

theorem tied_eq_nil : tied found = [] ↔ found = [] := by
  rw [tied, keepBest_eq_nil, keepBest_eq_nil]
end Selection

def aboutTopology : RouteAttributionReason → Bool
  | .topologyNonAuthoritative | .topologyPartial | .topologyDegraded | .noModeledRoute => true
  | _ => false

variable {id : SocketId} {tuple : SocketTuple} {diagIfindex : Option ℕ}
  {topology : TopologySnapshot} {uplink : UplinkSelection}

section
variable (base : SocketRouteContextObservation)
theorem mem_reasons_attributeRoute (first : RouteFact) (rest : List RouteFact)
    (hr : aboutTopology r) :
    r ∈ (attributeRoute base tuple topology uplink first rest).reasons ↔ r ∈ base.reasons := by
  have hdiag : ∀ ifindices, r ∉ diagReasons base.diagIfindex ifindices := by
    intro ifindices
    rw [diagReasons]
    split
    · exact Finset.notMem_empty r
    · split_ifs <;> cases r <;> simp_all [aboutTopology]
  cases r <;> simp_all [aboutTopology, attributeRoute, routeReasons, localReasons]

theorem attributeRoute_status (tuple : SocketTuple) (topology : TopologySnapshot)
    (uplink : UplinkSelection) (first : RouteFact) (rest : List RouteFact) :
    (attributeRoute base tuple topology uplink first rest).attributionStatus ≠ .unavailable ∧
      ((attributeRoute base tuple topology uplink first rest).attributionStatus = .available →
        topology.partly = false ∧ topology.degraded = false) := by
  simp only [attributeRoute]
  split_ifs with hexact hambiguous
  · simp only [exact, Bool.and_eq_true, Bool.not_eq_true'] at hexact
    exact ⟨nofun, fun _ => ⟨hexact.1.2, hexact.2⟩⟩
  all_goals exact ⟨nofun, nofun⟩
end

inductive Attributed (tuple : SocketTuple) (topology : TopologySnapshot)
    (context : SocketRouteContextObservation) : Prop
  | foreign (hunusable : usable tuple topology = false) (hroute : context.route = none)
    (hstatus : context.attributionStatus = .unavailable)
    (hreasons : ∀ r, aboutTopology r = true →
      (r ∈ context.reasons ↔ r = .topologyNonAuthoritative))
  | unrouted (husable : usable tuple topology = true)
    (hnone : candidates tuple.remoteEnd topology = []) (hroute : context.route = none)
    (hstatus : context.attributionStatus = .unavailable)
    (hreasons : ∀ r, aboutTopology r = true →
      (r ∈ context.reasons ↔ r ∈ qualityReasons topology ∨ r = .noModeledRoute))
  | routed (husable : usable tuple topology = true) (route : RouteFact)
    (hmem : route ∈ candidates tuple.remoteEnd topology)
    (hroute : context.route = some (summary route))
    (hstatus : context.attributionStatus ≠ .unavailable)
    (havailable : context.attributionStatus = .available →
      topology.partly = false ∧ topology.degraded = false)
    (hreasons : ∀ r, aboutTopology r = true →
      (r ∈ context.reasons ↔ r ∈ qualityReasons topology))

theorem mem_reasons_unattributed (reasons : Finset RouteAttributionReason)
    (hr : aboutTopology r) :
    r ∈ (unattributed id tuple diagIfindex topology reasons).reasons ↔ r ∈ reasons := by
  have hne : r ≠ .diagIfindexUnavailable := by
    rintro rfl
    simp [aboutTopology] at hr
  simp [unattributed, hne]

theorem attributeTuple_attributed (id : SocketId) (tuple : SocketTuple) (diagIfindex : Option ℕ)
    (topology : TopologySnapshot) (uplink : UplinkSelection) :
    Attributed tuple topology (attributeTuple id tuple diagIfindex topology uplink) := by
  rw [attributeTuple]
  cases husable : usable tuple topology with
  | false =>
    refine .foreign husable rfl rfl fun r hr => ?_
    exact (mem_reasons_unattributed _ hr).trans Finset.mem_singleton
  | true =>
    cases htied : tied (candidates tuple.remoteEnd topology) with
    | nil =>
      refine .unrouted husable (tied_eq_nil.mp htied) rfl rfl fun r hr => ?_
      refine (mem_reasons_unattributed _ hr).trans ?_
      rw [Finset.mem_union, Finset.mem_singleton]
    | cons first rest =>
      have hstatus := attributeRoute_status (unattributed id tuple diagIfindex topology
        (qualityReasons topology)) tuple topology uplink first rest
      refine .routed husable (representative first rest) ?_ rfl hstatus.1 hstatus.2 fun r hr => ?_
      · apply tied_subset
        rw [htied]
        exact minElement_mem ..
      · exact (mem_reasons_attributeRoute _ first rest hr).trans (mem_reasons_unattributed _ hr)

variable (id tuple diagIfindex topology uplink) in
theorem attributeTuple_frame :
    (attributeTuple id tuple diagIfindex topology uplink).socketId = id ∧
      (attributeTuple id tuple diagIfindex topology uplink).destination = tuple.remoteEnd := by
  rw [attributeTuple]
  cases usable tuple topology with
  | false => exact ⟨rfl, rfl⟩
  | true =>
    cases tied (candidates tuple.remoteEnd topology) with
    | nil | cons first rest => exact ⟨rfl, rfl⟩

variable (id tuple diagIfindex topology) in
theorem diagIfindexConflicts_unattributed {reasons : Finset RouteAttributionReason}
    (h : .diagIfindexConflicts ∉ reasons) :
    .diagIfindexConflicts ∉ (unattributed id tuple diagIfindex topology reasons).reasons := by
  simp [unattributed, h]

theorem diagIfindexConflicts_diagReasons {ifindices : List ℕ} :
    .diagIfindexConflicts ∈ diagReasons diagIfindex ifindices ↔
      diagIfindex.getD 0 ≠ 0 ∧ diagIfindex.getD 0 ∉ ifindices := by
  rw [diagReasons]
  cases diagIfindex.getD 0 with
  | zero => simp
  | succ i => by_cases hmem : i + 1 ∈ ifindices <;> simp [hmem]

theorem diagIfindexConflicts_attributeRoute (base : SocketRouteContextObservation)
    (h : .diagIfindexConflicts ∉ base.reasons) (first : RouteFact) (rest : List RouteFact) :
    .diagIfindexConflicts ∈ (attributeRoute base tuple topology uplink first rest).reasons ↔
      .diagIfindexConflicts ∈ diagReasons base.diagIfindex
        (possibleIfindices (first :: rest) (representative first rest)) := by
  simp [attributeRoute, routeReasons, localReasons, h]

theorem diagIfindexConflicts_iff :
    .diagIfindexConflicts ∈ (attributeTuple id tuple diagIfindex topology uplink).reasons ↔
      usable tuple topology ∧ diagIfindex.getD 0 ≠ 0 ∧ ∃ first rest,
        tied (candidates tuple.remoteEnd topology) = first :: rest ∧
          diagIfindex.getD 0 ∉ possibleIfindices (first :: rest) (representative first rest) := by
  rw [attributeTuple]
  have hquality : .diagIfindexConflicts ∉ qualityReasons topology := by simp [qualityReasons]
  cases husable : usable tuple topology with
  | false =>
    refine ⟨fun h => ?_, fun h => absurd h.1 Bool.false_ne_true⟩
    exact absurd h (diagIfindexConflicts_unattributed id tuple diagIfindex topology (by decide))
  | true =>
    cases htied : tied (candidates tuple.remoteEnd topology) with
    | nil =>
      refine ⟨fun h => ?_, fun h => ?_⟩
      · refine absurd h (diagIfindexConflicts_unattributed id tuple diagIfindex topology ?_)
        simp [hquality]
      · obtain ⟨-, -, first, rest, hcons, -⟩ := h
        cases hcons
    | cons first rest =>
      have hbase := diagIfindexConflicts_unattributed id tuple diagIfindex topology hquality
      refine (diagIfindexConflicts_attributeRoute _ hbase first rest).trans
        (diagIfindexConflicts_diagReasons.trans ⟨fun h => ?_, fun h => ?_⟩)
      · exact ⟨rfl, h.1, first, rest, rfl, h.2⟩
      · obtain ⟨-, hzero, first', rest', hcons, hmem⟩ := h
        cases hcons
        exact ⟨hzero, hmem⟩

theorem attributeTuple_degraded (husable : usable tuple topology)
    (hdegraded : topology.degraded) :
    .topologyDegraded ∈ (attributeTuple id tuple diagIfindex topology uplink).reasons ∧
      (attributeTuple id tuple diagIfindex topology uplink).attributionStatus ≠ .available := by
  have hquality : .topologyDegraded ∈ qualityReasons topology := by simp [qualityReasons, hdegraded]
  cases attributeTuple_attributed id tuple diagIfindex topology uplink with
  | foreign hunusable => exact absurd (husable.symm.trans hunusable) nofun
  | unrouted _ _ _ hstatus hreasons =>
    refine ⟨(hreasons _ rfl).mpr (.inl hquality), ?_⟩
    rw [hstatus]
    nofun
  | routed _ _ _ _ _ havailable hreasons =>
    refine ⟨(hreasons _ rfl).mpr hquality, fun hstatus => ?_⟩
    exact absurd (hdegraded.symm.trans (havailable hstatus).2) nofun

theorem attributeTuple_missing
    (hstatus : (attributeTuple id tuple diagIfindex topology uplink).attributionStatus =
      .unavailable)
    (hauthority : .topologyNonAuthoritative ∉
      (attributeTuple id tuple diagIfindex topology uplink).reasons)
    (hcomplete : .topologyPartial ∉ (attributeTuple id tuple diagIfindex topology uplink).reasons)
    (hdegraded : .topologyDegraded ∉
      (attributeTuple id tuple diagIfindex topology uplink).reasons) :
    usable tuple topology ∧ topology.partly = false ∧ topology.degraded = false ∧
      candidates tuple.remoteEnd topology = [] := by
  cases attributeTuple_attributed id tuple diagIfindex topology uplink with
  | foreign _ _ _ hreasons => exact absurd ((hreasons _ rfl).mpr rfl) hauthority
  | unrouted husable hnone _ _ hreasons =>
    refine ⟨husable, Bool.eq_false_iff.mpr fun hpartly => ?_,
      Bool.eq_false_iff.mpr fun hflag => ?_, hnone⟩
    · refine hcomplete ((hreasons _ rfl).mpr (.inl ?_))
      simp [qualityReasons, hpartly]
    · refine hdegraded ((hreasons _ rfl).mpr (.inl ?_))
      simp [qualityReasons, hflag]
  | routed _ _ _ _ hrouted => exact absurd hstatus hrouted

def Routed (remote : SocketEndpoint) (topology : TopologySnapshot) : Prop :=
  ∃ route ∈ topology.routes, modeled topology route = true ∧ prefixMatches remote route = true

theorem mem_candidates :
    route ∈ candidates remote topology ↔ route ∈ topology.routes ∧ modeled topology route ∧
        prefixMatches remote route := by
  rw [candidates, mem_filter, Bool.and_eq_true]

theorem routed_of_mem (h : route ∈ candidates remote topology) : Routed remote topology :=
  ⟨route, mem_candidates.mp h⟩

theorem candidates_eq_nil :
    candidates remote topology = [] ↔ ¬ Routed remote topology := by
  rw [eq_nil_iff_forall_not_mem]
  refine ⟨fun hnone hrouted => ?_, fun hnone route hmem => hnone (routed_of_mem hmem)⟩
  obtain ⟨route, hroute⟩ := hrouted
  exact hnone route (mem_candidates.mpr hroute)

theorem family_of_mem_candidates (h : route ∈ candidates remote topology) :
    route.family = remote.family := by
  have hmatch := (mem_candidates.mp h).2.2
  simp only [prefixMatches, Bool.and_eq_true, beq_iff_eq] at hmatch
  exact hmatch.1.1.1.2.symm

def aboutSocket : RouteAttributionReason → Bool
  | .diagIfindexAgrees | .diagIfindexConflicts | .diagIfindexUnavailable
  | .localAddressAgrees | .localAddressConflicts => true
  | _ => false

structure SameAttribution (a b : SocketRouteContextObservation) : Prop where
  status : a.attributionStatus = b.attributionStatus
  route : a.route = b.route
  possibleInterfaces : a.possibleInterfaces = b.possibleInterfaces
  reasons : ∀ r, aboutSocket r = true → (r ∈ a.reasons ↔ r ∈ b.reasons)

theorem attributeTuple_foreign (h : usable tuple topology = false) :
    attributeTuple id tuple diagIfindex topology uplink =
      unattributed id tuple diagIfindex topology {.topologyNonAuthoritative} := by
  rw [attributeTuple, if_neg (by simp [h])]

theorem attributeTuple_unrouted (h : usable tuple topology)
    (hnone : ¬ Routed tuple.remoteEnd topology) :
    attributeTuple id tuple diagIfindex topology uplink =
      unattributed id tuple diagIfindex topology (qualityReasons topology ∪ {.noModeledRoute}) := by
  rw [attributeTuple, if_pos h, tied_eq_nil.mpr (candidates_eq_nil.mpr hnone)]

theorem route_eq_none_iff (h : usable tuple topology) :
    (attributeTuple id tuple diagIfindex topology uplink).route = none ↔
      ¬ Routed tuple.remoteEnd topology := by
  cases attributeTuple_attributed id tuple diagIfindex topology uplink with
  | foreign hunusable => exact absurd (h.symm.trans hunusable) nofun
  | unrouted _ hnone hroute => exact ⟨fun _ => candidates_eq_nil.mp hnone, fun _ => hroute⟩
  | routed _ _ hmem hroute =>
    refine ⟨fun hnone => ?_, fun hnone => absurd (routed_of_mem hmem) hnone⟩
    rw [hroute] at hnone
    cases hnone

theorem route_family {matched : MatchedRouteSummary}
    (h : (attributeTuple id tuple diagIfindex topology uplink).route = some matched) :
    matched.family = tuple.remoteEnd.family := by
  cases attributeTuple_attributed id tuple diagIfindex topology uplink with
  | foreign _ hroute | unrouted _ _ hroute => exact absurd (hroute.symm.trans h) nofun
  | routed _ _ hmem hroute =>
    obtain rfl := Option.some.inj (hroute.symm.trans h)
    exact family_of_mem_candidates hmem

theorem mapped_attribution_iff (id : SocketId) (tuple : SocketTuple) (hmapped : tuple.Ipv4Mapped)
    (diagIfindex : Option ℕ) (topology : TopologySnapshot)
    (hauthoritative : topology.authoritative = true) (uplink : UplinkSelection) :
    SameAttribution (attributeTuple id tuple diagIfindex topology uplink)
        (attributeTuple id tuple.embedded diagIfindex topology uplink) ↔
      (tuple.netns = topology.netns →
        ¬ Routed tuple.remoteEnd topology ∧ ¬ Routed tuple.embedded.remoteEnd topology) := by
  have hfamily : tuple.remoteEnd.family = afInet6 := hmapped.2.2.1
  by_cases hnetns : tuple.netns = topology.netns
  · have husable : usable tuple topology := by simp [usable, hnetns, hauthoritative]
    have husable' : usable tuple.embedded topology := husable
    refine ⟨fun h _ => ?_, fun h => ?_⟩
    · have hroutes := h.route
      cases hroute : (attributeTuple id tuple diagIfindex topology uplink).route with
      | none =>
        rw [hroute] at hroutes
        exact ⟨(route_eq_none_iff husable).mp hroute, (route_eq_none_iff husable').mp hroutes.symm⟩
      | some matched =>
        -- the reported route would have both families
        rw [hroute] at hroutes
        have hsix := (route_family hroute).trans hfamily
        have hfour : matched.family = afInet := route_family hroutes.symm
        rw [hsix] at hfour
        cases hfour
    · obtain ⟨hnone, hnone'⟩ := h hnetns
      rw [attributeTuple_unrouted husable hnone, attributeTuple_unrouted husable' hnone']
      exact ⟨rfl, rfl, rfl, fun _ _ => Iff.rfl⟩
  · have hforeign : usable tuple topology = false := by simp [usable, hnetns]
    have hforeign' : usable tuple.embedded topology = false := hforeign
    refine ⟨fun _ h => absurd h hnetns, fun _ => ?_⟩
    rw [attributeTuple_foreign hforeign, attributeTuple_foreign hforeign']
    exact ⟨rfl, rfl, rfl, fun _ _ => Iff.rfl⟩

section Sample
def mappedTuple : SocketTuple where
  netns := ⟨4, 1⟩
  protocol := .tcp
  family := afInet6
  localEnd := ⟨afInet6, Address.ofBytes 16 (List.replicate 10 0 ++ [255, 255, 10, 0, 0, 2]), 40000⟩
  remoteEnd :=
    ⟨afInet6, Address.ofBytes 16 (List.replicate 10 0 ++ [255, 255, 192, 0, 2, 1]), 443⟩

def defaultRoute : RouteFact where
  netns := ⟨4, 1⟩
  family := afInet
  destinationPrefix := 0
  destination := Address.zero
  table := rtTableMain
  priority := 100
  protocol := 3
  scope := 0
  type := rtnUnicast
  outputIfindex := some 2
  gateway := some (Address.ofBytes 4 [10, 0, 0, 1])
  preferredSource := none
  multipath := []
  present := true
  attributeMask := {.gateway, .outputInterface, .priority}

def sampleTopology (routes : List RouteFact) : TopologySnapshot where
  netns := ⟨4, 1⟩
  links := .empty
  addresses := [⟨⟨4, 1⟩, ⟨2, []⟩, afInet, 24, Address.ofBytes 4 [10, 0, 0, 2], 0, 0, true⟩]
  routes := routes
  authoritative := true
  partly := false
  degraded := false
  generation := 1

def otherRoute : RouteFact :=
  { defaultRoute with
    destinationPrefix := 16
    destination := Address.ofBytes 4 [172, 16, 0, 0] }

theorem mapped_attribution_sample :
    SameAttribution
      (attributeTuple ⟨⟨4, 1⟩, some 1, 1⟩ mappedTuple none (sampleTopology [otherRoute]) .blank)
      (attributeTuple ⟨⟨4, 1⟩, some 1, 1⟩ mappedTuple.embedded none (sampleTopology [otherRoute])
        .blank) :=
  (mapped_attribution_iff ⟨⟨4, 1⟩, some 1, 1⟩ mappedTuple ⟨rfl, ⟨rfl, rfl⟩, rfl, rfl⟩ none
    (sampleTopology [otherRoute]) rfl .blank).mpr fun _ => by
      unfold Routed
      decide +kernel

theorem mapped_socket_unrouted :
    (attributeTuple ⟨⟨4, 1⟩, some 1, 1⟩ mappedTuple.embedded none
        (sampleTopology [defaultRoute]) .blank).attributionStatus = .available ∧
      (attributeTuple ⟨⟨4, 1⟩, some 1, 1⟩ mappedTuple none
        (sampleTopology [defaultRoute]) .blank).attributionStatus = .unavailable ∧
      .noModeledRoute ∈ (attributeTuple ⟨⟨4, 1⟩, some 1, 1⟩ mappedTuple none
        (sampleTopology [defaultRoute]) .blank).reasons := by
  decide +kernel
end Sample
end SocketRouteAttributor
end WeakNet
