import WeakNet.UplinkSelection

/-! `ActiveProbe::selectGateway` takes the first IPv4 default route that has a gateway and leaves
through the selected uplink, without the type, table and metric by which `UplinkPolicy::select`
ranks routes. -/

namespace WeakNet.ActiveProbe
open Foundation UplinkPolicy List

def gatewayRoute (ifindex : ℕ) (route : RouteFact) : Bool :=
  route.present && route.isDefault && route.gateway.isSome &&
    route.outputIfindex == some ifindex && route.family == afInet && route.multipath.isEmpty

def gatewayTarget (netns : NetnsId) (interface : InterfaceId) (generation : ℕ)
    (route : RouteFact) : ProbeTarget where
  kind := .gateway
  netns := netns
  family := afInet
  address := route.gateway.getD Address.zero
  interface := some interface
  generation := generation
  provenance := String.ofList route.identity

def selectGateway (snapshot : TopologySnapshot) (uplink : UplinkSelection) (netns : NetnsId) :
    Option ProbeTarget :=
  match uplink.interface with
  | none => none
  | some interface =>
    if snapshot.authoritative && uplink.validity != .unavailable then
      (snapshot.routes.find? (gatewayRoute interface.ifindex)).map
        (gatewayTarget netns interface snapshot.generation)
    else none

theorem map_find?_perm {α β : Type*} {p : α → Bool} {f : α → β} {left right : List α}
    (h : left.Perm right) (halike : ∀ a ∈ right, p a → ∀ b ∈ right, p b → f a = f b) :
    (left.find? p).map f = (right.find? p).map f := by
  cases hleft : left.find? p with
  | none =>
    have hright : right.find? p = none := by
      rw [List.find?_eq_none] at hleft ⊢
      exact fun a ha => hleft a (h.mem_iff.mpr ha)
    rw [hright]
  | some a =>
    have ha := h.mem_iff.mp (mem_of_find?_eq_some hleft)
    cases hright : right.find? p with
    | none => exact absurd (List.find?_some hleft) (List.find?_eq_none.mp hright a ha)
    | some b =>
      exact congrArg some (halike a ha (List.find?_some hleft) b
        (mem_of_find?_eq_some hright) (List.find?_some hright))

variable {routes : List RouteFact}
theorem candidates_perm (snapshot : TopologySnapshot) (h : routes.Perm snapshot.routes) :
    (candidates { snapshot with routes := routes }).Perm (candidates snapshot) :=
  ((h.filter _).flatMap_right _).filter _

theorem select_perm (snapshot : TopologySnapshot) (h : routes.Perm snapshot.routes) :
    (select { snapshot with routes := routes }).interface = (select snapshot).interface := by
  have hperm := candidates_perm snapshot h
  exact congrArg UplinkSelection.interface (select_alike rfl ⟨rfl, rfl, rfl⟩
    (fun c hc => ⟨c, hperm.mem_iff.mpr hc, rfl⟩) fun c hc => ⟨c, hperm.mem_iff.mp hc, rfl⟩)

variable {snapshot : TopologySnapshot} {interface : InterfaceId}
theorem select_validity (h : (select snapshot).interface = some interface) :
    ((select snapshot).validity != .unavailable) := by
  rw [select] at h ⊢
  cases hfound : candidates snapshot with
  | nil =>
    rw [hfound] at h
    cases h
  | cons =>
    dsimp only
    split_ifs <;> rfl

variable {netns : NetnsId} {route : RouteFact}

section
theorem selectGateway_unselected (h : (select snapshot).interface = none) :
    selectGateway snapshot (select snapshot) netns = none := by
  rw [selectGateway, h]

theorem selectGateway_withheld (h : snapshot.authoritative = false) :
    selectGateway snapshot (select snapshot) netns = none := by
  rw [selectGateway]
  cases (select snapshot).interface with
  | none => rfl
  | some => simp [h]

section
variable (h : (select snapshot).interface = some interface)
include h
theorem selectGateway_selected (hauthoritative : snapshot.authoritative) :
    selectGateway snapshot (select snapshot) netns =
      (snapshot.routes.find? (gatewayRoute interface.ifindex)).map
        (gatewayTarget netns interface snapshot.generation) := by
  rw [selectGateway, h]
  simp [hauthoritative, select_validity h]

theorem selectGateway_front (hauthoritative : snapshot.authoritative)
    (hmem : route ∈ snapshot.routes) (hroute : gatewayRoute interface.ifindex route) :
    ∃ routes : List RouteFact, routes.Perm snapshot.routes ∧
      selectGateway { snapshot with routes := routes } (select { snapshot with routes := routes })
        netns = some (gatewayTarget netns interface snapshot.generation route) := by
  obtain ⟨before, after, hsplit⟩ := append_of_mem hmem
  have hperm : (route :: (before ++ after)).Perm snapshot.routes := by
    rw [hsplit]
    exact perm_middle.symm
  refine ⟨route :: (before ++ after), hperm, ?_⟩
  rw [selectGateway_selected ((select_perm snapshot hperm).trans h) hauthoritative]
  rw [List.find?_cons_of_pos hroute]
  rfl
end
end

/-- A default route that the selection of uplinks would consider sends through the interface, by
itself or by one of its next hops. -/
def DefaultOn (snapshot : TopologySnapshot) (ifindex : ℕ) (route : RouteFact) : Prop :=
  route ∈ snapshot.routes ∧ route.present = true ∧ route.isDefault = true ∧
    route.type = rtnUnicast ∧ route.family = afInet ∧
    (route.table = rtTableMain ∨ route.table = rtTableDefault) ∧
    ∃ offer ∈ offers route, offer.ifindex = ifindex

def order (route : RouteFact) : List ℕ :=
  [if route.table = rtTableMain then 0 else 1, route.priority]

def BestOn (snapshot : TopologySnapshot) (ifindex : ℕ) (route : RouteFact) : Prop :=
  DefaultOn snapshot ifindex route ∧
    ∀ other, DefaultOn snapshot ifindex other → order route ≤ order other

def Names (ifindex : ℕ) (route : RouteFact) (gateway : Address) : Prop :=
  (route.multipath = [] ∧ route.gateway = some gateway) ∨
    ∃ hop ∈ route.multipath, hop.ifindex = ifindex ∧ hop.gateway = gateway ∧
      gateway ≠ Address.zero

structure GatewayRule (snapshot : TopologySnapshot) (netns : NetnsId) : Prop where
  best : ∀ target, selectGateway snapshot (select snapshot) netns = some target →
    ∃ interface route, (select snapshot).interface = some interface ∧
      BestOn snapshot interface.ifindex route ∧ Names interface.ifindex route target.address
  reordered : ∀ routes : List RouteFact, routes.Perm snapshot.routes →
    selectGateway { snapshot with routes := routes } (select { snapshot with routes := routes })
      netns = selectGateway snapshot (select snapshot) netns
  unique : ∀ interface a b gateway gateway', (select snapshot).interface = some interface →
    BestOn snapshot interface.ifindex a → BestOn snapshot interface.ifindex b →
    Names interface.ifindex a gateway → Names interface.ifindex b gateway' → gateway ≠ gateway' →
    selectGateway snapshot (select snapshot) netns = none

structure Agrees (snapshot : TopologySnapshot) (ifindex : ℕ) (route : RouteFact) : Prop where
  others : ∀ other ∈ snapshot.routes, gatewayRoute ifindex other = true →
    other.gateway = route.gateway ∧ other.identity = route.identity
  some_best : ∃ best gateway, BestOn snapshot ifindex best ∧ Names ifindex best gateway ∧
    route.gateway = some gateway
  all_best : ∀ best gateway, BestOn snapshot ifindex best → Names ifindex best gateway →
    route.gateway = some gateway

section
theorem gateway_of_gatewayRoute {ifindex : ℕ} (h : gatewayRoute ifindex route) :
    route.gateway = some (route.gateway.getD Address.zero) := by
  simp only [gatewayRoute, Bool.and_eq_true] at h
  obtain ⟨gateway, hgateway⟩ := Option.isSome_iff_exists.mp h.1.1.1.2
  rw [hgateway]
  rfl

theorem gatewayTarget_inj {a b : RouteFact} {generation : ℕ}
    (h : gatewayTarget netns interface generation a = gatewayTarget netns interface generation b) :
    a.gateway.getD Address.zero = b.gateway.getD Address.zero ∧ a.identity = b.identity := by
  simp only [gatewayTarget, ProbeTarget.mk.injEq, true_and] at h
  exact ⟨h.1, String.ofList_injective h.2⟩

theorem selectGateway_some {target : ProbeTarget}
    (h : selectGateway snapshot (select snapshot) netns = some target) :
    ∃ interface route, snapshot.authoritative ∧
      (select snapshot).interface = some interface ∧ route ∈ snapshot.routes ∧
      gatewayRoute interface.ifindex route ∧
      target = gatewayTarget netns interface snapshot.generation route := by
  cases hauthoritative : snapshot.authoritative with
  | false => exact absurd ((selectGateway_withheld hauthoritative).symm.trans h) nofun
  | true =>
    cases hselected : (select snapshot).interface with
    | none => exact absurd ((selectGateway_unselected hselected).symm.trans h) nofun
    | some interface =>
      rw [selectGateway_selected hselected hauthoritative, Option.map_eq_some_iff] at h
      obtain ⟨route, hfound, htarget⟩ := h
      exact ⟨interface, route, rfl, rfl, mem_of_find?_eq_some hfound,
        List.find?_some hfound, htarget.symm⟩

theorem GatewayRule.agrees (h : GatewayRule snapshot netns)
    (hauthoritative : snapshot.authoritative)
    (hselected : (select snapshot).interface = some interface) (hmem : route ∈ snapshot.routes)
    (hroute : gatewayRoute interface.ifindex route) :
    Agrees snapshot interface.ifindex route := by
  have hchosen : ∀ other ∈ snapshot.routes, gatewayRoute interface.ifindex other →
      selectGateway snapshot (select snapshot) netns =
        some (gatewayTarget netns interface snapshot.generation other) := by
    intro other hother hsuits
    obtain ⟨routes, hperm, hfront⟩ := selectGateway_front hselected hauthoritative hother hsuits
    exact (h.reordered routes hperm).symm.trans hfront
  have hresult := hchosen route hmem hroute
  have hgateway := gateway_of_gatewayRoute hroute
  obtain ⟨_, best, hselected', hbest, hnames⟩ := h.best _ hresult
  cases hselected.symm.trans hselected'
  refine ⟨fun other hother hsuits => ?_, ⟨best, _, hbest, hnames, hgateway⟩,
    fun best' gateway' hbest' hnames' => ?_⟩
  · have hsame := gatewayTarget_inj
      (Option.some.inj ((hchosen other hother hsuits).symm.trans hresult))
    refine ⟨?_, hsame.2⟩
    rw [gateway_of_gatewayRoute hsuits, hgateway, hsame.1]
  · by_contra hother
    refine absurd (hresult.symm.trans (h.unique _ _ _ _ _ hselected hbest hbest' hnames hnames'
      fun hequal => hother ?_)) nofun
    rw [hgateway]
    exact congrArg some hequal
end

/-- The rule holds exactly where all routes that will do have one gateway and identity, and the
best default routes of the interface name that gateway and no other. -/
theorem gateway_rule_iff (snapshot : TopologySnapshot) (netns : NetnsId) :
    GatewayRule snapshot netns ↔
      (snapshot.authoritative = true → ∀ interface, (select snapshot).interface = some interface →
        ∀ route ∈ snapshot.routes, gatewayRoute interface.ifindex route = true →
          Agrees snapshot interface.ifindex route) := by
  refine ⟨fun h hauthoritative interface hselected route hmem hroute =>
    h.agrees hauthoritative hselected hmem hroute, fun h => ⟨fun target htarget => ?_,
    fun routes hperm => ?_, fun interface a b gateway gateway' hselected ha hb hgateway hgateway'
      hne => ?_⟩⟩
  · obtain ⟨interface, route, hauthoritative, hselected, hmem, hroute, rfl⟩ :=
      selectGateway_some htarget
    obtain ⟨best, gateway, hbest, hnames, hgateway⟩ :=
      (h hauthoritative interface hselected route hmem hroute).some_best
    refine ⟨interface, best, hselected, hbest, ?_⟩
    rw [gatewayTarget, hgateway]
    exact hnames
  · cases hselected : (select snapshot).interface with
    | none =>
      rw [selectGateway_unselected hselected,
        selectGateway_unselected ((select_perm snapshot hperm).trans hselected)]
    | some interface =>
      by_cases hauthoritative : snapshot.authoritative
      · rw [selectGateway_selected hselected hauthoritative,
          selectGateway_selected ((select_perm snapshot hperm).trans hselected) hauthoritative]
        refine map_find?_perm hperm fun a ha hsuits b hb hsuits' => ?_
        have hsame := (h hauthoritative interface hselected b hb hsuits').others a ha hsuits
        rw [gatewayTarget, gatewayTarget, hsame.1, hsame.2]
      · have hwithheld := Bool.eq_false_iff.mpr hauthoritative
        rw [selectGateway_withheld hwithheld, selectGateway_withheld]
        exact hwithheld
  · rw [Option.eq_none_iff_forall_ne_some]
    intro target htarget
    obtain ⟨_, route, hauthoritative, hselected', hmem, hroute, -⟩ := selectGateway_some htarget
    cases hselected.symm.trans hselected'
    have hall := (h hauthoritative interface hselected route hmem hroute).all_best
    exact hne (Option.some.inj ((hall a gateway ha hgateway).symm.trans
      (hall b gateway' hb hgateway')))

def defaultVia (gateway : Address) (metric : ℕ) : RouteFact where
  netns := ⟨4, 1⟩
  family := afInet
  destinationPrefix := 0
  destination := Address.zero
  table := rtTableMain
  priority := metric
  protocol := 3
  scope := 0
  type := rtnUnicast
  outputIfindex := some 2
  gateway := some gateway
  preferredSource := none
  multipath := []
  present := true
  attributeMask := {.gateway, .outputInterface, .priority}

def nearGateway : Address := Address.ofBytes 4 [10, 0, 0, 1]
def farGateway : Address := Address.ofBytes 4 [10, 0, 0, 254]

def twoGateways : TopologySnapshot where
  netns := ⟨4, 1⟩
  links := OrderedMap.empty.insert 2 ⟨⟨4, 1⟩, ⟨2, []⟩, 65, 6, 1, true, 1, true⟩
  addresses := []
  routes := [defaultVia farGateway 600, defaultVia nearGateway 100]
  authoritative := true
  partly := false
  degraded := false
  generation := 1

/-- The uplink is selected for the route of metric 100 and the gateway of the other one is
probed; with the routes in the other order it would be the right one. -/
theorem worse_gateway_probed :
    ((selectGateway twoGateways (select twoGateways) ⟨4, 1⟩).map ProbeTarget.address =
        some farGateway) ∧
      BestOn twoGateways 2 (defaultVia nearGateway 100) ∧
      ¬ BestOn twoGateways 2 (defaultVia farGateway 600) ∧
      ((selectGateway { twoGateways with routes := twoGateways.routes.reverse }
        (select { twoGateways with routes := twoGateways.routes.reverse }) ⟨4, 1⟩).map
          ProbeTarget.address = some nearGateway) := by
  have hnear : DefaultOn twoGateways 2 (defaultVia nearGateway 100) :=
    ⟨mem_cons_of_mem _ mem_cons_self, rfl, rfl, rfl, rfl, .inl rfl, _, mem_cons_self, rfl⟩
  refine ⟨by decide +kernel, ⟨hnear, fun other hother => ?_⟩, fun hbest => ?_, by decide +kernel⟩
  · have hlisted : other = defaultVia farGateway 600 ∨ other = defaultVia nearGateway 100 := by
      simpa [twoGateways] using hother.1
    rcases hlisted with rfl | rfl
    · decide
    · exact le_rfl
  · exact absurd (hbest.2 _ hnear) (by decide)
end WeakNet.ActiveProbe
