import WeakNet.CollectorRuns
import WeakNet.Foundation.Fallible
import WeakNet.RouteIdentity

/-! `UplinkPolicy::select` described by the routes of the snapshot, and when the selection that the
collector holds is the one for its snapshot. The rank of a candidate determines everything the
selection shows of it. -/

namespace WeakNet
open Foundation Foundation.Runs List RouteFact

namespace UplinkPolicy

/-- A present unicast default route of the namespace in table main or default leads to a usable
link. The output interface of a route with nexthops does not count. -/
structure Offered (s : TopologySnapshot) (c : Candidate) : Prop where
  mem : c.route ∈ s.routes
  netns : c.route.netns = s.netns
  present : c.route.present = true
  isDefault : c.route.destinationPrefix = 0
  unicast : c.route.type = rtnUnicast
  table : c.route.table = rtTableMain ∨ c.route.table = rtTableDefault
  output : if c.multipath then ∃ hop ∈ c.route.multipath, hop.ifindex = c.ifindex
    else c.route.multipath = [] ∧ c.route.outputIfindex = some c.ifindex
  link : ∃ link, s.links.find? c.ifindex = some link ∧ link.netns = s.netns ∧ link.usable = true

variable {s s' : TopologySnapshot} {c c' : Candidate}
theorem linkUsable_iff {ifindex : ℕ} : linkUsable s ifindex ↔
    ∃ link, s.links.find? ifindex = some link ∧ link.netns = s.netns ∧ link.usable := by
  rw [linkUsable]
  cases s.links.find? ifindex with
  | none | some _ => simp

variable {route : RouteFact}
theorem mem_offers : c ∈ offers route ↔
    c.route = route ∧ if c.multipath then ∃ hop ∈ route.multipath, hop.ifindex = c.ifindex
      else route.multipath = [] ∧ route.outputIfindex = some c.ifindex := by
  obtain ⟨r, ifindex, multipath⟩ := c
  rw [offers]
  by_cases hnone : route.multipath = []
  · cases hout : route.outputIfindex with
    | none => cases multipath <;> simp [hnone]
    | some _ => cases multipath <;> simp [hnone, eq_comm]
  · cases multipath with
    | false => simp [hnone]
    | true => simp [hnone, eq_comm, and_left_comm]

theorem mem_candidates : c ∈ candidates s ↔ Offered s c := by
  rw [candidates, mem_filter, mem_flatMap, linkUsable_iff]
  constructor
  · rintro ⟨⟨route, hroute, hoffer⟩, hlink⟩
    obtain ⟨rfl, houtput⟩ := mem_offers.mp hoffer
    obtain ⟨hmem, heligible⟩ := mem_filter.mp hroute
    simp only [eligible, isDefault, Bool.and_eq_true, beq_iff_eq, Bool.or_eq_true]
      at heligible
    obtain ⟨⟨⟨⟨hnetns, hpresent⟩, hdefault⟩, hunicast⟩, htable⟩ := heligible
    exact ⟨hmem, hnetns, hpresent, hdefault, hunicast, htable, houtput, hlink⟩
  · intro h
    refine ⟨⟨c.route, mem_filter.mpr ⟨h.mem, ?_⟩, mem_offers.mpr ⟨rfl, h.output⟩⟩, h.link⟩
    simp [eligible, isDefault, h.netns, h.present, h.isDefault, h.unicast, h.table]

theorem select_of_nil (h : candidates s = []) : (select s).interface = none := by
  rw [select, h]

theorem select_of_minimal (hc : c ∈ candidates s) (hmin : ∀ c' ∈ candidates s, rank c ≤ rank c') :
    ∃ chosen ∈ candidates s, rank chosen = rank c ∧
      select s = ⟨(s.links.find? chosen.ifindex).map LinkFact.interface,
        methodFlags (candidates s), if chosen.multipath then .partly else .valid,
        evidence chosen⟩ := by
  cases hfound : candidates s with
  | nil =>
    rw [hfound] at hc
    cases hc
  | cons first rest =>
    rw [hfound] at hc hmin
    refine ⟨minBy rank first rest, minBy_mem, le_antisymm (minBy_le c hc) (hmin _ minBy_mem), ?_⟩
    rw [select, hfound]

theorem shown_of_rank (h : rank c = rank c') :
    c.ifindex = c'.ifindex ∧ c.multipath = c'.multipath ∧ evidence c = evidence c' ∧
      c.route.family = c'.route.family := by
  rw [rank, rank] at h
  obtain ⟨hfields, hidentity⟩ := append_inj h rfl
  obtain ⟨-, hfields⟩ := List.cons.inj hfields
  obtain ⟨-, hfields⟩ := List.cons.inj hfields
  obtain ⟨-, hfields⟩ := List.cons.inj hfields
  obtain ⟨hmultipath, hfields⟩ := List.cons.inj hfields
  obtain ⟨hifindex, -⟩ := List.cons.inj hfields
  have hpath : c.multipath = c'.multipath := by
    revert hmultipath
    cases c.multipath <;> cases c'.multipath <;> simp
  have hchars := map_injective_iff.mpr (fun a b hab => Char.toNat_inj.mp hab) hidentity
  have hcontent := (identity_eq_iff _ _).mp hchars
  have hfamily : c.route.family = c'.route.family := congrArg (·.family) hcontent
  have htable : c.route.table = c'.route.table := congrArg (·.table) hcontent
  have hpriority : c.route.priority = c'.route.priority := congrArg (·.priority) hcontent
  have hgateway : c.route.gateway = c'.route.gateway := congrArg (·.gateway) hcontent
  refine ⟨hifindex, hpath, ?_, hfamily⟩
  unfold evidence
  rw [htable, hpriority, hfamily, hifindex, hgateway, hpath]

theorem exists_minimal (h : candidates s ≠ []) :
    ∃ c ∈ candidates s, ∀ c' ∈ candidates s, rank c ≤ rank c' := by
  cases hfound : candidates s with
  | nil => exact absurd hfound h
  | cons first rest => exact ⟨minBy rank first rest, minBy_mem, minBy_le⟩

def Reordered (a b : RouteFact) : Prop :=
  b = { a with multipath := b.multipath } ∧ a.multipath.Perm b.multipath

variable {a b : RouteFact}
theorem Reordered.identity (h : Reordered a b) : b.identity = a.identity := by
  have hsort := RouteNexthop.sort_eq_iff.mpr h.2.symm
  rw [h.1]
  simp [RouteFact.identity, hsort]

theorem Reordered.symm (h : Reordered a b) : Reordered b a := by
  refine ⟨?_, h.2.symm⟩
  rw [h.1]

variable {routes : List RouteFact}
theorem Offered.reordered (h : Offered s c) (hroute : Reordered c.route route)
    (hmem : route ∈ routes) :
    Offered { s with routes := routes } { c with route := route } where
  mem := hmem
  netns := (congrArg RouteFact.netns hroute.1).trans h.netns
  present := (congrArg RouteFact.present hroute.1).trans h.present
  isDefault := (congrArg RouteFact.destinationPrefix hroute.1).trans h.isDefault
  unicast := (congrArg RouteFact.type hroute.1).trans h.unicast
  table := by
    rw [congrArg RouteFact.table hroute.1]
    exact h.table
  output := by
    have houtput := h.output
    split_ifs at houtput ⊢
    · obtain ⟨hop, hhop, hifindex⟩ := houtput
      exact ⟨hop, hroute.2.mem_iff.mp hhop, hifindex⟩
    · obtain ⟨hnone, hout⟩ := houtput
      refine ⟨(hnone ▸ hroute.2).nil_eq.symm, ?_⟩
      exact (congrArg RouteFact.outputIfindex hroute.1).trans hout
  link := h.link

theorem Reordered.rank (h : Reordered c.route route) :
    rank { c with route := route } = rank c := by
  have htable := congrArg table h.1
  have hpriority := congrArg priority h.1
  have hfamily := congrArg family h.1
  rw [UplinkPolicy.rank, UplinkPolicy.rank, h.identity, htable, hpriority, hfamily]

def Alike (s s' : TopologySnapshot) : Prop :=
  ∀ c ∈ candidates s, ∃ c' ∈ candidates s', rank c' = rank c

theorem methodFlags_alike (h : Alike s s') (h' : Alike s' s) :
    methodFlags (candidates s') = methodFlags (candidates s) := by
  have hany : ∀ {s s'} (_ : Alike s s') (family : ℕ),
      (∃ c ∈ candidates s, c.route.family = family) →
        ∃ c ∈ candidates s', c.route.family = family := by
    rintro s s' h family ⟨c, hc, hfamily⟩
    obtain ⟨c', hc', hrank⟩ := h c hc
    exact ⟨c', hc', (shown_of_rank hrank).2.2.2.trans hfamily⟩
  have hflag : ∀ family : ℕ, ((candidates s').any fun c => c.route.family == family) =
      (candidates s).any fun c => c.route.family == family := by
    intro family
    rw [Bool.eq_iff_iff]
    simp only [any_eq_true, beq_iff_eq]
    exact ⟨hany h' family, hany h family⟩
  rw [methodFlags, methodFlags, hflag, hflag]

theorem select_alike (hlinks : s'.links = s.links)
    (hflags : s'.authoritative = s.authoritative ∧ s'.partly = s.partly ∧ s'.degraded = s.degraded)
    (h : Alike s s') (h' : Alike s' s) : select s' = select s := by
  by_cases hnone : candidates s = []
  · have hnone' : candidates s' = [] := by
      refine eq_nil_iff_forall_not_mem.mpr fun c hc => ?_
      obtain ⟨c', hc', -⟩ := h' c hc
      rw [hnone] at hc'
      cases hc'
    rw [select, select, hnone, hnone', hflags.1, hflags.2.1, hflags.2.2]
  · obtain ⟨c, hc, hmin⟩ := exists_minimal hnone
    obtain ⟨c', hc', hrank⟩ := h c hc
    have hmin' : ∀ d ∈ candidates s', rank c' ≤ rank d := by
      intro d hd
      obtain ⟨e, he, hsame⟩ := h' d hd
      rw [hrank, ← hsame]
      exact hmin e he
    obtain ⟨chosen, -, hchosen, heq⟩ := select_of_minimal hc hmin
    obtain ⟨chosen', -, hchosen', heq'⟩ := select_of_minimal hc' hmin'
    obtain ⟨hifindex, hpath, hevidence, -⟩ :=
      shown_of_rank (hchosen'.trans (hrank.trans hchosen.symm))
    rw [heq, heq', hlinks, hifindex, hpath, hevidence, methodFlags_alike h h']

theorem alike_of_reordered {middle : List RouteFact} (hperm : s.routes.Perm middle)
    (hmiddle : Forall₂ Reordered middle routes) :
    Alike s { s with routes := routes } ∧ Alike { s with routes := routes } s := by
  refine ⟨fun c hc => ?_, fun c hc => ?_⟩
  · have hoffered := mem_candidates.mp hc
    obtain ⟨route, hroute, hsame⟩ := Fallible.exists_right hmiddle (hperm.mem_iff.mp hoffered.mem)
    exact ⟨_, mem_candidates.mpr (hoffered.reordered hsame hroute), hsame.rank⟩
  · have hoffered := mem_candidates.mp hc
    obtain ⟨route, hroute, hsame⟩ := Fallible.exists_left hmiddle hoffered.mem
    exact ⟨_, mem_candidates.mpr
      (hoffered.reordered hsame.symm (hperm.mem_iff.mpr hroute)), hsame.symm.rank⟩

theorem select_exact (s : TopologySnapshot) :
    ((select s).interface.isSome = true ↔ ∃ c, Offered s c) ∧
    (∀ interface, (select s).interface = some interface → ∃ c link, Offered s c ∧
      (∀ c', Offered s c' → rank c ≤ rank c') ∧ s.links.find? c.ifindex = some link ∧
      link.interface = interface ∧ ((select s).validity = .partly ↔ c.multipath = true)) ∧
    ((select s).validity = .partly → (select s).interface.isSome = true) ∧
    ∀ middle routes, s.routes.Perm middle → List.Forall₂ Reordered middle routes →
      select { s with routes := routes } = select s := by
  have hrearranged : ∀ middle routes, s.routes.Perm middle → Forall₂ Reordered middle routes →
      select { s with routes := routes } = select s := by
    intro middle routes hperm hmiddle
    obtain ⟨h, h'⟩ := alike_of_reordered hperm hmiddle
    exact select_alike rfl ⟨rfl, rfl, rfl⟩ h h'
  simp only [← mem_candidates]
  by_cases hnone : candidates s = []
  · have hinterface := select_of_nil hnone
    rw [hinterface, hnone]
    refine ⟨by simp, fun _ h => (by cases h), fun h => ?_, hrearranged⟩
    rw [select_none hinterface] at h
    split_ifs at h
  · obtain ⟨c, hc, hmin⟩ := exists_minimal hnone
    obtain ⟨chosen, hchosen, hrank, heq⟩ := select_of_minimal hc hmin
    obtain ⟨link, hlink, -⟩ := (mem_candidates.mp hchosen).link
    have hinterface : (select s).interface = some link.interface := by
      rw [heq]
      exact congrArg (Option.map LinkFact.interface) hlink
    have hsome : (select s).interface.isSome = true := by rw [hinterface]; rfl
    refine ⟨⟨fun _ => ⟨c, hc⟩, fun _ => hsome⟩, fun interface h => ?_, fun _ => hsome, hrearranged⟩
    refine ⟨chosen, link, hchosen, hrank ▸ hmin, hlink, Option.some.inj (hinterface.symm.trans h), ?_⟩
    rw [heq]
    cases chosen.multipath <;> simp

def hybrid : TopologySnapshot :=
  { TopologySnapshot.blank ⟨4, 1⟩ with
    links := OrderedMap.empty.insert 2 ⟨⟨4, 1⟩, ⟨2, []⟩, 1, 6, 1, true, 1, true⟩
    routes := [⟨⟨4, 1⟩, afInet, 0, .zero, rtTableMain, 0, 3, 0, rtnUnicast, some 2, none, none,
      [⟨7, .zero, 0, 0⟩], true, ∅⟩]
    authoritative := true }

theorem output_beside_nexthops : (select hybrid).interface = none ∧
    ∃ route ∈ hybrid.routes, eligible hybrid route = true ∧
      ∃ ifindex, route.outputIfindex = some ifindex ∧ linkUsable hybrid ifindex = true :=
  ⟨by decide, _, mem_cons_self, by decide, 2, rfl, by decide⟩
end UplinkPolicy

namespace NetlinkCollector
open UplinkPolicy

/-- The selection held is the one for the snapshot, up to its evidence text. -/
def Fits (c : NetlinkCollector) : Prop :=
  c.selected.interface = (select c.state).interface ∧
    c.selected.methodFlags = (select c.state).methodFlags ∧
    c.selected.validity = (select c.state).validity
deriving Decidable

inductive Selected (c : NetlinkCollector) : Prop
  | never (hstate : c.state = .blank c.netns) (hselected : c.selected = .blank)
  | chosen (s : TopologySnapshot) (hselected : c.selected = select s)
    (hstate : degrade c.state = degrade s) (hdegraded : s.degraded = false)
    (hpartly : s.partly = false) (hgeneration : c.state.generation ≠ 0)

variable {c c' : NetlinkCollector} {clock : ℕ → RealtimeTime × MonotonicTime}
theorem eq_of_degrade {s s' : TopologySnapshot} (h : degrade s = degrade s') :
    s = { s' with degraded := s.degraded } ∧ (s'.authoritative = false → s = s') := by
  have hauth := congrArg TopologySnapshot.authoritative h
  rw [degrade_authoritative, degrade_authoritative] at hauth
  rw [degrade, degrade] at h
  by_cases hflag : s'.authoritative
  · rw [if_pos hflag, if_pos (hauth.trans hflag)] at h
    refine ⟨?_, fun h => absurd (hflag.symm.trans h) (by decide)⟩
    exact congrArg (fun t : TopologySnapshot => { t with degraded := s.degraded }) h
  · rw [if_neg hflag, if_neg (hauth ▸ hflag)] at h
    subst h
    exact ⟨rfl, fun _ => rfl⟩

theorem Selected.step (h : Selected c) (hstep : Stepped c c') : Selected c' := by
  have hpartly : c.state.partly = false := by
    cases h with
    | never hstate => rw [hstate]; rfl
    | chosen _ _ hstate _ hpartly => rw [(eq_of_degrade hstate).1]; exact hpartly
  cases hstep with
  | kept hmarked =>
    cases h with
    | never hstate hselected =>
      refine .never ?_ (hmarked.selected.trans hselected)
      rw [(eq_of_degrade hmarked.state).2 (by rw [hstate]; rfl), hstate, hmarked.netns]
    | chosen s hselected hstate hdegraded hclean hgeneration =>
      exact .chosen s (hmarked.selected.trans hselected) (hmarked.state.trans hstate) hdegraded
        hclean (hmarked.generation ▸ hgeneration)
  | installed after _ _ hinstalled hdegraded hgeneration hafter =>
    refine .chosen after hinstalled.selected (by rw [hinstalled.state]) hdegraded ?_ ?_
    · exact Bool.eq_false_iff.mpr fun h => Bool.false_ne_true (hpartly ▸ hafter h)
    · rw [hinstalled.state, hgeneration]
      exact Nat.succ_ne_zero _

theorem Selected.fits_iff (h : Selected c) : Fits c ↔
    c.state.generation ≠ 0 ∧ (c.state.degraded = false ∨ candidates c.state ≠ []) := by
  cases h with
  | never hstate hselected =>
    -- nothing is selected as unavailable, for a snapshot that is not authoritative as stale
    rw [Fits, hstate, hselected]
    exact ⟨fun h => absurd h.2.2 (by rintro ⟨⟩), fun h => absurd rfl h.1⟩
  | chosen s hselected hstate hdegraded hpartly hgeneration =>
    obtain ⟨heq, hsame⟩ := eq_of_degrade hstate
    rw [Fits, hselected, and_iff_right hgeneration]
    cases hflag : c.state.degraded with
    | false =>
      rw [hflag, ← hdegraded] at heq
      rw [heq]
      exact ⟨fun _ => .inl rfl, fun _ => ⟨rfl, rfl, rfl⟩⟩
    | true =>
      rw [hflag] at heq
      have hauth : s.authoritative := by
        by_contra hauth
        rw [hsame (Bool.eq_false_iff.mpr hauth), hdegraded] at hflag
        cases hflag
      have hcandidates : candidates { s with degraded := true } = candidates s := rfl
      rw [heq, select, select, hcandidates]
      cases candidates s with
      | nil => simp [hauth, hpartly, hdegraded]
      | cons _ _ => simp

variable (clock) in
theorem selected_fits_iff (netns : NetnsId) (hnetns : netns.inode ≠ 0) (ops : List Op) :
    let c := run (NetlinkCollector.step clock) (start netns hnetns) ops
    Fits c ↔ c.state.generation ≠ 0 ∧ (c.state.degraded = false ∨ candidates c.state ≠ []) :=
  Selected.fits_iff (run_invariant (fun c op h => h.step (step_stepped clock c op))
    (.never rfl rfl) ops)

def uplinkTopology : TopologySnapshot :=
  { TopologySnapshot.blank ⟨4, 1⟩ with
    links := OrderedMap.empty.insert 2 ⟨⟨4, 1⟩, ⟨2, []⟩, 1, 6, 1, true, 1, true⟩
    routes := [⟨⟨4, 1⟩, 2, 0, .zero, rtTableMain, 0, 3, 0, rtnUnicast, some 2, none, none, [], true,
      {.outputInterface}⟩] }

theorem selected_fits_committed :
    Fits (run (NetlinkCollector.step sampleClock) (start ⟨4, 1⟩ Nat.one_ne_zero)
      [.reconcile false (.hook (some uplinkTopology)), .overflow]) :=
  (selected_fits_iff sampleClock ⟨4, 1⟩ Nat.one_ne_zero
    [.reconcile false (.hook (some uplinkTopology)), .overflow]).mpr
    ⟨by decide +kernel, .inr (List.ne_nil_of_length_pos (by decide +kernel))⟩

theorem overflow_without_uplink :
    ¬ Fits (run (NetlinkCollector.step sampleClock) (start ⟨4, 1⟩ Nat.one_ne_zero)
      [.reconcile false (.hook (some (.blank ⟨4, 1⟩))), .overflow]) := by
  decide
end NetlinkCollector
end WeakNet
