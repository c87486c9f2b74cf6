import WeakNet.CollectorRuns
import WeakNet.RouteIdentity
import WeakNet.TopologyInvariant

/-! The kernel's table is a set of routes, each known by its modelled content. A change is announced
by one message in a datagram of its own. The parser does not look at `NLM_F_REPLACE`, so a
replacement adds the new route and keeps the old one. -/

namespace WeakNet
open NetlinkCollector RouteFact
open Foundation.Bytes Foundation.Runs NetlinkWire List RtnetlinkParser TopologyState RouteNexthop

def routeDatagram (type flags : ℕ) (body : ByteString) : ByteString :=
  encode 4 (headerSize + body.length) ++ encode 2 type ++ encode 2 flags ++ encode 4 0 ++
    encode 4 0 ++ body ++
    List.replicate (align4 (headerSize + body.length) - (headerSize + body.length)) 0

section Wire
variable {type flags : ℕ} {body : ByteString}
theorem length_routeDatagram :
    (routeDatagram type flags body).length = align4 (headerSize + body.length) := by
  have hle := le_align4 (headerSize + body.length)
  simp only [routeDatagram, length_append, length_encode, length_replicate]
  unfold headerSize at hle ⊢
  omega

theorem routeDatagram_eq : routeDatagram type flags body =
    encode 4 (headerSize + body.length) ++ (encode 2 type ++ (encode 2 flags ++
      (encode 4 0 ++ (encode 4 0 ++ (body ++
        List.replicate (align4 (headerSize + body.length) - (headerSize + body.length)) 0))))) := by
  simp [routeDatagram]

theorem nlmsghdr_routeDatagram (htype : type < 2 ^ 16) (hflags : flags < 2 ^ 16)
    (hbody : headerSize + body.length < 2 ^ 32) :
    nlmsghdr (routeDatagram type flags body) =
      ⟨headerSize + body.length, type, flags, 0, 0⟩ := by
  obtain ⟨rest, hrest⟩ : ∃ rest, rest = body ++
      List.replicate (align4 (headerSize + body.length) - (headerSize + body.length)) 0 := ⟨_, rfl⟩
  have hdatagram := @routeDatagram_eq type flags body
  rw [← hrest] at hdatagram
  have hlen : field 0 4 (routeDatagram type flags body) = headerSize + body.length := by
    rw [hdatagram]
    exact field_append_encode [] _ rfl (by omega)
  have hkind : field 4 2 (routeDatagram type flags body) = type := by
    rw [hdatagram]
    exact field_append_encode _ _ (length_encode _ _) (by omega)
  have hmarks : field 6 2 (routeDatagram type flags body) = flags := by
    rw [hdatagram, ← append_assoc]
    exact field_append_encode _ _ (by simp only [length_append, length_encode]) (by omega)
  have hseq : field 8 4 (routeDatagram type flags body) = 0 := by
    rw [hdatagram, ← append_assoc, ← append_assoc]
    exact field_append_encode _ _ (by simp only [length_append, length_encode]) (by omega)
  have hpid : field 12 4 (routeDatagram type flags body) = 0 := by
    rw [hdatagram, ← append_assoc, ← append_assoc, ← append_assoc]
    exact field_append_encode _ _ (by simp only [length_append, length_encode]) (by omega)
  simp [nlmsghdr, hlen, hkind, hmarks, hseq, hpid]

theorem nlmsgData_routeDatagram (htype : type < 2 ^ 16) (hflags : flags < 2 ^ 16)
    (hbody : headerSize + body.length < 2 ^ 32) :
    nlmsgData (routeDatagram type flags body) = body := by
  have hsize : headerSize + body.length - headerSize = body.length := by omega
  rw [nlmsgData, nlmsghdr_routeDatagram htype hflags hbody]
  rw [hsize, routeDatagram_eq, ← append_assoc, ← append_assoc, ← append_assoc, ← append_assoc]
  exact slice_append_middle (by simp only [length_append, length_encode, headerSize]) rfl
end Wire

namespace RtnetlinkParser
theorem parse_single {bs : ByteString} {netns : NetnsId} {message : ParsedMessage}
    (hlen : headerSize ≤ (nlmsghdr bs).len) (hwhole : align4 (nlmsghdr bs).len = bs.length)
    (hsize : bs.length < 2 ^ 31) (hseq : (nlmsghdr bs).seq = 0) (hpid : (nlmsghdr bs).pid = 0)
    (hdone : (nlmsghdr bs).type ≠ nlmsgDone) (herror : (nlmsghdr bs).type ≠ nlmsgError)
    (hbody : parseBody (nlmsghdr bs).type (nlmsgData bs) netns (.blank 0 0) = .ok message) :
    parse bs 0 none netns = ⟨[message], false, false, false, ""⟩ := by
  have hle := le_align4 (nlmsghdr bs).len
  have hlong : headerSize ≤ bs.length := by omega
  obtain ⟨fuel, hfuel⟩ := exists_length_eq_succ hlong
  have hne : bs ≠ [] := by
    intro hnil
    rw [hnil] at hfuel
    cases hfuel
  have hall : (remaining bs).toNat = bs.length := by
    have hpow : (2 : ℤ) ^ 32 = 4294967296 := by norm_num
    simp only [remaining, signed]
    omega
  have hheader : headerError none 0 bs = none := by
    rw [headerError]
    simp only [Option.isSome_none, Bool.false_eq_true, if_false, hseq, hpid, ne_eq,
      not_true_eq_false, and_false]
    rw [if_neg (by omega)]
  have hmessage : parseMessage none netns .blank bs = .ok ⟨[message], false, false, false, ""⟩ := by
    rw [parseMessage]
    simp only [hseq, hpid, if_neg hdone, if_neg herror, hbody]
    rfl
  have hrest : ∀ fuel result, parseFrom none 0 netns fuel [] result = result := by
    intro fuel result
    cases fuel with
    | zero => rfl
    | succ => rw [parseFrom, if_pos rfl]
  rw [parse, if_neg (by simp), if_neg hne]
  dsimp only
  rw [hall, take_length, hfuel, parseFrom, if_neg hne, hheader, hmessage]
  dsimp only
  rw [hwhole, if_neg (lt_irrefl _), drop_length, hrest]

theorem routeStep_keeps (acc : RouteFact × Option Attribute) (a : Attribute) :
    (routeStep acc a).1.netns = acc.1.netns ∧ (routeStep acc a).1.multipath = acc.1.multipath ∧
      ∀ present, routeStep ({ acc.1 with present := present }, acc.2) a =
        ({ (routeStep acc a).1 with present := present }, (routeStep acc a).2) := by
  simp only [routeStep]
  split_ifs <;> exact ⟨rfl, rfl, fun _ => rfl⟩

theorem foldl_routeStep_keeps (attributes : List Attribute) (acc : RouteFact × Option Attribute) :
    (attributes.foldl routeStep acc).1.netns = acc.1.netns ∧
      (attributes.foldl routeStep acc).1.multipath = acc.1.multipath ∧
      ∀ present, attributes.foldl routeStep ({ acc.1 with present := present }, acc.2) =
        ({ (attributes.foldl routeStep acc).1 with present := present },
          (attributes.foldl routeStep acc).2) := by
  induction attributes generalizing acc with
  | nil => exact ⟨rfl, rfl, fun _ => rfl⟩
  | cons a _ ih =>
    obtain ⟨hnetns, hmultipath, hpresent⟩ := routeStep_keeps acc a
    obtain ⟨hnetns', hmultipath', hpresent'⟩ := ih (routeStep acc a)
    refine ⟨hnetns'.trans hnetns, hmultipath'.trans hmultipath, fun present => ?_⟩
    rw [foldl_cons, foldl_cons, hpresent, hpresent']

theorem parseRoute_present (message : ByteString) (attributes : List Attribute) (netns : NetnsId)
    (present : Bool) :
    parseRoute message attributes netns present =
      (parseRoute message attributes netns true).map fun r => { r with present := present } := by
  have hread := (foldl_routeStep_keeps attributes (⟨netns, field 0 1 message, field 1 1 message,
    Address.zero, field 4 1 message, 0, field 5 1 message, field 6 1 message, field 7 1 message,
    none, none, none, [], true, ∅⟩, none)).2.2 present
  simp only [parseRoute, hread]
  generalize attributes.foldl routeStep _ = read
  split_ifs with hvalid
  · cases read.2 with
    | none | some => rfl
  · rfl

theorem parseRoute_some {message : ByteString} {attributes : List Attribute} {netns : NetnsId}
    {present : Bool} {r : RouteFact} (h : parseRoute message attributes netns present = some r) :
    r.netns = netns ∧ sort r.multipath = r.multipath := by
  obtain ⟨hnetns, hmultipath, -⟩ := foldl_routeStep_keeps attributes (⟨netns, field 0 1 message,
    field 1 1 message, Address.zero, field 4 1 message, 0, field 5 1 message, field 6 1 message,
    field 7 1 message, none, none, none, [], present, ∅⟩, none)
  simp only [parseRoute] at h
  generalize attributes.foldl routeStep _ = read at *
  split_ifs at h with hvalid
  split at h
  · cases h
    exact ⟨hnetns, by rw [hmultipath]; rfl⟩
  · cases h
    exact ⟨hnetns, sort_sort _⟩
end RtnetlinkParser

def routeType (present : Bool) : ℕ :=
  if present then RtnetlinkParser.rtmNewroute else RtnetlinkParser.rtmDelroute

structure KernelRoute (netns : NetnsId) where
  body : ByteString
  fact : RouteFact
  long : RtnetlinkParser.rtmsgSize ≤ body.length
  short : body.length < 2 ^ 30
  reads : (RtnetlinkParser.parseAttributes (body.drop RtnetlinkParser.rtmsgSize)).bind
    (RtnetlinkParser.parseRoute body · netns true) = some fact

namespace KernelRoute
variable {netns : NetnsId} (r : KernelRoute netns)
theorem fact_sound : r.fact.netns = netns ∧
    sort r.fact.multipath = r.fact.multipath := by
  obtain ⟨_, -, hroute⟩ := Option.bind_eq_some_iff.mp r.reads
  exact parseRoute_some hroute

def message (present : Bool) : ParsedMessage :=
  { ParsedMessage.blank 0 0 with
    kind := .route
    route := some { r.fact with present := present } }

theorem parseBody_body (present : Bool) :
    parseBody (routeType present) r.body netns (.blank 0 0) =
      .ok (r.message present) := by
  obtain ⟨attributes, hattributes, hroute⟩ := Option.bind_eq_some_iff.mp r.reads
  have hread := parseRoute_present r.body attributes netns present
  rw [hroute, Option.map_some] at hread
  have hnew : (routeType present == rtmNewroute) = present := by
    cases present <;> rfl
  have hkind : routeType present = 24 ∨ routeType present = 25 := by
    cases present with
    | true => exact .inl rfl
    | false => exact .inr rfl
  rw [parseBody, hnew]
  rw [if_neg (by unfold rtmNewlink rtmDellink; omega),
    if_neg (by unfold rtmNewaddr rtmDeladdr; omega),
    if_pos (by unfold rtmNewroute rtmDelroute; omega),
    if_neg (Nat.not_lt.mpr r.long), hattributes]
  simp only [hread]
  rfl

theorem parse_datagram (present : Bool) {flags : ℕ} (hflags : flags < 2 ^ 16) :
    parse (routeDatagram (routeType present) flags r.body) 0 none netns =
      ⟨[r.message present], false, false, false, ""⟩ := by
  have hkind : 16 ≤ routeType present ∧ routeType present < 2 ^ 16 := by
    cases present <;> decide
  have hshort := r.short
  have hbody : headerSize + r.body.length < 2 ^ 32 := by
    unfold headerSize
    omega
  have hheader := @nlmsghdr_routeDatagram _ flags r.body hkind.2 hflags hbody
  have hlength := @length_routeDatagram (routeType present) flags r.body
  have hfits : align4 (headerSize + r.body.length) < 2 ^ 31 := by
    unfold align4 headerSize
    omega
  apply parse_single
  · rw [hheader]
    exact Nat.le_add_right _ _
  · rw [hheader, hlength]
  · rw [hlength]
    exact hfits
  · rw [hheader]
  · rw [hheader]
  · rw [hheader]
    unfold nlmsgDone
    dsimp only
    omega
  · rw [hheader]
    unfold nlmsgError
    dsimp only
    omega
  · rw [hheader, nlmsgData_routeDatagram hkind.2 hflags hbody]
    exact r.parseBody_body ..
end KernelRoute

variable {x : RouteFact}

namespace TopologyState
variable {s : TopologySnapshot} {fact : RouteFact}
def contents (s : TopologySnapshot) : Set RouteFact := {x | ∃ r ∈ s.routes, r.content = x}

theorem mem_contents : x ∈ contents s ↔ ∃ r ∈ s.routes, r.content = x := Iff.rfl

theorem Canonical.sort_eq (h : Canonical s) {r : RouteFact} (hr : r ∈ s.routes) :
    sort r.multipath = r.multipath :=
  (h.sorted r hr).insertionSort_eq

theorem applyRoute_eq (hsorted : sort fact.multipath = fact.multipath)
    (hnetns : fact.netns = s.netns) :
    applyRoute s fact = if !fact.present then removeRoute s fact
      else if s.routes.any fun item => item.identity == fact.identity then (s, .noChange)
      else ({ s with routes := s.routes ++ [fact] }, .changed) := by
  rw [applyRoute, hsorted]
  rw [if_neg (not_not.mpr hnetns)]

theorem any_identity_iff :
    (s.routes.any fun item => item.identity == fact.identity) ↔
      fact.content ∈ contents s := by
  rw [any_eq_true, mem_contents]
  simp [identity_eq_iff]

theorem applyRoute_new (hsorted : sort fact.multipath = fact.multipath)
    (hnetns : fact.netns = s.netns) (hpresent : fact.present) :
    (applyRoute s fact).2.applied ∧
      contents (applyRoute s fact).1 = insert fact.content (contents s) := by
  rw [applyRoute_eq hsorted hnetns, hpresent, if_neg (by simp)]
  split_ifs with hknown
  · exact ⟨rfl, (Set.insert_eq_of_mem (any_identity_iff.mp hknown)).symm⟩
  · refine ⟨rfl, ?_⟩
    ext x
    simp only [mem_contents, mem_append, mem_singleton, Set.mem_insert_iff]
    constructor
    · rintro ⟨r, hold | rfl, rfl⟩
      · exact .inr ⟨r, hold, rfl⟩
      · exact .inl rfl
    · rintro (rfl | ⟨r, hold, rfl⟩)
      · exact ⟨fact, .inr rfl, rfl⟩
      · exact ⟨r, .inl hold, rfl⟩

theorem applyRoute_canonical (h : Canonical s) (given : RouteFact) :
    Canonical (applyRoute s given).1 :=
  h.applyChecked (routeMessage given)

variable {item : RouteFact}
theorem deleteMatches_of_content (h : item.content = fact.content)
    (hitem : sort item.multipath = item.multipath)
    (hsorted : sort fact.multipath = fact.multipath) :
    deleteMatches fact item := by
  simp only [RouteFact.content, hitem, hsorted, RouteFact.mk.injEq, and_true] at h
  obtain ⟨hnetns, hfamily, hprefix, hdestination, htable, hpriority, hprotocol, hscope, htype,
    houtput, hgateway, hsource, hmultipath⟩ := h
  simp [deleteMatches, hnetns, hfamily, hprefix, hdestination, htable, hpriority, hprotocol,
    hscope, htype, houtput, hgateway, hsource, hmultipath]

theorem mem_eraseP_of_filter {α : Type} {p : α → Bool} {l : List α} {x : α}
    (h : l.filter p = [x]) (y : α) : y ∈ l.eraseP p ↔ y ∈ l ∧ p y = false := by
  obtain ⟨_, _, rfl, herase, hx, hothers⟩ := eraseP_of_single h
  have hne : p y = false → y ≠ x := by
    rintro hpy rfl
    exact absurd (hx.symm.trans hpy) nofun
  rw [herase, mem_append, mem_append, mem_cons]
  constructor
  · intro hy
    exact ⟨hy.imp_right .inr, hothers y (mem_append.mpr hy)⟩
  · rintro ⟨hy, hpy⟩
    exact hy.imp_right fun hrest => hrest.resolve_left (hne hpy)

theorem deleteMatches_content (hitem : sort item.multipath = item.multipath) :
    deleteMatches fact item.content = deleteMatches fact item := by
  simp [deleteMatches, content, hitem]

def Ambiguous (routes : Set RouteFact) (fact : RouteFact) : Prop :=
  (fact.destinationPrefix ≠ 0 ∧ .destination ∉ fact.attributeMask) ∨
    ∃ x ∈ routes, x ≠ fact.content ∧ deleteMatches fact x = true

theorem applyRoute_delete (hsorted : sort fact.multipath = fact.multipath)
    (hnetns : fact.netns = s.netns) (hpresent : fact.present = false) (hall : Canonical s)
    (hknown : fact.content ∈ contents s) :
    (Ambiguous (contents s) fact → (applyRoute s fact).2.applied = false) ∧
      (¬ Ambiguous (contents s) fact → (applyRoute s fact).2.applied ∧
        contents (applyRoute s fact).1 = contents s \ {fact.content}) := by
  obtain ⟨item, hitem, hcontent⟩ := hknown
  have hmeant := deleteMatches_of_content hcontent (hall.sort_eq hitem) hsorted
  have hitem' := mem_filter.mpr ⟨hitem, hmeant⟩
  rw [applyRoute_eq hsorted hnetns, hpresent, Bool.not_false, if_pos rfl, removeRoute]
  by_cases hmask : fact.destinationPrefix ≠ 0 ∧ .destination ∉ fact.attributeMask
  · rw [if_pos hmask]
    exact ⟨fun _ => rfl, fun hclear => absurd (.inl hmask) hclear⟩
  rw [if_neg hmask]
  cases hmatches : s.routes.filter (deleteMatches fact) with
  | nil =>
    rw [hmatches] at hitem'
    cases hitem'
  | cons x rest =>
    cases rest with
    | cons y rest =>
      refine ⟨fun _ => rfl, fun hclear => absurd (.inr ?_) hclear⟩
      -- two routes are meant, and at most one of them has the content of the deleted one
      have hsub : (x :: y :: rest).Sublist s.routes := hmatches ▸ filter_sublist
      have hmem : ∀ r ∈ x :: y :: rest, r.content ∈ contents s ∧
          deleteMatches fact r.content := by
        intro r hr
        obtain ⟨hold, hthis⟩ := mem_filter.mp (hmatches ▸ hr)
        exact ⟨⟨r, hold, rfl⟩, (deleteMatches_content (hall.sort_eq hold)).trans hthis⟩
      have hne : x.content ≠ y.content := by
        intro hsame
        have hnodup := hall.identities.sublist (hsub.map identity)
        rw [map_cons, map_cons, (identity_eq_iff x y).mpr hsame] at hnodup
        exact (nodup_cons.mp hnodup).1 mem_cons_self
      by_cases hx : x.content = fact.content
      · have hy := hmem y (mem_cons_of_mem _ mem_cons_self)
        exact ⟨y.content, hy.1, fun hy' => hne (hx.trans hy'.symm), hy.2⟩
      · have hx' := hmem x mem_cons_self
        exact ⟨x.content, hx'.1, hx, hx'.2⟩
    | nil =>
      have hrest := mem_eraseP_of_filter hmatches
      have honly : ∀ r ∈ s.routes, deleteMatches fact r → r.content = fact.content := by
        intro r hr hr'
        have hmem := mem_filter.mpr ⟨hr, hr'⟩
        rw [hmatches, mem_singleton] at hmem hitem'
        rw [hmem, ← hitem', hcontent]
      refine ⟨?_, fun _ => ⟨rfl, ?_⟩⟩
      · rintro (hlacks | ⟨z, ⟨r, hr, rfl⟩, hother, hthis⟩)
        · exact absurd hlacks hmask
        · rw [deleteMatches_content (hall.sort_eq hr)] at hthis
          exact absurd (honly r hr hthis) hother
      · ext z
        simp only [mem_contents, Set.mem_sdiff, Set.mem_singleton_iff, hrest]
        constructor
        · rintro ⟨r, ⟨hr, hother⟩, rfl⟩
          refine ⟨⟨r, hr, rfl⟩, fun hsame => ?_⟩
          have hthis := deleteMatches_of_content hsame (hall.sort_eq hr) hsorted
          cases hthis.symm.trans hother
        · rintro ⟨⟨r, hr, rfl⟩, hne⟩
          exact ⟨r, ⟨hr, Bool.eq_false_iff.mpr fun hthis => hne (honly r hr hthis)⟩, rfl⟩
end TopologyState

namespace NetlinkCollector
variable (clock : ℕ → RealtimeTime × MonotonicTime)
def reportsFailure (c : NetlinkCollector) (bytes : ByteString) : Bool :=
  let parsed := RtnetlinkParser.parse bytes 0 none c.netns
  rejected parsed ||
    match (processNotificationBatch clock c (parsed.messages.filter isNotification)).2 with
    | .ok processed => !processed
    | .error _ => false

theorem processNotificationBatch_route (c : NetlinkCollector) {message : ParsedMessage}
    {fact : RouteFact} (hkind : message.kind = .route) (hroute : message.route = some fact) :
    ((applyRoute c.state fact).2.applied →
      (processNotificationBatch clock c [message]).1.netns = c.netns ∧
        (processNotificationBatch clock c [message]).1.state.netns = c.state.netns ∧
        (processNotificationBatch clock c [message]).1.state.routes =
          (applyRoute c.state fact).1.routes ∧
        (processNotificationBatch clock c [message]).2 ≠ .ok false) ∧
    ((applyRoute c.state fact).2.applied = false →
      (processNotificationBatch clock c [message]).2 = .ok false) := by
  have hfact : [message].all isFact := by simp [isFact, hkind]
  have hresult : applyChecked c.state message =
      applyRoute c.state fact := by
    simp [applyChecked, hkind, hroute]
  have hnetns := (applyRoute_sameFlags c.state fact).1
  have hsame := @applyRoute_noChange c.state fact
  rw [processNotificationBatch, if_neg (cons_ne_nil _ _), if_pos hfact]
  simp only [applyBatch, hresult]
  generalize applyRoute .. = result at *
  obtain ⟨after, outcome⟩ := result
  cases outcome with
  | noChange =>
    obtain rfl := hsame rfl
    exact ⟨fun _ => ⟨rfl, rfl, rfl, by rintro ⟨⟩⟩, by rintro ⟨⟩⟩
  | changed =>
    refine ⟨fun _ => ?_, by rintro ⟨⟩⟩
    obtain ⟨_, _, hinstalled⟩ := install_installed clock c
      { after with degraded := false, generation := c.state.generation + 1 }
    simp only [TopologyApplyResult.applied, if_true, decide_true, Bool.true_or]
    generalize install clock c _ = sent at *
    obtain ⟨_, thrown⟩ := sent
    have hroutes := congrArg TopologySnapshot.routes hinstalled.state
    have hspace := (congrArg TopologySnapshot.netns hinstalled.state).trans hnetns
    cases thrown with
    | none | some => exact ⟨hinstalled.netns, hspace, hroutes, by rintro ⟨⟩⟩
  | invalid | ambiguousDelete => exact ⟨by rintro ⟨⟩, fun _ => rfl⟩
end NetlinkCollector

inductive RouteChange (netns : NetnsId) where
  | add (route : KernelRoute netns) (flags : ℕ)
  | delete (route : KernelRoute netns) (flags : ℕ)
  | replace (old new : KernelRoute netns) (flags : ℕ)

def kernelContents {netns : NetnsId} (kernel : Set (KernelRoute netns)) : Set RouteFact :=
  {x | ∃ r ∈ kernel, r.fact.content = x}

namespace RouteChange
variable {netns : NetnsId}
def datagram : RouteChange netns → ByteString
  | .add route flags => routeDatagram (routeType true) flags route.body
  | .delete route flags => routeDatagram (routeType false) flags route.body
  | .replace _ new flags => routeDatagram (routeType true) flags new.body

def apply (kernel : Set (KernelRoute netns)) : RouteChange netns → Set (KernelRoute netns)
  | .add route _ => insert route kernel
  | .delete route _ => kernel \ {route}
  | .replace old new _ => insert new (kernel \ {old})

/-- The kernel deletes and replaces routes it has; `NLM_F_REPLACE` is bit eight of the flags
and marks the replacements. -/
def Announced (kernel : Set (KernelRoute netns)) : RouteChange netns → Prop
  | .add _ flags => flags < 2 ^ 16 ∧ flags.testBit 8 = false
  | .delete route flags => flags < 2 ^ 16 ∧ route ∈ kernel
  | .replace old _ flags => flags < 2 ^ 16 ∧ flags.testBit 8 = true ∧ old ∈ kernel

def Alone (kernel : Set (KernelRoute netns)) (route : KernelRoute netns) : Prop :=
  ∀ other ∈ kernel, other.fact.content = route.fact.content → other = route

/-- A delete takes the last route of its content or is ambiguous, and a replacement leaves the
old content in the table. -/
def Traceable (kernel : Set (KernelRoute netns)) : RouteChange netns → Prop
  | .add _ _ => True
  | .delete route _ =>
    Alone kernel route ∨ TopologyState.Ambiguous (kernelContents kernel) route.fact
  | .replace old new _ => new.fact.content = old.fact.content ∨ ¬ Alone kernel old
end RouteChange

section Table
variable {netns : NetnsId} {kernel : Set (KernelRoute netns)} {route : KernelRoute netns}
theorem mem_kernelContents :
    x ∈ kernelContents kernel ↔ ∃ r ∈ kernel, r.fact.content = x := Iff.rfl

theorem kernelContents_insert :
    kernelContents (insert route kernel) = insert route.fact.content (kernelContents kernel) :=
  Set.image_insert_eq

theorem kernelContents_remove_of_alone (h : RouteChange.Alone kernel route) :
    kernelContents (kernel \ {route}) = kernelContents kernel \ {route.fact.content} := by
  ext x
  simp only [mem_kernelContents, Set.mem_sdiff, Set.mem_singleton_iff]
  constructor
  · rintro ⟨r, ⟨hr, hne⟩, rfl⟩
    exact ⟨⟨r, hr, rfl⟩, fun hsame => hne (h r hr hsame)⟩
  · rintro ⟨⟨r, hr, rfl⟩, hne⟩
    exact ⟨r, ⟨hr, fun hsame => hne (by rw [hsame])⟩, rfl⟩

theorem kernelContents_remove_of_not_alone (h : ¬ RouteChange.Alone kernel route) :
    kernelContents (kernel \ {route}) = kernelContents kernel := by
  simp only [RouteChange.Alone, not_forall] at h
  obtain ⟨other, hother, hsame, hne⟩ := h
  refine (Set.image_mono Set.sdiff_subset).antisymm ?_
  rintro _ ⟨r, hr, rfl⟩
  by_cases hr' : r = route
  · exact ⟨other, ⟨hother, hne⟩, by rwa [hr']⟩
  · exact ⟨r, ⟨hr, hr'⟩, rfl⟩
end Table

structure Watched (netns : NetnsId) where
  kernel : Set (KernelRoute netns)
  collector : NetlinkCollector
  reported : Bool

namespace Watched
variable (clock : ℕ → RealtimeTime × MonotonicTime) {netns : NetnsId}
def step (w : Watched netns) (change : RouteChange netns) : Watched netns where
  kernel := change.apply w.kernel
  collector := w.collector.receiveDatagram clock 0 change.datagram
  reported := w.reported || w.collector.reportsFailure clock change.datagram

structure Follows (w : Watched netns) : Prop where
  collector : w.collector.netns = netns
  state : w.collector.state.netns = netns
  canonical : TopologyState.Canonical w.collector.state
  routes : TopologyState.contents w.collector.state = kernelContents w.kernel

section Step
variable {clock} {w : Watched netns} {r : KernelRoute netns} {present : Bool} {flags : ℕ}
variable (clock) in
theorem receive_announcement (h : Follows w) (r : KernelRoute netns) (present : Bool)
    (hflags : flags < 2 ^ 16) :
    ((applyRoute w.collector.state { r.fact with present := present }).2.applied →
      w.collector.reportsFailure clock (routeDatagram (routeType present) flags r.body) = false ∧
      (w.collector.receiveDatagram clock 0 (routeDatagram (routeType present) flags
        r.body)).netns = netns ∧
      (w.collector.receiveDatagram clock 0 (routeDatagram (routeType present) flags
        r.body)).state.netns = netns ∧
      (w.collector.receiveDatagram clock 0 (routeDatagram (routeType present) flags
        r.body)).state.routes = (applyRoute w.collector.state
          { r.fact with present := present }).1.routes) ∧
    ((applyRoute w.collector.state { r.fact with present := present }).2.applied = false →
      w.collector.reportsFailure clock (routeDatagram (routeType present) flags r.body)) := by
  have hparse : parse (routeDatagram (routeType present) flags r.body) 0 none
      w.collector.netns = ⟨[r.message present], false, false, false, ""⟩ := by
    rw [h.collector]
    exact r.parse_datagram present hflags
  have haccepted : NetlinkCollector.rejected ⟨[r.message present], false, false, false, ""⟩ =
      false := rfl
  have hkept : [r.message present].filter isNotification = [r.message present] := rfl
  obtain ⟨hdone, hrefused⟩ := @processNotificationBatch_route clock w.collector
    (r.message present) { r.fact with present := present } rfl rfl
  rw [reportsFailure, receiveDatagram, hparse]
  simp only [haccepted, hkept, Bool.false_or, Bool.false_eq_true, if_false]
  refine ⟨fun happlied => ?_, fun hfailed => ?_⟩
  · obtain ⟨hcollector, hstate, hroutes, hresult⟩ := hdone happlied
    refine ⟨?_, hcollector.trans h.collector, hstate.trans h.state, hroutes⟩
    cases hcase : (processNotificationBatch clock w.collector
        [r.message present]).2 with
    | error => rfl
    | ok processed =>
      cases processed with
      | true => rfl
      | false => exact absurd hcase hresult
  · rw [hrefused hfailed]
    rfl

def Sound (w : Watched netns) : Prop := w.reported = true ∨ Follows w

variable {change : RouteChange netns}

section
variable (h : Follows w)
include h

section
variable (hreported : w.reported = false)
include hreported
theorem step_sound_of_applied (hflags : flags < 2 ^ 16)
    (hdatagram : change.datagram = routeDatagram (routeType present) flags r.body)
    (happlied :
      (applyRoute w.collector.state { r.fact with present := present }).2.applied) :
    Sound (w.step clock change) ↔ contents (applyRoute w.collector.state
        { r.fact with present := present }).1 = kernelContents (change.apply w.kernel) := by
  obtain ⟨hquiet, hcollector, hstate, hroutes⟩ :=
    (receive_announcement clock h r present hflags).1 happlied
  have hcanonical := applyRoute_canonical h.canonical { r.fact with present := present }
  rw [← hdatagram] at hquiet hcollector hstate hroutes
  have hcontents : contents (w.step clock change).collector.state =
      contents (applyRoute w.collector.state
        { r.fact with present := present }).1 := by
    simp [contents, step, hroutes]
  rw [← hcontents]
  constructor
  · rintro (hfailed | hfollows)
    · rw [step, hreported, hquiet] at hfailed
      cases hfailed
    · exact hfollows.routes
  · intro hsame
    exact .inr ⟨hcollector, hstate, hcanonical.sublist (by rw [step, hroutes]), hsame⟩

theorem step_add (hflags : flags < 2 ^ 16) :
    Sound (w.step clock (.add r flags)) := by
  obtain ⟨hnetns, hsorted⟩ := r.fact_sound
  obtain ⟨happlied, hcontents⟩ := @applyRoute_new w.collector.state
    { r.fact with present := true } hsorted (hnetns.trans h.state.symm) rfl
  rw [step_sound_of_applied h hreported hflags rfl happlied, hcontents, h.routes,
    RouteChange.apply, kernelContents_insert]
  rfl

theorem step_delete_iff (hflags : flags < 2 ^ 16) (hr : r ∈ w.kernel) :
    Sound (w.step clock (.delete r flags)) ↔ RouteChange.Traceable w.kernel (.delete r flags) := by
  obtain ⟨hnetns, hsorted⟩ := r.fact_sound
  have hknown : r.fact.content ∈ contents w.collector.state := by
    rw [h.routes]
    exact ⟨r, hr, rfl⟩
  obtain ⟨hambiguous, hclear⟩ := @applyRoute_delete w.collector.state
    { r.fact with present := false } hsorted (hnetns.trans h.state.symm) rfl h.canonical hknown
  rw [RouteChange.Traceable, ← h.routes]
  by_cases hmany : TopologyState.Ambiguous (contents w.collector.state) r.fact
  · refine ⟨fun _ => .inr hmany, fun _ => .inl ?_⟩
    have hfailed := (receive_announcement clock h r false hflags).2 (hambiguous hmany)
    rw [step, RouteChange.datagram, hfailed, Bool.or_true]
  · obtain ⟨happlied, hcontents⟩ := hclear hmany
    rw [step_sound_of_applied h hreported hflags rfl happlied, hcontents, h.routes,
      RouteChange.apply]
    constructor
    · intro hsame
      by_contra hneither
      rw [kernelContents_remove_of_not_alone fun halone => hneither (.inl halone)] at hsame
      have hmem : r.fact.content ∈ kernelContents w.kernel := ⟨r, hr, rfl⟩
      rw [← hsame] at hmem
      exact hmem.2 rfl
    · rintro (halone | hmany')
      · exact (kernelContents_remove_of_alone halone).symm
      · rw [h.routes] at hmany
        exact absurd hmany' hmany

theorem step_replace_iff (hflags : flags < 2 ^ 16) {old : KernelRoute netns}
    (hold : old ∈ w.kernel) :
    Sound (w.step clock (.replace old r flags)) ↔
      RouteChange.Traceable w.kernel (.replace old r flags) := by
  obtain ⟨hnetns, hsorted⟩ := r.fact_sound
  obtain ⟨happlied, hcontents⟩ := @applyRoute_new w.collector.state
    { r.fact with present := true } hsorted (hnetns.trans h.state.symm) rfl
  have hmem : old.fact.content ∈ kernelContents w.kernel := ⟨old, hold, rfl⟩
  rw [step_sound_of_applied h hreported hflags rfl happlied, hcontents, h.routes,
    RouteChange.apply, kernelContents_insert, RouteChange.Traceable]
  change insert r.fact.content _ = _ ↔ _
  by_cases halone : RouteChange.Alone w.kernel old
  · rw [kernelContents_remove_of_alone halone]
    constructor
    · intro hsame
      left
      have hkept : old.fact.content ∈
          insert r.fact.content (kernelContents w.kernel \ {old.fact.content}) :=
        hsame ▸ Set.mem_insert_of_mem _ hmem
      rcases hkept with hnew | hother
      · exact hnew.symm
      · exact absurd rfl hother.2
    · rintro (hsame | hnot)
      · rw [hsame, Set.insert_sdiff_singleton]
      · exact absurd halone hnot
  · rw [kernelContents_remove_of_not_alone halone]
    exact ⟨fun _ => .inr halone, fun _ => rfl⟩
end
end

theorem step_sound_iff (h : Sound w) (hannounced : change.Announced w.kernel) :
    Sound (w.step clock change) ↔ w.reported ∨ change.Traceable w.kernel := by
  by_cases hreported : w.reported
  · exact ⟨fun _ => .inl hreported, fun _ => .inl (by rw [step, hreported, Bool.true_or])⟩
  · have hfollows := h.resolve_left hreported
    have hquiet := Bool.eq_false_iff.mpr hreported
    rw [or_iff_right hreported]
    cases change with
    | add => exact ⟨fun _ => trivial, fun _ => step_add hfollows hquiet hannounced.1⟩
    | delete => exact step_delete_iff hfollows hquiet hannounced.1 hannounced.2
    | replace =>
      exact step_replace_iff hfollows hquiet hannounced.1 hannounced.2.2
end Step

/-- All along the changes the collector holds the kernel's routes or has reported a failure,
exactly when every change made before its first report is traceable. -/
theorem routes_followed_iff (w : Watched netns) (h : Follows w) (changes : List (RouteChange netns))
    (hannounced : AllSteps (step clock) (fun w change => change.Announced w.kernel) w changes) :
    AllStates (step clock) Sound w changes ↔
      AllSteps (step clock) (fun w change => w.reported = true ∨ change.Traceable w.kernel) w
        changes :=
  allStates_iff_allSteps (P := Sound) (fun _ _ hsound ha => step_sound_iff hsound ha) (.inr h)
    hannounced

/-- The main table's default route over interface 2 by way of `10.0.0.host`. -/
def defaultBody (host : UInt8) : ByteString :=
  [2, 0, 0, 0, 254, 3, 0, 1, 0, 0, 0, 0, 8, 0, 5, 0, 10, 0, 0, host, 8, 0, 4, 0, 2, 0, 0, 0]

def defaultFact (host : UInt8) : RouteFact where
  netns := ⟨4, 1⟩
  family := 2
  destinationPrefix := 0
  destination := Address.zero
  table := 254
  priority := 0
  protocol := 3
  scope := 0
  type := 1
  outputIfindex := some 2
  gateway := some (Address.ofBytes 4 [10, 0, 0, host])
  preferredSource := none
  multipath := []
  present := true
  attributeMask := {.outputInterface, .gateway}

def firstRoute : KernelRoute ⟨4, 1⟩ :=
  ⟨defaultBody 1, defaultFact 1, by decide, by decide, by decide +kernel⟩

def secondRoute : KernelRoute ⟨4, 1⟩ :=
  ⟨defaultBody 9, defaultFact 9, by decide, by decide, by decide +kernel⟩

def stillClock : ℕ → RealtimeTime × MonotonicTime := fun _ => (0, 0)

def fresh : Watched ⟨4, 1⟩ := ⟨∅, .start ⟨4, 1⟩ Nat.one_ne_zero, false⟩

theorem fresh_follows : Follows fresh where
  collector := rfl
  state := rfl
  canonical := ⟨nodup_nil, forall_mem_nil _⟩
  routes := by
    ext x
    constructor
    all_goals
      rintro ⟨r, hr, -⟩
      cases hr

def replaced : List (RouteChange ⟨4, 1⟩) :=
  [.add firstRoute 0x600, .replace firstRoute secondRoute 0x100]

theorem replaced_announced :
    AllSteps (step stillClock) (fun w change => change.Announced w.kernel) fresh replaced :=
  ⟨⟨by decide, by decide⟩, ⟨by decide, by decide, Set.mem_insert _ _⟩, trivial⟩

theorem replaced_traceable_iff :
    AllStates (step stillClock) Sound fresh replaced ↔
      AllSteps (step stillClock)
        (fun w change => w.reported = true ∨ change.Traceable w.kernel) fresh replaced :=
  routes_followed_iff stillClock fresh fresh_follows replaced replaced_announced

/-- The kernel has only the second route; the collector keeps both and reports nothing. -/
theorem replaced_route_kept :
    (run (step stillClock) fresh replaced).kernel = {secondRoute} ∧
    (run (step stillClock) fresh replaced).collector.state.routes.map RouteFact.gateway =
      [some (Address.ofBytes 4 [10, 0, 0, 1]), some (Address.ofBytes 4 [10, 0, 0, 9])] ∧
    (run (step stillClock) fresh replaced).reported = false := by
  refine ⟨?_, by decide +kernel, by decide +kernel⟩
  change insert secondRoute (insert firstRoute ∅ \ {firstRoute}) = {secondRoute}
  rw [Set.insert_sdiff_of_mem _ (Set.mem_singleton _), Set.empty_sdiff, insert_empty_eq]
end Watched
end WeakNet
