import Mathlib.Data.List.TakeWhile
import WeakNet.CollectorRuns
import WeakNet.TopologyInvariant

/-! The facts and the uplink that `publishChanges` announces, in order. The `NetworkEvent`
constructor refuses an announcement exactly when its interface has index 0, and the publication ends
there. Additions are announced before removals, so an address that changes without changing its key
is lost to a subscriber. -/

namespace WeakNet
open Foundation Foundation.OrderedMap TopologyState List UplinkPolicy

namespace NetlinkCollector
variable {c c' : NetlinkCollector} {clock : ℕ → RealtimeTime × MonotonicTime}

/-- Every collector after its constructor has a namespace with an inode and a next event number. -/
structure Ready (c : NetlinkCollector) : Prop where
  inode : c.netns.inode ≠ 0
  eventId : c.nextEventId ≠ 0

theorem ready_start (netns : NetnsId) (h : netns.inode ≠ 0) : Ready (start netns h) :=
  ⟨h, Nat.one_ne_zero⟩

structure Announcement where
  interface : Option InterfaceId
  payload : NetworkEventPayload

def Announcement.indexed (a : Announcement) : Bool := a.interface.all (·.ifindex != 0)

def linkAnnouncement (fact : LinkFact) : Announcement :=
  ⟨some fact.interface, .link ⟨fact.interface.ifindex, fact.interface.observedName, fact.present,
    fact.up, fact.carrier != 0⟩⟩

def addressAnnouncement (fact : AddressFact) : Announcement :=
  ⟨some fact.interface, .address ⟨fact.interface.ifindex, fact.family, fact.prefixLength,
    addressString fact.address fact.family, fact.present⟩⟩

def routeAnnouncement (fact : RouteFact) : Announcement :=
  ⟨fact.outputIfindex.map fun i => ⟨i, []⟩, .route ⟨fact.family, fact.destinationPrefix, fact.table,
    fact.priority, fact.outputIfindex.getD 0, fact.present, !fact.multipath.isEmpty, fact.onLink⟩⟩

def announcement (message : ParsedMessage) : Option Announcement :=
  match message.kind, message.link, message.address, message.route with
  | .link, some fact, _, _ => some (linkAnnouncement fact)
  | .address, _, some fact, _ => some (addressAnnouncement fact)
  | .route, _, _, some fact => some (routeAnnouncement fact)
  | _, _, _, _ => none

def Unchecked (payload : NetworkEventPayload) : Prop := ∀ head, payloadError head payload = none

variable (c clock) in
theorem messageEvent_announcement (message : ParsedMessage) :
    (announcement message = none ∧ messageEvent clock c message = none) ∨
    ∃ a validity, announcement message = some a ∧ Unchecked a.payload ∧
      messageEvent clock c message =
        some (header clock c (kindFor a.payload) a.interface validity none, a.payload) := by
  obtain ⟨kind, link, address, route, _, _, _, _⟩ := message
  cases kind <;> cases link <;> cases address <;> cases route <;>
    first
    | exact .inl ⟨rfl, rfl⟩
    | exact .inr ⟨_, _, rfl, fun _ => rfl, rfl⟩

/-- What a publication of both lists has of the second: it ends at the first refused element. -/
def following {α : Type*} (p : α → Bool) (first second : List α) : List α :=
  if first.all p then second.takeWhile p else []

theorem takeWhile_append_following {α : Type*} (p : α → Bool) (first second : List α) :
    (first ++ second).takeWhile p = first.takeWhile p ++ following p first second := by
  induction first with
  | nil => rfl
  | cons a _ ih =>
    rw [cons_append, takeWhile_cons, takeWhile_cons, following, all_cons]
    cases p a with
    | true => exact congrArg (a :: ·) ih
    | false => rfl

/-- The announcements up to the first with interface index 0 are published. -/
structure Sent (c : NetlinkCollector) (announced : List Announcement)
    (out : NetlinkCollector × Option String) : Prop where
  ready : Ready out.1
  none_iff : out.2 = none ↔ ∀ a ∈ announced, a.indexed
  events : ∃ events, Publishes c out.1 events ∧
    events.map NetworkEvent.payload =
      (announced.takeWhile Announcement.indexed).map Announcement.payload

theorem Sent.nil (h : Ready c) : Sent c [] (c, none) :=
  ⟨h, iff_of_true rfl (forall_mem_nil _), [], .refl c, rfl⟩

variable {announced rest : List Announcement} {out : NetlinkCollector × Option String}
theorem Sent.append_thrown {text : String} (h : Sent c announced (c', some text)) :
    Sent c (announced ++ rest) (c', some text) := by
  have hrefused : ¬∀ a ∈ announced, a.indexed := fun hall => nomatch h.none_iff.mpr hall
  refine ⟨h.ready, iff_of_false (Option.some_ne_none _) fun hall =>
    hrefused (forall_mem_append.mp hall).1, ?_⟩
  rw [takeWhile_append_following, following, if_neg (mt all_eq_true.mp hrefused), append_nil]
  exact h.events

theorem Sent.append (h : Sent c announced (c', none)) (hrest : Sent c' rest out) :
    Sent c (announced ++ rest) out := by
  have hall := h.none_iff.mp rfl
  obtain ⟨events, hpublishes, hpayloads⟩ := h.events
  obtain ⟨events', hpublishes', hpayloads'⟩ := hrest.events
  refine ⟨hrest.ready, ?_, events ++ events', hpublishes.trans hpublishes', ?_⟩
  · rw [forall_mem_append, and_iff_right hall]
    exact hrest.none_iff
  · rw [takeWhile_append_of_pos hall, map_append, map_append, hpayloads, hpayloads',
      takeWhile_eq_self_iff.mpr hall]

section
variable (hready : Ready c)
include hready
variable (clock) in
theorem constructorError_header {payload : NetworkEventPayload} (hpayload : Unchecked payload)
    (interface : Option InterfaceId) (validity : Validity) (status : Option Status) :
    constructorError (header clock c (kindFor payload) interface validity status) payload = none ↔
      interface.all (·.ifindex != 0) := by
  have hcheck := hpayload (header clock c (kindFor payload) interface validity status)
  rw [constructorError, hcheck]
  simp only [header, ne_eq, not_true_eq_false, ↓reduceIte, hready.eventId, hready.inode,
    Option.not_mem_none, false_and, exists_false]
  cases interface <;> simp

variable (clock) in
theorem emit_sent (a : Announcement) (hpayload : Unchecked a.payload) (validity : Validity)
    (status : Option Status) :
    Sent c [a] (emit c (header clock c (kindFor a.payload) a.interface validity status)
      a.payload) := by
  have hcheck := constructorError_header clock hready hpayload a.interface validity status
  have hnext : Ready { c with nextEventId := c.nextEventId + 1 } :=
    ⟨hready.inode, Nat.succ_ne_zero _⟩
  rw [emit, NetworkEvent.make]
  split_ifs with h
  · have hindexed : a.indexed := hcheck.mp h
    exact ⟨⟨hnext.inode, hnext.eventId⟩, iff_of_true rfl (forall_mem_singleton.mpr hindexed),
      [⟨_, a.payload, h⟩], ⟨rfl, rfl, rfl, rfl, rfl⟩, by simp [hindexed]⟩
  · have hindexed : ¬a.indexed := fun hindexed => h (hcheck.mpr hindexed)
    exact ⟨hnext, iff_of_false (Option.some_ne_none _) fun hall =>
      hindexed (hall a (mem_singleton_self a)), [], ⟨(append_nil _).symm, rfl, rfl, rfl, rfl⟩, by simp [hindexed]⟩

variable (clock) in
theorem publishMessage_sent (message : ParsedMessage) :
    Sent c (announcement message).toList (publishMessage clock c message) := by
  rw [publishMessage]
  rcases messageEvent_announcement c clock message with
    ⟨ha, hevent⟩ | ⟨a, validity, ha, hpayload, hevent⟩
  · rw [ha, hevent]
    exact ⟨⟨hready.inode, Nat.succ_ne_zero _⟩, iff_of_true rfl (forall_mem_nil _), [],
      ⟨(append_nil _).symm, rfl, rfl, rfl, rfl⟩, rfl⟩
  · have hsent := emit_sent clock hready a hpayload validity none
    rw [ha, hevent, Option.toList_some]
    dsimp only
    generalize emit .. = sent at *
    obtain ⟨next, thrown⟩ := sent
    cases thrown with
    | some => exact hsent
    | none =>
      obtain ⟨events, hpublishes, hpayloads⟩ := hsent.events
      exact ⟨⟨hsent.ready.inode, hsent.ready.eventId⟩, hsent.none_iff, events, { hpublishes with },
        hpayloads⟩
end

variable (clock) in
theorem publishAll_sent (messages : List ParsedMessage) (hready : Ready c) :
    Sent c (messages.filterMap announcement) (publishAll clock c messages) := by
  induction messages generalizing c with
  | nil => exact .nil hready
  | cons message messages ih =>
    have hfirst := publishMessage_sent clock hready message
    have hsplit : (message :: messages).filterMap announcement =
        (announcement message).toList ++ messages.filterMap announcement := by
      cases ha : announcement message with
      | none => rw [filterMap_cons_none ha, Option.toList_none, nil_append]
      | some => rw [filterMap_cons_some ha, Option.toList_some, singleton_append]
    rw [publishAll, hsplit]
    generalize publishMessage .. = sent at *
    obtain ⟨next, thrown⟩ := sent
    cases thrown with
    | some => exact hfirst.append_thrown
    | none => exact hfirst.append (ih hfirst.ready)

def uplinkAnnouncement (uplink : UplinkSelection) : Announcement :=
  ⟨uplink.interface, uplinkPayload uplink⟩

section Changes
variable (before after : TopologySnapshot)
def newLinks : List (ℕ × LinkFact) :=
  after.links.entries.filter fun entry =>
    (before.links.find? entry.1).elim true (linkDiffers · entry.2)

def goneLinks : List (ℕ × LinkFact) :=
  before.links.entries.filter fun entry => !after.links.contains entry.1

def newAddresses : List AddressFact :=
  after.addresses.filter fun fact => !before.addresses.any fact.same

def newRoutes : List RouteFact :=
  after.routes.filter fun fact => !before.routes.any fun old => old.identity == fact.identity

def linkAnnouncements : List Announcement :=
  (newLinks before after).map (fun entry => linkAnnouncement entry.2) ++
    (goneLinks before after).map fun entry => linkAnnouncement { entry.2 with present := false }

def addressAnnouncements : List Announcement :=
  (newAddresses before after).map addressAnnouncement ++
    (newAddresses after before).map fun fact => addressAnnouncement { fact with present := false }

def routeAnnouncements : List Announcement :=
  (newRoutes before after).map routeAnnouncement ++
    (newRoutes after before).map fun fact => routeAnnouncement { fact with present := false }

def announcements : List Announcement :=
  linkAnnouncements before after ++ (addressAnnouncements before after ++
    (routeAnnouncements before after ++
      if uplinkChanged before after then [uplinkAnnouncement (select after)] else []))

theorem filterMap_announcement :
    (linkChanges before after ++ addressChanges before after ++
      routeChanges before after).filterMap announcement =
    linkAnnouncements before after ++ addressAnnouncements before after ++
      routeAnnouncements before after := by
  rw [filterMap_append, filterMap_append, linkChanges, addressChanges, routeChanges]
  simp only [filterMap_append, filterMap_map]
  simp only [linkAnnouncements, addressAnnouncements, routeAnnouncements, ← filterMap_eq_map]
  rfl
end Changes

variable (clock) in
theorem publishChanges_sent (hready : Ready c) (before after : TopologySnapshot) :
    Sent c (announcements before after) (publishChanges clock c before after) := by
  have hfacts := publishAll_sent clock
    (linkChanges before after ++ addressChanges before after ++ routeChanges before after) hready
  rw [filterMap_announcement] at hfacts
  rw [publishChanges, announcements, ← append_assoc, ← append_assoc]
  generalize publishAll clock c _ = sent at *
  obtain ⟨next, thrown⟩ := sent
  cases thrown with
  | some => exact hfacts.append_thrown
  | none =>
    refine hfacts.append ?_
    split_ifs
    · exact emit_sent clock hfacts.ready (uplinkAnnouncement (select after)) (fun _ => rfl) _ _
    · exact .nil hfacts.ready

/-- What is new, has changed or is gone does not have interface index 0, and neither has the uplink
if it is announced. -/
def Announceable (before after : TopologySnapshot) : Prop :=
  (∀ entry ∈ newLinks before after, entry.2.interface.ifindex ≠ 0) ∧
  (∀ entry ∈ goneLinks before after, entry.2.interface.ifindex ≠ 0) ∧
  (∀ fact ∈ newAddresses before after, fact.interface.ifindex ≠ 0) ∧
  (∀ fact ∈ newAddresses after before, fact.interface.ifindex ≠ 0) ∧
  (∀ fact ∈ newRoutes before after, fact.outputIfindex ≠ some 0) ∧
  (∀ fact ∈ newRoutes after before, fact.outputIfindex ≠ some 0) ∧
  (uplinkChanged before after = true → ∀ interface ∈ (select after).interface,
    interface.ifindex ≠ 0)
deriving Decidable

variable {before after : TopologySnapshot}
theorem indexed_some {interface : InterfaceId} {payload : NetworkEventPayload} :
    (Announcement.mk (some interface) payload).indexed ↔ interface.ifindex ≠ 0 := bne_iff_ne

theorem indexed_route {fact : RouteFact} :
    (routeAnnouncement fact).indexed ↔ fact.outputIfindex ≠ some 0 := by
  rw [Announcement.indexed, routeAnnouncement]
  cases fact.outputIfindex <;> simp

theorem announcements_indexed_iff :
    (∀ a ∈ announcements before after, a.indexed) ↔ Announceable before after := by
  have huplink : (∀ a ∈ if uplinkChanged before after then [uplinkAnnouncement (select after)]
      else [], a.indexed) ↔ (uplinkChanged before after → ∀ interface ∈ (select after).interface,
        interface.ifindex ≠ 0) := by
    split_ifs with h
    · simp [h, Announcement.indexed, uplinkAnnouncement, Option.all_eq_true]
    · exact iff_of_true (forall_mem_nil _) fun h' => absurd h' h
  simp only [announcements, linkAnnouncements, addressAnnouncements, routeAnnouncements,
    forall_mem_append, forall_mem_map, indexed_route, huplink, and_assoc]
  simp only [linkAnnouncement, addressAnnouncement, indexed_some]
  rfl

variable (clock) in
theorem install_sent (hready : Ready c) (after : TopologySnapshot) :
    ((install clock c after).2 = none ↔ Announceable c.state after) ∧
      Ready (install clock c after).1 := by
  have hsent := publishChanges_sent clock (c := { c with state := after, selected := select after })
    ⟨hready.inode, hready.eventId⟩ c.state after
  rw [← announcements_indexed_iff, ← hsent.none_iff]
  have hnext := hsent.ready
  unfold install
  dsimp only
  generalize publishChanges .. = sent at *
  obtain ⟨_, thrown⟩ := sent
  cases thrown with
  | none => exact ⟨Iff.rfl, hnext.inode, hnext.eventId⟩
  | some => exact ⟨Iff.rfl, hnext⟩

/-- A commit and a batch return normally exactly when nothing that has changed has interface
index 0. -/
theorem facts_published_iff (clock : ℕ → RealtimeTime × MonotonicTime) (hready : Ready c) :
    (∀ candidate : TopologySnapshot,
      ((commitReconciliation clock c candidate).2 = none ↔
        Announceable c.state (c.accepted candidate)) ∧
      Ready (commitReconciliation clock c candidate).1) ∧
    ∀ messages : List ParsedMessage,
      ((∃ handled, (processNotificationBatch clock c messages).2 = .ok handled) ↔
        (messages.all isFact = true → ∀ after, applyBatch c.state messages = .ok (after, true) →
          Announceable c.state
            { after with degraded := false, generation := c.state.generation + 1 })) ∧
      Ready (processNotificationBatch clock c messages).1 := by
  refine ⟨fun candidate => ?_, fun messages => ?_⟩
  · obtain ⟨hiff, hnext⟩ := install_sent clock hready (c.accepted candidate)
    obtain ⟨_, heq⟩ := commitReconciliation_eq clock c candidate
    rw [heq]
    exact ⟨hiff, hnext.inode, hnext.eventId⟩
  · have hbatched := processNotificationBatch_batched clock c messages
    generalize processNotificationBatch .. = out at *
    cases hbatched with
    | refused _ hrefused =>
      refine ⟨iff_of_true ⟨false, rfl⟩ fun hfacts after happlied => ?_, hready.inode,
        hready.eventId⟩
      simp [batchRefused, hfacts, happlied] at hrefused
    | unchanged _ _ _ hresult =>
      refine ⟨iff_of_true ⟨true, rfl⟩ fun _ after happlied => ?_, hready.inode, hready.eventId⟩
      cases hresult.symm.trans happlied
    | installed _ after _ thrown hfacts hresult hinstall =>
      obtain ⟨hiff, hnext⟩ := install_sent clock hready
        { after with degraded := false, generation := c.state.generation + 1 }
      rw [hinstall] at hiff hnext
      refine ⟨?_, hnext.inode, hnext.eventId⟩
      have hreturns : (∃ handled, thrown.elim (Except.ok true) Except.error = .ok handled) ↔
          thrown = none := by cases thrown <;> simp
      rw [hreturns, hiff]
      refine ⟨fun h _ after' happlied => ?_, fun h => h hfacts after hresult⟩
      cases hresult.symm.trans happlied
      exact h

def secondLink : LinkFact := ⟨⟨4, 1⟩, ⟨2, []⟩, 1, 0, 0, false, 0, true⟩

theorem facts_published_start :
    (RtnetlinkParser.parse (linkDatagram 16 2) 0 none ⟨4, 1⟩).messages = [linkMessage secondLink] ∧
      ∃ handled, (processNotificationBatch sampleClock (start ⟨4, 1⟩ Nat.one_ne_zero)
        [linkMessage secondLink]).2 = .ok handled := by
  refine ⟨by decide +kernel, ?_⟩
  have hready := ready_start ⟨4, 1⟩ Nat.one_ne_zero
  refine ((facts_published_iff sampleClock hready).2 [linkMessage secondLink]).1.mpr
    fun _ after happlied => ?_
  cases happlied
  decide +kernel

/-- An accepted notification for interface 0 makes the constructor throw. -/
theorem zero_index_thrown :
    rejected (RtnetlinkParser.parse (linkDatagram 16 0) 0 none ⟨4, 1⟩) = false ∧
      (processNotificationBatch sampleClock (start ⟨4, 1⟩ Nat.one_ne_zero)
        (RtnetlinkParser.parse (linkDatagram 16 0) 0 none ⟨4, 1⟩).messages).2 =
          .error "NetworkEvent interface ifindex must be nonzero" := by
  decide +kernel

section Replay
variable {κ : Type*} [DecidableEq κ]
def toggle (known : Finset κ) (change : κ × Bool) : Finset κ :=
  if change.2 then insert change.1 known else known.erase change.1

def replay (read : NetworkEventPayload → Option (κ × Bool)) (known : Finset κ)
    (events : List NetworkEvent) : Finset κ :=
  (events.filterMap fun event => read event.payload).foldl toggle known

theorem foldl_toggle_additions (keys : List κ) (known : Finset κ) :
    (keys.map fun key => (key, true)).foldl toggle known = known ∪ keys.toFinset := by
  induction keys generalizing known with
  | nil => exact (Finset.union_empty known).symm
  | cons key keys ih =>
    rw [map_cons, foldl_cons, ih, toFinset_cons, Finset.union_insert]
    exact Finset.insert_union ..

theorem foldl_toggle_removals (keys : List κ) (known : Finset κ) :
    (keys.map fun key => (key, false)).foldl toggle known = known \ keys.toFinset := by
  induction keys generalizing known with
  | nil => exact Finset.sdiff_empty.symm
  | cons _ _ ih =>
    rw [map_cons, foldl_cons, ih, toFinset_cons, Finset.sdiff_insert]
    exact Finset.erase_sdiff_comm ..

theorem foldl_toggle_eq_iff {known target : Finset κ} {added removed : List κ}
    (hadded : added.toFinset ⊆ target) :
    ((added.map fun key => (key, true)) ++ removed.map fun key => (key, false)).foldl
        toggle known = target ↔
      target ⊆ known ∪ added.toFinset ∧ Disjoint target removed.toFinset ∧
        known ⊆ target ∪ removed.toFinset := by
  rw [foldl_append, foldl_toggle_additions, foldl_toggle_removals]
  constructor
  · rintro rfl
    refine ⟨Finset.sdiff_subset, Finset.sdiff_disjoint, ?_⟩
    rw [Finset.sdiff_union_self_eq_union]
    exact Finset.subset_union_left.trans Finset.subset_union_left
  · rintro ⟨hcovered, hdisjoint, hremoved⟩
    apply Finset.Subset.antisymm
    · intro key hkey
      obtain ⟨hmem, hkept⟩ := Finset.mem_sdiff.mp hkey
      rcases Finset.mem_union.mp hmem with hknown | hnew
      · exact (Finset.mem_union.mp (hremoved hknown)).resolve_right hkept
      · exact hadded hnew
    · exact Finset.subset_sdiff.mpr ⟨hcovered, hdisjoint⟩
end Replay

def linkChange : NetworkEventPayload → Option (ℕ × Bool)
  | .link o => some (o.ifindex, o.present)
  | _ => none

def addressChange : NetworkEventPayload → Option ((ℕ × ℕ × ℕ × String) × Bool)
  | .address o => some ((o.ifindex, o.family, o.prefixLength, o.address), o.present)
  | _ => none

def reportedKey (fact : AddressFact) : ℕ × ℕ × ℕ × String :=
  (fact.interface.ifindex, fact.family, fact.prefixLength,
    addressString fact.address fact.family)

def reportedKeys (s : TopologySnapshot) : Finset (ℕ × ℕ × ℕ × String) :=
  (s.addresses.map reportedKey).toFinset

section Heard
variable {before after : TopologySnapshot}
theorem of_mem_following {α : Type*} {p : α → Bool} {first second : List α} {a : α}
    (h : a ∈ following p first second) : a ∈ second ∧ p a := by
  rw [following] at h
  split_ifs at h
  · exact ⟨(takeWhile_sublist p).subset h, mem_takeWhile_imp h⟩
  · cases h

section Changes
variable {α κ : Type*} {news gone : List α} {added removed : α → Announcement}
theorem takeWhile_changes {p : α → Bool} (hadded : ∀ a, (added a).indexed = p a)
    (hremoved : ∀ a, (removed a).indexed = p a) :
    (news.map added ++ gone.map removed).takeWhile Announcement.indexed =
      (news.takeWhile p).map added ++ (following p news gone).map removed := by
  have hadd : Announcement.indexed ∘ added = p := funext hadded
  have hremove : Announcement.indexed ∘ removed = p := funext hremoved
  rw [takeWhile_append_following, following, following, all_map, takeWhile_map, takeWhile_map,
    hadd, hremove]
  split_ifs <;> rfl

theorem filterMap_changes {read : NetworkEventPayload → Option (κ × Bool)} {key : α → κ}
    (hadded : ∀ a ∈ news, read (added a).payload = some (key a, true))
    (hremoved : ∀ a ∈ gone, read (removed a).payload = some (key a, false)) :
    (news.map added ++ gone.map removed).filterMap (fun a => read a.payload) =
      ((news.map key).map fun key => (key, true)) ++ (gone.map key).map fun key => (key, false) := by
  rw [filterMap_append, filterMap_map, filterMap_map, map_map, map_map,
    ← filterMap_eq_map, ← filterMap_eq_map]
  congr 1
  · exact filterMap_congr hadded
  · exact filterMap_congr hremoved
end Changes

theorem addressChange_link :
    ∀ a ∈ linkAnnouncements before after, addressChange a.payload = none := by
  rw [linkAnnouncements, forall_mem_append, forall_mem_map, forall_mem_map]
  exact ⟨fun _ _ => rfl, fun _ _ => rfl⟩

theorem linkChange_address :
    ∀ a ∈ addressAnnouncements before after, linkChange a.payload = none := by
  rw [addressAnnouncements, forall_mem_append, forall_mem_map, forall_mem_map]
  exact ⟨fun _ _ => rfl, fun _ _ => rfl⟩

theorem unread_later : ∀ a ∈ routeAnnouncements before after ++
    (if uplinkChanged before after then [uplinkAnnouncement (select after)] else []),
      linkChange a.payload = none ∧ addressChange a.payload = none := by
  rw [forall_mem_append, routeAnnouncements, forall_mem_append, forall_mem_map, forall_mem_map]
  refine ⟨⟨fun _ _ => ⟨rfl, rfl⟩, fun _ _ => ⟨rfl, rfl⟩⟩, ?_⟩
  split_ifs
  · exact forall_mem_singleton.mpr ⟨rfl, rfl⟩
  · exact forall_mem_nil _

theorem heard_linkChange :
    ((announcements before after).takeWhile Announcement.indexed).filterMap
        (fun a => linkChange a.payload) =
      ((linkAnnouncements before after).takeWhile Announcement.indexed).filterMap
        fun a => linkChange a.payload := by
  rw [announcements, takeWhile_append_following, filterMap_append]
  refine append_right_eq_self.mpr (filterMap_eq_nil_iff.mpr fun a ha => ?_)
  rcases mem_append.mp (of_mem_following ha).1 with haddress | hlater
  · exact linkChange_address a haddress
  · exact (unread_later a hlater).1

theorem heard_addressChange :
    ((announcements before after).takeWhile Announcement.indexed).filterMap
        (fun a => addressChange a.payload) =
      (following Announcement.indexed (linkAnnouncements before after)
        (addressAnnouncements before after)).filterMap fun a => addressChange a.payload := by
  have hlinks : ((linkAnnouncements before after).takeWhile Announcement.indexed).filterMap
      (fun a => addressChange a.payload) = [] :=
    filterMap_eq_nil_iff.mpr fun a ha => addressChange_link a ((takeWhile_sublist _).subset ha)
  rw [announcements, takeWhile_append_following, filterMap_append, hlinks, nil_append, following,
    following]
  split
  · rw [takeWhile_append_following, filterMap_append]
    refine append_right_eq_self.mpr (filterMap_eq_nil_iff.mpr fun a ha => ?_)
    exact (unread_later a (of_mem_following ha).1).2
  · rfl
end Heard

def announcedLinks (before after : TopologySnapshot) : List ℕ :=
  (newLinks before after).map fun entry => entry.2.interface.ifindex

def withdrawnLinks (before after : TopologySnapshot) : List ℕ :=
  (goneLinks before after).map fun entry => entry.2.interface.ifindex

section Snapshots
variable {before after : TopologySnapshot}

section
variable (hafter : ModelInvariant after)
include hafter
theorem mem_announcedLinks {i : ℕ} :
    i ∈ announcedLinks before after ↔ ∃ link, after.links.find? i = some link ∧
      (before.links.find? i).elim true (linkDiffers · link) := by
  rw [announcedLinks, newLinks, mem_map]
  constructor
  · rintro ⟨entry, hentry, rfl⟩
    obtain ⟨hmem, hdiffers⟩ := mem_filter.mp hentry
    have hfind := mem_entries.mp hmem
    rw [(hafter.links _ _ hfind).2.1]
    exact ⟨entry.2, hfind, hdiffers⟩
  · rintro ⟨link, hfind, hdiffers⟩
    refine ⟨(i, link), mem_filter.mpr ⟨mem_entries.mpr hfind, hdiffers⟩, ?_⟩
    exact (hafter.links i link hfind).2.1
end

theorem mem_withdrawnLinks (hbefore : ModelInvariant before) {i : ℕ} :
    i ∈ withdrawnLinks before after ↔ i ∈ before.links.keys ∧ i ∉ after.links.keys := by
  have hcontains : ∀ s : TopologySnapshot, i ∈ s.links.keys ↔ s.links.contains i :=
    fun s => mem_keys
  rw [withdrawnLinks, goneLinks, mem_map, hcontains, hcontains]
  constructor
  · rintro ⟨entry, hentry, rfl⟩
    obtain ⟨hmem, hgone⟩ := mem_filter.mp hentry
    have hfind := mem_entries.mp hmem
    rw [(hbefore.links _ _ hfind).2.1]
    refine ⟨contains_iff.mpr ⟨entry.2, hfind⟩, fun hkept => ?_⟩
    rw [hkept] at hgone
    cases hgone
  · rintro ⟨hold, hgone⟩
    obtain ⟨link, hfind⟩ := contains_iff.mp hold
    refine ⟨(i, link), mem_filter.mpr ⟨mem_entries.mpr hfind, ?_⟩, ?_⟩
    · rw [Bool.not_eq_true']
      exact Bool.eq_false_iff.mpr hgone
    · exact (hbefore.links i link hfind).2.1

theorem links_followed (hbefore : ModelInvariant before) (hafter : ModelInvariant after) :
    after.links.keys ⊆ before.links.keys ∪ (announcedLinks before after).toFinset ∧
      Disjoint after.links.keys (withdrawnLinks before after).toFinset ∧
      before.links.keys ⊆ after.links.keys ∪ (withdrawnLinks before after).toFinset := by
  refine ⟨fun i hnew => ?_, Finset.disjoint_right.mpr fun i hi => ?_, fun i hold => ?_⟩
  · rw [Finset.mem_union, mem_toFinset, mem_announcedLinks hafter]
    cases hold : before.links.find? i with
    | some => exact .inl (mem_keys_of_find? hold)
    | none =>
      obtain ⟨link, hfind⟩ := contains_iff.mp (mem_keys.mp hnew)
      exact .inr ⟨link, hfind, rfl⟩
  · exact ((mem_withdrawnLinks hbefore).mp (mem_toFinset.mp hi)).2
  · rw [Finset.mem_union, mem_toFinset, mem_withdrawnLinks hbefore]
    by_cases hkept : i ∈ after.links.keys
    · exact .inl hkept
    · exact .inr ⟨hold, hkept⟩

theorem takeWhile_newLinks (hafter : ModelInvariant after) (hzero : 0 ∈ announcedLinks before after) :
    (newLinks before after).takeWhile (·.2.interface.ifindex != 0) = [] := by
  have hsorted : (newLinks before after).Pairwise fun a b => a.1 < b.1 :=
    after.links.sorted.filter _
  have hindex : ∀ entry ∈ newLinks before after, entry.2.interface.ifindex = entry.1 :=
    fun entry hentry => (hafter.links _ _ (mem_entries.mp (mem_of_mem_filter hentry))).2.1
  obtain ⟨entry, hentry, hzero⟩ := mem_map.mp hzero
  -- the entries are in the order of their keys, so the one with index 0 is the first
  cases hlinks : newLinks before after with
  | nil => rfl
  | cons first rest =>
    rw [hlinks] at hsorted hindex hentry
    have hfirst : first.2.interface.ifindex = 0 := by
      rcases mem_cons.mp hentry with rfl | hrest
      · exact hzero
      · have hlt := (pairwise_cons.mp hsorted).1 entry hrest
        rw [← hindex entry hentry, hzero] at hlt
        exact absurd hlt (Nat.not_lt_zero _)
    exact takeWhile_cons_of_neg (by rw [hfirst]; exact Bool.false_ne_true)

theorem heard_links (hafter : ModelInvariant after) :
    ((announcements before after).takeWhile Announcement.indexed).filterMap
        (fun a => linkChange a.payload) =
      ((((newLinks before after).takeWhile (·.2.interface.ifindex != 0)).map
          (·.2.interface.ifindex)).map fun key => (key, true)) ++
        ((following (·.2.interface.ifindex != 0) (newLinks before after)
          (goneLinks before after)).map (·.2.interface.ifindex)).map fun key => (key, false) := by
  have hheard : (linkAnnouncements before after).takeWhile Announcement.indexed =
      ((newLinks before after).takeWhile (·.2.interface.ifindex != 0)).map _ ++
        (following (·.2.interface.ifindex != 0) (newLinks before after)
          (goneLinks before after)).map _ :=
    takeWhile_changes (fun _ => rfl) fun _ => rfl
  rw [heard_linkChange, hheard]
  refine filterMap_changes (fun entry hentry => ?_) (fun _ _ => rfl)
  have hnew := mem_of_mem_filter ((takeWhile_sublist _).subset hentry)
  change some (entry.2.interface.ifindex, entry.2.present) = some (_, true)
  rw [(hafter.links _ _ (mem_entries.mp hnew)).2.2]

def announcedKeys (before after : TopologySnapshot) : List (ℕ × ℕ × ℕ × String) :=
  ((newAddresses before after).takeWhile (·.interface.ifindex != 0)).map reportedKey

def withdrawnKeys (before after : TopologySnapshot) : List (ℕ × ℕ × ℕ × String) :=
  (following (·.interface.ifindex != 0) (newAddresses before after)
    (newAddresses after before)).map reportedKey

theorem heard_addresses (hafter : ModelInvariant after) :
    ((addressAnnouncements before after).takeWhile Announcement.indexed).filterMap
        (fun a => addressChange a.payload) =
      ((announcedKeys before after).map fun key => (key, true)) ++
        (withdrawnKeys before after).map fun key => (key, false) := by
  have hheard : (addressAnnouncements before after).takeWhile Announcement.indexed =
      ((newAddresses before after).takeWhile (·.interface.ifindex != 0)).map _ ++
        (following (·.interface.ifindex != 0) (newAddresses before after)
          (newAddresses after before)).map _ :=
    takeWhile_changes (fun _ => rfl) fun _ => rfl
  rw [hheard]
  refine filterMap_changes (fun fact hfact => ?_) (fun _ _ => rfl)
  have hnew := mem_of_mem_filter ((takeWhile_sublist _).subset hfact)
  change some (reportedKey fact, fact.present) = some (_, true)
  rw [(hafter.addresses fact hnew).2]

/-- If a link with index 0 is announced, nothing else is, so nothing else may differ. Otherwise the
addresses up to the first with index 0 are announced, and no address announced as gone may have
the key of one that is there. -/
def Replayable (before after : TopologySnapshot) : Prop :=
  if 0 ∈ announcedLinks before after ∨ 0 ∈ withdrawnLinks before after then
    before.links.keys = after.links.keys ∧ reportedKeys before = reportedKeys after
  else
    reportedKeys after ⊆ reportedKeys before ∪ (announcedKeys before after).toFinset ∧
    Disjoint (reportedKeys after) (withdrawnKeys before after).toFinset ∧
    reportedKeys before ⊆ reportedKeys after ∪ (withdrawnKeys before after).toFinset
deriving Decidable

theorem linkAnnouncements_indexed :
    (linkAnnouncements before after).all Announcement.indexed ↔
      0 ∉ announcedLinks before after ∧ 0 ∉ withdrawnLinks before after := by
  rw [linkAnnouncements, all_append, all_map, all_map, announcedLinks, withdrawnLinks]
  simp [Function.comp_def, linkAnnouncement, Announcement.indexed]

section Links
variable (hbefore : ModelInvariant before) (hafter : ModelInvariant after)
include hbefore hafter
theorem foldl_heard_links :
    (((announcements before after).takeWhile Announcement.indexed).filterMap
      fun a => linkChange a.payload).foldl toggle before.links.keys = after.links.keys ↔
    (0 ∈ announcedLinks before after ∨ 0 ∈ withdrawnLinks before after →
      before.links.keys = after.links.keys) := by
  have hadded : (((newLinks before after).takeWhile (·.2.interface.ifindex != 0)).map
      (·.2.interface.ifindex)).toFinset ⊆ after.links.keys := by
    intro i hi
    obtain ⟨_, hfind, -⟩ := (mem_announcedLinks hafter).mp
      (((takeWhile_sublist _).map _).subset (mem_toFinset.mp hi))
    exact mem_keys_of_find? hfind
  rw [heard_links hafter]
  by_cases hnew : 0 ∈ announcedLinks before after
  · have hgone : following (·.2.interface.ifindex != 0) (newLinks before after)
        (goneLinks before after) = [] := by
      refine if_neg fun hall => ?_
      obtain ⟨entry, hentry, hindex⟩ := mem_map.mp hnew
      exact bne_iff_ne.mp (all_eq_true.mp hall entry hentry) hindex
    rw [takeWhile_newLinks hafter hnew, hgone, imp_iff_right (.inl hnew)]
    rfl
  rw [foldl_toggle_eq_iff hadded, or_iff_right hnew]
  have hall : ∀ entry ∈ newLinks before after, (entry.2.interface.ifindex != 0) = true :=
    fun entry hentry => bne_iff_ne.mpr fun hzero => hnew (mem_map.mpr ⟨entry, hentry, hzero⟩)
  by_cases hgone : 0 ∈ withdrawnLinks before after
  · obtain ⟨hold, hleft⟩ := (mem_withdrawnLinks hbefore).mp hgone
    rw [imp_iff_right hgone]
    refine iff_of_false (fun h => ?_) fun heq => hleft (heq ▸ hold)
    rcases Finset.mem_union.mp (h.2.2 hold) with hkept | hheard
    · exact hleft hkept
    · obtain ⟨entry, hentry, hindex⟩ := mem_map.mp (mem_toFinset.mp hheard)
      exact bne_iff_ne.mp (of_mem_following hentry).2 hindex
  · refine iff_of_true ?_ fun h => absurd h hgone
    have hrest : ∀ entry ∈ goneLinks before after, (entry.2.interface.ifindex != 0) = true :=
      fun entry hentry => bne_iff_ne.mpr fun hzero => hgone (mem_map.mpr ⟨entry, hentry, hzero⟩)
    rw [following, if_pos (all_eq_true.mpr hall), takeWhile_eq_self_iff.mpr hall,
      takeWhile_eq_self_iff.mpr hrest]
    exact links_followed hbefore hafter
end Links

/-- The events of a change take a subscriber from the links and addresses of one snapshot to those
of the other exactly when the change is replayable. -/
theorem replay_follows_iff (clock : ℕ → RealtimeTime × MonotonicTime) (hready : Ready c)
    (hbefore : ModelInvariant before) (hafter : ModelInvariant after) :
    ∃ events, (publishChanges clock c before after).1.published = c.published ++ events ∧
      ((replay linkChange before.links.keys events = after.links.keys ∧
        replay addressChange (reportedKeys before) events = reportedKeys after) ↔
          Replayable before after) := by
  obtain ⟨events, hpublishes, hpayloads⟩ := (publishChanges_sent clock hready before after).events
  have hread : ∀ {κ : Type} [DecidableEq κ] (read : NetworkEventPayload → Option (κ × Bool)) known,
      replay read known events = (((announcements before after).takeWhile
        Announcement.indexed).filterMap fun a => read a.payload).foldl toggle known := by
    intro κ _ read known
    have hmapped := congrArg (List.filterMap read) hpayloads
    rw [filterMap_map, filterMap_map] at hmapped
    exact congrArg (·.foldl toggle known) hmapped
  refine ⟨events, hpublishes.published, ?_⟩
  rw [hread, hread, foldl_heard_links hbefore hafter, heard_addressChange, following, Replayable]
  by_cases hzero : 0 ∈ announcedLinks before after ∨ 0 ∈ withdrawnLinks before after
  · have hthrown : ¬(linkAnnouncements before after).all Announcement.indexed := by
      rwa [linkAnnouncements_indexed, ← not_or, not_not]
    rw [if_pos hzero, if_neg hthrown, imp_iff_right hzero]
    rfl
  · have hadded : (announcedKeys before after).toFinset ⊆ reportedKeys after := by
      intro key hkey
      obtain ⟨fact, hfact, rfl⟩ := mem_map.mp (mem_toFinset.mp hkey)
      have hnew := mem_of_mem_filter ((takeWhile_sublist _).subset hfact)
      exact mem_toFinset.mpr (mem_map_of_mem hnew)
    rw [if_neg hzero, if_pos (linkAnnouncements_indexed.mpr (not_or.mp hzero)),
      heard_addresses hafter, foldl_toggle_eq_iff hadded]
    exact and_iff_right fun h => absurd h hzero
end Snapshots

def sampleAddress (flags : ℕ) : AddressFact :=
  ⟨⟨4, 1⟩, ⟨2, []⟩, afInet, 24, .ofBytes 4 [10, 0, 0, 2], 0, flags, true⟩

def addressed (flags : List ℕ) : TopologySnapshot :=
  reached ⟨4, 1⟩ (flags.map fun f => addressMessage (sampleAddress f))

theorem replay_follows_new_address :
    ∃ events, (publishChanges sampleClock (start ⟨4, 1⟩ Nat.one_ne_zero) (addressed [])
        (addressed [0])).1.published = events ∧
      replay addressChange (reportedKeys (addressed [])) events =
        reportedKeys (addressed [0]) := by
  obtain ⟨events, hevents, hiff⟩ := replay_follows_iff sampleClock
    (ready_start ⟨4, 1⟩ Nat.one_ne_zero)
    (reached_invariant ⟨4, 1⟩ _ : ModelInvariant (addressed []))
    (reached_invariant ⟨4, 1⟩ _ : ModelInvariant (addressed [0]))
  exact ⟨events, hevents, (hiff.mpr (by decide +kernel)).2⟩

/-- An address that loses its tentative flag is announced and then withdrawn. -/
theorem changed_address_lost :
    ModelInvariant (addressed [64]) ∧ ModelInvariant (addressed [64, 0]) ∧
      (publishChanges sampleClock (start ⟨4, 1⟩ Nat.one_ne_zero) (addressed [64])
        (addressed [64, 0])).2 = none ∧
      reportedKeys (addressed [64]) = reportedKeys (addressed [64, 0]) ∧
      reportedKeys (addressed [64, 0]) ≠ ∅ ∧
      replay addressChange (reportedKeys (addressed [64]))
        (publishChanges sampleClock (start ⟨4, 1⟩ Nat.one_ne_zero) (addressed [64])
          (addressed [64, 0])).1.published = ∅ := by
  refine ⟨reached_invariant ⟨4, 1⟩ _, reached_invariant ⟨4, 1⟩ _, ?_⟩
  decide +kernel
end NetlinkCollector
end WeakNet
