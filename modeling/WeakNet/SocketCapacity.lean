import WeakNet.SocketIdentity

/-! The admission test of `observe` adds the sizes of the active table and of the candidate, so
identities that a snapshot reports again, or is about to replace, count twice. The sockets a list of
inputs denotes are their evidences, each with the tuple reported last. -/

namespace WeakNet.SocketLifecycleTable
open Foundation Foundation.OrderedMap Foundation.Runs List

def denoted (inputs : List SocketObservationInput) : Finset Evidence :=
  ((inputs.filter (fun i => validInput i)).map inputEvidence).toFinset

def lastTuple (inputs : List SocketObservationInput) (e : Evidence) : Option SocketTuple :=
  inputs.foldl (fun acc i => if validInput i ∧ inputEvidence i = e then some i.tuple else acc) none

def activeHas (t : SocketLifecycleTable) (i : SocketObservationInput) : Bool :=
  t.active.entries.any (fun e => e.2.tuple == i.tuple &&
    evidenceOf e.1 e.2.tuple == inputEvidence i)

/-- A valid input that needs a new identity: the snapshot reported its evidence with
another tuple last, or not at all and no active identity has both. -/
def isNew (t : SocketLifecycleTable) (seen : List SocketObservationInput)
    (i : SocketObservationInput) : Bool :=
  validInput i && match lastTuple seen (inputEvidence i) with
    | some x => x != i.tuple
    | none => !t.activeHas i

def newCountFrom (t : SocketLifecycleTable) :
    List SocketObservationInput → List SocketObservationInput → ℕ
  | _, [] => 0
  | seen, i :: rest => (if t.isNew seen i then 1 else 0) + t.newCountFrom (seen ++ [i]) rest

def newCount (t : SocketLifecycleTable) (inputs : List SocketObservationInput) : ℕ :=
  t.newCountFrom [] inputs

theorem newCount_append_single (t : SocketLifecycleTable) (seen : List SocketObservationInput)
    (i : SocketObservationInput) :
    t.newCount (seen ++ [i]) = t.newCount seen + if t.isNew seen i then 1 else 0 := by
  have hfrom : ∀ rest before, t.newCountFrom before (rest ++ [i]) =
      t.newCountFrom before rest + if t.isNew (before ++ rest) i then 1 else 0 := by
    intro rest
    induction rest with
    | nil => simp [newCountFrom]
    | cons _ _ ih =>
      intro before
      rw [cons_append, newCountFrom, newCountFrom, ih, append_assoc, singleton_append]
      omega
  exact hfrom seen []

variable {inputs : List SocketObservationInput} {x : SocketTuple}

section Inputs
variable {seen : List SocketObservationInput} {i : SocketObservationInput} {e : Evidence}
theorem mem_denoted :
    e ∈ denoted inputs ↔ ∃ i ∈ inputs, validInput i ∧ inputEvidence i = e := by
  simp [denoted, and_assoc]

theorem lastTuple_append_single :
    lastTuple (seen ++ [i]) e =
      if validInput i ∧ inputEvidence i = e then some i.tuple else lastTuple seen e := by
  simp [lastTuple]

theorem exists_of_lastTuple (h : lastTuple seen e = some x) :
    ∃ i ∈ seen, validInput i ∧ inputEvidence i = e ∧ i.tuple = x := by
  induction seen using List.reverseRecOn with
  | nil => simp [lastTuple] at h
  | append_singleton _ a ih =>
    rw [lastTuple_append_single] at h
    split_ifs at h with ha
    · exact ⟨a, by simp, ha.1, ha.2, Option.some.inj h⟩
    · obtain ⟨i, hi, hrest⟩ := ih h
      exact ⟨i, mem_append_left _ hi, hrest⟩

theorem lastTuple_isSome : (lastTuple seen e).isSome ↔ e ∈ denoted seen := by
  induction seen using List.reverseRecOn with
  | nil => simp [lastTuple, denoted]
  | append_singleton _ a ih =>
    rw [lastTuple_append_single, mem_denoted]
    rw [mem_denoted] at ih
    by_cases ha : validInput a ∧ inputEvidence a = e
    · simp [ha]
    · simp only [ha, ↓reduceIte, ih, mem_append, mem_singleton]
      refine ⟨fun h => ?_, fun h => ?_⟩
      · obtain ⟨i, hi, hrest⟩ := h
        exact ⟨i, .inl hi, hrest⟩
      · obtain ⟨i, hi | rfl, hrest⟩ := h
        · exact ⟨i, hi, hrest⟩
        · exact absurd hrest ha

theorem activeHas_iff {t : SocketLifecycleTable} :
    t.activeHas i ↔
      ∃ id, HasTuple t.active id i.tuple ∧ evidenceOf id i.tuple = inputEvidence i := by
  simp only [activeHas, any_eq_true, Bool.and_eq_true, beq_iff_eq, Prod.exists, mem_entries,
    HasTuple]
  refine ⟨fun h => ?_, fun h => ?_⟩
  · obtain ⟨id, o, ho, htuple, he⟩ := h
    exact ⟨id, ⟨o, ho, htuple⟩, htuple ▸ he⟩
  · obtain ⟨id, ⟨o, ho, htuple⟩, he⟩ := h
    exact ⟨id, o, ho, htuple, htuple.symm ▸ he⟩
end Inputs

def OneKind (inputs : List SocketObservationInput) : Prop :=
  ∀ i ∈ inputs, ∀ j ∈ inputs, validInput i = true → validInput j = true → i.tuple = j.tuple →
    i.cookie.isSome = j.cookie.isSome

variable {id : SocketId}
theorem isSome_of_evidence {j : SocketObservationInput}
    (h : inputEvidence j = evidenceOf id x) : id.cookie.isSome = j.cookie.isSome := by
  rw [cookie_of_evidence h.symm]

variable {s : SocketLifecycleTable}
theorem pending_size_of_view (h : Consistent s) (sockets : Finset Evidence)
    (hview : ∀ e, (∃ id x, HasTuple s.pending id x ∧ evidenceOf id x = e) ↔ e ∈ sockets) :
    s.pending.size = sockets.card := by
  have hsockets : sockets =
      (s.pending.entries.map (fun e => evidenceOf e.1 e.2.tuple)).toFinset := by
    ext e
    rw [← hview e]
    simp only [mem_toFinset, mem_map, Prod.exists, mem_entries, HasTuple]
    refine ⟨fun he => ?_, fun he => ?_⟩
    · obtain ⟨id, x, ⟨o, ho, rfl⟩, he⟩ := he
      exact ⟨id, o, ho, he⟩
    · obtain ⟨id, o, ho, he⟩ := he
      exact ⟨id, o.tuple, ⟨o, ho, rfl⟩, he⟩
  have hnodup : (s.pending.entries.map (fun e => evidenceOf e.1 e.2.tuple)).Nodup := by
    rw [Nodup, pairwise_map]
    refine s.pending.sorted.imp_of_mem fun {a b} ha hb hlt he => ?_
    have hsame := indexes_distinct h.pendingCookie h.pendingWeak
      ⟨a.2, mem_entries.mp ha, rfl⟩ ⟨b.2, mem_entries.mp hb, rfl⟩ he
    exact absurd hsame hlt.ne
  rw [hsockets, toFinset_card_of_nodup hnodup, length_map, OrderedMap.size]

structure Collected (t s : SocketLifecycleTable) (seen : List SocketObservationInput) : Prop where
  collecting : Collecting s
  active : s.active = t.active
  config : s.config = t.config
  generation : s.nextGeneration = t.nextGeneration + t.newCount seen
  view : ∀ e x, (∃ id, HasTuple s.pending id x ∧ evidenceOf id x = e) ↔
    lastTuple seen e = some x
  superseded : ∀ id ∈ s.pendingSuperseded, ∀ x, HasTuple s.active id x →
    evidenceOf id x ∈ denoted seen ∨
      ∃ j ∈ seen, validInput j = true ∧ j.tuple = x ∧ id.cookie.isSome ≠ j.cookie.isSome

section Collected
variable {t : SocketLifecycleTable} {seen : List SocketObservationInput}
    {i : SocketObservationInput}
section
variable (h : Collected t s seen)
include h
theorem Collected.resolved_iff (hkind : OneKind (seen ++ [i])) (hvalid : validInput i) :
    (∃ id, (s.resolve i).resolved = some id) ↔ t.isNew seen i = false := by
  have hcons := h.collecting.consistent
  refine ⟨fun hres => ?_, fun hnew => ?_⟩
  · obtain ⟨id, hid⟩ := hres
    obtain ⟨-, hlive, hevidence⟩ := resolve_some hcons hid
    cases hlast : lastTuple seen (inputEvidence i) with
    | some y =>
      obtain ⟨p, hp, he⟩ := (h.view _ y).mpr hlast
      have hsame := Live.distinct hcons (.inl hp) hlive (he.trans hevidence.symm)
      subst hsame
      simp [isNew, hlast, Live.tuple_unique hcons (.inl hp) hlive]
    | none =>
      rcases hlive with hp | ⟨-, ha⟩
      · have hsome := (h.view _ _).mp ⟨id, hp, hevidence⟩
        simp [hlast] at hsome
      · have hactive : t.activeHas i := activeHas_iff.mpr ⟨id, h.active ▸ ha, hevidence⟩
        simp [isNew, hlast, hactive]
  · cases hlast : lastTuple seen (inputEvidence i) with
    | some y =>
      have htuple : y = i.tuple := by simpa [isNew, hvalid, hlast] using hnew
      obtain ⟨p, hp, he⟩ := (h.view _ y).mpr hlast
      exact ⟨p, resolved_of_live hcons (.inl (htuple ▸ hp)) (htuple ▸ he)⟩
    | none =>
      have hactive : t.activeHas i := by simpa [isNew, hvalid, hlast] using hnew
      obtain ⟨id, ha, he⟩ := activeHas_iff.mp hactive
      have hx : HasTuple s.active id i.tuple := h.active.symm ▸ ha
      refine ⟨id, resolved_of_live hcons (.inr ⟨fun hs => ?_, hx⟩) he⟩
      rcases h.superseded id hs _ hx with hd | ⟨j, hj, hjvalid, htuple, hne⟩
      · rw [he, ← lastTuple_isSome, hlast] at hd
        simp at hd
      · apply hne
        rw [isSome_of_evidence he.symm]
        exact hkind i (by simp) j (mem_append_left _ hj) hvalid hjvalid htuple.symm

theorem Collected.resolve_view (hkind : OneKind (seen ++ [i])) (hvalid : validInput i)
    (hnone : (s.resolve i).resolved = none) (e : Evidence) (x : SocketTuple) :
    (∃ id, HasTuple (s.resolve i).table.pending id x ∧ evidenceOf id x = e) ↔
      e ≠ inputEvidence i ∧ lastTuple seen e = some x := by
  have hcons := h.collecting.consistent
  refine ⟨fun hex => ?_, fun hex => ?_⟩
  · obtain ⟨id, hx, he⟩ := hex
    have hold : ∀ id x, HasTuple (s.resolve i).table.pending id x → HasTuple s.pending id x := by
      refine resolve_induction (P := fun r => ∀ id x, HasTuple r.pending id x →
        HasTuple s.pending id x) i hcons (fun _ _ hp => hp) ?_
      intro r k _ _ hr id x hp
      rw [supersede_pending, hasTuple_erase] at hp
      exact hr id x hp.2
    refine ⟨fun hne => ?_, (h.view e x).mp ⟨id, hold id x hx, he⟩⟩
    exact (resolve_none hcons hnone).1 ⟨id, x, .inl hx, he.trans hne⟩
  · obtain ⟨hne, hlast⟩ := hex
    obtain ⟨id, hx, he⟩ := (h.view e x).mpr hlast
    obtain ⟨j, hj, hjvalid, hjev, hjtuple⟩ := exists_of_lastTuple hlast
    refine ⟨id, (resolve_keeps hcons (.inl hx) ?_).2 hx, he⟩
    intro r hr hlive hcontra
    obtain ⟨y, hy, hcase⟩ := hcontra
    obtain rfl := Live.tuple_unique hr hy hlive
    rcases hcase with ⟨-, hsame, -⟩ | ⟨htuple, hsome⟩
    · exact hne (he.symm.trans hsame)
    · apply hsome
      rw [isSome_of_evidence (hjev.trans he.symm)]
      exact hkind j (mem_append_left _ hj) i (by simp) hjvalid hvalid (hjtuple.trans htuple)

theorem Collected.resolve_superseded (hvalid : validInput i) :
    ∀ id ∈ (s.resolve i).table.pendingSuperseded, ∀ x, HasTuple s.active id x →
      evidenceOf id x ∈ denoted (seen ++ [i]) ∨
        ∃ j ∈ seen ++ [i], validInput j ∧ j.tuple = x ∧
          id.cookie.isSome ≠ j.cookie.isSome := by
  have hall := resolve_induction (P := fun r => r.active = s.active ∧
    ∀ id ∈ r.pendingSuperseded, ∀ x, HasTuple s.active id x →
      evidenceOf id x ∈ denoted (seen ++ [i]) ∨
        ∃ j ∈ seen ++ [i], validInput j ∧ j.tuple = x ∧
          id.cookie.isSome ≠ j.cookie.isSome) i h.collecting.consistent ⟨rfl, ?_⟩ ?_
  · exact hall.2
  · intro id hid x hx
    rcases h.superseded id hid x hx with hd | ⟨j, hj, hrest⟩
    · obtain ⟨j, hj, hrest⟩ := mem_denoted.mp hd
      exact .inl (mem_denoted.mpr ⟨j, mem_append_left _ hj, hrest⟩)
    · exact .inr ⟨j, mem_append_left _ hj, hrest⟩
  · intro r k hr hcontra hrest
    refine ⟨(supersede_active r k).trans hrest.1, fun id hid x hx => ?_⟩
    by_cases hk : id = k
    · subst hk
      obtain ⟨y, hy, hcase⟩ := hcontra
      have hactive : Live r id x := .inr ⟨Live.not_superseded hr hy, hrest.1.symm ▸ hx⟩
      obtain rfl := Live.tuple_unique hr hy hactive
      rcases hcase with ⟨-, hsame, -⟩ | ⟨htuple, hne⟩
      · exact .inl (mem_denoted.mpr ⟨i, by simp, hvalid, hsame.symm⟩)
      · exact .inr ⟨i, by simp, hvalid, htuple.symm, hne⟩
    · refine hrest.2 id ?_ x hx
      rw [supersede_superseded] at hid
      split_ifs at hid with hc
      · exact Finset.mem_of_mem_insert_of_ne hid hk
      · exact hid

theorem Collected.invalid (hvalid : validInput i = false) :
    Collected t (s.observe i).1 (seen ++ [i]) := by
  have hadmits := (h.collecting.admits_eq i).trans hvalid
  have hsame : (s.observe i).1 = s := by rw [observe, if_neg (by simp [hadmits])]
  rw [hsame]
  refine
    { collecting := h.collecting, active := h.active, config := h.config
      generation := ?_, view := fun e x => ?_, superseded := fun id hid x hx => ?_ }
  · rw [newCount_append_single, h.generation]
    simp [isNew, hvalid]
  · rw [h.view, lastTuple_append_single, if_neg (by simp [hvalid])]
  · rcases h.superseded id hid x hx with hd | ⟨j, hj, hrest⟩
    · obtain ⟨j, hj, hrest⟩ := mem_denoted.mp hd
      exact .inl (mem_denoted.mpr ⟨j, mem_append_left _ hj, hrest⟩)
    · exact .inr ⟨j, mem_append_left _ hj, hrest⟩
end

theorem view_record {r : SocketLifecycleTable} {k : SocketId} (hr : Recordable r k i)
    (hvalid : validInput i)
    (hview : ∀ e x, e ≠ inputEvidence i →
      ((∃ id, HasTuple r.pending id x ∧ evidenceOf id x = e) ↔ lastTuple seen e = some x))
    (e : Evidence) (x : SocketTuple) :
    (∃ id, HasTuple (r.record k i).pending id x ∧ evidenceOf id x = e) ↔
      lastTuple (seen ++ [i]) e = some x := by
  rw [lastTuple_append_single]
  by_cases he : inputEvidence i = e
  · subst he
    simp only [hvalid, and_self, ↓reduceIte, Option.some.injEq]
    refine ⟨fun hex => ?_, fun htuple => ?_⟩
    · obtain ⟨id, hx, hid⟩ := hex
      rcases hasTuple_record.mp hx with ⟨-, htuple⟩ | ⟨hne, hold⟩
      · exact htuple
      · exact absurd (hr.alone id x (.inl hold) hid) hne
    · subst htuple
      exact ⟨k, hasTuple_record.mpr (.inl ⟨rfl, rfl⟩), hr.evidence⟩
  · rw [if_neg (fun hand => he hand.2), ← hview e x (Ne.symm he)]
    refine exists_congr fun id => ⟨fun hex => ?_, fun hex => ?_⟩
    · obtain ⟨hx, hid⟩ := hex
      rcases hasTuple_record.mp hx with ⟨rfl, rfl⟩ | ⟨-, hold⟩
      · exact absurd (hr.evidence.symm.trans hid) he
      · exact ⟨hold, hid⟩
    · obtain ⟨hx, hid⟩ := hex
      refine ⟨hasTuple_record.mpr (.inr ⟨fun hk => ?_, hx⟩), hid⟩
      subst hk
      have htuple := hr.pendingTuple x hx
      subst htuple
      exact he (hr.evidence.symm.trans hid)

/-- There is room for one more identity next to the whole active table and the other
sockets seen, and the counter has not run out. -/
def RoomFor (t : SocketLifecycleTable) (seen : List SocketObservationInput)
    (i : SocketObservationInput) : Prop :=
  t.active.size + ((denoted seen).erase (inputEvidence i)).card < t.config.maxActiveEntries ∧
    t.nextGeneration + t.newCount seen ≠ maxGeneration

section
variable (h : Collected t s seen)
include h
theorem Collected.full_iff (hkind : OneKind (seen ++ [i])) (hvalid : validInput i)
    (hnone : (s.resolve i).resolved = none) :
    (s.resolve i).table.full = false ↔
      t.active.size + ((denoted seen).erase (inputEvidence i)).card <
        t.config.maxActiveEntries := by
  have hcons := h.collecting.consistent
  have hsize : (s.resolve i).table.pending.size =
      ((denoted seen).erase (inputEvidence i)).card := by
    refine pending_size_of_view (hcons.resolve i) _ fun e => ?_
    rw [Finset.mem_erase, ← lastTuple_isSome, Option.isSome_iff_exists, ← exists_and_left,
      exists_comm]
    exact exists_congr fun x => h.resolve_view hkind hvalid hnone e x
  obtain ⟨hconfig, -, -, -, hactive, -⟩ := resolve_frame hcons i
  simp [full, hsize, hconfig, hactive, h.config, h.active]

theorem Collected.recordResolved (hvalid : validInput i) (hr : Recordable s id i)
    (hlive : Live s id i.tuple) (hnew : t.isNew seen i = false)
    (hcollect : Collecting (s.record id i)) :
    Collected t (s.record id i) (seen ++ [i]) := by
  have hcons := h.collecting.consistent
  have htable := (resolve_some hcons (resolved_of_live hcons hlive hr.evidence)).1
  refine
    { collecting := hcollect, active := h.active, config := h.config
      generation := ?_, view := view_record hr hvalid fun e x _ => h.view e x
      superseded := fun k hk => h.resolve_superseded hvalid k (htable.symm ▸ hk) }
  rw [newCount_append_single, hnew]
  exact h.generation

theorem Collected.recordCreated (hkind : OneKind (seen ++ [i])) (hvalid : validInput i)
    (hnone : (s.resolve i).resolved = none)
    (hr : Recordable (s.resolve i).table.advance ((s.resolve i).table.newIdentity i) i)
    (hnew : t.isNew seen i)
    (hcollect : Collecting ((s.resolve i).table.advance.record ((s.resolve i).table.newIdentity i)
      i)) :
    Collected t ((s.resolve i).table.advance.record ((s.resolve i).table.newIdentity i) i)
      (seen ++ [i]) := by
  obtain ⟨hconfig, -, -, hgen, hactive, -⟩ := resolve_frame h.collecting.consistent i
  refine
    { collecting := hcollect, active := hactive.trans h.active, config := hconfig.trans h.config
      generation := ?_, view := view_record hr hvalid fun e x he => ?_
      superseded := fun k hk x hx => ?_ }
  · change (s.resolve i).table.nextGeneration + 1 = _
    rw [newCount_append_single, hnew, hgen, h.generation, if_pos rfl]
    omega
  · have hview := h.resolve_view hkind hvalid hnone e x
    refine ⟨fun hex => (hview.mp hex).2, fun hex => hview.mpr ⟨he, hex⟩⟩
  · have hold : HasTuple s.active k x := hactive ▸ hx
    exact h.resolve_superseded hvalid k hk x hold

theorem Collected.observe (hkind : OneKind (seen ++ [i])) :
    ((validInput i → ∃ r, (s.observe i).2 = .accepted r) ↔
      (t.isNew seen i → t.RoomFor seen i)) ∧
    ((validInput i → ∃ r, (s.observe i).2 = .accepted r) →
      Collected t (s.observe i).1 (seen ++ [i])) := by
  have hcons := h.collecting.consistent
  cases hvalid : validInput i with
  | false =>
    have hnew : t.isNew seen i = false := by simp [isNew, hvalid]
    simp only [Bool.false_eq_true, false_imp_iff, hnew, true_imp_iff, true_and]
    exact h.invalid hvalid
  | true =>
    have hcollect := h.collecting.observe i
    have hunresolved : (s.resolve i).resolved = none → t.isNew seen i := by
      intro hnone
      by_contra hnew
      obtain ⟨id, hid⟩ := (h.resolved_iff hkind hvalid).mpr (Bool.eq_false_iff.mpr hnew)
      simp [hnone] at hid
    simp only [true_imp_iff]
    rcases observe_cases hcons i with ⟨ha, -⟩ | ⟨-, id, hr, hlive, heq⟩ |
      ⟨-, hnone, hfull, heq⟩ | ⟨-, hnone, -, hgen, heq⟩ | ⟨-, hnone, hfull, hgen, hr, heq⟩
    · rw [h.collecting.admits_eq, hvalid] at ha
      simp at ha
    · have hnew := (h.resolved_iff hkind hvalid).mp ⟨id, resolved_of_live hcons hlive hr.evidence⟩
      rw [heq] at hcollect ⊢
      refine ⟨⟨fun _ hn => ?_, fun _ => ⟨_, rfl⟩⟩, fun _ =>
        h.recordResolved hvalid hr hlive hnew hcollect⟩
      simp [hnew] at hn
    · have hroom : ¬ t.RoomFor seen i := by
        intro hroom
        have hnot := (h.full_iff hkind hvalid hnone).mpr hroom.1
        simp [hfull] at hnot
      simp [heq, hunresolved hnone, hroom]
    · have hroom : ¬ t.RoomFor seen i := by
        intro hroom
        rw [(resolve_frame hcons i).2.2.2.1, h.generation] at hgen
        exact hroom.2 hgen
      simp [heq, hunresolved hnone, hroom]
    · have hroom : t.RoomFor seen i := by
        refine ⟨(h.full_iff hkind hvalid hnone).mp hfull, ?_⟩
        rwa [(resolve_frame hcons i).2.2.2.1, h.generation] at hgen
      rw [heq] at hcollect ⊢
      exact ⟨⟨fun _ _ => hroom, fun _ => ⟨_, rfl⟩⟩, fun _ =>
        h.recordCreated hkind hvalid hnone hr (hunresolved hnone) hcollect⟩
end
end Collected

theorem collected_opened {t : SocketLifecycleTable} (h : Sound t) : Collected t t.opened [] := by
  refine
    { collecting := collecting_opened h, active := rfl, config := rfl, generation := rfl
      view := fun e x => ?_, superseded := fun id hid => absurd hid (Finset.notMem_empty id) }
  refine ⟨fun hex => ?_, fun hlast => by simp [lastTuple] at hlast⟩
  obtain ⟨id, hx, -⟩ := hex
  exact absurd hx not_hasTuple_empty

theorem observeAll_in_step {t : SocketLifecycleTable} (h : Sound t) (hkind : OneKind inputs) :
    (AllSteps (fun s i => (s.observe i).1)
        (fun s i => validInput i → ∃ r, (s.observe i).2 = .accepted r) t.opened inputs ↔
      AllSteps (fun seen i => seen ++ [i]) (fun seen i => t.isNew seen i → t.RoomFor seen i)
        [] inputs) ∧
    (AllSteps (fun s i => (s.observe i).1)
        (fun s i => validInput i → ∃ r, (s.observe i).2 = .accepted r) t.opened inputs →
      Collected t (t.opened.observeAll inputs) inputs) := by
  have hstep : ∀ s seen i, i ∈ inputs → (Collected t s seen ∧ seen ⊆ inputs) →
      ((validInput i → ∃ r, (s.observe i).2 = .accepted r) ↔
        (t.isNew seen i → t.RoomFor seen i)) ∧
      ((validInput i → ∃ r, (s.observe i).2 = .accepted r) →
        Collected t (s.observe i).1 (seen ++ [i]) ∧ seen ++ [i] ⊆ inputs) := by
    intro s seen i hi hrel
    have hsub : seen ++ [i] ⊆ inputs := append_subset.mpr ⟨hrel.2, cons_subset.mpr ⟨hi, nil_subset _⟩⟩
    have hone := hrel.1.observe (i := i) fun a ha b hb => hkind a (hsub ha) b (hsub hb)
    exact ⟨hone.1, fun hguard => ⟨hone.2 hguard, hsub⟩⟩
  have hsim := allSteps_simulation hstep ⟨collected_opened h, nil_subset _⟩
  refine ⟨hsim.1, fun hall => ?_⟩
  have hend := (hsim.2 hall).1
  rw [run_append_single, nil_append] at hend
  exact hend

/-- A snapshot succeeds, and its commit makes exactly the denoted sockets active with the
tuples reported last, exactly when every input that needs a new identity finds room next
to the whole previous table. -/
theorem snapshot_succeeds_iff (config : SocketLifecycleConfig) (ops : List Op)
    (inputs : List SocketObservationInput)
    (hidle : (after config ops).snapshotInProgress = false) (hkind : OneKind inputs) :
    ((∀ pre i post, inputs = pre ++ i :: post → validInput i = true →
        ∃ r, ((after config (ops ++ .beginSnapshot .authoritative :: pre.map .observe)).observe
          i).2 = .accepted r) ∧
      ∀ e x, (∃ id, HasTuple (after config (ops ++ snapshotOps inputs)).active id x ∧
        evidenceOf id x = e) ↔ lastTuple inputs e = some x) ↔
    ∀ pre i post, inputs = pre ++ i :: post → (after config ops).isNew pre i = true →
      (after config ops).active.size + ((denoted pre).erase (inputEvidence i)).card <
          config.maxActiveEntries ∧
        (after config ops).nextGeneration + (after config ops).newCount pre ≠ maxGeneration := by
  obtain ⟨hsound, hconfig⟩ := sound_after config ops
  obtain ⟨hiff, hcollected⟩ := observeAll_in_step hsound hkind
  have hbefore : ∀ pre, after config (ops ++ .beginSnapshot .authoritative :: pre.map .observe) =
      (after config ops).opened.observeAll pre := fun pre => by
    rw [after_append, run_begin_observe hidle]
  have hafter : (after config (ops ++ snapshotOps inputs)).active =
      ((after config ops).opened.observeAll inputs).pending := by
    rw [after_append, run_snapshotOps hsound hidle]
  have hroom : AllSteps (fun seen i => seen ++ [i])
      (fun seen i => (after config ops).isNew seen i → (after config ops).RoomFor seen i)
      [] inputs ↔ ∀ pre i post, inputs = pre ++ i :: post →
        (after config ops).isNew pre i → (after config ops).RoomFor pre i := by
    simp [allSteps_iff, run_append_single]
  simp only [hbefore, hafter]
  rw [allSteps_iff, hroom] at hiff
  simp only [RoomFor, hconfig] at hiff
  refine ⟨fun hsuccess => hiff.mp hsuccess.1, fun hall => ⟨hiff.mpr hall, ?_⟩⟩
  exact (hcollected (allSteps_iff.mpr (hiff.mpr hall))).view

theorem snapshot_succeeds_sample :
    ∃ id, HasTuple (after (sampleConfig 2)
        (snapshotOps [sampleInput (some 1) 80] ++
          snapshotOps [sampleInput (some 1) 80, sampleInput (some 2) 81])).active id
        (sampleTuple 81) ∧
      evidenceOf id (sampleTuple 81) = .cookie ⟨⟨4, 1⟩, 2⟩ := by
  have hkind : OneKind [sampleInput (some 1) 80, sampleInput (some 2) 81] := by
    rw [OneKind]
    decide
  refine (((snapshot_succeeds_iff (sampleConfig 2) _ _ (by decide) hkind).mpr ?_).2
    (.cookie ⟨⟨4, 1⟩, 2⟩) (sampleTuple 81)).mpr (by decide)
  intro pre i post hsplit
  have hall : AllSteps (fun seen i => seen ++ [i])
      (fun seen i => (after (sampleConfig 2)
          (snapshotOps [sampleInput (some 1) 80])).isNew seen i →
        (after (sampleConfig 2) (snapshotOps [sampleInput (some 1) 80])).active.size +
            ((denoted seen).erase (inputEvidence i)).card < 3 ∧
          (after (sampleConfig 2)
              (snapshotOps [sampleInput (some 1) 80])).nextGeneration +
            (after (sampleConfig 2)
              (snapshotOps [sampleInput (some 1) 80])).newCount seen ≠ maxGeneration)
      [] [sampleInput (some 1) 80, sampleInput (some 2) 81] := by
    decide
  have hhere := allSteps_iff.mp hall pre i post hsplit
  rw [run_append_single, nil_append] at hhere
  exact hhere

/-- A tuple reported with and without a cookie stays under what was reported last. -/
example : (after (sampleConfig 0) (snapshotOps
    [sampleInput none 80, sampleInput (some 1) 80])).active.entries.map (fun e => e.1.cookie) =
      [some 1] := by
  decide

/-- A table for one socket that holds one refuses the snapshot that replaces it, although
the snapshot denotes one socket, and refuses it again after the abort. -/
theorem full_table_refuses_replacement :
    (denoted [sampleInput (some 2) 81]).card ≤ (sampleConfig 0).maxActiveEntries ∧
    OneKind [sampleInput (some 2) 81] ∧
    ((after (sampleConfig 0) (snapshotOps [sampleInput (some 1) 80] ++
      [.beginSnapshot .authoritative])).observe (sampleInput (some 2) 81)).2 = .refused ∧
    ((after (sampleConfig 0) (snapshotOps [sampleInput (some 1) 80] ++
      [.beginSnapshot .authoritative, .observe (sampleInput (some 2) 81), .abortSnapshot,
        .beginSnapshot .authoritative])).observe (sampleInput (some 2) 81)).2 = .refused := by
  refine ⟨by decide, ?_, by decide, by decide⟩
  rw [OneKind]
  decide
end WeakNet.SocketLifecycleTable
