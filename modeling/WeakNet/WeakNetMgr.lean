import WeakNet.NetworkQuality
import WeakNet.NetlinkTopology
import WeakNet.Foundation.Runs

/-! `WeakNetMgr` keeps one list of interfaces behind a lock. Three updaters copy it, measure on the
copy and merge their own fields back; two others change it under the lock. The interface monitor
replaces the list, and with it everything that was measured. What an updater asks outside is data of
its step. -/

namespace WeakNet.WeakNetMgr
open Foundation.Runs List Function

inductive NetType where
  | unknown | ethernet | wifi | cellular
deriving DecidableEq

inductive NetState where
  | down | up
deriving DecidableEq

/-- The fields of the source's `NetInfo` that its assessment does not read are added. -/
structure Interface extends NetInfo where
  type : NetType := .unknown
  prevRttMs : ℤ := -1
  state : NetState := .down
  tcpLossLevel : ByteString := []

def namesOf (list : List Interface) : List ByteString := list.map (·.ifName)

inductive Updater where
  | rtt | wifiRssi | tcpLoss | traffic | currentUsing
deriving DecidableEq

def Updater.take : Updater → Interface → Interface → Interface
  | .rtt, x, y =>
    { x with prevRttMs := y.prevRttMs, rttMs := y.rttMs, quality := y.quality, state := y.state }
  | .wifiRssi, x, y => { x with rssiDbm := y.rssiDbm }
  | .tcpLoss, x, y => { x with tcpLossRate := y.tcpLossRate, tcpLossLevel := y.tcpLossLevel }
  | .traffic, x, y =>
    { x with
      trafficTotalBps := y.trafficTotalBps
      trafficTotalPps := y.trafficTotalPps
      trafficActiveFlows := y.trafficActiveFlows }
  | .currentUsing, x, y => { x with usingNow := y.usingNow }

/-- The name, the type and the fields of the updater, all others as in a new interface. -/
def Updater.own (u : Updater) (x : Interface) : Interface :=
  u.take { ifName := x.ifName, type := x.type } x

def classifyQualityFromRtt (rttMs : ℤ) : LinkQuality :=
  if rttMs < 0 then .bad
  else if rttMs ≤ 50 then .good
  else if rttMs ≤ 100 then .fair
  else if rttMs ≤ 200 then .poor
  else .bad

def updateRttAndState (ping : ByteString → ℤ) (list : List Interface) : List Interface :=
  list.map fun x =>
    let r := ping x.ifName
    { x with
      prevRttMs := x.rttMs
      rttMs := r
      quality := classifyQualityFromRtt r
      state := if 0 ≤ r then .up else .down }

/-- `rssi` has no value for an interface to whose control socket there is no connection. -/
def updateWifiRssi (rssi : ByteString → Option ℤ) (list : List Interface) : List Interface :=
  list.map fun x =>
    if x.type = .wifi then { x with rssiDbm := (rssi x.ifName).getD x.rssiDbm } else x

structure TrafficStats where
  totalBps : ℕ
  totalPps : ℕ
  activeFlows : ℕ

def updateTrafficAnalysis (stats : TrafficStats) : List Interface → List Interface
  | [] => []
  | x :: list =>
    if x.usingNow then
      { x with
        trafficTotalBps := stats.totalBps
        trafficTotalPps := stats.totalPps
        trafficActiveFlows := stats.activeFlows } :: list
    else x :: updateTrafficAnalysis stats list

def updateTcpLossRate (name : ByteString) (rate : Double) (level : ByteString) :
    List Interface → List Interface
  | [] => []
  | x :: list =>
    if x.ifName = name then { x with tcpLossRate := rate, tcpLossLevel := level } :: list
    else x :: updateTcpLossRate name rate level list

def updateCurrentUsing (selected : Option ByteString) (list : List Interface) : List Interface :=
  list.map fun x => { x with usingNow := selected == some x.ifName }

inductive Measurement where
  | rtt (ping : ByteString → ℤ)
  | wifiRssi (rssi : ByteString → Option ℤ)
  | traffic (stats : Option TrafficStats)

def Measurement.updater : Measurement → Updater
  | .rtt _ => .rtt
  | .wifiRssi _ => .wifiRssi
  | .traffic _ => .traffic

def Measurement.sample : Measurement → List Interface → List Interface
  | .rtt ping, list => updateRttAndState ping list
  | .wifiRssi rssi, list => updateWifiRssi rssi list
  | .traffic none, list => list
  | .traffic (some stats), list => updateTrafficAnalysis stats list

def mergeBack (u : Updater) (sampled current : List Interface) : List Interface :=
  current.map fun x => (sampled.find? fun y => y.ifName = x.ifName).elim x (u.take x)

/-- The list behind the lock, the copies the updaters work on, and the list that the interface
monitor installed last. -/
structure State where
  interfaces : List Interface
  copies : Updater → Option (List Interface)
  installed : List Interface

def State.of (list : List Interface) : State := ⟨list, fun _ => none, list⟩

inductive Update where
  | copy (u : Updater)
  | finish (m : Measurement)
  | tcpLoss (name : ByteString) (rate : Double) (level : ByteString)
  | currentUsing (selected : Option ByteString)

def update (s : State) : Update → State
  | .copy u => { s with copies := Function.update s.copies u (some s.interfaces) }
  | .finish m =>
    match s.copies m.updater with
    | none => s
    | some copy =>
      { s with
        interfaces := mergeBack m.updater (m.sample copy) s.interfaces
        copies := Function.update s.copies m.updater none }
  | .tcpLoss name rate level =>
    { s with interfaces := updateTcpLossRate name rate level s.interfaces }
  | .currentUsing selected => { s with interfaces := updateCurrentUsing selected s.interfaces }

/-- What a measurement writes on an interface. Traffic belongs to the interface that was in use when
the list was copied. -/
def Measurement.writes (copy : List Interface) : Measurement → Interface → Interface
  | .rtt ping, x =>
    { x with
      prevRttMs := x.rttMs
      rttMs := ping x.ifName
      quality := classifyQualityFromRtt (ping x.ifName)
      state := if 0 ≤ ping x.ifName then .up else .down }
  | .wifiRssi rssi, x =>
    if x.type = .wifi then { x with rssiDbm := (rssi x.ifName).getD x.rssiDbm } else x
  | .traffic none, x => x
  | .traffic (some stats), x =>
    if (copy.find? (·.usingNow)).map (·.ifName) = some x.ifName then
      { x with
        trafficTotalBps := stats.totalBps
        trafficTotalPps := stats.totalPps
        trafficActiveFlows := stats.activeFlows }
    else x

def written (s : State) : Update → Option (Updater × (Interface → Interface))
  | .copy _ => none
  | .finish m => (s.copies m.updater).map fun copy => (m.updater, m.writes copy)
  | .tcpLoss name rate level => some (.tcpLoss, fun x =>
      if x.ifName = name then { x with tcpLossRate := rate, tcpLossLevel := level } else x)
  | .currentUsing selected => some (.currentUsing, fun x =>
      { x with usingNow := selected == some x.ifName })

abbrev Recorded := State × (Updater → List Interface)

def record (p : Recorded) (op : Update) : Recorded :=
  (update p.1 op, (written p.1 op).elim p.2 fun w =>
    Function.update p.2 w.1 ((p.2 w.1).map w.2))

def kind (x : Interface) : ByteString × NetType := (x.ifName, x.type)

section Fields
variable {u v : Updater} {α : Type*} {f : Interface → α} {list list' : List Interface}
theorem own_take {x y : Interface} (h : kind x = kind y) : u.own (u.take x y) = u.own y := by
  obtain ⟨hname, htype⟩ := Prod.mk.inj h
  cases u <;> simp [Updater.own, Updater.take, hname, htype]

theorem own_take_of_ne (h : v ≠ u) (x y : Interface) : v.own (u.take x y) = v.own x := by
  cases u <;> cases v <;> first | rfl | exact absurd rfl h

theorem kind_take (u : Updater) (x y : Interface) : kind (u.take x y) = kind x := by
  cases u <;> rfl

theorem namesOf_eq (list : List Interface) : namesOf list = (list.map kind).map Prod.fst := by
  rw [namesOf, map_map]
  rfl

theorem names_cons {x : Interface} (h : (namesOf (x :: list)).Nodup) :
    (∀ y ∈ list, x.ifName ≠ y.ifName) ∧ (namesOf list).Nodup := by
  obtain ⟨hnew, hnodup⟩ := nodup_cons.mp h
  exact ⟨fun y hy heq => hnew (mem_map.mpr ⟨y, hy, heq.symm⟩), hnodup⟩

theorem map_mergeBack (h : ∀ x y, f (u.take x y) = f x)
    (sampled current : List Interface) : (mergeBack u sampled current).map f = current.map f := by
  rw [mergeBack, map_map]
  apply map_congr_left
  intro x _
  simp only [comp_apply]
  cases sampled.find? fun y => y.ifName = x.ifName with
  | none => rfl
  | some y => exact h x y

theorem own_mergeBack {sampled current : List Interface} (hnodup : (namesOf current).Nodup)
    (hkinds : sampled.map kind = current.map kind) :
    (mergeBack u sampled current).map u.own = sampled.map u.own := by
  induction current generalizing sampled with
  | nil =>
    rw [map_eq_nil_iff.mp hkinds]
    rfl
  | cons x current ih =>
    obtain ⟨y, rest, rfl, hkind, hrest⟩ := map_eq_cons_iff.mp hkinds
    obtain ⟨hnames, hnodup⟩ := names_cons hnodup
    have hname : y.ifName = x.ifName := (Prod.mk.inj hkind).1
    -- the names are distinct, so the others do not find the first entry
    have htail : mergeBack u (y :: rest) current = mergeBack u rest current := by
      apply map_congr_left
      intro z hz
      rw [List.find?_cons_of_neg (by simpa [hname] using hnames z hz)]
    have hhead : mergeBack u (y :: rest) (x :: current) =
        u.take x y :: mergeBack u (y :: rest) current := by
      rw [mergeBack, map_cons, List.find?_cons_of_pos (by simpa using hname)]
      rfl
    rw [hhead, map_cons, map_cons, htail, ih hnodup hrest, own_take hkind.symm]

theorem updateTrafficAnalysis_eq (stats : TrafficStats) (h : (namesOf list).Nodup) :
    updateTrafficAnalysis stats list =
      list.map (Measurement.writes list (.traffic (some stats))) := by
  induction list with
  | nil => rfl
  | cons x list ih =>
    obtain ⟨hnames, hnodup⟩ := names_cons h
    rw [updateTrafficAnalysis, map_cons]
    split
    · rename_i husing
      -- the first interface in use is this one, and the others have other names
      have hrest : list.map (Measurement.writes (x :: list) (.traffic (some stats))) = list := by
        refine (map_congr_left fun y hy => ?_).trans list.map_id
        simp [Measurement.writes, husing, hnames y hy]
      rw [hrest]
      simp [Measurement.writes, husing]
    · rename_i hidle
      have hfind : (x :: list).find? (·.usingNow) = list.find? (·.usingNow) := find?_cons_of_neg hidle
      have hother : (list.find? (·.usingNow)).map (·.ifName) ≠ some x.ifName := by
        intro heq
        obtain ⟨y, hy, hname⟩ := Option.map_eq_some_iff.mp heq
        exact hnames y (mem_of_find?_eq_some hy) hname.symm
      have hsame : Measurement.writes (x :: list) (.traffic (some stats)) =
          Measurement.writes list (.traffic (some stats)) := by
        funext y
        rw [Measurement.writes, Measurement.writes, hfind]
      rw [ih hnodup, hsame, Measurement.writes, if_neg hother]

theorem updateTcpLossRate_eq (name : ByteString) (rate : Double) (level : ByteString)
    (h : (namesOf list).Nodup) :
    updateTcpLossRate name rate level list = list.map fun x =>
      if x.ifName = name then { x with tcpLossRate := rate, tcpLossLevel := level } else x := by
  induction list with
  | nil => rfl
  | cons x list ih =>
    obtain ⟨hnames, hnodup⟩ := names_cons h
    rw [updateTcpLossRate, map_cons]
    split
    · rename_i hname
      refine congrArg (_ :: ·) (((map_congr_left fun y hy => ?_).trans list.map_id).symm)
      exact if_neg fun heq => hnames y hy (hname.trans heq.symm)
    · rw [ih hnodup]

theorem sample_eq (m : Measurement) (h : (namesOf list).Nodup) :
    m.sample list = list.map (m.writes list) := by
  match m with
  | .rtt ping => rfl
  | .wifiRssi rssi => rfl
  | .traffic none => exact list.map_id.symm
  | .traffic (some stats) => exact updateTrafficAnalysis_eq stats h

theorem writes_spec (m : Measurement) (copy : List Interface) (x : Interface) :
    kind (m.writes copy x) = kind x ∧
      m.updater.own (m.writes copy (m.updater.own x)) = m.updater.own (m.writes copy x) := by
  match m with
  | .rtt ping => exact ⟨rfl, rfl⟩
  | .wifiRssi rssi =>
    by_cases htype : x.type = .wifi <;>
      simp [Measurement.writes, Measurement.updater, Updater.own, Updater.take, kind, htype]
  | .traffic none => exact ⟨rfl, rfl⟩
  | .traffic (some stats) =>
    by_cases husing : (copy.find? (·.usingNow)).map (·.ifName) = some x.ifName <;>
      simp [Measurement.writes, Measurement.updater, Updater.own, Updater.take, kind, husing]

theorem map_own_congr {write : Interface → Interface}
    (hwrite : ∀ x, u.own (write (u.own x)) = u.own (write x))
    (h : list.map u.own = list'.map u.own) :
    (list.map write).map u.own = (list'.map write).map u.own := by
  have hown : ∀ l : List Interface,
      (l.map write).map u.own = (l.map u.own).map fun x => u.own (write x) := by
    intro l
    rw [map_map, map_map]
    exact map_congr_left fun x _ => (hwrite x).symm
  rw [hown, hown, h]
end Fields

structure Kept (p : Recorded) : Prop where
  distinct : (namesOf p.1.interfaces).Nodup
  copies : ∀ (m : Measurement) copy, p.1.copies m.updater = some copy →
    copy.map kind = p.1.interfaces.map kind ∧
      copy.map m.updater.own = (p.2 m.updater).map m.updater.own
  last : ∀ u : Updater, p.1.interfaces.map u.own = (p.2 u).map u.own

theorem Kept.write {p : Recorded} (h : Kept p) {u : Updater}
    {list wrote : List Interface} {copies : Updater → Option (List Interface)}
    (hcopies : ∀ (m : Measurement) copy, copies m.updater = some copy →
      m.updater ≠ u ∧ p.1.copies m.updater = some copy)
    (hkinds : list.map kind = p.1.interfaces.map kind) (hown : list.map u.own = wrote.map u.own)
    (hothers : ∀ v : Updater, v ≠ u → list.map v.own = p.1.interfaces.map v.own) :
    Kept (⟨list, copies, p.1.installed⟩, Function.update p.2 u wrote) where
  distinct := by
    rw [namesOf_eq, hkinds, ← namesOf_eq]
    exact h.distinct
  copies := fun m copy hcopy => by
    obtain ⟨hne, hold⟩ := hcopies m copy hcopy
    obtain ⟨hkind, hcopied⟩ := h.copies m copy hold
    refine ⟨hkind.trans hkinds.symm, ?_⟩
    dsimp only
    rwa [update_of_ne hne]
  last := fun v => by
    dsimp only
    by_cases hv : v = u
    · subst hv
      rw [Function.update_self, hown]
    · rw [update_of_ne hv, hothers v hv, h.last]

theorem Kept.step {p : Recorded} (h : Kept p) (op : Update) : Kept (record p op) := by
  cases op with
  | copy u =>
    refine ⟨h.distinct, fun m copy hcopy => ?_, h.last⟩
    change Function.update p.1.copies u (some p.1.interfaces) m.updater = some copy at hcopy
    by_cases hu : m.updater = u
    · rw [hu, Function.update_self] at hcopy
      cases hcopy
      exact ⟨rfl, h.last _⟩
    · rw [update_of_ne hu] at hcopy
      exact h.copies m copy hcopy
  | finish m =>
    rw [record, update, written]
    cases hcopy : p.1.copies m.updater with
    | none => exact h
    | some copy =>
      obtain ⟨hkinds, hcopied⟩ := h.copies m copy hcopy
      have hnodup : (namesOf copy).Nodup := by
        rw [namesOf_eq, hkinds, ← namesOf_eq]
        exact h.distinct
      have hsampled : (m.sample copy).map kind = p.1.interfaces.map kind := by
        rw [sample_eq m hnodup, map_map, ← hkinds]
        exact map_congr_left fun x _ => (writes_spec m copy x).1
      refine h.write (fun m' copy' hcopy' => ?_) (map_mergeBack (kind_take _) _ _) ?_
        fun v hv => map_mergeBack (own_take_of_ne hv) _ _
      · by_cases hsame : m'.updater = m.updater
        · rw [hsame, update_self] at hcopy'
          cases hcopy'
        · rw [update_of_ne hsame] at hcopy'
          exact ⟨hsame, hcopy'⟩
      · rw [own_mergeBack h.distinct hsampled, sample_eq m hnodup]
        exact map_own_congr (fun x => (writes_spec m copy x).2) hcopied
  | tcpLoss name rate level =>
    rw [record, update, updateTcpLossRate_eq name rate level h.distinct]
    refine h.write (fun m _ hcopy => ⟨by cases m <;> nofun, hcopy⟩) ?_
      (map_own_congr (fun x => ?_) (h.last .tcpLoss)) fun v hv => ?_
    · rw [map_map]
      exact map_congr_left fun x _ => by dsimp; split <;> rfl
    · change Updater.own _ (if x.ifName = name then _ else _) = _
      split <;> rfl
    · rw [map_map]
      refine map_congr_left fun x _ => ?_
      dsimp
      split
      · exact own_take_of_ne hv x { x with tcpLossRate := rate, tcpLossLevel := level }
      · rfl
  | currentUsing selected =>
    refine h.write (fun m _ hcopy => ⟨by cases m <;> nofun, hcopy⟩) map_map
      (map_own_congr (fun x => rfl) (h.last .currentUsing)) fun v hv => ?_
    rw [updateCurrentUsing, map_map]
    exact map_congr_left fun x _ => own_take_of_ne hv x { x with usingNow := _ }

def eth0 : ByteString := [101, 116, 104, 48]
def wlan0 : ByteString := [119, 108, 97, 110, 48]

/-- The topology of the collector, or the names from the interface managers. -/
inductive Source where
  | topology (snapshot : TopologySnapshot) (selected : UplinkSelection)
  | managers (names : List ByteString) (current : Option ByteString)

def eligible (topology : TopologySnapshot) : List ℕ :=
  ((topology.routes.filter fun route => route.present && route.isDefault &&
      (route.table == rtTableMain || route.table == rtTableDefault)).flatMap fun route =>
    route.outputIfindex.toList ++ route.multipath.map (·.ifindex)).mergeSort.dedup

def collectCurrentInterfaces : Source → List Interface
  | .topology snapshot selected => (eligible snapshot).filterMap fun ifindex =>
      ((snapshot.links.find? ifindex).filter LinkFact.usable).map fun link =>
        { ifName := link.interface.observedName
          state := if link.up then .up else .down
          usingNow := selected.interface.any (·.ifindex == ifindex) }
  | .managers names current => names.map fun name =>
      { ifName := name, state := .up, usingNow := current == some name }

def diffInterfaces (old new : List ByteString) : List ByteString × List ByteString :=
  (new.filter (· ∉ old), old.filter (· ∉ new))

def Installs (s : State) (source : Source) : Prop :=
  diffInterfaces (namesOf s.installed) (namesOf (collectCurrentInterfaces source)) ≠ ([], [])
deriving Decidable

inductive Op where
  | update (op : Update)
  | ifaceMonitor (source : Source)

def step (s : State) : Op → State
  | .update op => update s op
  | .ifaceMonitor source =>
    if Installs s source then
      { s with
        interfaces := collectCurrentInterfaces source
        installed := collectCurrentInterfaces source }
    else s

def measured (x : Interface) : ℤ × LinkQuality × Double × ByteString × ℤ × ℕ × ℕ × ℕ :=
  (x.rttMs, x.quality, x.tcpLossRate, x.tcpLossLevel, x.rssiDbm, x.trafficTotalBps,
    x.trafficTotalPps, x.trafficActiveFlows)

def KeepsMeasured (s : State) : Op → Prop
  | .update _ => True
  | .ifaceMonitor source => Installs s source → ∀ x ∈ s.interfaces,
      ∀ y ∈ (step s (.ifaceMonitor source)).interfaces, x.ifName = y.ifName →
        measured y = measured x

def NothingMeasured (s : State) : Op → Prop
  | .update _ => True
  | .ifaceMonitor source => Installs s source → ∀ x ∈ s.interfaces,
      x.ifName ∈ namesOf (collectCurrentInterfaces source) →
        measured x = measured { ifName := x.ifName }

theorem measured_collected {source : Source} {y : Interface}
    (h : y ∈ collectCurrentInterfaces source) : measured y = measured { ifName := y.ifName } := by
  cases source with
  | topology _ _ =>
    obtain ⟨ifindex, -, hlink⟩ := mem_filterMap.mp h
    obtain ⟨link, -, rfl⟩ := Option.map_eq_some_iff.mp hlink
    rfl
  | managers _ _ =>
    obtain ⟨name, -, rfl⟩ := mem_map.mp h
    rfl

theorem keepsMeasured_iff {s : State} {op : Op} : KeepsMeasured s op ↔ NothingMeasured s op := by
  cases op with
  | update _ => exact Iff.rfl
  | ifaceMonitor _ =>
    apply imp_congr_right
    intro hinstalls
    rw [step, if_pos hinstalls]
    refine forall₂_congr fun x _ => ⟨fun h hname => ?_, fun h y hy hname => ?_⟩
    · obtain ⟨y, hy, hsame⟩ := mem_map.mp hname
      exact (h y hy hsame.symm).symm.trans (measured_collected hy)
    · exact (measured_collected hy).trans (h (hname ▸ mem_map_of_mem hy)).symm

/-- An installation loses what was measured on an interface that stays. -/
theorem survivors_keep_measurements_iff (ops : List Op) :
    AllSteps step KeepsMeasured (State.of []) ops ↔
      AllSteps step NothingMeasured (State.of []) ops := by
  simp [allSteps_iff, keepsMeasured_iff]

theorem rtt_lost_on_new_interface :
    ¬ AllSteps step KeepsMeasured (State.of []) [.ifaceMonitor (.managers [eth0] none),
      .update (.copy .rtt), .update (.finish (.rtt fun _ => 20)),
      .ifaceMonitor (.managers [eth0, wlan0] none)] := by
  rintro ⟨-, -, -, hkept, -⟩
  have hrtt := hkept (by decide) _ mem_cons_self _ mem_cons_self rfl
  cases hrtt
end WeakNet.WeakNetMgr
