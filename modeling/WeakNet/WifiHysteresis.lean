import WeakNet.RouteContextCache

/-! The engine keeps a category with the last Wi-Fi observation of each interface and lets the next
one depend on it. A very weak interface is normal as soon as it is above the threshold of weak,
while a weak one has to reach the recovery threshold. -/

namespace WeakNet
open Foundation Foundation.OrderedMap Foundation.Runs

def WifiSignalCategory.badness : WifiSignalCategory → ℕ
  | .none | .normal => 0
  | .weak => 1
  | .veryWeak => 2

namespace RootCauseEngine

def categoryAt (engine : RootCauseEngine) (key : WifiCacheKey) : WifiSignalCategory :=
  (engine.wifiEvents.find? key).elim .none WifiCacheEntry.signalCategory

/-- A delivery of an associated observation with a signal on the interface. -/
structure Sample (key : WifiCacheKey) where
  delivery : Delivery
  observation : WifiObservation
  interface : InterfaceId
  signal : ℤ
  payload_eq : delivery.event.payload = .wifi observation
  source_eq : delivery.event.header.source = .wifiCollector
  interface_eq : observation.interface = some interface
  key_eq : (⟨observation.netns, interface.ifindex⟩ : WifiCacheKey) = key
  capability_eq : observation.capability = .available
  linkState_eq : observation.linkState = .associated
  signal_eq : observation.signalAvgDbm.or observation.signalDbm = some signal

variable {key : WifiCacheKey} {engine : RootCauseEngine}

def takes (engine : RootCauseEngine) (sample : Sample key) : Bool :=
  !(engine.wifiEvents.find? key).any
    (supersededWifi sample.delivery.event.header sample.observation)

def entryOf (engine : RootCauseEngine) (sample : Sample key) : WifiCacheEntry :=
  ⟨⟨sample.delivery.event.header, sample.observation⟩,
    nextCategory engine.policy.toRootCausePolicy (engine.categoryAt key) sample.signal⟩

theorem signalCategory_sample (sample : Sample key) (current : Option WifiCacheEntry)
    (policy : RootCausePolicy) : signalCategory policy current sample.observation =
      nextCategory policy (current.elim .none WifiCacheEntry.signalCategory) sample.signal := by
  rw [signalCategory, sample.signal_eq]
  exact if_pos ⟨sample.capability_eq, sample.linkState_eq⟩

theorem absorb_sample (engine : RootCauseEngine) (sample : Sample key) :
    engine.absorb sample.delivery.event =
      if engine.takes sample then .changed { engine with
        wifiEvents := (engine.wifiEvents.insert key (engine.entryOf sample)).trim
          engine.policy.cacheBound }
      else .unchanged := by
  rw [absorb, sample.payload_eq, sample.source_eq]
  simp only [absorbWifi, sample.interface_eq, sample.key_eq, signalCategory_sample]
  cases hold : (engine.wifiEvents.find? key).any
      (supersededWifi sample.delivery.event.header sample.observation) with
  | false => simp only [takes, hold, entryOf, categoryAt, Bool.not_false, if_true,
      Bool.false_eq_true, if_false]
  | true => simp only [takes, hold, Bool.not_true, if_true, Bool.false_eq_true, if_false]

theorem step_sample (engine : RootCauseEngine) (sample : Sample key) :
    (engine.step sample.delivery).policy = engine.policy ∧
      (engine.step sample.delivery).wifiEvents =
        if engine.takes sample then
          (engine.wifiEvents.insert key (engine.entryOf sample)).trim engine.policy.cacheBound
        else engine.wifiEvents := by
  have habsorb := absorb_sample engine sample
  by_cases htaken : engine.takes sample
  · rw [if_pos htaken] at habsorb ⊢
    have hcaches := process_caches habsorb
    exact ⟨hcaches.policy.symm, hcaches.wifiEvents.symm⟩
  · rw [if_neg htaken] at habsorb ⊢
    have hquiet : engine.step sample.delivery = engine := by
      apply step_quiet
      intro next hchanged
      rw [habsorb] at hchanged
      cases hchanged
    rw [hquiet]
    exact ⟨rfl, rfl⟩

structure Alone (policy : AcceptedRootCausePolicy) (key : WifiCacheKey)
    (engine : RootCauseEngine) : Prop where
  accepted : engine.policy = policy
  keys : engine.wifiEvents.keys ⊆ {key}
  bounded : engine.wifiEvents.size ≤ policy.cacheBound

variable {policy : AcceptedRootCausePolicy}
theorem alone_initial : Alone policy key (initial policy) :=
  ⟨rfl, Finset.empty_subset _, Nat.zero_le _⟩

theorem keys_trim_subset {κ ν : Type*} [LinearOrder κ] {m : OrderedMap κ ν} {n : ℕ} :
    (m.trim n).keys ⊆ m.keys := by
  intro k hk
  rw [OrderedMap.mem_keys, contains_iff] at hk ⊢
  obtain ⟨v, hv⟩ := hk
  exact ⟨v, find?_of_trim hv⟩

theorem Alone.step (h : Alone policy key engine) (sample : Sample key) :
    Alone policy key (engine.step sample.delivery) := by
  obtain ⟨hpolicy, hevents⟩ := step_sample engine sample
  refine ⟨hpolicy.trans h.accepted, ?_, ?_⟩ <;> rw [hevents]
  · split_ifs
    · refine keys_trim_subset.trans ?_
      rw [keys_insert]
      exact Finset.insert_subset (Finset.mem_singleton_self key) h.keys
    · exact h.keys
  · split_ifs
    · rw [h.accepted]
      exact size_trim_le
    · exact h.bounded

def heard (policy : AcceptedRootCausePolicy) (samples : List (Sample key)) : RootCauseEngine :=
  run (fun engine sample => engine.step sample.delivery) (initial policy) samples

section
variable (policy : AcceptedRootCausePolicy)
theorem heard_append (earlier : List (Sample key)) (next : Sample key) :
    heard policy (earlier ++ [next]) = (heard policy earlier).step next.delivery :=
  run_append _ _ _

theorem heard_alone (samples : List (Sample key)) : Alone policy key (heard policy samples) :=
  run_invariant (fun _ sample h => h.step sample) alone_initial samples
end

theorem Alone.categoryAt_step (h : Alone policy key engine)
    (hheld : engine.categoryAt key ≠ .none) (sample : Sample key) :
    (engine.step sample.delivery).categoryAt key =
      if engine.takes sample then
        nextCategory policy.toRootCausePolicy (engine.categoryAt key) sample.signal
      else engine.categoryAt key := by
  have hkey : key ∈ engine.wifiEvents.keys := by
    by_contra hnone
    rw [OrderedMap.mem_keys, contains, Option.not_isSome_iff_eq_none] at hnone
    exact hheld (by rw [categoryAt, hnone]; rfl)
  have hroom : (engine.wifiEvents.insert key (engine.entryOf sample)).size ≤
      engine.policy.cacheBound := by
    rw [← card_keys, keys_insert, Finset.insert_eq_self.mpr hkey, card_keys, h.accepted]
    exact h.bounded
  rw [categoryAt, (step_sample engine sample).2, trim_of_le hroom]
  split_ifs
  · rw [find?_insert, if_pos rfl, ← h.accepted]
    rfl
  · rfl

/-- The signal is above the threshold of weak but has not reached its recovery threshold, and is
good enough for the end of very weak. -/
def Between (policy : RootCausePolicy) (signal : ℤ) : Prop :=
  policy.wifiSignalVeryWeakRecoverDbm ≤ signal ∧ policy.wifiSignalWeakDbm < signal ∧
    signal < policy.wifiSignalWeakRecoverDbm

variable {signal : ℤ}
theorem nextCategory_weak_normal {policy : RootCausePolicy}
    (h : nextCategory policy .weak signal = .normal) :
    policy.wifiSignalWeakRecoverDbm ≤ signal := by
  rw [nextCategory] at h
  split_ifs at h with _ hrecovered
  exact hrecovered

theorem nextCategory_veryWeak_normal {policy : RootCausePolicy} :
    nextCategory policy .veryWeak signal = .normal ↔
      policy.wifiSignalVeryWeakRecoverDbm ≤ signal ∧ policy.wifiSignalWeakDbm < signal := by
  rw [nextCategory]
  split_ifs with hrecovered hweak
  · exact ⟨nofun, fun h => absurd hweak (not_le.mpr h.2)⟩
  · exact ⟨fun _ => ⟨hrecovered, not_le.mp hweak⟩, fun _ => rfl⟩
  · exact ⟨nofun, fun h => absurd h.1 hrecovered⟩

theorem nextCategory_graded (policy : AcceptedRootCausePolicy)
    (h : ¬ Between policy.toRootCausePolicy signal) :
    (nextCategory policy.toRootCausePolicy .weak signal).badness ≤
      (nextCategory policy.toRootCausePolicy .veryWeak signal).badness := by
  have hbands : policy.wifiSignalVeryWeakDbm < policy.wifiSignalVeryWeakRecoverDbm := by
    have haccepted := policy.accepted
    simp only [RootCausePolicy.rejected, Bool.or_eq_false_iff, decide_eq_false_iff_not] at haccepted
    exact not_le.mp haccepted.1.1.2
  rw [Between] at h
  rw [nextCategory, nextCategory]
  split_ifs <;> simp only [WifiSignalCategory.badness] <;> omega

structure Hysteresis (policy : AcceptedRootCausePolicy) (earlier : List (Sample key))
    (next : Sample key) : Prop where
  recovers : (heard policy earlier).categoryAt key = .weak ∨
      (heard policy earlier).categoryAt key = .veryWeak →
    (heard policy (earlier ++ [next])).categoryAt key = .normal →
    policy.wifiSignalWeakRecoverDbm ≤ next.signal
  graded : ∀ other : List (Sample key), (heard policy earlier).categoryAt key = .veryWeak →
    (heard policy other).categoryAt key = .weak →
    (heard policy earlier).takes next = true → (heard policy other).takes next = true →
    ((heard policy (other ++ [next])).categoryAt key).badness ≤
      ((heard policy (earlier ++ [next])).categoryAt key).badness

theorem heard_category (policy : AcceptedRootCausePolicy) {earlier : List (Sample key)}
    {category : WifiSignalCategory} (h : (heard policy earlier).categoryAt key = category)
    (hheld : category ≠ .none) (next : Sample key) :
    (heard policy (earlier ++ [next])).categoryAt key =
      if (heard policy earlier).takes next then
        nextCategory policy.toRootCausePolicy category next.signal
      else category := by
  subst h
  rw [heard_append]
  exact (heard_alone policy earlier).categoryAt_step hheld next

/-- The hysteresis holds at a sample exactly if it does not bring a very weak interface into the
band of weak from below. -/
theorem wifi_hysteresis_iff (policy : AcceptedRootCausePolicy) (earlier : List (Sample key))
    (next : Sample key) :
    Hysteresis policy earlier next ↔
      ((heard policy earlier).categoryAt key = .veryWeak →
        (heard policy earlier).takes next = true →
        ¬ Between policy.toRootCausePolicy next.signal) := by
  refine ⟨fun h hworst htaken hbetween => ?_, fun h => ⟨fun hweak hnormal => ?_,
    fun other hworst hweak htaken htaken' => ?_⟩⟩
  · have hnormal : (heard policy (earlier ++ [next])).categoryAt key = .normal := by
      rw [heard_category policy hworst nofun, if_pos htaken]
      exact nextCategory_veryWeak_normal.mpr ⟨hbetween.1, hbetween.2.1⟩
    exact absurd (h.recovers (.inr hworst) hnormal) (not_le.mpr hbetween.2.2)
  · rcases hweak with hweak | hworst
    · rw [heard_category policy hweak nofun] at hnormal
      split_ifs at hnormal
      exact nextCategory_weak_normal hnormal
    · rw [heard_category policy hworst nofun] at hnormal
      split_ifs at hnormal with htaken
      by_contra hlow
      obtain ⟨hrecovered, habove⟩ := nextCategory_veryWeak_normal.mp hnormal
      exact h hworst htaken ⟨hrecovered, habove, not_le.mp hlow⟩
  · rw [heard_category policy hworst nofun, heard_category policy hweak nofun,
      if_pos htaken, if_pos htaken']
    exact nextCategory_graded policy (h hworst htaken)

section Sample
def wifiKey : WifiCacheKey := ⟨⟨4, 1⟩, 3⟩

def stationObservation (number : ℕ) (signal : ℤ) : WifiObservation where
  netns := ⟨4, 1⟩
  interface := some ⟨3, []⟩
  interfaceGeneration := 1
  linkState := .associated
  capability := .available
  nl80211Iftype := some 2
  bssid := none
  ssid := none
  frequencyMhz := none
  signalDbm := some signal
  signalAvgDbm := none
  txBitrateKbps := none
  rxBitrateKbps := none
  txRetries := none
  txFailed := none
  rxPackets := none
  txPackets := none
  rxBytes := none
  txBytes := none
  observedAt := number
  monotonicAt := number
  source := .wifiCollector
  validity := .valid
  status := ""

def stationHeader (number : ℕ) : NetworkEventHeader where
  schemaVersion := 1
  eventId := number + 1
  sequence := 0
  kind := .wifiObservation
  source := .wifiCollector
  observedAt := number
  monotonicAt := number
  netns := ⟨4, 1⟩
  interface := some ⟨3, []⟩
  socket := none
  validity := .valid
  status := none

def stationSample (number : ℕ) (signal : ℤ) : Sample wifiKey where
  delivery := ⟨⟨stationHeader number, .wifi (stationObservation number signal), by rfl⟩,
    fun _ _ => number⟩
  observation := stationObservation number signal
  interface := ⟨3, []⟩
  signal := signal
  payload_eq := rfl
  source_eq := rfl
  interface_eq := rfl
  key_eq := rfl
  capability_eq := rfl
  linkState_eq := rfl
  signal_eq := rfl

/-- At -69 dBm an interface that was at -85 dBm is normal, one that was at -72 dBm still weak. -/
theorem very_weak_recovers_early :
    (heard .standard [stationSample 0 (-85)]).categoryAt wifiKey = .veryWeak ∧
      (heard .standard [stationSample 0 (-85), stationSample 1 (-69)]).categoryAt wifiKey =
        .normal ∧
      -69 < AcceptedRootCausePolicy.standard.wifiSignalWeakRecoverDbm ∧
      (heard .standard [stationSample 0 (-72)]).categoryAt wifiKey = .weak ∧
      (heard .standard [stationSample 0 (-72), stationSample 1 (-69)]).categoryAt wifiKey =
        .weak := by
  decide +kernel
end Sample
end RootCauseEngine
end WeakNet
