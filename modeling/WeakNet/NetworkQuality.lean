import WeakNet.TcpIntervals

/-! `NetworkQualityAssessor`: four scores, their weighted mean, the level, the issues and the
metrics as a JSON text. Scores are finite doubles, and every operation on them rounds. -/

namespace WeakNet
open List

def textBytes (s : String) : ByteString := s.toByteArray.data.toList

namespace Double
def sum (a b : ℚ) : ℚ := round (a + b)
def difference (a b : ℚ) : ℚ := round (a - b)
def product (a b : ℚ) : ℚ := round (a * b)

def padded (width n : ℕ) : String :=
  let digits := toString n
  String.ofList (List.replicate (width - digits.length) '0') ++ digits

/-- `std::fixed << std::setprecision(places)`. -/
def fixed (places : ℕ) : Double → String
  | nan => "nan"
  | negInf => "-inf"
  | posInf => "inf"
  | finite q =>
    let scaled := (nearestEven (|q| * 10 ^ places)).toNat
    (if q < 0 then "-" else "") ++ toString (scaled / 10 ^ places) ++ "." ++
      padded places (scaled % 10 ^ places)
end Double

inductive LinkQuality where
  | unknown | good | fair | poor | bad
deriving DecidableEq

structure NetInfo where
  ifName : ByteString
  rttMs : ℤ := -1
  quality : LinkQuality := .unknown
  rssiDbm : ℤ := -1000
  usingNow : Bool := false
  tcpLossRate : Double := .finite (-1)
  trafficTotalBps : ℕ := 0
  trafficTotalPps : ℕ := 0
  trafficActiveFlows : ℕ := 0

inductive NetworkQualityLevel where
  | unknown | poor | fair | good | excellent
deriving DecidableEq

structure NetworkQualityResult where
  level : NetworkQualityLevel
  levelName : String
  details : ByteString
  score : ℚ
  issues : List String

structure QualityThresholds where
  rttExcellent : ℤ := 50
  rttGood : ℤ := 100
  rttFair : ℤ := 200
  tcpLossExcellent : ℚ := 3602879701896397 / 2 ^ 55
  tcpLossGood : ℚ := 1 / 2
  tcpLossFair : ℚ := 2
  rssiExcellent : ℤ := -50
  rssiGood : ℤ := -60
  rssiFair : ℤ := -70
  minFlowsForAnalysis : ℕ := 5

structure NetworkQualityAssessor where
  thresholds : QualityThresholds := {}
  lastResult : NetworkQualityResult := ⟨.unknown, "", [], 0, []⟩
  qualityChangeCounter : ℕ := 0

namespace NetworkQualityAssessor

def calculateRttScore (t : QualityThresholds) (rttMs : ℤ) : ℚ :=
  if rttMs ≤ 0 then 50
  else if rttMs ≤ t.rttExcellent then 100
  else if rttMs ≤ t.rttGood then 80
  else if rttMs ≤ t.rttFair then 60
  else max 20 (60 - min (((rttMs - t.rttFair : ℤ) : ℚ) * (1 / 2)) 40)

def calculateTcpLossScore (t : QualityThresholds) (lossRate : Double) : ℚ :=
  if lossRate.lt (.finite 0) then 50
  else if lossRate.le (.finite t.tcpLossExcellent) then 100
  else if lossRate.le (.finite t.tcpLossGood) then 80
  else if lossRate.le (.finite t.tcpLossFair) then 60
  else match lossRate with
    | .finite q =>
      let excess := Double.difference q t.tcpLossFair
      max 10 (Double.difference 60 (min (Double.product excess 20) 50))
    -- infinity gives the largest penalty, and `std::max` returns its first argument for nan
    | _ => 10

def calculateRssiScore (t : QualityThresholds) (rssiDbm : ℤ) : ℚ :=
  if rssiDbm = 0 then 50
  else if t.rssiExcellent ≤ rssiDbm then 100
  else if t.rssiGood ≤ rssiDbm then 80
  else if t.rssiFair ≤ rssiDbm then 60
  else max 10 (60 - min (((t.rssiFair - rssiDbm : ℤ) : ℚ) * 2) 50)

def avgPacketSize (i : NetInfo) : Option ℚ :=
  if 0 < i.trafficActiveFlows ∧ 0 < i.trafficTotalBps ∧ 0 < i.trafficTotalPps then
    some (Double.round (Double.round i.trafficTotalBps / Double.round i.trafficTotalPps))
  else none

def packetSizeBonus : Option ℚ → ℚ
  | some size => if 1000 < size then 20 else if size < 200 then -20 else 0
  | none => 0

def calculateTrafficScore (t : QualityThresholds) (i : NetInfo) : ℚ :=
  let score :=
    if 0 < i.trafficActiveFlows then
      70 + packetSizeBonus (avgPacketSize i) +
        (if t.minFlowsForAnalysis ≤ i.trafficActiveFlows then 10 else 0)
    else 50
  max 0 (min 100 score)

/-- The weights are the doubles nearest to 0.3 and 0.2. -/
def totalScore (rtt loss rssi traffic : ℚ) : ℚ :=
  let threeTenths := 5404319552844595 / 2 ^ 54
  let twoTenths := 3602879701896397 / 2 ^ 54
  let measured := Double.sum (Double.product rtt threeTenths) (Double.product loss threeTenths)
  Double.sum (Double.sum measured (Double.product rssi twoTenths))
    (Double.product traffic twoTenths)

def score (t : QualityThresholds) (i : NetInfo) : ℚ :=
  totalScore (calculateRttScore t i.rttMs) (calculateTcpLossScore t i.tcpLossRate)
    (calculateRssiScore t i.rssiDbm) (calculateTrafficScore t i)

def levelOf (score : ℚ) : NetworkQualityLevel :=
  if 90 ≤ score then .excellent
  else if 75 ≤ score then .good
  else if 50 ≤ score then .fair
  else .poor

def getQualityLevelName : NetworkQualityLevel → String
  | .excellent => "EXCELLENT"
  | .good => "GOOD"
  | .fair => "FAIR"
  | .poor => "POOR"
  | .unknown => "UNKNOWN"

def latencyIssues (t : QualityThresholds) (i : NetInfo) : List String :=
  if t.rttFair < i.rttMs then ["High latency: " ++ toString i.rttMs ++ "ms"] else []

def lossIssues (t : QualityThresholds) (i : NetInfo) : List String :=
  if Double.lt (.finite t.tcpLossFair) i.tcpLossRate then
    ["High packet loss: " ++ Double.fixed 6 i.tcpLossRate ++ "%"]
  else []

def signalIssues (t : QualityThresholds) (i : NetInfo) : List String :=
  if i.rssiDbm ≠ 0 ∧ i.rssiDbm < t.rssiFair then
    ["Weak signal: " ++ toString i.rssiDbm ++ "dBm"]
  else []

def packetIssues (i : NetInfo) : List String :=
  match avgPacketSize i with
  | some size =>
    if size < 200 then ["Small packet size: " ++ Double.fixed 6 (.finite size) ++ " bytes"] else []
  | none => []

def overallIssues (score : ℚ) : List String :=
  if score < 30 then ["Poor overall network quality"]
  else if score < 50 then ["Below average network quality"]
  else []

def detectNetworkIssues (t : QualityThresholds) (i : NetInfo) (score : ℚ) : List String :=
  latencyIssues t i ++ lossIssues t i ++ signalIssues t i ++ packetIssues i ++ overallIssues score

def qualityCode : LinkQuality → ℕ
  | .unknown => 0
  | .good => 1
  | .fair => 2
  | .poor => 3
  | .bad => 4

def metricsText (i : NetInfo) (score : ℚ) (issues : List String) : String :=
  "\",\"quality_score\":" ++ Double.fixed 1 (.finite score) ++
  ",\"rtt_ms\":" ++ toString i.rttMs ++
  ",\"tcp_loss_rate\":" ++ Double.fixed 2 i.tcpLossRate ++
  ",\"rssi_dbm\":" ++ toString i.rssiDbm ++
  ",\"traffic_bps\":" ++ toString i.trafficTotalBps ++
  ",\"traffic_pps\":" ++ toString i.trafficTotalPps ++
  ",\"active_flows\":" ++ toString i.trafficActiveFlows ++
  ",\"quality_level\":" ++ toString (qualityCode i.quality) ++
  ",\"using_now\":" ++ (if i.usingNow then "true" else "false") ++
  ",\"issues\":[" ++ ",".intercalate (issues.map fun issue => "\"" ++ issue ++ "\"") ++ "]\x7d"

def generateMetricsJson (i : NetInfo) (score : ℚ) (issues : List String) : ByteString :=
  textBytes "\x7b\"interface\":\"" ++ i.ifName ++ textBytes (metricsText i score issues)

def hasQualityChanged (a : NetworkQualityAssessor) (current : NetworkQualityResult) : Bool :=
  decide (current.level ≠ a.lastResult.level) ||
    decide (10 < |Double.difference current.score a.lastResult.score|)

def assessInterfaceQuality (a : NetworkQualityAssessor) (i : NetInfo) :
    NetworkQualityAssessor × NetworkQualityResult :=
  let total := score a.thresholds i
  let issues := detectNetworkIssues a.thresholds i total
  let result : NetworkQualityResult :=
    ⟨levelOf total, getQualityLevelName (levelOf total), generateMetricsJson i total issues, total,
      issues⟩
  let counter :=
    if a.hasQualityChanged result then a.qualityChangeCounter + 1 else a.qualityChangeCounter
  (⟨a.thresholds, result, counter⟩, result)

def activeInterface (first : NetInfo) (rest : List NetInfo) : NetInfo :=
  ((first :: rest).find? NetInfo.usingNow).getD first

def assessQuality (a : NetworkQualityAssessor) (interfaces : List NetInfo) :
    NetworkQualityAssessor × NetworkQualityResult :=
  match interfaces with
  | [] => (a, ⟨.unknown, "UNKNOWN", textBytes "\x7b\"error\":\"No interfaces available\"\x7d", 0,
      ["No network interfaces detected"]⟩)
  | first :: rest => a.assessInterfaceQuality (activeInterface first rest)

inductive Metric where
  | rtt | tcpLoss | rssi
deriving DecidableEq

def Unmeasured (i : NetInfo) : Metric → Prop
  | .rtt => i.rttMs = -1
  | .tcpLoss => i.tcpLossRate = .finite (-1)
  | .rssi => i.rssiDbm = -1000

instance (i : NetInfo) : DecidablePred (Unmeasured i)
  | .rtt => inferInstanceAs (Decidable (i.rttMs = -1))
  | .tcpLoss => inferInstanceAs (Decidable (i.tcpLossRate = .finite (-1)))
  | .rssi => inferInstanceAs (Decidable (i.rssiDbm = -1000))

def metricScore (t : QualityThresholds) (i : NetInfo) : Metric → ℚ
  | .rtt => calculateRttScore t i.rttMs
  | .tcpLoss => calculateTcpLossScore t i.tcpLossRate
  | .rssi => calculateRssiScore t i.rssiDbm

def Metric.heading : Metric → String
  | .rtt => "High latency: "
  | .tcpLoss => "High packet loss: "
  | .rssi => "Weak signal: "

def Metric.shown (i : NetInfo) : Metric → String
  | .rtt => toString i.rttMs
  | .tcpLoss => Double.fixed 6 i.tcpLossRate
  | .rssi => toString i.rssiDbm

def Metric.unit : Metric → String
  | .rtt => "ms"
  | .tcpLoss => "%"
  | .rssi => "dBm"

def issuesAbout (t : QualityThresholds) (i : NetInfo) : Metric → List String
  | .rtt => latencyIssues t i
  | .tcpLoss => lossIssues t i
  | .rssi => signalIssues t i

/-- What a metric adds to the mean when one that was not measured is neutral. -/
def contribution (t : QualityThresholds) (i : NetInfo) (m : Metric) : ℚ :=
  if Unmeasured i m then 50 else metricScore t i m

theorem not_prefix_append {heading other : String} (h : ¬heading.toList <+: other.toList)
    (h' : ¬other.toList <+: heading.toList) (rest : String) :
    ¬heading.toList <+: (other ++ rest).toList := by
  intro hfront
  rw [String.toList_append] at hfront
  rcases prefix_or_prefix_of_prefix hfront (prefix_append _ _) with hle | hle
  · exact h hle
  · exact h' hle

section Issues
variable {t : QualityThresholds} {i : NetInfo} {total : ℚ} {m : Metric} {issue : String}
theorem eq_of_mem_ite {c : Prop} [Decidable c] {heading shown unit : String}
    (h : issue ∈ if c then [heading ++ shown ++ unit] else []) :
    issue = heading ++ (shown ++ unit) := by
  rw [mem_ite_nil_right, mem_singleton] at h
  exact h.2.trans String.append_assoc

theorem mem_issuesAbout (h : issue ∈ issuesAbout t i m) :
    issue = m.heading ++ (m.shown i ++ m.unit) := by
  cases m with
  | rtt | tcpLoss | rssi => exact eq_of_mem_ite h

theorem mem_otherIssues (h : issue ∈ packetIssues i ++ overallIssues total) :
    (∃ size, issue = "Small packet size: " ++ (Double.fixed 6 (.finite size) ++ " bytes")) ∨
      issue ∈ ["Poor overall network quality", "Below average network quality"] := by
  rcases mem_append.mp h with h | h
  · rw [packetIssues] at h
    split at h
    · exact .inl ⟨_, eq_of_mem_ite h⟩
    · cases h
  · rw [overallIssues] at h
    split_ifs at h
    · exact .inr (mem_cons.mpr (.inl (mem_singleton.mp h)))
    · exact .inr (mem_cons_of_mem _ h)
    · cases h

theorem mem_issues (h : issue ∈ detectNetworkIssues t i total) :
    (∃ m, issue ∈ issuesAbout t i m) ∨ issue ∈ packetIssues i ++ overallIssues total := by
  rw [detectNetworkIssues, append_assoc, mem_append, mem_append, mem_append] at h
  rcases h with ((h | h) | h) | h
  · exact .inl ⟨.rtt, h⟩
  · exact .inl ⟨.tcpLoss, h⟩
  · exact .inl ⟨.rssi, h⟩
  · exact .inr h

theorem about_of_heading (hmem : issue ∈ detectNetworkIssues t i total)
    (hheading : m.heading.toList <+: issue.toList) : issue ∈ issuesAbout t i m := by
  have hmetrics : ∀ m m' : Metric, m ≠ m' → ¬m.heading.toList <+: m'.heading.toList := by
    intro m m'
    cases m <;> cases m' <;> decide
  rcases mem_issues hmem with ⟨m', h⟩ | h
  · by_cases hm : m' = m
    · exact hm ▸ h
    · rw [mem_issuesAbout h] at hheading
      exact absurd hheading (not_prefix_append (hmetrics m m' (Ne.symm hm)) (hmetrics m' m hm) _)
  · rcases mem_otherIssues h with ⟨size, rfl⟩ | h
    · refine absurd hheading (not_prefix_append ?_ ?_ _) <;> cases m <;> decide
    · have hothers : ∀ issue ∈ ["Poor overall network quality", "Below average network quality"],
          ¬m.heading.toList <+: issue.toList := by cases m <;> decide
      exact absurd hheading (hothers issue h)
end Issues

theorem neutral_of_unmeasured {i : NetInfo} {m : Metric} (hm : m ≠ .rssi) (h : Unmeasured i m) :
    metricScore {} i m = 50 ∧ issuesAbout {} i m = [] := by
  cases m with
  | rtt =>
    have hrtt : i.rttMs = -1 := h
    simp [metricScore, calculateRttScore, issuesAbout, latencyIssues, hrtt]
  | tcpLoss =>
    have hloss : i.tcpLossRate = .finite (-1) := h
    have hlow : Double.lt (.finite (-1)) (.finite 0) := by decide +kernel
    have hfair : Double.lt (.finite 2) (.finite (-1)) = false := by decide +kernel
    simp [metricScore, calculateTcpLossScore, issuesAbout, lossIssues, hloss, hlow, hfair]
  | rssi => exact absurd rfl hm

theorem weak_of_unmeasured {i : NetInfo} (h : Unmeasured i .rssi) :
    metricScore {} i .rssi = 10 ∧ issuesAbout {} i .rssi = ["Weak signal: -1000dBm"] := by
  have hrssi : i.rssiDbm = -1000 := h
  have hscore : calculateRssiScore {} (-1000) = 10 := by decide +kernel
  refine ⟨?_, ?_⟩
  · rw [metricScore, hrssi, hscore]
  · rw [issuesAbout, signalIssues, hrssi]
    rfl

/-- Metrics that were not measured count as neutral exactly when the signal was measured: the
value that its field starts with is taken for a weak signal. -/
theorem unmeasured_neutral_iff (last : NetworkQualityResult) (counter : ℕ) (i : NetInfo) :
    ((∀ m, Unmeasured i m → metricScore {} i m = 50 ∧
        ∀ issue ∈ (assessInterfaceQuality ⟨{}, last, counter⟩ i).2.issues,
          ¬m.heading.toList <+: issue.toList) ↔ ¬Unmeasured i .rssi) ∧
      (¬Unmeasured i .rssi → (assessInterfaceQuality ⟨{}, last, counter⟩ i).2.score =
        totalScore (contribution {} i .rtt) (contribution {} i .tcpLoss) (contribution {} i .rssi)
          (calculateTrafficScore {} i)) := by
  have hneutral : ∀ m, m ≠ .rssi → contribution {} i m = metricScore {} i m := by
    intro m hm
    rw [contribution]
    split_ifs with hunmeasured
    · exact (neutral_of_unmeasured hm hunmeasured).1.symm
    · rfl
  refine ⟨⟨fun h hrssi => ?_, fun hrssi m hm => ?_⟩, fun hrssi => ?_⟩
  · have hscore := (h .rssi hrssi).1
    rw [(weak_of_unmeasured hrssi).1] at hscore
    norm_num at hscore
  · have hne : m ≠ .rssi := by
      rintro rfl
      exact hrssi hm
    obtain ⟨hscore, hissues⟩ := neutral_of_unmeasured hne hm
    refine ⟨hscore, fun issue hissue hheading => ?_⟩
    have habout := about_of_heading hissue hheading
    rw [hissues] at habout
    cases habout
  · have hsignal : contribution {} i .rssi = metricScore {} i .rssi := if_neg hrssi
    rw [hneutral .rtt (by decide), hneutral .tcpLoss (by decide), hsignal]
    rfl

def wired : NetInfo := { ifName := textBytes "eth0", rttMs := 20, usingNow := true }

theorem wired_weak_signal :
    Unmeasured wired .rssi ∧ metricScore {} wired .rssi = 10 ∧
      "Weak signal: -1000dBm" ∈ (assessQuality {} [wired]).2.issues := by
  have hweak := weak_of_unmeasured (i := wired) rfl
  refine ⟨rfl, hweak.1, ?_⟩
  have hsignal : "Weak signal: -1000dBm" ∈ signalIssues {} wired := by
    have hissues : signalIssues {} wired = ["Weak signal: -1000dBm"] := hweak.2
    rw [hissues]
    exact mem_singleton_self _
  exact mem_append_left _ (mem_append_left _ (mem_append_right _ hsignal))

structure Metrics where
  rttMs : ℤ
  lossRate : ℚ
  rssiDbm : ℤ

/-- `calculateTcpLossScore` over the rationals. -/
def exactLossScore (t : QualityThresholds) (lossRate : ℚ) : ℚ :=
  if lossRate < 0 then 50
  else if lossRate ≤ t.tcpLossExcellent then 100
  else if lossRate ≤ t.tcpLossGood then 80
  else if lossRate ≤ t.tcpLossFair then 60
  else max 10 (60 - min ((lossRate - t.tcpLossFair) * 20) 50)

/-- `score` over the rationals, with the traffic of an interface. -/
def exactScore (t : QualityThresholds) (i : NetInfo) (m : Metrics) : ℚ :=
  calculateRttScore t m.rttMs * (3 / 10) + exactLossScore t m.lossRate * (3 / 10) +
    calculateRssiScore t m.rssiDbm * (1 / 5) + calculateTrafficScore t i * (1 / 5)

structure NoWorse (m m' : Metrics) : Prop where
  rtt : 0 ≤ m.rttMs ∧ m.rttMs ≤ m'.rttMs
  loss : 0 ≤ m.lossRate ∧ m.lossRate ≤ m'.lossRate
  rssi : m'.rssiDbm ≤ m.rssiDbm ∧ m.rssiDbm < 0

section Better
variable {t : QualityThresholds}

theorem steps_le {p₁ p₂ p₃ q₁ q₂ q₃ : Prop} [Decidable p₁] [Decidable p₂] [Decidable p₃]
    [Decidable q₁] [Decidable q₂] [Decidable q₃] {f c x y : ℚ} (h₁ : q₁ → p₁) (h₂ : q₂ → p₂)
    (h₃ : q₃ → p₃) (hf : f ≤ 60) (hc : 0 ≤ c) (hy : ¬q₃ → 0 ≤ y) (hxy : x ≤ y) :
    (if q₁ then 100 else if q₂ then 80 else if q₃ then 60 else max f (60 - min y c)) ≤
      if p₁ then 100 else if p₂ then 80 else if p₃ then 60 else max f (60 - min x c) := by
  have hpenalty : 60 - min y c ≤ 60 - min x c := sub_le_sub_left (min_le_min_right c hxy) 60
  split_ifs <;> grind

theorem rttScore_le_fifty_iff (hexcellent : t.rttExcellent ≤ t.rttGood)
    (hgood : t.rttGood ≤ t.rttFair) {y : ℤ} (hy : 0 < y) :
    calculateRttScore t y ≤ 50 ↔ t.rttFair + 20 ≤ y := by
  have hcast : ((y - t.rttFair : ℤ) : ℚ) * (1 / 2) < 10 ↔ y < t.rttFair + 20 := by
    rw [← lt_div_iff₀ (by norm_num)]
    norm_num
    norm_cast
    omega
  rw [calculateRttScore, if_neg (by omega)]
  split_ifs <;> grind

theorem rttScore_le {x y : ℤ} (hx : 0 < x) (h : x ≤ y) :
    calculateRttScore t y ≤ calculateRttScore t x := by
  have hx0 : ¬x ≤ 0 := by omega
  have hy0 : ¬y ≤ 0 := by omega
  rw [calculateRttScore, calculateRttScore, if_neg hx0, if_neg hy0]
  have hcast : ((x - t.rttFair : ℤ) : ℚ) ≤ (y - t.rttFair : ℤ) := Int.cast_mono (by omega)
  refine steps_le (by omega) (by omega) (by omega) (by norm_num) (by norm_num) (fun hy => ?_) ?_
  · have : (0 : ℚ) ≤ (y - t.rttFair : ℤ) := Int.cast_nonneg (by omega)
    linarith
  · linarith

theorem lossScore_le {x y : ℚ} (hx : 0 ≤ x) (h : x ≤ y) :
    exactLossScore t y ≤ exactLossScore t x := by
  rw [exactLossScore, exactLossScore, if_neg hx.not_gt, if_neg (hx.trans h).not_gt]
  exact steps_le h.trans h.trans h.trans (by norm_num) (by norm_num) (fun hy => by linarith)
    (by linarith)

theorem rssiScore_le {x y : ℤ} (hx : x < 0) (h : y ≤ x) :
    calculateRssiScore t y ≤ calculateRssiScore t x := by
  have hy0 : y ≠ 0 := by omega
  rw [calculateRssiScore, calculateRssiScore, if_neg hx.ne, if_neg hy0]
  have hcast : ((t.rssiFair - x : ℤ) : ℚ) ≤ (t.rssiFair - y : ℤ) := Int.cast_mono (by omega)
  refine steps_le h.trans' h.trans' h.trans' (by norm_num) (by norm_num) (fun hy => ?_) ?_
  · have : (0 : ℚ) ≤ (t.rssiFair - y : ℤ) := Int.cast_nonneg (by omega)
    linarith
  · linarith

theorem ctorIdx_levelOf {x y : ℚ} (h : x ≤ y) : (levelOf x).ctorIdx ≤ (levelOf y).ctorIdx := by
  simp only [levelOf]
  split_ifs <;> first | decide | linarith

/-- Better metrics give a better score and level exactly when no round-trip time of 0 ms is
compared with a longer one that scores more than the 50 of a time that is not known. -/
theorem better_scores_iff (hexcellent : t.rttExcellent ≤ t.rttGood) (hgood : t.rttGood ≤ t.rttFair)
    (i : NetInfo) {x y : ℤ} (hx : 0 ≤ x) (h : x ≤ y) :
    (∀ m m', NoWorse m m' → m.rttMs = x → m'.rttMs = y → exactScore t i m' ≤ exactScore t i m ∧
      (levelOf (exactScore t i m')).ctorIdx ≤ (levelOf (exactScore t i m)).ctorIdx) ↔
    (x = 0 → y = 0 ∨ t.rttFair + 20 ≤ y) := by
  refine ⟨fun hall hzero => ?_, fun hcond m m' hm hmx hmy => ?_⟩
  · subst hzero
    by_contra! hne
    have hscore := (hall ⟨0, 0, -1⟩ ⟨y, 0, -1⟩ ⟨⟨le_rfl, h⟩, ⟨le_rfl, le_rfl⟩, le_rfl, by simp⟩ rfl
      rfl).1
    have hfifty : calculateRttScore t 0 = 50 := rfl
    have hmore := mt (rttScore_le_fifty_iff hexcellent hgood (by omega)).mp (Int.not_le.mpr hne.2)
    simp only [exactScore, hfifty] at hscore
    linarith
  · have hrtt : calculateRttScore t m'.rttMs ≤ calculateRttScore t m.rttMs := by
      rw [hmx, hmy]
      rcases hx.eq_or_lt with rfl | hpos
      · rcases hcond rfl with rfl | hfar
        · rfl
        · rcases h.eq_or_lt with rfl | hpos
          · rfl
          · exact (rttScore_le_fifty_iff hexcellent hgood hpos).mpr hfar
      · exact rttScore_le hpos h
    have hloss := lossScore_le (t := t) hm.loss.1 hm.loss.2
    have hrssi := rssiScore_le (t := t) hm.rssi.2 hm.rssi.1
    have hscore : exactScore t i m' ≤ exactScore t i m := by
      rw [exactScore, exactScore]
      linarith
    exact ⟨hscore, ctorIdx_levelOf hscore⟩

theorem better_scores_default :
    exactScore {} wired ⟨2, 1, -60⟩ ≤ exactScore {} wired ⟨1, 0, -50⟩ ∧
      (levelOf (exactScore {} wired ⟨2, 1, -60⟩)).ctorIdx ≤
        (levelOf (exactScore {} wired ⟨1, 0, -50⟩)).ctorIdx :=
  (better_scores_iff (by decide) (by decide) wired (by decide) (by decide)).mpr (by decide) _ _
    ⟨by decide, by norm_num, by decide⟩ rfl rfl

/-- A ping of less than a millisecond scores less than one of a millisecond. -/
theorem zero_scores_less :
    NoWorse ⟨0, 0, -50⟩ ⟨1, 0, -50⟩ ∧
      exactScore {} wired ⟨0, 0, -50⟩ < exactScore {} wired ⟨1, 0, -50⟩ :=
  ⟨⟨by decide, by norm_num, by decide⟩, by decide +kernel⟩
end Better
end NetworkQualityAssessor
end WeakNet
