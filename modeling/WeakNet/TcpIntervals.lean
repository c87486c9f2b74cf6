import Mathlib.Data.Int.Log
import Mathlib.Data.Rat.Floor
import WeakNet.NetworkEvent

/-! `TcpIntervalCalculator::calculate`. A counter that went down makes the metrics partial and
leaves its own fields out. Quotients are rounded to the nearest double; elapsed times and counters
are far from the bounds of the exponent. -/

namespace WeakNet

namespace Double
def nearestEven (q : ℚ) : ℤ :=
  let rest := q - ⌊q⌋
  if rest < 1 / 2 then ⌊q⌋
  else if 1 / 2 < rest then ⌊q⌋ + 1
  else if ⌊q⌋ % 2 = 0 then ⌊q⌋ else ⌊q⌋ + 1

def round (q : ℚ) : ℚ :=
  if q = 0 then 0
  else
    let exponent := Int.log 2 |q| - 52
    nearestEven (q / 2 ^ exponent) * 2 ^ exponent

/-- `static_cast<double>(n) / x`. -/
def quotient (n : ℕ) (x : ℚ) : Double := .finite (round (round n / x))
end Double

structure TcpIntervalResult where
  metrics : Option TcpIntervalMetrics
  reason : Option TcpMetricUnavailableReason
deriving DecidableEq

namespace TcpIntervalCalculator
def counterDelta (before after : Option ℕ) : Option ℕ :=
  match before, after with
  | some b, some a => if a < b then none else some (a - b)
  | _, _ => none

def counterReset (before after : Option ℕ) : Bool :=
  match before, after with
  | some b, some a => a < b
  | _, _ => false

def counters : List (TcpInfoRaw → Option ℕ) :=
  [TcpInfoRaw.bytesAcked, TcpInfoRaw.bytesReceived, TcpInfoRaw.segsOut, TcpInfoRaw.segsIn,
    TcpInfoRaw.dataSegsOut, TcpInfoRaw.dataSegsIn, TcpInfoRaw.totalRetrans]

def anyReset (before after : TcpInfoRaw) : Bool :=
  counters.any fun counter => counterReset (counter before) (counter after)

def hasMetric (before after : TcpInfoRaw) : Bool :=
  after.rttUs.isSome || after.rttvarUs.isSome || after.sndCwnd.isSome || after.sndSsthresh.isSome ||
    counters.any fun counter => (counterDelta (counter before) (counter after)).isSome

/-- `std::chrono::duration<double>(current - previous).count()`. -/
def elapsedSeconds (previous current : TcpInfoObservation) : ℚ :=
  Double.round (Double.round ((current.monotonicAt - previous.monotonicAt : ℤ) : ℚ) / 10 ^ 9)

def intervalMetrics (previous current : TcpInfoObservation) (before after : TcpInfoRaw) :
    TcpIntervalMetrics :=
  let elapsed := elapsedSeconds previous current
  let rate (counter : TcpInfoRaw → Option ℕ) : Option Double :=
    (counterDelta (counter before) (counter after)).map fun delta => .quotient delta elapsed
  let retrans := counterDelta before.totalRetrans after.totalRetrans
  let dataOut := if retrans.isSome then counterDelta before.dataSegsOut after.dataSegsOut else none
  let reason : Option TcpMetricUnavailableReason :=
    if anyReset before after then some .counterReset
    else if dataOut = some 0 then some .zeroDenominator else none
  { id := current.id
    intervalStart := previous.monotonicAt
    intervalEnd := current.monotonicAt
    elapsedSeconds := .finite elapsed
    rttUs := after.rttUs
    rttvarUs := after.rttvarUs
    sndCwnd := after.sndCwnd
    sndSsthresh := after.sndSsthresh
    txAckedBytesPerSec := rate TcpInfoRaw.bytesAcked
    rxBytesPerSec := rate TcpInfoRaw.bytesReceived
    segsOutPerSec := rate TcpInfoRaw.segsOut
    segsInPerSec := rate TcpInfoRaw.segsIn
    dataSegsOutPerSec := rate TcpInfoRaw.dataSegsOut
    dataSegsInPerSec := rate TcpInfoRaw.dataSegsIn
    deltaTotalRetrans := retrans
    deltaDataSegsOut := dataOut
    retransmissionSegmentRatio := match retrans, dataOut with
      | some r, some (d + 1) => some (.quotient r (Double.round (d + 1 : ℕ)))
      | _, _ => none
    validity := if reason.isSome then .partly else .valid
    unavailableReason := reason }

/-- With no metric there is no difference either, so a zero denominator cannot be the reason. -/
def interval (previous current : TcpInfoObservation) (before after : TcpInfoRaw) :
    TcpIntervalResult :=
  if hasMetric before after then ⟨some (intervalMetrics previous current before after), none⟩
  else ⟨none, some (if anyReset before after then .counterReset else .fieldUnavailable)⟩

def calculate (previous current : TcpInfoObservation) : TcpIntervalResult :=
  if previous.id ≠ current.id then
    ⟨none, some (if previous.id.netns = current.id.netns ∧ previous.id.cookie = current.id.cookie
      then .generationChanged else .identityChanged)⟩
  else if current.monotonicAt ≤ previous.monotonicAt then ⟨none, some .nonIncreasingTimestamp⟩
  else match previous.raw, current.raw with
    | some before, some after =>
      if previous.validity ≠ .valid ∨ current.validity ≠ .valid ∨ previous.malformed = true ∨
          current.malformed = true then ⟨none, some .fieldUnavailable⟩
      else interval previous current before after
    | _, _ => ⟨none, some .fieldUnavailable⟩

section Usable
variable {previous current : TcpInfoObservation} {before after : TcpInfoRaw} {r r' : ℕ}
theorem counterDelta_eq_some (h : r ≤ r') : counterDelta (some r) (some r') = some (r' - r) := by
  rw [counterDelta, if_neg (Nat.not_lt.mpr h)]

theorem hasMetric_of_retrans (hbefore : before.totalRetrans = some r)
    (hafter : after.totalRetrans = some r') (hmono : r ≤ r') : hasMetric before after := by
  have hdelta : (counterDelta before.totalRetrans after.totalRetrans).isSome := by
    rw [hbefore, hafter, counterDelta_eq_some hmono]
    rfl
  rw [hasMetric, Bool.or_eq_true]
  right
  apply List.any_eq_true.mpr
  exact ⟨TcpInfoRaw.totalRetrans, by simp [counters], hdelta⟩

theorem calculate_eq_some {m : TcpIntervalMetrics}
    (h : (calculate previous current).metrics = some m) :
    ∃ before after, previous.raw = some before ∧ current.raw = some after ∧
      m = intervalMetrics previous current before after := by
  rw [calculate] at h
  split at h
  · cases h
  split at h
  · cases h
  split at h
  · rename_i before after hprevious hcurrent
    rw [interval] at h
    split_ifs at h
    exact ⟨before, after, hprevious, hcurrent, (Option.some.inj h).symm⟩
  · cases h

structure Counted (sample : TcpInfoObservation) (raw : TcpInfoRaw) (r : ℕ) : Prop where
  present : sample.raw = some raw
  valid : sample.validity = .valid
  wellFormed : sample.malformed = false
  retrans : raw.totalRetrans = some r

theorem calculate_counted (hid : previous.id = current.id)
    (htime : previous.monotonicAt < current.monotonicAt) (hprevious : Counted previous before r)
    (hcurrent : Counted current after r') (hmono : r ≤ r') :
    calculate previous current = ⟨some (intervalMetrics previous current before after), none⟩ := by
  have hmetric := hasMetric_of_retrans hprevious.retrans hcurrent.retrans hmono
  rw [calculate, if_neg (by simp [hid]), if_neg (not_le.mpr htime), hprevious.present, hcurrent.present]
  simp [hprevious.valid, hcurrent.valid, hprevious.wellFormed, hcurrent.wellFormed, interval,
      hmetric]
end Usable
end TcpIntervalCalculator
end WeakNet
