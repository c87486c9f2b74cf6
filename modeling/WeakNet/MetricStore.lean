import WeakNet.EventBus
import WeakNet.Foundation.MapLoops
import WeakNet.Foundation.MinElement

/-! Keys are compared as in the source, where an interface counts by its index alone, so the map is
ordered by `MetricKey.code` and each series holds the key it was made for. The loop that evicts
samples has fuel: `insert` returns nothing when it has not ended within it. The counters are kept
before their truncation to 64 bits. -/

namespace WeakNet
open Foundation

inductive MetricName where
  | rtt | tcpLossRate | trafficBytesPerSecond | trafficPacketsPerSecond | trafficActiveFlows
  | wifiRssi | tcpRttUs | tcpRttvarUs | tcpSndCwnd | tcpSndSsthresh | tcpTxAckedBytesPerSecond
  | tcpRxBytesPerSecond | tcpSegsOutPerSecond | tcpSegsInPerSecond | tcpDataSegsOutPerSecond
  | tcpDataSegsInPerSecond | tcpDeltaTotalRetrans | tcpRetransmissionSegmentRatio
deriving DecidableEq

inductive MetricUnit where
  | milliseconds | percent | bytesPerSecond | packetsPerSecond | count | decibelMilliwatts
  | microseconds | segmentsPerSecond | ratio
deriving DecidableEq

inductive MetricValue where
  | signed (n : ℤ)
  | unsigned (n : ℕ)
  | real (x : Double)
deriving DecidableEq

structure MetricKey where
  netns : NetnsId
  metric : MetricName
  unit : MetricUnit
  source : EventSource
  interface : Option InterfaceId
  socket : Option SocketId
  observationIntervalMs : ℕ
deriving DecidableEq

def MetricKey.code (key : MetricKey) : List ℕ :=
  [key.netns.device, key.netns.inode, key.metric.ctorIdx, key.unit.ctorIdx, key.source.index,
    key.interface.elim 0 (·.ifindex + 1)] ++
    key.socket.elim [0] (fun id => 1 :: id.code) ++ [key.observationIntervalMs]

structure MetricSample where
  sampleId : ℕ
  key : MetricKey
  value : Option MetricValue
  validity : Validity
  observedAt : RealtimeTime
  monotonicAt : MonotonicTime
  status : Option Status
deriving DecidableEq

structure MetricStoreConfig where
  maxSeries : ℕ
  maxSamplesPerSeries : ℕ
  maxTotalSamples : ℕ
  maxRetainedAge : ℤ
  maxQueryResults : ℕ
  staleAfter : ℤ
deriving DecidableEq

namespace MetricStoreConfig
def rejected (config : MetricStoreConfig) : Bool :=
  config.maxSeries == 0 || config.maxSamplesPerSeries == 0 || config.maxTotalSamples == 0 ||
    config.maxQueryResults == 0 || decide (config.maxRetainedAge < 0) ||
    decide (config.staleAfter < 0)

def standard : MetricStoreConfig where
  maxSeries := 1024
  maxSamplesPerSeries := 256
  maxTotalSamples := 65536
  maxRetainedAge := 3600 * 10 ^ 9
  maxQueryResults := 1024
  staleAfter := 30 * 10 ^ 9
end MetricStoreConfig

structure AcceptedMetricStoreConfig extends MetricStoreConfig where
  accepted : toMetricStoreConfig.rejected = false

structure MetricSeriesSnapshot where
  key : MetricKey
  samples : List MetricSample
deriving DecidableEq

structure MetricStoreTelemetry where
  activeSeries : ℕ
  sampleCount : ℕ
  seriesEvictions : ℕ
  sampleEvictions : ℕ
  rejectedSamples : ℕ
  staleQueryResults : ℕ
deriving DecidableEq

namespace MetricStore
structure Series where
  key : MetricKey
  samples : List MetricSample
  lastUpdated : MonotonicTime
deriving DecidableEq
end MetricStore

structure MetricStore where
  config : AcceptedMetricStoreConfig
  series : OrderedMap (List ℕ) MetricStore.Series
  sampleCount : ℕ
  seriesEvictions : ℕ
  sampleEvictions : ℕ
  rejectedSamples : ℕ
  staleQueryResults : ℕ

namespace MetricStore
def initial (config : AcceptedMetricStoreConfig) : MetricStore where
  config := config
  series := .empty
  sampleCount := 0
  seriesEvictions := 0
  sampleEvictions := 0
  rejectedSamples := 0
  staleQueryResults := 0

def malformed (sample : MetricSample) : Bool :=
  sample.sampleId == 0 || sample.key.netns.inode == 0 ||
    sample.key.interface.any (·.ifindex == 0) ||
    (sample.validity == .valid && sample.value.isNone) ||
    (sample.validity == .unavailable && sample.value.isSome)

def evicted (store : MetricStore) (n : ℕ) : MetricStore :=
  { store with
    sampleCount := store.sampleCount - n
    sampleEvictions := store.sampleEvictions + n }

def reject (store : MetricStore) : MetricStore :=
  { store with rejectedSamples := store.rejectedSamples + 1 }

/-- The series keeps the given samples, the last ones of its own, or goes with the last one. -/
def keepSamples (store : MetricStore) (code : List ℕ) (series : Series)
    (samples : List MetricSample) : MetricStore :=
  { store with
    series := if samples = [] then store.series.erase code
      else store.series.insert code { series with samples := samples } }.evicted
    (series.samples.length - samples.length)

def expired (store : MetricStore) (now : MonotonicTime) (sample : MetricSample) : Bool :=
  decide (store.config.maxRetainedAge < now - sample.monotonicAt)

def pruneSeries (now : MonotonicTime) (store : MetricStore) (entry : List ℕ × Series) :
    MetricStore :=
  store.keepSamples entry.1 entry.2 (entry.2.samples.dropWhile (store.expired now))

def pruneExpired (store : MetricStore) (now : MonotonicTime) : MetricStore :=
  store.series.entries.foldl (pruneSeries now) store

def evictOldestSeries (store : MetricStore) : MetricStore :=
  match store.series.entries with
  | [] => store
  | first :: rest =>
    let oldest := minBy (fun e : List ℕ × Series => e.2.lastUpdated) first rest
    { store with
      series := store.series.erase oldest.1
      seriesEvictions := store.seriesEvictions + 1 }.evicted oldest.2.samples.length

def Series.front (series : Series) : MonotonicTime :=
  (series.samples.head?.map (·.monotonicAt)).getD 0

def evictOldestSample (store : MetricStore) : MetricStore :=
  match store.series.entries.filter (fun e => e.2.samples ≠ []) with
  | [] => store
  | first :: rest =>
    let oldest := minBy (fun e : List ℕ × Series => e.2.front) first rest
    store.keepSamples oldest.1 oldest.2 oldest.2.samples.tail

/-- `while (sample_count_ > max_total_samples) evictOldestSampleLocked()`. -/
def evictExcess : ℕ → MetricStore → Option MetricStore
  | 0, store => if store.sampleCount ≤ store.config.maxTotalSamples then some store else none
  | fuel + 1, store =>
    if store.sampleCount ≤ store.config.maxTotalSamples then some store
    else evictExcess fuel store.evictOldestSample

def Series.fresh (key : MetricKey) : Series := ⟨key, [], 0⟩

def locate (store : MetricStore) (key : MetricKey) : MetricStore × Series :=
  match store.series.find? key.code with
  | some series => (store, series)
  | none =>
    let store := if store.series.size = store.config.maxSeries then store.evictOldestSeries
      else store
    ({ store with series := store.series.insert key.code (.fresh key) }, .fresh key)

def late (series : Series) (sample : MetricSample) : Bool :=
  series.samples.getLast?.any fun last => decide (sample.monotonicAt < last.monotonicAt)

def Series.append (series : Series) (sample : MetricSample) : Series :=
  { series with
    samples := series.samples ++ [sample]
    lastUpdated := sample.monotonicAt }

def push (store : MetricStore) (code : List ℕ) (series : Series) : MetricStore :=
  { store with
    series := store.series.insert code series
    sampleCount := store.sampleCount + 1 }

def bound (store : MetricStore) (code : List ℕ) (series : Series) : MetricStore :=
  if series.samples.length ≤ store.config.maxSamplesPerSeries then store
  else store.keepSamples code series
    (series.samples.drop (series.samples.length - store.config.maxSamplesPerSeries))

def insert (fuel : ℕ) (store : MetricStore) (sample : MetricSample) : Option (MetricStore × Bool) :=
  if malformed sample then some (store.reject, false)
  else
    let located := (store.pruneExpired sample.monotonicAt).locate sample.key
    if late located.2 sample then some (located.1.reject, false)
    else
      let code := sample.key.code
      let series := located.2.append sample
      (((located.1.push code series).bound code series).evictExcess fuel).map (·, true)

def stale (store : MetricStore) (now : MonotonicTime) (sample : MetricSample) : Bool :=
  (sample.validity == .valid || sample.validity == .partly) &&
    decide (store.config.staleAfter < now - sample.monotonicAt)

def withStaleness (store : MetricStore) (now : MonotonicTime) (sample : MetricSample) :
    MetricSample :=
  if store.stale now sample then { sample with validity := .stale } else sample

def returned (store : MetricStore) (now : MonotonicTime) (samples : List MetricSample) :
    MetricStore × List MetricSample :=
  ({ store with
    staleQueryResults := store.staleQueryResults + samples.countP (store.stale now) },
    samples.map (store.withStaleness now))

def latest (store : MetricStore) (now : MonotonicTime) (key : MetricKey) :
    MetricStore × Option MetricSample :=
  match (store.series.find? key.code).bind (·.samples.getLast?) with
  | none => (store, none)
  | some sample =>
    if store.expired now sample then (store, none)
    else
      let result := store.returned now [sample]
      (result.1, result.2.head?)

def window (store : MetricStore) (now : MonotonicTime) (key : MetricKey)
    (start finish : MonotonicTime) (limit : ℕ) : MetricStore × List MetricSample :=
  if finish < start then (store, [])
  else
    let effectiveLimit := if limit = 0 then store.config.maxQueryResults
      else min limit store.config.maxQueryResults
    match store.series.find? key.code with
    | none => (store, [])
    | some series =>
      store.returned now ((series.samples.filter fun sample =>
        decide (start ≤ sample.monotonicAt) && decide (sample.monotonicAt ≤ finish) &&
          !store.expired now sample).take effectiveLimit)

def snapshotSeries (now : MonotonicTime) (netns : Option NetnsId)
    (result : MetricStore × List MetricSeriesSnapshot) (entry : List ℕ × Series) :
    MetricStore × List MetricSeriesSnapshot :=
  if netns.any (· != entry.2.key.netns) then result
  else
    let store := result.1
    let item := store.returned now (entry.2.samples.filter fun sample => !store.expired now sample)
    (item.1, if item.2 = [] then result.2 else result.2 ++ [⟨entry.2.key, item.2⟩])

def snapshot (store : MetricStore) (now : MonotonicTime) (netns : Option NetnsId) :
    MetricStore × List MetricSeriesSnapshot :=
  store.series.entries.foldl (snapshotSeries now netns) (store, [])

def telemetry (store : MetricStore) : MetricStoreTelemetry where
  activeSeries := store.series.size
  sampleCount := store.sampleCount
  seriesEvictions := store.seriesEvictions
  sampleEvictions := store.sampleEvictions
  rejectedSamples := store.rejectedSamples
  staleQueryResults := store.staleQueryResults

inductive Op where
  | insert (sample : MetricSample)
  | latest (now : MonotonicTime) (key : MetricKey)
  | window (now : MonotonicTime) (key : MetricKey) (start finish : MonotonicTime) (limit : ℕ)
  | snapshot (now : MonotonicTime) (netns : Option NetnsId)
  | telemetry

structure Tally where
  store : MetricStore
  accepted : ℕ

def perform (fuel : ℕ) (t : Tally) : Op → Option Tally
  | .insert sample => (t.store.insert fuel sample).map fun result =>
      ⟨result.1, if result.2 then t.accepted + 1 else t.accepted⟩
  | .latest now key => some ⟨(t.store.latest now key).1, t.accepted⟩
  | .window now key start finish limit =>
      some ⟨(t.store.window now key start finish limit).1, t.accepted⟩
  | .snapshot now netns => some ⟨(t.store.snapshot now netns).1, t.accepted⟩
  | .telemetry => some t

def performAll (fuel : ℕ) (t : Tally) (ops : List Op) : Option Tally :=
  ops.foldlM (perform fuel) t
end MetricStore
end WeakNet
