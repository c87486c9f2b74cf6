import WeakNet.MetricStore
import WeakNet.Foundation.Runs

/-! Everything that removes samples keeps the last ones of a series or removes it as a whole; `push`
alone adds one. `Sound` is what each of them keeps, `Shrinks` says that nothing grew, and `Valid`
adds the four bounds. The last loop of `insert` ends after one turn. -/

namespace WeakNet
open Foundation Foundation.OrderedMap MetricStore Series Option
open List hiding contains_iff

namespace MetricStore
structure SeriesSound (code : List ℕ) (series : Series) : Prop where
  nonempty : series.samples ≠ []
  ordered : series.samples.Pairwise (·.monotonicAt ≤ ·.monotonicAt)
  keyed : series.key.code = code ∧ ∀ sample ∈ series.samples, sample.key.code = code
  updated : series.samples.getLast?.map (·.monotonicAt) = some series.lastUpdated

def Series.size (series : Series) : ℕ := series.samples.length

structure Sound (config : AcceptedMetricStoreConfig) (accepted : ℕ) (store : MetricStore) :
    Prop where
  configured : store.config = config
  series : ∀ code series, store.series.find? code = some series → SeriesSound code series
  counted : store.sampleCount = store.series.total Series.size
  balanced : accepted = store.sampleCount + store.sampleEvictions

structure Shrinks (store store' : MetricStore) : Prop where
  series : ∀ code series', store'.series.find? code = some series' →
    ∃ series, store.series.find? code = some series ∧ series'.size ≤ series.size
  count : store'.sampleCount ≤ store.sampleCount

structure Valid (config : AcceptedMetricStoreConfig) (accepted : ℕ) (store : MetricStore) : Prop
    extends Sound config accepted store where
  fewSeries : store.series.size ≤ config.maxSeries
  short : ∀ code series, store.series.find? code = some series →
    series.samples.length ≤ config.maxSamplesPerSeries
  fewSamples : store.sampleCount ≤ config.maxTotalSamples

variable {config : AcceptedMetricStoreConfig} {accepted : ℕ} {store store' : MetricStore}
  {code : List ℕ} {series : Series}

section
variable (config : AcceptedMetricStoreConfig)
theorem config_positive :
    0 < config.maxSeries ∧ 0 < config.maxSamplesPerSeries ∧ 0 < config.maxTotalSamples := by
  have haccepted := config.accepted
  simp only [MetricStoreConfig.rejected, Bool.or_eq_false_iff, beq_eq_false_iff_ne] at haccepted
  omega

theorem valid_initial : Valid config 0 (initial config) where
  configured := rfl
  series := fun _ _ h => absurd h nofun
  counted := rfl
  balanced := rfl
  fewSeries := Nat.zero_le _
  short := fun _ _ h => absurd h nofun
  fewSamples := Nat.zero_le _
end

theorem Shrinks.refl (store : MetricStore) : Shrinks store store :=
  ⟨fun _ series h => ⟨series, h, le_rfl⟩, le_rfl⟩

theorem Shrinks.trans {store'' : MetricStore} (h : Shrinks store store')
    (h' : Shrinks store' store'') : Shrinks store store'' := by
  refine ⟨fun code series hfind => ?_, h'.count.trans h.count⟩
  obtain ⟨series', hfind', hle⟩ := h'.series code series hfind
  obtain ⟨series'', hfind'', hle'⟩ := h.series code series' hfind'
  exact ⟨series'', hfind'', hle.trans hle'⟩

theorem Shrinks.size (h : Shrinks store store') : store'.series.size ≤ store.series.size := by
  rw [← card_keys, ← card_keys]
  apply Finset.card_le_card
  intro code hcode
  rw [OrderedMap.mem_keys, contains_iff] at hcode ⊢
  obtain ⟨series', hseries'⟩ := hcode
  obtain ⟨series, hseries, -⟩ := h.series code series' hseries'
  exact ⟨series, hseries⟩

theorem Valid.shrink (h : Valid config accepted store) (hsound : Sound config accepted store')
    (hshrinks : Shrinks store store') : Valid config accepted store' where
  toSound := hsound
  fewSeries := hshrinks.size.trans h.fewSeries
  short := fun code series hfind => by
    obtain ⟨series', hfind', hle⟩ := hshrinks.series code series hfind
    exact hle.trans (h.short code series' hfind')
  fewSamples := hshrinks.count.trans h.fewSamples

theorem Sound.size_le (h : Sound config accepted store)
    (hfind : store.series.find? code = some series) : series.size ≤ store.sampleCount := by
  have htotal := total_erase size store.series code
  rw [hfind, elim_some, ← h.counted] at htotal
  omega

variable {popped kept : List MetricSample}
theorem SeriesSound.suffix (h : SeriesSound code series) (hsplit : series.samples = popped ++ kept)
    (hkept : kept ≠ []) :
    SeriesSound code { series with samples := kept } where
  nonempty := hkept
  ordered := by
    have hordered := h.ordered
    rw [hsplit, pairwise_append] at hordered
    exact hordered.2.1
  keyed := by
    refine ⟨h.keyed.1, fun sample hsample => h.keyed.2 sample ?_⟩
    rw [hsplit]
    exact mem_append_right _ hsample
  updated := by
    have hupdated := h.updated
    rw [hsplit, List.getLast?_append_of_ne_nil _ hkept] at hupdated
    exact hupdated

theorem keepSamples_series (store : MetricStore) (series : Series) (kept : List MetricSample) :
    (store.keepSamples code series kept).series = if kept = [] then store.series.erase code
      else store.series.insert code { series with samples := kept } :=
  rfl

theorem keepSamples_find? (store : MetricStore) (series : Series) (kept : List MetricSample)
    (code' : List ℕ) :
    (store.keepSamples code series kept).series.find? code' =
      if code = code' then
        if kept = [] then none else some { series with samples := kept }
      else store.series.find? code' := by
  rw [keepSamples_series]
  by_cases hkept : kept = []
  · rw [if_pos hkept, find?_erase]
    simp [hkept, eq_comm]
  · rw [if_neg hkept, find?_insert]
    simp [hkept]

section
variable (h : Sound config accepted store)
include h
theorem Sound.keepSamples (hfind : store.series.find? code = some series)
    (hsplit : series.samples = popped ++ kept) :
    Sound config accepted (store.keepSamples code series kept) ∧
      Shrinks store (store.keepSamples code series kept) ∧
      (store.keepSamples code series kept).sampleCount + popped.length = store.sampleCount := by
  have hlength : series.size = popped.length + kept.length := by
    rw [Series.size, hsplit, length_append]
  have hpopped : series.samples.length - kept.length = popped.length := by
    rw [hsplit, length_append, Nat.add_sub_cancel]
  have hlarge := h.size_le hfind
  have hcount : (store.keepSamples code series kept).sampleCount + popped.length =
      store.sampleCount := by
    change store.sampleCount - (series.samples.length - kept.length) + popped.length = _
    omega
  refine ⟨⟨h.configured, fun code' series' hfind' => ?_, ?_, ?_⟩, ⟨fun code' series' hfind' => ?_,
    by omega⟩, hcount⟩
  · rw [keepSamples_find?] at hfind'
    split_ifs at hfind' with hcode hkept
    · subst hcode
      cases hfind'
      exact (h.series code series hfind).suffix hsplit hkept
    · exact h.series code' series' hfind'
  · have htotal : (store.keepSamples code series kept).series.total Series.size + popped.length =
        store.series.total Series.size := by
      rw [keepSamples_series]
      split_ifs with hkept
      · have herased := total_erase Series.size store.series code
        rw [hfind, elim_some, hlength, hkept, length_nil] at herased
        omega
      · have hinserted := total_insert Series.size store.series code { series with samples := kept }
        rw [hfind, elim_some, hlength] at hinserted
        change _ = _ + kept.length at hinserted
        omega
    have hcounted := h.counted
    omega
  · have hbalanced := h.balanced
    change accepted = (store.keepSamples code series kept).sampleCount +
      (store.sampleEvictions + (series.samples.length - kept.length))
    omega
  · rw [keepSamples_find?] at hfind'
    split_ifs at hfind' with hcode hkept
    · subst hcode
      cases hfind'
      refine ⟨series, hfind, ?_⟩
      change kept.length ≤ series.size
      omega
    · exact ⟨series', hfind', le_rfl⟩

theorem Sound.pruneExpired (now : MonotonicTime) :
    Sound config accepted (store.pruneExpired now) ∧ Shrinks store (store.pruneExpired now) := by
  apply foldl_entries_rule MetricStore.series (pruneSeries now)
    (P := fun store' => Sound config accepted store' ∧ Shrinks store store')
  · intro s e code hcode
    rw [pruneSeries, keepSamples_find?, if_neg hcode.symm]
  · intro s e hfind hs
    have hkept := hs.1.keepSamples hfind (takeWhile_append_dropWhile (p := s.expired now)).symm
    exact ⟨hkept.1, hs.2.trans hkept.2.1⟩
  · exact ⟨h, Shrinks.refl store⟩

theorem Sound.evictOldestSeries :
    Sound config accepted store.evictOldestSeries ∧ Shrinks store store.evictOldestSeries ∧
      (0 < store.series.size → store.evictOldestSeries.series.size < store.series.size) := by
  rw [MetricStore.evictOldestSeries]
  cases hentries : store.series.entries with
  | nil =>
    refine ⟨h, Shrinks.refl store, fun hpos => ?_⟩
    rw [OrderedMap.size, hentries] at hpos
    exact absurd hpos (Nat.lt_irrefl 0)
  | cons first rest =>
    have hmem : minBy (fun e : List ℕ × Series => e.2.lastUpdated) first rest ∈
        store.series.entries := by
      rw [hentries]
      exact minBy_mem
    have hfind := mem_entries.mp hmem
    -- a series is evicted as one whose samples have all been popped
    obtain ⟨hsound, hshrinks, -⟩ := h.keepSamples hfind (append_nil _).symm
    refine ⟨{ hsound with }, ⟨hshrinks.series, hshrinks.count⟩, fun _ => ?_⟩
    exact size_erase_lt hfind

theorem Sound.evictOldestSample (hsome : 0 < store.sampleCount) :
    Sound config accepted store.evictOldestSample ∧ Shrinks store store.evictOldestSample ∧
      store.evictOldestSample.sampleCount + 1 = store.sampleCount := by
  rw [MetricStore.evictOldestSample]
  cases hentries : store.series.entries.filter (fun e => e.2.samples ≠ []) with
  | nil =>
    have hnone : store.series.entries = [] := by
      rw [eq_nil_iff_forall_not_mem]
      intro e he
      rw [filter_eq_nil_iff] at hentries
      exact hentries e he (decide_eq_true (h.series e.1 e.2 (mem_entries.mp he)).nonempty)
    rw [h.counted, total, hnone] at hsome
    exact absurd hsome (Nat.lt_irrefl 0)
  | cons first rest =>
    have hmem : minBy (fun e : List ℕ × Series => e.2.front) first rest ∈
        store.series.entries.filter (fun e => e.2.samples ≠ []) := by
      rw [hentries]
      exact minBy_mem
    dsimp only
    generalize minBy (fun e : List ℕ × Series => e.2.front) first rest = oldest at hmem ⊢
    have hfind := mem_entries.mp (mem_filter.mp hmem).1
    obtain ⟨head, tail, hsamples⟩ :=
      exists_cons_of_ne_nil (h.series _ _ hfind).nonempty
    have hsplit : oldest.2.samples = [head] ++ oldest.2.samples.tail := by
      rw [hsamples]
      rfl
    exact h.keepSamples hfind hsplit

theorem Sound.evictExcess (hexcess : store.sampleCount ≤ config.maxTotalSamples + 1) :
    ∃ store', (∀ fuel, store.evictExcess (fuel + 1) = some store') ∧
      Sound config accepted store' ∧ Shrinks store store' ∧
      store'.sampleCount ≤ config.maxTotalSamples := by
  by_cases hfew : store.sampleCount ≤ config.maxTotalSamples
  · refine ⟨store, fun fuel => ?_, h, Shrinks.refl store, hfew⟩
    rw [MetricStore.evictExcess, h.configured, if_pos hfew]
  · obtain ⟨hsound, hshrinks, hcount⟩ := h.evictOldestSample (by omega)
    have hfew' : store.evictOldestSample.sampleCount ≤ config.maxTotalSamples := by omega
    refine ⟨store.evictOldestSample, fun fuel => ?_, hsound, hshrinks, hfew'⟩
    rw [MetricStore.evictExcess, h.configured, if_neg hfew]
    cases fuel with
    | zero | succ fuel => rw [MetricStore.evictExcess, hsound.configured, if_pos hfew']
end

def target (store : MetricStore) (key : MetricKey) : Series :=
  (store.series.find? key.code).getD (.fresh key)

theorem target_size (store : MetricStore) (key : MetricKey) :
    (store.series.find? key.code).elim 0 size = (store.target key).size := by
  rw [target]
  cases store.series.find? key.code with
  | none | some series => rfl

variable {sample : MetricSample}
theorem ordered_append (h : series.samples.Pairwise (·.monotonicAt ≤ ·.monotonicAt))
    (hontime : late series sample = false) :
    (series.append sample).samples.Pairwise (·.monotonicAt ≤ ·.monotonicAt) := by
  rw [append, pairwise_append]
  refine ⟨h, pairwise_singleton _ _, fun a ha => forall_mem_singleton.mpr ?_⟩
  rw [late, List.getLast?_eq_some_getLast (ne_nil_of_mem ha)] at hontime
  have hlast := h.rel_getLast_of_rel_getLast_getLast ha le_rfl
  exact hlast.trans (not_lt.mp (of_decide_eq_false hontime))

theorem Sound.append (h : Sound config accepted store)
    (hontime : late (store.target sample.key) sample = false) :
    SeriesSound sample.key.code ((store.target sample.key).append sample) := by
  have hkeyed : (store.target sample.key).key.code = sample.key.code ∧
      ∀ s ∈ (store.target sample.key).samples, s.key.code = sample.key.code := by
    rw [target]
    cases hfind : store.series.find? sample.key.code with
    | none => exact ⟨rfl, forall_mem_nil _⟩
    | some series => exact (h.series _ series hfind).keyed
  have hordered : (store.target sample.key).samples.Pairwise (·.monotonicAt ≤ ·.monotonicAt) := by
    rw [target]
    cases hfind : store.series.find? sample.key.code with
    | none => exact List.Pairwise.nil
    | some series => exact (h.series _ series hfind).ordered
  refine ⟨append_ne_nil_of_right_ne_nil _ (cons_ne_nil _ _), ?_, ⟨hkeyed.1, ?_⟩, ?_⟩
  · exact ordered_append hordered hontime
  · exact forall_mem_append.mpr ⟨hkeyed.2, forall_mem_singleton.mpr rfl⟩
  · change ((store.target sample.key).samples ++ [sample]).getLast?.map _ = _
    rw [List.getLast?_append_of_ne_nil _ (cons_ne_nil _ _)]
    rfl

theorem Sound.push (h : Sound config accepted store)
    (hontime : late (store.target sample.key) sample = false) :
    Sound config (accepted + 1)
      (store.push sample.key.code ((store.target sample.key).append sample)) := by
  refine ⟨h.configured, fun code series hfind => ?_, ?_, ?_⟩
  · rw [MetricStore.push, find?_insert] at hfind
    split_ifs at hfind with hcode
    · rw [← hcode, ← some.inj hfind]
      exact h.append hontime
    · exact h.series code series hfind
  · have htotal := total_insert size store.series sample.key.code
      ((store.target sample.key).append sample)
    have hsize : ((store.target sample.key).append sample).size =
        (store.target sample.key).size + 1 := by
      rw [Series.size, Series.append, length_append]
      rfl
    rw [target_size, hsize, ← h.counted] at htotal
    change store.sampleCount + 1 = (store.series.insert _ _).total Series.size
    omega
  · have hbalanced := h.balanced
    change accepted + 1 = store.sampleCount + 1 + store.sampleEvictions
    omega

/-- A located series is that of a valid store which differs at most by an empty series at the key,
and has room for one if it has none. -/
structure Located (config : AcceptedMetricStoreConfig) (accepted : ℕ) (key : MetricKey)
    (located : MetricStore × Series) (base : MetricStore) : Prop where
  valid : Valid config accepted base
  target : located.2 = base.target key
  pushed : ∀ series, located.1.push key.code series = base.push key.code series
  room : base.series.find? key.code = none → base.series.size < config.maxSeries
  same : located.2.samples ≠ [] → located.1 = base

theorem Valid.locate (h : Valid config accepted store) (key : MetricKey) :
    ∃ base, Located config accepted key (store.locate key) base := by
  rw [MetricStore.locate]
  cases hfind : store.series.find? key.code with
  | some _ =>
    refine ⟨store, h, ?_, fun _ => rfl, fun hnone => ?_, fun _ => rfl⟩
    · rw [MetricStore.target, hfind]
      rfl
    · exact absurd (hfind.symm.trans hnone) nofun
  | none =>
    -- an eviction leaves the key without a series
    have hbase : ∃ base, (if store.series.size = store.config.maxSeries then
          store.evictOldestSeries else store) = base ∧ Valid config accepted base ∧
        base.series.find? key.code = none ∧ base.series.size < config.maxSeries := by
      split_ifs with hfull
      · obtain ⟨hsound, hshrinks, hroom⟩ := h.toSound.evictOldestSeries
        have hpositive := (config_positive config).1
        rw [h.configured] at hfull
        refine ⟨_, rfl, h.shrink hsound hshrinks, ?_, hfull ▸ hroom (hfull ▸ hpositive)⟩
        cases hfind' : store.evictOldestSeries.series.find? key.code with
        | none => rfl
        | some series =>
          obtain ⟨_, hold, -⟩ := hshrinks.series key.code series hfind'
          exact absurd (hfind.symm.trans hold) nofun
      · rw [h.configured] at hfull
        exact ⟨store, rfl, h, hfind, lt_of_le_of_ne h.fewSeries hfull⟩
    obtain ⟨base, hequal, hvalid, hnone, hroom⟩ := hbase
    rw [hequal]
    refine ⟨base, hvalid, ?_, fun series => ?_, fun _ => hroom, absurd rfl⟩
    · rw [target, hnone]
      rfl
    · rw [push, insert_insert]
      rfl

theorem late_nonempty (h : late series sample) :
    series.samples ≠ [] := by
  intro hnil
  rw [late, hnil] at h
  cases h

theorem Valid.bound (h : Valid config accepted store)
    (hroom : store.series.find? sample.key.code = none → store.series.size < config.maxSeries)
    (hontime : late (store.target sample.key) sample = false) {pushed : MetricStore}
    (hpushed : store.push sample.key.code ((store.target sample.key).append sample) = pushed)
    {series : Series} (hseries : (store.target sample.key).append sample = series) :
    Sound config (accepted + 1) (pushed.bound sample.key.code series) ∧
      (pushed.bound sample.key.code series).series.size ≤ config.maxSeries ∧
      (∀ code s, (pushed.bound sample.key.code series).series.find? code = some s →
        s.samples.length ≤ config.maxSamplesPerSeries) ∧
      (pushed.bound sample.key.code series).sampleCount ≤ config.maxTotalSamples + 1 := by
  have hsound := h.toSound.push hontime
  subst hseries
  rw [hpushed] at hsound
  have hfind : ∀ code, pushed.series.find? code = if sample.key.code = code then
      some ((store.target sample.key).append sample) else store.series.find? code := by
    intro code
    rw [← hpushed, push, find?_insert]
    split_ifs <;> rfl
  have hsize : pushed.series.size ≤ config.maxSeries := by
    rw [← hpushed]
    exact size_insert_le h.fewSeries hroom
  have hcount : pushed.sampleCount ≤ config.maxTotalSamples + 1 := by
    rw [← hpushed]
    exact Nat.succ_le_succ h.fewSamples
  rw [MetricStore.bound, hsound.configured]
  split_ifs with hshort
  · refine ⟨hsound, hsize, fun code s hs => ?_, hcount⟩
    rw [hfind] at hs
    split_ifs at hs
    · cases hs
      exact hshort
    · exact h.short code s hs
  · obtain ⟨hkept, hshrinks, -⟩ := hsound.keepSamples ((hfind _).trans (if_pos rfl))
      (take_append_drop (((store.target sample.key).append sample).samples.length -
        config.maxSamplesPerSeries) _).symm
    refine ⟨hkept, hshrinks.size.trans hsize, fun code s hs => ?_, hshrinks.count.trans hcount⟩
    rw [keepSamples_find?] at hs
    split_ifs at hs with hcode
    · cases hs
      rw [length_drop]
      omega
    · rw [hfind, if_neg hcode] at hs
      exact h.short code s hs

section
variable (h : Valid config accepted store)
include h
theorem Valid.reject : Valid config accepted store.reject := { h with }

theorem Valid.returned (now : MonotonicTime) (samples : List MetricSample) :
    Valid config accepted (store.returned now samples).1 :=
  { h with }

theorem Valid.insert (sample : MetricSample) :
    ∃ result : MetricStore × Bool, (∀ fuel, insert (fuel + 1) store sample = some result) ∧
      Valid config (if result.2 then accepted + 1 else accepted) result.1 := by
  by_cases hbad : malformed sample
  · refine ⟨(store.reject, false), fun fuel => ?_, h.reject⟩
    rw [MetricStore.insert, if_pos hbad]
  · obtain ⟨hpruned, hshrinks⟩ := h.toSound.pruneExpired sample.monotonicAt
    obtain ⟨_, hbase⟩ := (h.shrink hpruned hshrinks).locate sample.key
    simp only [MetricStore.insert, if_neg hbad, hbase.pushed]
    cases hlate : late ((store.pruneExpired sample.monotonicAt).locate sample.key).2 sample with
    | true =>
      refine ⟨_, fun fuel => rfl, ?_⟩
      rw [hbase.same (late_nonempty hlate)]
      exact hbase.valid.reject
    | false =>
      rw [hbase.target] at hlate ⊢
      obtain ⟨hsound, hsize, hshort, hcount⟩ := hbase.valid.bound hbase.room hlate rfl rfl
      obtain ⟨final, hfinal, hvalid, hshrunk, hfew⟩ := hsound.evictExcess hcount
      refine ⟨(final, true), fun fuel => ?_, hvalid, hshrunk.size.trans hsize,
        fun code series hfind => ?_, hfew⟩
      · simp [hfinal fuel]
      · obtain ⟨series', hfind', hle⟩ := hshrunk.series code series hfind
        exact hle.trans (hshort code series' hfind')

section
variable (now : MonotonicTime)
theorem Valid.latest (key : MetricKey) :
    Valid config accepted (store.latest now key).1 := by
  rw [MetricStore.latest]
  split
  · exact h
  · split_ifs
    · exact h
    · exact h.returned ..

theorem Valid.window (key : MetricKey) (start finish : MonotonicTime) (limit : ℕ) :
    Valid config accepted (store.window now key start finish limit).1 := by
  rw [MetricStore.window]
  by_cases hbackwards : finish < start
  · rw [if_pos hbackwards]
    exact h
  · rw [if_neg hbackwards]
    cases store.series.find? key.code with
    | none => exact h
    | some _ => exact h.returned ..

theorem Valid.snapshot (netns : Option NetnsId) :
    Valid config accepted (store.snapshot now netns).1 := by
  have hturn : ∀ result entry, Valid config accepted result.1 →
      Valid config accepted (snapshotSeries now netns result entry).1 := by
    intro result entry hresult
    rw [snapshotSeries]
    split_ifs
    · exact hresult
    · exact hresult.returned ..
  exact Runs.run_invariant
    (P := fun result : MetricStore × List MetricSeriesSnapshot => Valid config accepted result.1)
    hturn h store.series.entries
end
end

theorem Valid.perform {t : Tally} (h : Valid config t.accepted t.store) (op : Op) :
    ∃ t', (∀ fuel, perform (fuel + 1) t op = some t') ∧ Valid config t'.accepted t'.store := by
  cases op with
  | insert sample =>
    obtain ⟨result, hresult, hvalid⟩ := h.insert sample
    refine ⟨⟨result.1, if result.2 then t.accepted + 1 else t.accepted⟩, fun fuel => ?_, hvalid⟩
    rw [MetricStore.perform, hresult fuel]
    rfl
  | latest now key => exact ⟨_, fun _ => rfl, h.latest now key⟩
  | window now key start finish limit => exact ⟨_, fun _ => rfl, h.window now key start finish limit⟩
  | snapshot now netns => exact ⟨_, fun _ => rfl, h.snapshot now netns⟩
  | telemetry => exact ⟨t, fun _ => rfl, h⟩

theorem Valid.performAll {t : Tally} (h : Valid config t.accepted t.store) (ops : List Op) :
    ∃ t', (∀ fuel, performAll (fuel + 1) t ops = some t') ∧ Valid config t'.accepted t'.store := by
  induction ops generalizing t with
  | nil => exact ⟨t, fun _ => rfl, h⟩
  | cons op _ ih =>
    obtain ⟨_, hnext, hvalid⟩ := h.perform op
    obtain ⟨final, hfinal, hvalid'⟩ := ih hvalid
    refine ⟨final, fun fuel => ?_, hvalid'⟩
    rw [MetricStore.performAll, foldlM_cons, hnext fuel]
    exact hfinal ..

/-- Every sequence of calls on a new store returns, and leaves the store valid. -/
theorem store_valid (config : AcceptedMetricStoreConfig) (ops : List Op) :
    ∃ t, (∀ fuel, performAll (fuel + 1) ⟨initial config, 0⟩ ops = some t) ∧
      Valid config t.accepted t.store := by
  have hinitial : Valid config (Tally.mk (initial config) 0).accepted
      (Tally.mk (initial config) 0).store := valid_initial config
  exact hinitial.performAll ops

section
variable (now : MonotonicTime)
theorem withStaleness_same (sample : MetricSample) :
    (store.withStaleness now sample).key = sample.key ∧
      (store.withStaleness now sample).monotonicAt = sample.monotonicAt := by
  rw [withStaleness]
  split_ifs <;> exact ⟨rfl, rfl⟩

theorem latest_of_mem {key : MetricKey} (hseries : SeriesSound key.code series)
    (hfind : store.series.find? key.code = some series) (hsample : sample ∈ series.samples)
    (hretained : store.expired now sample = false) :
    ∃ last ∈ (store.latest now key).2, sample.monotonicAt ≤ last.monotonicAt := by
  have hlast : sample.monotonicAt ≤ (series.samples.getLast hseries.nonempty).monotonicAt :=
    hseries.ordered.rel_getLast_of_rel_getLast_getLast hsample le_rfl
  have hkept : store.expired now (series.samples.getLast hseries.nonempty) = false := by
    rw [expired, decide_eq_false_iff_not, not_lt] at hretained ⊢
    exact (Int.sub_le_sub_left hlast now).trans hretained
  refine ⟨store.withStaleness now (series.samples.getLast hseries.nonempty), ?_,
    hlast.trans_eq (withStaleness_same now _).2.symm⟩
  simp [latest, hfind, List.getLast?_eq_some_getLast hseries.nonempty, hkept, returned]
end

/-- After every sequence of calls a window holds samples of its key in the order of their times,
and `latest` returns one that is no older than any of them. -/
theorem reads_agree (config : AcceptedMetricStoreConfig) (ops : List Op) :
    ∃ t, (∀ fuel, performAll (fuel + 1) ⟨initial config, 0⟩ ops = some t) ∧
      ∀ now key start finish limit,
        (t.store.window now key start finish limit).2.Pairwise (·.monotonicAt ≤ ·.monotonicAt) ∧
        ∀ sample ∈ (t.store.window now key start finish limit).2, sample.key.code = key.code ∧
          ∃ last ∈ (t.store.latest now key).2, sample.monotonicAt ≤ last.monotonicAt := by
  obtain ⟨t, hrun, hvalid⟩ :=
    Valid.performAll (t := ⟨initial config, 0⟩) (valid_initial config) ops
  refine ⟨t, hrun, fun now key start finish limit => ?_⟩
  rw [window]
  split
  · exact ⟨.nil, forall_mem_nil _⟩
  dsimp only
  split
  · exact ⟨.nil, forall_mem_nil _⟩
  rename_i series hfind
  have hseries := hvalid.series _ _ hfind
  refine ⟨?_, List.forall_mem_map.mpr fun sample hsample => ?_⟩
  · rw [returned, pairwise_map]
    simp only [withStaleness_same]
    exact (hseries.ordered.filter _).sublist (take_sublist _ _)
  · obtain ⟨hmem, hwithin⟩ := List.mem_filter.mp (mem_of_mem_take hsample)
    rw [Bool.and_eq_true, Bool.not_eq_true'] at hwithin
    obtain ⟨hkey, htime⟩ := @withStaleness_same t.store now sample
    rw [hkey, htime]
    exact ⟨hseries.keyed.2 sample hmem, latest_of_mem now hseries hfind hmem hwithin.2⟩
end MetricStore
end WeakNet
