import Mathlib.Data.List.Lex
import Mathlib.Data.Finset.Card
import Mathlib.Data.List.Pairwise

/-! A map is the list of its entries in strictly increasing key order, which is a field of it.
`find?` determines the map, and each operation is specified by what it does to `find?` and to the
finite set of keys. `indexBy` rebuilds a secondary index by one pass. -/

namespace WeakNet.Foundation
open List

structure OrderedMap (κ ν : Type*) [LinearOrder κ] where
  entries : List (κ × ν)
  sorted : entries.Pairwise (fun a b => a.1 < b.1)

namespace OrderedMap
variable {κ ν ι : Type*} [LinearOrder κ] [LinearOrder ι]
variable {m : OrderedMap κ ν} {k : κ} {l : List (κ × ν)}
theorem eq_of_entries {m' : OrderedMap κ ν} (h : m.entries = m'.entries) : m = m' := by
  cases m
  cases m'
  simp_all

instance [DecidableEq ν] : DecidableEq (OrderedMap κ ν) := fun m m' =>
  decidable_of_iff (m.entries = m'.entries) ⟨eq_of_entries, fun h => h ▸ rfl⟩

def lookup (k : κ) : List (κ × ν) → Option ν
  | [] => none
  | e :: es => if e.1 = k then some e.2 else lookup k es

def insertEntry (k : κ) (v : ν) : List (κ × ν) → List (κ × ν)
  | [] => [(k, v)]
  | e :: es =>
    if k < e.1 then (k, v) :: e :: es
    else if e.1 = k then (k, v) :: es
    else e :: insertEntry k v es

theorem mem_insertEntry {v : ν} {e : κ × ν} (he : e ∈ insertEntry k v l) : e = (k, v) ∨ e ∈ l := by
  induction l with
  | nil => simpa [insertEntry] using he
  | cons _ _ ih =>
    simp only [insertEntry] at he
    split_ifs at he with hlt heq
    · simpa using he
    · rcases mem_cons.mp he with h | h
      · exact .inl h
      · exact .inr (mem_cons_of_mem _ h)
    · rcases mem_cons.mp he with h | h
      · exact .inr (h ▸ mem_cons_self)
      · exact (ih h).imp_right (mem_cons_of_mem _)

theorem insertEntry_sorted (k : κ) (v : ν) (hl : l.Pairwise (fun a b => a.1 < b.1)) :
    (insertEntry k v l).Pairwise (fun a b => a.1 < b.1) := by
  induction l with
  | nil => simp [insertEntry]
  | cons _ _ ih =>
    obtain ⟨ha, hl⟩ := pairwise_cons.mp hl
    simp only [insertEntry]
    split_ifs with hlt heq
    · refine pairwise_cons.mpr ⟨fun b hb => ?_, pairwise_cons.mpr ⟨ha, hl⟩⟩
      rcases mem_cons.mp hb with h | h
      · exact h ▸ hlt
      · exact hlt.trans (ha b h)
    · exact pairwise_cons.mpr ⟨fun b hb => heq ▸ ha b hb, hl⟩
    · refine pairwise_cons.mpr ⟨fun b hb => ?_, ih hl⟩
      rcases mem_insertEntry hb with h | h
      · exact h ▸ lt_of_le_of_ne (not_lt.mp hlt) heq
      · exact ha b h

theorem lookup_insertEntry (k j : κ) (v : ν) (l : List (κ × ν)) :
    lookup j (insertEntry k v l) = if k = j then some v else lookup j l := by
  induction l with
  | nil => simp [insertEntry, lookup]
  | cons _ _ ih =>
    by_cases hkj : k = j
    · subst hkj
      simp only [insertEntry]
      split_ifs with hlt heq
      · simp [lookup]
      · simp [lookup]
      · rw [lookup, if_neg heq, ih, if_pos rfl]
    · simp only [insertEntry, if_neg hkj]
      split_ifs with hlt heq
      · simp [lookup, hkj]
      · simp [lookup, heq, hkj]
      · rw [lookup, lookup, ih, if_neg hkj]

theorem lookup_eq_some_iff (hl : l.Pairwise (fun a b => a.1 < b.1)) {v : ν} :
    lookup k l = some v ↔ (k, v) ∈ l := by
  induction l with
  | nil => simp [lookup]
  | cons a _ ih =>
    obtain ⟨ha, hl⟩ := pairwise_cons.mp hl
    by_cases hk : a.1 = k
    · subst hk
      simp only [lookup, ↓reduceIte, Option.some.injEq, mem_cons]
      refine ⟨fun h => .inl (congrArg (Prod.mk a.1) h.symm), fun h => ?_⟩
      rcases h with hhead | htail
      · exact (congrArg Prod.snd hhead).symm
      · exact absurd (ha _ htail) (lt_irrefl _)
    · rw [lookup, if_neg hk, ih hl, mem_cons]
      exact ⟨.inr, fun h => h.resolve_left (fun he => hk (he ▸ rfl))⟩

theorem lookup_mem {w : ν} (h : lookup k l = some w) : (k, w) ∈ l := by
  induction l with
  | nil => cases h
  | cons e _ ih =>
    rw [lookup] at h
    split_ifs at h with hk
    · rw [Option.some.injEq] at h
      rw [← hk, ← h]
      exact mem_cons_self
    · exact mem_cons_of_mem _ (ih h)

theorem lookup_eq_none_of_lt (h : ∀ e ∈ l, k < e.1) : lookup k l = none := by
  cases hfound : lookup k l with
  | none => rfl
  | some w => exact absurd rfl (h (k, w) (lookup_mem hfound)).ne

theorem filter_key_eq_lookup (hl : l.Pairwise (fun a b => a.1 < b.1)) (k : κ) :
    l.filter (fun e => e.1 = k) = ((lookup k l).map (Prod.mk k)).toList := by
  induction l with
  | nil => rfl
  | cons a l ih =>
    obtain ⟨ha, hl⟩ := pairwise_cons.mp hl
    by_cases hk : a.1 = k
    · have hrest : l.filter (fun e => e.1 = k) = [] :=
        filter_eq_nil_iff.mpr fun e he => by simp [← hk, (ha e he).ne']
      rw [filter_cons_of_pos (by simp [hk]), hrest, lookup, if_pos hk]
      subst hk
      rfl
    · rw [filter_cons_of_neg (by simp [hk]), ih hl, lookup, if_neg hk]

theorem foldl_lookup {β : Type*} (k : κ) (f : ν → β) (hl : l.Pairwise fun a b => a.1 < b.1)
    (b : β) :
    l.foldl (fun result e => if e.1 = k then f e.2 else result) b =
      (lookup k l).elim b f := by
  induction l generalizing b with
  | nil => rfl
  | cons a l ih =>
    obtain ⟨ha, hl⟩ := pairwise_cons.mp hl
    rw [foldl_cons, ih hl, lookup]
    by_cases hk : a.1 = k
    · have hrest : lookup k l = none := lookup_eq_none_of_lt (hk ▸ ha)
      rw [if_pos hk, if_pos hk, hrest]
      rfl
    · rw [if_neg hk, if_neg hk]

theorem lookup_filter_key (p : κ → Bool) (k : κ) (l : List (κ × ν)) :
    lookup k (l.filter (fun e => p e.1)) = if p k then lookup k l else none := by
  induction l with
  | nil => simp [lookup]
  | cons a _ ih =>
    by_cases hk : a.1 = k
    · subst hk
      by_cases hp : p a.1
      · simp [hp, lookup]
      · simp [hp, ih]
    · by_cases hp : p a.1
      all_goals simp [hp, lookup, hk, ih]

def empty : OrderedMap κ ν := ⟨[], List.Pairwise.nil⟩

def find? (m : OrderedMap κ ν) (k : κ) : Option ν := lookup k m.entries

def contains (m : OrderedMap κ ν) (k : κ) : Bool := (m.find? k).isSome

def size (m : OrderedMap κ ν) : ℕ := m.entries.length

def insert (m : OrderedMap κ ν) (k : κ) (v : ν) : OrderedMap κ ν :=
  ⟨insertEntry k v m.entries, insertEntry_sorted k v m.sorted⟩

def filter (m : OrderedMap κ ν) (p : κ × ν → Bool) : OrderedMap κ ν :=
  ⟨m.entries.filter p, m.sorted.sublist List.filter_sublist⟩

def erase (m : OrderedMap κ ν) (k : κ) : OrderedMap κ ν := m.filter (fun e => e.1 ≠ k)

def keys (m : OrderedMap κ ν) : Finset κ := (m.entries.map Prod.fst).toFinset

@[simp] theorem find?_empty (k : κ) : (empty : OrderedMap κ ν).find? k = none := rfl

@[simp] theorem size_empty : (empty : OrderedMap κ ν).size = 0 := rfl

theorem mem_entries {v : ν} : (k, v) ∈ m.entries ↔ m.find? k = some v :=
  (lookup_eq_some_iff m.sorted).symm

theorem nodup_fst (m : OrderedMap κ ν) : (m.entries.map Prod.fst).Nodup :=
  pairwise_map.mpr (m.sorted.imp fun h => h.ne)

theorem nodup_entries (m : OrderedMap κ ν) : m.entries.Nodup := m.nodup_fst.of_map _

theorem ext_find? {m m' : OrderedMap κ ν} (h : ∀ k, m.find? k = m'.find? k) : m = m' := by
  apply eq_of_entries
  have hmem : ∀ e : κ × ν, e ∈ m.entries ↔ e ∈ m'.entries := fun e => by
    rw [mem_entries, mem_entries, h]
  have hperm := (perm_ext_iff_of_nodup m.nodup_entries m'.nodup_entries).mpr hmem
  exact hperm.eq_of_pairwise (fun a b _ _ hab hba => absurd (hab.trans hba) (lt_irrefl _))
    m.sorted m'.sorted

@[simp] theorem find?_insert (m : OrderedMap κ ν) (k j : κ) (v : ν) :
    (m.insert k v).find? j = if k = j then some v else m.find? j :=
  lookup_insertEntry k j v m.entries

@[simp] theorem find?_erase (m : OrderedMap κ ν) (k j : κ) :
    (m.erase k).find? j = if j = k then none else m.find? j := by
  have h := lookup_filter_key (fun x => decide (x ≠ k)) j m.entries
  by_cases hj : j = k
  all_goals simpa [find?, erase, filter, hj] using h

theorem find?_filter {m : OrderedMap κ ν} {p : κ × ν → Bool} {k : κ} {v : ν} :
    (m.filter p).find? k = some v ↔ m.find? k = some v ∧ p (k, v) := by
  rw [← mem_entries, ← mem_entries]
  simp [filter]

theorem contains_iff :
    m.contains k ↔ ∃ v, m.find? k = some v := by
  simp [contains, Option.isSome_iff_exists]

@[simp] theorem mem_keys :
    k ∈ m.keys ↔ m.contains k := by
  rw [contains_iff]
  simp only [keys, mem_toFinset, mem_map, Prod.exists, exists_and_right, exists_eq_right]
  exact exists_congr fun v => mem_entries

theorem mem_keys_of_find? {m : OrderedMap κ ν} {k : κ} {v : ν} (h : m.find? k = some v) :
    k ∈ m.keys := mem_keys.mpr (contains_iff.mpr ⟨v, h⟩)

theorem notMem_keys (h : m.find? k = none) : k ∉ m.keys := by
  rw [mem_keys, contains, h]
  exact nofun

section
variable (m : OrderedMap κ ν)
theorem card_keys : m.keys.card = m.size := by
  rw [keys, toFinset_card_of_nodup m.nodup_fst, length_map, size]

theorem keys_insert (k : κ) (v : ν) :
    (m.insert k v).keys = Insert.insert k m.keys := by
  ext j
  simp only [mem_keys, Finset.mem_insert, contains, find?_insert]
  by_cases h : k = j
  · simp [h]
  · simp [h, Ne.symm h]

theorem keys_erase (k : κ) : (m.erase k).keys = m.keys.erase k := by
  ext j
  simp only [mem_keys, Finset.mem_erase, contains, find?_erase]
  by_cases h : j = k
  all_goals simp [h]
end

theorem find?_foldl_erase (l : List (κ × ν)) (m : OrderedMap κ ν) (k : κ) :
    (l.foldl (fun acc e => acc.erase e.1) m).find? k =
      if k ∈ l.map Prod.fst then none else m.find? k := by
  induction l generalizing m with
  | nil => simp
  | cons a l ih =>
    rw [foldl_cons, ih, find?_erase, map_cons]
    by_cases hl : k ∈ l.map Prod.fst
    · rw [if_pos hl, if_pos (mem_cons_of_mem _ hl)]
    · by_cases ha : k = a.1
      · simp [ha]
      · rw [if_neg hl, if_neg ha, if_neg (by simp only [mem_cons, ha, hl, or_self, not_false_eq_true])]

theorem find?_foldl_insert {l : List (κ × ν)} (hl : l.Pairwise (fun a b => a.1 < b.1))
    (m : OrderedMap κ ν) (k : κ) :
    (l.foldl (fun acc e => acc.insert e.1 e.2) m).find? k = (lookup k l).or (m.find? k) := by
  induction l generalizing m with
  | nil => simp [lookup]
  | cons a l ih =>
    obtain ⟨ha, hrest⟩ := pairwise_cons.mp hl
    rw [foldl_cons, ih hrest, find?_insert, lookup]
    by_cases hk : a.1 = k
    · have hnone : lookup k l = none := lookup_eq_none_of_lt (hk ▸ ha)
      simp [hk, hnone]
    · simp [hk]

def indexStep (f : κ × ν → Option ι) (acc : OrderedMap ι κ) (e : κ × ν) : OrderedMap ι κ :=
  match f e with
  | some i => acc.insert i e.1
  | none => acc

/-- The index of a map under a partial attribute, rebuilt entry by entry; a later
entry with the same attribute would overwrite an earlier one. -/
def indexBy (f : κ × ν → Option ι) (m : OrderedMap κ ν) : OrderedMap ι κ :=
  m.entries.foldl (indexStep f) empty

omit [LinearOrder κ] in
theorem foldl_indexStep {f : κ × ν → Option ι}
    (hinj : ∀ e ∈ l, ∀ e' ∈ l, ∀ i, f e = some i → f e' = some i → e.1 = e'.1)
    (acc : OrderedMap ι κ) (i : ι) (k : κ) :
    (l.foldl (indexStep f) acc).find? i = some k ↔
      (∃ e ∈ l, f e = some i ∧ e.1 = k) ∨ ((∀ e ∈ l, f e ≠ some i) ∧ acc.find? i = some k) := by
  induction l generalizing acc with
  | nil => simp
  | cons a l ih =>
    have hrest := ih (fun e he e' he' => hinj e (.tail _ he) e' (.tail _ he')) (indexStep f acc a)
    rw [foldl_cons, hrest]
    by_cases ha : f a = some i
    · have hacc : (indexStep f acc a).find? i = some a.1 := by simp [indexStep, ha]
      have hcol : ∀ e ∈ l, f e = some i → e.1 = a.1 := fun e he hf =>
        hinj e (.tail _ he) a (.head _) i hf ha
      rw [hacc]
      refine ⟨fun h => ?_, fun h => ?_⟩
      · rcases h with ⟨e, he, hf, hk⟩ | ⟨-, hk⟩
        · exact .inl ⟨e, .tail _ he, hf, hk⟩
        · exact .inl ⟨a, .head _, ha, Option.some.inj hk⟩
      · rcases h with ⟨e, he, hf, hk⟩ | ⟨hno, -⟩
        · by_cases hl : ∃ e' ∈ l, f e' = some i
          · obtain ⟨e', he', hf'⟩ := hl
            refine .inl ⟨e', he', hf', ?_⟩
            rw [hcol e' he' hf', ← hk]
            exact hinj a (.head _) e he i ha hf
          · refine .inr ⟨fun e' he' hf' => hl ⟨e', he', hf'⟩, ?_⟩
            rw [← hk, hinj e he a (.head _) i hf ha]
        · exact absurd ha (hno a (.head _))
    · have hacc : (indexStep f acc a).find? i = acc.find? i := by
        cases hf : f a with
        | none => simp [indexStep, hf]
        | some j =>
          have hij : j ≠ i := fun h => ha (hf.trans (congrArg some h))
          simp [indexStep, hf, hij]
      rw [hacc]
      simp [ha]

/-- `idx` is exactly the index of `m` by the attribute `f`. -/
def Indexes (f : κ × ν → Option ι) (m : OrderedMap κ ν) (idx : OrderedMap ι κ) : Prop :=
  ∀ i k, idx.find? i = some k ↔ ∃ v, m.find? k = some v ∧ f (k, v) = some i

theorem indexBy_indexes {f : κ × ν → Option ι}
    (hinj : ∀ k v k' v' i, m.find? k = some v → m.find? k' = some v' → f (k, v) = some i → f (k',
      v') = some i → k = k') : Indexes f m (m.indexBy f) := by
  intro i k
  have h := foldl_indexStep (f := f) (l := m.entries)
    (fun e he e' he' j hf hf' =>
      hinj e.1 e.2 e'.1 e'.2 j (mem_entries.mp he) (mem_entries.mp he') hf hf') empty i k
  rw [indexBy, h]
  refine ⟨fun hfound => ?_, fun hfound => ?_⟩
  · rcases hfound with ⟨e, he, hf, rfl⟩ | ⟨-, hk⟩
    · exact ⟨e.2, mem_entries.mp he, hf⟩
    · simp at hk
  · obtain ⟨v, hv, hf⟩ := hfound
    exact .inl ⟨(k, v), mem_entries.mpr hv, hf, rfl⟩

section Indexes
variable {f : κ × ν → Option ι} {m : OrderedMap κ ν} {idx : OrderedMap ι κ}
  {k : κ} {v : ν}
theorem Indexes.empty : Indexes f (empty : OrderedMap κ ν) (OrderedMap.empty : OrderedMap ι κ) := by
  intro i k
  simp

section
variable (h : Indexes f m idx)
include h
theorem Indexes.separates {k k' : κ} {v v' : ν} {i : ι} (hk : m.find? k = some v)
    (hk' : m.find? k' = some v') (hf : f (k, v) = some i) (hf' : f (k', v') = some i) : k = k' := by
  have h1 := (h i k).mpr ⟨v, hk, hf⟩
  have h2 := (h i k').mpr ⟨v', hk', hf'⟩
  exact Option.some.inj (h1.symm.trans h2)

theorem Indexes.insert_other {j : ι} (hf : f (k, v) ≠ some j)
    (hold : ∀ v', m.find? k = some v' → f (k, v') ≠ some j) (k' : κ) :
    idx.find? j = some k' ↔ ∃ v', (m.insert k v).find? k' = some v' ∧ f (k', v') = some j := by
  rw [find?_insert, h j k']
  by_cases hk : k = k'
  · subst hk
    simp only [↓reduceIte, Option.some.injEq]
    refine ⟨fun hfound => ?_, fun hfound => ?_⟩
    · obtain ⟨v', hv', hf'⟩ := hfound
      exact absurd hf' (hold v' hv')
    · obtain ⟨v', rfl, hf'⟩ := hfound
      exact absurd hf' hf
  · rw [if_neg hk]

theorem Indexes.insert {i : ι} (hf : f (k, v) = some i)
    (hold : ∀ v', m.find? k = some v' → f (k, v') = some i)
    (hfree : ∀ k', idx.find? i = some k' → k' = k) :
    Indexes f (m.insert k v) (idx.insert i k) := by
  intro j k'
  rw [find?_insert]
  by_cases hj : i = j
  · subst hj
    simp only [find?_insert, ↓reduceIte, Option.some.injEq]
    refine ⟨fun hk => ?_, fun hfound => ?_⟩
    · subst hk
      exact ⟨v, by simp, hf⟩
    · obtain ⟨v', hv', hf'⟩ := hfound
      by_cases hk : k = k'
      · exact hk
      · rw [if_neg hk] at hv'
        exact (hfree k' ((h i k').mpr ⟨v', hv', hf'⟩)).symm
  · rw [if_neg hj]
    exact h.insert_other (by simp [hf, hj]) (fun v' hv' => by simp [hold v' hv', hj]) k'

theorem Indexes.insert_none (hf : f (k, v) = none)
    (hold : ∀ v', m.find? k = some v' → f (k, v') = none) :
    Indexes f (m.insert k v) idx := by
  intro j k'
  exact h.insert_other (by simp [hf]) (fun v' hv' => by simp [hold v' hv']) k'

theorem Indexes.erase (k : κ) :
    Indexes f (m.erase k) (idx.filter (fun e => e.2 ≠ k)) := by
  intro i k'
  rw [find?_filter, h i k', find?_erase]
  by_cases hk : k' = k
  all_goals simp [hk]
end
end Indexes
end OrderedMap
end WeakNet.Foundation
