import Mathlib.Algebra.GroupWithZero.Nat
import WeakNet.Foundation.OrderedMap

/-! `trim` bounds a map by erasing its smallest keys. `sweep` is a loop over the entries in key
order whose body may change the entry it visits, emplace further entries, which are visited too, and
push results. Its specification is for bodies that leave the keys they emplace alone. -/

namespace WeakNet.Foundation.OrderedMap
open List Option
variable {κ ν ω ε α : Type*} [LinearOrder κ]
def emplace (m : OrderedMap κ ν) (k : κ) (v : ν) : OrderedMap κ ν :=
  if m.contains k then m else m.insert k v

theorem find?_emplace (m : OrderedMap κ ν) (k j : κ) (v : ν) :
    (m.emplace k v).find? j = (m.find? j).or (if k = j then some v else none) := by
  rw [emplace]
  by_cases hk : m.contains k
  · rw [if_pos hk]
    obtain ⟨_, hw⟩ := contains_iff.mp hk
    by_cases hj : k = j
    · subst hj
      simp [hw]
    · simp [hj]
  · have hnone : m.find? k = none := by simpa [contains] using hk
    rw [if_neg hk, find?_insert]
    by_cases hj : k = j
    · subst hj
      simp [hnone]
    · simp [hj]

theorem find?_foldl_emplace (l : List (κ × ν)) (m : OrderedMap κ ν) (j : κ) :
    (l.foldl (fun acc e => acc.emplace e.1 e.2) m).find? j = (m.find? j).or (lookup j l) := by
  induction l generalizing m with
  | nil => simp [lookup]
  | cons e _ ih =>
    rw [foldl_cons, ih, find?_emplace, lookup, Option.or_assoc]
    by_cases hj : e.1 = j
    all_goals simp [hj]

theorem find?_foldl_update (key : α → κ) (f : Option ν → α → ν) (l : List α)
    (m : OrderedMap κ ν) (k : κ) :
    (l.foldl (fun acc a => acc.insert (key a) (f (acc.find? (key a)) a)) m).find? k =
      (l.filter (fun a => key a = k)).foldl (fun o a => some (f o a)) (m.find? k) := by
  induction l generalizing m with
  | nil => rfl
  | cons a _ ih =>
    rw [foldl_cons, ih, find?_insert]
    by_cases hk : key a = k
    · subst hk
      simp
    · simp [hk]

def mapValues (m : OrderedMap κ ν) (f : κ → ν → ν) : OrderedMap κ ν :=
  ⟨m.entries.map (fun e => (e.1, f e.1 e.2)), List.pairwise_map.mpr m.sorted⟩

@[simp] theorem find?_mapValues (m : OrderedMap κ ν) (f : κ → ν → ν) (k : κ) :
    (m.mapValues f).find? k = (m.find? k).map (f k) := by
  simp only [find?, mapValues]
  induction m.entries with
  | nil => rfl
  | cons e _ ih =>
    rw [map_cons, lookup, lookup]
    by_cases hk : e.1 = k
    · subst hk
      simp
    · simp [hk, ih]

variable {l : List (κ × ν)} {w : ν}
theorem foldl_entries_rule {σ : Type*} (map : σ → OrderedMap κ ν) (body : σ → κ × ν → σ)
    {P : σ → Prop}
    (hframe : ∀ s e k, k ≠ e.1 → (map (body s e)).find? k = (map s).find? k)
    (hturn : ∀ s e, (map s).find? e.1 = some e.2 → P s → P (body s e)) {s : σ} (hs : P s) :
    P ((map s).entries.foldl body s) := by
  have hrest : ∀ (l : List (κ × ν)) (s : σ), l.Pairwise (fun a b => a.1 < b.1) →
      (∀ e ∈ l, (map s).find? e.1 = some e.2) → P s → P (l.foldl body s) := by
    intro l
    induction l with
    | nil => exact fun s _ _ hs => hs
    | cons e _ ih =>
      intro s hsorted hheld hs
      obtain ⟨hfirst, hsorted⟩ := pairwise_cons.mp hsorted
      apply ih (body s e) hsorted
      · intro a ha
        rw [hframe s e a.1 (hfirst a ha).ne']
        exact hheld a (mem_cons_of_mem e ha)
      · exact hturn s e (hheld e mem_cons_self) hs
  exact hrest _ s (map s).sorted (fun e he => mem_entries.mp he) hs

theorem size_erase_lt {m : OrderedMap κ ν} {k : κ} {v : ν} (h : m.find? k = some v) :
    (m.erase k).size < m.size := by
  rw [← card_keys, ← card_keys, keys_erase]
  exact Finset.card_erase_lt_of_mem (mem_keys_of_find? h)

theorem size_erase_le (m : OrderedMap κ ν) (k : κ) : (m.erase k).size ≤ m.size := by
  rw [← card_keys, ← card_keys, keys_erase]
  exact Finset.card_erase_le

theorem size_insert_le {m : OrderedMap κ ν} {k : κ} {v : ν} {n : ℕ} (h : m.size ≤ n)
    (hroom : m.find? k = none → m.size < n) : (m.insert k v).size ≤ n := by
  cases hfind : m.find? k with
  | none =>
    rw [← card_keys, keys_insert, Finset.card_insert_of_notMem (notMem_keys hfind), card_keys]
    exact hroom hfind
  | some _ =>
    rw [← card_keys, keys_insert, Finset.insert_eq_self.mpr (mem_keys_of_find? hfind), card_keys]
    exact h

theorem insert_insert (m : OrderedMap κ ν) (k : κ) (v w : ν) :
    (m.insert k v).insert k w = m.insert k w := by
  apply ext_find?
  intro j
  rw [find?_insert, find?_insert, find?_insert]
  split_ifs <;> rfl

section Trim

/-- `while (size > n) erase(begin)`. -/
def trim (m : OrderedMap κ ν) (n : ℕ) : OrderedMap κ ν :=
  ⟨m.entries.drop (m.size - n), m.sorted.sublist (List.drop_sublist _ _)⟩

variable {m : OrderedMap κ ν} {n : ℕ} {k : κ} {v : ν}
theorem trim_of_le (h : m.size ≤ n) : m.trim n = m := by
  have hzero : m.size - n = 0 := by omega
  apply eq_of_entries
  change m.entries.drop (m.size - n) = m.entries
  rw [hzero, drop_zero]

theorem size_trim_le : (m.trim n).size ≤ n := by
  simp only [size, trim, length_drop]
  omega

theorem find?_of_trim (h : (m.trim n).find? k = some v) : m.find? k = some v := by
  rw [← mem_entries] at h ⊢
  exact mem_of_mem_drop h

theorem find?_trim_succ (h : m.size = n + 1) :
    (m.trim n).find? k = if ∀ j ∈ m.keys, k ≤ j then none else m.find? k := by
  obtain ⟨entries, hsorted⟩ := m
  cases entries with
  | nil => cases h
  | cons e rest =>
    have hone : (e :: rest).length - n = 1 := by
      have hlen : (e :: rest).length = n + 1 := h
      omega
    have hrest : (trim ⟨e :: rest, hsorted⟩ n).find? k = lookup k rest := by
      change lookup k ((e :: rest).drop ((e :: rest).length - n)) = lookup k rest
      rw [hone]
      rfl
    obtain ⟨hfirst, -⟩ := pairwise_cons.mp hsorted
    rw [hrest]
    by_cases hk : e.1 = k
    · subst hk
      rw [if_pos]
      · cases hlookup : lookup e.1 rest with
        | none => rfl
        | some v => exact absurd rfl (hfirst (e.1, v) (lookup_mem hlookup)).ne
      · intro j hj
        rw [keys, List.mem_toFinset, map_cons, mem_cons] at hj
        rcases hj with rfl | hj
        · exact le_rfl
        · obtain ⟨e', he', rfl⟩ := mem_map.mp hj
          exact (hfirst e' he').le
    · have hfind : find? ⟨e :: rest, hsorted⟩ k = lookup k rest := by
        rw [find?, lookup, if_neg hk]
      rw [hfind]
      split_ifs with hmin
      · -- a key at or below all of them is not in the rest
        cases hlookup : lookup k rest with
        | none => rfl
        | some v =>
          have hle : k ≤ e.1 := hmin e.1 (by simp [keys])
          exact absurd ((hfirst (k, v) (lookup_mem hlookup)).trans_le hle) (lt_irrefl _)
      · rfl
end Trim

section Total
def total (weight : ν → ℕ) (m : OrderedMap κ ν) : ℕ := (m.entries.map fun e => weight e.2).sum

variable {weight : ν → ℕ} {k : κ} {v : ν}
theorem sum_insertEntry (hl : l.Pairwise (fun a b => a.1 < b.1)) :
    ((insertEntry k v l).map fun e => weight e.2).sum + (lookup k l).elim 0 weight =
      (l.map fun e => weight e.2).sum + weight v := by
  induction l with
  | nil => simp [insertEntry, lookup]
  | cons _ l ih =>
    obtain ⟨hfirst, hrest⟩ := pairwise_cons.mp hl
    rw [insertEntry, lookup]
    split_ifs with hbefore hsame hsame
    · exact absurd hsame hbefore.ne'
    · have hnone : lookup k l = none := lookup_eq_none_of_lt fun a ha => hbefore.trans (hfirst a ha)
      simp only [hnone, map_cons, sum_cons, elim_none]
      omega
    · simp only [map_cons, sum_cons, elim_some]
      omega
    · have hlater := ih hrest
      simp only [map_cons, sum_cons]
      omega

theorem sum_filter_key (hl : l.Pairwise (fun a b => a.1 < b.1)) :
    ((l.filter fun e => e.1 ≠ k).map fun e => weight e.2).sum + (lookup k l).elim 0 weight =
      (l.map fun e => weight e.2).sum := by
  induction l with
  | nil => rfl
  | cons e l ih =>
    obtain ⟨hfirst, hrest⟩ := pairwise_cons.mp hl
    have hlater := ih hrest
    rw [lookup]
    by_cases hsame : e.1 = k
    · have hnone : lookup k l = none := lookup_eq_none_of_lt fun a ha => hsame ▸ hfirst a ha
      rw [hnone, elim_none] at hlater
      rw [filter_cons_of_neg (by simp [hsame]), if_pos hsame, elim_some, map_cons, sum_cons]
      omega
    · rw [filter_cons_of_pos (by simp [hsame]), if_neg hsame, map_cons, map_cons,
        sum_cons, sum_cons]
      omega

theorem total_insert (weight : ν → ℕ) (m : OrderedMap κ ν) (k : κ) (v : ν) :
    (m.insert k v).total weight + (m.find? k).elim 0 weight = m.total weight + weight v :=
  sum_insertEntry m.sorted

theorem total_erase (weight : ν → ℕ) (m : OrderedMap κ ν) (k : κ) :
    (m.erase k).total weight + (m.find? k).elim 0 weight = m.total weight :=
  sum_filter_key m.sorted
end Total

section Sweep
structure Turn (κ ν ω : Type*) where
  value : ν
  fresh : List (κ × ν)
  pushed : List ω

def visited : Option κ → κ → Prop
  | none, _ => False
  | some c, k => k ≤ c

instance (c : Option κ) (k : κ) : Decidable (visited c k) :=
  match c with
  | none => .isFalse id
  | some c => inferInstanceAs (Decidable (k ≤ c))

def after (m : OrderedMap κ ν) (c : Option κ) : Option (κ × ν) :=
  m.entries.find? (fun e => ¬visited c e.1)

def Turn.apply (t : Turn κ ν ω) (k : κ) (m : OrderedMap κ ν) : OrderedMap κ ν :=
  t.fresh.foldl (fun acc e => acc.emplace e.1 e.2) (m.insert k t.value)

def sweepFrom (body : κ → ν → Except ε (Turn κ ν ω)) :
    ℕ → Option κ → OrderedMap κ ν → List ω → Except ε (OrderedMap κ ν × List ω)
  | 0, _, m, out => .ok (m, out)
  | fuel + 1, c, m, out =>
    match m.after c with
    | none => .ok (m, out)
    | some (k, v) =>
      match body k v with
      | .error e => .error e
      | .ok t => sweepFrom body fuel (some k) (t.apply k m) (out ++ t.pushed)

def sweep (body : κ → ν → Except ε (Turn κ ν ω)) (m : OrderedMap κ ν) :
    Except ε (OrderedMap κ ν × List ω) :=
  sweepFrom body (2 * m.size) none m []

variable {m : OrderedMap κ ν} {c : Option κ} {k : κ} {v : ν}
theorem after_eq_some (h : m.after c = some (k, v)) :
    m.find? k = some v ∧ ¬visited c k ∧ ∀ j w, m.find? j = some w → ¬visited c j → k ≤ j := by
  obtain ⟨hk, _, _, hsplit, hbefore⟩ := List.find?_eq_some_iff_append.mp h
  have hsorted := m.sorted
  rw [hsplit, pairwise_append, pairwise_cons] at hsorted
  refine ⟨?_, by simpa using hk, fun j w hj hnot => ?_⟩
  · rw [← mem_entries, hsplit]
    exact mem_append_right _ mem_cons_self
  · rw [← mem_entries, hsplit, mem_append, mem_cons] at hj
    rcases hj with hj | hj | hj
    · have hseen := hbefore _ hj
      simp only [decide_not, Bool.not_eq_true', Bool.not_eq_false', decide_eq_true_eq] at hseen
      exact absurd hseen hnot
    · exact (congrArg Prod.fst hj).ge
    · exact (hsorted.2.1.1 _ hj).le

variable {j : κ}
theorem after_eq_none (h : m.after c = none) (hj : m.find? j = some w) :
    visited c j := by
  have hseen := List.find?_eq_none.mp h (j, w) (mem_entries.mpr hj)
  simpa using hseen

theorem visited_of_next (hk : ¬visited c k) (hj : visited c j) : j ≤ k := by
  cases c with
  | none => exact absurd hj id
  | some _ => exact le_trans hj (not_le.mp hk).le

structure Sweeping (body : κ → ν → Except ε (Turn κ ν ω)) (m : OrderedMap κ ν) (c : Option κ)
    (m' : OrderedMap κ ν) (out : List ω) : Prop where
  entry : ∀ k v, m.find? k = some v → visited c k →
    ∃ t, body k v = .ok t ∧ m'.find? k = some t.value
  ahead : ∀ k v, m.find? k = some v → ¬visited c k → m'.find? k = some v
  fresh : ∀ k, m.find? k = none → ∀ w, m'.find? k = some w ↔
    ∃ j v t, m.find? j = some v ∧ visited c j ∧ body j v = .ok t ∧ (k, w) ∈ t.fresh
  pushed : ∀ o, o ∈ out ↔
    ∃ j v t, m.find? j = some v ∧ visited c j ∧ body j v = .ok t ∧ o ∈ t.pushed

structure Swept (body : κ → ν → Except ε (Turn κ ν ω)) (m m' : OrderedMap κ ν) (out : List ω) :
    Prop where
  entry : ∀ k v, m.find? k = some v → ∃ t, body k v = .ok t ∧ m'.find? k = some t.value
  fresh : ∀ k, m.find? k = none → ∀ w, m'.find? k = some w ↔
    ∃ j v t, m.find? j = some v ∧ body j v = .ok t ∧ (k, w) ∈ t.fresh
  pushed : ∀ o, o ∈ out ↔ ∃ j v t, m.find? j = some v ∧ body j v = .ok t ∧ o ∈ t.pushed

/-- A body that emplaces entries only at keys it does nothing with, and never two different
ones at one key of a sweep over `m`. -/
structure Tame (body : κ → ν → Except ε (Turn κ ν ω)) (m : OrderedMap κ ν) : Prop where
  quiet : ∀ k v t, body k v = .ok t → ∀ e ∈ t.fresh, ∀ w, body e.1 w = .ok ⟨w, [], []⟩
  single : ∀ j j' v v' t t' k w w', m.find? j = some v → m.find? j' = some v' →
    body j v = .ok t → body j' v' = .ok t' → (k, w) ∈ t.fresh → (k, w') ∈ t'.fresh → w = w'

variable {body : κ → ν → Except ε (Turn κ ν ω)}

section Steps
variable {m' : OrderedMap κ ν} {out : List ω} {t : Turn κ ν ω}
theorem find?_apply (t : Turn κ ν ω) (k j : κ) (m : OrderedMap κ ν) :
    (t.apply k m).find? j = if k = j then some t.value else (m.find? j).or (lookup j t.fresh) := by
  rw [Turn.apply, find?_foldl_emplace, find?_insert]
  by_cases hj : k = j
  all_goals simp [hj]

theorem exists_turn_congr {P P' : κ → Prop} {Q : Turn κ ν ω → Prop}
    (h : ∀ j w, m.find? j = some w → (P j ↔ P' j)) :
    (∃ j v t, m.find? j = some v ∧ P j ∧ body j v = .ok t ∧ Q t) ↔
      ∃ j v t, m.find? j = some v ∧ P' j ∧ body j v = .ok t ∧ Q t := by
  refine exists_congr fun j => exists₂_congr fun w t => and_congr_right fun hj => ?_
  exact and_congr_left' (h j w hj)

theorem exists_lookup_of_mem (h : (k, w) ∈ l) :
    ∃ w', lookup k l = some w' := by
  induction l with
  | nil => cases h
  | cons e _ ih =>
    rw [lookup]
    by_cases hk : e.1 = k
    · exact ⟨e.2, if_pos hk⟩
    · rw [if_neg hk]
      rcases mem_cons.mp h with h | h
      · exact absurd (congrArg Prod.fst h).symm hk
      · exact ih h

variable (hbody : Tame body m) (hs : Sweeping body m c m' out)
include hs
theorem Sweeping.visited_next (hafter : m'.after c = some (k, v)) (hj : m.find? j = some w) :
    visited (some k) j ↔ visited c j ∨ j = k := by
  obtain ⟨-, hnot, hleast⟩ := after_eq_some hafter
  refine ⟨fun h => ?_, fun h => ?_⟩
  · by_cases hseen : visited c j
    · exact .inl hseen
    · have hle := hleast j w (hs.ahead j w hj hseen) hseen
      exact .inr (le_antisymm h hle)
  · rcases h with h | h
    · exact visited_of_next hnot h
    · exact h.le

theorem Sweeping.turn_fresh (hafter : m'.after c = some (k, v)) (hk : m.find? k = none) :
    Sweeping body m (some k) ((Turn.mk v [] [] : Turn κ ν ω).apply k m') (out ++ []) := by
  have hfind : ∀ j, ((Turn.mk v [] [] : Turn κ ν ω).apply k m').find? j = m'.find? j := by
    intro j
    rw [find?_apply]
    split_ifs with hj
    · rw [← hj, (after_eq_some hafter).1]
    · rw [lookup, or_none]
  have hseen : ∀ {j w}, m.find? j = some w → (visited (some k) j ↔ visited c j) := by
    intro j w hj
    rw [hs.visited_next hafter hj]
    refine ⟨fun h => h.resolve_right ?_, .inl⟩
    intro hjk
    rw [hjk, hk] at hj
    cases hj
  refine ⟨?_, ?_, ?_, ?_⟩
  · intro j w hj hv
    rw [hfind]
    exact hs.entry j w hj ((hseen hj).mp hv)
  · intro j w hj hv
    rw [hfind]
    exact hs.ahead j w hj (fun h => hv ((hseen hj).mpr h))
  · intro j hj w
    rw [hfind, hs.fresh j hj]
    exact exists_turn_congr fun i u hi => (hseen hi).symm
  · intro o
    rw [append_nil, hs.pushed]
    exact exists_turn_congr fun i u hi => (hseen hi).symm

include hbody in
theorem Sweeping.turn_entry (hafter : m'.after c = some (k, v)) (hk : m.find? k = some v)
    (ht : body k v = .ok t) : Sweeping body m (some k) (t.apply k m') (out ++ t.pushed) := by
  refine ⟨?_, ?_, ?_, ?_⟩
  · intro j w hj hv
    rw [find?_apply]
    by_cases hjk : k = j
    · subst hjk
      cases hk.symm.trans hj
      exact ⟨t, ht, if_pos rfl⟩
    · have hseen := ((hs.visited_next hafter hj).mp hv).resolve_right (Ne.symm hjk)
      obtain ⟨t', ht', hfind⟩ := hs.entry j w hj hseen
      exact ⟨t', ht', by rw [if_neg hjk, hfind, some_or]⟩
  · intro j w hj hv
    rw [hs.visited_next hafter hj, not_or] at hv
    rw [find?_apply, if_neg (Ne.symm hv.2), hs.ahead j w hj hv.1, some_or]
  · intro j hj w
    have hjk : k ≠ j := by
      intro h
      rw [← h, hk] at hj
      cases hj
    rw [find?_apply, if_neg hjk]
    refine ⟨fun h => ?_, fun h => ?_⟩
    · cases hfind : m'.find? j with
      | some u =>
        rw [hfind, some_or, Option.some.injEq] at h
        subst h
        obtain ⟨i, x, t', hi, hv, hrest⟩ := (hs.fresh j hj u).mp hfind
        exact ⟨i, x, t', hi, (hs.visited_next hafter hi).mpr (.inl hv), hrest⟩
      | none =>
        rw [hfind, none_or] at h
        exact ⟨k, v, t, hk, le_refl k, ht, lookup_mem h⟩
    · obtain ⟨i, x, t', hi, hv, ht', hmem⟩ := h
      have hsame : ∀ u, m'.find? j = some u → u = w := by
        intro u hu
        obtain ⟨i', x', t'', hi', -, ht'', hmem'⟩ := (hs.fresh j hj u).mp hu
        exact hbody.single i' i x' x t'' t' j u w hi' hi ht'' ht' hmem' hmem
      rcases (hs.visited_next hafter hi).mp hv with hv | rfl
      · have hfind := (hs.fresh j hj w).mpr ⟨i, x, t', hi, hv, ht', hmem⟩
        rw [hfind, some_or]
      · cases hk.symm.trans hi
        cases ht.symm.trans ht'
        obtain ⟨u, hu⟩ := exists_lookup_of_mem hmem
        have hwu : u = w := hbody.single i i v v t t j u w hi hi ht ht (lookup_mem hu) hmem
        cases hfind : m'.find? j with
        | some y => rw [some_or, hsame y hfind]
        | none => rw [none_or, hu, hwu]
  · intro o
    rw [mem_append, hs.pushed]
    refine ⟨fun h => ?_, fun h => ?_⟩
    · rcases h with ⟨i, x, t', hi, hv, hrest⟩ | h
      · exact ⟨i, x, t', hi, (hs.visited_next hafter hi).mpr (.inl hv), hrest⟩
      · exact ⟨k, v, t, hk, le_refl k, ht, h⟩
    · obtain ⟨i, x, t', hi, hv, ht', hmem⟩ := h
      rcases (hs.visited_next hafter hi).mp hv with hv | rfl
      · exact .inl ⟨i, x, t', hi, hv, ht', hmem⟩
      · cases hk.symm.trans hi
        cases ht.symm.trans ht'
        exact .inr hmem

theorem Sweeping.done (hall : ∀ k v, m.find? k = some v → visited c k) : Swept body m m' out := by
  refine ⟨fun k v hk => hs.entry k v hk (hall k v hk), fun k hk w => ?_, fun o => ?_⟩
  · rw [hs.fresh k hk, exists_turn_congr fun i x hi => iff_true_intro (hall i x hi)]
    simp
  · rw [hs.pushed, exists_turn_congr fun i x hi => iff_true_intro (hall i x hi)]
    simp

omit hs in
theorem Sweeping.start : Sweeping body m none m ([] : List ω) := by
  refine ⟨fun k v _ h => absurd h id, fun k v hk _ => hk, fun k hk w => ?_, fun o => ?_⟩
  · refine ⟨fun h => ?_, fun h => ?_⟩
    · rw [hk] at h
      cases h
    · obtain ⟨i, x, t, -, hv, -⟩ := h
      exact absurd hv id
  · refine ⟨fun h => absurd h not_mem_nil, fun h => ?_⟩
    obtain ⟨i, x, t, -, hv, -⟩ := h
    exact absurd hv id
end Steps

def Ended (body : κ → ν → Except ε (Turn κ ν ω)) (m : OrderedMap κ ν) :
    Except ε (OrderedMap κ ν × List ω) → Prop
  | .ok r => Swept body m r.1 r.2
  | .error e => ∃ k v, m.find? k = some v ∧ body k v = .error e

theorem sweepFrom_ended (hbody : Tame body m) (U : Finset κ)
    (hU : ∀ k v, m.find? k = some v → k ∈ U)
    (hfreshU : ∀ k v t, m.find? k = some v → body k v = .ok t → ∀ e ∈ t.fresh, e.1 ∈ U) (fuel : ℕ)
    (m' : OrderedMap κ ν) (out : List ω) (hs : Sweeping body m c m' out)
    (hfuel : (U.filter (fun k => ¬visited c k)).card ≤ fuel) :
    Ended body m (sweepFrom body fuel c m' out) := by
  induction fuel generalizing c m' out with
  | zero =>
    apply hs.done
    intro k v hk
    by_contra hnot
    have hmem : k ∈ U.filter (fun k => ¬visited c k) := Finset.mem_filter.mpr ⟨hU k v hk, hnot⟩
    have hpos := Finset.card_pos.mpr ⟨k, hmem⟩
    omega
  | succ fuel ih =>
    rw [sweepFrom]
    cases hafter : m'.after c with
    | none =>
      apply hs.done
      intro k v hk
      by_contra hnot
      exact hnot (after_eq_none hafter (hs.ahead k v hk hnot))
    | some e =>
      obtain ⟨k, v⟩ := e
      obtain ⟨hfind, hnot, -⟩ := after_eq_some hafter
      -- the cursor moves to a key of `U` it had not reached
      have hless : k ∈ U → (U.filter (fun j => ¬visited (some k) j)).card ≤ fuel := by
        intro hkU
        have hlt : (U.filter (fun j => ¬visited (some k) j)).card <
            (U.filter (fun j => ¬visited c j)).card := by
          apply Finset.card_lt_card
          refine ⟨fun j hj => ?_, fun hsub => ?_⟩
          · rw [Finset.mem_filter] at hj ⊢
            exact ⟨hj.1, fun hseen => hj.2 (visited_of_next hnot hseen)⟩
          · have hk := hsub (Finset.mem_filter.mpr ⟨hkU, hnot⟩)
            exact (Finset.mem_filter.mp hk).2 (le_refl k)
        omega
      cases hk : m.find? k with
      | some w =>
        obtain rfl : w = v := by
          have hw := hs.ahead k w hk hnot
          exact Option.some.inj (hw.symm.trans hfind)
        cases ht : body k w with
        | error _ =>
          simp only [ht]
          exact ⟨k, w, hk, ht⟩
        | ok t =>
          simp only [ht]
          exact ih (t.apply k m') (out ++ t.pushed) (hs.turn_entry hbody hafter hk ht)
            (hless (hU k w hk))
      | none =>
        obtain ⟨j, x, t, hj, -, ht, hmem⟩ := (hs.fresh k hk v).mp hfind
        have hquiet := hbody.quiet j x t ht (k, v) hmem v
        simp only [hquiet]
        exact ih _ _ (hs.turn_fresh hafter hk) (hless (hfreshU j x t hj ht (k, v) hmem))

theorem sweep_ended (hbody : Tame body m) (link : κ → κ)
    (hlink : ∀ k v t, m.find? k = some v → body k v = .ok t → ∀ e ∈ t.fresh, e.1 = link k) :
    Ended body m (sweep body m) := by
  apply sweepFrom_ended hbody (m.keys ∪ m.keys.image link)
  · intro k v hk
    apply Finset.mem_union_left
    exact mem_keys.mpr (contains_iff.mpr ⟨v, hk⟩)
  · intro k v t hk ht e he
    apply Finset.mem_union_right
    rw [hlink k v t hk ht e he]
    exact Finset.mem_image_of_mem link (mem_keys.mpr (contains_iff.mpr ⟨v, hk⟩))
  · exact Sweeping.start
  · have hfilter := Finset.card_filter_le (m.keys ∪ m.keys.image link)
      (fun k => ¬visited (none : Option κ) k)
    have hunion := Finset.card_union_le m.keys (m.keys.image link)
    have himage : (m.keys.image link).card ≤ m.keys.card := Finset.card_image_le
    have hcard := m.card_keys
    omega
end Sweep
end WeakNet.Foundation.OrderedMap
