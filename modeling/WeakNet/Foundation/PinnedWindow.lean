import Mathlib.Data.List.Basic
import Mathlib.Data.List.Induction
import Mathlib.Tactic.Common

/-! `push n` appends to a list of at most `n` entries. A full list makes room by dropping its second
entry, so that the first one is pinned and the rest is a window on the latest additions. `kept n l
c` is what is left of the entries `l` after `c` further additions. -/

namespace WeakNet.Foundation.PinnedWindow
open List
variable {α : Type*} {n c : ℕ} {l : List α} {a b : α}
def push (n : ℕ) (l : List α) (a : α) : List α :=
  if l.length < n then l ++ [a]
  else if n = 1 then l.set 0 a
  else l.eraseIdx 1 ++ [a]

theorem mem_push (h : b ∈ push n l a) : b ∈ l ∨ b = a := by
  rw [push] at h
  split_ifs at h with hroom hone
  · simpa using h
  · exact mem_or_eq_of_mem_set h
  · exact (mem_append.mp h).imp mem_of_mem_eraseIdx mem_singleton.mp

theorem push_of_lt (h : l.length < n) : push n l a = l ++ [a] := if_pos h

theorem push_full {ys : List α} {x : α} (hn : 2 ≤ n) (h : ys.length + 1 = n) :
    push n (x :: ys) a = x :: (ys.tail ++ [a]) := by
  rw [push, if_neg (by simp only [length_cons]; omega), if_neg (by omega)]
  cases ys with
  | nil => simp
  | cons _ _ => rfl

theorem length_push_le (hn : 0 < n) (h : l.length ≤ n) : (push n l a).length ≤ n := by
  rw [push]
  split_ifs with hroom hone
  · rw [length_append, length_singleton]
    omega
  · rw [length_set]
    exact h
  · rw [length_append, length_singleton, length_eraseIdx, if_pos (by omega)]
    omega

theorem getLast?_push (h : l.length ≤ n) : (push n l a).getLast? = some a := by
  rw [push]
  split_ifs with hroom hone
  · exact List.getLast?_concat
  · obtain ⟨x, rfl⟩ := length_eq_one_iff.mp (show l.length = 1 by omega)
    rfl
  · exact List.getLast?_concat

theorem length_foldl_push_le (hn : 0 < n) (zs : List α) :
    (zs.foldl (push n) []).length ≤ n :=
  foldlRecOn (motive := (length · ≤ n)) zs _ (Nat.zero_le n) fun _ h _ _ => length_push_le hn h

theorem getLast?_foldl_push (hn : 0 < n) (zs : List α) :
    (zs.foldl (push n) []).getLast? = zs.getLast? := by
  induction zs using List.reverseRecOn with
  | nil => rfl
  | append_singleton zs _ ih =>
    rw [foldl_append, List.getLast?_concat]
    exact getLast?_push (length_foldl_push_le hn zs)

theorem foldl_push (hn : 2 ≤ n) (x : α) {ys : List α} (hys : ys.length < n) (zs : List α) :
    zs.foldl (push n) (x :: ys) = x :: (ys ++ zs).drop (ys.length + zs.length + 1 - n) := by
  induction zs generalizing ys with
  | nil =>
    have hzero : ys.length + ([] : List α).length + 1 - n = 0 := by
      simp only [length_nil]
      omega
    rw [foldl_nil, hzero, drop_zero, append_nil]
  | cons z zs ih =>
    rw [foldl_cons]
    by_cases hroom : ys.length + 1 < n
    · have hpush : push n (x :: ys) z = x :: (ys ++ [z]) := push_of_lt hroom
      have hlen : (ys ++ [z]).length < n := by
        simp only [length_append, length_singleton]
        omega
      have hdrop : (ys ++ [z]).length + zs.length + 1 - n =
          ys.length + (z :: zs).length + 1 - n := by
        simp only [length_append, length_cons, length_nil]
        omega
      rw [hpush, ih hlen, hdrop, append_assoc, singleton_append]
    · -- the window is full: its oldest entry leaves, everything else keeps its place
      have hfull : ys.length + 1 = n := by omega
      cases ys with
      | nil =>
        simp only [length_nil] at hfull
        omega
      | cons y ys =>
        simp only [length_cons] at hfull
        have hlen : (ys ++ [z]).length < n := by
          simp only [length_append, length_singleton]
          omega
        have hdrop : (y :: ys).length + (z :: zs).length + 1 - n =
            (ys ++ [z]).length + zs.length + 1 - n + 1 := by
          simp only [length_append, length_cons, length_nil]
          omega
        rw [push_full hn (by simp only [length_cons]; omega), tail_cons, ih hlen, hdrop, cons_append,
          drop_succ_cons, append_assoc, singleton_append]

theorem head?_foldl_push (hn : 2 ≤ n) (zs : List α) :
    (zs.foldl (push n) []).head? = zs.head? := by
  cases zs with
  | nil => rfl
  | cons z _ =>
    have hfirst : push n [] z = [z] := push_of_lt (by simp only [length_nil]; omega)
    rw [foldl_cons, hfirst, foldl_push hn z (by simp only [length_nil]; omega)]
    rfl

def kept (n : ℕ) (l : List α) (c : ℕ) : List α :=
  l.take 1 ++ (l.drop 1).drop (l.length + c - n)

theorem kept_sublist : (kept n l c).Sublist l := by
  have hsplit := ((l.drop 1).drop_sublist (l.length + c - n)).append_left (l.take 1)
  rwa [take_append_drop] at hsplit

theorem kept_eq_self (h : l.length ≤ 1 ∨ l.length + c ≤ n) : kept n l c = l := by
  rw [kept, drop_drop]
  rcases h with h | h
  · rw [take_of_length_le h, drop_of_length_le (by omega), append_nil]
  · have hzero : 1 + (l.length + c - n) = 1 := by omega
    rw [hzero, take_append_drop]

theorem length_kept_lt (hl : 1 < l.length) (h : n < l.length + c) :
    (kept n l c).length < l.length := by
  simp only [kept, length_append, length_take, length_drop]
  omega

theorem kept_eq_self_iff : kept n l c = l ↔ l.length ≤ 1 ∨ l.length + c ≤ n := by
  refine ⟨fun h => ?_, kept_eq_self⟩
  by_contra hlost
  have hlt : (kept n l c).length < l.length := length_kept_lt (by omega) (by omega)
  rw [h] at hlt
  omega

theorem length_kept_le (hn : 0 < n) : (kept n l c).length ≤ n := by
  simp only [kept, length_append, length_take, length_drop]
  omega

theorem kept_kept_eq_iff {d : ℕ} :
    kept n (kept n l c) d = l ↔ l.length ≤ 1 ∨ l.length + max c d ≤ n := by
  refine ⟨fun h => ?_, fun h => ?_⟩
  · have hinner : kept n l c = l := by
      apply (kept_sublist).eq_of_length_le
      have hlen := (kept_sublist : (kept n (kept n l c) d).Sublist _).length_le
      rwa [h] at hlen
    rw [hinner] at h
    have hc := kept_eq_self_iff.mp hinner
    have hd := kept_eq_self_iff.mp h
    omega
  · have hinner : kept n l c = l := kept_eq_self (by omega)
    rw [hinner]
    exact kept_eq_self (by omega)

theorem kept_map {β : Type*} (f : α → β) : kept n (l.map f) c = (kept n l c).map f := by
  simp [kept]

theorem kept_append (hl : l ≠ []) (m : List α) :
    kept n (l ++ m) c = kept n l (m.length + c) ++ m.drop (m.length + c + 1 - n) := by
  cases l with
  | nil => exact absurd rfl hl
  | cons x xs =>
    have hcount : (x :: xs ++ m).length + c - n = (x :: xs).length + (m.length + c) - n := by
      simp only [length_append]
      omega
    have hrest : (x :: xs).length + (m.length + c) - n - xs.length = m.length + c + 1 - n := by
      simp only [length_cons]
      omega
    rw [kept, kept, hcount, append_assoc]
    simp only [cons_append, take_succ_cons, take_zero, drop_succ_cons, drop_zero, nil_append]
    rw [drop_append, hrest]

theorem foldl_push_append (hn : 2 ≤ n) (hl : l ≠ []) (later : List α) :
    (l ++ later).foldl (push n) [] =
      kept n l later.length ++ later.drop (later.length + 1 - n) := by
  cases l with
  | nil => exact absurd rfl hl
  | cons x xs =>
    have hfirst : push n [] x = [x] := push_of_lt (by simp only [length_nil]; omega)
    have hlen : ([] : List α).length + (xs ++ later).length + 1 - n =
        (x :: xs).length + later.length - n := by
      simp only [length_nil, length_append, length_cons]
      omega
    have hrest : (x :: xs).length + later.length - n - xs.length = later.length + 1 - n := by
      simp only [length_cons]
      omega
    rw [cons_append, foldl_cons, hfirst,
      foldl_push hn x (by simp only [length_nil]; omega), nil_append, hlen,
      drop_append, hrest, kept]
    rfl
end WeakNet.Foundation.PinnedWindow
