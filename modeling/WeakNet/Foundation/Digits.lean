import Mathlib.Algebra.Group.Nat.Defs
import Mathlib.Data.List.Basic

/-! Digits in a base of at most sixteen determine the number, and fields that do not contain the
separator are determined by the text they are joined to. -/

namespace WeakNet.Foundation.Digits
open List Nat

variable {n : ℕ}
theorem digitChar_injOn {m : ℕ} (hm : m < 16) (hn : n < 16)
    (h : digitChar m = digitChar n) : m = n := by
  have hall : ∀ m < 16, ∀ n < 16, digitChar m = digitChar n → m = n := by decide
  exact hall m hm n hn h

def IsDigit (c : Char) : Prop := ∃ d < 16, c = Nat.digitChar d

theorem not_isDigit_of_mem {c : Char} (h : c ∈ [':', ',', ';', '|', '-']) : ¬ IsDigit c := by
  rintro ⟨d, hd, rfl⟩
  have hall : ∀ d < 16, digitChar d ∉ [':', ',', ';', '|', '-'] := by decide
  exact hall d hd h

theorem not_mem_of_digits {text : List Char} (htext : ∀ c ∈ text, IsDigit c) {c : Char}
    (hc : c ∈ [':', ',', ';', '|', '-']) : c ∉ text := fun hmem =>
  not_isDigit_of_mem hc (htext c hmem)

section Base
variable {b : ℕ} (hb : 1 < b) (hle : b ≤ 16)
include hb hle
theorem isDigit_of_mem_toDigits (n : ℕ) : ∀ c ∈ toDigits b n, IsDigit c := by
  induction n using Nat.strongRecOn with
  | _ n ih =>
    intro c hc
    rw [Nat.toDigits_eq_if hb] at hc
    split_ifs at hc with hlt
    · exact ⟨n, by omega, mem_singleton.mp hc⟩
    · rcases mem_append.mp hc with hfirst | hlast
      · exact ih (n / b) (div_lt_self (by omega) hb) c hfirst
      · have hmod := mod_lt n (by omega : 0 < b)
        exact ⟨n % b, by omega, mem_singleton.mp hlast⟩

theorem not_mem_toDigits {c : Char} (hc : c ∈ [':', ',', ';', '|', '-']) (n : ℕ) :
    c ∉ toDigits b n :=
  not_mem_of_digits (isDigit_of_mem_toDigits hb hle n) hc

theorem toDigits_injective : Function.Injective (toDigits b) := by
  intro m n
  induction m using Nat.strongRecOn generalizing n with
  | _ m ih =>
    intro h
    have hmod := Nat.mod_lt m (by omega : 0 < b)
    have hmod' := mod_lt n (by omega : 0 < b)
    rw [@toDigits_eq_if b m hb, @toDigits_eq_if b n hb] at h
    split_ifs at h with hm hn hn
    · exact digitChar_injOn (by omega) (by omega) (List.cons.inj h).1
    · simp [singleton_eq_append_iff, toDigits_ne_nil] at h
    · simp [append_eq_singleton_iff, toDigits_ne_nil] at h
    · obtain ⟨hfirst, hlast⟩ := append_inj' h rfl
      have hdiv := ih (m / b) (div_lt_self (by omega) hb) hfirst
      have hdigit := digitChar_injOn (by omega) (by omega) (List.cons.inj hlast).1
      rw [← div_add_mod m b, ← div_add_mod n b, hdiv, hdigit]
end Base

variable {width : ℕ}

section Fixed
variable {b : ℕ}
def fixedDigits (b : ℕ) : ℕ → ℕ → List ℕ
  | 0, _ => []
  | width + 1, n => fixedDigits b width (n / b) ++ [n % b]

theorem length_fixedDigits (width n : ℕ) : (fixedDigits b width n).length = width := by
  induction width generalizing n with
  | zero => rfl
  | succ _ ih => rw [fixedDigits, length_append, ih, length_singleton]

theorem fixedDigits_lt (hb : 0 < b) (width n : ℕ) : ∀ d ∈ fixedDigits b width n, d < b := by
  induction width generalizing n with
  | zero => exact forall_mem_nil _
  | succ _ ih => exact forall_mem_append.mpr ⟨ih (n / b), forall_mem_singleton.mpr (mod_lt n hb)⟩

theorem fixedDigits_zero (width : ℕ) : fixedDigits b width 0 = List.replicate width 0 := by
  induction width with
  | zero => rfl
  | succ _ ih =>
    rw [fixedDigits, Nat.zero_div, Nat.zero_mod, ih, replicate_succ']

theorem padded_eq (hb : 1 < b) (hwidth : 0 < width) (h : n < b ^ width) :
    List.replicate (width - (Nat.toDigits b n).length) '0' ++ Nat.toDigits b n =
      (fixedDigits b width n).map digitChar := by
  induction width generalizing n with
  | zero => exact absurd hwidth (Nat.lt_irrefl 0)
  | succ width ih =>
    rw [Nat.toDigits_eq_if hb, fixedDigits, map_append]
    split_ifs with hlt
    · rw [div_eq_of_lt hlt, mod_eq_of_lt hlt, fixedDigits_zero, map_replicate]
      rfl
    · have hdiv : n / b < b ^ width := Nat.div_lt_of_lt_mul (by rwa [← Nat.pow_succ'])
      have hpos : 0 < width := by
        rcases Nat.eq_zero_or_pos width with rfl | hpos
        · rw [zero_add, pow_one] at h
          exact absurd h hlt
        · exact hpos
      rw [← ih hpos hdiv, length_append, length_singleton, Nat.add_sub_add_right, append_assoc]
      rfl

theorem foldl_fixedDigits (h : n < b ^ width) :
    (fixedDigits b width n).foldl (fun m d => b * m + d) 0 = n := by
  induction width generalizing n with
  | zero => exact (Nat.lt_one_iff.mp h).symm
  | succ width ih =>
    have hdiv : n / b < b ^ width := Nat.div_lt_of_lt_mul (by rwa [← Nat.pow_succ'])
    rw [fixedDigits, foldl_append, ih hdiv, foldl_cons, foldl_nil, Nat.div_add_mod]
end Fixed

theorem toList_toString (n : ℕ) : (toString n).toList = Nat.toDigits 10 n := String.toList_ofList

theorem isDigit_of_mem_toString (n : ℕ) : ∀ c ∈ (toString n).toList, IsDigit c := by
  rw [toList_toString]
  exact isDigit_of_mem_toDigits (by omega) (by omega) n

theorem toString_inj {m n : ℕ} (h : toString m = toString n) : m = n := by
  have htext := congrArg String.toList h
  rw [toList_toString, toList_toString] at htext
  exact toDigits_injective (by decide) (by decide) htext

theorem toString_int_inj {z z' : ℤ} (h : toString z = toString z') : z = z' := by
  have hsign : ∀ m n : ℕ, toString m ≠ "-" ++ toString n := by
    intro m n htext
    refine not_mem_of_digits (isDigit_of_mem_toString m) (c := '-') (by decide) ?_
    rw [htext, String.toList_append]
    exact mem_cons_self
  cases z with
  | ofNat m =>
    cases z' with
    | ofNat n => exact congrArg Int.ofNat (toString_inj h)
    | negSucc n => exact absurd h (hsign m (n + 1))
  | negSucc m =>
    cases z' with
    | ofNat n => exact absurd h.symm (hsign n (m + 1))
    | negSucc n =>
      have htext : ("-" ++ toString (m + 1)).toList = ("-" ++ toString (n + 1)).toList :=
        congrArg String.toList h
      rw [String.toList_append, String.toList_append, append_cancel_left_eq] at htext
      rw [Nat.succ.inj (toString_inj (String.toList_inj.mp htext))]

section Fields
variable {α : Type*} {separator : α}
theorem append_separator_inj {a a' b b' : List α} (hb : separator ∉ b) (hb' : separator ∉ b')
    (h : a ++ separator :: b = a' ++ separator :: b') : a = a' ∧ b = b' := by
  have hsplit : ∀ {b b' t : List α}, separator ∉ b → separator :: b = t ++ separator :: b' →
      t = [] ∧ b = b' := by
    intro b b' t hb ht
    cases t with
    | nil => exact ⟨rfl, (List.cons.inj ht).2⟩
    | cons _ _ =>
      refine absurd ?_ hb
      rw [(List.cons.inj ht).2]
      exact mem_append_right _ mem_cons_self
  rcases append_eq_append_iff.mp h with ⟨t, ha, ht⟩ | ⟨t, ha, ht⟩
  · obtain ⟨rfl, hrest⟩ := hsplit hb ht
    exact ⟨(ha.trans (append_nil a)).symm, hrest⟩
  · obtain ⟨rfl, hrest⟩ := hsplit hb' ht
    exact ⟨ha.trans (append_nil a'), hrest.symm⟩

theorem intercalate_inj [DecidableEq α] {fields other : List (List α)} (hne : fields ≠ []) (hne' : other ≠ [])
    (hfields : ∀ field ∈ fields, separator ∉ field) (hother : ∀ field ∈ other, separator ∉ field)
    (h : [separator].intercalate fields = [separator].intercalate other) : fields = other := by
  have hsplit := congrArg (List.splitOn separator) h
  rwa [splitOn_intercalate separator hfields hne,
    splitOn_intercalate separator hother hne'] at hsplit

variable {β : Type*}
theorem flatMap_terminated (text : β → List α) (items : List β) :
    items.flatMap (fun item => text item ++ [separator]) =
      [separator].intercalate (items.map text ++ [[]]) := by
  induction items with
  | nil => rfl
  | cons _ items ih =>
    rw [flatMap_cons, ih, map_cons, cons_append]
    cases hrest : items.map text ++ [[]] with
    | nil => exact absurd hrest (append_ne_nil_of_right_ne_nil _ (cons_ne_nil _ _))
    | cons _ _ => simp [List.intercalate]

theorem not_mem_elim {absent : List α} {text : β → List α} (habsent : separator ∉ absent)
    (htext : ∀ b, separator ∉ text b) (value : Option β) : separator ∉ value.elim absent text := by
  cases value with
  | none => exact habsent
  | some b => exact htext b

theorem elim_injective {absent : List α} {text : β → List α} (htext : Function.Injective text)
    (habsent : ∀ b, text b ≠ absent) :
    Function.Injective fun value : Option β => value.elim absent text := by
  intro a b h
  cases a with
  | none =>
    cases b with
    | none => rfl
    | some b => exact absurd h.symm (habsent b)
  | some a =>
    cases b with
    | none => exact absurd h (habsent a)
    | some _ => exact congrArg some (htext h)

theorem flatMap_inj_of_length {text : β → List α} (htext : Function.Injective text)
    (hwidth : ∀ item, (text item).length = width) {items other : List β}
    (hlen : items.length = other.length)
    (h : items.flatMap text = other.flatMap text) : items = other := by
  apply map_injective_iff.mpr htext
  refine eq_iff_flatten_eq.mpr ⟨h, ?_⟩
  simp [Function.comp_def, hwidth, hlen]
end Fields
end WeakNet.Foundation.Digits
