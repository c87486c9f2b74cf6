import Mathlib.Data.List.Sort
import Mathlib.Data.String.Basic

/-! JSON values as Python holds them, over any type of floats, and the compact text with sorted keys
and ASCII escapes that `json.dumps` writes. How the interpreter prints a float, and how `str` shows
a list or an object, is given by a `Printer`. -/

namespace WeakNet.Foundation
open List

inductive Json (φ : Type) where
  | null
  | bool (b : Bool)
  | int (n : ℤ)
  | float (x : φ)
  | str (s : String)
  | list (items : List (Json φ))
  | dict (entries : List (String × Json φ))

namespace Json
variable {φ : Type}

/-- Induction with the hypothesis for every item of a list and every value of an object. -/
@[elab_as_elim]
theorem induction {motive : Json φ → Prop} (null : motive .null) (bool : ∀ b, motive (.bool b))
    (int : ∀ n, motive (.int n)) (float : ∀ x, motive (.float x)) (str : ∀ s, motive (.str s))
    (list : ∀ items, (∀ v ∈ items, motive v) → motive (.list items))
    (dict : ∀ entries, (∀ e ∈ entries, motive e.2) → motive (.dict entries)) : ∀ v, motive v
  | .null => null
  | .bool b => bool b
  | .int n => int n
  | .float x => float x
  | .str s => str s
  | .list items => list items fun v _ => induction null bool int float str list dict v
  | .dict entries => dict entries fun e _ => induction null bool int float str list dict e.2
termination_by v => sizeOf v
decreasing_by
  · decreasing_tactic
  · rename_i he
    have := List.sizeOf_lt_of_mem he
    obtain ⟨key, value⟩ := e
    simp at this ⊢
    omega

structure Printer (φ : Type) where
  float : φ → String
  text : Json φ → String

def isNull : Json φ → Bool
  | .null => true
  | _ => false

/-- `entries.get(key)`, in which a missing entry counts as `None`. -/
def get (entries : List (String × Json φ)) (key : String) : Json φ :=
  (entries.lookup key).getD .null

def toText (p : Printer φ) : Json φ → String
  | .null => "None"
  | .bool true => "True"
  | .bool false => "False"
  | .int n => toString n
  | .str s => s
  | value => p.text value

def iterate : Json φ → Option (List (Json φ))
  | .str s => some (s.toList.map fun c => .str (String.singleton c))
  | .list items => some items
  | .dict entries => some (entries.map fun entry => .str entry.1)
  | _ => none

def truthy (isZero : φ → Bool) : Json φ → Bool
  | .null => false
  | .bool b => b
  | .int n => n != 0
  | .float x => !isZero x
  | .str s => s != ""
  | .list items => !items.isEmpty
  | .dict entries => !entries.isEmpty

def sortKeys {α : Type} (entries : List (String × α)) : List (String × α) :=
  entries.insertionSort fun a b => a.1 ≤ b.1

def backslash : Char := Char.ofNat 92
def quotation : Char := Char.ofNat 34

def hexEscape (n : ℕ) : List Char :=
  let digits := Nat.toDigits 16 n
  backslash :: 'u' :: (List.replicate (4 - digits.length) '0' ++ digits)

def escapeChar (c : Char) : List Char :=
  if c = quotation ∨ c = backslash then [backslash, c]
  else if c.toNat = 10 then [backslash, 'n']
  else if c.toNat = 13 then [backslash, 'r']
  else if c.toNat = 9 then [backslash, 't']
  else if c.toNat = 12 then [backslash, 'f']
  else if c.toNat = 8 then [backslash, 'b']
  else if 32 ≤ c.toNat ∧ c.toNat ≤ 126 then [c]
  else if c.toNat < 65536 then hexEscape c.toNat
  else hexEscape (55296 + (c.toNat - 65536) / 1024) ++
    hexEscape (56320 + (c.toNat - 65536) % 1024)

def quote (s : String) : List Char :=
  quotation :: s.toList.flatMap escapeChar ++ [quotation]

section Dumps
variable (p : Printer φ)
mutual

/-- `json.dumps(value, sort_keys=True, separators=(",", ":"), ensure_ascii=True)`. -/
def dumps : Json φ → List Char
  | .null => "null".toList
  | .bool true => "true".toList
  | .bool false => "false".toList
  | .int n => (toString n).toList
  | .float x => (p.float x).toList
  | .str s => quote s
  | .list items => '[' :: [','].intercalate (dumpsItems items) ++ [']']
  | .dict entries =>
    Char.ofNat 123 ::
      [','].intercalate ((sortKeys (dumpsEntries entries)).map fun entry =>
        quote entry.1 ++ ':' :: entry.2) ++ [Char.ofNat 125]

def dumpsItems : List (Json φ) → List (List Char)
  | [] => []
  | item :: items => dumps item :: dumpsItems items

def dumpsEntries : List (String × Json φ) → List (String × List Char)
  | [] => []
  | (key, value) :: entries => (key, dumps value) :: dumpsEntries entries
end
end Dumps

variable {entries : List (String × Json φ)}
theorem get_concat_of_ne {key name : String} (h : key ≠ name) (value : Json φ) :
    get (entries ++ [(name, value)]) key = get entries key := by
  have hlast : [(name, value)].lookup key = none := by
    rw [lookup_cons, beq_eq_false_iff_ne.mpr h]
    rfl
  rw [get, get, lookup_append, hlast, Option.or_none]

theorem get_concat_self {name : String} (h : name ∉ entries.map Prod.fst) (value : Json φ) :
    get (entries ++ [(name, value)]) name = value := by
  have habsent : entries.lookup name = none := by
    rw [lookup_eq_none_iff]
    exact fun entry hentry => bne_iff_ne.mpr fun heq => h (heq ▸ mem_map_of_mem hentry)
  rw [get, lookup_append, habsent, Option.none_or, lookup_cons, beq_self_eq_true]
  rfl

theorem get_filter_isNull (h : (entries.map Prod.fst).Nodup) (key : String) :
    get (entries.filter fun entry => !entry.2.isNull) key = get entries key := by
  induction entries with
  | nil => rfl
  | cons entry entries ih =>
    obtain ⟨name, value⟩ := entry
    rw [map_cons, nodup_cons] at h
    have hrest := ih h.2
    simp only [get] at hrest ⊢
    cases hnull : value.isNull with
    | false =>
      rw [filter_cons_of_pos (by simp [hnull]), lookup_cons, lookup_cons]
      cases hkey : key == name with
      | true => rfl
      | false => exact hrest
    | true =>
      rw [filter_cons_of_neg (by simp [hnull]), lookup_cons]
      cases hkey : key == name with
      | false => exact hrest
      | true =>
        -- the names are distinct, so the key is not among the other entries either
        rw [hrest]
        rw [beq_iff_eq] at hkey
        subst hkey
        have habsent : entries.lookup key = none := by
          rw [lookup_eq_none_iff]
          intro entry hentry
          have hmem : entry.1 ∈ entries.map Prod.fst := mem_map_of_mem hentry
          exact bne_iff_ne.mpr fun heq => h.1 (heq ▸ hmem)
        rw [habsent]
        cases value <;> first | rfl | cases hnull
end Json

section LastBy
variable {α κ : Type} [DecidableEq κ]
def lastBy (key : α → κ) (l : List α) (k : κ) : Option α := l.reverse.find? fun a => key a == k

variable {key : α → κ} {l : List α} {k : κ} {a : α}
theorem lastBy_some (h : lastBy key l k = some a) : a ∈ l ∧ key a = k := by
  rw [lastBy] at h
  have hkey := List.find?_some h
  exact ⟨mem_reverse.mp (mem_of_find?_eq_some h), beq_iff_eq.mp hkey⟩

theorem exists_lastBy (h : a ∈ l) : ∃ b, lastBy key l (key a) = some b := by
  rw [← Option.isSome_iff_exists, lastBy, List.find?_isSome]
  exact ⟨a, mem_reverse.mpr h, beq_iff_eq.mpr rfl⟩

theorem lastBy_of_nodup (hl : (l.map key).Nodup) (h : a ∈ l) : lastBy key l (key a) = some a := by
  obtain ⟨b, hb⟩ := (exists_lastBy h : ∃ b, lastBy key l (key a) = some b)
  obtain ⟨hmem, hkey⟩ := lastBy_some hb
  rw [hb, inj_on_of_nodup_map hl hmem h hkey]
end LastBy
end WeakNet.Foundation
