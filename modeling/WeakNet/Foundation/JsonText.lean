import Mathlib.Data.List.MinMax
import WeakNet.Foundation.Digits
import WeakNet.Foundation.JsonReader

/-! A text of `json.dumps` may be encoded character by character, into bytes or with further
escapes. `dumps_text` says how a dialect reads it. -/

namespace WeakNet.Foundation
open Fallible Digits JsonReader List

namespace JsonReader
section Body
variable {χ ε τ : Type} (mark : χ) (piece : List χ → Except ε (τ × List χ)) (unterminated : ε)
structure Piece (t : List χ) (p : τ) : Prop where
  first : ∃ c rest, t = c :: rest ∧ c ≠ mark
  reads : ∀ rest, piece (t ++ rest) = .ok (p, rest)

def body [DecidableEq χ] : ℕ → List χ → Except ε (List τ × List χ)
  | 0, _ => .error unterminated
  | _ + 1, [] => .error unterminated
  | rounds + 1, c :: rest =>
    if c = mark then .ok ([], rest)
    else do
      let first ← piece (c :: rest)
      let others ← body rounds first.2
      return (first.1 :: others.1, others.2)

variable {mark piece unterminated} {ts : List (List χ)} {ps : List τ}
theorem length_le_flatten (h : Forall₂ (Piece mark piece) ts ps) :
    ts.length ≤ ts.flatten.length := by
  induction h with
  | nil => exact Nat.zero_le _
  | cons hfirst _ ih =>
    obtain ⟨_, _, rfl, -⟩ := hfirst.first
    rw [flatten_cons, length_append, length_cons, length_cons]
    omega

theorem body_text [DecidableEq χ] (h : Forall₂ (Piece mark piece) ts ps) {rounds : ℕ}
    (hrounds : ts.length < rounds) (rest : List χ) :
    body mark piece unterminated rounds (ts.flatten ++ mark :: rest) = .ok (ps, rest) := by
  induction h generalizing rounds with
  | nil =>
    cases rounds with
    | zero => cases hrounds
    | succ _ => exact if_pos rfl
  | @cons _ _ ts _ hfirst _ ih =>
    cases rounds with
    | zero => cases hrounds
    | succ _ =>
      have hrest := ih (Nat.lt_of_succ_lt_succ hrounds)
      obtain ⟨_, _, rfl, hne⟩ := hfirst.first
      have hread := hfirst.reads (ts.flatten ++ mark :: rest)
      rw [cons_append] at hread
      rw [flatten_cons, append_assoc, cons_append, body, if_neg hne]
      exact bind_eq_ok.mpr ⟨_, hread, bind_eq_ok.mpr ⟨_, hrest, rfl⟩⟩
end Body
end JsonReader

namespace Json
variable {φ : Type}
theorem hexEscape_eq {n : ℕ} (h : n < 65536) :
    hexEscape n = backslash :: 'u' :: (fixedDigits 16 4 n).map Nat.digitChar := by
  rw [hexEscape, ← padded_eq (by decide) (by decide) h]

def Printable (c : Char) : Prop :=
  32 ≤ c.toNat ∧ c.toNat ≤ 126 ∧ c ≠ quotation ∧ c ≠ backslash
deriving Decidable

def escapeAlphabet : List Char :=
  [backslash, quotation, 'u', 'n', 'r', 't'] ++ "0123456789abcdef".toList

theorem hexEscape_subset (n : ℕ) : hexEscape n ⊆ escapeAlphabet := by
  have hdigit : ∀ d < 16, Nat.digitChar d ∈ escapeAlphabet := by decide
  rw [hexEscape]
  refine cons_subset.mpr ⟨by decide, cons_subset.mpr ⟨by decide, ?_⟩⟩
  refine append_subset.mpr ⟨fun c hc => ?_, fun c hc => ?_⟩
  · rw [eq_of_mem_replicate hc]
    decide
  · obtain ⟨d, hd, rfl⟩ := isDigit_of_mem_toDigits (by decide) (by decide) n c hc
    exact hdigit d hd

theorem escapeChar_of_printable {c : Char} (h : Printable c) : escapeChar c = [c] := by
  obtain ⟨hle, hge, hquote, hslash⟩ := h
  rw [escapeChar, if_neg (not_or.mpr ⟨hquote, hslash⟩), if_neg (by omega), if_neg (by omega),
    if_neg (by omega), if_neg (by omega), if_neg (by omega), if_pos ⟨hle, hge⟩]

theorem escapeChar_of_not {c : Char} (h : ¬Printable c) :
    (∃ rest, escapeChar c = backslash :: rest) ∧ escapeChar c ⊆ escapeAlphabet := by
  rw [escapeChar]
  split_ifs with hmark hn hr ht hf hb hplain hunit
  · rcases hmark with rfl | rfl <;> exact ⟨⟨_, rfl⟩, by decide⟩
  iterate 5 exact ⟨⟨_, rfl⟩, by decide⟩
  · rw [not_or] at hmark
    exact absurd ⟨hplain.1, hplain.2, hmark⟩ h
  · exact ⟨⟨_, rfl⟩, hexEscape_subset _⟩
  · exact ⟨⟨_, rfl⟩, append_subset.mpr ⟨hexEscape_subset _, hexEscape_subset _⟩⟩

/-- A meaning for every way a value can be made. -/
structure Algebra (φ β : Type) where
  null : β
  bool : Bool → β
  int : ℤ → β
  float : φ → β
  str : String → β
  list : List β → β
  dict : List (String × β) → β

section Fold
variable {β : Type} (A : Algebra φ β)
mutual

def fold : Json φ → β
  | .null => A.null
  | .bool b => A.bool b
  | .int n => A.int n
  | .float x => A.float x
  | .str s => A.str s
  | .list items => A.list (foldItems items)
  | .dict entries => A.dict (foldEntries entries)

def foldItems : List (Json φ) → List β
  | [] => []
  | item :: items => fold item :: foldItems items

def foldEntries : List (String × Json φ) → List (String × β)
  | [] => []
  | (key, value) :: entries => (key, fold value) :: foldEntries entries
end

theorem fold_list (items : List (Json φ)) : fold A (.list items) = A.list (items.map (fold A)) := by
  have hitems : foldItems A items = items.map (fold A) := by
    induction items with
    | nil => rfl
    | cons _ _ ih => rw [foldItems, ih, map_cons]
  rw [fold, hitems]

theorem fold_dict (entries : List (String × Json φ)) :
    fold A (.dict entries) = A.dict (entries.map fun e => (e.1, fold A e.2)) := by
  have hentries : foldEntries A entries = entries.map fun e => (e.1, fold A e.2) := by
    induction entries with
    | nil => rfl
    | cons _ _ ih => rw [foldEntries, ih, map_cons]
  rw [fold, hentries]
end Fold

def depth : Json φ → ℕ :=
  fold ⟨0, fun _ => 0, fun _ => 0, fun _ => 0, fun _ => 0, fun ds => ds.foldr max 0 + 1,
    fun es => (es.map Prod.snd).foldr max 0 + 1⟩

def scalars : Json φ → List (Json φ) :=
  fold ⟨[.null], fun b => [.bool b], fun n => [.int n], fun x => [.float x], fun s => [.str s],
    List.flatten, fun es => es.flatMap fun e => .str e.1 :: e.2⟩

variable {items : List (Json φ)} {v : Json φ}
theorem depth_lt_list (h : v ∈ items) :
    v.depth < depth (.list items) := by
  rw [depth, fold_list]
  exact Nat.lt_succ_of_le (le_max_of_le' 0 (mem_map_of_mem h) le_rfl)

variable {entries : List (String × Json φ)} {e : String × Json φ}
theorem depth_lt_dict (h : e ∈ entries) :
    e.2.depth < depth (.dict entries) := by
  rw [depth, fold_dict]
  exact Nat.lt_succ_of_le (le_max_of_le' 0 (by rw [map_map]; exact mem_map_of_mem h) le_rfl)

variable {x : Json φ}
theorem scalars_list (h : v ∈ items) (hx : x ∈ v.scalars) :
    x ∈ scalars (.list items) := by
  rw [scalars, fold_list]
  exact mem_flatten_of_mem (mem_map_of_mem h) hx

theorem scalars_dict (h : e ∈ entries) (hx : x ∈ .str e.1 :: e.2.scalars) :
    x ∈ scalars (.dict entries) := by
  rw [scalars, fold_dict]
  exact mem_flatMap.mpr ⟨_, mem_map_of_mem h, hx⟩

theorem sortKeys_map {α β : Type} (f : α → β) (entries : List (String × α)) :
    sortKeys (entries.map fun e => (e.1, f e.2)) = (sortKeys entries).map fun e => (e.1, f e.2) :=
  (map_insertionSort _ _ (fun e : String × α => (e.1, f e.2)) entries
    fun _ _ _ _ => Iff.rfl).symm

theorem mem_sortKeys {α : Type} {entries : List (String × α)} {e : String × α} :
    e ∈ sortKeys entries ↔ e ∈ entries :=
  (perm_insertionSort _ entries).mem_iff

theorem dumpsItems_eq (p : Printer φ) (items : List (Json φ)) :
    dumpsItems p items = items.map (dumps p) := by
  induction items with
  | nil => rfl
  | cons _ _ ih => rw [dumpsItems, ih, map_cons]

theorem dumpsEntries_eq (p : Printer φ) (entries : List (String × Json φ)) :
    dumpsEntries p entries = entries.map fun e => (e.1, dumps p e.2) := by
  induction entries with
  | nil => rfl
  | cons entry _ ih =>
    obtain ⟨_, _⟩ := entry
    rw [dumpsEntries, ih, map_cons]

section Interpret
variable {χ ε σ V : Type} (D : Dialect χ ε σ V) (str : String → σ) (int : ℤ → V) (float : φ → V)

/-- What a dialect reads in the text of a value. -/
def interpret : Json φ → V :=
  fold ⟨D.null, D.bool, int, float, fun s => D.text (str s), D.array,
    fun es => D.object ((sortKeys es).map fun e => (str e.1, e.2))⟩

variable (p : Printer φ) (encode : Char → List χ)
def IsNumeral : Json φ → Prop
  | .int n => D.Numeral ((toString n).toList.flatMap encode) (int n)
  | .float x => D.Numeral ((p.float x).toList.flatMap encode) (float x)
  | _ => True

def structural : List Char :=
  "truefalsn".toList ++ ['[', ']', openBrace, closeBrace, ',', ':']

structure Encodes : Prop where
  plain : ∀ c ∈ structural, encode c = [D.char c]
  quoted : ∀ s, D.Quoted ((quote s).flatMap encode) (str s)

variable {D str int float p encode}

section
variable (h : Encodes D str encode)
include h
theorem flatMap_token {token : List Char} (htoken : ∀ c ∈ token, c ∈ structural) :
    token.flatMap encode = token.map D.char := by
  induction token with
  | nil => rfl
  | cons c _ ih =>
    rw [flatMap_cons, h.plain c (htoken c mem_cons_self),
      ih fun c hc => htoken c (mem_cons_of_mem _ hc), map_cons, singleton_append]

theorem flatMap_enclosed {first last : Char} (hfirst : first ∈ structural)
    (hlast : last ∈ structural) (ts : List (List Char)) :
    (first :: [','].intercalate ts ++ [last]).flatMap encode =
      D.enclosed first last (ts.map fun t => t.flatMap encode) := by
  rw [flatMap_append, flatMap_cons, flatMap_singleton, h.plain first hfirst,
    h.plain last hlast, flatMap_intercalate, h.plain ',' (by decide), Dialect.enclosed]
  rfl

theorem flatMap_entry (key : String) (t : List Char) :
    (quote key ++ ':' :: t).flatMap encode =
      D.entryText ((quote key).flatMap encode, t.flatMap encode) := by
  rw [flatMap_append, flatMap_cons, h.plain ':' (by decide), Dialect.entryText, singleton_append]

theorem dumps_text (v : Json φ) (hv : ∀ x ∈ v.scalars, IsNumeral D int float p encode x) :
    D.Text (v.depth + 1) ((dumps p v).flatMap encode) (interpret D str int float v) := by
  induction v using Json.induction with
  | null =>
    rw [dumps, flatMap_token h (by decide)]
    exact .literal (by simp [Dialect.literals, interpret, fold])
  | bool b =>
    cases b
    all_goals
      rw [dumps, flatMap_token h (by decide)]
      exact .literal (by simp [Dialect.literals, interpret, fold])
  | int n => exact .number (hv (.int n) mem_cons_self)
  | float x => exact .number (hv (.float x) mem_cons_self)
  | str s => exact .string (h.quoted s)
  | list _ ih =>
    rw [dumps, flatMap_enclosed h (by decide) (by decide), interpret, fold_list, dumpsItems_eq,
      map_map]
    refine .array ?_
    rw [forall₂_map_left_iff, forall₂_map_right_iff, forall₂_same]
    exact fun v hmem => (ih v hmem fun x hx => hv x (scalars_list hmem hx)).mono (depth_lt_list hmem)
  | dict entries ih =>
    have htexts : ((sortKeys (dumpsEntries p entries)).map fun e => quote e.1 ++ ':' :: e.2).map
        (fun t => t.flatMap encode) = ((sortKeys entries).map fun e =>
          ((quote e.1).flatMap encode, (dumps p e.2).flatMap encode)).map D.entryText := by
      rw [dumpsEntries_eq, sortKeys_map, map_map, map_map, map_map]
      exact map_congr_left fun e _ => flatMap_entry h e.1 (dumps p e.2)
    rw [dumps, flatMap_enclosed h (by decide) (by decide), htexts, interpret, fold_dict]
    refine .object ?_
    rw [sortKeys_map, forall₂_map_left_iff, forall₂_map_right_iff,
      forall₂_map_right_iff, forall₂_same]
    intro e he
    have hmem := mem_sortKeys.mp he
    refine ⟨h.quoted e.1, (ih e hmem fun x hx => hv x ?_).mono (depth_lt_dict hmem)⟩
    exact scalars_dict hmem (mem_cons_of_mem _ hx)
end
end Interpret
end Json
end WeakNet.Foundation
