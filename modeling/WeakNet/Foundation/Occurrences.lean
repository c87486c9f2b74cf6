import Mathlib.Data.List.Infix

/-! How often a word occurs in a text, for words whose first letter occurs nowhere else in them. A
letter that is not in the word separates the occurrences before it from those behind it. -/

namespace WeakNet.Foundation.Occurrences
open List
variable {α : Type}

variable {word text : List α} {c : α}
theorem prefix_append_cons (h : c ∉ word) (rest : List α) :
    word <+: text ++ c :: rest ↔ word <+: text := by
  induction text generalizing word with
  | nil =>
    cases word with
    | nil => exact iff_of_true nil_prefix nil_prefix
    | cons _ _ =>
      rw [nil_append, cons_prefix_cons, prefix_nil]
      exact ⟨fun hfront => absurd (hfront.1 ▸ mem_cons_self) h,
        fun hnil => absurd hnil (cons_ne_nil _ _)⟩
  | cons _ _ ih =>
    cases word with
    | nil => exact iff_of_true nil_prefix nil_prefix
    | cons _ _ =>
      rw [cons_append, cons_prefix_cons, cons_prefix_cons,
        ih fun hmem => h (mem_cons_of_mem _ hmem)]

/-- A letter stands for itself, or it is not in the word, and what is written in its place begins
with no letter of the word. -/
def Transparent (word : List α) (spelling : α → List α) : Prop :=
  ∀ c, spelling c = [c] ∨ c ∉ word ∧ ∃ c' rest, spelling c = c' :: rest ∧ c' ∉ word

variable {spelling : α → List α}
theorem prefix_flatMap {word' : List α} (h : Transparent word spelling) (hsubset : word' ⊆ word)
    (text : List α) :
    word' <+: text.flatMap spelling ↔ word' <+: text := by
  induction text generalizing word' with
  | nil => rfl
  | cons d _ ih =>
    cases word' with
    | nil => exact iff_of_true nil_prefix nil_prefix
    | cons _ _ =>
      obtain ⟨hw, hothers⟩ := cons_subset.mp hsubset
      rw [flatMap_cons]
      rcases h d with hself | ⟨hd, c', rest, hspelling, hc'⟩
      · rw [hself, singleton_append, cons_prefix_cons, cons_prefix_cons, ih hothers]
      · rw [hspelling, cons_append, cons_prefix_cons, cons_prefix_cons]
        exact ⟨fun hfront => absurd (hfront.1 ▸ hw) hc', fun hfront => absurd (hfront.1 ▸ hw) hd⟩

variable [DecidableEq α]

def occurrences (word : List α) : List α → ℕ
  | [] => if word = [] then 1 else 0
  | c :: text => (if word <+: c :: text then 1 else 0) + occurrences word text

section Word
variable {first : α} {others : List α}
theorem occurrences_cons_of_ne (h : c ≠ first) (text : List α) :
    occurrences (first :: others) (c :: text) = occurrences (first :: others) text := by
  rw [occurrences, if_neg fun hfront => h (cons_prefix_cons.mp hfront).1.symm, Nat.zero_add]

theorem occurrences_append_of_notMem {before : List α} (h : first ∉ before) (text : List α) :
    occurrences (first :: others) (before ++ text) = occurrences (first :: others) text := by
  induction before with
  | nil => rfl
  | cons _ _ ih =>
    rw [mem_cons, not_or] at h
    rw [cons_append, occurrences_cons_of_ne (Ne.symm h.1), ih h.2]

theorem occurrences_of_notMem (h : first ∉ text) :
    occurrences (first :: others) text = 0 := by
  rw [← append_nil text, occurrences_append_of_notMem h]
  rfl

theorem occurrences_self_append (h : first ∉ others) (text : List α) :
    occurrences (first :: others) (first :: others ++ text) =
      1 + occurrences (first :: others) text := by
  rw [cons_append, occurrences, ← cons_append, if_pos (prefix_append _ _),
    occurrences_append_of_notMem h]

theorem occurrences_other_append {others' : List α} (h : first ∉ others')
    (hle : ¬first :: others <+: first :: others') (hge : ¬first :: others' <+: first :: others)
    (text : List α) : occurrences (first :: others) (first :: others' ++ text) =
      occurrences (first :: others) text := by
  have hnot : ¬first :: others <+: first :: others' ++ text := by
    intro hfront
    rcases prefix_or_prefix_of_prefix hfront (prefix_append _ _) with hword | hword
    · exact hle hword
    · exact hge hword
  rw [cons_append, occurrences, ← cons_append, if_neg hnot,
    occurrences_append_of_notMem h, Nat.zero_add]

theorem occurrences_append_cons (h : c ∉ first :: others) (text rest : List α) :
    occurrences (first :: others) (text ++ c :: rest) =
      occurrences (first :: others) text + occurrences (first :: others) rest := by
  have hne : c ≠ first := by
    rintro rfl
    exact h mem_cons_self
  induction text with
  | nil =>
    rw [nil_append, occurrences_cons_of_ne hne]
    exact (Nat.zero_add _).symm
  | cons _ _ ih =>
    rw [cons_append, occurrences, ih, occurrences, ← cons_append, Nat.add_assoc]
    simp only [prefix_append_cons h]

theorem occurrences_flatMap (h : Transparent (first :: others) spelling)
    (hfirst : ∀ c, spelling c = [c] ∨ first ∉ spelling c) (text : List α) :
    occurrences (first :: others) (text.flatMap spelling) =
      occurrences (first :: others) text := by
  induction text with
  | nil => rfl
  | cons d text ih =>
    by_cases hself : spelling d = [d]
    · have hfront := prefix_flatMap h (List.Subset.refl _) (d :: text)
      rw [flatMap_cons, hself, singleton_append] at hfront ⊢
      rw [occurrences, occurrences, ih]
      simp [hfront]
    · have hnot := (h d).resolve_left hself
      have hne : d ≠ first := by
        rintro rfl
        exact hnot.1 mem_cons_self
      rw [flatMap_cons, occurrences_append_of_notMem ((hfirst d).resolve_left hself), ih,
        occurrences_cons_of_ne hne]
end Word

theorem notMem_literal {s : String} {c : Char} (h : ∃ cs, s = String.ofList cs ∧ c ∉ cs) :
    c ∉ s.toList := by
  obtain ⟨cs, rfl, hc⟩ := h
  rwa [String.toList_ofList]
end WeakNet.Foundation.Occurrences
