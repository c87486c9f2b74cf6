import WeakNet.Foundation.Fallible
import WeakNet.Foundation.Json

/-! A dialect says which characters a text is made of, how strings and numbers are read, what values
are built and which errors are raised. `Text` describes texts without spaces by what they are made
of, and `parse_text` says that the reader accepts them with the value they stand for. -/

namespace WeakNet.Foundation.JsonReader
open Fallible List
open Json (quotation)

/-- Characters `χ`, errors `ε`, texts `σ` and values `V`. -/
structure Dialect (χ ε σ V : Type) where
  char : Char → χ
  isSpace : χ → Bool
  string : List χ → Except ε (σ × List χ)
  number : List χ → Except ε (V × List χ)
  null : V
  bool : Bool → V
  text : σ → V
  array : List V → V
  object : List (σ × V) → V
  tooDeep : ε
  missingValue : ε
  unexpectedEnd : ε
  badToken : ε
  badKey : ε
  missingColon : ε
  badObject : ε
  badArray : ε
  trailing : ε

def openBrace : Char := Char.ofNat 123
def closeBrace : Char := Char.ofNat 125

def marks : List Char :=
  [openBrace, closeBrace, '[', ']', quotation, ',', ':', 't', 'f', 'n']

/-- Decided along the list: without this instance, by enumerating all characters. -/
scoped instance decidableBAllChar {p : Char → Prop} [DecidablePred p] {l : List Char} :
    Decidable (∀ c ∈ l, p c) :=
  List.decidableBAll p l

section Intercalate
variable {α : Type} {c : α} {ts : List (List α)}
theorem intercalate_cons (c : α) (t : List α) (ts : List (List α)) :
    [c].intercalate (t :: ts) = t ++ ts.flatMap (c :: ·) := by
  induction ts generalizing t with
  | nil => simp
  | cons _ _ ih => simp [ih]

theorem flatMap_intercalate {β : Type} (f : α → List β) (c : α) (ts : List (List α)) :
    ([c].intercalate ts).flatMap f = (f c).intercalate (ts.map fun t => t.flatMap f) := by
  induction ts with
  | nil => rfl
  | cons _ ts => cases ts <;> simp_all

theorem length_le_intercalate (h : ∀ t ∈ ts, t ≠ []) :
    ts.length ≤ ([c].intercalate ts).length := by
  induction ts with
  | nil => exact Nat.zero_le _
  | cons t ts ih =>
    have hfirst := length_pos_of_ne_nil (h t mem_cons_self)
    have hothers := ih fun t ht => h t (mem_cons_of_mem _ ht)
    cases ts <;> simp_all <;> omega

theorem length_le_of_mem_intercalate {t : List α} (h : t ∈ ts) :
    t.length ≤ ([c].intercalate ts).length := by
  induction ts with
  | nil => cases h
  | cons _ ts ih =>
    rcases mem_cons.mp h with rfl | h
    · simp [intercalate_cons]
    · have := ih h
      cases ts <;> simp_all
      omega
end Intercalate

namespace Dialect
variable {χ ε σ V : Type} (D : Dialect χ ε σ V)
structure Lawful : Prop where
  distinct : ∀ c ∈ marks, ∀ c' ∈ marks, D.char c = D.char c' → c = c'
  notSpace : ∀ c ∈ marks, D.isSpace (D.char c) = false

def skip (text : List χ) : List χ := text.dropWhile D.isSpace

def take : List χ → Except ε (χ × List χ)
  | [] => .error D.unexpectedEnd
  | c :: rest => .ok (c, rest)

def Ends (rest : List χ) : Prop :=
  ∀ c ∈ rest.head?, D.isSpace c = true ∨ ∃ mark ∈ [',', ']', closeBrace], c = D.char mark

structure Quoted (t : List χ) (s : σ) : Prop where
  first : ∃ rest, t = D.char quotation :: rest
  reads : ∀ rest, D.string (t ++ rest) = .ok (s, rest)

structure Numeral (t : List χ) (v : V) : Prop where
  first : ∃ c rest, t = c :: rest ∧ D.isSpace c = false ∧ ∀ mark ∈ marks, c ≠ D.char mark
  reads : ∀ rest, D.Ends rest → D.number (t ++ rest) = .ok (v, rest)

def entryText (e : List χ × List χ) : List χ := e.1 ++ D.char ':' :: e.2

def enclosed (first last : Char) (texts : List (List χ)) : List χ :=
  D.char first :: ([D.char ','].intercalate texts ++ [D.char last])

def literals : List (String × V) :=
  [("true", D.bool true), ("false", D.bool false), ("null", D.null)]

inductive Node (R : List χ → V → Prop) : List χ → V → Prop
  | literal {name : String} {v : V} (h : (name, v) ∈ D.literals) : Node R (name.toList.map D.char) v
  | number {t : List χ} {v : V} (h : D.Numeral t v) : Node R t v
  | string {t : List χ} {s : σ} (h : D.Quoted t s) : Node R t (D.text s)
  | array {ts : List (List χ)} {vs : List V} (h : List.Forall₂ R ts vs) :
    Node R (D.enclosed '[' ']' ts) (D.array vs)
  | object {ts : List (List χ × List χ)} {es : List (σ × V)}
    (h : List.Forall₂ (fun t e => D.Quoted t.1 e.1 ∧ R t.2 e.2) ts es) :
    Node R (D.enclosed openBrace closeBrace (ts.map D.entryText)) (D.object es)

def Text : ℕ → List χ → V → Prop
  | 0 => fun _ _ => False
  | levels + 1 => D.Node (Text levels)

variable {D} {R R' : List χ → V → Prop} {t rest : List χ} {v : V}
variable {c : Char} {levels : ℕ}
theorem Ends.mark (hc : c ∈ [',', ']', closeBrace] ) (rest : List χ) :
    D.Ends (D.char c :: rest) := by
  intro c' hc'
  exact .inr ⟨c, hc, (Option.some.inj hc').symm⟩

theorem length_lt_enclosed {first last : Char} {ts : List (List χ)} {t : List χ} (h : t ∈ ts) :
    t.length < (D.enclosed first last ts).length := by
  have hle : t.length ≤ ([D.char ','].intercalate ts).length := length_le_of_mem_intercalate h
  rw [enclosed, length_cons, length_append]
  omega

theorem Node.imp (hR : ∀ t' v', t'.length < t.length → R t' v' → R' t' v') (h : D.Node R t v) :
    D.Node R' t v := by
  cases h with
  | literal h => exact .literal h
  | number h => exact .number h
  | string h => exact .string h
  | array h => exact .array (forall₂_of_mem h fun t ht v => hR t v (length_lt_enclosed ht))
  | object h =>
    refine .object (forall₂_of_mem h fun t ht e he => ⟨he.1, hR t.2 e.2 ?_ he.2⟩)
    refine Nat.lt_of_le_of_lt ?_ (length_lt_enclosed (mem_map_of_mem ht))
    rw [entryText, length_append, length_cons]
    omega

theorem Text.mono {n m : ℕ} (hle : n ≤ m) (h : D.Text n t v) : D.Text m t v := by
  induction n generalizing m t v with
  | zero => exact h.elim
  | succ n ih =>
    cases m with
    | zero => cases hle
    | succ => exact Node.imp (fun t v _ ht => ih (Nat.le_of_succ_le_succ hle) ht) h

theorem skip_of_not_space {c : χ} (hc : D.isSpace c = false) (rest : List χ) :
    D.skip (c :: rest) = c :: rest :=
  dropWhile_cons_of_neg (by rw [hc]; exact Bool.false_ne_true)

theorem skip_of_mark (hD : D.Lawful) (hc : c ∈ marks) (rest : List χ) :
    D.skip (D.char c :: rest) = D.char c :: rest :=
  skip_of_not_space (hD.notSpace c hc) rest

theorem char_ne (hD : D.Lawful) {c' : Char} (hc : c ∈ marks) (hc' : c' ∈ marks) (hne : c ≠ c') :
    D.char c ≠ D.char c' :=
  fun heq => hne (hD.distinct c hc c' hc' heq)

theorem take_skip (hD : D.Lawful) (hc : c ∈ marks) (rest : List χ) :
    D.take (D.skip (D.char c :: rest)) = .ok (D.char c, rest) := by
  rw [skip_of_mark hD hc]
  rfl

theorem closing_mark (h : c ∈ [']', closeBrace] ) :
    c ∈ marks ∧ c ∈ [',', ']', closeBrace] ∧ ',' ≠ c := by
  have hall : ∀ c ∈ [']', closeBrace], c ∈ marks ∧ c ∈ [',', ']', closeBrace] ∧ ',' ≠ c := by decide
  exact hall c h

theorem mem_literals {name : String} (h : (name, v) ∈ D.literals) :
    name = "true" ∧ v = D.bool true ∨ name = "false" ∧ v = D.bool false ∨
      name = "null" ∧ v = D.null := by
  simpa [literals] using h

theorem Node.head (hD : D.Lawful) (h : D.Node R t v) :
    ∃ c rest, t = c :: rest ∧ D.isSpace c = false ∧ c ≠ D.char ']' := by
  have hmark : ∀ c ∈ marks, c ≠ ']' → D.isSpace (D.char c) = false ∧ D.char c ≠ D.char ']' :=
    fun c hc hne => ⟨hD.notSpace c hc, char_ne hD hc (by decide) hne⟩
  cases h with
  | literal h =>
    rcases mem_literals h with ⟨rfl, -⟩ | ⟨rfl, -⟩ | ⟨rfl, -⟩
    all_goals exact ⟨_, _, rfl, hmark _ (by decide) (by decide)⟩
  | number h =>
    obtain ⟨c, rest, rfl, hspace, hmarks⟩ := h.first
    exact ⟨c, rest, rfl, hspace, hmarks ']' (by decide)⟩
  | string h =>
    obtain ⟨rest, rfl⟩ := h.first
    exact ⟨_, rest, rfl, hmark quotation (by decide) (by decide)⟩
  | array => exact ⟨_, _, rfl, hmark '[' (by decide) (by decide)⟩
  | object => exact ⟨_, _, rfl, hmark openBrace (by decide) (by decide)⟩

theorem Text.head (hD : D.Lawful) (h : D.Text levels t v) :
    ∃ c rest, t = c :: rest ∧ D.isSpace c = false := by
  cases levels with
  | zero => exact h.elim
  | succ =>
    obtain ⟨c, rest, htext, hspace, -⟩ := Node.head hD h
    exact ⟨c, rest, htext, hspace⟩

theorem Text.of_length (hD : D.Lawful) {n : ℕ} (h : D.Text levels t v) (hn : t.length ≤ n) :
    D.Text n t v := by
  induction levels generalizing n t v with
  | zero => exact h.elim
  | succ _ ih =>
    obtain ⟨c, rest, htext, -⟩ := Node.head hD h
    have hpos : 0 < t.length := htext ▸ Nat.succ_pos rest.length
    cases n with
    | zero => omega
    | succ => exact Node.imp (fun t' v' hlt ht => ih ht (by omega)) h

variable [DecidableEq χ] (D)
def expect : List Char → List χ → Except ε (List χ)
  | [], text => .ok text
  | c :: token, text => do
    let next ← D.take text
    if next.1 = D.char c then expect token next.2 else .error D.badToken

def token (name : String) (v : V) (text : List χ) : Except ε (V × List χ) := do
  let rest ← D.expect name.toList text
  return (v, rest)

section Sequences
variable {τ : Type} (item : List χ → Except ε (τ × List χ)) (last : Char) (bad : ε)
def loop : ℕ → List χ → Except ε (List τ × List χ)
  | 0, _ => .error D.unexpectedEnd
  | rounds + 1, text => do
    let first ← item text
    let delimiter ← D.take (D.skip first.2)
    if delimiter.1 = D.char last then return ([first.1], delimiter.2)
    else if delimiter.1 = D.char ',' then do
      let others ← loop rounds delimiter.2
      return (first.1 :: others.1, others.2)
    else .error bad

def sequence (build : List τ → V) (text : List χ) : Except ε (V × List χ) :=
  if (D.skip text).head? = some (D.char last) then .ok (build [], (D.skip text).tail)
  else do
    let items ← D.loop item last bad ((D.skip text).length + 1) (D.skip text)
    return (build items.1, items.2)
end Sequences

def member (item : List χ → Except ε (V × List χ)) (text : List χ) :
    Except ε ((σ × V) × List χ) := do
  let start ← D.take (D.skip text)
  refuse (start.1 ≠ D.char quotation) D.badKey
  let key ← D.string (D.skip text)
  let colon ← D.take (D.skip key.2)
  refuse (colon.1 ≠ D.char ':') D.missingColon
  let value ← item colon.2
  return ((key.1, value.1), value.2)

def value : ℕ → List χ → Except ε (V × List χ)
  | 0, _ => .error D.tooDeep
  | levels + 1, text =>
    match D.skip text with
    | [] => .error D.missingValue
    | c :: rest =>
      if c = D.char openBrace then
        D.sequence (D.member (value levels)) closeBrace D.badObject D.object rest
      else if c = D.char '[' then D.sequence (value levels) ']' D.badArray D.array rest
      else if c = D.char quotation then do
        let s ← D.string (c :: rest)
        return (D.text s.1, s.2)
      else if c = D.char 't' then D.token "true" (D.bool true) (c :: rest)
      else if c = D.char 'f' then D.token "false" (D.bool false) (c :: rest)
      else if c = D.char 'n' then D.token "null" D.null (c :: rest)
      else D.number (c :: rest)

def parse (levels : ℕ) (text : List χ) : Except ε V := do
  let result ← D.value levels (D.skip text)
  if D.skip result.2 = [] then return result.1 else .error D.trailing

variable {D}
theorem expect_map (token : List Char) (rest : List χ) :
    D.expect token (token.map D.char ++ rest) = .ok rest := by
  induction token with
  | nil => rfl
  | cons _ _ ih =>
    rw [map_cons, cons_append, expect]
    exact (if_pos rfl).trans ih

section Sequences
variable {τ : Type} {item : List χ → Except ε (τ × List χ)} {last : Char} {bad : ε}
  {ts : List (List χ)} {as : List τ}
def Reads (D : Dialect χ ε σ V) (item : List χ → Except ε (τ × List χ)) (t : List χ) (a : τ) :
    Prop :=
  ∀ rest, D.Ends rest → item (t ++ rest) = .ok (a, rest)

theorem loop_text (hD : D.Lawful) (hlast : last ∈ [']', closeBrace])
    (h : Forall₂ (D.Reads item) ts as) (hne : ts ≠ []) {rounds : ℕ}
    (hrounds : ts.length ≤ rounds) (rest : List χ) :
    D.loop item last bad rounds ([D.char ','].intercalate ts ++ D.char last :: rest) =
      .ok (as, rest) := by
  obtain ⟨hmark, hends, hcomma⟩ := closing_mark hlast
  induction h generalizing rounds with
  | nil => exact absurd rfl hne
  | @cons _ a ts as hfirst hothers ih =>
    cases rounds with
    | zero => cases hrounds
    | succ =>
      cases hothers with
      | nil =>
        rw [loop, intercalate_singleton]
        refine bind_eq_ok.mpr ⟨(a, D.char last :: rest), hfirst _ (.mark hends rest), ?_⟩
        refine bind_eq_ok.mpr ⟨(D.char last, rest), take_skip hD hmark rest, ?_⟩
        exact if_pos rfl
      | @cons t' a' ts as =>
        have hrest := ih (cons_ne_nil t' ts) (Nat.le_of_succ_le_succ hrounds)
        rw [loop, intercalate_cons_cons, append_assoc, append_assoc, singleton_append]
        refine bind_eq_ok.mpr ⟨(a, _), hfirst _ (.mark mem_cons_self _), ?_⟩
        refine bind_eq_ok.mpr ⟨(D.char ',', _), take_skip hD (by decide) _, ?_⟩
        refine (if_neg (char_ne hD (by decide) hmark hcomma)).trans ((if_pos rfl).trans ?_)
        exact bind_eq_ok.mpr ⟨(a' :: as, rest), hrest, rfl⟩

theorem sequence_text (hD : D.Lawful) (hlast : last ∈ [']', closeBrace])
    (h : Forall₂ (D.Reads item) ts as)
    (hhead : ∀ t ∈ ts, ∃ c rest, t = c :: rest ∧ D.isSpace c = false ∧ c ≠ D.char last)
    (build : List τ → V) (rest : List χ) :
    D.sequence item last bad build ([D.char ','].intercalate ts ++ D.char last :: rest) =
      .ok (build as, rest) := by
  obtain ⟨hmark, -, -⟩ := closing_mark hlast
  cases h with
  | nil =>
    have hskip : D.skip ([D.char ','].intercalate [] ++ D.char last :: rest) =
        D.char last :: rest := skip_of_mark hD hmark rest
    rw [sequence, hskip]
    exact if_pos rfl
  | @cons t a ts as hfirst hothers =>
    obtain ⟨c, body, rfl, hspace, hne⟩ := hhead t mem_cons_self
    obtain ⟨tail, htail⟩ : ∃ tail, [D.char ','].intercalate ((c :: body) :: ts) ++
        D.char last :: rest = c :: tail := by
      rw [intercalate_cons]
      exact ⟨_, rfl⟩
    have hskip := skip_of_not_space (D := D) hspace tail
    have hlength : ((c :: body) :: ts).length ≤ (c :: tail).length + 1 := by
      have hne : ∀ t ∈ (c :: body) :: ts, t ≠ [] := by
        intro t ht
        obtain ⟨c, rest, rfl, -⟩ := hhead t ht
        exact cons_ne_nil c rest
      have hitems := length_le_intercalate (c := D.char ',') hne
      rw [← htail, length_append]
      omega
    have hloop : D.loop item last bad ((c :: tail).length + 1) (c :: tail) = .ok (a :: as, rest) := by
      rw [← htail]
      exact loop_text hD hlast (.cons hfirst hothers) (cons_ne_nil _ _) (htail ▸ hlength) rest
    rw [sequence, htail, hskip]
    refine (if_neg ?_).trans (bind_eq_ok.mpr ⟨_, hloop, rfl⟩)
    exact fun heq => hne (Option.some.inj heq)

theorem loop_first {rounds : ℕ} {text : List χ} {read : List τ × List χ}
    (h : D.loop item last bad rounds text = .ok read) :
    ∃ a rest as c others, item text = .ok (a, rest) ∧ read.1 = a :: as ∧
      D.skip rest = c :: others ∧ (c = D.char last ∨ c = D.char ',') := by
  cases rounds with
  | zero => cases h
  | succ =>
    obtain ⟨⟨a, rest⟩, hitem, h⟩ := bind_eq_ok.mp h
    obtain ⟨⟨c, others⟩, hnext, h⟩ := bind_eq_ok.mp h
    have hskip : D.skip rest = c :: others := by
      generalize D.skip rest = text at hnext
      cases text with
      | nil => cases hnext
      | cons => cases hnext; rfl
    dsimp only at h
    split_ifs at h with hlast hcomma
    · cases h
      exact ⟨a, rest, [], c, others, hitem, rfl, hskip, .inl hlast⟩
    · obtain ⟨more, -, h⟩ := bind_eq_ok.mp h
      cases h
      exact ⟨a, rest, more.1, c, others, hitem, rfl, hskip, .inr hcomma⟩

theorem loop_error (hD : D.Lawful) (hlast : last ∈ [']', closeBrace])
    (h : Forall₂ (D.Reads item) ts as) {text : List χ} {e : ε} (herror : item text = .error e)
    (rounds : ℕ) :
    ∃ e, D.loop item last bad rounds (ts.flatMap (· ++ [D.char ',']) ++ text) = .error e := by
  obtain ⟨hmark, -, hcomma⟩ := closing_mark hlast
  induction h generalizing rounds with
  | nil =>
    cases rounds with
    | zero => exact ⟨_, rfl⟩
    | succ => exact ⟨e, bind_eq_error.mpr (.inl herror)⟩
  | @cons t a ts as hfirst _ ih =>
    cases rounds with
    | zero => exact ⟨_, rfl⟩
    | succ rounds =>
      obtain ⟨e, hothers⟩ := ih rounds
      refine ⟨e, ?_⟩
      rw [loop, flatMap_cons, append_assoc, append_assoc, singleton_append]
      refine bind_eq_error.mpr (.inr ⟨(a, _), hfirst _ (.mark mem_cons_self _), ?_⟩)
      refine bind_eq_error.mpr (.inr ⟨(D.char ',', _), take_skip hD (by decide) _, ?_⟩)
      refine (if_neg (char_ne hD (by decide) hmark hcomma)).trans ((if_pos rfl).trans ?_)
      exact bind_eq_error.mpr (.inl hothers)
end Sequences

theorem member_eq (hD : D.Lawful) (item : List χ → Except ε (V × List χ)) {t : List χ} {key : σ}
    (hkey : D.Quoted t key) (rest : List χ) :
    D.member item (t ++ D.char ':' :: rest) = do
      let value ← item rest
      return ((key, value.1), value.2) := by
  obtain ⟨body, rfl⟩ := hkey.first
  have hread := hkey.reads (D.char ':' :: rest)
  rw [cons_append] at hread ⊢
  simp [member, skip_of_mark hD (by decide : quotation ∈ marks), hread,
    skip_of_mark hD (by decide : ':' ∈ marks), take, refuse, bind, Except.bind]

theorem member_reads (hD : D.Lawful) {item : List χ → Except ε (V × List χ)}
    {text : List χ × List χ} {e : σ × V} (hkey : D.Quoted text.1 e.1)
    (hvalue : D.Reads item text.2 e.2) : D.Reads (D.member item) (D.entryText text) e := by
  intro rest hrest
  rw [entryText, append_assoc, cons_append, member_eq hD item hkey]
  exact bind_eq_ok.mpr ⟨_, hvalue rest hrest, rfl⟩

theorem value_of_mark (hD : D.Lawful) (hc : c ∈ marks) (levels : ℕ) (rest : List χ) :
    D.value (levels + 1) (D.char c :: rest) =
      if c = openBrace then
        D.sequence (D.member (D.value levels)) closeBrace D.badObject D.object rest
      else if c = '[' then D.sequence (D.value levels) ']' D.badArray D.array rest
      else if c = quotation then do
        let s ← D.string (D.char c :: rest)
        return (D.text s.1, s.2)
      else if c = 't' then D.token "true" (D.bool true) (D.char c :: rest)
      else if c = 'f' then D.token "false" (D.bool false) (D.char c :: rest)
      else if c = 'n' then D.token "null" D.null (D.char c :: rest)
      else D.number (D.char c :: rest) := by
  have hiff : ∀ c' ∈ marks, (D.char c = D.char c') = (c = c') := fun c' hc' =>
    propext ⟨hD.distinct c hc c' hc', congrArg D.char⟩
  simp [value, skip_of_mark hD hc, hiff openBrace (by decide), hiff '[' (by decide),
    hiff quotation (by decide), hiff 't' (by decide), hiff 'f' (by decide), hiff 'n' (by decide)]

theorem token_text {name : String} {token : List Char} (hname : name.toList = c :: token) (v : V)
    (rest : List χ) :
    D.token name v (D.char c :: (token.map D.char ++ rest)) = .ok (v, rest) := by
  have hread := D.expect_map name.toList rest
  rw [hname, map_cons, cons_append] at hread
  rw [Dialect.token, hname]
  exact bind_eq_ok.mpr ⟨rest, hread, rfl⟩

theorem value_text (hD : D.Lawful) (h : D.Text levels t v) (hrest : D.Ends rest) :
    D.value levels (t ++ rest) = .ok (v, rest) := by
  induction levels generalizing t v rest with
  | zero => exact h.elim
  | succ levels ih =>
    cases h with
    | literal h =>
      rcases mem_literals h with ⟨rfl, rfl⟩ | ⟨rfl, rfl⟩ | ⟨rfl, rfl⟩
      all_goals exact (value_of_mark hD (by decide) levels _).trans (token_text rfl _ rest)
    | number h =>
      obtain ⟨c, body, rfl, hspace, hmarks⟩ := h.first
      have hread := h.reads rest hrest
      rw [cons_append] at hread ⊢
      simp only [value, skip_of_not_space hspace, hmarks _ (by decide : openBrace ∈ marks),
        hmarks _ (by decide : '[' ∈ marks), hmarks _ (by decide : quotation ∈ marks),
        hmarks _ (by decide : 't' ∈ marks), hmarks _ (by decide : 'f' ∈ marks),
        hmarks _ (by decide : 'n' ∈ marks), ↓reduceIte]
      exact hread
    | string h =>
      obtain ⟨body, rfl⟩ := h.first
      have hread := h.reads rest
      rw [cons_append] at hread ⊢
      rw [value_of_mark hD (by decide)]
      exact bind_eq_ok.mpr ⟨_, hread, rfl⟩
    | @array _ _ h =>
      rw [enclosed, cons_append, append_assoc, singleton_append, value_of_mark hD (by decide)]
      refine sequence_text hD (by decide) (h.imp fun t v ht rest hrest => ih ht hrest) ?_ _ _
      intro t ht
      obtain ⟨v, -, htext⟩ := exists_right h ht
      cases levels with
      | zero => exact htext.elim
      | succ => exact Node.head hD htext
    | @object ts es h =>
      rw [enclosed, cons_append, append_assoc, singleton_append, value_of_mark hD (by decide)]
      have hreads : Forall₂ (D.Reads (D.member (D.value levels))) (ts.map D.entryText) es := by
        rw [forall₂_map_left_iff]
        exact h.imp fun t e he => member_reads hD he.1 fun rest hrest => ih he.2 hrest
      refine sequence_text hD (by decide) hreads ?_ _ _
      intro t ht
      obtain ⟨entry, hentry, rfl⟩ := mem_map.mp ht
      obtain ⟨e, -, hquoted, -⟩ := exists_right h hentry
      obtain ⟨body, hbody⟩ := hquoted.first
      refine ⟨D.char quotation, body ++ D.char ':' :: entry.2, ?_, hD.notSpace _ (by decide),
        char_ne hD (by decide) (by decide) (by decide)⟩
      rw [entryText, hbody, cons_append]

theorem parse_text (hD : D.Lawful) (h : D.Text levels t v) {before after : List χ}
    (hbefore : ∀ c ∈ before, D.isSpace c) (hafter : ∀ c ∈ after, D.isSpace c) :
    D.parse levels (before ++ t ++ after) = .ok v := by
  obtain ⟨c, rest, htext, hspace⟩ := h.head hD
  have hskip : D.skip (before ++ t ++ after) = t ++ after := by
    rw [skip, append_assoc, dropWhile_append_of_pos hbefore, htext, cons_append]
    exact skip_of_not_space hspace _
  have hends : D.Ends after := fun c hc => .inl (hafter c (mem_of_mem_head? hc))
  have hend : D.skip after = [] := by
    rw [skip, ← append_nil after, dropWhile_append_of_pos hafter]
    rfl
  rw [parse, hskip]
  exact bind_eq_ok.mpr ⟨(v, after), value_text hD h hends, if_pos hend⟩
end Dialect
end WeakNet.Foundation.JsonReader
