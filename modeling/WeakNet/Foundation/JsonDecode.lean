import WeakNet.Foundation.JsonText
import WeakNet.Foundation.Numerals

/-! The grammar of JSON as a dialect: strings with their escapes, and numbers without leading zeros,
which are integers if they have neither a fraction nor an exponent. A decoder may also read names of
floats that are not numbers. What `json.dumps` writes decodes to the same value with sorted keys. -/

namespace WeakNet.Foundation.JsonDecode
open Fallible Digits JsonReader List Numeral
open Json (quotation backslash hexEscape hexEscape_eq escapeChar quote sortKeys)

inductive Code where
  | char (c : Char)
  | unit (n : ℕ)
deriving DecidableEq

def hexValue (c : Char) : Option ℕ :=
  (List.range 16).find? fun d => c = Nat.digitChar d || c = (Nat.digitChar d).toUpper

def escapes : List (Char × Char) :=
  [(quotation, quotation), (backslash, backslash), ('/', '/'), ('b', Char.ofNat 8),
    ('f', Char.ofNat 12), ('n', '\n'), ('r', '\r'), ('t', '\t')]

def unit (digits : List Char) : Option ℕ := do
  let values ← digits.mapM hexValue
  return values.foldl (fun n d => 16 * n + d) 0

def escape : List Char → Except Unit (Code × List Char)
  | [] => .error ()
  | kind :: rest =>
    if kind = 'u' then
      if rest.length < 4 then .error ()
      else
        match unit (rest.take 4) with
        | some n => .ok (.unit n, rest.drop 4)
        | none => .error ()
    else
      match escapes.lookup kind with
      | some c => .ok (.char c, rest)
      | none => .error ()

def code : List Char → Except Unit (Code × List Char)
  | [] => .error ()
  | c :: rest =>
    if c = backslash then escape rest
    else if c.toNat < 32 then .error ()
    else .ok (.char c, rest)

def isHigh (n : ℕ) : Bool := 55296 ≤ n && n < 56320
def isLow (n : ℕ) : Bool := 56320 ≤ n && n < 57344

def assemble : Option ℕ → List Code → Option (List Char)
  | none, [] => some []
  | some _, [] => none
  | none, .char c :: rest => (assemble none rest).map (c :: ·)
  | some _, .char _ :: _ => none
  | none, .unit n :: rest =>
    if isLow n then none
    else if isHigh n then assemble (some n) rest
    else (assemble none rest).map (Char.ofNat n :: ·)
  | some high, .unit low :: rest =>
    if isLow low then
      (assemble none rest).map
        (Char.ofNat (65536 + (high - 55296) * 1024 + (low - 56320)) :: ·)
    else none

def string : List Char → Except Unit (String × List Char)
  | [] => .error ()
  | c :: rest =>
    if c ≠ quotation then .error ()
    else do
      let codes ← body quotation code () (rest.length + 1) rest
      match assemble none codes.1 with
      | some cs => .ok (String.ofList cs, codes.2)
      | none => .error ()

def isSpace (c : Char) : Bool := c ∈ [' ', '\n', '\r', '\t']

def IsNumber (n : Numeral) : Prop :=
  n.whole ≠ [] ∧ (n.whole.length = 1 ∨ n.whole.head? ≠ some 0) ∧ n.fraction ≠ some [] ∧
    n.exponent.map Prod.snd ≠ some []
deriving Decidable

/-- The floats numbers are read as, and the names of other floats. -/
structure Floats (φ : Type) where
  ofRat : ℚ → φ
  constants : List (String × φ) := []

section Decode
variable {φ : Type} (float : Floats φ)
def ofNumeral (n : Numeral) : Json φ :=
  if n.fraction.isNone && n.exponent.isNone then .int n.integer else .float (float.ofRat n.value)

def number (text : List Char) : Except Unit (Json φ × List Char) :=
  let scanned := Numeral.scan id text
  if IsNumber scanned.1 then .ok (ofNumeral float scanned.1, scanned.2)
  else
    match float.constants.find? fun constant => constant.1.toList.isPrefixOf text with
    | some constant => .ok (.float constant.2, text.drop constant.1.toList.length)
    | none => .error ()

def dialect : Dialect Char Unit String (Json φ) where
  char := id
  isSpace := isSpace
  string := string
  number := number float
  null := .null
  bool := .bool
  text := .str
  array := .list
  object := .dict
  tooDeep := ()
  missingValue := ()
  unexpectedEnd := ()
  badToken := ()
  badKey := ()
  missingColon := ()
  badObject := ()
  badArray := ()
  trailing := ()

/-- Every level of nesting has a character of its own, so the text bounds the levels. -/
def decode (text : List Char) : Option (Json φ) :=
  ((dialect float).parse text.length text).toOption
end Decode

def Spells (t : List Char) (c : Char) : Prop :=
  ∃ ts codes, t = ts.flatten ∧ List.Forall₂ (Piece quotation code) ts codes ∧
    ∀ rest, assemble none (codes ++ rest) = (assemble none rest).map (c :: ·)

variable {spelling : Char → List Char} {cs : List Char}
theorem Spells.codes (h : ∀ c ∈ cs, Spells (spelling c) c) :
    ∃ ts codes, cs.flatMap spelling = ts.flatten ∧ Forall₂ (Piece quotation code) ts codes ∧
      assemble none codes = some cs := by
  induction cs with
  | nil => exact ⟨[], [], rfl, .nil, rfl⟩
  | cons _ _ ih =>
    obtain ⟨hc, hcs⟩ := forall_mem_cons.mp h
    obtain ⟨ts, codes, ht, hcodes, hassemble⟩ := hc
    obtain ⟨ts', codes', ht', hcodes', hassemble'⟩ := ih hcs
    refine ⟨ts ++ ts', codes ++ codes', ?_, rel_append hcodes hcodes', ?_⟩
    · rw [flatMap_cons, ht, ht', flatten_append]
    · rw [hassemble, hassemble', Option.map_some]

variable {s : String}
theorem quoted_of_spells {φ : Type} {float : Floats φ} (h : ∀ c ∈ s.toList, Spells (spelling c) c) :
    (dialect float).Quoted (quotation :: s.toList.flatMap spelling ++ [quotation]) s where
  first := ⟨_, rfl⟩
  reads rest := by
    obtain ⟨ts, codes, ht, hcodes, hassemble⟩ := Spells.codes h
    have hlen : ts.length < (ts.flatten ++ quotation :: rest).length + 1 := by
      have := length_le_flatten hcodes
      rw [length_append]
      omega
    have hbody : body quotation code () ((ts.flatten ++ quotation :: rest).length + 1)
        (ts.flatten ++ quotation :: rest) = .ok (codes, rest) := body_text hcodes hlen rest
    have htext : quotation :: s.toList.flatMap spelling ++ [quotation] ++ rest =
        quotation :: (ts.flatten ++ quotation :: rest) := by
      rw [ht, append_assoc, cons_append, singleton_append]
    rw [htext]
    change string (quotation :: (ts.flatten ++ quotation :: rest)) = _
    rw [string, if_neg (not_not.mpr rfl)]
    refine bind_eq_ok.mpr ⟨_, hbody, ?_⟩
    rw [hassemble]
    exact congrArg (fun s => Except.ok (s, rest)) String.ofList_toList

variable {t : List Char} {c : Char} {n : ℕ} {ts : List (List Char)}
theorem spells_of_piece (h : Piece quotation code t (.char c)) : Spells t c :=
  ⟨[t], [.char c], (append_nil t).symm, .cons h .nil, fun _ => rfl⟩

theorem spells_char (hquote : c ≠ quotation) (hslash : c ≠ backslash) (hcontrol : 32 ≤ c.toNat) :
    Spells [c] c := by
  refine spells_of_piece ⟨⟨c, [], rfl, hquote⟩, fun rest => ?_⟩
  rw [singleton_append, code, if_neg hslash, if_neg (by omega)]

variable {kind : Char}
theorem spells_escape (hkind : kind ≠ 'u') (h : escapes.lookup kind = some c) :
    Spells [backslash, kind] c := by
  refine spells_of_piece ⟨⟨backslash, [kind], rfl, by decide⟩, fun rest => ?_⟩
  rw [cons_append, singleton_append, code, if_pos rfl, escape, if_neg hkind, h]

theorem hexValue_digitChar {d : ℕ} (hd : d < 16) : hexValue (Nat.digitChar d) = some d := by
  have hall : ∀ d < 16, hexValue (Nat.digitChar d) = some d := by decide
  exact hall d hd

theorem mapM_hexValue {digits : List ℕ} (h : ∀ d ∈ digits, d < 16) :
    (digits.map Nat.digitChar).mapM hexValue = some digits := by
  induction digits with
  | nil => rfl
  | cons _ _ ih =>
    obtain ⟨hd, hdigits⟩ := forall_mem_cons.mp h
    rw [map_cons, mapM_cons, hexValue_digitChar hd, ih hdigits]
    rfl

theorem unit_hexEscape (h : n < 65536) :
    unit ((fixedDigits 16 4 n).map Nat.digitChar) = some n := by
  rw [unit, mapM_hexValue (fixedDigits_lt (by decide) 4 n)]
  exact congrArg some (foldl_fixedDigits h)

theorem piece_unit (h : n < 65536) : Piece quotation code (hexEscape n) (.unit n) := by
  have hlen : ((fixedDigits 16 4 n).map Nat.digitChar).length = 4 := by
    rw [length_map, length_fixedDigits]
  rw [hexEscape_eq h]
  refine ⟨⟨backslash, _, rfl, by decide⟩, fun rest => ?_⟩
  rw [cons_append, cons_append, code, if_pos rfl, escape, if_pos rfl,
    if_neg (by rw [length_append, hlen]; omega), take_left' hlen, drop_left' hlen,
    unit_hexEscape h]

theorem toNat_cases (c : Char) :
    c.toNat < 55296 ∨ 57344 ≤ c.toNat ∧ c.toNat < 1114112 := by
  rcases c.valid with h | ⟨h, h'⟩
  · exact .inl h
  · exact .inr ⟨h, h'⟩

theorem isHigh_iff : isHigh n ↔ 55296 ≤ n ∧ n < 56320 := by simp [isHigh]

theorem isLow_iff : isLow n ↔ 56320 ≤ n ∧ n < 57344 := by simp [isLow]

theorem spells_unit (h : c.toNat < 65536) : Spells (hexEscape c.toNat) c := by
  refine ⟨[_], [_], (append_nil _).symm, .cons (piece_unit h) .nil, fun rest => ?_⟩
  have hrange := toNat_cases c
  have hlow : ¬isLow c.toNat := by
    rw [isLow_iff]
    omega
  have hhigh : ¬isHigh c.toNat := by
    rw [isHigh_iff]
    omega
  rw [singleton_append, assemble, if_neg hlow, if_neg hhigh, Char.ofNat_toNat]

theorem spells_pair (h : 65536 ≤ c.toNat) :
    Spells (hexEscape (55296 + (c.toNat - 65536) / 1024) ++
      hexEscape (56320 + (c.toNat - 65536) % 1024)) c := by
  have hrange := toNat_cases c
  have hfirst : 55296 + (c.toNat - 65536) / 1024 < 65536 := by omega
  have hsecond : 56320 + (c.toNat - 65536) % 1024 < 65536 := by omega
  refine ⟨[_, _], [_, _], ?_, .cons (piece_unit hfirst) (.cons (piece_unit hsecond) .nil),
    fun rest => ?_⟩
  · rw [flatten_cons, flatten_cons, flatten_nil, append_nil]
  · have hlow : ¬isLow (55296 + (c.toNat - 65536) / 1024) := by
      rw [isLow_iff]
      omega
    have hhigh : isHigh (55296 + (c.toNat - 65536) / 1024) := by
      rw [isHigh_iff]
      omega
    have hpair : isLow (56320 + (c.toNat - 65536) % 1024) := by
      rw [isLow_iff]
      omega
    have hvalue : 65536 + (55296 + (c.toNat - 65536) / 1024 - 55296) * 1024 +
        (56320 + (c.toNat - 65536) % 1024 - 56320) = c.toNat := by omega
    rw [cons_append, singleton_append, assemble, if_neg hlow, if_pos hhigh, assemble,
      if_pos hpair, hvalue, Char.ofNat_toNat]

theorem spells_mark (h : c = quotation ∨ c = backslash) : Spells [backslash, c] c := by
  rcases h with rfl | rfl <;> exact spells_escape (by decide) (by decide)

theorem spells_control (h : c.toNat = n) (hkind : kind ≠ 'u')
    (hlookup : escapes.lookup kind = some (Char.ofNat n)) : Spells [backslash, kind] c := by
  rw [← h, Char.ofNat_toNat] at hlookup
  exact spells_escape hkind hlookup

theorem spells_escapeChar (c : Char) : Spells (escapeChar c) c := by
  rw [escapeChar]
  split_ifs with hmark hn hr ht hf hb hplain hunit
  · exact spells_mark hmark
  · exact spells_control hn (by decide) (by decide)
  · exact spells_control hr (by decide) (by decide)
  · exact spells_control ht (by decide) (by decide)
  · exact spells_control hf (by decide) (by decide)
  · exact spells_control hb (by decide) (by decide)
  · exact spells_char (fun h => hmark (.inl h)) (fun h => hmark (.inr h)) hplain.1
  · exact spells_unit hunit
  · exact spells_pair (by omega)

theorem assemble_length {codes : List Code} {high : Option ℕ} {cs : List Char}
    (h : assemble high codes = some cs) : cs.length ≤ codes.length := by
  induction codes generalizing high cs with
  | nil => cases high <;> cases h; exact Nat.le_refl _
  | cons code codes ih =>
    have hcons : ∀ c, (assemble none codes).map (c :: ·) = some cs →
        cs.length ≤ codes.length + 1 := by
      intro c hmap
      obtain ⟨cs', hcs', rfl⟩ := Option.map_eq_some_iff.mp hmap
      exact Nat.succ_le_succ (ih hcs')
    cases high <;> cases code <;> rw [assemble] at h
    · exact hcons _ h
    · split_ifs at h
      · exact Nat.le_succ_of_le (ih h)
      · exact hcons _ h
    · cases h
    · split_ifs at h
      exact hcons _ h

theorem unit_quotation {digits : List Char} {n : ℕ} (h : unit digits = some n) :
    quotation ∉ digits := by
  obtain ⟨values, hvalues, -⟩ := Option.bind_eq_some_iff.mp h
  intro hmem
  obtain ⟨d, -, hd⟩ := exists_right (forall₂_of_mapM hvalues) hmem
  have hnone : hexValue quotation = none := by decide
  cases hnone.symm.trans hd

section Quotation
variable {t tail rest after : List Char} (htail : ∀ c ∈ tail.head?, c = quotation)
include htail
theorem four_le_of_unit {n : ℕ} (hlong : 4 ≤ (t ++ tail).length)
    (h : unit ((t ++ tail).take 4) = some n) : 4 ≤ t.length := by
  by_contra hlt
  cases tail with
  | nil => exact hlt (append_nil t ▸ hlong)
  | cons c tail =>
    obtain rfl : c = quotation := htail c rfl
    obtain ⟨k, hk⟩ : ∃ k, 4 - t.length = k + 1 := ⟨3 - t.length, by omega⟩
    refine unit_quotation h ?_
    rw [take_append, hk]
    exact mem_append_right _ mem_cons_self

/-- An escape does not reach beyond a quotation mark. -/
theorem escape_rest {p : Code} (h : escape (t ++ tail) = .ok (p, rest)) :
    t = [] ∧ rest = tail.tail ∨ ∃ t', t'.length < t.length ∧ rest = t' ++ tail := by
  cases t with
  | nil =>
    cases tail with
    | nil => cases h
    | cons c tail =>
      obtain rfl : c = quotation := htail c rfl
      cases h
      exact .inl ⟨rfl, rfl⟩
  | cons kind t =>
    refine .inr ?_
    rw [cons_append, escape] at h
    split_ifs at h with hkind hshort
    · cases hunit : unit ((t ++ tail).take 4) with
      | none =>
        rw [hunit] at h
        cases h
      | some n =>
        have hlen := four_le_of_unit htail (Nat.le_of_not_lt hshort) hunit
        rw [hunit] at h
        cases h
        exact ⟨t.drop 4, by rw [length_drop, length_cons]; omega, drop_append_of_le_length hlen⟩
    · cases hlookup : escapes.lookup kind with
      | none =>
        rw [hlookup] at h
        cases h
      | some c =>
        rw [hlookup] at h
        cases h
        exact ⟨t, Nat.lt_succ_self _, rfl⟩

theorem body_rest {rounds : ℕ} {codes : List Code}
    (h : body quotation code () rounds (t ++ tail) = .ok (codes, after)) :
    (∃ rounds codes, body quotation code () rounds tail.tail = .ok (codes, after)) ∨
      codes.length ≤ t.length ∧ (codes.length = t.length →
        (∀ c ∈ t, c ≠ quotation ∧ c ≠ backslash ∧ 32 ≤ c.toNat) ∧ after = tail.tail) := by
  induction rounds generalizing t codes with
  | zero => cases h
  | succ rounds ih =>
    cases t with
    | nil =>
      cases tail with
      | nil => cases h
      | cons c tail =>
        obtain rfl : c = quotation := htail c rfl
        cases h
        exact .inr ⟨Nat.le_refl _, fun _ => ⟨forall_mem_nil _, rfl⟩⟩
    | cons c t =>
      rw [cons_append, body] at h
      split_ifs at h with hmark
      · cases h
        exact .inr ⟨Nat.zero_le _, fun hlen => absurd hlen (Nat.succ_ne_zero _).symm⟩
      · obtain ⟨⟨p, rest⟩, hcode, h⟩ := bind_eq_ok.mp h
        obtain ⟨⟨codes, after⟩, hbody, h⟩ := bind_eq_ok.mp h
        cases h
        rw [code] at hcode
        split_ifs at hcode with hslash hcontrol
        · rcases escape_rest htail hcode with ⟨-, rfl⟩ | ⟨t', hlt, rfl⟩
          · exact .inl ⟨_, _, hbody⟩
          · refine (ih hbody).imp_right fun hcodes => ?_
            simp only [length_cons]
            exact ⟨by omega, fun hlen => by omega⟩
        · cases hcode
          refine (ih hbody).imp_right fun hcodes => ⟨Nat.succ_le_succ hcodes.1, fun hlen => ?_⟩
          obtain ⟨hplain, hafter⟩ := hcodes.2 (Nat.succ.inj hlen)
          exact ⟨forall_mem_cons.mpr ⟨⟨hmark, hslash, by omega⟩, hplain⟩, hafter⟩
end Quotation

section Numbers
variable {φ : Type} {float : Floats φ}
theorem lawful : (dialect float).Lawful where
  distinct := fun _ _ _ _ h => h
  notSpace := by
    change ∀ c ∈ marks, isSpace c = false
    decide

theorem stops_of_ends {rest : List Char} (h : (dialect float).Ends rest) :
    Numeral.Stops id alphabet rest := by
  have hspace : ∀ c ∈ alphabet, ¬isSpace c := by decide
  have hmark : ∀ mark ∈ [',', ']', closeBrace], mark ∉ alphabet := by decide
  intro c hc a ha heq
  rcases h c hc with h | ⟨mark, hmem, hc⟩
  · rw [heq] at h
    exact hspace a ha h
  · exact hmark mark hmem ((heq.symm.trans hc : a = mark) ▸ ha)

theorem text_head {n : Numeral} (hn : n.Decimal) (h : n.whole ≠ []) :
    ∃ c rest, n.text = c :: rest ∧ c ∈ '-' :: decimals := by
  obtain ⟨d, digits, hwhole⟩ := exists_cons_of_ne_nil h
  have hd : d < 10 := hn.whole d (hwhole ▸ mem_cons_self)
  rw [text, hwhole]
  cases n.negative with
  | true => exact ⟨'-', _, rfl, mem_cons_self⟩
  | false => exact ⟨_, _, rfl, mem_cons_of_mem _ (digitChar_mem hd)⟩

theorem numeral_text {n : Numeral} (hn : n.Decimal) (h : IsNumber n) :
    (dialect float).Numeral n.text (ofNumeral float n) where
  first := by
    have hspace : ∀ c ∈ '-' :: decimals, isSpace c = false := by decide
    have hmark : ∀ c ∈ '-' :: decimals, ∀ mark ∈ marks, c ≠ mark := by decide
    obtain ⟨c, rest, htext, hc⟩ := text_head hn h.1
    exact ⟨c, rest, htext, hspace c hc, hmark c hc⟩
  reads rest hrest := by
    have hlawful : Numeral.Lawful (id : Char → Char) := fun _ _ _ _ h => h
    have hscan := scan_text hlawful hn (stops_of_ends hrest)
    rw [map_id] at hscan
    change number float (n.text ++ rest) = _
    rw [number, hscan]
    exact if_pos h

theorem digitsOf_wellFormed (n : ℕ) : digitsOf n ≠ [] ∧
    ((digitsOf n).length = 1 ∨ (digitsOf n).head? ≠ some 0) := by
  rcases digitsOf_head n with h | ⟨d, digits, h, hd⟩ <;> rw [h]
  · exact ⟨cons_ne_nil _ _, .inl rfl⟩
  · exact ⟨cons_ne_nil _ _, .inr fun hzero => hd (Option.some.inj hzero)⟩

theorem numeral_int (z : ℤ) : (dialect float).Numeral (toString z).toList (.int z) := by
  have hdigits := digitsOf_wellFormed z.natAbs
  have hnumber : IsNumber (ofInt z) :=
    ⟨hdigits.1, hdigits.2, (Option.some_ne_none _).symm, (Option.some_ne_none _).symm⟩
  have hread : (dialect float).Numeral (ofInt z).text (ofNumeral float (ofInt z)) :=
    numeral_text (ofInt_decimal z) hnumber
  have hvalue : ofNumeral float (ofInt z) = .int z :=
    congrArg Json.int (integer_ofInt z)
  rwa [text_ofInt, hvalue] at hread
end Numbers

section Values
variable {φ : Type} {float : Floats φ} {before after : List Char}
theorem decode_text {levels : ℕ} {t : List Char} {v : Json φ} (h : (dialect float).Text levels t v)
    (hbefore : ∀ c ∈ before, isSpace c) (hafter : ∀ c ∈ after, isSpace c) :
    decode float (before ++ t ++ after) = some v := by
  have hlen : t.length ≤ (before ++ t ++ after).length := by
    rw [length_append, length_append]
    omega
  rw [decode, Dialect.parse_text lawful (h.of_length lawful hlen) hbefore hafter]
  rfl

def sorted : Json φ → Json φ :=
  Json.fold ⟨.null, .bool, .int, .float, .str, .list, fun es => .dict (sortKeys es)⟩

theorem interpret_eq : Json.interpret (dialect float) id .int .float = sorted :=
  congrArg Json.fold (congrArg (Json.Algebra.mk _ _ _ _ _ _)
    (funext fun es => congrArg Json.dict (map_id (sortKeys es))))

/-- The characters of numerals and of the names `NaN` and `Infinity`. -/
def floatAlphabet : List Char := alphabet ++ "NaInfity".toList

variable (float) in
def readable (p : Json.Printer φ) : Json φ → Prop
  | .float x =>
    (p.float x).toList ⊆ floatAlphabet ∧ (dialect float).Numeral (p.float x).toList (.float x)
  | _ => True

variable {encode : Char → List Char}
theorem flatMap_eq_self (h : ∀ c ∈ cs, encode c = [c]) : cs.flatMap encode = cs :=
  (flatMap_congr h).trans (flatMap_singleton' cs)

theorem decode_dumps {p : Json.Printer φ}
    (hplain : ∀ c ∈ Json.structural ++ floatAlphabet, encode c = [c])
    (hquote : encode quotation = [quotation])
    (hspell : ∀ c, Spells ((escapeChar c).flatMap encode) c) {v : Json φ}
    (hv : ∀ x ∈ v.scalars, readable float p x) (hbefore : ∀ c ∈ before, isSpace c)
    (hafter : ∀ c ∈ after, isSpace c) :
    decode float (before ++ (Json.dumps p v).flatMap encode ++ after) = some (sorted v) := by
  have hnumber : ∀ {t : List Char}, t ⊆ floatAlphabet → t.flatMap encode = t := fun ht =>
    flatMap_eq_self fun c hc => hplain c (mem_append_right _ (ht hc))
  have hencodes : Json.Encodes (dialect float) id encode := by
    refine ⟨fun c hc => hplain c (mem_append_left _ hc), fun s => ?_⟩
    rw [quote, flatMap_append, flatMap_cons, flatMap_singleton, hquote, flatMap_assoc]
    exact quoted_of_spells fun c _ => hspell c
  have hscalar : ∀ x, readable float p x →
      Json.IsNumeral (dialect float) .int .float p encode x := by
    intro x hx
    cases x with
    | int z =>
      have hsubset : (ofInt z).text ⊆ floatAlphabet :=
        fun c hc => mem_append_left _ (text_subset (ofInt_decimal z) hc)
      rw [Json.IsNumeral, ← text_ofInt, hnumber hsubset, text_ofInt]
      exact numeral_int z
    | float _ =>
      rw [Json.IsNumeral, hnumber hx.1]
      exact hx.2
    | _ => trivial
  have htext := Json.dumps_text hencodes v fun x hx => hscalar x (hv x hx)
  rw [interpret_eq] at htext
  exact decode_text htext hbefore hafter
end Values

def Plain (s : String) : Prop :=
  ∀ c ∈ s.toList, c ≠ quotation ∧ c ≠ backslash ∧ 32 ≤ c.toNat
deriving Decidable

theorem Plain.append {s' : String} (h : Plain s) (h' : Plain s') : Plain (s ++ s') := by
  intro c hc
  rw [String.toList_append] at hc
  exact (mem_append.mp hc).elim (h c) (h' c)

def quoted (text : List Char) : List Char := quotation :: text ++ [quotation]

def enclosed (first last : Char) (texts : List (List Char)) : List Char :=
  first :: ([','].intercalate texts ++ [last])

def fieldText (field : String × List Char) : List Char :=
  quoted field.1.toList ++ ':' :: field.2

def objectText (fields : List (String × List Char)) : List Char :=
  enclosed openBrace closeBrace (fields.map fieldText)

variable {separator : Char}
theorem mem_intercalate (h : c ∈ [separator].intercalate ts) :
    c = separator ∨ ∃ t ∈ ts, c ∈ t := by
  cases ts with
  | nil => cases h
  | cons _ _ =>
    simp only [intercalate_cons, mem_append, mem_flatMap, mem_cons] at h ⊢
    grind

theorem intercalate_concat (h : ts ≠ []) (t : List Char) :
    [separator].intercalate (ts ++ [t]) = [separator].intercalate ts ++ separator :: t := by
  cases ts with
  | nil => exact absurd rfl h
  | cons _ _ => simp [intercalate_cons]

theorem dropLast_objectText (fields : List (String × List Char)) :
    (objectText fields).dropLast = openBrace :: [','].intercalate (fields.map fieldText) := by
  rw [objectText, enclosed, ← cons_append, dropLast_concat]

variable {fields : List (String × List Char)}
theorem objectText_cons (field : String × List Char) (h : fields ≠ []) :
    objectText (field :: fields) =
      openBrace :: (fieldText field ++ ',' :: (objectText fields).tail) := by
  obtain ⟨next, fields, rfl⟩ := exists_cons_of_ne_nil h
  rw [objectText, objectText, enclosed, enclosed, map_cons, map_cons, intercalate_cons_cons,
    append_assoc, append_assoc]
  rfl

theorem objectText_concat (h : fields ≠ []) (field : String × List Char) :
    objectText (fields ++ [field]) =
      (objectText fields).dropLast ++ ',' :: fieldText field ++ [closeBrace] := by
  have hne : fields.map fieldText ≠ [] := fun hnil => h (map_eq_nil_iff.mp hnil)
  rw [dropLast_objectText, objectText, enclosed, map_append, map_singleton,
    intercalate_concat hne, cons_append, cons_append, append_assoc]

def Visible (t : List Char) : Prop := ∀ c ∈ t, 32 ≤ c.toNat
deriving Decidable

theorem Visible.append {t' : List Char} (h : Visible t) (h' : Visible t') : Visible (t ++ t') :=
  fun c hc => (mem_append.mp hc).elim (h c) (h' c)

theorem Visible.cons (hc : 32 ≤ c.toNat) (h : Visible t) : Visible (c :: t) :=
  forall_mem_cons.mpr ⟨hc, h⟩

theorem Visible.quoted (h : Visible t) : Visible (quoted t) :=
  (Visible.cons (by decide) h).append (by decide)

theorem Visible.enclosed {first last : Char} (hfirst : 32 ≤ first.toNat) (hlast : 32 ≤ last.toNat)
    (h : ∀ t ∈ ts, Visible t) : Visible (enclosed first last ts) := by
  refine .cons hfirst (.append (fun c hc => ?_) (.cons hlast (forall_mem_nil _)))
  rcases mem_intercalate hc with rfl | ⟨t, ht, hct⟩
  · decide
  · exact h t ht c hct

theorem visible_fieldText {field : String × List Char}
    (h : Visible field.1.toList ∧ Visible field.2) : Visible (fieldText field) :=
  h.1.quoted.append (.cons (by decide) h.2)

theorem visible_objectText (h : ∀ field ∈ fields, Visible field.1.toList ∧ Visible field.2) :
    Visible (objectText fields) := by
  refine .enclosed (by decide) (by decide) fun t ht => ?_
  obtain ⟨field, hfield, rfl⟩ := mem_map.mp ht
  exact visible_fieldText (h field hfield)

section Documents
variable {φ : Type} (float : Floats φ)
structure Document (t : List Char) (v : Json φ) : Prop where
  visible : Visible t
  text : (dialect float).Text t.length t v

variable {float}
variable {t : List Char} {entries : List (String × Json φ)}
theorem Document.of_node {v : Json φ} (hvisible : Visible t)
    (h : (dialect float).Node (Document float) t v) : Document float t v := by
  obtain ⟨c, rest, htext, -⟩ := Dialect.Node.head lawful h
  refine ⟨hvisible, ?_⟩
  have hlen : t.length = rest.length + 1 := by rw [htext, length_cons]
  rw [hlen]
  exact h.imp fun t' v' hlt ht' => ht'.text.mono (by omega)

theorem Document.decode {v : Json φ} (h : Document float t v) :
    decode float t = some v := by
  have hdecode := decode_text h.text (forall_mem_nil _) (forall_mem_nil _)
  rwa [nil_append, append_nil] at hdecode

theorem Document.string (h : ∀ c ∈ s.toList, Spells (spelling c) c)
    (hvisible : ∀ c ∈ s.toList, Visible (spelling c)) :
    Document float (quoted (s.toList.flatMap spelling)) (.str s) := by
  refine .of_node (.quoted fun c hc => ?_) (.string (quoted_of_spells h))
  obtain ⟨c', hc', hmem⟩ := mem_flatMap.mp hc
  exact hvisible c' hc' c hmem

theorem Plain.visible (h : Plain s) : Visible s.toList := fun c hc => (h c hc).2.2

theorem Plain.quoted (h : Plain s) : (dialect float).Quoted (quoted s.toList) s := by
  have hquoted : (dialect float).Quoted (quotation :: s.toList.flatMap (fun c => [c]) ++ [quotation])
      s := quoted_of_spells fun c hc => spells_char (h c hc).1 (h c hc).2.1 (h c hc).2.2
  rwa [flatMap_singleton'] at hquoted

theorem Document.plain (h : Plain s) : Document float (quoted s.toList) (.str s) :=
  .of_node h.visible.quoted (.string h.quoted)

theorem plain_of_subset (h : s.toList ⊆ alphabet) : Plain s := by
  have hall : ∀ c ∈ alphabet, c ≠ quotation ∧ c ≠ backslash ∧ 32 ≤ c.toNat := by decide
  exact fun c hc => hall c (h hc)

theorem plain_int (z : ℤ) : Plain (toString z) := by
  refine plain_of_subset ?_
  rw [← text_ofInt]
  exact text_subset (ofInt_decimal z)

theorem Document.numeral {n : Numeral} (hn : n.Decimal) (h : IsNumber n) :
    Document float n.text (ofNumeral float n) := by
  have hvisible : Visible alphabet := by decide
  exact .of_node (fun c hc => hvisible c (text_subset hn hc)) (.number (numeral_text hn h))

theorem Document.int (z : ℤ) : Document float (toString z).toList (.int z) :=
  .of_node (plain_int z).visible (.number (numeral_int z))

theorem Document.nat (n : ℕ) : Document float (toString n).toList (.int n) := .int (Int.ofNat n)

theorem Document.bool (b : Bool) :
    Document float (if b then "true" else "false").toList (.bool b) := by
  cases b with
  | true => exact .of_node (by decide) (.literal (List.mem_cons_self : ("true", _) ∈ _))
  | false =>
    exact .of_node (by decide)
      (.literal (List.mem_cons_of_mem _ List.mem_cons_self : ("false", _) ∈ _))

theorem Document.array {vs : List (Json φ)} (h : Forall₂ (Document float) ts vs) :
    Document float (enclosed '[' ']' ts) (.list vs) := by
  refine .of_node (.enclosed (by decide) (by decide) fun t ht => ?_) (.array h)
  obtain ⟨v, -, hv⟩ := exists_right h ht
  exact hv.visible

variable (float) in
structure Field (field : String × List Char) (entry : String × Json φ) : Prop where
  key : field.1 = entry.1
  plain : Plain field.1
  value : Document float field.2 entry.2

theorem Field.of {key : String} {v : Json φ} (hkey : Plain key) (h : Document float t v) :
    Field float (key, t) (key, v) :=
  ⟨rfl, hkey, h⟩

section
variable (h : List.Forall₂ (Field float) fields entries)
include h
theorem Field.visible {field : String × List Char} (hfield : field ∈ fields) :
    Visible field.1.toList ∧ Visible field.2 := by
  obtain ⟨entry, -, hentry⟩ := exists_right h hfield
  exact ⟨hentry.plain.visible, hentry.value.visible⟩

theorem Document.object :
    Document float (objectText fields) (.dict entries) := by
  have htexts : fields.map fieldText =
      (fields.map fun f => (quoted f.1.toList, f.2)).map (dialect float).entryText := by
    rw [map_map]
    rfl
  refine .of_node (visible_objectText fun field hfield => Field.visible h hfield) ?_
  rw [objectText, htexts]
  refine .object ?_
  rw [forall₂_map_left_iff]
  exact h.imp fun field entry hentry => ⟨hentry.key ▸ hentry.plain.quoted, hentry.value⟩

theorem Field.keys : entries.map Prod.fst = fields.map Prod.fst :=
  map_eq_of_forall₂ h fun _ _ _ hfield => hfield.key.symm
end
end Documents

section Object
variable {φ : Type} {float : Floats φ} {text : List Char} {v : Json φ}
theorem decode_object (hfirst : text.head? = some quotation)
    (h : decode float (openBrace :: text) = some v) :
    ∃ read, (dialect float).loop ((dialect float).member ((dialect float).value text.length))
      closeBrace () (text.length + 1) text = .ok read ∧ v = .dict read.1 := by
  have hskip : ∀ c ∈ marks, ∀ rest, (dialect float).skip (c :: rest) = c :: rest :=
    fun c hc => Dialect.skip_of_mark lawful hc
  have htext : (dialect float).skip text = text := by
    obtain ⟨rest, rfl⟩ := head?_eq_some_iff.mp hfirst
    exact hskip _ (by decide) rest
  have hobject : (dialect float).value (text.length + 1) (openBrace :: text) =
      (dialect float).sequence ((dialect float).member ((dialect float).value text.length))
        closeBrace () .dict text :=
    (Dialect.value_of_mark lawful (by decide) _ _).trans (if_pos rfl)
  have hmore : ¬text.head? = some closeBrace := by
    rw [hfirst]
    decide
  rw [decode] at h
  generalize hparse : (dialect float).parse _ (openBrace :: text) = parsed at h
  obtain rfl : parsed = .ok v := by
    cases parsed with
    | error => cases h
    | ok => exact congrArg Except.ok (Option.some.inj h)
  obtain ⟨result, hvalue, hresult⟩ := bind_eq_ok.mp hparse
  rw [hskip _ (by decide), length_cons, hobject, Dialect.sequence, htext] at hvalue
  obtain ⟨read, hloop, hread⟩ := bind_eq_ok.mp ((if_neg hmore).symm.trans hvalue)
  refine ⟨read, hloop, ?_⟩
  cases hread
  split_ifs at hresult
  cases hresult
  rfl

theorem string_body {rest : List Char} (h : string (quotation :: text) = .ok (s, rest)) :
    ∃ codes, body quotation code () (text.length + 1) text = .ok (codes, rest) ∧
      assemble none codes = some s.toList := by
  rw [string, if_neg (not_not.mpr rfl)] at h
  obtain ⟨⟨codes, after⟩, hbody, h⟩ := bind_eq_ok.mp h
  cases hassemble : assemble none codes with
  | none =>
    rw [hassemble] at h
    cases h
  | some =>
    rw [hassemble] at h
    cases h
    exact ⟨codes, hbody, hassemble.trans (congrArg some String.toList_ofList.symm)⟩

/-- If the first entry of an object is a string, its text is read to a quotation mark that a comma
or the end of the object follows. -/
theorem decode_first {key : String} (hkey : Plain key)
    (h : decode float (openBrace :: (quoted key.toList ++ ':' :: quotation :: text)) = some v) :
    ∃ s rest entries, string (quotation :: text) = .ok (s, rest) ∧
      v = .dict ((key, .str s) :: entries) ∧
      ∀ c ∈ (rest.dropWhile isSpace).head?, c = closeBrace ∨ c = ',' := by
  obtain ⟨read, hloop, rfl⟩ := decode_object rfl h
  obtain ⟨_, _, entries, c, others, hentry, hentries, hskip, hc⟩ := Dialect.loop_first hloop
  obtain ⟨value, hvalue, hresult⟩ := bind_eq_ok.mp
    ((Dialect.member_eq lawful _ hkey.quoted (quotation :: text)).symm.trans hentry)
  cases hresult
  generalize length _ = levels at hvalue
  cases levels with
  | zero => cases hvalue
  | succ levels =>
    have hstring : (dialect float).value (levels + 1) (quotation :: text) = do
        let s ← string (quotation :: text)
        return (.str s.1, s.2) :=
      (Dialect.value_of_mark lawful (by decide) levels text).trans
        ((if_neg (by decide)).trans ((if_neg (by decide)).trans (if_pos rfl)))
    rw [hstring] at hvalue
    obtain ⟨s, hs, hvalue⟩ := bind_eq_ok.mp hvalue
    cases hvalue
    refine ⟨s.1, s.2, entries, hs, congrArg Json.dict hentries, fun c' hc' => ?_⟩
    have hskip : s.2.dropWhile isSpace = c :: others := hskip
    rw [hskip] at hc'
    exact Option.some.inj hc' ▸ hc

theorem decode_unreadable {fields : List (String × List Char)} {entries : List (String × Json φ)}
    (hfields : Forall₂ (Field float) fields entries) (hne : fields ≠ [])
    (herror : ∀ levels, ∃ e,
      (dialect float).member ((dialect float).value levels) text = .error e) :
    decode float (openBrace :: (fields.flatMap (fun f => fieldText f ++ [',']) ++ text)) = none := by
  let levels := (fields.flatMap (fun f => fieldText f ++ [',']) ++ text).length
  obtain ⟨e, herror⟩ := herror levels
  have hreads : Forall₂ ((dialect float).Reads
      ((dialect float).member ((dialect float).value levels))) (fields.map fieldText) entries := by
    rw [forall₂_map_left_iff]
    refine forall₂_of_mem hfields fun field hmem entry hentry => ?_
    have hlen : field.2.length ≤ levels := by
      obtain ⟨before, after, rfl⟩ := append_of_mem hmem
      simp [levels, fieldText]
      omega
    have hkey : (dialect float).Quoted (quoted field.1.toList) entry.1 :=
      hentry.key ▸ hentry.plain.quoted
    change (dialect float).Reads _ ((dialect float).entryText (quoted field.1.toList, field.2)) entry
    exact Dialect.member_reads lawful hkey fun rest hrest =>
      Dialect.value_text lawful (hentry.value.text.mono hlen) hrest
  obtain ⟨e, hloop⟩ : ∃ e, (dialect float).loop _ closeBrace () (levels + 1)
      ((fields.map fieldText).flatMap (· ++ [',']) ++ text) = .error e :=
    Dialect.loop_error lawful (by decide) hreads herror (levels + 1)
  refine Option.eq_none_iff_forall_ne_some.mpr fun v h => ?_
  obtain ⟨read, hok, -⟩ := decode_object (by obtain ⟨_, _, rfl⟩ := exists_cons_of_ne_nil hne; rfl) h
  rw [flatMap_map] at hloop
  cases hloop.symm.trans hok
end Object
end WeakNet.Foundation.JsonDecode
