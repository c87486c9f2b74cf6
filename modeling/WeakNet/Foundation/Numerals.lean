import WeakNet.Foundation.Digits
import Mathlib.Data.Nat.Digits.Lemmas

/-! A numeral is an optional minus sign, digits, an optional fraction and an optional exponent. The
scanner takes the longest beginning of a text that has this shape, whichever parts are empty. -/

namespace WeakNet.Foundation
open List Nat

/-- The sign of an exponent is kept as it was written, with `true` for a minus. -/
structure Numeral where
  negative : Bool
  whole : List ℕ
  fraction : Option (List ℕ)
  exponent : Option (Option Bool × List ℕ)
deriving DecidableEq

namespace Numeral
def decimals : List Char := "0123456789".toList
def alphabet : List Char := decimals ++ ['+', '-', '.', 'e', 'E']

section Scan
variable {χ : Type} [DecidableEq χ] (char : Char → χ)
def digitOf (c : χ) : Option ℕ :=
  (List.range 10).find? fun d => decide (c = char (Nat.digitChar d))

def scanDigits : List χ → List ℕ × List χ
  | [] => ([], [])
  | c :: rest =>
    match digitOf char c with
    | none => ([], c :: rest)
    | some d => (d :: (scanDigits rest).1, (scanDigits rest).2)

def scanSign : List χ → Bool × List χ
  | [] => (false, [])
  | c :: rest => if c = char '-' then (true, rest) else (false, c :: rest)

def scanFraction : List χ → Option (List ℕ) × List χ
  | [] => (none, [])
  | c :: rest =>
    if c = char '.' then (some (scanDigits char rest).1, (scanDigits char rest).2)
    else (none, c :: rest)

def scanExponentSign : List χ → Option Bool × List χ
  | [] => (none, [])
  | c :: rest =>
    if c = char '+' then (some false, rest)
    else if c = char '-' then (some true, rest)
    else (none, c :: rest)

def scanExponent : List χ → Option (Option Bool × List ℕ) × List χ
  | [] => (none, [])
  | c :: rest =>
    if c = char 'e' ∨ c = char 'E' then
      let sign := scanExponentSign char rest
      let digits := scanDigits char sign.2
      (some (sign.1, digits.1), digits.2)
    else (none, c :: rest)

def scan (text : List χ) : Numeral × List χ :=
  let sign := scanSign char text
  let whole := scanDigits char sign.2
  let fraction := scanFraction char whole.2
  let exponent := scanExponent char fraction.2
  (⟨sign.1, whole.1, fraction.1, exponent.1⟩, exponent.2)
end Scan

def digitText (digits : List ℕ) : List Char := digits.map Nat.digitChar

def signText (negative : Bool) : List Char := if negative then ['-'] else []

def fractionText : Option (List ℕ) → List Char
  | none => []
  | some digits => '.' :: digitText digits

def exponentSignText : Option Bool → List Char
  | none => []
  | some true => ['-']
  | some false => ['+']

def exponentText : Option (Option Bool × List ℕ) → List Char
  | none => []
  | some (sign, digits) => 'e' :: (exponentSignText sign ++ digitText digits)

def text (n : Numeral) : List Char :=
  signText n.negative ++ (digitText n.whole ++ (fractionText n.fraction ++ exponentText n.exponent))

structure Decimal (n : Numeral) : Prop where
  whole : ∀ d ∈ n.whole, d < 10
  fraction : ∀ ds ∈ n.fraction, ∀ d ∈ ds, d < 10
  exponent : ∀ e ∈ n.exponent, ∀ d ∈ e.2, d < 10

section Read
variable {χ : Type} {char : Char → χ}
def Stops (char : Char → χ) (cs : List Char) (rest : List χ) : Prop :=
  ∀ c ∈ rest.head?, ∀ a ∈ cs, c ≠ char a

def Lawful (char : Char → χ) : Prop :=
  ∀ a ∈ alphabet, ∀ b ∈ alphabet, char a = char b → a = b

variable {rest : List χ} {cs : List Char}
theorem Stops.mono {cs' : List Char} (h : Stops char cs rest) (hcs : cs' ⊆ cs) :
    Stops char cs' rest := fun c hc a ha => h c hc a (hcs ha)

theorem Stops.append (hL : Lawful char) (hcs : cs ⊆ alphabet) {t : List Char}
    (ht : ∀ a ∈ t.head?, a ∈ alphabet ∧ a ∉ cs) (hrest : Stops char cs rest) :
    Stops char cs (t.map char ++ rest) := by
  cases t with
  | nil => exact hrest
  | cons b =>
    obtain ⟨hb, hnot⟩ := ht b rfl
    intro c hc a ha heq
    cases hc
    exact hnot (hL b hb a (hcs ha) heq ▸ ha)

theorem digitChar_mem {d : ℕ} (hd : d < 10) : digitChar d ∈ decimals := by
  have hall : ∀ d < 10, digitChar d ∈ decimals := by decide
  exact hall d hd

theorem decimals_subset : decimals ⊆ alphabet := subset_append_left _ _

variable [DecidableEq χ]
theorem digitOf_digitChar (hL : Lawful char) {d : ℕ} (hd : d < 10) :
    digitOf char (char (digitChar d)) = some d := by
  have hsplit : ∀ d < 10, List.range 10 = List.range d ++ d :: (List.range 10).drop (d + 1) := by
    decide
  refine List.find?_eq_some_iff_append.mpr ⟨decide_eq_true rfl, _, _, hsplit d hd, ?_⟩
  intro d' hd'
  have hlt := mem_range.mp hd'
  rw [Bool.not_eq_true', decide_eq_false_iff_not]
  intro h
  have hchar := hL _ (decimals_subset (digitChar_mem hd)) _
    (decimals_subset (digitChar_mem (by omega))) h
  have := Digits.digitChar_injOn (by omega) (by omega) hchar
  omega

theorem digitOf_eq_none {c : χ} (h : ∀ a ∈ decimals, c ≠ char a) : digitOf char c = none := by
  refine List.find?_eq_none.mpr fun d hd => ?_
  rw [decide_eq_true_eq]
  exact h _ (digitChar_mem (mem_range.mp hd))

theorem scanDigits_text (hL : Lawful char) {digits : List ℕ} (hdigits : ∀ d ∈ digits, d < 10)
    (hrest : Stops char decimals rest) :
    scanDigits char ((digitText digits).map char ++ rest) = (digits, rest) := by
  induction digits with
  | nil =>
    cases rest with
    | nil => rfl
    | cons c =>
      rw [digitText, map_nil, map_nil, nil_append, scanDigits, digitOf_eq_none (hrest c rfl)]
  | cons d _ ih =>
    obtain ⟨hd, hothers⟩ := forall_mem_cons.mp hdigits
    rw [digitText, map_cons, map_cons, cons_append, scanDigits, digitOf_digitChar hL hd]
    exact congrArg (fun p => (d :: p.1, p.2)) (ih hothers)

theorem scanSign_text (negative : Bool) (hrest : Stops char ['-'] rest) :
    scanSign char ((signText negative).map char ++ rest) = (negative, rest) := by
  cases negative with
  | true => exact if_pos rfl
  | false =>
    cases rest with
    | nil => rfl
    | cons c => exact if_neg (hrest c rfl '-' mem_cons_self)

section
variable (hL : Lawful char)
include hL
theorem scanFraction_text {fraction : Option (List ℕ)} (hdigits : ∀ ds ∈ fraction, ∀ d ∈ ds, d < 10)
    (hpoint : Stops char ['.'] rest) (hrest : Stops char decimals rest) :
    scanFraction char ((fractionText fraction).map char ++ rest) = (fraction, rest) := by
  cases fraction with
  | none =>
    cases rest with
    | nil => rfl
    | cons c => exact if_neg (hpoint c rfl '.' mem_cons_self)
  | some digits =>
    rw [fractionText, map_cons, cons_append, scanFraction, if_pos rfl,
      scanDigits_text hL (hdigits digits rfl) hrest]

theorem scanExponentSign_text (sign : Option Bool) (hrest : Stops char ['+', '-'] rest) :
    scanExponentSign char ((exponentSignText sign).map char ++ rest) = (sign, rest) := by
  have hne : char '-' ≠ char '+' := fun h =>
    absurd (hL '-' (by decide) '+' (by decide) h) (by decide)
  cases sign with
  | none =>
    cases rest with
    | nil => rfl
    | cons c =>
      exact (if_neg (hrest c rfl '+' (by decide))).trans (if_neg (hrest c rfl '-' (by decide)))
  | some minus =>
    cases minus with
    | true => exact (if_neg hne).trans (if_pos rfl)
    | false => exact if_pos rfl

theorem scanExponent_text {exponent : Option (Option Bool × List ℕ)}
    (hdigits : ∀ e ∈ exponent, ∀ d ∈ e.2, d < 10) (hrest : Stops char alphabet rest) :
    scanExponent char ((exponentText exponent).map char ++ rest) = (exponent, rest) := by
  cases exponent with
  | none =>
    cases rest with
    | nil => rfl
    | cons c =>
      refine if_neg ?_
      rintro (he | he)
      · exact hrest c rfl 'e' (by decide) he
      · exact hrest c rfl 'E' (by decide) he
  | some e =>
    obtain ⟨sign, digits⟩ := e
    have hd : ∀ d ∈ digits, d < 10 := hdigits _ rfl
    have hsigns : Stops char ['+', '-'] ((digitText digits).map char ++ rest) := by
      refine Stops.append hL (by decide) ?_ (hrest.mono (by decide))
      intro a ha
      obtain ⟨d, hmem, rfl⟩ := mem_map.mp (mem_of_mem_head? ha)
      have hall : ∀ d < 10, digitChar d ∈ alphabet ∧ digitChar d ∉ ['+', '-'] := by decide
      exact hall d (hd d hmem)
    rw [exponentText, map_cons, map_append, cons_append, append_assoc,
      scanExponent, if_pos (.inl rfl), scanExponentSign_text hL sign hsigns]
    dsimp only
    rw [scanDigits_text hL hd (hrest.mono decimals_subset)]

theorem scan_text {n : Numeral} (hn : n.Decimal) (hrest : Stops char alphabet rest) :
    scan char (n.text.map char ++ rest) = (n, rest) := by
  have hlast : ∀ cs ⊆ alphabet, 'e' ∉ cs →
      Stops char cs ((exponentText n.exponent).map char ++ rest) := by
    intro cs hcs he
    refine Stops.append hL hcs ?_ (hrest.mono hcs)
    cases n.exponent with
    | none => exact fun a ha => absurd ha (Option.not_mem_none a)
    | some =>
      rintro a ⟨⟩
      exact ⟨by decide, he⟩
  have hmiddle : ∀ cs ⊆ alphabet, 'e' ∉ cs → '.' ∉ cs → Stops char cs
      ((fractionText n.fraction).map char ++ ((exponentText n.exponent).map char ++ rest)) := by
    intro cs hcs he hpoint
    refine Stops.append hL hcs ?_ (hlast cs hcs he)
    cases n.fraction with
    | none => exact fun a ha => absurd ha (Option.not_mem_none a)
    | some =>
      rintro a ⟨⟩
      exact ⟨by decide, hpoint⟩
  have hsign : Stops char ['-'] ((digitText n.whole).map char ++
      ((fractionText n.fraction).map char ++ ((exponentText n.exponent).map char ++ rest))) := by
    refine Stops.append hL (by decide) ?_ (hmiddle _ (by decide) (by decide) (by decide))
    intro a ha
    obtain ⟨d, hd, rfl⟩ := mem_map.mp (mem_of_mem_head? ha)
    have hall : ∀ d < 10, digitChar d ∈ alphabet ∧ digitChar d ∉ ['-'] := by decide
    exact hall d (hn.whole d hd)
  rw [text, map_append, map_append, map_append, append_assoc,
    append_assoc, append_assoc, scan, scanSign_text _ hsign]
  rw [scanDigits_text hL hn.whole (hmiddle _ decimals_subset (by decide) (by decide)),
    scanFraction_text hL hn.fraction (hlast _ (by decide) (by decide))
      (hlast _ decimals_subset (by decide)),
    scanExponent_text hL hn.exponent hrest]
end
end Read

theorem digitText_subset {digits : List ℕ} (h : ∀ d ∈ digits, d < 10) :
    digitText digits ⊆ alphabet := by
  intro c hc
  obtain ⟨d, hd, rfl⟩ := mem_map.mp hc
  exact decimals_subset (digitChar_mem (h d hd))

theorem text_subset {n : Numeral} (hn : n.Decimal) : n.text ⊆ alphabet := by
  refine append_subset.mpr ⟨?_, append_subset.mpr ⟨digitText_subset hn.whole,
    append_subset.mpr ⟨?_, ?_⟩⟩⟩
  · cases n.negative <;> decide
  · cases h : n.fraction with
    | none => exact nil_subset _
    | some digits =>
      exact cons_subset.mpr ⟨by decide, digitText_subset (hn.fraction digits h)⟩
  · cases h : n.exponent with
    | none => exact nil_subset _
    | some e =>
      obtain ⟨sign, digits⟩ := e
      refine cons_subset.mpr ⟨by decide, append_subset.mpr ⟨?_, digitText_subset (hn.exponent _ h)⟩⟩
      rcases sign with _ | _ | _ <;> decide

def ofDigits (digits : List ℕ) : ℕ := Nat.ofDigits 10 digits.reverse

def digitsOf (n : ℕ) : List ℕ := if n = 0 then [0] else (Nat.digits 10 n).reverse

def signed (negative : Bool) (q : ℚ) : ℚ := if negative then -q else q

def exponentValue : Option (Option Bool × List ℕ) → ℤ
  | none => 0
  | some (sign, digits) => if sign = some true then -(ofDigits digits) else ofDigits digits

def value (n : Numeral) : ℚ :=
  let fraction := n.fraction.getD []
  signed n.negative (ofDigits (n.whole ++ fraction)) *
    10 ^ (exponentValue n.exponent - fraction.length)

def ofInt (z : ℤ) : Numeral := ⟨decide (z < 0), digitsOf z.natAbs, none, none⟩

def integer (n : Numeral) : ℤ := if n.negative then -(ofDigits n.whole) else ofDigits n.whole

theorem ofDigits_digitsOf (n : ℕ) : ofDigits (digitsOf n) = n := by
  rw [ofDigits, digitsOf]
  split_ifs with h
  · rw [h]
    rfl
  · rw [reverse_reverse, ofDigits_digits]

theorem digitsOf_lt (n : ℕ) : ∀ d ∈ digitsOf n, d < 10 := by
  intro d hd
  rw [digitsOf] at hd
  split_ifs at hd with h
  · rw [mem_singleton.mp hd]
    decide
  · exact digits_lt_base (by decide) (mem_reverse.mp hd)

theorem digitsOf_of_lt {n : ℕ} (h : n < 10) : digitsOf n = [n] := by
  have hall : ∀ n < 10, digitsOf n = [n] := by decide
  exact hall n h

theorem digitsOf_of_le {n : ℕ} (h : 10 ≤ n) : digitsOf n = digitsOf (n / 10) ++ [n % 10] := by
  rw [digitsOf, if_neg (by omega), digitsOf, if_neg (by omega),
    digits_def' (by decide) (by omega), reverse_cons]

theorem digitText_digitsOf (n : ℕ) : digitText (digitsOf n) = toDigits 10 n := by
  induction n using Nat.strongRecOn with
  | _ n ih =>
    rw [Nat.toDigits_eq_if (by decide)]
    split_ifs with h
    · rw [digitsOf_of_lt h]
      rfl
    · rw [digitsOf_of_le (by omega), digitText, map_append, ← ih (n / 10) (by omega)]
      rfl

theorem digitsOf_head (n : ℕ) : digitsOf n = [0] ∨ ∃ d digits, digitsOf n = d :: digits ∧ d ≠ 0 := by
  induction n using Nat.strongRecOn with
  | _ n ih =>
    by_cases h : n < 10
    · rw [digitsOf_of_lt h]
      by_cases hzero : n = 0
      · exact .inl (by rw [hzero])
      · exact .inr ⟨n, [], rfl, hzero⟩
    · right
      rw [digitsOf_of_le (by omega)]
      rcases ih (n / 10) (by omega) with hzero | ⟨d, digits, heq, hd⟩
      · have := ofDigits_digitsOf (n / 10)
        rw [hzero] at this
        have hdiv : 0 = n / 10 := this
        omega
      · exact ⟨d, digits ++ [n % 10], by rw [heq, cons_append], hd⟩

theorem integer_ofInt (z : ℤ) : (ofInt z).integer = z := by
  rw [integer, ofInt]
  rw [ofDigits_digitsOf]
  split_ifs with h
  · have := of_decide_eq_true h
    omega
  · have hle : ¬z < 0 := fun hlt => h (decide_eq_true hlt)
    omega

theorem ofInt_decimal (z : ℤ) : (ofInt z).Decimal where
  whole := digitsOf_lt _
  fraction := fun _ h => absurd h (Option.not_mem_none _)
  exponent := fun _ h => absurd h (Option.not_mem_none _)

theorem text_ofInt (z : ℤ) : (ofInt z).text = (toString z).toList := by
  have htext : (ofInt z).text = signText (decide (z < 0)) ++ toDigits 10 z.natAbs := by
    rw [← digitText_digitsOf, text, ofInt, fractionText, exponentText, append_nil, append_nil]
  cases z with
  | ofNat m =>
    have hsign : ¬Int.ofNat m < 0 := not_lt.mpr (Int.natCast_nonneg m)
    rw [htext, decide_eq_false hsign]
    exact (Digits.toList_toString m).symm
  | negSucc m =>
    change _ = ("-" ++ toString (m + 1)).toList
    rw [htext, decide_eq_true (Int.negSucc_lt_zero m), String.toList_append, Digits.toList_toString]
    rfl
end Numeral
end WeakNet.Foundation
