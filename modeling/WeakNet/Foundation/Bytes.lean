import Mathlib.Algebra.Group.Nat.Defs
import Mathlib.Data.List.Basic
import Mathlib.Tactic.Ring

/-! Little- and big-endian readings of byte strings, fields at fixed offsets, and overwriting of a
field in place. -/

namespace WeakNet.Foundation.Bytes
open List

def littleEndian : List UInt8 → ℕ
  | [] => 0
  | b :: bs => b.toNat + 256 * littleEndian bs

def bigEndian (bs : List UInt8) : ℕ := littleEndian bs.reverse

def encode : ℕ → ℕ → List UInt8
  | 0, _ => []
  | width + 1, n => UInt8.ofNat (n % 256) :: encode width (n / 256)

def slice (offset width : ℕ) (bs : List UInt8) : List UInt8 := (bs.drop offset).take width

def field (offset width : ℕ) (bs : List UInt8) : ℕ := littleEndian (slice offset width bs)

def overwrite (offset : ℕ) (new bs : List UInt8) : List UInt8 :=
  bs.take offset ++ new ++ bs.drop (offset + new.length)

/-- The two's complement reading of the low `width` bits. -/
def signed (width n : ℕ) : ℤ :=
  if n % 2 ^ width < 2 ^ (width - 1) then (n % 2 ^ width : ℕ)
  else (n % 2 ^ width : ℕ) - 2 ^ width

def align4 (n : ℕ) : ℕ := (n + 3) / 4 * 4

theorem le_align4 (n : ℕ) : n ≤ align4 n := by
  rw [align4]
  omega

@[simp] theorem length_encode (width n : ℕ) : (encode width n).length = width := by
  induction width generalizing n with
  | zero => rfl
  | succ _ ih => simp only [encode, length_cons, ih]

theorem littleEndian_encode (width n : ℕ) : littleEndian (encode width n) = n % 256 ^ width := by
  induction width generalizing n with
  | zero => simp [encode, littleEndian, Nat.mod_one]
  | succ _ ih =>
    have hbyte : (UInt8.ofNat (n % 256)).toNat = n % 256 :=
      UInt8.toNat_ofNat_of_lt' (Nat.mod_lt n (by decide))
    simp only [encode, littleEndian]
    rw [ih, hbyte, pow_succ', Nat.mod_mul]

variable {xs : List UInt8} {o w n : ℕ}
theorem slice_take (h : o + w ≤ n) :
    slice o w (xs.take n) = slice o w xs := by
  simp only [slice]
  rw [drop_take, take_take, Nat.min_eq_left (by omega)]

section Overwrite
variable {offset : ℕ} {new bs : List UInt8}

section
variable (h : offset + new.length ≤ bs.length)
include h
theorem length_overwrite :
    (overwrite offset new bs).length = bs.length := by
  simp only [overwrite, length_append, length_take, length_drop]
  omega

theorem slice_overwrite_self :
    slice offset new.length (overwrite offset new bs) = new := by
  have hlen : (bs.take offset).length = offset := by
    rw [length_take]
    omega
  rw [slice, overwrite]
  rw [append_assoc, drop_left' hlen, take_left' rfl]

theorem slice_overwrite_before (ho : o + w ≤ offset) :
    slice o w (overwrite offset new bs) = slice o w bs := by
  have htake : (overwrite offset new bs).take offset = bs.take offset := by
    have hlen : (bs.take offset).length = offset := by
      rw [length_take]
      omega
    rw [overwrite]
    rw [append_assoc, take_left' hlen]
  rw [← slice_take ho, htake, slice_take ho]

theorem slice_overwrite_after (ho : offset + new.length ≤ o) :
    slice o w (overwrite offset new bs) = slice o w bs := by
  have hlen : (bs.take offset ++ new).length = offset + new.length := by
    rw [length_append, length_take]
    omega
  have hrest : offset + new.length + (o - (offset + new.length)) = o := by omega
  rw [slice, overwrite, slice]
  rw [drop_append, drop_eq_nil_of_le (by omega), nil_append, drop_drop, hlen, hrest]
end

theorem field_overwrite_encode {width : ℕ} (h : offset + width ≤ bs.length) (hn : n < 256 ^ width) :
    field offset width (overwrite offset (encode width n) bs) = n := by
  have hw : offset + (encode width n).length ≤ bs.length := by rwa [length_encode]
  have hself := slice_overwrite_self hw
  rw [length_encode] at hself
  rw [field, hself, littleEndian_encode, Nat.mod_eq_of_lt hn]
end Overwrite

variable {ys : List UInt8}
theorem slice_append_left (h : o + w ≤ xs.length) :
    slice o w (xs ++ ys) = slice o w xs := by
  simp only [slice]
  rw [drop_append_of_le_length (by omega), take_append_of_le_length (by rw [length_drop]; omega)]

theorem slice_append_middle {zs : List UInt8} (ho : xs.length = o) (hw : ys.length = w) :
    slice o w (xs ++ (ys ++ zs)) = ys := by
  rw [slice, drop_left' ho, take_left' hw]

theorem field_append_encode (xs zs : List UInt8) (ho : xs.length = o) (hn : n < 256 ^ w) :
    field o w (xs ++ (encode w n ++ zs)) = n := by
  rw [field, slice_append_middle ho (length_encode w n), littleEndian_encode, Nat.mod_eq_of_lt hn]
end WeakNet.Foundation.Bytes
