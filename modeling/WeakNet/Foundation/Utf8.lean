import Mathlib.Data.List.Basic

/-! A character below 128 is encoded as one byte, every other one as bytes from 128 on. So what is
done to a text byte by byte, and leaves the bytes from 128 on as they are, is done to it character
by character. -/

namespace WeakNet.Foundation.Utf8
open List String

def bytes (cs : List Char) : List UInt8 := cs.flatMap String.utf8EncodeChar

theorem bytes_append (cs cs' : List Char) : bytes (cs ++ cs') = bytes cs ++ bytes cs' :=
  flatMap_append

theorem bytes_toList (s : String) : bytes s.toList = s.toByteArray.data.toList := by
  rw [← utf8Encode_toList, List.utf8Encode, toList_data_toByteArray, bytes]

theorem fromUTF8_bytes (s : String) : fromUTF8? ⟨(bytes s.toList).toArray⟩ = some s := by
  rw [bytes_toList, Array.toArray_toList, fromUTF8?]
  exact dif_pos ..

theorem encodeChar_of_lt {c : Char} (h : c.toNat < 128) :
    utf8EncodeChar c = [UInt8.ofNat c.toNat] :=
  if_pos (Nat.le_of_lt_succ h)

theorem le_of_mem_encodeChar {c : Char} (h : 128 ≤ c.toNat) :
    ∀ b ∈ utf8EncodeChar c, 128 ≤ b.toNat := by
  have hbyte : ∀ n, 128 ≤ n → n < 256 → 128 ≤ (UInt8.ofNat n).toNat := by
    intro n hle hlt
    rw [UInt8.toNat_ofNat_of_lt' hlt]
    exact hle
  have hrange : ¬c.val.toNat ≤ 127 := by
    change ¬c.toNat ≤ 127
    omega
  rw [utf8EncodeChar]
  rw [if_neg hrange]
  split_ifs
  all_goals
    simp only [forall_mem_cons, not_mem_nil, false_implies, implies_true, and_true]
    and_intros
    all_goals exact hbyte _ (by omega) (by omega)

theorem mem_of_mem_bytes {cs : List Char} {b : UInt8} (hb : b.toNat < 128) (h : b ∈ bytes cs) :
    Char.ofNat b.toNat ∈ cs := by
  obtain ⟨c, hc, hmem⟩ := mem_flatMap.mp h
  by_cases hlt : c.toNat < 128
  · rw [encodeChar_of_lt hlt] at hmem
    rw [mem_singleton.mp hmem, UInt8.toNat_ofNat_of_lt' (by omega : c.toNat < 256),
      Char.ofNat_toNat]
    exact hc
  · have := le_of_mem_encodeChar (by omega) b hmem
    omega

theorem flatMap_bytes {escapeByte : UInt8 → List UInt8} {spelling : Char → List Char}
    (hascii : ∀ n < 128, escapeByte (UInt8.ofNat n) = bytes (spelling (Char.ofNat n)))
    (hbyte : ∀ b : UInt8, 128 ≤ b.toNat → escapeByte b = [b])
    (hspelling : ∀ c : Char, 128 ≤ c.toNat → spelling c = [c]) (cs : List Char) :
    (bytes cs).flatMap escapeByte = bytes (cs.flatMap spelling) := by
  rw [bytes, bytes, flatMap_assoc, flatMap_assoc]
  refine flatMap_congr fun c _ => ?_
  by_cases hlt : c.toNat < 128
  · rw [encodeChar_of_lt hlt, flatMap_singleton, hascii _ hlt, Char.ofNat_toNat, bytes]
  · have hle : 128 ≤ c.toNat := by omega
    rw [hspelling c hle, flatMap_singleton]
    exact (flatMap_congr fun b hb => hbyte b (le_of_mem_encodeChar hle b hb)).trans
      (flatMap_singleton' _)
end WeakNet.Foundation.Utf8
