import WeakNet.Foundation.Bytes

/-! `serializer.cpp`: strings after a length of four bytes and 32-bit integers, on a little-endian
machine. The size of a buffer is far from the largest `size_t`, so that offsets are natural numbers. -/

namespace WeakNet.Serializer
open Foundation Bytes List

abbrev Buffer := List UInt8

def serializeString (value outBuffer : Buffer) : Buffer :=
  let len := value.length % 2 ^ 32
  outBuffer ++ encode 4 len ++ value.take len

def deserializeString (buffer : Buffer) (offset : ℕ) : Option (Buffer × ℕ) :=
  if buffer.length < offset + 4 then none
  else
    let len := field offset 4 buffer
    if buffer.length < offset + 4 + len then none
    else some (slice (offset + 4) len buffer, offset + 4 + len)

def serializeInt32 (value : BitVec 32) (outBuffer : Buffer) : Buffer :=
  outBuffer ++ encode 4 value.toNat

def deserializeInt32 (buffer : Buffer) (offset : ℕ) : Option (BitVec 32 × ℕ) :=
  if buffer.length < offset + 4 then none
  else some (BitVec.ofNat 32 (field offset 4 buffer), offset + 4)

inductive Kind where
  | string | int32

inductive Value where
  | string (value : Buffer)
  | int32 (value : BitVec 32)

def Value.kind : Value → Kind
  | string _ => .string
  | int32 _ => .int32

def serialize (outBuffer : Buffer) : Value → Buffer
  | .string value => serializeString value outBuffer
  | .int32 value => serializeInt32 value outBuffer

def deserialize (buffer : Buffer) (offset : ℕ) : Kind → Option (Value × ℕ)
  | .string => (deserializeString buffer offset).map fun r => (.string r.1, r.2)
  | .int32 => (deserializeInt32 buffer offset).map fun r => (.int32 r.1, r.2)

def serializeAll (values : List Value) : Buffer := values.foldl serialize []

def deserializeAll (buffer : Buffer) : ℕ → List Kind → Option (List Value × ℕ)
  | offset, [] => some ([], offset)
  | offset, kind :: kinds =>
    match deserialize buffer offset kind with
    | none => none
    | some (value, next) =>
      (deserializeAll buffer next kinds).map fun r => (value :: r.1, r.2)

def Value.bytes (v : Value) : Buffer := serialize [] v

theorem foldl_serialize (buffer : Buffer) (values : List Value) :
    values.foldl serialize buffer = buffer ++ values.flatMap Value.bytes := by
  have hfield : serialize = fun buffer v => buffer ++ v.bytes := by
    funext _ v
    cases v <;> simp [Value.bytes, serialize, serializeString, serializeInt32]
  rw [hfield, foldl_append_eq_append, flatMap_def]

/-- In a buffer that is cut off, a value is read back exactly when all of it is still there. -/
theorem deserialize_take {v : Value} (h : ∀ value, v = .string value → value.length < 2 ^ 32)
    (front rest : Buffer) (m : ℕ) :
    deserialize ((front ++ (v.bytes ++ rest)).take m) front.length v.kind =
      if front.length + v.bytes.length ≤ m then some (v, front.length + v.bytes.length)
      else none := by
  cases v with
  | string value =>
    have hlen : value.length % 2 ^ 32 = value.length := Nat.mod_eq_of_lt (h value rfl)
    have hbytes : (Value.string value).bytes = encode 4 value.length ++ value := by
      simp only [Value.bytes, serialize, serializeString, hlen, take_length, nil_append]
    have hfield := field_append_encode front (value ++ rest) rfl (w := 4) (h value rfl)
    have hslice : slice (front.length + 4) value.length
        (front ++ (encode 4 value.length ++ (value ++ rest))) = value := by
      rw [← append_assoc]
      exact slice_append_middle (by simp) rfl
    rw [hbytes, append_assoc, Value.kind, deserialize, deserializeString]
    by_cases hshort : m < front.length + 4
    · rw [if_pos (by simp; omega), if_neg (by simp; omega)]
      rfl
    · rw [if_neg (by simp; omega), field, slice_take (Nat.le_of_not_lt hshort), ← field, hfield]
      by_cases hcut : m < front.length + 4 + value.length
      · rw [if_pos (by simp; omega), if_neg (by simp; omega)]
        rfl
      · rw [if_neg (by simp; omega), if_pos (by simp; omega), slice_take (Nat.le_of_not_lt hcut),
          hslice]
        simp [Nat.add_assoc]
  | int32 value =>
    have hfield := field_append_encode front rest rfl (w := 4) value.isLt
    have hbytes : (Value.int32 value).bytes = encode 4 value.toNat := rfl
    rw [hbytes, length_encode, Value.kind, deserialize, deserializeInt32]
    by_cases hshort : m < front.length + 4
    · rw [if_pos (by simp; omega), if_neg (by omega)]
      rfl
    · rw [if_neg (by simp; omega), if_pos (by omega), field,
        slice_take (Nat.le_of_not_lt hshort), ← field, hfield]
      simp

theorem deserializeAll_take {values : List Value}
    (h : ∀ value, .string value ∈ values → value.length < 2 ^ 32) (front : Buffer) {m : ℕ}
    (hm : front.length ≤ m) :
    deserializeAll ((front ++ values.flatMap Value.bytes).take m) front.length
        (values.map Value.kind) =
      if (front ++ values.flatMap Value.bytes).length ≤ m
      then some (values, (front ++ values.flatMap Value.bytes).length) else none := by
  induction values generalizing front with
  | nil => simp [deserializeAll, hm]
  | cons v values ih =>
    have hv := deserialize_take (fun value hv => h value (hv ▸ mem_cons_self)) front
      (values.flatMap Value.bytes) m
    rw [map_cons, deserializeAll, flatMap_cons, hv]
    by_cases hfits : front.length + v.bytes.length ≤ m
    · -- the value just read joins the front
      have hrest := ih (fun value hv => h value (mem_cons_of_mem _ hv)) (front ++ v.bytes)
        (by rwa [length_append])
      rw [append_assoc, length_append] at hrest
      simp only [if_pos hfits, hrest]
      split_ifs <;> rfl
    · rw [if_neg hfits, if_neg (by simp only [length_append]; omega)]

/-- A sequence is read back and ends with the buffer, and no shorter front of the buffer is
accepted. -/
theorem round_trip {values : List Value}
    (h : ∀ value, .string value ∈ values → value.length < 2 ^ 32) :
    deserializeAll (serializeAll values) 0 (values.map Value.kind) =
        some (values, (serializeAll values).length) ∧
      ∀ front, front <+: serializeAll values → front ≠ serializeAll values →
        deserializeAll front 0 (values.map Value.kind) = none := by
  have hcut (m : ℕ) := deserializeAll_take h [] (m := m) (Nat.zero_le m)
  rw [serializeAll, foldl_serialize]
  refine ⟨?_, fun front hfront hne => ?_⟩
  · have hwhole := hcut ([] ++ values.flatMap Value.bytes).length
    rwa [take_length, if_pos le_rfl] at hwhole
  · have hless := hfront.length_le.lt_of_ne fun heq => hne (hfront.eq_of_length heq)
    rw [prefix_iff_eq_take.mp hfront]
    exact (hcut _).trans (if_neg (Nat.not_le.mpr hless))

theorem round_trip_payload :
    deserializeAll (serializeAll [.string [104, 105], .int32 7]) 0 [.string, .int32] =
        some ([.string [104, 105], .int32 7], 10) ∧
      ∀ front, front <+: serializeAll [.string [104, 105], .int32 7] →
        front ≠ serializeAll [.string [104, 105], .int32 7] →
          deserializeAll front 0 [.string, .int32] = none := by
  refine round_trip fun value hvalue => ?_
  obtain rfl : value = [104, 105] := by simpa using hvalue
  decide
end WeakNet.Serializer
