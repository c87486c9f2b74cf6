import WeakNet.Foundation.Bytes
import WeakNet.NetworkEvent

/-! The message and attribute headers shared by the three netlink parsers, on a little-endian
machine. Message lengths stay below `2 ^ 32 - 3`, so that rounding them up to four bytes does not
wrap. `withPortId` is the datagram whose framed headers all carry one port id. -/

namespace WeakNet.NetlinkWire
open Foundation.Bytes List

def headerSize : ℕ := 16

def nlmsgError : ℕ := 2
def nlmsgDone : ℕ := 3
def nlmsgMinType : ℕ := 16

structure Nlmsghdr where
  len : ℕ
  type : ℕ
  flags : ℕ
  seq : ℕ
  pid : ℕ
deriving DecidableEq

def nlmsghdr (bs : ByteString) : Nlmsghdr where
  len := field 0 4 bs
  type := field 4 2 bs
  flags := field 6 2 bs
  seq := field 8 4 bs
  pid := field 12 4 bs

/-- `NLM_F_DUMP_INTR` is bit four. -/
def Nlmsghdr.dumpIntr (h : Nlmsghdr) : Bool := h.flags.testBit 4

/-- `NLMSG_PAYLOAD(header, 0)` bytes at `NLMSG_DATA(header)`. -/
def nlmsgData (bs : ByteString) : ByteString := slice headerSize ((nlmsghdr bs).len - headerSize) bs

def nlmsgerrError (payload : ByteString) : ℤ := signed 32 (field 0 4 payload)

def nlmsgerrSize : ℕ := 20

/-- `static_cast<std::uint16_t>` of the absolute value, negation wrapping at 32 bits. -/
def errorCode (error : ℤ) : ℕ := error.natAbs % 2 ^ 16

def attributeHeaderSize : ℕ := 4

structure Attribute where
  type : ℕ
  payload : ByteString
deriving DecidableEq

def attribute? (bs : ByteString) : Option (Attribute × ℕ) :=
  let len := field 0 2 bs
  if bs.length < attributeHeaderSize ∨ len < attributeHeaderSize ∨ bs.length < len then none
  else some (⟨field 2 2 bs % 2 ^ 14, slice attributeHeaderSize (len - attributeHeaderSize) bs⟩, len)

def stampFrom (offset : ℕ) (new : ByteString) : ℕ → ByteString → ByteString
  | 0, bs => bs
  | fuel + 1, bs =>
    if bs.length < headerSize then bs
    else
      let stamped := overwrite offset new bs
      let size := align4 (nlmsghdr bs).len
      if (nlmsghdr bs).len < headerSize ∨ bs.length ≤ size then stamped
      else stamped.take size ++ stampFrom offset new fuel (bs.drop size)

def withPortId (port : ℕ) (bs : ByteString) : ByteString :=
  stampFrom 12 (encode 4 port) bs.length bs

def withSequence (sequence : ℕ) (bs : ByteString) : ByteString :=
  stampFrom 8 (encode 4 sequence) bs.length bs

variable {bs : ByteString}
theorem nlmsghdr_take_append {rest : ByteString} {n : ℕ} (hn : headerSize ≤ n)
    (hbs : n ≤ bs.length) :
    nlmsghdr (bs.take n ++ rest) = nlmsghdr bs := by
  have hsame : ∀ o w, o + w ≤ 16 → field o w (bs.take n ++ rest) = field o w bs := by
    intro o w ho
    have hlen : o + w ≤ (bs.take n).length := by
      rw [length_take]
      rw [headerSize] at hn
      omega
    rw [field, slice_append_left hlen, slice_take (ho.trans hn), field]
  simp [nlmsghdr, hsame 0 4 (by omega), hsame 4 2 (by omega), hsame 6 2 (by omega),
    hsame 8 4 (by omega), hsame 12 4 (by omega)]

theorem nlmsghdr_take {n : ℕ} (h : headerSize ≤ (bs.take n).length) :
    nlmsghdr (bs.take n) = nlmsghdr bs := by
  rw [length_take] at h
  by_cases hn : n ≤ bs.length
  · have hsame := @nlmsghdr_take_append bs [] n (by omega) hn
    rwa [append_nil] at hsame
  · rw [take_of_length_le (by omega)]

section Stamp
variable {offset fuel : ℕ} {new bs : ByteString} (hnew : offset + new.length ≤ headerSize)
include hnew
theorem length_stampFrom (fuel : ℕ) (bs : ByteString) :
    (stampFrom offset new fuel bs).length = bs.length := by
  induction fuel generalizing bs with
  | zero => rfl
  | succ _ ih =>
    rw [stampFrom]
    by_cases hshort : bs.length < headerSize
    · rw [if_pos hshort]
    · have hstamp : (overwrite offset new bs).length = bs.length := length_overwrite (by omega)
      rw [if_neg hshort]
      dsimp only
      split_ifs with hlast
      · exact hstamp
      · rw [length_append, length_take, hstamp, ih, length_drop]
        omega

theorem nlmsghdr_stampFrom (hbs : headerSize ≤ bs.length) :
    nlmsghdr (stampFrom offset new (fuel + 1) bs) = nlmsghdr (overwrite offset new bs) := by
  have hlength : (overwrite offset new bs).length = bs.length := length_overwrite (by omega)
  rw [stampFrom, if_neg (Nat.not_lt.mpr hbs)]
  dsimp only
  split_ifs with hlast
  · rfl
  · have hlen := le_align4 (nlmsghdr bs).len
    exact nlmsghdr_take_append (by omega) (by omega)

theorem drop_stampFrom (hlen : headerSize ≤ (nlmsghdr bs).len)
    (hmore : align4 (nlmsghdr bs).len < bs.length) :
    (stampFrom offset new (fuel + 1) bs).drop (align4 (nlmsghdr bs).len) =
      stampFrom offset new fuel (bs.drop (align4 (nlmsghdr bs).len)) := by
  have hle := le_align4 (nlmsghdr bs).len
  have hlength : (overwrite offset new bs).length = bs.length := length_overwrite (by omega)
  have hfirst : ((overwrite offset new bs).take (align4 (nlmsghdr bs).len)).length =
      align4 (nlmsghdr bs).len := by
    rw [length_take]
    omega
  rw [stampFrom, if_neg (by omega)]
  rw [if_neg (by omega), drop_left' hfirst]
end Stamp

section Header
variable {n : ℕ} {bs : ByteString}
theorem field_overwrite_other {k o w : ℕ} (hfits : k + 4 ≤ bs.length)
    (ho : o + w ≤ k ∨ k + 4 ≤ o) : field o w (overwrite k (encode 4 n) bs) = field o w bs := by
  rw [← length_encode 4 n] at hfits ho
  rcases ho with ho | ho
  · rw [field, slice_overwrite_before hfits ho, field]
  · rw [field, slice_overwrite_after hfits ho, field]

variable (hn : n < 2 ^ 32) (hbs : headerSize ≤ bs.length)
include hn hbs
theorem nlmsghdr_overwrite_pid :
    nlmsghdr (overwrite 12 (encode 4 n) bs) = { nlmsghdr bs with pid := n } := by
  have hsame := fun o w => field_overwrite_other (n := n) (o := o) (w := w) hbs
  have hpid : field 12 4 (overwrite 12 (encode 4 n) bs) = n := field_overwrite_encode hbs (by omega)
  simp [nlmsghdr, hpid, hsame 0 4 (by omega), hsame 4 2 (by omega), hsame 6 2 (by omega),
    hsame 8 4 (by omega)]

theorem nlmsghdr_overwrite_seq :
    nlmsghdr (overwrite 8 (encode 4 n) bs) = { nlmsghdr bs with seq := n } := by
  have hroom : 8 + 4 ≤ bs.length := by
    unfold headerSize at hbs
    omega
  have hsame := fun o w => field_overwrite_other (n := n) (o := o) (w := w) hroom
  have hseq : field 8 4 (overwrite 8 (encode 4 n) bs) = n := field_overwrite_encode hroom (by omega)
  simp [nlmsghdr, hseq, hsame 12 4 (by omega), hsame 0 4 (by omega), hsame 4 2 (by omega), hsame 6 2 (by omega)]
end Header

theorem pid_fits (port : ℕ) : 12 + (encode 4 port).length ≤ headerSize := by
  rw [length_encode]
  decide

theorem seq_fits (sequence : ℕ) : 8 + (encode 4 sequence).length ≤ headerSize := by
  rw [length_encode]
  decide

@[simp] theorem length_withPortId (port : ℕ) (bs : ByteString) :
    (withPortId port bs).length = bs.length :=
  length_stampFrom (pid_fits port) bs.length bs

@[simp] theorem length_withSequence (sequence : ℕ) (bs : ByteString) :
    (withSequence sequence bs).length = bs.length :=
  length_stampFrom (seq_fits sequence) bs.length bs

theorem exists_length_eq_succ (hbs : headerSize ≤ bs.length) :
    ∃ fuel, bs.length = fuel + 1 := by
  apply Nat.exists_eq_succ_of_ne_zero
  unfold headerSize at hbs
  omega

theorem nlmsghdr_withPortId {port : ℕ} (hport : port < 2 ^ 32) (hbs : headerSize ≤ bs.length) :
    nlmsghdr (withPortId port bs) = { nlmsghdr bs with pid := port } := by
  obtain ⟨fuel, hfuel⟩ := exists_length_eq_succ hbs
  rw [withPortId, hfuel, nlmsghdr_stampFrom (pid_fits port) hbs]
  exact nlmsghdr_overwrite_pid hport hbs

theorem nlmsghdr_withSequence {sequence : ℕ} (hsequence : sequence < 2 ^ 32)
    (hbs : headerSize ≤ bs.length) :
    nlmsghdr (withSequence sequence bs) = { nlmsghdr bs with seq := sequence } := by
  obtain ⟨fuel, hfuel⟩ := exists_length_eq_succ hbs
  rw [withSequence, hfuel, nlmsghdr_stampFrom (seq_fits sequence) hbs]
  exact nlmsghdr_overwrite_seq hsequence hbs
end WeakNet.NetlinkWire
