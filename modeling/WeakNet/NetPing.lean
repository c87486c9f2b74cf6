import Mathlib.Algebra.Order.BigOperators.Group.List
import Mathlib.Algebra.Order.Group.Nat
import WeakNet.NetworkEvent

/-! `NetPing::ping` waits for one packet and takes it for the reply if it is an echo reply with the
identifier of the process. A raw socket receives every ICMP packet, so another one may come first.
The outcome of every system call is data. -/

namespace WeakNet.NetPing
open List

structure Packet where
  source : UInt32
  size : ℕ
  headerWords : ℕ
  type : ℕ
  id : UInt16
  sequence : UInt16
  sentSec : ℤ
  sentUsec : ℤ
deriving DecidableEq

def icmpEchoReply : ℕ := 0
def icmpSize : ℕ := 28

structure Arrival where
  packet : Packet
  after : ℕ
deriving DecidableEq

structure Environment where
  socketOpens : Bool
  binds : Bool
  dest : Option UInt32
  sends : Bool
  sendMs : ℕ
  sendMs_lt : sendMs < 2 ^ 31
  selects : Bool
  receives : Bool
  arrivals : List Arrival
  nowSec : ℤ
  nowUsec : ℤ

-- conversion to a 32-bit `int`
def toInt (n : ℤ) : ℤ := n.bmod (2 ^ 32)

def rttMs (env : Environment) (packet : Packet) : ℤ :=
  (env.nowSec - packet.sentSec) * 1000 + (env.nowUsec - packet.sentUsec).tdiv 1000

def ping (env : Environment) (id : UInt16) (timeoutMs : ℤ) : ℤ :=
  if !env.socketOpens then -1
  else if !env.binds then -2
  else if env.dest.isNone then -3
  else if !env.sends then -4
  else if !env.selects || timeoutMs < 0 then -6
  else match env.arrivals with
    | [] => -5
    | ⟨packet, after⟩ :: _ =>
      if timeoutMs * 1000 ≤ after then -5
      else if !env.receives then -7
      else if packet.size < packet.headerWords * 4 + icmpSize then -8
      else if packet.type ≠ icmpEchoReply ∨ packet.id ≠ id then -9
      else
        let rtt := rttMs env packet
        toInt (if 0 ≤ rtt then rtt else env.sendMs)

@[mk_iff]
structure Works (env : Environment) (timeoutMs : ℤ) : Prop where
  socketOpens : env.socketOpens = true
  binds : env.binds = true
  dest : env.dest.isNone = false
  sends : env.sends = true
  selects : env.selects = true
  receives : env.receives = true
  timeout : 0 ≤ timeoutMs

def OwnReply (env : Environment) (id sequence : UInt16) (timeoutMs : ℤ) (a : Arrival) : Prop :=
  a.after < timeoutMs * 1000 ∧ a.packet.type = icmpEchoReply ∧ a.packet.id = id ∧
    a.packet.sequence = sequence ∧ env.dest = some a.packet.source
deriving Decidable

def ReportsOwn (env : Environment) (id sequence : UInt16) (timeoutMs : ℤ) : Prop :=
  0 ≤ ping env id timeoutMs ↔ ∃ a ∈ env.arrivals, OwnReply env id sequence timeoutMs a

/-- An echo reply with the identifier, from whichever sender to whichever request. The age of its
stamp, in milliseconds, is negative or does not become so in an `int`. -/
@[mk_iff]
structure Passes (env : Environment) (id : UInt16) (timeoutMs : ℤ) (a : Arrival) : Prop where
  inTime : a.after < timeoutMs * 1000
  complete : a.packet.headerWords * 4 + icmpSize ≤ a.packet.size
  type : a.packet.type = icmpEchoReply
  id : a.packet.id = id
  stamp : rttMs env a.packet < 0 ∨ rttMs env a.packet % 2 ^ 32 < 2 ^ 31

/-- The packets among which the first one does not mislead: the reply comes first, or it comes after
one that passes for it; or no reply comes, and the first packet does not pass for one. -/
inductive Truthful (env : Environment) (id sequence : UInt16) (timeoutMs : ℤ) : List Arrival → Prop
  | reply (hworks : Works env timeoutMs) {first : Arrival} {rest : List Arrival}
    (hpasses : Passes env id timeoutMs first) (hsequence : first.packet.sequence = sequence)
    (hsource : env.dest = some first.packet.source) :
    Truthful env id sequence timeoutMs (first :: rest)
  | stranger (hworks : Works env timeoutMs) {first : Arrival} {rest : List Arrival}
    (hpasses : Passes env id timeoutMs first)
    (hlater : ∃ a ∈ rest, OwnReply env id sequence timeoutMs a) :
    Truthful env id sequence timeoutMs (first :: rest)
  | silence {arrivals : List Arrival} (hnone : ∀ a ∈ arrivals, ¬OwnReply env id sequence timeoutMs a)
    (hfirst : Works env timeoutMs → ∀ a ∈ arrivals.head?, ¬Passes env id timeoutMs a) :
    Truthful env id sequence timeoutMs arrivals

theorem nonneg_ite {c : Prop} [Decidable c] {code n : ℤ} (h : code < 0) :
    0 ≤ (if c then code else n) ↔ ¬c ∧ 0 ≤ n := by
  split_ifs with hc
  · simp [hc, h]
  · simp [hc]

theorem toInt_nonneg_iff (env : Environment) (packet : Packet) :
    0 ≤ toInt (if 0 ≤ rttMs env packet then rttMs env packet else env.sendMs) ↔
      rttMs env packet < 0 ∨ rttMs env packet % 2 ^ 32 < 2 ^ 31 := by
  have hsend := env.sendMs_lt
  rw [toInt, Int.bmod_def]
  split_ifs <;> omega

variable {env : Environment} {id sequence : UInt16} {timeoutMs : ℤ}
theorem ping_nonneg_iff : 0 ≤ ping env id timeoutMs ↔
    Works env timeoutMs ∧ ∃ a ∈ env.arrivals.head?, Passes env id timeoutMs a := by
  rw [works_iff, ping]
  simp (disch := decide) only [nonneg_ite]
  cases env.arrivals with
  | nil => simp
  | cons first rest =>
    simp (disch := decide) only [nonneg_ite, toInt_nonneg_iff]
    simp only [Bool.not_eq_true', Bool.not_eq_false, Bool.not_eq_true, not_or, Bool.or_eq_true,
      decide_eq_true_eq, not_lt, not_le, ne_eq, not_not, List.head?_cons, Option.mem_some_iff,
      exists_eq_left', passes_iff]
    tauto

theorem Passes.ownReply {a : Arrival} (h : Passes env id timeoutMs a) :
    OwnReply env id sequence timeoutMs a ↔
      a.packet.sequence = sequence ∧ env.dest = some a.packet.source :=
  ⟨fun hown => hown.2.2.2, fun hown => ⟨h.inTime, h.type, h.id, hown⟩⟩

def reply : Packet := ⟨1, 48, 5, icmpEchoReply, 7, 3, 0, 0⟩

def receiving (arrivals : List Arrival) : Environment :=
  ⟨true, true, some 1, true, 0, by decide, true, true, arrivals, 0, 1000⟩

/-- `last` is the word into which the last byte of an odd buffer is stored; where in the word it
stands depends on the host. -/
def checksum (words : List UInt16) (last : Option UInt16) : UInt16 :=
  let sum : UInt32 := (words ++ last.toList).foldl (fun sum w => sum + w.toUInt32) 0
  let sum := (sum >>> 16) + (sum &&& 0xffff)
  let sum := sum + (sum >>> 16)
  (~~~sum).toUInt16

def onesSum (words : List UInt16) (sum : ℕ) : ℕ :=
  words.foldl (fun sum w => (sum + w.toNat) % 2 ^ 16 + (sum + w.toNat) / 2 ^ 16) sum

def total (words : List UInt16) : ℕ := (words.map UInt16.toNat).sum

theorem accumulator_toNat (words : List UInt16) (sum : UInt32) :
    (words.foldl (fun sum w => sum + w.toUInt32) sum).toNat =
      (sum.toNat + total words) % 2 ^ 32 := by
  induction words generalizing sum with
  | nil => exact (Nat.mod_eq_of_lt sum.toNat_lt).symm
  | cons w _ ih =>
    simp only [foldl_cons, ih, total, map_cons, sum_cons, UInt32.toNat_add, UInt16.toNat_toUInt32]
    omega

-- a sum other than zero never becomes the zero among the two representations of zero
theorem onesSum_spec (words : List UInt16) {sum : ℕ} (hsum : sum < 2 ^ 16) :
    onesSum words sum < 2 ^ 16 ∧
    onesSum words sum % (2 ^ 16 - 1) = (sum + total words) % (2 ^ 16 - 1) ∧
    (onesSum words sum = 0 → sum + total words = 0) := by
  induction words generalizing sum with
  | nil => exact ⟨hsum, rfl, id⟩
  | cons w _ ih =>
    have hw := w.toNat_lt
    have hnext := @ih ((sum + w.toNat) % 2 ^ 16 + (sum + w.toNat) / 2 ^ 16) (by omega)
    simp only [onesSum, foldl_cons, total, map_cons, sum_cons] at hnext ⊢
    omega

theorem checksum_toNat {words : List UInt16} {last : Option UInt16} {sum : ℕ}
    (hsum : total (words ++ last.toList) = sum) (h : sum < 2 ^ 32) :
    (sum + (checksum words last).toNat) % (2 ^ 16 - 1) = 0 ∧
      sum + (checksum words last).toNat ≠ 0 := by
  have hmask : ∀ x : UInt32, (x &&& 0xffff).toNat = x.toNat % 2 ^ 16 := fun _ =>
    Nat.and_two_pow_sub_one_eq_mod _ 16
  have hshift : ∀ x : UInt32, (x >>> 16).toNat = x.toNat / 2 ^ 16 := fun _ =>
    Nat.shiftRight_eq_div_pow _ _
  simp only [checksum, UInt32.toUInt16_not, UInt16.toNat_not, UInt32.toNat_toUInt16,
    UInt32.toNat_add, hmask, hshift, accumulator_toNat, UInt16.size, UInt32.toNat_zero, zero_add,
    hsum, Nat.mod_eq_of_lt h]
  have hsplit : sum = (2 ^ 16 - 1) * (sum / 2 ^ 16) + (sum / 2 ^ 16 + sum % 2 ^ 16) := by omega
  have hlt : sum / 2 ^ 16 + sum % 2 ^ 16 < 2 ^ 17 - 1 := by omega
  generalize sum / 2 ^ 16 + sum % 2 ^ 16 = folded at hsplit hlt ⊢
  rw [Nat.mod_eq_of_lt (by omega : folded < 2 ^ 32),
    Nat.mod_eq_of_lt (by omega : folded + folded / 2 ^ 16 < 2 ^ 32)]
  rcases Nat.lt_or_ge folded (2 ^ 16) with hcarry | hcarry
  · rw [Nat.div_eq_of_lt hcarry]
    omega
  · rw [(by omega : folded / 2 ^ 16 = 1)]
    omega

theorem checksum_verifies (before after : List UInt16) (last : Option UInt16)
    (h : 2 * (before ++ 0 :: after).length + last.toList.length < 2 ^ 17) :
    onesSum (before ++ checksum (before ++ 0 :: after) last :: after ++ last.toList) 0 =
      0xffff := by
  have hle : total (before ++ 0 :: after ++ last.toList) ≤ _ * (2 ^ 16 - 1) :=
    sum_le_card_nsmul _ _ (forall_mem_map.mpr fun w _ => Nat.le_pred_of_lt w.toNat_lt)
  have hlast : last.toList.length ≤ 1 := Option.length_toList_le
  rw [length_map, length_append] at hle
  have hspec := @checksum_toNat (before ++ 0 :: after) last _ rfl (by omega)
  generalize checksum (before ++ 0 :: after) last = stored at hspec ⊢
  have hones := onesSum_spec (before ++ stored :: after ++ last.toList) (by omega : 0 < 2 ^ 16)
  simp only [total, map_append, map_cons, sum_append, sum_cons, UInt16.toNat_zero] at hspec hones
  omega

theorem checksum_verifies_odd :
    onesSum ([8] ++ checksum ([8] ++ 0 :: [1, 2]) (some 7) :: [1, 2] ++ [7]) 0 = 0xffff :=
  checksum_verifies [8] [1, 2] (some 7) (by decide)
end WeakNet.NetPing
