import WeakNet.RtnetlinkParser
import WeakNet.SocketDiagParser
import WeakNet.WifiNl80211Parser

/-! The kernel puts the port id of the requesting socket into the headers of a reply, and all three
parsers take that field for the sender. The routing parser examines no message at all when the
length of the datagram, cut to a 32-bit integer, is not positive. -/

namespace WeakNet
open Foundation.Bytes NetlinkWire RtnetlinkParser WifiNl80211Parser

def ForeignHeader (bs : ByteString) : Prop := headerSize ≤ bs.length → (nlmsghdr bs).pid ≠ 0

theorem foreignHeader_withPortId {port : ℕ} (hport : 0 < port) (hlt : port < 2 ^ 32)
    (bs : ByteString) : ForeignHeader (withPortId port bs) := by
  intro hlen
  rw [length_withPortId] at hlen
  rw [nlmsghdr_withPortId hlt hlen]
  exact Nat.ne_of_gt hport

variable {bs : ByteString}
theorem ForeignHeader.take (h : ForeignHeader bs) (n : ℕ) :
    ForeignHeader (bs.take n) := by
  intro hlen
  rw [List.length_take] at hlen
  have hbs : headerSize ≤ bs.length := by omega
  have hn : 12 + 4 ≤ n := by
    rw [headerSize] at hlen
    omega
  have hpid : (nlmsghdr (bs.take n)).pid = (nlmsghdr bs).pid := by
    change littleEndian (slice 12 4 (bs.take n)) = littleEndian (slice 12 4 bs)
    rw [slice_take hn]
  rw [hpid]
  exact h hbs

namespace RtnetlinkParser
variable (expected : Option ℕ) (netns : NetnsId)
theorem headerError_of_foreignHeader (h : ForeignHeader bs) :
    ∃ text, headerError expected 0 bs = some text := by
  unfold headerError
  dsimp only
  split_ifs with hlen hseq hnote hpid
  · exact ⟨_, rfl⟩
  · exact ⟨_, rfl⟩
  · exact ⟨_, rfl⟩
  · exact ⟨_, rfl⟩
  · have hnonzero := h (by omega)
    exact absurd ⟨hnonzero, hnonzero⟩ hpid

theorem parse_of_headerError (hpos : 0 < remaining bs)
    (h : ∃ text, headerError expected 0 (bs.take (remaining bs).toNat) = some text) :
    (parse bs 0 expected netns).malformed := by
  by_cases hbs : bs = []
  · simp [parse, hbs, reject]
  · obtain ⟨text, htext⟩ := h
    have htake : bs.take (remaining bs).toNat ≠ [] := by
      intro hnil
      rcases List.take_eq_nil_iff.mp hnil with hzero | hempty
      · omega
      · exact hbs hempty
    obtain ⟨fuel, hfuel⟩ : ∃ fuel, (bs.take (remaining bs).toNat).length = fuel + 1 :=
      Nat.exists_eq_succ_of_ne_zero fun hzero => htake (List.length_eq_zero_iff.mp hzero)
    rw [parse, if_neg (by simp), if_neg hbs]
    dsimp only
    rw [hfuel, parseFrom, if_neg htake, htext]
    rfl

theorem parse_of_foreignHeader (h : ForeignHeader bs) (hpos : 0 < remaining bs) :
    (parse bs 0 expected netns).malformed :=
  parse_of_headerError expected netns hpos (headerError_of_foreignHeader expected (h.take _))

theorem parse_of_remaining_nonpos (hbs : bs ≠ []) (h : remaining bs ≤ 0) :
    parse bs 0 expected netns = .blank := by
  rw [parse]
  rw [if_neg (by simp), if_neg hbs, Int.toNat_eq_zero.mpr h]
  rfl

theorem ne_nil_of_accepted (h : (parse bs 0 expected netns).accepted) : bs ≠ [] := by
  intro hbs
  subst hbs
  simp [parse, reject, ParseResult.accepted] at h

theorem remaining_withPortId (port : ℕ) : remaining (withPortId port bs) = remaining bs := by
  simp only [remaining]
  rw [length_withPortId]

theorem withPortId_ne_nil (port : ℕ) (h : bs ≠ []) : withPortId port bs ≠ [] := by
  rw [← List.length_pos_iff] at h ⊢
  rwa [length_withPortId]
end RtnetlinkParser

namespace SocketDiagParser
variable (expected : Option ℕ) (netns : NetnsId)
theorem headerError_of_foreignHeader (h : ForeignHeader bs) :
    ∃ text, headerError expected bs = some text := by
  unfold headerError
  dsimp only
  split_ifs with hshort hlen hseq hpid
  · exact ⟨_, rfl⟩
  · exact ⟨_, rfl⟩
  · exact ⟨_, rfl⟩
  · exact ⟨_, rfl⟩
  · exact absurd (h (by omega)) hpid

theorem parse_of_foreignHeader (h : ForeignHeader bs) :
    (parse bs 0 expected netns).malformed := by
  by_cases hbs : bs = []
  · simp [parse, hbs, reject]
  · obtain ⟨text, htext⟩ := headerError_of_foreignHeader expected h
    obtain ⟨fuel, hfuel⟩ : ∃ fuel, bs.length = fuel + 1 :=
      Nat.exists_eq_succ_of_ne_zero fun hzero => hbs (List.length_eq_zero_iff.mp hzero)
    rw [parse]
    rw [if_neg (by simp), if_neg hbs, hfuel, parseFrom, if_neg hbs, htext]
    rfl
end SocketDiagParser

namespace WifiNl80211Parser
theorem validateHeader_of_foreignHeader (h : ForeignHeader bs) (sequence : ℕ) :
    validateHeader bs 0 sequence = .malformed ∨ validateHeader bs 0 sequence = .wrongSender := by
  unfold validateHeader
  dsimp only
  split_ifs with hlen hpid
  · exact .inl rfl
  · exact .inr rfl
  all_goals exact absurd (h (by omega)) hpid

variable {α : Type} (callback : List Attribute → Option α → WifiParseStatus × Option α)
theorem walkMessages_of_foreignHeader (h : ForeignHeader bs) (sequence : ℕ) :
    (walkMessages callback bs 0 sequence).accepted = false := by
  have hheader := validateHeader_of_foreignHeader h sequence
  have hinvalid : validateHeader bs 0 sequence ≠ .ok := by
    rcases hheader with hbad | hbad <;> rw [hbad] <;> decide
  rw [walkMessages]
  rw [walkMessagesFrom, walkMessage]
  by_cases hshort : bs.length < headerSize
  · rw [if_pos hshort]
    rfl
  · rw [if_neg hshort, if_pos hinvalid]
    rcases hheader with hbad | hbad <;> rw [hbad] <;> rfl
end WifiNl80211Parser

/-- No parser accepts a reply that carries the requester's port id, except that the routing
parser still accepts a datagram in which it examines no message. -/
theorem requester_port_rejected {port : ℕ} (hport : 0 < port) (hlt : port < 2 ^ 32)
    (datagram : ByteString) (netns : NetnsId) (expected : Option ℕ) (sequence ifindex : ℕ) :
    let plain := withPortId 0 datagram
    let reply := withPortId port datagram
    ((RtnetlinkParser.parse plain 0 expected netns).accepted →
      (((RtnetlinkParser.parse reply 0 expected netns).accepted ∧
          (RtnetlinkParser.parse reply 0 expected netns).facts =
            (RtnetlinkParser.parse plain 0 expected netns).facts) ↔
        RtnetlinkParser.remaining datagram ≤ 0)) ∧
    (SocketDiagParser.parse reply 0 expected netns).accepted = false ∧
    (WifiNl80211Parser.parseFamilyId reply 0 sequence).accepted = false ∧
    (WifiNl80211Parser.parseInterface reply 0 sequence ifindex).accepted = false ∧
    (WifiNl80211Parser.parseStation reply 0 sequence).accepted = false := by
  have hforeign := foreignHeader_withPortId hport hlt datagram
  refine ⟨fun hplain => ⟨fun hreply => ?_, fun hremaining => ?_⟩, ?_,
    walkMessages_of_foreignHeader _ hforeign sequence,
    walkMessages_of_foreignHeader _ hforeign sequence,
    walkMessages_of_foreignHeader _ hforeign sequence⟩
  · by_contra hpos
    have hmalformed : (parse (withPortId port datagram) 0 expected
        netns).malformed := by
      apply parse_of_foreignHeader expected netns hforeign
      rw [remaining_withPortId]
      omega
    simp [ParseResult.accepted, hmalformed] at hreply
  · have hne : datagram ≠ [] := by
      intro hnil
      exact ne_nil_of_accepted expected netns hplain (by rw [hnil]; rfl)
    have hblank : ∀ p, parse (withPortId p datagram) 0 expected netns = .blank := by
      intro p
      apply parse_of_remaining_nonpos expected netns (withPortId_ne_nil p hne)
      rwa [remaining_withPortId]
    rw [hblank, hblank]
    exact ⟨rfl, rfl⟩
  · have hmalformed := SocketDiagParser.parse_of_foreignHeader expected netns hforeign
    simp [SocketDiagParseResult.accepted, hmalformed]

def doneReply : ByteString := encode 4 16 ++ encode 2 3 ++ encode 2 0 ++ encode 4 100 ++ encode 4 0

theorem requester_port_rejected_done :
    (RtnetlinkParser.parse (withPortId 0 doneReply) 0 (some 100) ⟨4, 1⟩).accepted = true ∧
    ¬ ((RtnetlinkParser.parse (withPortId 4242 doneReply) 0 (some 100) ⟨4, 1⟩).accepted = true ∧
      (RtnetlinkParser.parse (withPortId 4242 doneReply) 0 (some 100) ⟨4, 1⟩).facts =
        (RtnetlinkParser.parse (withPortId 0 doneReply) 0 (some 100) ⟨4, 1⟩).facts) := by
  have hplain : (parse (withPortId 0 doneReply) 0 (some 100)
      ⟨4, 1⟩).accepted := by decide +kernel
  have hreject := (@requester_port_rejected 4242 (by decide) (by decide) doneReply
    ⟨4, 1⟩ (some 100) 100 2).1 hplain
  refine ⟨hplain, fun hreply => ?_⟩
  exact absurd (hreject.mp hreply) (by decide +kernel)

theorem done_reply_port_dependent :
    (RtnetlinkParser.parse (withPortId 0 doneReply) 0 (some 100) ⟨4, 1⟩).accepted = true ∧
    (RtnetlinkParser.parse (withPortId 4242 doneReply) 0 (some 100) ⟨4, 1⟩).accepted = false ∧
    (SocketDiagParser.parse (withPortId 0 doneReply) 0 (some 100) ⟨4, 1⟩).accepted = true ∧
    (SocketDiagParser.parse (withPortId 4242 doneReply) 0 (some 100) ⟨4, 1⟩).accepted = false ∧
    (WifiNl80211Parser.parseStation (withPortId 0 doneReply) 0 100).accepted = true ∧
    (WifiNl80211Parser.parseStation (withPortId 4242 doneReply) 0 100).accepted = false := by
  decide +kernel
end WeakNet
