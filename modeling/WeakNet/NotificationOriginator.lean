import WeakNet.NetlinkDumps
import WeakNet.RequesterPort

/-! Linux puts the sequence number and the port id of the request that caused a change into the
headers of its notifications. The routing parser knows only those of the kernel's own changes, in
which both are zero; any other one makes the datagram malformed. -/

namespace WeakNet
open Foundation.Bytes NetlinkWire RtnetlinkParser List NetlinkCollector

def withOriginator (sequence port : ℕ) (bs : ByteString) : ByteString :=
  withSequence sequence (withPortId port bs)

def ParseResult.contents (result : ParseResult) : List ParsedMessage :=
  result.messages.map fun message => { message with sequence := 0, senderPid := 0 }

theorem length_withOriginator (sequence port : ℕ) (bs : ByteString) :
    (withOriginator sequence port bs).length = bs.length := by
  rw [withOriginator, length_withSequence, length_withPortId]

theorem nlmsghdr_withOriginator {sequence port : ℕ} (hsequence : sequence < 2 ^ 32)
    (hport : port < 2 ^ 32) {bs : ByteString} (hbs : headerSize ≤ bs.length) :
    nlmsghdr (withOriginator sequence port bs) =
      { nlmsghdr bs with seq := sequence, pid := port } := by
  have hlength := length_withPortId port bs
  rw [withOriginator, nlmsghdr_withSequence hsequence (by omega), nlmsghdr_withPortId hport hbs]

namespace RtnetlinkParser
variable {expected : Option ℕ} {netns : NetnsId} {sequence port : ℕ} {bs : ByteString}
theorem remaining_withOriginator : remaining (withOriginator sequence port bs) = remaining bs := by
  simp only [remaining]
  rw [length_withOriginator]

theorem headerError_of_originator (hother : expected ≠ some (nlmsghdr bs).seq)
    (hforeign : ¬((nlmsghdr bs).seq = 0 ∧ (nlmsghdr bs).pid = 0)) :
    ∃ text, headerError expected 0 bs = some text := by
  rw [headerError]
  split_ifs with hlen hsequence hnotice hpid
  · exact ⟨_, rfl⟩
  · exact ⟨_, rfl⟩
  · exact ⟨_, rfl⟩
  · exact ⟨_, rfl⟩
  · have hzero : (nlmsghdr bs).seq = 0 := by
      by_contra hnonzero
      cases expected with
      | none => exact hnotice ⟨rfl, hnonzero⟩
      | some _ => exact hsequence ⟨rfl, hother, hnonzero⟩
    have hport : (nlmsghdr bs).pid = 0 := by
      by_contra hnonzero
      exact hpid ⟨hnonzero, hnonzero⟩
    exact absurd ⟨hzero, hport⟩ hforeign

theorem parse_withOriginator_malformed (hsequence : sequence < 2 ^ 32) (hport : port < 2 ^ 32)
    (hother : expected ≠ some sequence) (hforeign : ¬(sequence = 0 ∧ port = 0))
    (hpos : 0 < remaining bs) :
    (parse (withOriginator sequence port bs) 0 expected netns).malformed := by
  have hlength := length_withOriginator sequence port bs
  apply parse_of_headerError
  · rw [remaining_withOriginator]
    exact hpos
  · generalize hread : (withOriginator sequence port bs).take _ = read
    by_cases hshort : read.length < headerSize
    · rw [headerError]
      exact ⟨_, if_pos (.inl hshort)⟩
    · have hheader : nlmsghdr read = { nlmsghdr bs with seq := sequence, pid := port } := by
        have hlong : headerSize ≤ read.length := Nat.le_of_not_lt hshort
        rw [← hread] at hlong ⊢
        rw [nlmsghdr_take hlong]
        rw [length_take] at hlong
        exact nlmsghdr_withOriginator hsequence hport (by omega)
      apply headerError_of_originator <;> rw [hheader]
      · exact hother
      · exact hforeign
end RtnetlinkParser

section Numbered
variable {expected : Option ℕ} {netns : NetnsId} {sequence : ℕ}
theorem parseFrom_numbered (hsequence : sequence < 2 ^ 32) (fuel stamps n : ℕ) (bs : ByteString)
    (hstamps : bs.length ≤ stamps) (result : ParseResult)
    (hresult : ∀ item ∈ result.messages, item.sequence = sequence) :
    ∀ item ∈ (parseFrom expected 0 netns fuel
      ((stampFrom 8 (encode 4 sequence) stamps bs).take n) result).messages,
      item.sequence = sequence := by
  induction fuel generalizing stamps n bs result with
  | zero => exact hresult
  | succ _ ih =>
    obtain ⟨read, hread⟩ : ∃ read, read = (stampFrom 8 (encode 4 sequence) stamps bs).take n :=
      ⟨_, rfl⟩
    have hstamped := length_stampFrom (seq_fits sequence) stamps bs
    rw [← hread, parseFrom]
    by_cases hnil : read = []
    · rw [if_pos hnil]
      exact hresult
    rw [if_neg hnil]
    cases hheader : headerError expected 0 read with
    | some _ => exact hresult
    | none =>
      have hframed : headerSize ≤ read.length ∧ headerSize ≤ (nlmsghdr read).len := by
        rw [headerError] at hheader
        split_ifs at hheader
        omega
      have hbs : headerSize ≤ bs.length := by
        have hcut : read.length ≤ bs.length := by
          rw [hread, length_take]
          omega
        omega
      obtain ⟨rest, rfl⟩ : ∃ rest, stamps = rest + 1 := by
        apply Nat.exists_eq_succ_of_ne_zero
        unfold headerSize at hbs
        omega
      have hfirst : nlmsghdr read = { nlmsghdr bs with seq := sequence } := by
        have hlong := hframed.1
        rw [hread] at hlong ⊢
        rw [nlmsghdr_take hlong, nlmsghdr_stampFrom (seq_fits sequence) hbs]
        exact nlmsghdr_overwrite_seq hsequence hbs
      have hsize : (nlmsghdr read).len = (nlmsghdr bs).len := by rw [hfirst]
      rcases parseMessage_describes expected netns result read with
        ⟨next, item, hmessage, hitem, hnumber, _⟩ | ⟨text, hmessage⟩ <;> simp only [hmessage]
      · have hnext : ∀ item ∈ next.messages, item.sequence = sequence := by
          rw [hitem]
          exact forall_mem_append.mpr ⟨hresult, forall_mem_singleton.mpr (by rw [hnumber, hfirst])⟩
        split_ifs with hcut
        · exact hnext
        · have hdrop : read.drop (align4 (nlmsghdr read).len) =
              ((stampFrom 8 (encode 4 sequence) (rest + 1) bs).drop (align4 (nlmsghdr bs).len)).take
                (n - align4 (nlmsghdr bs).len) := by
            rw [hsize, hread, drop_take]
          rw [hdrop]
          by_cases hmore : align4 (nlmsghdr bs).len < bs.length
          · rw [drop_stampFrom (seq_fits sequence) (by omega) hmore]
            apply ih _ _ _ _ _ hnext
            have hle := le_align4 (nlmsghdr bs).len
            rw [length_drop]
            unfold headerSize at hframed
            omega
          · rw [drop_eq_nil_of_le (by omega)]
            exact ih 0 _ [] le_rfl next hnext
      · exact hresult

theorem parse_numbered (hsequence : sequence < 2 ^ 32) (bs : ByteString) :
    ∀ item ∈ (parse (withSequence sequence bs) 0 expected netns).messages,
      item.sequence = sequence := by
  have hblank : ∀ item ∈ ParseResult.blank.messages, item.sequence = sequence := forall_mem_nil _
  rw [parse, if_neg (by simp)]
  split_ifs
  · exact hblank
  · exact parseFrom_numbered hsequence _ _ _ bs le_rfl _ hblank
end Numbered

/-- The parser reads the notice as it reads the plain datagram, and a dump takes its facts for
a racing notification: it goes on, leaves its candidate alone and is repeated. -/
structure Followed (expected : Option ℕ) (netns : NetnsId) (plain notice : ByteString) : Prop where
  accepted : (RtnetlinkParser.parse notice 0 expected netns).accepted = true
  same : (RtnetlinkParser.parse notice 0 expected netns).contents =
    (RtnetlinkParser.parse plain 0 expected netns).contents
  racing : expected.isSome = true →
    ∀ item ∈ (RtnetlinkParser.parse notice 0 expected netns).messages,
      NetlinkCollector.isFact item = true → ∀ d, ∃ next,
        NetlinkCollector.dumpMessage d item = .ok next ∧ next.raced = true ∧
          next.candidate = d.candidate

theorem dumpMessage_racing {item : ParsedMessage} (hnumber : item.sequence = 0)
    (hfact : isFact item) (d : NetlinkCollector.DumpState) :
    ∃ next, dumpMessage d item = .ok next ∧ next.raced ∧
      next.candidate = d.candidate := by
  rw [dumpMessage, if_pos ⟨hnumber, hfact⟩]
  exact ⟨_, rfl, rfl, rfl⟩

/-- Of the datagrams the parser accepts with zeros it follows exactly those of the kernel's own
changes, whether or not a dump is running; in a datagram whose length, cut to a 32-bit integer,
is not positive it reads no header at all. -/
theorem notification_followed_iff {sequence port : ℕ} (hsequence : sequence < 2 ^ 32)
    (hport : port < 2 ^ 32) (datagram : ByteString) (netns : NetnsId) (expected : Option ℕ)
    (hother : expected ≠ some sequence)
    (hplain : (RtnetlinkParser.parse (withOriginator 0 0 datagram) 0 expected
      netns).accepted = true) :
    Followed expected netns (withOriginator 0 0 datagram) (withOriginator sequence port datagram) ↔
      (sequence = 0 ∧ port = 0) ∨ RtnetlinkParser.remaining datagram ≤ 0 := by
  constructor
  · intro hfollowed
    by_contra hneither
    have hmalformed := @parse_withOriginator_malformed expected netns sequence port
      datagram hsequence hport hother (fun hzero => hneither (.inl hzero))
      (by omega)
    have haccepted := hfollowed.accepted
    rw [ParseResult.accepted, hmalformed] at haccepted
    cases haccepted
  · rintro (⟨rfl, rfl⟩ | hremaining)
    · refine ⟨hplain, rfl, fun _ item hitem hfact d => ?_⟩
      exact dumpMessage_racing (parse_numbered (by decide) _ item hitem) hfact d
    · have hblank : ∀ s p, parse (withOriginator s p datagram) 0 expected netns =
          .blank := by
        intro s p
        apply parse_of_remaining_nonpos
        · have hne := ne_nil_of_accepted expected netns hplain
          rw [← length_pos_iff] at hne ⊢
          rwa [length_withOriginator] at hne ⊢
        · rwa [remaining_withOriginator]
      refine ⟨?_, ?_, fun _ item hitem => ?_⟩
      · rw [hblank]
        rfl
      · rw [hblank, hblank]
      · rw [hblank] at hitem
        cases hitem

def linkNotice : ByteString :=
  encode 4 32 ++ encode 2 RtnetlinkParser.rtmNewlink ++ encode 2 0 ++ encode 4 0 ++ encode 4 0 ++
    [0, 0, 1, 0, 2, 0, 0, 0, 67, 16, 0, 0, 0, 0, 0, 0]

theorem link_notice_followed :
    (Followed none ⟨4, 1⟩ (withOriginator 0 0 linkNotice) (withOriginator 0 0 linkNotice) ∧
      ¬ Followed none ⟨4, 1⟩ (withOriginator 0 0 linkNotice) (withOriginator 7 4242 linkNotice)) ∧
    Followed (some 100) ⟨4, 1⟩ (withOriginator 0 0 linkNotice) (withOriginator 0 0 linkNotice) ∧
      ¬ Followed (some 100) ⟨4, 1⟩ (withOriginator 0 0 linkNotice)
        (withOriginator 7 4242 linkNotice) := by
  have hpos : ¬((7 = 0 ∧ 4242 = 0) ∨ remaining linkNotice ≤ 0) := by
    decide +kernel
  have hnone : (parse (withOriginator 0 0 linkNotice) 0 none
      ⟨4, 1⟩).accepted := by decide +kernel
  have hdump : (parse (withOriginator 0 0 linkNotice) 0 (some 100)
      ⟨4, 1⟩).accepted := by decide +kernel
  refine ⟨⟨?_, fun hfollowed => hpos ?_⟩, ?_, fun hfollowed => hpos ?_⟩
  · exact (notification_followed_iff (by decide) (by decide) linkNotice _ none nofun hnone).mpr
      (.inl ⟨rfl, rfl⟩)
  · exact (notification_followed_iff (by decide) (by decide) linkNotice _ none nofun hnone).mp
      hfollowed
  · exact (notification_followed_iff (by decide) (by decide) linkNotice _ (some 100)
      (by decide) hdump).mpr (.inl ⟨rfl, rfl⟩)
  · exact (notification_followed_iff (by decide) (by decide) linkNotice _ (some 100)
      (by decide) hdump).mp hfollowed

/-- The same link change is read when the kernel makes it and malformed when a process does. -/
theorem process_change_malformed :
    (RtnetlinkParser.parse (withOriginator 0 0 linkNotice) 0 none ⟨4, 1⟩).accepted = true ∧
    (RtnetlinkParser.parse (withOriginator 7 4242 linkNotice) 0 none ⟨4, 1⟩).malformed = true ∧
    (RtnetlinkParser.parse (withOriginator 0 0 linkNotice) 0 (some 100) ⟨4, 1⟩).accepted = true ∧
    (RtnetlinkParser.parse (withOriginator 7 4242 linkNotice) 0 (some 100)
      ⟨4, 1⟩).malformed = true := by
  decide +kernel
end WeakNet
