import WeakNet.WifiCollector

/-! `requestAndReceive`, by which each request of the collector is answered. The operating system
enters as data, turn by turn of the receive loop. The loop ends with a reply only at `NLMSG_DONE` or
`NLMSG_ERROR`, and the kernel answers the two requests that are no dumps with one data message and
neither of these. -/

namespace WeakNet.WifiCollector
open Foundation Foundation.Bytes NetlinkWire WifiNl80211Parser

def eintr : ℕ := 4
def eagain : ℕ := 11
def responseBufferSize : ℕ := 8192

inductive Received where
  | pollFailed (errno : ℕ)
  | idle
  | recvFailed (errno : ℕ)
  | datagram (sender : ℕ) (truncated : Bool) (bytes : ByteString)
deriving DecidableEq

structure Turn where
  stopRequested : Bool
  remainingMs : ℤ
  received : Received
deriving DecidableEq

structure Exchange where
  opened : Bool
  sent : Bool
  turns : List Turn

/-- The walk over the headers of a datagram, which returns whether one of them is terminal. -/
def scanFrom (sequence : ℕ) : ℕ → ByteString → Bool → Except WifiParseStatus Bool
  | 0, _, terminal => .ok terminal
  | fuel + 1, bs, terminal =>
    let header := nlmsghdr bs
    if bs = [] then .ok terminal
    else if bs.length < headerSize then .error .malformed
    else if header.len < headerSize ∨ bs.length < header.len ∨ header.seq ≠ sequence then
      .error .wrongSequence
    else if bs.length < align4 header.len then .error .malformed
    else scanFrom sequence fuel (bs.drop (align4 header.len))
      (terminal || header.type == nlmsgDone || header.type == nlmsgError)

def scanDatagram (sequence : ℕ) (bs : ByteString) : Except WifiParseStatus Bool :=
  scanFrom sequence bs.length bs false

def receiveLoop (sequence : ℕ) : List Turn → ByteString → Option (WifiParseStatus × ByteString)
  | [], _ => none
  | turn :: turns, response =>
    if turn.stopRequested then some (.timeout, response)
    else if turn.remainingMs ≤ 0 then some (.timeout, response)
    else match turn.received with
      | .pollFailed errno =>
        if errno = eintr then receiveLoop sequence turns response else some (.errorReply, response)
      | .idle => receiveLoop sequence turns response
      | .recvFailed errno =>
        if errno = eintr ∨ errno = eagain then receiveLoop sequence turns response
        else some (.errorReply, response)
      | .datagram sender truncated bytes =>
        if truncated ∨ responseBufferSize < bytes.length then some (.truncated, response)
        else if sender ≠ 0 then some (.wrongSender, response)
        else match scanDatagram sequence bytes with
          | .error status => some (status, response)
          | .ok true => some (.ok, response ++ bytes)
          | .ok false => receiveLoop sequence turns (response ++ bytes)

def requestAndReceive (exchange : Exchange) (sequence : ℕ) :
    Option (WifiParseStatus × ByteString) :=
  if !exchange.opened || !exchange.sent then some (.errorReply, [])
  else receiveLoop sequence exchange.turns []

def Turn.delivered (turn : Turn) : Option ByteString :=
  match turn.received with
  | .datagram _ _ bytes => some bytes
  | _ => none

def delivered (turns : List Turn) : List ByteString := turns.filterMap Turn.delivered

/-- One data message that answers the request, in which the callback finds the value. -/
structure Answers {α : Type} (callback : List Attribute → Option α → WifiParseStatus × Option α)
    (sequence : ℕ) (bytes : ByteString) (value : α) : Prop where
  framed : headerSize + genlmsghdrSize ≤ (nlmsghdr bytes).len ∧
    (nlmsghdr bytes).len ≤ bytes.length ∧ align4 (nlmsghdr bytes).len = bytes.length
  numbered : (nlmsghdr bytes).seq = sequence
  data : nlmsgMinType ≤ (nlmsghdr bytes).type
  found : ∃ attrs, attributes ((nlmsgData bytes).drop genlmsghdrSize) = some attrs ∧
    callback attrs none = (.ok, some value)

variable {sequence : ℕ} {bytes : ByteString}

section Receive
theorem scanFrom_error (fuel : ℕ) (bs : ByteString) (terminal : Bool) :
    scanFrom sequence fuel bs terminal ≠ .error .ok := by
  induction fuel generalizing bs terminal with
  | zero => exact nofun
  | succ _ ih =>
    rw [scanFrom]
    split_ifs
    · exact nofun
    · exact nofun
    · exact nofun
    · exact nofun
    · exact ih _ _

theorem receiveLoop_ok {turns : List Turn} {response result : ByteString}
    (h : receiveLoop sequence turns response = some (.ok, result)) :
    ∃ bytes ∈ delivered turns, scanDatagram sequence bytes = .ok true := by
  induction turns generalizing response with
  | nil => cases h
  | cons turn turns ih =>
    have hlater : ∀ response, receiveLoop sequence turns response = some (.ok, result) →
        ∃ bytes ∈ delivered (turn :: turns), scanDatagram sequence bytes = .ok true := by
      intro response hrest
      obtain ⟨bytes, hbytes, hscan⟩ := ih hrest
      exact ⟨bytes, ((List.sublist_cons_self turn turns).filterMap _).subset hbytes, hscan⟩
    rw [receiveLoop] at h
    split_ifs at h with hstop hlate
    · cases h
    · cases h
    · cases hreceived : turn.received with
      | pollFailed | recvFailed =>
        simp only [hreceived] at h
        split_ifs at h
        · exact hlater _ h
        · cases h
      | idle =>
        simp only [hreceived] at h
        exact hlater _ h
      | datagram _ _ bytes =>
        simp only [hreceived] at h
        split_ifs at h
        · cases h
        · cases h
        · cases hscan : scanDatagram sequence bytes with
          | error =>
            simp only [hscan, Option.some.injEq, Prod.mk.injEq] at h
            rw [h.1] at hscan
            exact absurd hscan (scanFrom_error _ _ _)
          | ok terminal =>
            cases terminal with
            | true =>
              refine ⟨bytes, ?_, hscan⟩
              rw [delivered, List.filterMap_cons, Turn.delivered, hreceived]
              exact List.mem_cons_self
            | false =>
              rw [hscan] at h
              exact hlater _ h

theorem scanDatagram_data
    (hframed : headerSize ≤ (nlmsghdr bytes).len ∧ align4 (nlmsghdr bytes).len = bytes.length)
    (hdata : nlmsgMinType ≤ (nlmsghdr bytes).type) :
    scanDatagram sequence bytes ≠ .ok true := by
  obtain ⟨hlen, hwhole⟩ := hframed
  have hle := le_align4 (nlmsghdr bytes).len
  obtain ⟨fuel, hfuel⟩ : ∃ fuel, bytes.length = fuel + 1 :=
    Nat.exists_eq_succ_of_ne_zero (by unfold headerSize at hlen; omega)
  have hdone : ((nlmsghdr bytes).type == nlmsgDone) = false := by
    rw [beq_eq_false_iff_ne]
    unfold nlmsgMinType at hdata
    unfold nlmsgDone
    omega
  have herror : ((nlmsghdr bytes).type == nlmsgError) = false := by
    rw [beq_eq_false_iff_ne]
    unfold nlmsgMinType at hdata
    unfold nlmsgError
    omega
  have hrest : ∀ fuel, scanFrom sequence fuel [] false = .ok false := by
    intro fuel
    cases fuel with
    | zero => rfl
    | succ => rw [scanFrom, if_pos rfl]
  rw [scanDatagram, hfuel, scanFrom, hdone, herror, hwhole, List.drop_length]
  split_ifs
  · exact nofun
  · exact nofun
  · exact nofun
  · exact nofun
  · rw [Bool.false_or, Bool.false_or, hrest]
    exact nofun
end Receive

variable {exchange : Exchange}

section Answer
variable {α : Type} {callback : List Attribute → Option α → WifiParseStatus × Option α} {value : α}
theorem Answers.no_response (h : Answers callback sequence bytes value)
    (hone : delivered exchange.turns = [bytes]) (expected : ℕ) (response : ByteString) :
    requestAndReceive exchange expected ≠ some (.ok, response) := by
  intro hresponse
  rw [requestAndReceive] at hresponse
  split_ifs at hresponse with hclosed
  · cases hresponse
  · obtain ⟨received, hreceived, hscan⟩ := receiveLoop_ok hresponse
    rw [hone, List.mem_singleton] at hreceived
    rw [hreceived] at hscan
    have hheader : headerSize ≤ (nlmsghdr bytes).len := le_trans (Nat.le_add_right _ _) h.framed.1
    exact scanDatagram_data ⟨hheader, h.framed.2.2⟩ h.data hscan
end Answer

def requested {α : Type} (parse : ByteString → ℕ → ℕ → WifiParseResult α) (exchange : Exchange)
    (sequence : ℕ) : Option α :=
  match requestAndReceive exchange sequence with
  | some (.ok, response) => (parse response 0 sequence).reply
  | _ => none

theorem requested_none {α : Type} {parse : ByteString → ℕ → ℕ → WifiParseResult α}
    (h : ∀ response, requestAndReceive exchange sequence ≠ some (.ok, response)) :
    requested parse exchange sequence = none := by
  unfold requested
  split
  · rename_i response hresponse
    exact absurd hresponse (h response)
  · rfl

/-- No reply of one data message is ever read: the family id and the interface of every such
reply stay unknown, however long the exchange waits. -/
theorem reply_never_read (exchange : Exchange) (sequence : ℕ) (bytes : ByteString)
    (hone : delivered exchange.turns = [bytes]) :
    (∀ id, Answers familyCallback sequence bytes id →
      requested parseFamilyId exchange sequence = none) ∧
    (∀ ifindex reply, Answers (interfaceCallback ifindex) sequence bytes reply →
      requested (fun data sender expected => parseInterface data sender expected ifindex)
        exchange sequence = none) := by
  constructor
  · intro id hanswer
    exact requested_none (hanswer.no_response hone sequence)
  · intro ifindex reply hanswer
    exact requested_none (hanswer.no_response hone sequence)

def familyReply : ByteString :=
  [28, 0, 0, 0, 16, 0, 0, 0, 1, 0, 0, 0, 0, 0, 0, 0, 1, 2, 0, 0, 6, 0, 1, 0, 30, 0, 0, 0]

def interfaceReply : ByteString :=
  [36, 0, 0, 0, 30, 0, 0, 0, 2, 0, 0, 0, 0, 0, 0, 0, 7, 1, 0, 0,
    8, 0, 3, 0, 3, 0, 0, 0, 8, 0, 5, 0, 2, 0, 0, 0]

def answeredOnce (bytes : ByteString) : Exchange :=
  ⟨true, true, [⟨false, 2000, .datagram 0 false bytes⟩, ⟨false, 1990, .idle⟩, ⟨false, 0, .idle⟩]⟩

theorem familyReply_answers : Answers familyCallback 1 familyReply 30 :=
  ⟨by decide, by decide, by decide, ⟨[⟨1, [30, 0]⟩], by decide, by decide⟩⟩

theorem interfaceReply_answers :
    Answers (interfaceCallback 3) 2 interfaceReply ⟨3, 2, none, none⟩ :=
  ⟨by decide, by decide, by decide, ⟨[⟨3, [3, 0, 0, 0]⟩, ⟨5, [2, 0, 0, 0]⟩], by decide, by decide⟩⟩

theorem replies_unread :
    requested parseFamilyId (answeredOnce familyReply) 1 = none ∧
    requested (fun data sender expected => parseInterface data sender expected 3)
      (answeredOnce interfaceReply) 2 = none :=
  ⟨(reply_never_read (answeredOnce familyReply) 1 familyReply rfl).1 30 familyReply_answers,
    (reply_never_read (answeredOnce interfaceReply) 2 interfaceReply rfl).2 3 _
      interfaceReply_answers⟩

/-- Both exchanges wait out their time with the answer at hand. -/
theorem answered_requests_time_out :
    (Answers familyCallback 1 familyReply 30 ∧
      requestAndReceive (answeredOnce familyReply) 1 = some (.timeout, familyReply)) ∧
    (Answers (interfaceCallback 3) 2 interfaceReply ⟨3, 2, none, none⟩ ∧
      requestAndReceive (answeredOnce interfaceReply) 2 = some (.timeout, interfaceReply)) :=
  ⟨⟨familyReply_answers, by decide⟩, ⟨interfaceReply_answers, by decide⟩⟩

end WeakNet.WifiCollector
