import WeakNet.Foundation.Bytes
import WeakNet.NetworkEvent

/-! `ActiveProbe::nativeProbe` on an ICMP datagram socket. The operating system enters as data: the
outcome of opening and sending, and for each turn of the receive loop the stop token, the elapsed
time and what `poll` and `recvfrom` return. On such a socket the kernel replaces the echo identifier
by the local port, while the loop compares it with the process id. -/

namespace WeakNet
open Foundation.Bytes List

structure ProbeAttemptResult where
  status : ProbeStatus
  rttUs : Option ℕ
  reason : String
deriving DecidableEq

namespace ActiveProbe
structure IcmpEcho where
  type : ℕ
  code : ℕ
  id : ℕ
  sequence : ℕ
deriving DecidableEq

def icmphdrSize : ℕ := 8
def icmpEchoReply : ℕ := 0
def bufferSize : ℕ := 512

def icmphdr (bs : ByteString) : IcmpEcho where
  type := field 0 1 bs
  code := field 1 1 bs
  id := bigEndian (slice 4 2 bs)
  sequence := bigEndian (slice 6 2 bs)

def requestId (pid : ℕ) : ℕ := pid % 2 ^ 16
def requestSequence (sequence : ℕ) : ℕ := sequence % 2 ^ 16

inductive Received where
  | interrupted
  | pollFailed (errno : ℕ)
  | idle
  | recvFailed
  | datagram (source : ByteString) (bytes : ByteString) (rttUs : ℤ)
deriving DecidableEq

/-- One turn of the loop; `stopAfter` is the token read again once the time is up. -/
structure Turn where
  stopRequested : Bool
  elapsedMs : ℤ
  stopAfter : Bool
  received : Received
deriving DecidableEq

structure Transport where
  pid : ℕ
  socketErrno : Option ℕ
  sendErrno : Option ℕ
  turns : List Turn
  strerror : ℕ → String

def destination (target : ProbeTarget) : ByteString := target.address.bytes.take 4

def matchesRequest (pid sequence : ℕ) (target : ProbeTarget) (source bytes : ByteString) : Bool :=
  let buffer := bytes.take bufferSize
  let reply := icmphdr buffer
  decide (icmphdrSize ≤ buffer.length) && source == destination target &&
    reply.type == icmpEchoReply && reply.code == 0 && reply.id == requestId pid &&
    reply.sequence == requestSequence sequence

def timeUp (stopAfter invalidReply : Bool) : ProbeAttemptResult :=
  if stopAfter then ⟨.error, none, "probe stopped"⟩
  else if invalidReply then ⟨.invalidReply, none, "reply identity did not match request"⟩
  else ⟨.timeout, none, "reply timeout"⟩

def receiveLoop (os : Transport) (target : ProbeTarget) (sequence : ℕ) (timeoutMs : ℤ) :
    List Turn → Bool → Option ProbeAttemptResult
  | [], _ => none
  | turn :: turns, invalidReply =>
    if turn.stopRequested then some ⟨.error, none, "probe stopped"⟩
    else if timeoutMs ≤ turn.elapsedMs then some (timeUp turn.stopAfter invalidReply)
    else match turn.received with
      | .interrupted => receiveLoop os target sequence timeoutMs turns invalidReply
      | .pollFailed errno => some ⟨.error, none, os.strerror errno⟩
      | .idle => receiveLoop os target sequence timeoutMs turns invalidReply
      | .recvFailed => receiveLoop os target sequence timeoutMs turns true
      | .datagram source bytes rttUs =>
        if matchesRequest os.pid sequence target source bytes then
          some ⟨.success, some rttUs.toNat, ""⟩
        else receiveLoop os target sequence timeoutMs turns true

def transportError (os : Transport) (errno : ℕ) : ProbeAttemptResult :=
  ⟨if errno = 13 ∨ errno = 1 then .transportUnavailable else .error, none, os.strerror errno⟩

def nativeProbe (os : Transport) (target : ProbeTarget) (sequence : ℕ) (timeoutMs : ℤ) :
    Option ProbeAttemptResult :=
  if target.family ≠ afInet then some ⟨.transportUnavailable, none, "IPv4 transport only"⟩
  else match os.socketErrno, os.sendErrno with
    | some errno, _ => some (transportError os errno)
    | none, some errno => some (transportError os errno)
    | none, none => receiveLoop os target sequence timeoutMs os.turns false

def Turn.Waits (timeoutMs : ℤ) (turn : Turn) : Prop :=
  turn.stopRequested = false ∧ turn.elapsedMs < timeoutMs ∧
    ∀ errno, turn.received ≠ .pollFailed errno

def IsReply (sequence : ℕ) (target : ProbeTarget) (source bytes : ByteString) : Prop :=
  icmphdrSize ≤ bytes.length ∧ source = destination target ∧
    (icmphdr bytes).type = icmpEchoReply ∧ (icmphdr bytes).code = 0 ∧
    (icmphdr bytes).sequence = requestSequence sequence

structure Answered (os : Transport) (target : ProbeTarget) (sequence : ℕ) (timeoutMs : ℤ) :
    Prop where
  family : target.family = afInet
  opened : os.socketErrno = none
  sent : os.sendErrno = none
  reply : ∃ before turn after source bytes rttUs, os.turns = before ++ turn :: after ∧
    (∀ earlier ∈ before, earlier.Waits timeoutMs) ∧ turn.Waits timeoutMs ∧
    turn.received = .datagram source bytes rttUs ∧ IsReply sequence target source bytes

/-- The kernel delivers no echo reply whose identifier is not the local port. -/
def DeliversPort (os : Transport) (port : ℕ) : Prop :=
  ∀ turn ∈ os.turns, ∀ source bytes rttUs, turn.received = .datagram source bytes rttUs →
    (icmphdr bytes).type = icmpEchoReply → (icmphdr bytes).id = port

theorem icmphdr_take (bs : ByteString) : icmphdr (bs.take bufferSize) = icmphdr bs := by
  have hslice : ∀ o w, o + w ≤ bufferSize → slice o w (bs.take bufferSize) = slice o w bs :=
    fun o w h => slice_take h
  simp only [icmphdr, field]
  rw [hslice 0 1 (by decide), hslice 1 1 (by decide), hslice 4 2 (by decide),
    hslice 6 2 (by decide)]

variable {sequence : ℕ} {target : ProbeTarget} {source bytes : ByteString}
theorem matchesRequest_iff {pid : ℕ} :
    matchesRequest pid sequence target source bytes ↔
      IsReply sequence target source bytes ∧ (icmphdr bytes).id = requestId pid := by
  have hlen : icmphdrSize ≤ (bytes.take bufferSize).length ↔ icmphdrSize ≤ bytes.length := by
    rw [length_take]
    rw [icmphdrSize, bufferSize]
    omega
  rw [matchesRequest, IsReply]
  simp only [icmphdr_take, Bool.and_eq_true, decide_eq_true_eq, beq_iff_eq, hlen]
  tauto

section Loop
variable {os : Transport} {timeoutMs : ℤ} {turn : Turn}
theorem receiveLoop_cons (h : turn.Waits timeoutMs) (turns : List Turn) (invalidReply : Bool) :
    (∃ rttUs, receiveLoop os target sequence timeoutMs (turn :: turns) invalidReply =
        some ⟨.success, some rttUs, ""⟩) ∨
    (∃ invalid, receiveLoop os target sequence timeoutMs (turn :: turns) invalidReply =
        receiveLoop os target sequence timeoutMs turns invalid) := by
  obtain ⟨hstop, htime, hpoll⟩ := h
  rw [receiveLoop, if_neg (by simp [hstop]), if_neg (by omega)]
  cases hreceived : turn.received with
  | interrupted | idle | recvFailed => exact .inr ⟨_, rfl⟩
  | pollFailed errno => exact absurd hreceived (hpoll errno)
  | datagram source bytes _ =>
    by_cases hmatch : matchesRequest os.pid sequence target source bytes
    · exact .inl ⟨_, if_pos hmatch⟩
    · exact .inr ⟨_, if_neg hmatch⟩

theorem receiveLoop_succeeds {before after : List Turn} {rttUs : ℤ}
    (hbefore : ∀ t ∈ before, t.Waits timeoutMs) (hturn : turn.Waits timeoutMs)
    (hreceived : turn.received = .datagram source bytes rttUs)
    (hmatch : matchesRequest os.pid sequence target source bytes) (invalidReply : Bool) :
    ∃ rtt, receiveLoop os target sequence timeoutMs (before ++ turn :: after) invalidReply =
      some ⟨.success, some rtt, ""⟩ := by
  induction before generalizing invalidReply with
  | nil =>
    refine ⟨rttUs.toNat, ?_⟩
    rw [nil_append, receiveLoop, if_neg (by simp [hturn.1]),
      if_neg (Int.not_le.mpr hturn.2.1), hreceived]
    exact if_pos hmatch
  | cons first before ih =>
    have hrest := ih fun t ht => hbefore t (mem_cons_of_mem first ht)
    have hfirst := hbefore first mem_cons_self
    rcases receiveLoop_cons hfirst (before ++ turn :: after) invalidReply with hdone | hnext
    · exact hdone
    · obtain ⟨invalid, hnext⟩ := hnext
      obtain ⟨rtt, hrtt⟩ := hrest invalid
      exact ⟨rtt, hnext.trans hrtt⟩

theorem exists_match_of_success {turns : List Turn} {invalidReply : Bool} {rtt : ℕ}
    (h : receiveLoop os target sequence timeoutMs turns invalidReply =
      some ⟨.success, some rtt, ""⟩) :
    ∃ turn ∈ turns, ∃ source bytes rttUs, turn.received = .datagram source bytes rttUs ∧
      matchesRequest os.pid sequence target source bytes := by
  induction turns generalizing invalidReply with
  | nil => simp [receiveLoop] at h
  | cons turn turns ih =>
    have hrest : ∀ invalid, receiveLoop os target sequence timeoutMs turns invalid =
        some ⟨.success, some rtt, ""⟩ → ∃ t ∈ turn :: turns, ∃ source bytes rttUs,
          t.received = .datagram source bytes rttUs ∧
            matchesRequest os.pid sequence target source bytes := by
      intro invalid hloop
      obtain ⟨t, ht, hfound⟩ := ih hloop
      exact ⟨t, mem_cons_of_mem turn ht, hfound⟩
    rw [receiveLoop] at h
    split_ifs at h with hstop htime
    · simp at h
    · rw [timeUp] at h
      split_ifs at h <;> simp at h
    · cases hreceived : turn.received with
      | interrupted | idle => exact hrest invalidReply (by simpa [hreceived] using h)
      | pollFailed _ => simp [hreceived] at h
      | recvFailed => exact hrest true (by simpa [hreceived] using h)
      | datagram source bytes rttUs =>
        by_cases hmatch : matchesRequest os.pid sequence target source bytes
        · exact ⟨turn, mem_cons_self, source, bytes, rttUs, hreceived, hmatch⟩
        · exact hrest true (by simpa [hreceived, hmatch] using h)
end Loop

/-- An answered probe succeeds exactly when the local port the kernel chose happens to be the
low half of the process id. -/
theorem answered_probe_succeeds_iff {os : Transport} {target : ProbeTarget} {sequence : ℕ}
    {timeoutMs : ℤ} {port : ℕ} (hport : DeliversPort os port)
    (hanswered : Answered os target sequence timeoutMs) :
    (∃ rtt, nativeProbe os target sequence timeoutMs = some ⟨.success, some rtt, ""⟩) ↔
      os.pid % 2 ^ 16 = port := by
  obtain ⟨before, turn, after, source, bytes, rttUs, hturns, hbefore, hturn, hreceived, hreply⟩ :=
    hanswered.reply
  have hprobe : nativeProbe os target sequence timeoutMs =
      receiveLoop os target sequence timeoutMs os.turns false := by
    rw [nativeProbe]
    rw [if_neg (by simp [hanswered.family]), hanswered.opened, hanswered.sent]
  rw [hprobe]
  refine ⟨fun hsuccess => ?_, fun hpid => ?_⟩
  · obtain ⟨rtt, hrtt⟩ := hsuccess
    obtain ⟨t, ht, source', bytes', rttUs', hreceived', hmatch⟩ := exists_match_of_success hrtt
    obtain ⟨hisReply, hid⟩ := matchesRequest_iff.mp hmatch
    have hdelivered := hport t ht source' bytes' rttUs' hreceived' hisReply.2.2.1
    rw [← hdelivered, hid]
    rfl
  · have hmem : turn ∈ os.turns := by
      rw [hturns]
      exact mem_append_right before mem_cons_self
    have hid := hport turn hmem source bytes rttUs hreceived hreply.2.2.1
    have hmatch : matchesRequest os.pid sequence target source bytes :=
      matchesRequest_iff.mpr ⟨hreply, hid.trans hpid.symm⟩
    rw [hturns]
    exact receiveLoop_succeeds hbefore hturn hreceived hmatch false

section Sample
def sampleTarget : ProbeTarget where
  kind := .remote
  netns := ⟨4, 1⟩
  family := afInet
  address := Address.ofBytes 4 [198, 51, 100, 1]
  interface := none
  generation := 0
  provenance := "configured numeric remote target"

def echoReply (id sequence : ℕ) : ByteString :=
  [0, 0, 0, 0] ++ (encode 2 id).reverse ++ (encode 2 sequence).reverse

def sampleTransport (pid port : ℕ) : Transport where
  pid := pid
  socketErrno := none
  sendErrno := none
  turns := [⟨false, 3, false, .datagram [198, 51, 100, 1] (echoReply port 1) 2900⟩,
    ⟨false, 1000, false, .idle⟩]
  strerror := fun _ => ""

theorem sampleTransport_answered (pid port : ℕ) :
    Answered (sampleTransport pid port) sampleTarget 1 1000 := by
  refine ⟨rfl, rfl, rfl, [], _, _, _, _, _, rfl, by simp, ⟨rfl, by simp, by simp⟩, rfl, ?_⟩
  exact ⟨Nat.le_refl 8, rfl, rfl, rfl, rfl⟩

theorem sampleTransport_deliversPort (pid : ℕ) {port : ℕ} (h : port < 2 ^ 16) :
    DeliversPort (sampleTransport pid port) port := by
  intro turn hturn source bytes rttUs hreceived htype
  have hid : (icmphdr (echoReply port 1)).id = port := by
    change littleEndian (encode 2 port) = port
    rw [littleEndian_encode]
    omega
  simp only [sampleTransport, mem_cons, not_mem_nil, or_false] at hturn
  rcases hturn with rfl | rfl
  · simp only [Received.datagram.injEq] at hreceived
    rw [← hreceived.2.1]
    exact hid
  · simp at hreceived

theorem answered_probe_succeeds_sample :
    ∃ rtt, nativeProbe (sampleTransport 4242 4242) sampleTarget 1 1000 =
      some ⟨.success, some rtt, ""⟩ :=
  (answered_probe_succeeds_iff (sampleTransport_deliversPort 4242 (by decide))
    (sampleTransport_answered 4242 4242)).mpr (by decide)

/-- An answered probe of process 4242 on port 7 is reported as an invalid reply. -/
theorem answered_probe_reported_invalid :
    Answered (sampleTransport 4242 7) sampleTarget 1 1000 ∧
      DeliversPort (sampleTransport 4242 7) 7 ∧
      nativeProbe (sampleTransport 4242 7) sampleTarget 1 1000 =
        some ⟨.invalidReply, none, "reply identity did not match request"⟩ :=
  ⟨sampleTransport_answered 4242 7, sampleTransport_deliversPort 4242 (by decide), by decide +kernel⟩
end Sample
end ActiveProbe
end WeakNet
