import WeakNet.CollectorHealth

/-! `answer` is the list of messages that four complete dumps consist of, and `assemble` the
topology they describe. A candidate is gathered exactly when the replies are such an answer and no
`NLMSG_DONE` in it carries `NLM_F_DUMP_INTR`; the flag of any other message is never looked at. -/

namespace WeakNet.NetlinkCollector
open Foundation.Runs Foundation.Bytes TopologyState NetlinkWire RtnetlinkParser List Option Prod

variable {d next : DumpState} {item : ParsedMessage} {messages : List ParsedMessage}
  {s : TopologySnapshot}

/-- The topology described by the messages of an answer: none if the kernel reports an error,
a notification is mixed in, or a fact cannot be applied. -/
def assemble (s : TopologySnapshot) : List ParsedMessage → Option TopologySnapshot
  | [] => some s
  | item :: rest =>
    if isFact item then
      if item.sequence = 0 then none
      else if (applyChecked s item).2.applied then assemble (applyChecked s item).1 rest
      else none
    else if item.kind = .error ∧ item.errorCode ≠ 0 then none
    else assemble s rest

def isDone (item : ParsedMessage) : Bool := item.kind == .done

def replyMessages (netns : NetnsId) (sequence : ℕ) :
    List DumpEvent → Option (List ParsedMessage)
  | .idle :: events => replyMessages netns sequence events
  | .datagram sender bytes :: events =>
    let parsed := RtnetlinkParser.parse bytes sender (some sequence) netns
    if rejected parsed then none
    else if parsed.messages.any isDone then some parsed.messages
    else (replyMessages netns sequence events).map (parsed.messages ++ ·)
  | _ => none

def answer (netns : NetnsId) : List DumpReplies → Option (List ParsedMessage)
  | [] => some []
  | replies :: rest =>
    if replies.sent then
      match replyMessages netns replies.sequence replies.events, answer netns rest with
      | some first, some others => some (first ++ others)
      | _, _ => none
    else none

def Uninterrupted (messages : List ParsedMessage) : Prop :=
  ∀ item ∈ messages, isDone item = true → item.dumpInterrupted = false

theorem assemble_append (messages rest : List ParsedMessage) :
    assemble s (messages ++ rest) = (assemble s messages).bind (assemble · rest) := by
  induction messages generalizing s with
  | nil => rfl
  | cons _ _ ih =>
    rw [cons_append, assemble, assemble]
    split_ifs
    · rfl
    · exact ih
    · rfl
    · rfl
    · exact ih

theorem Uninterrupted.nil : Uninterrupted [] := forall_mem_nil _

variable {rest : List ParsedMessage} {netns : NetnsId}
theorem Uninterrupted.append :
    Uninterrupted (messages ++ rest) ↔ Uninterrupted messages ∧ Uninterrupted rest := by
  simp [Uninterrupted, mem_append, or_imp, forall_and]

theorem isFact_kind (h : isFact item) : item.kind ≠ .error ∧ item.kind ≠ .done := by
  constructor
  all_goals
    intro hkind
    simp [isFact, hkind] at h

structure Accepts (d : DumpState) (messages : List ParsedMessage) (next : DumpState) : Prop where
  raced : d.raced = false
  uninterrupted : Uninterrupted messages
  assembled : assemble d.candidate messages = some next.candidate

structure Passes (d : DumpState) (messages : List ParsedMessage) (next : DumpState) : Prop where
  netns : next.collector.netns = d.collector.netns
  complete : next.complete = (d.complete || messages.any isDone)
  accepts : next.raced = false → Accepts d messages next

theorem dumpMessage_passes (h : dumpMessage d item = .ok next) : Passes d [item] next := by
  rw [dumpMessage] at h
  by_cases hfact : isFact item
  · obtain ⟨herror, hdone⟩ := isFact_kind hfact
    have hnotDone : isDone item = false := by simp [isDone, hdone]
    have hquiet : Uninterrupted [item] := fun m hm hm' => by
      rw [mem_singleton.mp hm, hnotDone] at hm'
      cases hm'
    simp only [hfact, herror, hdone, and_true, false_and, if_false, if_true] at h
    split_ifs at h with hseq happlied
    · cases h
      exact ⟨rfl, by simp [hnotDone], by rintro ⟨⟩⟩
    · cases h
      refine ⟨rfl, by simp [hnotDone], fun hraced => ⟨hraced, hquiet, ?_⟩⟩
      rw [assemble, if_pos hfact, if_neg hseq, if_pos happlied]
      rfl
  · simp only [hfact, and_false, if_false, Bool.false_eq_true] at h
    split_ifs at h with herror hdone hintr
    · cases h
      refine ⟨rfl, by simp [isDone, hdone], fun hraced => ⟨hraced, fun m hm _ => ?_, ?_⟩⟩
      · rw [mem_singleton.mp hm]
        exact Bool.eq_false_iff.mpr hintr
      · rw [assemble, if_neg hfact, if_neg herror]
        rfl
    · cases h
      have hnotDone : isDone item = false := by simp [isDone, hdone]
      refine ⟨rfl, by simp [hnotDone], fun hraced => ⟨hraced, fun m hm hm' => ?_, ?_⟩⟩
      · rw [mem_singleton.mp hm, hnotDone] at hm'
        cases hm'
      · rw [assemble, if_neg hfact, if_neg herror]
        rfl

theorem dumpMessage_of_assemble (hsome : assemble d.candidate [item] = some s)
    (hquiet : isDone item → item.dumpInterrupted = false) :
    ∃ next, dumpMessage d item = .ok next ∧ next.raced = d.raced := by
  rw [assemble] at hsome
  rw [dumpMessage]
  by_cases hfact : isFact item
  · obtain ⟨herror, hdone⟩ := isFact_kind hfact
    rw [if_pos hfact] at hsome
    obtain ⟨hseq, hrest⟩ := ite_none_left_eq_some.mp hsome
    obtain ⟨happlied, -⟩ := ite_none_right_eq_some.mp hrest
    rw [if_neg fun hboth => hseq hboth.1, if_neg fun hboth => herror hboth.1, if_neg hdone,
      if_pos hfact]
    exact ⟨_, if_pos happlied, rfl⟩
  · rw [if_neg hfact] at hsome
    obtain ⟨herror, -⟩ := ite_none_left_eq_some.mp hsome
    rw [if_neg fun hboth => hfact hboth.2, if_neg herror]
    by_cases hdone : item.kind = .done
    · have hclear := hquiet (by simp [isDone, hdone])
      rw [if_pos hdone, if_neg (Bool.eq_false_iff.mp hclear)]
      exact ⟨_, rfl, rfl⟩
    · rw [if_neg hdone, if_neg hfact]
      exact ⟨d, rfl, rfl⟩

variable {middle : DumpState}
theorem Accepts.append (h : Accepts d messages middle) (h' : Accepts middle rest next) :
    Accepts d (messages ++ rest) next where
  raced := h.raced
  uninterrupted := Uninterrupted.append.mpr ⟨h.uninterrupted, h'.uninterrupted⟩
  assembled := by
    rw [assemble_append, h.assembled]
    exact h'.assembled

theorem Passes.append (h : Passes d messages middle) (h' : Passes middle rest next) :
    Passes d (messages ++ rest) next where
  netns := h'.netns.trans h.netns
  complete := by rw [h'.complete, h.complete, any_append, Bool.or_assoc]
  accepts := by
    intro hraced
    have hlater := h'.accepts hraced
    exact (h.accepts hlater.raced).append hlater

theorem foldlM_dumpMessage_passes (messages : List ParsedMessage) (d : DumpState)
    (h : messages.foldlM dumpMessage d = .ok next) : Passes d messages next := by
  have hstart : Passes d [] d := ⟨rfl, (Bool.or_false _).symm, fun hraced => ⟨hraced, .nil, rfl⟩⟩
  refine (foldlM_progress (Q := fun _ => True) ?_ ?_ hstart).1 next h
  · intro pre item post middle later _ hpasses hitem
    exact hpasses.append (dumpMessage_passes hitem)
  · intros
    trivial

theorem foldlM_dumpMessage_of_assemble (messages : List ParsedMessage) (d : DumpState)
    (hraced : d.raced = false) (hsome : assemble d.candidate messages = some s)
    (hquiet : Uninterrupted messages) :
    ∃ next, messages.foldlM dumpMessage d = .ok next ∧ next.raced = false := by
  induction messages generalizing d with
  | nil => exact ⟨d, rfl, hraced⟩
  | cons item messages ih =>
    rw [show item :: messages = [item] ++ messages from rfl, assemble_append] at hsome
    obtain ⟨reached, hreached, hrest⟩ := bind_eq_some_iff.mp hsome
    obtain ⟨middle, hok, hmiddle⟩ := dumpMessage_of_assemble hreached (hquiet item mem_cons_self)
    rw [hraced] at hmiddle
    have hassembled := ((dumpMessage_passes hok).accepts hmiddle).assembled
    cases hreached.symm.trans hassembled
    rw [foldlM_cons_ok hok]
    exact ih middle hmiddle hrest fun m hm => hquiet m (mem_cons_of_mem item hm)

theorem dumpLoop_passes (sequence : ℕ) (events : List DumpEvent) (d : DumpState)
    (hincomplete : d.complete = false) (h : dumpLoop sequence events d = (next, true)) :
    ∃ messages, replyMessages d.collector.netns sequence events = some messages ∧
      Passes d messages next := by
  induction events generalizing d with
  | nil => cases h
  | cons event _ ih =>
    cases event with
    | idle =>
      rw [dumpLoop] at h
      exact ih d hincomplete h
    | failed | overflow | truncated =>
      rw [dumpLoop] at h
      cases h
    | datagram sender bytes =>
      rw [dumpLoop] at h
      rw [replyMessages]
      generalize parse .. = parsed at *
      by_cases hrejected : rejected parsed
      · rw [if_pos hrejected] at h
        cases h
      · rw [if_neg hrejected] at h ⊢
        cases hfold : parsed.messages.foldlM dumpMessage d with
        | error =>
          rw [hfold] at h
          cases h
        | ok middle =>
          have hpasses := foldlM_dumpMessage_passes _ d hfold
          have hcomplete := hpasses.complete
          rw [hincomplete, Bool.false_or] at hcomplete
          simp only [hfold] at h
          rw [hcomplete] at h
          by_cases hdone : parsed.messages.any isDone
          · rw [if_pos hdone] at h ⊢
            obtain rfl : middle = next := congrArg fst h
            exact ⟨_, rfl, hpasses⟩
          · rw [if_neg hdone] at h ⊢
            have hopen : middle.complete = false := hcomplete.trans (Bool.eq_false_iff.mpr hdone)
            obtain ⟨_, hrest, hlater⟩ := ih middle hopen h
            rw [hpasses.netns] at hrest
            rw [hrest]
            exact ⟨_, rfl, hpasses.append hlater⟩

theorem dumpLoop_of_assemble (sequence : ℕ) (events : List DumpEvent) (d : DumpState)
    (hincomplete : d.complete = false) (hraced : d.raced = false)
    (hanswer : replyMessages d.collector.netns sequence events = some messages)
    (hsome : assemble d.candidate messages = some s) (hquiet : Uninterrupted messages) :
    ∃ next, dumpLoop sequence events d = (next, true) ∧ next.raced = false := by
  induction events generalizing d messages with
  | nil => cases hanswer
  | cons event _ ih =>
    cases event with
    | idle =>
      rw [dumpLoop]
      exact ih d hincomplete hraced hanswer hsome hquiet
    | failed | overflow | truncated => cases hanswer
    | datagram sender bytes =>
      rw [dumpLoop]
      rw [replyMessages] at hanswer
      generalize parse .. = parsed at *
      obtain ⟨haccepted, hrest⟩ := ite_none_left_eq_some.mp hanswer
      rw [if_neg haccepted]
      split_ifs at hrest with hdone
      · cases hrest
        obtain ⟨middle, hfold, hmiddle⟩ :=
          foldlM_dumpMessage_of_assemble parsed.messages d hraced hsome hquiet
        have hcomplete := (foldlM_dumpMessage_passes _ d hfold).complete
        rw [hdone, Bool.or_true] at hcomplete
        simp only [hfold, hcomplete, if_true]
        exact ⟨middle, rfl, hmiddle⟩
      · obtain ⟨_, hreply, rfl⟩ := map_eq_some_iff.mp hrest
        rw [assemble_append] at hsome
        obtain ⟨_, hreached, hlater⟩ := bind_eq_some_iff.mp hsome
        obtain ⟨hfirst, hsecond⟩ := Uninterrupted.append.mp hquiet
        obtain ⟨middle, hfold, hmiddle⟩ :=
          foldlM_dumpMessage_of_assemble parsed.messages d hraced hreached hfirst
        have hpasses := foldlM_dumpMessage_passes _ d hfold
        have hassembled := (hpasses.accepts hmiddle).assembled
        cases hreached.symm.trans hassembled
        have hopen : middle.complete = false := by
          rw [hpasses.complete, hincomplete, Bool.eq_false_iff.mpr hdone]
          rfl
        simp only [hfold, hopen, Bool.false_eq_true, if_false]
        rw [← hpasses.netns] at hreply
        exact ih middle hopen hmiddle hreply hlater hsecond

theorem dumpAll_accepts (replies : List DumpReplies) (d : DumpState)
    (h : dumpAll replies d = (next, true)) (hraced : next.raced = false) :
    ∃ messages, answer d.collector.netns replies = some messages ∧ Accepts d messages next := by
  induction replies generalizing d with
  | nil =>
    obtain rfl : d = next := congrArg fst h
    exact ⟨[], rfl, hraced, .nil, rfl⟩
  | cons reply replies ih =>
    rw [dumpAll, dump] at h
    rw [answer]
    by_cases hsent : reply.sent
    · rw [if_pos hsent] at h ⊢
      cases hloop : dumpLoop reply.sequence reply.events { d with complete := false } with
      | mk middle done =>
        simp only [hloop] at h
        cases done with
        | false => cases h
        | true =>
          obtain ⟨first, hfirst, hpasses⟩ := dumpLoop_passes _ _ _ rfl hloop
          obtain ⟨rest, hrest, hlater⟩ := ih middle h
          have hmiddle := hpasses.accepts hlater.raced
          rw [hpasses.netns] at hrest
          simp only [show replyMessages d.collector.netns reply.sequence reply.events = some first
            from hfirst, show answer d.collector.netns replies = some rest from hrest]
          have hstart : Accepts d first middle := { hmiddle with }
          exact ⟨_, rfl, hstart.append hlater⟩
    · rw [if_neg hsent] at h
      cases h

theorem answer_cons {netns : NetnsId} {reply : DumpReplies} {replies : List DumpReplies}
    (h : answer netns (reply :: replies) = some messages) :
    reply.sent ∧ ∃ first rest, replyMessages netns reply.sequence reply.events = some first ∧
      answer netns replies = some rest ∧ first ++ rest = messages := by
  rw [answer] at h
  obtain ⟨hsent, hboth⟩ := ite_none_right_eq_some.mp h
  split at hboth
  · exact ⟨hsent, _, _, ‹_›, ‹_›, some.inj hboth⟩
  · cases hboth

theorem dumpAll_of_assemble (replies : List DumpReplies) (d : DumpState) (hraced : d.raced = false)
    (hanswer : answer d.collector.netns replies = some messages)
    (hsome : assemble d.candidate messages = some s) (hquiet : Uninterrupted messages) :
    ∃ next, dumpAll replies d = (next, true) ∧ next.raced = false := by
  induction replies generalizing d messages with
  | nil => exact ⟨d, rfl, hraced⟩
  | cons reply replies ih =>
    obtain ⟨hsent, first, rest, hreply, hothers, rfl⟩ := answer_cons hanswer
    rw [dumpAll, dump, if_pos hsent]
    rw [assemble_append] at hsome
    obtain ⟨reached, hreached, hlater⟩ := bind_eq_some_iff.mp hsome
    obtain ⟨hfirst, hsecond⟩ := Uninterrupted.append.mp hquiet
    obtain ⟨middle, hloop, hmiddle⟩ := dumpLoop_of_assemble reply.sequence reply.events
      { d with complete := false } rfl hraced hreply hreached hfirst
    obtain ⟨passed, hpassed, hpasses⟩ := dumpLoop_passes _ _ _ rfl hloop
    cases hreply.symm.trans hpassed
    obtain rfl : reached = middle.candidate :=
      some.inj (hreached.symm.trans (hpasses.accepts hmiddle).assembled)
    simp only [hloop]
    apply ih middle hmiddle _ hlater hsecond
    rw [hpasses.netns]
    exact hothers

def Complete (netns : NetnsId) (replies : List DumpReplies) : Prop :=
  ∃ messages s, answer netns replies = some messages ∧ assemble (.blank netns) messages = some s

theorem gather_dumps_isSome (c : NetlinkCollector) (links addresses routes4 routes6 : DumpReplies) :
    (gather c (.dumps links addresses routes4 routes6)).2.isSome ↔
      ∃ messages s, answer c.netns [links, addresses, routes4, routes6] = some messages ∧
        assemble (.blank c.netns) messages = some s ∧ Uninterrupted messages := by
  rw [gather]
  constructor
  · intro h
    cases hall : dumpAll [links, addresses, routes4, routes6]
        ⟨c, .blank c.netns, false, false⟩ with
    | mk next done =>
      simp only [hall] at h
      cases done with
      | false => cases h
      | true =>
        cases hraced : next.raced with
        | true =>
          simp only [hraced, if_true] at h
          cases h
        | false =>
          obtain ⟨messages, hanswer, haccepts⟩ := dumpAll_accepts _ _ hall hraced
          exact ⟨messages, _, hanswer, haccepts.assembled, haccepts.uninterrupted⟩
  · rintro ⟨messages, s, hanswer, hsome, hquiet⟩
    obtain ⟨next, hall, hraced⟩ := dumpAll_of_assemble [links, addresses, routes4, routes6]
      ⟨c, .blank c.netns, false, false⟩ rfl hanswer hsome hquiet
    simp only [hall, hraced, Bool.false_eq_true, if_false]
    rfl

def headersFrom : ℕ → ByteString → List Nlmsghdr
  | 0, _ => []
  | fuel + 1, bs =>
    if bs.length < headerSize ∨ (nlmsghdr bs).len < headerSize then []
    else nlmsghdr bs :: headersFrom fuel (bs.drop (align4 (nlmsghdr bs).len))

def headers (data : ByteString) : List Nlmsghdr :=
  let bs := data.take (RtnetlinkParser.remaining data).toNat
  headersFrom bs.length bs

def receivedHeaders : List DumpEvent → List Nlmsghdr
  | .idle :: events => receivedHeaders events
  | .datagram _ bytes :: events =>
    if (headers bytes).any (fun h => h.type == nlmsgDone) then headers bytes
    else headers bytes ++ receivedHeaders events
  | _ => []

def dumpHeaders (replies : List DumpReplies) : List Nlmsghdr :=
  replies.flatMap fun reply => if reply.sent then receivedHeaders reply.events else []

structure Describes (item : ParsedMessage) (h : Nlmsghdr) : Prop where
  done : isDone item = (h.type == nlmsgDone)
  flag : isDone item = true → item.dumpInterrupted = h.dumpIntr

theorem parseMessage_describes (expected : Option ℕ) (netns : NetnsId) (result : ParseResult)
    (bs : ByteString) :
    (∃ read item, parseMessage expected netns result bs = .ok read ∧
        read.messages = result.messages ++ [item] ∧ item.sequence = (nlmsghdr bs).seq ∧
        Describes item (nlmsghdr bs)) ∨
      ∃ text, parseMessage expected netns result bs =
        .error (reject result text) := by
  rw [parseMessage]
  by_cases hdone : (nlmsghdr bs).type = nlmsgDone
  · rw [if_pos hdone]
    split_ifs
    · exact .inr ⟨_, rfl⟩
    · exact .inl ⟨_, _, rfl, rfl, rfl, by simp [isDone, hdone], fun _ => rfl⟩
  · rw [if_neg hdone]
    have hother : ((nlmsghdr bs).type == nlmsgDone) = false := by simp [hdone]
    by_cases herror : (nlmsghdr bs).type = nlmsgError
    · rw [if_pos herror]
      split_ifs
      · exact .inr ⟨_, rfl⟩
      · exact .inr ⟨_, rfl⟩
      all_goals exact .inl ⟨_, _, rfl, rfl, rfl, hother.symm, nofun⟩
    · rw [if_neg herror]
      cases hbody : parseBody (nlmsghdr bs).type (nlmsgData bs) netns
          (.blank (nlmsghdr bs).seq (nlmsghdr bs).pid) with
      | error text => exact .inr ⟨text, rfl⟩
      | ok =>
        obtain ⟨kind, _, _, _, hnotDone, _, rfl⟩ := parseBody_ok hbody
        have hkind : (kind == ParsedMessageKind.done) = false := by simp [hnotDone]
        refine .inl ⟨_, _, rfl, rfl, rfl, hkind.trans hother.symm, fun hm => ?_⟩
        exact absurd (hm.symm.trans hkind) nofun

theorem rejected_reject (result : ParseResult) (text : String) :
    rejected (reject result text) := by
  simp [rejected, reject]

variable {sender : ℕ}
theorem parseFrom_describes {expected : Option ℕ} (fuel : ℕ) (bs : ByteString)
    (result : ParseResult) (h : ¬rejected (parseFrom expected sender netns fuel bs result)) :
    ∃ items, (parseFrom expected sender netns fuel bs result).messages =
        result.messages ++ items ∧ Forall₂ Describes items (headersFrom fuel bs) := by
  induction fuel generalizing bs result with
  | zero => exact ⟨[], (append_nil _).symm, .nil⟩
  | succ _ ih =>
    rw [parseFrom] at h ⊢
    rw [headersFrom]
    by_cases hempty : bs = []
    · subst hempty
      exact ⟨[], (append_nil _).symm, .nil⟩
    · rw [if_neg hempty] at h ⊢
      cases hheader : headerError expected sender bs with
      | some =>
        rw [hheader] at h
        exact absurd (rejected_reject _ _) h
      | none =>
        have hframed : ¬(bs.length < headerSize ∨ (nlmsghdr bs).len < headerSize) := by
          intro hshort
          rw [headerError, if_pos (hshort.imp_right .inl)] at hheader
          cases hheader
        rw [if_neg hframed]
        rcases parseMessage_describes expected netns result bs with
          ⟨read, item, hmessage, hitem, _, hdescribes⟩ | ⟨text, hmessage⟩
        · simp only [hheader, hmessage] at h ⊢
          by_cases hcut : bs.length < align4 (nlmsghdr bs).len
          · rw [if_pos hcut] at h
            exact absurd (by simp [rejected]) h
          · rw [if_neg hcut] at h ⊢
            obtain ⟨items, hitems, hall⟩ := ih _ read h
            refine ⟨item :: items, ?_, .cons hdescribes hall⟩
            rw [hitems, hitem, append_assoc]
            rfl
        · simp only [hheader, hmessage] at h
          exact absurd (rejected_reject _ _) h

variable {sequence : ℕ}
theorem parse_describes {bytes : ByteString}
    (h : ¬rejected (parse bytes sender (some sequence) netns)) :
    Forall₂ Describes (parse bytes sender (some sequence) netns).messages
      (headers bytes) := by
  rw [parse] at h ⊢
  split_ifs at h ⊢
  · exact absurd (rejected_reject _ _) h
  · exact absurd (rejected_reject _ _) h
  · obtain ⟨_, hitems, hall⟩ := parseFrom_describes _ _ _ h
    rw [hitems]
    exact hall

variable {items : List ParsedMessage} {list : List Nlmsghdr}
theorem any_isDone (h : Forall₂ Describes items list) :
    items.any isDone = list.any fun h => h.type == nlmsgDone := by
  induction h with
  | nil => rfl
  | cons hfirst _ ih => rw [any_cons, any_cons, hfirst.done, ih]

theorem replyMessages_describes (events : List DumpEvent)
    (h : replyMessages netns sequence events = some messages) :
    Forall₂ Describes messages (receivedHeaders events) := by
  induction events generalizing messages with
  | nil => cases h
  | cons event _ ih =>
    cases event with
    | idle => exact ih h
    | failed | overflow | truncated => cases h
    | datagram sender bytes =>
      rw [replyMessages] at h
      rw [receivedHeaders]
      obtain ⟨haccepted, hrest⟩ := ite_none_left_eq_some.mp h
      have hparsed := parse_describes haccepted
      rw [← any_isDone hparsed]
      by_cases hdone : (parse bytes sender (some sequence) netns).messages.any isDone
      · rw [if_pos hdone] at hrest ⊢
        cases hrest
        exact hparsed
      · rw [if_neg hdone] at hrest ⊢
        obtain ⟨_, hreply, rfl⟩ := map_eq_some_iff.mp hrest
        exact rel_append hparsed (ih hreply)

theorem answer_describes (replies : List DumpReplies) (h : answer netns replies = some messages) :
    Forall₂ Describes messages (dumpHeaders replies) := by
  induction replies generalizing messages with
  | nil =>
    cases h
    exact .nil
  | cons reply replies ih =>
    obtain ⟨hsent, _, _, hreply, hothers, rfl⟩ := answer_cons h
    rw [dumpHeaders, flatMap_cons, if_pos hsent]
    exact rel_append (replyMessages_describes _ hreply) (ih hothers)

theorem uninterrupted_iff (h : Forall₂ Describes items list) :
    Uninterrupted items ↔ ∀ h ∈ list, h.type = nlmsgDone → h.dumpIntr = false := by
  induction h with
  | nil => simp [Uninterrupted]
  | @cons item header _ _ hfirst _ ih =>
    have hitem : (isDone item → item.dumpInterrupted = false) ↔
        (header.type = nlmsgDone → header.dumpIntr = false) := by
      have hdone : isDone item ↔ header.type = nlmsgDone := by
        rw [hfirst.done, beq_iff_eq]
      refine ⟨fun hquiet htype => ?_, fun hquiet hm => ?_⟩
      · have hm := hdone.mpr htype
        rw [← hfirst.flag hm]
        exact hquiet hm
      · rw [hfirst.flag hm]
        exact hquiet (hdone.mp hm)
    rw [Uninterrupted, forall_mem_cons, forall_mem_cons, hitem]
    exact and_congr_right fun _ => ih

def factTypes : List ℕ :=
  [RtnetlinkParser.rtmNewlink, RtnetlinkParser.rtmDellink, RtnetlinkParser.rtmNewaddr,
    RtnetlinkParser.rtmDeladdr, RtnetlinkParser.rtmNewroute, RtnetlinkParser.rtmDelroute]

/-- A link, address or route message of the dumps carries `NLM_F_DUMP_INTR`. -/
def FactFlagged (replies : List DumpReplies) : Prop :=
  ∃ h ∈ dumpHeaders replies, h.dumpIntr = true ∧ h.type ∈ factTypes

def DoneFlagged (replies : List DumpReplies) : Prop :=
  ∃ h ∈ dumpHeaders replies, h.dumpIntr = true ∧ h.type = nlmsgDone

structure Keeps (before after : TopologySnapshot) : Prop where
  links : after.links = before.links
  addresses : after.addresses = before.addresses
  routes : after.routes = before.routes
  generation : after.generation = before.generation

theorem degrade_keeps (s : TopologySnapshot) : Keeps s (degrade s) := by
  rw [degrade]
  split_ifs
  all_goals exact ⟨rfl, rfl, rfl, rfl⟩

theorem gather_dumps_iff (c : NetlinkCollector) (links addresses routes4 routes6 : DumpReplies) :
    (gather c (.dumps links addresses routes4 routes6)).2.isSome ↔
      Complete c.netns [links, addresses, routes4, routes6] ∧
        ¬DoneFlagged [links, addresses, routes4, routes6] := by
  have hquiet : ∀ {messages}, answer c.netns [links, addresses, routes4, routes6] = some messages →
      (Uninterrupted messages ↔ ¬DoneFlagged [links, addresses, routes4, routes6]) := by
    intro messages hanswer
    rw [uninterrupted_iff (answer_describes _ hanswer), DoneFlagged]
    simp only [not_exists, not_and]
    exact forall₂_congr fun h _ => ⟨fun hclear hflag htype => by simp [hclear htype] at hflag,
      fun hnone htype => Bool.eq_false_iff.mpr fun hflag => hnone hflag htype⟩
  rw [gather_dumps_isSome]
  constructor
  · rintro ⟨messages, s, hanswer, hsome, huninterrupted⟩
    exact ⟨⟨messages, s, hanswer, hsome⟩, (hquiet hanswer).mp huninterrupted⟩
  · rintro ⟨⟨messages, s, hanswer, hsome⟩, hclear⟩
    exact ⟨messages, s, hanswer, hsome, (hquiet hanswer).mpr hclear⟩

variable (clock : ℕ → RealtimeTime × MonotonicTime)

/-- An interrupted dump is discarded exactly when a flag on a message of a complete answer comes
with one on a completion. -/
theorem interrupted_dump_kept_iff (c : NetlinkCollector)
    (links addresses routes4 routes6 : DumpReplies) :
    let replies := [links, addresses, routes4, routes6]
    let result := fullReconcile clock c (.dumps links addresses routes4 routes6)
    (FactFlagged replies ∨ DoneFlagged replies →
        result.2 = .ok false ∧ Keeps c.state result.1.state) ↔
      (Complete c.netns replies → FactFlagged replies → DoneFlagged replies) := by
  intro replies result
  constructor
  · intro hkept hcomplete hfact
    by_contra hclear
    have hgather := (gather_dumps_iff c links addresses routes4 routes6).mpr ⟨hcomplete, hclear⟩
    obtain ⟨_, hcandidate⟩ := isSome_iff_exists.mp hgather
    exact (fullReconcile_some clock hcandidate).2 (hkept (.inl hfact)).1
  · intro hcovered hflagged
    have hnone : (gather c (.dumps links addresses routes4 routes6)).2 = none := by
      by_contra hsome
      obtain ⟨hcomplete, hclear⟩ := (gather_dumps_iff c links addresses routes4 routes6).mp
        (isSome_iff_ne_none.mpr hsome)
      exact hclear (hflagged.elim (hcovered hcomplete) id)
    have hresult : result = _ := fullReconcile_none clock hnone
    rw [hresult]
    refine ⟨rfl, ?_⟩
    rw [(gather_marked c _).2 hnone]
    exact degrade_keeps ..

def sampleHeader (size type flags : ℕ) : ByteString :=
  encode 4 size ++ encode 2 type ++ encode 2 flags ++ encode 4 100 ++ encode 4 0

def doneDatagram : ByteString := sampleHeader 20 nlmsgDone 2 ++ encode 4 0

def interruptedLinks : DumpReplies where
  sent := true
  sequence := 100
  events := [.datagram 0 (sampleHeader 32 RtnetlinkParser.rtmNewlink 18 ++ List.replicate 4 0 ++
    encode 4 2 ++ encode 4 1 ++ List.replicate 4 0), .datagram 0 doneDatagram]

def emptyReply : DumpReplies := ⟨true, 100, [.datagram 0 doneDatagram]⟩

/-- The kernel marks the first message after a change, and the candidate is committed. -/
theorem interrupted_dump_committed :
    FactFlagged [interruptedLinks, emptyReply, emptyReply, emptyReply] ∧
      (fullReconcile sampleClock (start ⟨4, 1⟩ (by decide))
        (.dumps interruptedLinks emptyReply emptyReply emptyReply)).2 ≠ .ok false ∧
      (fullReconcile sampleClock (start ⟨4, 1⟩ (by decide))
        (.dumps interruptedLinks emptyReply emptyReply emptyReply)).1.state.links.size = 1 ∧
      (fullReconcile sampleClock (start ⟨4, 1⟩ (by decide))
        (.dumps interruptedLinks emptyReply emptyReply emptyReply)).1.state.generation = 1 := by
  have hgather : (gather (start ⟨4, 1⟩ (by decide))
      (.dumps interruptedLinks emptyReply emptyReply emptyReply)).2.isSome := by
    decide +kernel
  obtain ⟨_, hcandidate⟩ := isSome_iff_exists.mp hgather
  refine ⟨?_, (fullReconcile_some sampleClock hcandidate).2, by decide +kernel,
    by decide +kernel⟩
  refine ⟨⟨32, rtmNewlink, 18, 100, 0⟩, ?_, by decide, by decide⟩
  decide +kernel
end WeakNet.NetlinkCollector
