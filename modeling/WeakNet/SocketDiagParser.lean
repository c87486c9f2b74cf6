import WeakNet.NetlinkWire

/-! `SocketDiagParser::parse`: the messages of a `sock_diag` dump. A front part of `tcp_info` is
decoded as far as the payload covers it. Ports are in network order; the cookie words are not. -/

namespace WeakNet
open Foundation.Bytes NetlinkWire

structure SocketDiagRecord where
  tuple : SocketTuple
  tcpState : ℕ
  cookie : Option ℕ
  diagIfindex : Option ℕ
  uid : Option ℕ
  inode : Option ℕ
  tcpInfo : Option TcpInfoRaw
  tcpInfoMalformed : Bool
deriving DecidableEq

inductive SocketDiagMessageKind where
  | socket | done | error
deriving DecidableEq

structure SocketDiagMessage where
  kind : SocketDiagMessageKind
  socket : Option SocketDiagRecord
  errorCode : ℕ
  sequence : ℕ
  senderPid : ℕ
  dumpInterrupted : Bool
deriving DecidableEq

def SocketDiagMessage.blank (sequence senderPid : ℕ) : SocketDiagMessage where
  kind := .socket
  socket := none
  errorCode := 0
  sequence := sequence
  senderPid := senderPid
  dumpInterrupted := false

structure SocketDiagParseResult where
  messages : List SocketDiagMessage
  malformed : Bool
  completed : Bool
  dumpInterrupted : Bool
  error : String
deriving DecidableEq

def SocketDiagParseResult.blank : SocketDiagParseResult := ⟨[], false, false, false, ""⟩

namespace SocketDiagParser
def sockDiagByFamily : ℕ := 20
def inetDiagMsgSize : ℕ := 72
def inetDiagNocookie : ℕ := 2 ^ 32 - 1
def inetDiagInfo : ℕ := 2

/-- `INET_DIAG_MEMINFO` to `INET_DIAG_PEERS` are numbered from 1 to 13. -/
def knownAttribute (type : ℕ) : Bool := 1 ≤ type && type ≤ 13

def tcpInfoField (offset width : ℕ) (payload : ByteString) : Option ℕ :=
  if payload.length < offset + width then none else some (field offset width payload)

/-- `none` when the payload ends before `tcpi_unacked`, at offset 24. -/
def parseTcpInfo (payload : ByteString) : Option TcpInfoRaw :=
  if payload.length < 24 then none
  else some
    { unacked := tcpInfoField 24 4 payload
      lost := tcpInfoField 32 4 payload
      retrans := tcpInfoField 36 4 payload
      rttUs := tcpInfoField 68 4 payload
      rttvarUs := tcpInfoField 72 4 payload
      sndSsthresh := tcpInfoField 76 4 payload
      sndCwnd := tcpInfoField 80 4 payload
      reordering := tcpInfoField 88 4 payload
      rcvSpace := tcpInfoField 96 4 payload
      totalRetrans := tcpInfoField 100 4 payload
      bytesAcked := tcpInfoField 120 8 payload
      bytesReceived := tcpInfoField 128 8 payload
      segsOut := tcpInfoField 136 4 payload
      segsIn := tcpInfoField 140 4 payload
      dataSegsIn := tcpInfoField 152 4 payload
      dataSegsOut := tcpInfoField 156 4 payload
      delivered := tcpInfoField 192 4 payload
      deliveredCe := tcpInfoField 196 4 payload }

/-- The last `INET_DIAG_INFO` decoded, and whether it was too short. -/
structure TcpInfoFound where
  info : Option TcpInfoRaw
  malformed : Bool

def parseAttributesFrom : ℕ → ByteString → TcpInfoFound → Except String TcpInfoFound
  | 0, _, found => .ok found
  | fuel + 1, bs, found =>
    if bs = [] then .ok found
    else if bs.length < attributeHeaderSize then .error "short sock_diag attribute"
    else match attribute? bs with
      | none => .error "malformed sock_diag attribute length"
      | some (a, len) =>
        if bs.length < align4 len then .error "truncated sock_diag attribute"
        else if a.type = inetDiagInfo then
          let info := parseTcpInfo a.payload
          parseAttributesFrom fuel (bs.drop (align4 len)) ⟨info, info.isNone⟩
        else if knownAttribute a.type ∧ a.payload = [] then
          .error "empty known sock_diag attribute"
        else parseAttributesFrom fuel (bs.drop (align4 len)) found

def endpoint (family : ℕ) (port address : ByteString) : SocketEndpoint where
  family := family
  address := Address.ofBytes (if family = afInet then 4 else 16) address
  port := bigEndian port

def cookieOf (low high : ℕ) : Option ℕ :=
  if low = inetDiagNocookie ∧ high = inetDiagNocookie then none else some (low + 2 ^ 32 * high)

def parseSocket (message : ByteString) (netns : NetnsId) (found : TcpInfoFound) :
    SocketDiagRecord :=
  let family := field 0 1 message
  { tuple :=
      { netns := netns
        protocol := .tcp
        family := family
        localEnd := endpoint family (slice 4 2 message) (slice 8 16 message)
        remoteEnd := endpoint family (slice 6 2 message) (slice 24 16 message) }
    tcpState := field 1 1 message
    cookie := cookieOf (field 44 4 message) (field 48 4 message)
    diagIfindex := some (field 40 4 message)
    uid := some (field 64 4 message)
    inode := some (field 68 4 message)
    tcpInfo := found.info
    tcpInfoMalformed := found.malformed }

def reject (result : SocketDiagParseResult) (text : String) : SocketDiagParseResult :=
  { result with malformed := true, error := text }

def headerError (expectedSequence : Option ℕ) (bs : ByteString) : Option String :=
  let header := nlmsghdr bs
  if bs.length < headerSize then some "short netlink header"
  else if header.len < headerSize ∨ bs.length < header.len then some "malformed nlmsg_len"
  else if expectedSequence.isSome ∧ expectedSequence ≠ some header.seq then
    some "unexpected netlink sequence"
  else if header.pid ≠ 0 then some "non-kernel netlink sender"
  else none

def parseMessage (netns : NetnsId) (result : SocketDiagParseResult) (bs : ByteString) :
    Except SocketDiagParseResult SocketDiagParseResult :=
  let header := nlmsghdr bs
  let payload := nlmsgData bs
  let result := if header.dumpIntr then { result with dumpInterrupted := true } else result
  let parsed := SocketDiagMessage.blank header.seq header.pid
  if header.type = nlmsgDone then
    .ok { result with
      completed := !header.dumpIntr
      messages := result.messages ++
        [{ parsed with kind := .done, dumpInterrupted := header.dumpIntr }] }
  else if header.type = nlmsgError then
    if payload.length < nlmsgerrSize then .error (reject result "short NLMSG_ERROR")
    else
      let error := nlmsgerrError payload
      .ok { result with
        messages := result.messages ++
          [{ parsed with kind := .error, errorCode := errorCode error }]
        error := if error ≠ 0 then "netlink request error" else result.error }
  else if header.type = sockDiagByFamily then
    if payload.length < inetDiagMsgSize then .error (reject result "short inet_diag_msg")
    else if field 0 1 payload ≠ afInet ∧ field 0 1 payload ≠ afInet6 then
      .error (reject result "unsupported inet_diag family")
    else
      let rest := payload.drop inetDiagMsgSize
      match parseAttributesFrom rest.length rest ⟨none, false⟩ with
      | .error text => .error (reject result text)
      | .ok found => .ok { result with
          messages := result.messages ++
            [{ parsed with socket := some (parseSocket payload netns found) }] }
  else .error (reject result "unexpected sock_diag message type")

def parseFrom (expectedSequence : Option ℕ) (netns : NetnsId) :
    ℕ → ByteString → SocketDiagParseResult → SocketDiagParseResult
  | 0, _, result => result
  | fuel + 1, bs, result =>
    if bs = [] then result
    else match headerError expectedSequence bs with
      | some text => reject result text
      | none =>
        match parseMessage netns result bs with
        | .error stopped => stopped
        | .ok next =>
          let aligned := align4 (nlmsghdr bs).len
          if bs.length < aligned then reject next "truncated netlink message"
          else parseFrom expectedSequence netns fuel (bs.drop aligned) next

def parse (data : ByteString) (senderPid : ℕ) (expectedSequence : Option ℕ) (netns : NetnsId) :
    SocketDiagParseResult :=
  if senderPid ≠ 0 then reject .blank "unexpected netlink sender"
  else if data = [] then reject .blank "empty netlink datagram"
  else parseFrom expectedSequence netns data.length data .blank
end SocketDiagParser

def SocketDiagParseResult.accepted (result : SocketDiagParseResult) : Bool := !result.malformed
end WeakNet
