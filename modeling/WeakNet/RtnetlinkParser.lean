import WeakNet.NetlinkWire
import WeakNet.NetlinkTopology

/-! `RtnetlinkParser::parse` with its attribute loops, each on a fuel that starts at the length of
its bytes; every turn drops at least one. `RTA_NEXT` may step past the end of a block whose last
attribute is unpadded, which ends the loop. -/

namespace WeakNet
open Foundation.Bytes NetlinkWire

inductive ParsedMessageKind where
  | link | address | route | done | error | notification
deriving DecidableEq

structure ParsedMessage where
  kind : ParsedMessageKind
  link : Option LinkFact
  address : Option AddressFact
  route : Option RouteFact
  errorCode : ℕ
  sequence : ℕ
  senderPid : ℕ
  dumpInterrupted : Bool
deriving DecidableEq

def ParsedMessage.blank (sequence senderPid : ℕ) : ParsedMessage where
  kind := .notification
  link := none
  address := none
  route := none
  errorCode := 0
  sequence := sequence
  senderPid := senderPid
  dumpInterrupted := false

structure ParseResult where
  messages : List ParsedMessage
  malformed : Bool
  truncated : Bool
  completed : Bool
  error : String
deriving DecidableEq

def ParseResult.blank : ParseResult := ⟨[], false, false, false, ""⟩

namespace RtnetlinkParser
def rtmNewlink : ℕ := 16
def rtmDellink : ℕ := 17
def rtmNewaddr : ℕ := 20
def rtmDeladdr : ℕ := 21
def rtmNewroute : ℕ := 24
def rtmDelroute : ℕ := 25
def iflaIfname : ℕ := 3
def iflaOperstate : ℕ := 16
def iflaCarrier : ℕ := 33
def ifaAddress : ℕ := 1
def ifaLocal : ℕ := 2
def ifaFlags : ℕ := 8
def rtaDst : ℕ := 1
def rtaOif : ℕ := 4
def rtaGateway : ℕ := 5
def rtaPriority : ℕ := 6
def rtaPrefsrc : ℕ := 7
def rtaMultipath : ℕ := 9
def rtaTable : ℕ := 15
def ifinfomsgSize : ℕ := 16
def ifaddrmsgSize : ℕ := 8
def rtmsgSize : ℕ := 12
def rtnexthopSize : ℕ := 8

def copyAttribute (width : ℕ) (a : Attribute) (old : ℕ) : ℕ :=
  if a.payload.length < width then old else field 0 width a.payload

def attributeAddress (found : Option Attribute) (family : ℕ) : Address :=
  match found with
  | none => Address.zero
  | some a =>
    let size := if family = afInet then 4 else 16
    if size ≤ a.payload.length then Address.ofBytes size a.payload else Address.zero

def parseAttributesFrom : ℕ → ByteString → Option (List Attribute)
  | 0, _ => some []
  | fuel + 1, bs =>
    if bs = [] then some []
    else match attribute? bs with
      | none => none
      | some (a, len) => (parseAttributesFrom fuel (bs.drop (align4 len))).map (a :: ·)

def parseAttributes (bs : ByteString) : Option (List Attribute) :=
  parseAttributesFrom bs.length bs

def linkStep (link : LinkFact) (a : Attribute) : LinkFact :=
  if a.type = iflaIfname ∧ a.payload ≠ [] then
    { link with interface := { link.interface with observedName := a.payload.takeWhile (· ≠ 0) } }
  else if a.type = iflaOperstate then
    { link with operState := copyAttribute 1 a link.operState }
  else if a.type = iflaCarrier then
    { link with carrier := copyAttribute 1 a link.carrier, carrierKnown := true }
  else link

def parseLink (message : ByteString) (attributes : List Attribute) (netns : NetnsId)
    (present : Bool) : LinkFact :=
  attributes.foldl linkStep
    { netns := netns
      interface := ⟨field 4 4 message, []⟩
      flags := field 8 4 message
      operState := 0
      carrier := 0
      carrierKnown := false
      linkType := field 2 2 message
      present := present }

def linkAttributeValid (a : Attribute) : Bool :=
  !(a.type == iflaIfname && a.payload.isEmpty) &&
    !((a.type == iflaOperstate || a.type == iflaCarrier) && a.payload.length != 1)

/-- `IFA_LOCAL` always replaces the address found so far, `IFA_ADDRESS` only a missing one. -/
def addressStep (found : Option Attribute × ℕ) (a : Attribute) : Option Attribute × ℕ :=
  if a.type = ifaLocal then (some a, found.2)
  else if a.type = ifaAddress ∧ found.1 = none then (some a, found.2)
  else if a.type = ifaFlags then (found.1, copyAttribute 4 a found.2)
  else found

def parseAddress (message : ByteString) (attributes : List Attribute) (netns : NetnsId)
    (present : Bool) : AddressFact :=
  let found := attributes.foldl addressStep (none, field 2 1 message)
  { netns := netns
    interface := ⟨field 4 4 message, []⟩
    family := field 0 1 message
    prefixLength := field 1 1 message
    address := attributeAddress found.1 (field 0 1 message)
    scope := field 3 1 message
    flags := found.2
    present := present }

def validAddressAttribute (a : Attribute) (family : ℕ) : Bool :=
  if family = afInet then a.payload.length == 4
  else if family = afInet6 then a.payload.length == 16
  else true

def addressAttributeValid (family : ℕ) (a : Attribute) : Bool :=
  ((a.type != ifaLocal && a.type != ifaAddress) || validAddressAttribute a family) &&
    (a.type != ifaFlags || a.payload.length == 4)

def validNexthopAttributesFrom (family : ℕ) : ℕ → ByteString → Bool
  | 0, _ => true
  | fuel + 1, bs =>
    if bs = [] then true
    else match attribute? bs with
      | none => false
      | some (a, len) =>
        (a.type != rtaGateway || validAddressAttribute a family) &&
          validNexthopAttributesFrom family fuel (bs.drop (align4 len))

def validMultipathFrom (family : ℕ) : ℕ → ByteString → Bool
  | 0, _ => true
  | fuel + 1, bs =>
    if bs = [] then true
    else
      let len := field 0 2 bs
      if bs.length < rtnexthopSize ∨ len < rtnexthopSize ∨ bs.length < len then false
      else
        let nested := slice rtnexthopSize (len - rtnexthopSize) bs
        validNexthopAttributesFrom family nested.length nested &&
          decide (align4 len ≤ bs.length) &&
          validMultipathFrom family fuel (bs.drop (align4 len))

def validMultipath (a : Attribute) (family : ℕ) : Bool :=
  validMultipathFrom family a.payload.length a.payload

def routeAttributeValid (family : ℕ) (a : Attribute) : Bool :=
  ((a.type != rtaDst && a.type != rtaGateway && a.type != rtaPrefsrc) ||
      validAddressAttribute a family) &&
    ((a.type != rtaOif && a.type != rtaPriority && a.type != rtaTable) || a.payload.length == 4) &&
    (a.type != rtaMultipath || validMultipath a family)

def routeStep (acc : RouteFact × Option Attribute) (a : Attribute) :
    RouteFact × Option Attribute :=
  let r := acc.1
  if a.type = rtaDst then
    ({ r with destination := attributeAddress (some a) r.family
              attributeMask := insert .destination r.attributeMask }, acc.2)
  else if a.type = rtaGateway then
    ({ r with gateway := some (attributeAddress (some a) r.family)
              attributeMask := insert .gateway r.attributeMask }, acc.2)
  else if a.type = rtaPrefsrc then
    ({ r with preferredSource := some (attributeAddress (some a) r.family)
              attributeMask := insert .preferredSource r.attributeMask }, acc.2)
  else if a.type = rtaOif then
    ({ r with outputIfindex :=
                if a.payload.length < 4 then r.outputIfindex else some (field 0 4 a.payload)
              attributeMask := insert .outputInterface r.attributeMask }, acc.2)
  else if a.type = rtaPriority then
    ({ r with priority := copyAttribute 4 a r.priority
              attributeMask := insert .priority r.attributeMask }, acc.2)
  else if a.type = rtaTable then
    ({ r with table := copyAttribute 4 a r.table
              attributeMask := insert .table r.attributeMask }, acc.2)
  else if a.type = rtaMultipath then
    ({ r with attributeMask := insert .multipath r.attributeMask }, some a)
  else acc

/-- The gateway of a nexthop: its last `RTA_GATEWAY` before the first malformed attribute. -/
def nexthopGatewayFrom (family : ℕ) : ℕ → ByteString → Address → Address
  | 0, _, gateway => gateway
  | fuel + 1, bs, gateway =>
    match attribute? bs with
    | none => gateway
    | some (a, len) =>
      nexthopGatewayFrom family fuel (bs.drop (align4 len))
        (if a.type = rtaGateway then attributeAddress (some a) family else gateway)

def parseNexthopsFrom (family : ℕ) : ℕ → ByteString → List RouteNexthop
  | 0, _ => []
  | fuel + 1, bs =>
    let len := field 0 2 bs
    if bs.length < rtnexthopSize ∨ len < rtnexthopSize ∨ bs.length < len then []
    else
      let nested := slice rtnexthopSize (len - rtnexthopSize) bs
      { ifindex := field 4 4 bs
        gateway := nexthopGatewayFrom family nested.length nested Address.zero
        hops := field 3 1 bs
        flags := field 2 1 bs } :: parseNexthopsFrom family fuel (bs.drop (align4 len))

def parseRoute (message : ByteString) (attributes : List Attribute) (netns : NetnsId)
    (present : Bool) : Option RouteFact :=
  let read := attributes.foldl routeStep
    ({ netns := netns
       family := field 0 1 message
       destinationPrefix := field 1 1 message
       destination := Address.zero
       table := field 4 1 message
       priority := 0
       protocol := field 5 1 message
       scope := field 6 1 message
       type := field 7 1 message
       outputIfindex := none
       gateway := none
       preferredSource := none
       multipath := []
       present := present
       attributeMask := ∅ }, none)
  if attributes.all (routeAttributeValid read.1.family) then
    match read.2 with
    | none => some read.1
    | some a => some { read.1 with
        multipath := RouteNexthop.sort
          (parseNexthopsFrom read.1.family a.payload.length a.payload) }
  else none

def parseBody (type : ℕ) (payload : ByteString) (netns : NetnsId) (parsed : ParsedMessage) :
    Except String ParsedMessage :=
  if type = rtmNewlink ∨ type = rtmDellink then
    if payload.length < ifinfomsgSize then .error "short link message"
    else match parseAttributes (payload.drop ifinfomsgSize) with
      | none => .error "malformed link attributes"
      | some attributes =>
        if attributes.all linkAttributeValid then
          .ok { parsed with
            kind := .link
            link := some (parseLink payload attributes netns (type == rtmNewlink)) }
        else .error "malformed link attributes"
  else if type = rtmNewaddr ∨ type = rtmDeladdr then
    if payload.length < ifaddrmsgSize then .error "short address message"
    else match parseAttributes (payload.drop ifaddrmsgSize) with
      | none => .error "malformed address attributes"
      | some attributes =>
        if attributes.all (addressAttributeValid (field 0 1 payload)) then
          .ok { parsed with
            kind := .address
            address := some (parseAddress payload attributes netns (type == rtmNewaddr)) }
        else .error "malformed address attributes"
  else if type = rtmNewroute ∨ type = rtmDelroute then
    if payload.length < rtmsgSize then .error "short route message"
    else match parseAttributes (payload.drop rtmsgSize) with
      | none => .error "malformed route attributes"
      | some attributes =>
        match parseRoute payload attributes netns (type == rtmNewroute) with
        | none => .error "malformed route attributes"
        | some route => .ok { parsed with kind := .route, route := some route }
  else .ok { parsed with kind := .notification }

theorem parseBody_ok {type : ℕ} {payload : ByteString} {netns : NetnsId}
    {parsed message : ParsedMessage} (h : parseBody type payload netns parsed = .ok message) :
    ∃ kind link address route, kind ≠ .done ∧ kind ≠ .error ∧
      message = { parsed with kind := kind, link := link, address := address, route := route } := by
  rw [parseBody] at h
  split_ifs at h
  · split at h
    · cases h
    · split_ifs at h
      exact ⟨.link, _, _, _, nofun, nofun, (Except.ok.inj h).symm⟩
  · split at h
    · cases h
    · split_ifs at h
      exact ⟨.address, _, _, _, nofun, nofun, (Except.ok.inj h).symm⟩
  · split at h
    · cases h
    · split at h
      · cases h
      · exact ⟨.route, _, _, _, nofun, nofun, (Except.ok.inj h).symm⟩
  · exact ⟨.notification, _, _, _, nofun, nofun, (Except.ok.inj h).symm⟩

/-- `result.malformed = true; result.error = text; break`. -/
def reject (result : ParseResult) (text : String) : ParseResult :=
  { result with malformed := true, error := text }

def headerError (expectedSequence : Option ℕ) (senderPid : ℕ) (bs : ByteString) : Option String :=
  let header := nlmsghdr bs
  if bs.length < headerSize ∨ header.len < headerSize ∨ bs.length < header.len then
    some "malformed nlmsg_len"
  else if expectedSequence.isSome ∧ expectedSequence ≠ some header.seq ∧ header.seq ≠ 0 then
    some "unexpected netlink sequence"
  else if expectedSequence = none ∧ header.seq ≠ 0 then
    some "unexpected notification sequence"
  else if header.pid ≠ 0 ∧ header.pid ≠ senderPid then
    some "unexpected netlink sender"
  else none

def parseMessage (expectedSequence : Option ℕ) (netns : NetnsId) (result : ParseResult)
    (bs : ByteString) : Except ParseResult ParseResult :=
  let header := nlmsghdr bs
  let payload := nlmsgData bs
  let parsed := ParsedMessage.blank header.seq header.pid
  if header.type = nlmsgDone then
    if expectedSequence.isSome ∧ expectedSequence ≠ some header.seq then
      .error (reject result "unexpected completion sequence")
    else .ok { result with
      completed := !header.dumpIntr
      messages := result.messages ++
        [{ parsed with kind := .done, dumpInterrupted := header.dumpIntr }] }
  else if header.type = nlmsgError then
    if expectedSequence.isSome ∧ expectedSequence ≠ some header.seq then
      .error (reject result "unexpected error sequence")
    else if payload.length < nlmsgerrSize then .error (reject result "short NLMSG_ERROR")
    else
      let error := nlmsgerrError payload
      .ok { result with
        messages := result.messages ++
          [{ parsed with kind := .error, errorCode := errorCode error }]
        error := if error ≠ 0 then "netlink request error" else result.error }
  else match parseBody header.type payload netns parsed with
    | .error text => .error (reject result text)
    | .ok message => .ok { result with messages := result.messages ++ [message] }

/-- The loop over the messages of a datagram; `.error` leaves it as `break` does. -/
def parseFrom (expectedSequence : Option ℕ) (senderPid : ℕ) (netns : NetnsId) :
    ℕ → ByteString → ParseResult → ParseResult
  | 0, _, result => result
  | fuel + 1, bs, result =>
    if bs = [] then result
    else match headerError expectedSequence senderPid bs with
      | some text => reject result text
      | none =>
        match parseMessage expectedSequence netns result bs with
        | .error stopped => stopped
        | .ok next =>
          let aligned := align4 (nlmsghdr bs).len
          if bs.length < aligned then
            { next with truncated := true, error := "truncated netlink message" }
          else parseFrom expectedSequence senderPid netns fuel (bs.drop aligned) next

/-- `int remaining = static_cast<int>(size)`, which can be negative or cut off high bits. -/
def remaining (data : ByteString) : ℤ := signed 32 data.length

def parse (data : ByteString) (senderPid : ℕ) (expectedSequence : Option ℕ) (netns : NetnsId) :
    ParseResult :=
  if senderPid ≠ 0 then reject .blank "unexpected netlink sender"
  else if data = [] then reject .blank "empty netlink datagram"
  else
    let bs := data.take (remaining data).toNat
    parseFrom expectedSequence senderPid netns bs.length bs .blank
end RtnetlinkParser

def ParseResult.accepted (result : ParseResult) : Bool := !result.malformed && !result.truncated

def ParseResult.facts (result : ParseResult) : List ParsedMessage :=
  result.messages.map fun message => { message with senderPid := 0 }
end WeakNet
