import WeakNet.NetlinkWire

/-! `walkMessages` with the three callbacks of `WifiNl80211Parser`. The walk ends with `done` at
`NLMSG_DONE` or an acknowledgement; running off the end of the data is malformed. A callback
overwrites the reply of the message before it. -/

namespace WeakNet
open Foundation.Bytes NetlinkWire

inductive WifiParseStatus where
  | ok | done | notFound | errorReply | malformed | wrongSequence | wrongSender | truncated
  | timeout
deriving DecidableEq

structure WifiInterfaceReply where
  ifindex : ℕ
  iftype : ℕ
  ssid : Option ByteString
  frequencyMhz : Option ℕ
deriving DecidableEq

structure WifiStationReply where
  bssid : Option ByteString
  signalDbm : Option ℤ
  signalAvgDbm : Option ℤ
  txBitrateKbps : Option ℕ
  rxBitrateKbps : Option ℕ
  txRetries : Option ℕ
  txFailed : Option ℕ
  rxPackets : Option ℕ
  txPackets : Option ℕ
  rxBytes : Option ℕ
  txBytes : Option ℕ
deriving DecidableEq

/-- The status of a walk, the reply gathered by its callback and the error code of the kernel. -/
structure WifiParseResult (α : Type) where
  status : WifiParseStatus
  reply : Option α
  errorCode : ℤ
deriving DecidableEq

namespace WifiNl80211Parser
def genlmsghdrSize : ℕ := 4
def enoent : ℤ := 2
def ctrlAttrFamilyId : ℕ := 1
def nl80211AttrIfindex : ℕ := 3
def nl80211AttrIftype : ℕ := 5
def nl80211AttrMac : ℕ := 6
def nl80211AttrStaInfo : ℕ := 21
def nl80211AttrWiphyFreq : ℕ := 38
def nl80211AttrSsid : ℕ := 52
def staInfoRxBytes : ℕ := 2
def staInfoTxBytes : ℕ := 3
def staInfoSignal : ℕ := 7
def staInfoTxBitrate : ℕ := 8
def staInfoRxPackets : ℕ := 9
def staInfoTxPackets : ℕ := 10
def staInfoTxRetries : ℕ := 11
def staInfoTxFailed : ℕ := 12
def staInfoSignalAvg : ℕ := 13
def staInfoRxBitrate : ℕ := 14
def staInfoRxBytes64 : ℕ := 23
def staInfoTxBytes64 : ℕ := 24
def rateInfoBitrate : ℕ := 1
def rateInfoBitrate32 : ℕ := 5

def attributesFrom : ℕ → ByteString → Option (List Attribute)
  | 0, _ => some []
  | fuel + 1, bs =>
    if bs = [] then some []
    else match attribute? bs with
      | none => none
      | some (a, len) =>
        if bs.length < align4 len then none
        else (attributesFrom fuel (bs.drop (align4 len))).map (a :: ·)

def attributes (bs : ByteString) : Option (List Attribute) := attributesFrom bs.length bs

def findAttribute (list : List Attribute) (type : ℕ) : Option Attribute :=
  list.find? fun a => a.type == type

def scalar (width : ℕ) (a : Attribute) : Option ℕ :=
  if a.payload.length ≠ width then none else some (field 0 width a.payload)

def validateHeader (bs : ByteString) (senderPid expectedSequence : ℕ) : WifiParseStatus :=
  let header := nlmsghdr bs
  if bs.length < headerSize ∨ header.len < headerSize ∨ bs.length < header.len then .malformed
  else if header.pid ≠ senderPid then .wrongSender
  else if header.seq ≠ expectedSequence then .wrongSequence
  else .ok

section Walk
variable {α : Type} (callback : List Attribute → Option α → WifiParseStatus × Option α)

/-- One turn of the walk: `.error` returns from it, `.ok` goes on to the next message. -/
def walkMessage (senderPid expectedSequence : ℕ) (bs : ByteString) (reply : Option α) :
    Except (WifiParseResult α) (Option α) :=
  let header := nlmsghdr bs
  let payload := nlmsgData bs
  if bs.length < headerSize then .error ⟨.malformed, reply, 0⟩
  else if validateHeader bs senderPid expectedSequence ≠ .ok then
    .error ⟨validateHeader bs senderPid expectedSequence, reply, 0⟩
  else if header.type = nlmsgDone then .error ⟨.done, reply, 0⟩
  else if header.type = nlmsgError then
    if payload.length < nlmsgerrSize then .error ⟨.malformed, reply, 0⟩
    else if nlmsgerrError payload = 0 then .error ⟨.done, reply, 0⟩
    else .error
      ⟨if nlmsgerrError payload = -enoent then .notFound else .errorReply, reply,
        -nlmsgerrError payload⟩
  else if header.type < nlmsgMinType then .error ⟨.malformed, reply, 0⟩
  else if payload.length < genlmsghdrSize then .error ⟨.malformed, reply, 0⟩
  else match attributes (payload.drop genlmsghdrSize) with
    | none => .error ⟨.malformed, reply, 0⟩
    | some list =>
      let result := callback list reply
      if result.1 ≠ .ok then .error ⟨result.1, result.2, 0⟩
      else if bs.length < align4 header.len then .error ⟨.malformed, result.2, 0⟩
      else .ok result.2

def walkMessagesFrom (senderPid expectedSequence : ℕ) :
    ℕ → ByteString → Option α → WifiParseResult α
  | 0, _, reply => ⟨.malformed, reply, 0⟩
  | fuel + 1, bs, reply =>
    match walkMessage callback senderPid expectedSequence bs reply with
    | .error returned => returned
    | .ok next =>
      walkMessagesFrom senderPid expectedSequence fuel (bs.drop (align4 (nlmsghdr bs).len)) next

/-- The walk over a datagram; one turn of fuel more than bytes reaches the end of the data. -/
def walkMessages (data : ByteString) (senderPid expectedSequence : ℕ) : WifiParseResult α :=
  walkMessagesFrom callback senderPid expectedSequence (data.length + 1) data none
end Walk

def familyCallback (attrs : List Attribute) (previous : Option ℕ) : WifiParseStatus × Option ℕ :=
  match (findAttribute attrs ctrlAttrFamilyId).bind (scalar 2) with
  | none => (.malformed, previous)
  | some id => if id = 0 then (.malformed, previous) else (.ok, some id)

def optionalScalar (attrs : List Attribute) (type width : ℕ) : Option (Option ℕ) :=
  match findAttribute attrs type with
  | none => some none
  | some a => (scalar width a).map some

def interfaceCallback (requestedIfindex : ℕ) (attrs : List Attribute)
    (previous : Option WifiInterfaceReply) : WifiParseStatus × Option WifiInterfaceReply :=
  match (findAttribute attrs nl80211AttrIfindex).bind (scalar 4),
      (findAttribute attrs nl80211AttrIftype).bind (scalar 4),
      optionalScalar attrs nl80211AttrWiphyFreq 4 with
  | some ifindex, some iftype, some frequency =>
    if ifindex ≠ requestedIfindex then (.malformed, previous)
    else (.ok, some
      { ifindex := ifindex
        iftype := iftype
        ssid := (findAttribute attrs nl80211AttrSsid).map Attribute.payload
        frequencyMhz := frequency })
  | _, _, _ => (.malformed, previous)

/-- A bit rate in kbit/s; the outer `none` is a malformed rate block. -/
def parseRate (a : Attribute) : Option (Option ℕ) :=
  match attributes a.payload with
  | none => none
  | some rate =>
    if rate.any fun item => (item.type == rateInfoBitrate32 && item.payload.length != 4) ||
        (item.type == rateInfoBitrate && item.payload.length != 2) then none
    else match findAttribute rate rateInfoBitrate32 with
      | some wide => some ((scalar 4 wide).bind fun value =>
          if (2 ^ 32 - 1) / 100 < value then none else some (value * 100))
      | none => some (((findAttribute rate rateInfoBitrate).bind (scalar 2)).map (· * 100))

def optionalRate (nested : List Attribute) (type : ℕ) : Option (Option ℕ) :=
  match findAttribute nested type with
  | none => some none
  | some a => parseRate a

def counter (nested : List Attribute) (type fallback : ℕ) : Option ℕ :=
  match findAttribute nested type with
  | some wide => scalar 8 wide
  | none => (findAttribute nested fallback).bind (scalar 4)

def WifiStationReply.blank (bssid : Option ByteString) : WifiStationReply :=
  ⟨bssid, none, none, none, none, none, none, none, none, none, none⟩

def parseStationInfo (bssid : Option ByteString) (info : Attribute) : Option WifiStationReply :=
  match attributes info.payload with
  | none => none
  | some nested =>
    match optionalScalar nested staInfoSignal 1, optionalScalar nested staInfoSignalAvg 1,
        optionalRate nested staInfoTxBitrate, optionalRate nested staInfoRxBitrate with
    | some signal, some signalAvg, some txBitrate, some rxBitrate => some
      { bssid := bssid
        signalDbm := signal.map (signed 8)
        signalAvgDbm := signalAvg.map (signed 8)
        txBitrateKbps := txBitrate
        rxBitrateKbps := rxBitrate
        txRetries := (findAttribute nested staInfoTxRetries).bind (scalar 4)
        txFailed := (findAttribute nested staInfoTxFailed).bind (scalar 4)
        rxPackets := (findAttribute nested staInfoRxPackets).bind (scalar 4)
        txPackets := (findAttribute nested staInfoTxPackets).bind (scalar 4)
        rxBytes := counter nested staInfoRxBytes64 staInfoRxBytes
        txBytes := counter nested staInfoTxBytes64 staInfoTxBytes }
    | _, _, _, _ => none

def parseStationAttributes (attrs : List Attribute) : Option WifiStationReply :=
  let station (bssid : Option ByteString) : Option WifiStationReply :=
    match findAttribute attrs nl80211AttrStaInfo with
    | none => some (WifiStationReply.blank bssid)
    | some info => parseStationInfo bssid info
  match findAttribute attrs nl80211AttrMac with
  | none => station none
  | some mac => if mac.payload.length ≠ 6 then none else station (some mac.payload)

def stationCallback (attrs : List Attribute) (_previous : Option WifiStationReply) :
    WifiParseStatus × Option WifiStationReply :=
  let station := parseStationAttributes attrs
  (if station.isSome then .ok else .malformed, station)

def parseFamilyId (data : ByteString) (senderPid expectedSequence : ℕ) : WifiParseResult ℕ :=
  walkMessages familyCallback data senderPid expectedSequence

def parseInterface (data : ByteString) (senderPid expectedSequence requestedIfindex : ℕ) :
    WifiParseResult WifiInterfaceReply :=
  walkMessages (interfaceCallback requestedIfindex) data senderPid expectedSequence

def parseStation (data : ByteString) (senderPid expectedSequence : ℕ) :
    WifiParseResult WifiStationReply :=
  walkMessages stationCallback data senderPid expectedSequence
end WifiNl80211Parser

/-- A datagram read to its end, be it a reply or an error of the kernel. -/
def WifiParseResult.accepted {α : Type} (result : WifiParseResult α) : Bool :=
  result.status == .ok || result.status == .done || result.status == .notFound ||
    result.status == .errorReply
end WeakNet
