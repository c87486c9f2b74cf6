import WeakNet.NetworkEvent
import WeakNet.Foundation.OrderedMap
import WeakNet.Foundation.Runs

/-! The active identities with two indexes, by namespace and cookie and by tuple, and a candidate
snapshot in five further containers. `observe` resolves an input, superseding what it contradicts,
and then records the resolved or new identity. Superseding takes effect even when the input is
refused for lack of room afterwards. -/

namespace WeakNet
open Foundation Foundation.Runs

inductive SocketSnapshotDisposition where
  | authoritative | partly | failed
deriving DecidableEq

structure SocketObservationInput where
  tuple : SocketTuple
  cookie : Option ℕ
  observedAt : RealtimeTime
  monotonicAt : MonotonicTime
  source : EventSource
  validity : Validity
  present : Bool
  tcpState : ℕ
  diagIfindex : Option ℕ
  tcpInfo : Option TcpInfoRaw
  tcpInfoMalformed : Bool
deriving DecidableEq

structure SocketResolution where
  observation : SocketObservation
  createdGeneration : Bool
  inconsistentMetadata : Bool
deriving DecidableEq

/-- Bounds accepted by the constructor, which throws on a zero bound. -/
structure SocketLifecycleConfig where
  maxActiveEntries : ℕ
  maxClosedEntries : ℕ
  active_pos : 0 < maxActiveEntries
  closed_pos : 0 < maxClosedEntries
deriving DecidableEq

@[ext]
structure CookieKey where
  netns : NetnsId
  cookie : ℕ

namespace CookieKey
def code (key : CookieKey) : List ℕ := [key.netns.device, key.netns.inode, key.cookie]

theorem code_injective : Function.Injective code :=
  NetnsId.key_injective fun _ _ hnetns hrest => CookieKey.ext hnetns (List.cons.inj hrest).1

instance : LinearOrder CookieKey := LinearOrder.lift' code code_injective
end CookieKey

def maxGeneration : ℕ := 2 ^ 64 - 1

structure SocketLifecycleTable where
  config : SocketLifecycleConfig
  snapshotInProgress : Bool
  disposition : SocketSnapshotDisposition
  nextGeneration : ℕ
  active : OrderedMap SocketId SocketObservation
  weakActive : OrderedMap SocketTuple SocketId
  cookieActive : OrderedMap CookieKey SocketId
  closed : List SocketObservation
  pending : OrderedMap SocketId SocketObservation
  pendingWeak : OrderedMap SocketTuple SocketId
  pendingCookie : OrderedMap CookieKey SocketId
  pendingSeen : Finset SocketId
  pendingSuperseded : Finset SocketId

namespace SocketLifecycleTable
def initial (config : SocketLifecycleConfig) : SocketLifecycleTable where
  config := config
  snapshotInProgress := false
  disposition := .failed
  nextGeneration := 1
  active := .empty
  weakActive := .empty
  cookieActive := .empty
  closed := []
  pending := .empty
  pendingWeak := .empty
  pendingCookie := .empty
  pendingSeen := ∅
  pendingSuperseded := ∅

def validInput (input : SocketObservationInput) : Bool :=
  input.present && input.tuple.netns.inode != 0 && input.tuple.protocol == .tcp &&
  input.tuple.family == input.tuple.localEnd.family &&
  input.tuple.family == input.tuple.remoteEnd.family &&
  (input.tuple.family == afInet || input.tuple.family == afInet6)

def makeObservation (id : SocketId) (input : SocketObservationInput) : SocketObservation where
  id := id
  netns := input.tuple.netns
  tuple := input.tuple
  observedAt := input.observedAt
  monotonicAt := input.monotonicAt
  source := input.source
  validity := input.validity
  lifecycle := .active
  present := true
  tcpState := input.tcpState
  diagIfindex := input.diagIfindex
  tcpInfo := input.tcpInfo
  tcpInfoMalformed := input.tcpInfoMalformed

def clearPending (t : SocketLifecycleTable) : SocketLifecycleTable :=
  { t with
    pending := .empty
    pendingWeak := .empty
    pendingCookie := .empty
    pendingSeen := ∅
    pendingSuperseded := ∅ }

def beginSnapshot (t : SocketLifecycleTable) (disposition : SocketSnapshotDisposition) :
    SocketLifecycleTable × Bool :=
  if t.snapshotInProgress then (t, false)
  else ({ t.clearPending with snapshotInProgress := true, disposition := disposition }, true)

def clearCandidate (t : SocketLifecycleTable) : SocketLifecycleTable :=
  { t.clearPending with snapshotInProgress := false, disposition := .failed }

def unsuperseded (t : SocketLifecycleTable) (found : Option SocketId) : Option SocketId :=
  found.filter (fun id => id ∉ t.pendingSuperseded)

def pendingWeakOf (t : SocketLifecycleTable) (tuple : SocketTuple) : Option SocketId :=
  t.unsuperseded (t.pendingWeak.find? tuple)

def pendingCookieOf (t : SocketLifecycleTable) (key : CookieKey) : Option SocketId :=
  t.unsuperseded (t.pendingCookie.find? key)

def erasePending (t : SocketLifecycleTable) (id : SocketId) : SocketLifecycleTable :=
  { t with
    pending := t.pending.erase id
    pendingSeen := t.pendingSeen.erase id
    pendingWeak := t.pendingWeak.filter (fun e => e.2 ≠ id)
    pendingCookie := t.pendingCookie.filter (fun e => e.2 ≠ id) }

def supersede (t : SocketLifecycleTable) (id : SocketId) : SocketLifecycleTable :=
  if t.active.contains id then
    { t.erasePending id with pendingSuperseded := insert id t.pendingSuperseded }
  else t.erasePending id

def closedCopy (o : SocketObservation) : SocketObservation :=
  { o with lifecycle := .closed, present := false, validity := .stale }

def rememberClosed (t : SocketLifecycleTable) (o : SocketObservation) : SocketLifecycleTable :=
  let closed := t.closed ++ [closedCopy o]
  { t with closed := closed.drop (closed.length - t.config.maxClosedEntries) }

/-- What `observe` knows before it records: the table after superseding, the
identity found, and whether contradicting metadata was seen. -/
structure Resolving where
  table : SocketLifecycleTable
  resolved : Option SocketId
  inconsistent : Bool

def Resolving.orElse (r : Resolving) (next : Resolving → Resolving) : Resolving :=
  if r.resolved.isSome then r else next r

def tupleAgrees (m : OrderedMap SocketId SocketObservation) (id : SocketId)
    (tuple : SocketTuple) : Bool :=
  match m.find? id with
  | some o => o.tuple == tuple
  | none => false

def resolvePendingCookie (t : SocketLifecycleTable) (key : CookieKey) (tuple : SocketTuple) :
    Resolving :=
  match t.pendingCookieOf key with
  | some candidate =>
    if tupleAgrees t.pending candidate tuple then ⟨t, some candidate, false⟩
    else ⟨t.supersede candidate, none, true⟩
  | none => ⟨t, none, false⟩

def resolveActiveCookie (key : CookieKey) (tuple : SocketTuple) (r : Resolving) : Resolving :=
  match r.table.unsuperseded (r.table.cookieActive.find? key) with
  | some id =>
    if tupleAgrees r.table.active id tuple then { r with resolved := some id }
    else ⟨r.table.supersede id, none, true⟩
  | none => r

def supersedeWeak (tuple : SocketTuple) (r : Resolving) : Resolving :=
  match r.table.pendingWeakOf tuple with
  | some weak => ⟨r.table.supersede weak, none, true⟩
  | none =>
    match r.table.unsuperseded (r.table.weakActive.find? tuple) with
    | some weak => ⟨r.table.supersede weak, none, true⟩
    | none => r

def resolveCookie (t : SocketLifecycleTable) (key : CookieKey) (tuple : SocketTuple) :
    Resolving :=
  ((t.resolvePendingCookie key tuple).orElse (resolveActiveCookie key tuple)).orElse
    (supersedeWeak tuple)

/-- The scans of the cookie-less path stop at the first cookie-backed entry of the
tuple, once in `pending` and once in `active`. -/
def firstCookieBacked (t : SocketLifecycleTable) (m : OrderedMap SocketId SocketObservation)
    (tuple : SocketTuple) : Option SocketId :=
  (m.entries.find? (fun e =>
    e.1.cookie.isSome && e.2.tuple == tuple && decide (e.1 ∉ t.pendingSuperseded))).map Prod.fst

def supersedeFirst (t : SocketLifecycleTable) (m : OrderedMap SocketId SocketObservation)
    (tuple : SocketTuple) : SocketLifecycleTable :=
  match t.firstCookieBacked m tuple with
  | some id => t.supersede id
  | none => t

def resetCookieBacked (t : SocketLifecycleTable) (tuple : SocketTuple) : Resolving :=
  let scanned := t.supersedeFirst t.pending tuple
  ⟨scanned.supersedeFirst scanned.active tuple, none,
    (t.firstCookieBacked t.pending tuple).isSome ||
      (scanned.firstCookieBacked scanned.active tuple).isSome⟩

def resolveWeak (t : SocketLifecycleTable) (tuple : SocketTuple) : Resolving :=
  match t.pendingWeakOf tuple with
  | some weak => ⟨t, some weak, false⟩
  | none =>
    match t.unsuperseded (t.weakActive.find? tuple) with
    | some weak => ⟨t, some weak, false⟩
    | none => t.resetCookieBacked tuple

def resolve (t : SocketLifecycleTable) (input : SocketObservationInput) : Resolving :=
  match input.cookie with
  | some cookie => t.resolveCookie ⟨input.tuple.netns, cookie⟩ input.tuple
  | none => t.resolveWeak input.tuple

def record (t : SocketLifecycleTable) (id : SocketId) (input : SocketObservationInput) :
    SocketLifecycleTable :=
  { t with
    pending := t.pending.insert id (makeObservation id input)
    pendingSeen := insert id t.pendingSeen
    pendingCookie := match input.cookie with
      | some cookie => t.pendingCookie.insert ⟨input.tuple.netns, cookie⟩ id
      | none => t.pendingCookie
    pendingWeak := match input.cookie with
      | some _ => t.pendingWeak
      | none => t.pendingWeak.insert input.tuple id }

inductive ObserveOutcome where
  | refused
  | generationExhausted
  | accepted (resolution : SocketResolution)
deriving DecidableEq

def admits (t : SocketLifecycleTable) (input : SocketObservationInput) : Bool :=
  t.snapshotInProgress && t.disposition != .failed && validInput input

def full (t : SocketLifecycleTable) : Bool :=
  t.config.maxActiveEntries ≤ t.active.size + t.pending.size

def newIdentity (t : SocketLifecycleTable) (input : SocketObservationInput) : SocketId :=
  ⟨input.tuple.netns, input.cookie, t.nextGeneration⟩

def observe (t : SocketLifecycleTable) (input : SocketObservationInput) :
    SocketLifecycleTable × ObserveOutcome :=
  if t.admits input then
    let r := t.resolve input
    match r.resolved with
    | some id =>
      (r.table.record id input, .accepted ⟨makeObservation id input, false, r.inconsistent⟩)
    | none =>
      if r.table.full then (r.table, .refused)
      else if r.table.nextGeneration = maxGeneration then (r.table, .generationExhausted)
      else
        let id := r.table.newIdentity input
        ({ r.table with nextGeneration := r.table.nextGeneration + 1 }.record id input,
          .accepted ⟨makeObservation id input, true, r.inconsistent⟩)
  else (t, .refused)

def cookieOf (e : SocketId × SocketObservation) : Option CookieKey :=
  e.1.cookie.map (fun c => ⟨e.1.netns, c⟩)

def tupleOf (e : SocketId × SocketObservation) : Option SocketTuple :=
  match e.1.cookie with
  | some _ => none
  | none => some e.2.tuple

def reindex (t : SocketLifecycleTable) : SocketLifecycleTable :=
  { t with
    weakActive := t.active.indexBy tupleOf
    cookieActive := t.active.indexBy cookieOf }

def retire (t : SocketLifecycleTable) (e : SocketId × SocketObservation) :
    SocketLifecycleTable :=
  { t.rememberClosed e.2 with active := t.active.erase e.1 }

def keeps (t : SocketLifecycleTable) (id : SocketId) : Bool :=
  decide (id ∈ t.pendingSeen) && decide (id ∉ t.pendingSuperseded)

def install (t : SocketLifecycleTable) (e : SocketId × SocketObservation) :
    SocketLifecycleTable :=
  if e.1 ∈ t.pendingSuperseded then t else { t with active := t.active.insert e.1 e.2 }

def commitSnapshot (t : SocketLifecycleTable) : SocketLifecycleTable × Bool :=
  if t.snapshotInProgress then
    if t.disposition = .authoritative then
      let toClose := t.active.entries.filter (fun e => !t.keeps e.1)
      let closed := toClose.foldl retire t
      let installed := closed.pending.entries.foldl install closed
      (installed.reindex.clearCandidate, true)
    else (t.clearCandidate, true)
  else (t, false)

def abortSnapshot (t : SocketLifecycleTable) : SocketLifecycleTable := t.clearCandidate

def close (t : SocketLifecycleTable) (id : SocketId) : SocketLifecycleTable × Bool :=
  if t.snapshotInProgress then (t, false)
  else match t.active.find? id with
    | some o => ((t.retire (id, o)).reindex, true)
    | none => (t, false)

inductive Op where
  | beginSnapshot (disposition : SocketSnapshotDisposition)
  | observe (input : SocketObservationInput)
  | commitSnapshot
  | abortSnapshot
  | close (id : SocketId)

def step (t : SocketLifecycleTable) : Op → SocketLifecycleTable
  | .beginSnapshot disposition => (t.beginSnapshot disposition).1
  | .observe input => (t.observe input).1
  | .commitSnapshot => t.commitSnapshot.1
  | .abortSnapshot => t.abortSnapshot
  | .close id => (t.close id).1

def after (config : SocketLifecycleConfig) (ops : List Op) : SocketLifecycleTable :=
  run step (initial config) ops
end SocketLifecycleTable
end WeakNet
