import Mathlib.Data.List.Sort
import WeakNet.Foundation.MinElement
import WeakNet.Foundation.OrderedMap
import WeakNet.NetworkEvent

/-! The facts of `netlink_topology.hpp`, the textual route identity and `UplinkPolicy::select`. The
identity is written to a stream whose base stays hexadecimal after the first destination byte. -/

namespace WeakNet
open Foundation

def rtnUnicast : ℕ := 1
def rtTableMain : ℕ := 254
def rtTableDefault : ℕ := 253

structure LinkFact where
  netns : NetnsId
  interface : InterfaceId
  flags : ℕ
  operState : ℕ
  carrier : ℕ
  carrierKnown : Bool
  linkType : ℕ
  present : Bool
deriving DecidableEq

namespace LinkFact
def up (l : LinkFact) : Bool := l.present && l.flags.testBit 0

/-- `IFF_LOOPBACK` is bit three, `IF_OPER_DOWN` is 2 and `IF_OPER_NOTPRESENT` is 1. -/
def usable (l : LinkFact) : Bool :=
  l.up && !l.flags.testBit 3 && l.operState != 2 && l.operState != 1 &&
    (!l.carrierKnown || l.carrier != 0)
end LinkFact

structure AddressFact where
  netns : NetnsId
  interface : InterfaceId
  family : ℕ
  prefixLength : ℕ
  address : Address
  scope : ℕ
  flags : ℕ
  present : Bool
deriving DecidableEq

/-- The default comparison of the source, in which interfaces compare by index. -/
def AddressFact.same (a b : AddressFact) : Bool :=
  a.netns == b.netns && a.interface.same b.interface && a.family == b.family &&
    a.prefixLength == b.prefixLength && a.address == b.address && a.scope == b.scope &&
    a.flags == b.flags && a.present == b.present

structure RouteNexthop where
  ifindex : ℕ
  gateway : Address
  hops : ℕ
  flags : ℕ

namespace RouteNexthop
def code (n : RouteNexthop) : List ℕ := n.ifindex :: (n.gateway.code ++ [n.hops, n.flags])

theorem code_injective : Function.Injective code := by
  intro a b h
  obtain ⟨i, g, p, f⟩ := a
  obtain ⟨i', g', p', f'⟩ := b
  simp only [code, List.cons.injEq] at h
  obtain ⟨rfl, htail⟩ := h
  have hlen : g.code.length = g'.code.length := by
    simp [Address.code, g.length_eq, g'.length_eq]
  obtain ⟨hg, hrest⟩ := List.append_inj htail hlen
  have hgateway := Address.code_injective hg
  simp only [List.cons.injEq, and_true] at hrest
  obtain ⟨rfl, rfl⟩ := hrest
  rw [hgateway]

instance : LinearOrder RouteNexthop := LinearOrder.lift' code code_injective

def sort (nexthops : List RouteNexthop) : List RouteNexthop := nexthops.insertionSort (· ≤ ·)
end RouteNexthop

inductive RouteAttribute where
  | destination | gateway | preferredSource | outputInterface | priority | table | multipath
deriving DecidableEq

structure RouteFact where
  netns : NetnsId
  family : ℕ
  destinationPrefix : ℕ
  destination : Address
  table : ℕ
  priority : ℕ
  protocol : ℕ
  scope : ℕ
  type : ℕ
  outputIfindex : Option ℕ
  gateway : Option Address
  preferredSource : Option Address
  multipath : List RouteNexthop
  present : Bool
  attributeMask : Finset RouteAttribute
deriving DecidableEq

namespace RouteFact
def isDefault (r : RouteFact) : Bool := r.destinationPrefix == 0

def onLink (r : RouteFact) : Bool := r.gateway.isNone && r.multipath.isEmpty

def decimal (n : ℕ) : List Char := Nat.toDigits 10 n

def hexadecimal (n : ℕ) : List Char := Nat.toDigits 16 n

/-- `std::hex << std::setw(2) << std::setfill('0')`. -/
def hexByte (b : UInt8) : List Char :=
  [Nat.digitChar (b.toNat / 16), Nat.digitChar (b.toNat % 16)]

def hexAddress (a : Address) : List Char := a.bytes.flatMap hexByte

def nexthopText (n : RouteNexthop) : List Char :=
  hexadecimal n.ifindex ++ ',' :: hexadecimal n.hops ++ ',' :: hexadecimal n.flags ++
    ';' :: hexAddress n.gateway ++ ['|']

def identity (r : RouteFact) : List Char :=
  let nexthops := RouteNexthop.sort r.multipath
  decimal r.netns.device ++ ':' :: decimal r.netns.inode ++ ':' :: decimal r.family ++
    ':' :: decimal r.destinationPrefix ++ ':' :: decimal r.table ++ ':' :: decimal r.priority ++
    ':' :: decimal r.protocol ++ ':' :: decimal r.scope ++ ':' :: decimal r.type ++
    ':' :: hexAddress r.destination ++
    ':' :: r.outputIfindex.elim ['-'] decimal ++
    ':' :: r.gateway.elim [] hexAddress ++
    [':', 's', 'r', 'c', '='] ++ r.preferredSource.elim ['-'] hexAddress ++
    ':' :: nexthops.flatMap nexthopText
end RouteFact

structure TopologySnapshot where
  netns : NetnsId
  links : OrderedMap ℕ LinkFact
  addresses : List AddressFact
  routes : List RouteFact
  authoritative : Bool
  partly : Bool
  degraded : Bool
  generation : ℕ
deriving DecidableEq

def TopologySnapshot.blank (netns : NetnsId) : TopologySnapshot where
  netns := netns
  links := OrderedMap.empty
  addresses := []
  routes := []
  authoritative := false
  partly := false
  degraded := false
  generation := 0

structure UplinkSelection where
  interface : Option InterfaceId
  methodFlags : ℕ
  validity : Validity
  evidence : String
deriving DecidableEq

def UplinkSelection.blank : UplinkSelection := ⟨none, 0, .unavailable, ""⟩

namespace UplinkPolicy
structure Candidate where
  route : RouteFact
  ifindex : ℕ
  multipath : Bool

def eligible (snapshot : TopologySnapshot) (route : RouteFact) : Bool :=
  route.netns == snapshot.netns && route.present && route.isDefault && route.type == rtnUnicast &&
    (route.table == rtTableMain || route.table == rtTableDefault)

def linkUsable (snapshot : TopologySnapshot) (ifindex : ℕ) : Bool :=
  match snapshot.links.find? ifindex with
  | some link => link.netns == snapshot.netns && link.usable
  | none => false

def offers (route : RouteFact) : List Candidate :=
  if route.multipath ≠ [] then
    route.multipath.map fun nexthop => ⟨route, nexthop.ifindex, true⟩
  else match route.outputIfindex with
    | some ifindex => [⟨route, ifindex, false⟩]
    | none => []

def candidates (snapshot : TopologySnapshot) : List Candidate :=
  ((snapshot.routes.filter (eligible snapshot)).flatMap offers).filter
    fun candidate => linkUsable snapshot candidate.ifindex

def rank (c : Candidate) : List ℕ :=
  [if c.route.table = rtTableMain then 0 else 1, c.route.priority,
    if c.route.family = afInet then 0 else 1, if c.multipath then 1 else 0, c.ifindex] ++
    c.route.identity.map Char.toNat

def evidence (c : Candidate) : String :=
  "table=" ++ toString c.route.table ++ ",metric=" ++ toString c.route.priority ++
    ",family=" ++ (if c.route.family = afInet then "ipv4" else "ipv6") ++
    ",ifindex=" ++ toString c.ifindex ++
    ",gateway=" ++ (if c.route.gateway.isSome then "yes" else "on-link") ++
    ",multipath=" ++ (if c.multipath then "yes; representative=min-ranked-nexthop" else "no") ++
    ",tie-break=table-main,metric,ipv4,non-multipath,ifindex,route-identity"

def methodFlags (found : List Candidate) : ℕ :=
  (if found.any fun c => c.route.family == afInet then 1 else 0) +
    (if found.any fun c => c.route.family == afInet6 then 2 else 0)

def select (snapshot : TopologySnapshot) : UplinkSelection :=
  match candidates snapshot with
  | [] =>
    { interface := none
      methodFlags := 0
      validity := if snapshot.authoritative && !snapshot.partly && !snapshot.degraded
        then .unavailable else .stale
      evidence := "no usable unicast default route in table main/default" }
  | first :: rest =>
    let chosen := minBy rank first rest
    { interface := (snapshot.links.find? chosen.ifindex).map LinkFact.interface
      methodFlags := methodFlags (first :: rest)
      validity := if chosen.multipath then .partly else .valid
      evidence := evidence chosen }

theorem select_none {snapshot : TopologySnapshot} (h : (select snapshot).interface = none) :
    (select snapshot).validity =
      if snapshot.authoritative && !snapshot.partly && !snapshot.degraded
        then .unavailable else .stale := by
  rw [select] at h ⊢
  cases hfound : candidates snapshot with
  | nil => rfl
  | cons first rest =>
    rw [hfound] at h
    have hmem : minBy rank first rest ∈ candidates snapshot := by
      rw [hfound]
      exact minBy_mem
    have husable := (List.mem_filter.mp hmem).2
    rw [linkUsable, Option.map_eq_none_iff.mp h] at husable
    cases husable
end UplinkPolicy
end WeakNet
