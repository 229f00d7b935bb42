import Pulsebeam.Lib.Chain
import Pulsebeam.Lib.OrdMap
import Pulsebeam.Lib.Run
import Pulsebeam.Steer.Classify

/-! The cache that sends a datagram to its transport by where it came from. Each cached address stands on two lists, one of
all addresses and one of its route, and on each among those whose flow is authenticated or among those whose flow is not. -/

namespace Pulsebeam.Shard.Demux

open Lib

def maxAddrsPerRoute : ℕ := 16

def maxAddrEntries : ℕ := maxAddrsPerRoute * 4096

structure NodeTransportAddress where
  route : ℕ
  epoch : UInt16
  deriving DecidableEq

def packedRoute (shard : UInt16) (slot : UInt32) : ℕ := shard.toNat <<< 20 ||| slot.toNat

variable {Addr : Type} [LinearOrder Addr]

structure CachedRoute (Addr : Type) where
  address : NodeTransportAddress
  authenticated : Bool
  global : Links Addr := {}
  route : Links Addr := {}
  deriving DecidableEq

namespace CachedRoute

def onGlobal (f : Links Addr → Links Addr) (e : CachedRoute Addr) : CachedRoute Addr := { e with global := f e.global }

def onRoute (f : Links Addr → Links Addr) (e : CachedRoute Addr) : CachedRoute Addr := { e with route := f e.route }

def core (e : CachedRoute Addr) : NodeTransportAddress × Bool := (e.address, e.authenticated)

end CachedRoute

structure RouteLists (Addr : Type) where
  unauthenticated : Ends Addr := {}
  authenticated : Ends Addr := {}

namespace RouteLists

def list (l : RouteLists Addr) (authenticated : Bool) : Ends Addr :=
  if authenticated then l.authenticated else l.unauthenticated

def setList (l : RouteLists Addr) (authenticated : Bool) (e : Ends Addr) : RouteLists Addr :=
  if authenticated then { l with authenticated := e } else { l with unauthenticated := e }

end RouteLists

abbrev AddrMap (Addr : Type) [LinearOrder Addr] := OrdMap Addr (CachedRoute Addr)

abbrev Field (Addr : Type) := (Links Addr → Links Addr) → CachedRoute Addr → CachedRoute Addr

def splice (on : Field Addr) (m : AddrMap Addr) (addr : Addr) (links : Links Addr) : AddrMap Addr :=
  let m := match links.prev with
    | some prev => m.modify prev (on ({ · with next := links.next }))
    | none => m
  let m := match links.next with
    | some next => m.modify next (on ({ · with prev := links.prev }))
    | none => m
  m.modify addr (on fun _ => {})

def spliceFront (on : Field Addr) (m : AddrMap Addr) (addr : Addr) (head : Option Addr) : AddrMap Addr :=
  let m := m.modify addr (on fun _ => ⟨none, head⟩)
  match head with
  | some head => m.modify head (on ({ · with prev := some addr }))
  | none => m

end Pulsebeam.Shard.Demux

namespace Pulsebeam.Shard

open Lib Demux

structure Demuxer (Addr : Type) [LinearOrder Addr] where
  addrMap : AddrMap Addr
  routeAddrs : OrdMap ℕ (RouteLists Addr)
  unauthenticated : Ends Addr
  authenticated : Ends Addr
  clusterId : UInt16
  nodeId : UInt16
  shardCount : UInt16

namespace Demuxer

variable {Addr : Type} [LinearOrder Addr]

def forNode (clusterId nodeId shardCount : UInt16) : Demuxer Addr := ⟨∅, ∅, {}, {}, clusterId, nodeId, shardCount⟩

variable (d : Demuxer Addr)

def list (authenticated : Bool) : Ends Addr := if authenticated then d.authenticated else d.unauthenticated

def setList (authenticated : Bool) (e : Ends Addr) : Demuxer Addr :=
  if authenticated then { d with authenticated := e } else { d with unauthenticated := e }

-- `entry(route).or_default()`
def routeLists (d : Demuxer Addr) (route : ℕ) : RouteLists Addr := (d.routeAddrs.get? route).getD {}

def setRouteLists (route : ℕ) (l : RouteLists Addr) : Demuxer Addr :=
  { d with routeAddrs := d.routeAddrs.insert route l }

def unlinkGlobal (addr : Addr) : Demuxer Addr :=
  match d.addrMap.get? addr with
  | none => d
  | some entry =>
    { d.setList entry.authenticated ((d.list entry.authenticated).without addr entry.global) with
      addrMap := splice .onGlobal d.addrMap addr entry.global }

def linkGlobalFront (addr : Addr) (authenticated : Bool) : Demuxer Addr :=
  match d.addrMap.get? addr with
  | none => d
  | some _ =>
    { d.setList authenticated ((d.list authenticated).cons addr) with
      addrMap := spliceFront .onGlobal d.addrMap addr (d.list authenticated).head }

-- A route keeps its lists only as long as one of them has a member.
def dropEmpty (d : Demuxer Addr) (route : ℕ) : Demuxer Addr :=
  match d.routeAddrs.get? route with
  | none => d
  | some lists =>
    if lists.unauthenticated.len = 0 ∧ lists.authenticated.len = 0 then
      { d with routeAddrs := d.routeAddrs.erase route }
    else d

def unlinkRoute (addr : Addr) (route : ℕ) : Demuxer Addr :=
  match d.addrMap.get? addr with
  | none => d
  | some entry =>
    let lists := d.routeLists route
    dropEmpty
      { d.setRouteLists route (lists.setList entry.authenticated
          ((lists.list entry.authenticated).without addr entry.route)) with
        addrMap := splice .onRoute d.addrMap addr entry.route }
      route

def linkRouteFront (addr : Addr) (route : ℕ) (authenticated : Bool) : Demuxer Addr :=
  let lists := d.routeLists route
  match d.addrMap.get? addr with
  | none => d.setRouteLists route lists
  | some _ =>
    { d.setRouteLists route (lists.setList authenticated ((lists.list authenticated).cons addr)) with
      addrMap := spliceFront .onRoute d.addrMap addr (lists.list authenticated).head }

def touch (addr : Addr) : Demuxer Addr :=
  match d.addrMap.get? addr with
  | none => d
  | some entry =>
    (((d.unlinkGlobal addr).unlinkRoute addr entry.address.route).linkGlobalFront addr entry.authenticated).linkRouteFront
      addr entry.address.route entry.authenticated

def removeEntry (addr : Addr) : Demuxer Addr :=
  match d.addrMap.get? addr with
  | none => d
  | some entry =>
    let d := (d.unlinkGlobal addr).unlinkRoute addr entry.address.route
    { d with addrMap := d.addrMap.erase addr }

def evictGlobal : Demuxer Addr :=
  match d.unauthenticated.tail.or d.authenticated.tail with
  | none => d
  | some victim => d.removeEntry victim

def evictRoute (route : ℕ) : Demuxer Addr :=
  match (d.routeAddrs.get? route).bind fun lists => lists.unauthenticated.tail.or lists.authenticated.tail with
  | none => d
  | some victim => d.removeEntry victim

-- `freed` has room for so many more addresses; a push beyond it panics.
def unregisterLoop (route : ℕ) : ℕ → Demuxer Addr → List Addr → Option (Demuxer Addr × List Addr)
  | room, d, freed =>
    match (d.routeAddrs.get? route).bind fun lists => lists.unauthenticated.head.or lists.authenticated.head with
    | none => some (d, freed)
    | some addr =>
      match room with
      | 0 => none
      | room + 1 => unregisterLoop route room (d.removeEntry addr) (freed ++ [addr])

def unregister (d : Demuxer Addr) (route : ℕ) : Option (Demuxer Addr × List Addr) :=
  unregisterLoop route maxAddrsPerRoute d []

def cached (src : Addr) : Demuxer Addr × Option NodeTransportAddress :=
  match d.addrMap.get? src with
  | none => (d, none)
  | some entry => (d.touch src, some entry.address)

def routeLen (route : ℕ) : ℕ :=
  match d.routeAddrs.get? route with
  | none => 0
  | some lists => lists.unauthenticated.len + lists.authenticated.len

def admission (src : Addr) (address : NodeTransportAddress) (authenticated : Bool) : Demuxer Addr :=
  let d := if maxAddrEntries ≤ d.addrMap.size then d.evictGlobal else d
  let d := if maxAddrsPerRoute ≤ d.routeLen address.route then d.evictRoute address.route else d
  if maxAddrsPerRoute ≤ d.routeLen address.route then d
  else
    let d := { d with addrMap := d.addrMap.insert src { address := address, authenticated := authenticated } }
    (d.linkGlobalFront src authenticated).linkRouteFront src address.route authenticated

def demux (src : Addr) (data : Steer.Bytes) : Demuxer Addr × Option NodeTransportAddress :=
  if !Steer.isStun data then d.cached src
  else
    match Steer.classifyBootstrap data ⟨d.clusterId, d.nodeId, d.shardCount⟩ with
    | .route shard slot epoch =>
      let address := ⟨packedRoute shard slot, epoch⟩
      if (d.addrMap.get? src).any (fun entry => entry.address = address) then (d.touch src, some address)
      else ((d.removeEntry src).admission src address false, some address)
    | _ => d.cached src

def relink (src : Addr) (address : NodeTransportAddress) (authenticated : Bool) : Demuxer Addr :=
  let d := (d.unlinkGlobal src).unlinkRoute src address.route
  let d := { d with addrMap := d.addrMap.modify src ({ · with address := address, authenticated := authenticated }) }
  (d.linkGlobalFront src authenticated).linkRouteFront src address.route authenticated

def learn (src : Addr) (address : NodeTransportAddress) : Demuxer Addr :=
  match d.addrMap.get? src with
  | none => d.admission src address false
  | some entry =>
    if entry.address.route = address.route then
      d.relink src address (entry.authenticated && entry.address.epoch = address.epoch)
    else (d.removeEntry src).admission src address false

def authenticate (src : Addr) (address : NodeTransportAddress) : Demuxer Addr :=
  match d.addrMap.get? src with
  | none => d
  | some entry =>
    if entry.address = address then
      if entry.authenticated then d.touch src else d.relink src address true
    else d

end Demuxer

end Pulsebeam.Shard
