import Coderd.Foundation.SetMap
import Coderd.Foundation.Uuid

namespace Coderd.Tailnet

open Coderd.Foundation

/-! ## Messages

`Node` is the type of a `NodeInfo`, which the coordinator only stores and copies. -/

inductive PeerUpdateKind where
  | node
  | disconnected
  | lost
  | readyForHandshake
  deriving DecidableEq, Repr

structure PeerUpdateMsg (Node : Type) where
  id : Uuid
  kind : PeerUpdateKind
  node : Option Node
  deriving DecidableEq

structure CoordinateResponse (Node : Type) where
  peerUpdates : List (PeerUpdateMsg Node)
  error : Option String
  deriving DecidableEq

structure CoordinateRequest (Node : Type) where
  updateSelf : Option Node := none
  addTunnel : Option Uuid := none
  removeTunnel : Option Uuid := none
  disconnect : Option Bool := none
  readyForHandshake : Option (List Uuid) := none

inductive CoordinationError where
  | unknownPeer
  deriving DecidableEq, Repr

inductive PeerKind where
  | agent
  | client
  deriving DecidableEq, Repr

/-- `connectedAt` is in nanoseconds since the epoch. -/
structure PeerInfo where
  id : Uuid
  name : String
  kind : PeerKind
  connectedAt : Int
  deriving DecidableEq

/-! ## Tunnels -/

/-- Tunnels in both directions. `mirrored` says the two maps hold the same tunnels. -/
structure TunnelStore where
  bySrc : SetMap Uuid Uuid
  byDst : SetMap Uuid Uuid
  mirrored : ∀ src dst, dst ∈ bySrc.get src ↔ src ∈ byDst.get dst

namespace TunnelStore

def new : TunnelStore where
  bySrc := ∅
  byDst := ∅
  mirrored := by simp

def add (t : TunnelStore) (src dst : Uuid) : TunnelStore where
  bySrc := t.bySrc.add src dst
  byDst := t.byDst.add dst src
  mirrored := by
    intro s d
    simp only [SetMap.mem_get_add, t.mirrored s d]
    tauto

/-- Remove the tunnels between `a` and `b`, whichever of them asked for it. -/
def remove (t : TunnelStore) (a b : Uuid) : TunnelStore where
  bySrc := (t.bySrc.discard a b).discard b a
  byDst := (t.byDst.discard b a).discard a b
  mirrored := by
    intro s d
    simp only [SetMap.mem_get_discard, t.mirrored s d]
    tauto

/-- The destinations of `id` forget it first, and then its sources. -/
def removeAll (t : TunnelStore) (id : Uuid) : TunnelStore :=
  let byDst := (t.bySrc.get id).toList.foldl (fun m dst => SetMap.discard m dst id) t.byDst
  { bySrc := (byDst.get id).toList.foldl (fun m src => SetMap.discard m src id)
      (t.bySrc.erase id)
    byDst := byDst.erase id
    mirrored := by
      intro s d
      simp only [SetMap.mem_get_foldl_discard, SetMap.mem_get_erase, HashSet.mem_toList,
        t.mirrored, byDst]
      by_cases hs : s = id
      · subst hs
        tauto
      · by_cases hd : d = id
        · subst hd
          tauto
        · tauto }

/-- `find_tunnel_peers`. The source returns the set as a vector. -/
def findTunnelPeers (t : TunnelStore) (id : Uuid) : HashSet Uuid :=
  (t.bySrc.get id).extend (t.byDst.get id)

def tunnelExists (t : TunnelStore) (a b : Uuid) : Bool :=
  b ∈ t.bySrc.get a ∨ b ∈ t.byDst.get a

end TunnelStore

/-! ## Coordinator state -/

/-- `responseTx` holds everything pushed on the peer's channel so far, if it has one. -/
structure CoordinatorPeer (Node : Type) where
  info : PeerInfo
  node : Option Node
  responseTx : Option (List (CoordinateResponse Node))
  sessionId : Uuid

structure CoordinatorInner (Node : Type) where
  peers : HashMap Uuid (CoordinatorPeer Node)
  tunnels : TunnelStore
  subscriptions : SetMap Uuid Uuid
  /-- The channels whose sender is gone, by session, with all that was pushed on them. -/
  closed : List (Uuid × List (CoordinateResponse Node))

variable {Node : Type}

def CoordinatorPeer.push (peer : CoordinatorPeer Node) (response : CoordinateResponse Node) :
    CoordinatorPeer Node :=
  { peer with responseTx := peer.responseTx.map (· ++ [response]) }

namespace CoordinatorInner

def new : CoordinatorInner Node where
  peers := ∅
  tunnels := .new
  subscriptions := ∅
  closed := []

def containsPeer (inner : CoordinatorInner Node) (id : Uuid) : Bool :=
  (inner.peers.lookup id).isSome

def nodeOf (inner : CoordinatorInner Node) (id : Uuid) : Option Node :=
  (inner.peers.lookup id).bind CoordinatorPeer.node

def setNode (inner : CoordinatorInner Node) (id : Uuid) (node : Node) : CoordinatorInner Node :=
  match inner.peers.lookup id with
  | some peer => { inner with peers := inner.peers.insert id { peer with node := some node } }
  | none => inner

/-- Look the peer up and, if it is there, send to it. -/
def sendToPeer (inner : CoordinatorInner Node) (id : Uuid) (response : CoordinateResponse Node) :
    CoordinatorInner Node :=
  match inner.peers.lookup id with
  | some peer => { inner with peers := inner.peers.insert id (peer.push response) }
  | none => inner

def sendToPeers (inner : CoordinatorInner Node) (ids : List Uuid)
    (response : CoordinateResponse Node) : CoordinatorInner Node :=
  ids.foldl (fun inner id => inner.sendToPeer id response) inner

/-- Drop the sender of `id`'s channel. -/
def closeChannel (inner : CoordinatorInner Node) (id : Uuid) : CoordinatorInner Node :=
  match inner.peers.lookup id with
  | some ⟨_, _, some log, sessionId⟩ => { inner with closed := (sessionId, log) :: inner.closed }
  | _ => inner

def insertPeer (inner : CoordinatorInner Node) (id : Uuid) (peer : CoordinatorPeer Node) :
    CoordinatorInner Node :=
  { inner.closeChannel id with peers := inner.peers.insert id peer }

/-- What `remove_peer`, a disconnect and a closed session have in common. -/
def forgetPeer (inner : CoordinatorInner Node) (id : Uuid) : CoordinatorInner Node :=
  { inner.closeChannel id with
    peers := inner.peers.erase id
    tunnels := inner.tunnels.removeAll id
    subscriptions := inner.subscriptions.erase id }

end CoordinatorInner

def nodeUpdate (id : Uuid) (node : Node) : CoordinateResponse Node :=
  { peerUpdates := [{ id, kind := .node, node := some node }], error := none }

def notice (id : Uuid) (kind : PeerUpdateKind) : CoordinateResponse Node :=
  { peerUpdates := [{ id, kind, node := none }], error := none }

def errorResponse (message : String) : CoordinateResponse Node :=
  { peerUpdates := [], error := some message }

/-- If `about` has a node, push it to `dst`. -/
def CoordinatorInner.sendNodeOf (inner : CoordinatorInner Node) (about dst : Uuid) :
    CoordinatorInner Node :=
  match inner.nodeOf about with
  | some node => inner.sendToPeer dst (nodeUpdate about node)
  | none => inner

/-! ## Operations -/

def addPeer (inner : CoordinatorInner Node) (info : PeerInfo) (sessionId : Uuid) :
    CoordinatorInner Node :=
  inner.insertPeer info.id { info, node := none, responseTx := none, sessionId }

def removePeer (inner : CoordinatorInner Node) (peerId : Uuid) : CoordinatorInner Node :=
  inner.forgetPeer peerId

/-- The nodes of the tunnel peers, as a new session is told them. -/
def initialUpdates (inner : CoordinatorInner Node) (peerId : Uuid) : List (PeerUpdateMsg Node) :=
  (inner.tunnels.findTunnelPeers peerId).toList.filterMap fun tpId =>
    (inner.nodeOf tpId).map fun node => { id := tpId, kind := .node, node := some node }

/-- `coordinate`, with the session id that `Uuid::new_v4` produced. -/
def coordinate (inner : CoordinatorInner Node) (info : PeerInfo) (sessionId : Uuid) :
    CoordinatorInner Node :=
  let inner := inner.sendToPeer info.id (errorResponse "overwritten by new connection")
  let inner := inner.insertPeer info.id { info, node := none, responseTx := some [], sessionId }
  let updates := initialUpdates inner info.id
  if updates.isEmpty then inner
  else inner.sendToPeer info.id { peerUpdates := updates, error := none }

/-- The clients subscribed to `peerId`. -/
def subscribers (inner : CoordinatorInner Node) (peerId : Uuid) : List Uuid :=
  inner.subscriptions.keys.filter fun clientId => peerId ∈ SetMap.get inner.subscriptions clientId

def applyUpdateSelf (inner : CoordinatorInner Node) (peerId : Uuid) (node : Node) :
    CoordinatorInner Node :=
  let inner := inner.setNode peerId node
  let inner := inner.sendToPeers (inner.tunnels.findTunnelPeers peerId).toList
    (nodeUpdate peerId node)
  inner.sendToPeers (subscribers inner peerId) (nodeUpdate peerId node)

/-- Tell the tunnel peers that `peerId` is gone and drop all it had. -/
def depart (inner : CoordinatorInner Node) (peerId : Uuid) (kind : PeerUpdateKind) :
    CoordinatorInner Node :=
  (inner.sendToPeers (inner.tunnels.findTunnelPeers peerId).toList
    (notice peerId kind)).forgetPeer peerId

/-- `if let Some(a) = field { … }`. -/
def ifSome {α : Type} (field : Option α) (inner : CoordinatorInner Node)
    (f : α → CoordinatorInner Node) : CoordinatorInner Node :=
  match field with
  | some a => f a
  | none => inner

section

variable [UuidText]

def applyAddTunnel (inner : CoordinatorInner Node) (peerId dstId : Uuid) :
    CoordinatorInner Node :=
  if dstId = peerId then
    inner.sendToPeer peerId (errorResponse "cannot add tunnel to self")
  else if !inner.containsPeer dstId then
    inner.sendToPeer peerId (errorResponse
      ("cannot add tunnel: peer \"" ++ UuidText.display dstId ++ "\" is not connected"))
  else
    let inner := { inner with tunnels := inner.tunnels.add peerId dstId }
    let inner := inner.sendNodeOf dstId peerId
    inner.sendNodeOf peerId dstId

def applyRemoveTunnel (inner : CoordinatorInner Node) (peerId dstId : Uuid) :
    CoordinatorInner Node :=
  if inner.tunnels.tunnelExists peerId dstId then
    let inner := inner.sendToPeer peerId (notice dstId .disconnected)
    let inner := inner.sendToPeer dstId (notice peerId .disconnected)
    { inner with tunnels := inner.tunnels.remove peerId dstId }
  else
    inner.sendToPeer peerId (errorResponse
      ("no tunnel exists between you and \"" ++ UuidText.display dstId ++ "\""))

def applyReadyForHandshake (inner : CoordinatorInner Node) (peerId : Uuid) (rfhIds : List Uuid) :
    CoordinatorInner Node :=
  rfhIds.foldl (fun inner dstId =>
      if !inner.tunnels.tunnelExists peerId dstId then
        inner.sendToPeer peerId (errorResponse
          ("ready for handshake error: you do not share a tunnel with \""
            ++ UuidText.display dstId ++ "\""))
      else
        inner.sendToPeer dstId (notice peerId .readyForHandshake))
    inner

def processRequest (inner : CoordinatorInner Node) (peerId : Uuid)
    (request : CoordinateRequest Node) :
    Except CoordinationError Unit × CoordinatorInner Node :=
  if !inner.containsPeer peerId then
    (.error .unknownPeer, inner)
  else
    let inner := ifSome request.updateSelf inner fun node => applyUpdateSelf inner peerId node
    let inner := ifSome request.addTunnel inner fun dstId => applyAddTunnel inner peerId dstId
    let inner := ifSome request.removeTunnel inner fun dstId =>
      applyRemoveTunnel inner peerId dstId
    if request.disconnect = some true then
      (.ok (), depart inner peerId .disconnected)
    else
      (.ok (), ifSome request.readyForHandshake inner fun rfhIds =>
        applyReadyForHandshake inner peerId rfhIds)

end

def closeCoordination (inner : CoordinatorInner Node) (peerId sessionId : Uuid) :
    CoordinatorInner Node :=
  match inner.peers.lookup peerId with
  | some peer => if peer.sessionId ≠ sessionId then inner else depart inner peerId .lost
  | none => inner

/-! ## Multi-agent clients -/

structure MultiAgentConn where
  clientId : Uuid
  sessionId : Uuid

def serveMultiAgentClient [UuidText] (inner : CoordinatorInner Node) (id : Uuid)
    (connectedAt : Int) (sessionId : Uuid) : MultiAgentConn × CoordinatorInner Node :=
  ({ clientId := id, sessionId },
    coordinate inner
      { id, name := "multi-agent-" ++ UuidText.display id, kind := .client, connectedAt } sessionId)

namespace MultiAgentConn

def subscribe (conn : MultiAgentConn) (inner : CoordinatorInner Node) (agentId : Uuid) :
    CoordinatorInner Node :=
  let inner :=
    { inner with subscriptions := SetMap.add inner.subscriptions conn.clientId agentId }
  inner.sendNodeOf agentId conn.clientId

def unsubscribe (conn : MultiAgentConn) (inner : CoordinatorInner Node) (agentId : Uuid) :
    CoordinatorInner Node :=
  { inner with subscriptions := SetMap.discard inner.subscriptions conn.clientId agentId }

def updateSelf [UuidText] (conn : MultiAgentConn) (inner : CoordinatorInner Node) (node : Node) :
    CoordinatorInner Node :=
  (processRequest inner conn.clientId { updateSelf := some node }).2

def close (conn : MultiAgentConn) (inner : CoordinatorInner Node) : CoordinatorInner Node :=
  closeCoordination inner conn.clientId conn.sessionId

end MultiAgentConn

/-! ## Runs -/

/-- One call on the coordinator. The mutex makes them take place one after the other. -/
inductive Call (Node : Type) where
  | addPeer (info : PeerInfo) (sessionId : Uuid)
  | removePeer (peerId : Uuid)
  | coordinate (info : PeerInfo) (sessionId : Uuid)
  | processRequest (peerId : Uuid) (request : CoordinateRequest Node)
  | closeCoordination (peerId sessionId : Uuid)
  | subscribe (conn : MultiAgentConn) (agentId : Uuid)
  | unsubscribe (conn : MultiAgentConn) (agentId : Uuid)

def Call.apply [UuidText] (inner : CoordinatorInner Node) : Call Node → CoordinatorInner Node
  | addPeer info sessionId => Tailnet.addPeer inner info sessionId
  | removePeer peerId => Tailnet.removePeer inner peerId
  | coordinate info sessionId => Tailnet.coordinate inner info sessionId
  | processRequest peerId request => (Tailnet.processRequest inner peerId request).2
  | closeCoordination peerId sessionId => Tailnet.closeCoordination inner peerId sessionId
  | subscribe conn agentId => conn.subscribe inner agentId
  | unsubscribe conn agentId => conn.unsubscribe inner agentId

def runCalls [UuidText] (calls : List (Call Node)) : CoordinatorInner Node :=
  calls.foldl Call.apply .new

end Coderd.Tailnet
