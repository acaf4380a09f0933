import Coderd.Derp.Frame
import Coderd.Foundation.Channel
import Coderd.Foundation.HashMap

namespace Coderd.Derp
open Coderd.Foundation

/-- Where a channel was made: in `accept_client`, in `watch_conns`, or for a mesh link. A
client, a watcher and a forwarder hold the number of a channel of their own kind. -/
inductive ChannelId where
  | client (n : Nat)
  | watcher (n : Nat)
  | mesh (n : Nat)
  deriving DecidableEq, Repr

def clientChannelCapacity : Nat := 64

structure DerpClient where
  key : NodeKey
  sender : Nat
  preferred : Bool
  deriving DecidableEq

structure ConnWatcher where
  sender : Nat
  deriving DecidableEq

structure DerpServer where
  serverKey : NodeKey
  clients : HashMap NodeKey DerpClient
  watchers : HashMap NodeKey ConnWatcher
  meshForwarders : HashMap NodeKey Nat

namespace DerpServer

def new (serverKey : NodeKey) : DerpServer := ⟨serverKey, ∅, ∅, ∅⟩

def hasClient (s : DerpServer) (key : NodeKey) : Bool := (s.clients.lookup key).isSome

/-- The clients lock of `send_packet`: the frame and the channel of local delivery. -/
def localRoute (s : DerpServer) (src dst : NodeKey) (data : List UInt8) :
    Option (ChannelId × Frame) :=
  (s.clients.lookup dst).map fun client => (.client client.sender, .recvPacket src data)

/-- The forwarders lock of `send_packet`. The frame for the mesh has no room for `src`. -/
def meshRoute (s : DerpServer) (dst : NodeKey) (data : List UInt8) :
    Option (ChannelId × Frame) :=
  (s.meshForwarders.lookup dst).map fun forwarder => (.mesh forwarder, .sendPacket dst data)

/-- Local delivery is tried first, then the mesh. -/
def route (s : DerpServer) (src dst : NodeKey) (data : List UInt8) : Option (ChannelId × Frame) :=
  match s.localRoute src dst data with
  | some target => some target
  | none => s.meshRoute dst data

def addPacketForwarder (s : DerpServer) (dst : NodeKey) (sender : Nat) : DerpServer :=
  { s with meshForwarders := s.meshForwarders.insert dst sender }

def removePacketForwarder (s : DerpServer) (dst : NodeKey) : DerpServer :=
  { s with meshForwarders := s.meshForwarders.erase dst }

def notePreferred (s : DerpServer) (key : NodeKey) (preferred : Bool) : DerpServer :=
  match s.clients.lookup key with
  | some client => { s with clients := s.clients.insert key { client with preferred } }
  | none => s

/-- The channel number registered for a key. -/
def senderOf (s : DerpServer) (key : NodeKey) : Option Nat :=
  (s.clients.lookup key).map DerpClient.sender

theorem hasClient_iff (s : DerpServer) (key : NodeKey) :
    s.hasClient key = true ↔ ∃ n, s.senderOf key = some n := by
  rw [hasClient, senderOf]
  cases s.clients.lookup key <;> simp

@[simp] theorem senderOf_notePreferred (s : DerpServer) (key k : NodeKey) (preferred : Bool) :
    (s.notePreferred key preferred).senderOf k = s.senderOf k := by
  simp only [notePreferred, senderOf]
  cases hslot : s.clients.lookup key with
  | none => rfl
  | some client =>
    dsimp only
    rw [HashMap.lookup_insert_ite]
    by_cases hk : k = key
    · subst hk
      rw [if_pos rfl, hslot]
      rfl
    · rw [if_neg hk]

theorem localRoute_eq_some {s : DerpServer} {src dst : NodeKey} {data : List UInt8}
    {c : ChannelId} {frame : Frame} (h : s.localRoute src dst data = some (c, frame)) :
    frame = .recvPacket src data ∧ ∃ n, s.senderOf dst = some n ∧ c = .client n := by
  rw [localRoute, Option.map_eq_some_iff] at h
  obtain ⟨client, hlookup, heq⟩ := h
  rw [Prod.mk.injEq] at heq
  exact ⟨heq.2.symm, client.sender, by rw [senderOf, hlookup]; rfl, heq.1.symm⟩

theorem localRoute_eq_none {s : DerpServer} {src dst : NodeKey} {data : List UInt8}
    (h : s.senderOf dst = none) : s.localRoute src dst data = none := by
  rw [senderOf, Option.map_eq_none_iff] at h
  rw [localRoute, h]
  rfl

theorem meshRoute_eq_some {s : DerpServer} {dst : NodeKey} {data : List UInt8}
    {c : ChannelId} {frame : Frame} (h : s.meshRoute dst data = some (c, frame)) :
    frame = .sendPacket dst data ∧ ∃ n, s.meshForwarders.lookup dst = some n ∧ c = .mesh n := by
  rw [meshRoute, Option.map_eq_some_iff] at h
  obtain ⟨forwarder, hlookup, heq⟩ := h
  rw [Prod.mk.injEq] at heq
  exact ⟨heq.2.symm, forwarder, hlookup, heq.1.symm⟩

end DerpServer

/-- A server with the channels of its process. `nextChannel` numbers the next one. -/
structure Relay where
  server : DerpServer
  channels : Channels ChannelId Frame
  nextChannel : Nat

namespace Relay

def new (serverKey : NodeKey) : Relay := ⟨.new serverKey, fun _ => Channel.dead, 0⟩

/-! Each definition up to `sendRawFrame` runs under one lock of the server. -/

/-- The first half of `accept_client`, with the number of the new client's channel. -/
def insertClient (r : Relay) (key : NodeKey) : Nat × Relay :=
  (r.nextChannel,
    { server := { r.server with
        clients := r.server.clients.insert key ⟨key, r.nextChannel, false⟩ }
      channels := r.channels.create (.client r.nextChannel) clientChannelCapacity
      nextChannel := r.nextChannel + 1 })

/-- Best-effort delivery of a frame to every watcher. -/
def notifyWatchers (r : Relay) (frame : Frame) : Relay :=
  { r with
    channels := r.channels.sendAll (r.server.watchers.values.map (.watcher ·.sender)) frame }

def dropClient (r : Relay) (key : NodeKey) : Relay :=
  { r with server := { r.server with clients := r.server.clients.erase key } }

def dropWatcher (r : Relay) (key : NodeKey) : Relay :=
  { r with server := { r.server with watchers := r.server.watchers.erase key } }

/-- The first half of `watch_conns`: the new channel gets the current client list. -/
def snapshot (r : Relay) : Nat × Relay :=
  (r.nextChannel,
    { r with
      channels := (r.channels.create (.watcher r.nextChannel) clientChannelCapacity).sendList
        (.watcher r.nextChannel) (r.server.clients.keys.map Frame.peerPresent)
      nextChannel := r.nextChannel + 1 })

/-- The second half of `watch_conns`. -/
def registerWatcher (r : Relay) (key : NodeKey) (sender : Nat) : Relay :=
  { r with server := { r.server with watchers := r.server.watchers.insert key ⟨sender⟩ } }

/-- Offer a routed frame to its channel; `none` is no route. -/
def deliver (r : Relay) : Option (ChannelId × Frame) → Bool × Relay
  | some (c, frame) =>
    let (queued, channels) := r.channels.trySend c frame
    (queued, { r with channels })
  | none => (false, r)

def sendRawFrame (r : Relay) (dst : NodeKey) (frame : Frame) : Bool × Relay :=
  r.deliver ((r.server.clients.lookup dst).map fun client => (.client client.sender, frame))

/-! The methods as wholes. -/

def acceptClient (r : Relay) (key : NodeKey) : Nat × Relay :=
  let (rx, r) := r.insertClient key
  (rx, r.notifyWatchers (.peerPresent key))

def removeClient (r : Relay) (key : NodeKey) : Relay :=
  ((r.dropClient key).dropWatcher key).notifyWatchers (.peerGone key)

def sendPacket (r : Relay) (src dst : NodeKey) (data : List UInt8) : Bool × Relay :=
  r.deliver (r.server.route src dst data)

def watchConns (r : Relay) (key : NodeKey) : Nat × Relay :=
  let (rx, r) := r.snapshot
  (rx, r.registerWatcher key rx)

theorem senderOf_insertClient (r : Relay) (key k : NodeKey) :
    (r.insertClient key).2.server.senderOf k =
      if k = key then some r.nextChannel else r.server.senderOf k := by
  simp only [insertClient, DerpServer.senderOf]
  rw [HashMap.lookup_insert_ite]
  split_ifs <;> rfl

theorem senderOf_dropClient (r : Relay) (key k : NodeKey) :
    (r.dropClient key).server.senderOf k = if k = key then none else r.server.senderOf k := by
  simp only [dropClient, DerpServer.senderOf]
  rw [HashMap.lookup_erase_ite]
  split_ifs <;> rfl

@[simp] theorem deliver_server (r : Relay) (route : Option (ChannelId × Frame)) :
    (r.deliver route).2.server = r.server := by
  cases route <;> rfl

@[simp] theorem deliver_nextChannel (r : Relay) (route : Option (ChannelId × Frame)) :
    (r.deliver route).2.nextChannel = r.nextChannel := by
  cases route <;> rfl

theorem deliver_other {r : Relay} {route : Option (ChannelId × Frame)} {c : ChannelId}
    (h : ∀ d frame, route = some (d, frame) → c ≠ d) :
    (r.deliver route).2.channels c = r.channels c := by
  cases route with
  | none => rfl
  | some target => exact Channels.trySend_other _ (h target.1 target.2 rfl)

@[simp] theorem sendRawFrame_server (r : Relay) (dst : NodeKey) (frame : Frame) :
    (r.sendRawFrame dst frame).2.server = r.server := deliver_server _ _

@[simp] theorem sendRawFrame_nextChannel (r : Relay) (dst : NodeKey) (frame : Frame) :
    (r.sendRawFrame dst frame).2.nextChannel = r.nextChannel := deliver_nextChannel _ _

theorem sendRawFrame_other {r : Relay} {dst : NodeKey} {frame : Frame} {n : Nat}
    (h : r.server.senderOf dst ≠ some n) :
    (r.sendRawFrame dst frame).2.channels (.client n) = r.channels (.client n) := by
  apply deliver_other
  intro d raw hroute
  rw [Option.map_eq_some_iff] at hroute
  obtain ⟨client, hlookup, heq⟩ := hroute
  rw [Prod.mk.injEq] at heq
  rintro rfl
  apply h
  rw [DerpServer.senderOf, hlookup]
  simpa using heq.1

/-- Watcher channels are the only ones a notification goes to. -/
theorem notifyWatchers_client (r : Relay) (frame : Frame) (n : Nat) :
    (r.notifyWatchers frame).channels (.client n) = r.channels (.client n) := by
  apply Channels.sendAll_other
  simp

/-- A watcher with room is told. -/
theorem notifyWatchers_watcher {r : Relay} {key : NodeKey} {watcher : ConnWatcher}
    (h : r.server.watchers.lookup key = some watcher) (frame : Frame)
    (hroom : (r.channels (.watcher watcher.sender)).hasRoom = true) :
    (r.channels (.watcher watcher.sender)).sent ++ [frame] <+:
      ((r.notifyWatchers frame).channels (.watcher watcher.sender)).sent :=
  Channels.sent_sendAll_of_hasRoom
    (List.mem_map.mpr ⟨watcher, HashMap.mem_values_of_lookup h, rfl⟩) hroom

/-- A packet for a key that is not registered here goes to no client channel. -/
theorem sendPacket_unregistered {r : Relay} {src dst : NodeKey} {data : List UInt8}
    (h : r.server.senderOf dst = none) (n : Nat) :
    (r.sendPacket src dst data).2.channels (.client n) = r.channels (.client n) := by
  rw [sendPacket, DerpServer.route, DerpServer.localRoute_eq_none h]
  apply deliver_other
  rintro d frame hroute rfl
  obtain ⟨-, m, -, hc⟩ := DerpServer.meshRoute_eq_some hroute
  cases hc

end Relay

end Coderd.Derp
