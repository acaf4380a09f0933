import Coderd.Derp.Server

namespace Coderd.Derp
open Coderd.Foundation

/-- `receive_client_info`: the key a new session goes by. -/
def receiveClientInfo (bytes : List UInt8) : Option NodeKey :=
  match parseFrame bytes with
  | .ok (frame, _) =>
    if frame.frameType = .clientInfo ∧ nodeKeyLen ≤ frame.payload.length then
      NodeKey.fromSlice (frame.payload.take nodeKeyLen)
    else none
  | .error _ => none

theorem receiveClientInfo_of_parse {bytes : List UInt8} {frame : Frame} {used : Nat}
    (h : parseFrame bytes = .ok (frame, used)) (htype : frame.frameType = .clientInfo)
    (hlen : frame.payload.length = nodeKeyLen) :
    receiveClientInfo bytes = NodeKey.fromSlice frame.payload := by
  rw [receiveClientInfo, h]
  dsimp only
  rw [if_pos ⟨htype, by rw [hlen]⟩, ← hlen, List.take_length]

theorem receiveClientInfo_clientInfo (key : NodeKey) :
    receiveClientInfo (Frame.clientInfo key).toBytes = some key := by
  have hlen : (Frame.clientInfo key).payload.length = nodeKeyLen := key.length_eq
  have hsize : (Frame.clientInfo key).payload.length ≤ maxFrameSize := by
    rw [hlen]
    simp only [nodeKeyLen, maxFrameSize]
    omega
  have hparse := parseFrame_toBytes (Frame.clientInfo key) [] hsize
  rw [List.append_nil] at hparse
  rw [receiveClientInfo_of_parse hparse rfl hlen]
  exact NodeKey.fromSlice_bytes key

/-- The key of the session that a mesh link of this server has at its far end, where it
introduces itself with the server's own key. -/
def linkKey (server : DerpServer) : Option NodeKey :=
  receiveClientInfo (Frame.clientInfo server.serverKey).toBytes

theorem linkKey_eq (server : DerpServer) : linkKey server = some server.serverKey :=
  receiveClientInfo_clientInfo server.serverKey

/-- The history of a packet: the client that sent it, what it sent, and the keys of the
servers that passed it on over the mesh, the latest first. -/
structure Stamp where
  sender : NodeKey
  data : List UInt8
  via : List NodeKey
  deriving DecidableEq

/-- Servers joined by mesh links. Packets are queued together with their history; frames that
carry no packet are left out. `peer i l` is the server at the far end of link `l` of `i`. -/
structure Network (ι : Type) where
  servers : ι → DerpServer
  channels : ι → Channels ChannelId (Frame × Stamp)
  peer : ι → Nat → Option ι

inductive NetworkEvent (ι : Type) where
  /-- A client session of server `i` reads one binary message. -/
  | send (i : ι) (key : NodeKey) (bytes : List UInt8)
  /-- The writer of link `l` of server `i` puts its next frame on the wire, and the link's
  session at the far end handles it. -/
  | carry (i : ι) (l : Nat)
  /-- Clients and forwarders of server `i` change in any way. -/
  | configure (i : ι) (clients : HashMap NodeKey DerpClient) (forwarders : HashMap NodeKey Nat)
  | dial (i : ι) (l : Nat) (j : ι)
  /-- A client's writer takes a frame off its channel. -/
  | receive (i : ι) (c : ChannelId)

namespace Network

variable {ι : Type} [DecidableEq ι]

/-- Servers with the given keys and nothing connected. -/
def new (keys : ι → NodeKey) : Network ι :=
  ⟨fun i => .new (keys i), fun _ _ => Channel.new clientChannelCapacity, fun _ _ => none⟩

/-- `send_packet` at server `i`, with the packet's history. -/
def sendPacket (n : Network ι) (i : ι) (src dst : NodeKey) (data : List UInt8) (stamp : Stamp) :
    Network ι :=
  match (n.servers i).route src dst data with
  | some (c, frame) =>
    { n with
      channels := Function.update n.channels i ((n.channels i).trySend c (frame, stamp)).2 }
  | none => n

/-- The session of `src` at server `i` reads a message. `stamp` gives the packet's history
from its payload. -/
def handleMessage (n : Network ι) (i : ι) (src : NodeKey) (bytes : List UInt8)
    (stamp : List UInt8 → Stamp) : Network ι :=
  match parseFrame bytes with
  | .ok (frame, _) =>
    match frame.frameType with
    | .sendPacket =>
      match parseSendPacket frame.payload with
      | .ok (dst, data) => n.sendPacket i src dst data (stamp data)
      | .error _ => n
    | _ => n
  | .error _ => n

/-- The frame of link `l` of server `i` is read at server `j` by the session of `src`. -/
def carried (n : Network ι) (i : ι) (l : Nat) (j : ι) (frame : Frame) (stamp : Stamp)
    (src : NodeKey) : Network ι :=
  let taken := { n with
    channels := Function.update n.channels i ((n.channels i).take (.mesh l)) }
  taken.handleMessage j src frame.toBytes fun _ =>
    { stamp with via := (n.servers i).serverKey :: stamp.via }

def step (n : Network ι) : NetworkEvent ι → Network ι
  | .send i key bytes => n.handleMessage i key bytes fun data => ⟨key, data, []⟩
  | .carry i l =>
    match n.peer i l, (n.channels i (.mesh l)).front, linkKey (n.servers i) with
    | some j, some (frame, stamp), some src => n.carried i l j frame stamp src
    | _, _, _ => n
  | .configure i clients forwarders =>
    { n with
      servers := Function.update n.servers i
        { n.servers i with clients := clients, meshForwarders := forwarders } }
  | .dial i l j =>
    { n with peer := Function.update n.peer i (Function.update (n.peer i) l (some j)) }
  | .receive i c =>
    { n with channels := Function.update n.channels i ((n.channels i).take c) }

/-- Server `i` with its channels, histories forgotten. -/
def relayAt (n : Network ι) (i : ι) (nextChannel : Nat) : Relay :=
  ⟨n.servers i, fun c => (n.channels i c).map Prod.fst, nextChannel⟩

/-- The histories are bookkeeping: without them this is `send_packet` of the server. -/
theorem relayAt_sendPacket (n : Network ι) (i : ι) (src dst : NodeKey) (data : List UInt8)
    (stamp : Stamp) (next : Nat) :
    (n.sendPacket i src dst data stamp).relayAt i next =
      ((n.relayAt i next).sendPacket src dst data).2 := by
  simp only [sendPacket, Relay.sendPacket, relayAt]
  cases (n.servers i).route src dst data with
  | none => rfl
  | some target =>
    obtain ⟨c, frame⟩ := target
    simp only [Relay.deliver, Function.update_self, Relay.mk.injEq, true_and, and_true]
    funext d
    by_cases hd : d = c
    · subst hd
      rw [Channels.trySend_self, Channels.trySend_self]
      exact (congrArg Prod.snd (Channel.map_trySend Prod.fst _ (frame, stamp))).symm
    · rw [Channels.trySend_other _ hd, Channels.trySend_other _ hd]

/-- What a queued packet says of its history: towards a client it names the last server that
passed it on, or the sender if none did; towards the mesh it names nobody. -/
def Truthful : ChannelId → Frame × Stamp → Prop
  | .client _, (frame, stamp) => frame = .recvPacket (stamp.via.headD stamp.sender) stamp.data
  | .mesh _, (frame, stamp) =>
    (∃ dst, frame = .sendPacket dst stamp.data) ∧ frame.payload.length ≤ maxFrameSize
  | .watcher _, _ => False

def Inv (n : Network ι) : Prop :=
  ∀ i c entry, entry ∈ (n.channels i c).sent → Truthful c entry

omit [DecidableEq ι] in
theorem inv_new (keys : ι → NodeKey) : Inv (new keys) := by
  intro i c entry h
  simp [new, Channel.new] at h

theorem Inv.update {n : Network ι} (h : Inv n) (i : ι)
    {cs : Channels ChannelId (Frame × Stamp)}
    (hcs : ∀ c entry, entry ∈ (cs c).sent → Truthful c entry) :
    Inv { n with channels := Function.update n.channels i cs } := by
  intro j c entry hentry
  dsimp only at hentry
  by_cases hj : j = i
  · subst hj
    rw [Function.update_self] at hentry
    exact hcs c entry hentry
  · rw [Function.update_of_ne hj] at hentry
    exact h j c entry hentry

theorem Inv.take {n : Network ι} (h : Inv n) (i : ι) (c : ChannelId) :
    Inv { n with channels := Function.update n.channels i ((n.channels i).take c) } := by
  refine h.update i fun d entry hentry => h i d entry ?_
  rw [Channels.take] at hentry
  by_cases hd : d = c
  · subst hd
    rwa [Function.update_self, Channel.take_sent] at hentry
  · rwa [Function.update_of_ne hd] at hentry

theorem Inv.sendPacket {n : Network ι} (h : Inv n) (i : ι) {src dst : NodeKey}
    {data : List UInt8} {stamp : Stamp} (hdata : stamp.data = data)
    (hsrc : stamp.via.headD stamp.sender = src)
    (hsize : (Frame.sendPacket dst data).payload.length ≤ maxFrameSize) :
    Inv (n.sendPacket i src dst data stamp) := by
  subst hdata hsrc
  simp only [Network.sendPacket]
  split
  · rename_i c frame hroute
    have htruthful : Truthful c (frame, stamp) := by
      rw [DerpServer.route] at hroute
      split at hroute
      · rename_i target hlocal
        rw [Option.some.injEq] at hroute
        subst hroute
        obtain ⟨hframe, m, -, rfl⟩ := DerpServer.localRoute_eq_some hlocal
        exact hframe
      · obtain ⟨rfl, m, -, rfl⟩ := DerpServer.meshRoute_eq_some hroute
        exact ⟨⟨dst, rfl⟩, hsize⟩
    refine h.update i fun d entry hentry => ?_
    by_cases hd : d = c
    · subst hd
      rw [Channels.trySend_self] at hentry
      rcases Channel.mem_sent_trySend hentry with hold | rfl
      · exact h i d entry hold
      · exact htruthful
    · rw [Channels.trySend_other _ hd] at hentry
      exact h i d entry hentry
  · exact h

theorem Inv.handleMessage {n : Network ι} (h : Inv n) (i : ι) {src : NodeKey}
    {bytes : List UInt8} {stamp : List UInt8 → Stamp}
    (hstamp : ∀ frame used dst data, parseFrame bytes = .ok (frame, used) →
      parseSendPacket frame.payload = .ok (dst, data) →
      (stamp data).data = data ∧ (stamp data).via.headD (stamp data).sender = src) :
    Inv (n.handleMessage i src bytes stamp) := by
  simp only [Network.handleMessage]
  split
  · rename_i frame used hframe
    split
    · split
      · rename_i dst data hpacket
        obtain ⟨hdata, hsrc⟩ := hstamp frame used dst data hframe hpacket
        refine h.sendPacket i hdata hsrc ?_
        show (dst.bytes ++ data).length ≤ maxFrameSize
        rw [← parseKeyed_eq_ok hpacket]
        exact parseFrame_size hframe
      · exact h
    · exact h
  · exact h

theorem Inv.carried {n : Network ι} (h : Inv n) (i : ι) (l : Nat) (j : ι) {frame : Frame}
    {stamp : Stamp} (hqueued : Truthful (.mesh l) (frame, stamp)) {src : NodeKey}
    (hsrc : (n.servers i).serverKey = src) : Inv (n.carried i l j frame stamp src) := by
  obtain ⟨⟨dst, hframe⟩, hsize⟩ := hqueued
  refine (h.take i (.mesh l)).handleMessage j fun frame' used dst' data hparse hpacket => ?_
  -- the far end reads back the frame that was queued, with the data it had
  have hback := parseFrame_toBytes frame [] hsize
  rw [List.append_nil, hparse, Except.ok.injEq, Prod.mk.injEq] at hback
  have hpayload : frame'.payload = dst.bytes ++ stamp.data := by
    rw [hback.1, hframe]
    rfl
  rw [parseSendPacket, hpayload, parseKeyed_append, Except.ok.injEq, Prod.mk.injEq] at hpacket
  exact ⟨hpacket.2, hsrc⟩

theorem Inv.step {n : Network ι} (h : Inv n) (e : NetworkEvent ι) : Inv (n.step e) := by
  cases e with
  | send i key bytes => exact h.handleMessage i fun _ _ _ data _ _ => ⟨rfl, rfl⟩
  | carry i l =>
    simp only [Network.step]
    split
    · rename_i j frame stamp src hpeer hfront hsrc
      rw [linkKey_eq, Option.some.injEq] at hsrc
      exact h.carried i l j (h i (.mesh l) _ (Channel.mem_sent_of_front hfront)) hsrc
    · exact h
  | configure i clients forwarders => exact h
  | dial i l j => exact h
  | receive i c => exact h.take i c

theorem Inv.run {n : Network ι} (h : Inv n) (events : List (NetworkEvent ι)) :
    Inv (events.foldl Network.step n) := by
  induction events generalizing n with
  | nil => exact h
  | cons e rest ih => exact ih (h.step e)

/-- In every run of every network, a packet queued for a client is a `RecvPacket` with the
data its sender sent. It names its sender exactly when no server passed it on over the mesh,
or the last one to do so has the sender's own key. -/
theorem recvPacket_names_sender_iff (keys : ι → NodeKey) (events : List (NetworkEvent ι)) (i : ι)
    (c : Nat) (frame : Frame) (stamp : Stamp)
    (h : (frame, stamp) ∈ ((events.foldl step (new keys)).channels i (.client c)).sent) :
    frame.frameType = .recvPacket ∧
      (∃ src, parseRecvPacket frame.payload = .ok (src, stamp.data)) ∧
      (parseRecvPacket frame.payload = .ok (stamp.sender, stamp.data) ↔
        ∀ server ∈ stamp.via.head?, server = stamp.sender) := by
  have hframe : frame = .recvPacket (stamp.via.headD stamp.sender) stamp.data :=
    (inv_new keys).run events i (.client c) (frame, stamp) h
  have hparse : parseRecvPacket frame.payload =
      .ok (stamp.via.headD stamp.sender, stamp.data) := by
    rw [hframe]
    exact parseKeyed_append _ _ _ _
  refine ⟨by rw [hframe]; rfl, ⟨_, hparse⟩, ?_⟩
  rw [hparse, Except.ok.injEq, Prod.mk.injEq, and_iff_left rfl]
  cases stamp.via with
  | nil => simp
  | cons server rest => simp

/-- Servers 0 and 1 with a link from 0 to 1, and one client at server 1. -/
def joined (key : NodeKey) : List (NetworkEvent Nat) :=
  [.dial 0 0 1, .configure 0 ∅ ((∅ : HashMap NodeKey Nat).insert key 0),
    .configure 1 ((∅ : HashMap NodeKey DerpClient).insert key ⟨key, 0, false⟩) ∅]

/-- A packet from a client of the same server. -/
theorem recvPacket_names_sender_local :
    parseRecvPacket (Frame.recvPacket (.filled 2) [7]).payload = .ok (.filled 2, [7]) :=
  (recvPacket_names_sender_iff (fun i => .filled (10 + UInt8.ofNat i))
    (joined (.filled 3) ++ [.send 1 (.filled 2) (Frame.sendPacket (.filled 3) [7]).toBytes]) 1 0
    (.recvPacket (.filled 2) [7]) ⟨.filled 2, [7], []⟩ (by decide)).2.2.mpr (by decide)

/-- A packet from a client of server 0 reaches the client of server 1 under the key of
server 0. -/
theorem recvPacket_names_forwarding_server :
    ¬ ∀ (keys : Nat → NodeKey) (events : List (NetworkEvent Nat)) (i c : Nat) (frame : Frame)
      (stamp : Stamp),
      (frame, stamp) ∈ ((events.foldl step (new keys)).channels i (.client c)).sent →
        parseRecvPacket frame.payload = .ok (stamp.sender, stamp.data) := by
  intro h
  have hnamed := h (fun i => .filled (10 + UInt8.ofNat i))
    (joined (.filled 3) ++
      [.send 0 (.filled 2) (Frame.sendPacket (.filled 3) [7]).toBytes, .carry 0 0]) 1 0
    (.recvPacket (.filled 10) [7]) ⟨.filled 2, [7], [.filled 10]⟩ (by decide)
  exact absurd hnamed (by decide)

end Network

end Coderd.Derp
