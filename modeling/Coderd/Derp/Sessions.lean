import Coderd.Derp.Server

namespace Coderd.Derp
open Coderd.Foundation

/-- Where a relay session is. `rx` numbers the channel its `accept_client` returned. A phase
other than `running` and `closed` waits for the next lock of the method it is inside of. -/
inductive Session where
  /-- In `accept_client`, registered and about to notify the watchers. -/
  | announcing (key : NodeKey) (rx : Nat)
  | running (key : NodeKey) (rx : Nat)
  /-- In `send_packet`, with no local client under `dst`. -/
  | forwarding (key : NodeKey) (rx : Nat) (dst : NodeKey) (data : List UInt8)
  /-- In `watch_conns`, after the snapshot. -/
  | watching (key : NodeKey) (rx : Nat) (sender : Nat)
  /-- The three locks of `remove_client`. -/
  | closing (key : NodeKey) (rx : Nat)
  | unwatching (key : NodeKey) (rx : Nat)
  | departing (key : NodeKey) (rx : Nat)
  | closed (key : NodeKey) (rx : Nat)
  deriving DecidableEq

/-- The key and the channel of a session that has not begun its cleanup. -/
def Session.connected : Session → Option (NodeKey × Nat)
  | announcing key rx | running key rx | forwarding key rx _ _ | watching key rx _ =>
    some (key, rx)
  | closing _ _ | unwatching _ _ | departing _ _ | closed _ _ => none

/-- One server, its sessions by number, and the tasks that pass on the notifications of a
watcher channel to the client that asked for them. -/
structure World where
  relay : Relay
  sessions : HashMap Nat Session
  pumps : HashMap Nat NodeKey

inductive Event where
  /-- A new session has read its `ClientInfo` and is registered. -/
  | accept (i : Nat) (key : NodeKey)
  /-- The session's socket delivers one binary message. -/
  | message (i : Nat) (bytes : List UInt8)
  /-- The method the session is inside of takes its next lock. -/
  | resume (i : Nat)
  | keepAlive (i : Nat)
  /-- The read loop ends and the writer task is aborted. -/
  | hangup (i : Nat)
  /-- The writer task takes a frame off the channel. -/
  | write (rx : Nat)
  | pump (sender : Nat)
  | addForwarder (dst : NodeKey) (sender : Nat)
  | removeForwarder (dst : NodeKey)
  deriving DecidableEq

namespace World

def new (serverKey : NodeKey) : World := ⟨.new serverKey, ∅, ∅⟩

def setSession (w : World) (i : Nat) (session : Session) : World :=
  { w with sessions := w.sessions.insert i session }

/-- `handle_client_frame` up to the first lock it releases. -/
def handleClientFrame (w : World) (i : Nat) (key : NodeKey) (rx : Nat) (frame : Frame) : World :=
  match frame.frameType with
  | .sendPacket =>
    match parseSendPacket frame.payload with
    | .ok (dst, data) =>
      match w.relay.server.localRoute key dst data with
      | some route => { w with relay := (w.relay.deliver (some route)).2 }
      | none => w.setSession i (.forwarding key rx dst data)
    | .error _ => w
  | .notePreferred =>
    let preferred := frame.payload.headD 0 ≠ 0
    { w with relay := { w.relay with server := w.relay.server.notePreferred key preferred } }
  | .watchConns =>
    { w with relay := w.relay.snapshot.2 }.setSession i (.watching key rx w.relay.snapshot.1)
  | .ping =>
    if frame.payload.length = 8 then
      { w with relay := (w.relay.sendRawFrame key (.pong frame.payload)).2 }
    else w
  | _ => w

/-- The next lock of the method session `i` is inside of. -/
def resume (w : World) (i : Nat) : Session → World
  | .announcing key rx =>
    { w with relay := w.relay.notifyWatchers (.peerPresent key) }.setSession i (.running key rx)
  | .forwarding key rx dst data =>
    { w with relay := (w.relay.deliver (w.relay.server.meshRoute dst data)).2 }.setSession i
      (.running key rx)
  | .watching key rx sender =>
    { w with
      relay := w.relay.registerWatcher key sender
      pumps := w.pumps.insert sender key }.setSession i (.running key rx)
  | .closing key rx =>
    { w with relay := w.relay.dropClient key }.setSession i (.unwatching key rx)
  | .unwatching key rx =>
    { w with relay := w.relay.dropWatcher key }.setSession i (.departing key rx)
  | .departing key rx =>
    { w with relay := w.relay.notifyWatchers (.peerGone key) }.setSession i (.closed key rx)
  | .running _ _ | .closed _ _ => w

/-- A notification goes on to the client's channel; a refusal ends the task and drops the
watcher's receiver. -/
def pump (w : World) (sender : Nat) (key : NodeKey) (frame : Frame) : World :=
  let taken := { w.relay with channels := w.relay.channels.take (.watcher sender) }
  let (queued, relay) := taken.sendRawFrame key frame
  if queued then { w with relay }
  else
    { w with
      relay := { relay with channels := relay.channels.close (.watcher sender) }
      pumps := w.pumps.erase sender }

/-- An event that its session or task is not ready for changes nothing. -/
def step (w : World) : Event → World
  | .accept i key =>
    match w.sessions.lookup i with
    | some _ => w
    | none =>
      { w with relay := (w.relay.insertClient key).2 }.setSession i
        (.announcing key (w.relay.insertClient key).1)
  | .message i bytes =>
    match w.sessions.lookup i, parseFrame bytes with
    | some (.running key rx), .ok (frame, _) => w.handleClientFrame i key rx frame
    | _, _ => w
  | .resume i =>
    match w.sessions.lookup i with
    | some session => w.resume i session
    | none => w
  | .keepAlive i =>
    match (w.sessions.lookup i).bind Session.connected with
    | some (key, _) =>
      if w.relay.server.hasClient key then
        { w with relay := (w.relay.sendRawFrame key .keepAlive).2 }
      else w
    | none => w
  | .hangup i =>
    match w.sessions.lookup i with
    | some (.running key rx) =>
      { w with relay := { w.relay with channels := w.relay.channels.close (.client rx) } }
        |>.setSession i (.closing key rx)
    | _ => w
  | .write rx => { w with relay := { w.relay with channels := w.relay.channels.take (.client rx) } }
  | .pump sender =>
    match w.pumps.lookup sender, (w.relay.channels (.watcher sender)).front with
    | some key, some frame => w.pump sender key frame
    | _, _ => w
  | .addForwarder dst sender =>
    { w with relay := { w.relay with server := w.relay.server.addPacketForwarder dst sender } }
  | .removeForwarder dst =>
    { w with relay := { w.relay with server := w.relay.server.removePacketForwarder dst } }

end World

/-- Nothing happens to the registrations, and a client channel that is registered under no
key gets no frame. -/
structure Keeps (r r' : Relay) : Prop where
  next : r.nextChannel ≤ r'.nextChannel
  senderOf : ∀ k, r'.server.senderOf k = r.server.senderOf k
  sent : ∀ n, (∀ k, r.server.senderOf k ≠ some n) →
    (r'.channels (.client n)).sent = (r.channels (.client n)).sent

namespace Keeps

theorem refl (r : Relay) : Keeps r r := ⟨le_rfl, fun _ => rfl, fun _ _ => rfl⟩

theorem trans {r r' r'' : Relay} (h : Keeps r r') (h' : Keeps r' r'') : Keeps r r'' where
  next := Nat.le_trans h.next h'.next
  senderOf k := (h'.senderOf k).trans (h.senderOf k)
  sent n hn := (h'.sent n fun k => by rw [h.senderOf k]; exact hn k).trans (h.sent n hn)

theorem deliverLocal {r : Relay} {src dst : NodeKey} {data : List UInt8}
    {route : ChannelId × Frame} (h : r.server.localRoute src dst data = some route) :
    Keeps r (r.deliver (some route)).2 where
  next := by rw [Relay.deliver_nextChannel]
  senderOf k := by rw [Relay.deliver_server]
  sent n hn := by
    obtain ⟨-, m, hm, hc⟩ := DerpServer.localRoute_eq_some h
    rw [Relay.deliver_other]
    rintro d frame hroute rfl
    obtain rfl : route = (.client n, frame) := by simpa using hroute
    simp only [ChannelId.client.injEq] at hc
    exact hn dst (hc ▸ hm)

theorem deliverMesh (r : Relay) (dst : NodeKey) (data : List UInt8) :
    Keeps r (r.deliver (r.server.meshRoute dst data)).2 where
  next := by rw [Relay.deliver_nextChannel]
  senderOf k := by rw [Relay.deliver_server]
  sent n _ := by
    rw [Relay.deliver_other]
    rintro d frame hroute rfl
    obtain ⟨-, m, -, hc⟩ := DerpServer.meshRoute_eq_some hroute
    cases hc

theorem sendRawFrame (r : Relay) (dst : NodeKey) (frame : Frame) :
    Keeps r (r.sendRawFrame dst frame).2 where
  next := by rw [Relay.sendRawFrame_nextChannel]
  senderOf k := by rw [Relay.sendRawFrame_server]
  sent n hn := by rw [Relay.sendRawFrame_other (hn dst)]

theorem notifyWatchers (r : Relay) (frame : Frame) : Keeps r (r.notifyWatchers frame) where
  next := le_rfl
  senderOf _ := rfl
  sent n _ := by rw [Relay.notifyWatchers_client]

/-- An operation that leaves the clients and the channels alone. -/
theorem ofServer {r : Relay} {s : DerpServer} (h : ∀ k, s.senderOf k = r.server.senderOf k) :
    Keeps r { r with server := s } where
  next := le_rfl
  senderOf := h
  sent _ _ := rfl

/-- An operation on the receiving side of a channel. -/
theorem ofChannel {r : Relay} {c : ChannelId} {ch : Channel Frame}
    (h : ch.sent = (r.channels c).sent) :
    Keeps r { r with channels := Function.update r.channels c ch } where
  next := le_rfl
  senderOf _ := rfl
  sent n _ := by
    by_cases hn : ChannelId.client n = c
    · subst hn
      simpa using h
    · simp [Function.update_of_ne hn]

theorem snapshot (r : Relay) : Keeps r r.snapshot.2 where
  next := by simp [Relay.snapshot]
  senderOf _ := rfl
  sent n _ := by
    simp only [Relay.snapshot]
    rw [Channels.sendList_other _ (by simp), Channels.create_other _ (by simp)]

end Keeps

namespace World

@[simp] theorem setSession_relay (w : World) (i : Nat) (session : Session) :
    (w.setSession i session).relay = w.relay := rfl

theorem setSession_lookup (w : World) (i : Nat) (session : Session) :
    (w.setSession i session).sessions.lookup i = some session := AList.lookup_insert _

/-! A method whose locks are taken with nothing in between is the method as a whole. -/

theorem acceptClient_uninterrupted {w : World} {i : Nat} (h : w.sessions.lookup i = none)
    (key : NodeKey) :
    ((w.step (.accept i key)).step (.resume i)).relay = (w.relay.acceptClient key).2 := by
  simp only [step, h, setSession_lookup]
  rfl

theorem removeClient_uninterrupted {w : World} {i : Nat} {key : NodeKey} {rx : Nat}
    (h : w.sessions.lookup i = some (.closing key rx)) :
    (((w.step (.resume i)).step (.resume i)).step (.resume i)).relay =
      w.relay.removeClient key := by
  simp only [step, h, World.resume, setSession_lookup]
  rfl

theorem sendPacket_uninterrupted {w : World} {i : Nat} {key dst : NodeKey} {rx : Nat}
    {data bytes : List UInt8} {used : Nat} (h : w.sessions.lookup i = some (.running key rx))
    (hbytes : parseFrame bytes = .ok (.sendPacket dst data, used)) :
    ((w.step (.message i bytes)).step (.resume i)).relay =
      (w.relay.sendPacket key dst data).2 := by
  have hpacket : parseSendPacket (Frame.sendPacket dst data).payload = .ok (dst, data) :=
    parseKeyed_append _ _ _ _
  have htype : (Frame.sendPacket dst data).frameType = .sendPacket := rfl
  simp only [step, h, hbytes, handleClientFrame, htype, hpacket, Relay.sendPacket,
    DerpServer.route]
  cases w.relay.server.localRoute key dst data with
  | some route => simp only [h, World.resume]
  | none => simp only [setSession_lookup, World.resume, setSession_relay]

theorem watchConns_uninterrupted {w : World} {i : Nat} {key : NodeKey} {rx : Nat}
    {bytes : List UInt8} {used : Nat} (h : w.sessions.lookup i = some (.running key rx))
    (hbytes : parseFrame bytes = .ok (.watchConns, used)) :
    ((w.step (.message i bytes)).step (.resume i)).relay = (w.relay.watchConns key).2 := by
  have htype : Frame.watchConns.frameType = .watchConns := rfl
  simp only [step, h, hbytes, handleClientFrame, htype, setSession_lookup, World.resume]
  rfl

theorem handleClientFrame_keeps (w : World) (i : Nat) (key : NodeKey) (rx : Nat) (frame : Frame) :
    Keeps w.relay (w.handleClientFrame i key rx frame).relay := by
  unfold handleClientFrame
  split
  · split
    · split
      · rename_i hroute
        exact .deliverLocal hroute
      · exact .refl _
    · exact .refl _
  · exact .ofServer fun k => DerpServer.senderOf_notePreferred _ _ _ _
  · exact .snapshot _
  · split
    · exact .sendRawFrame _ _ _
    · exact .refl _
  · exact .refl _

theorem pump_keeps (w : World) (sender : Nat) (key : NodeKey) (frame : Frame) :
    Keeps w.relay (w.pump sender key frame).relay := by
  have htake : Keeps w.relay { w.relay with channels := w.relay.channels.take (.watcher sender) } :=
    .ofChannel (Channel.take_sent _)
  have hsend := htake.trans (.sendRawFrame _ key frame)
  simp only [pump]
  split
  · exact hsend
  · exact hsend.trans (.ofChannel (Channel.close_sent _))

/-- What one event can do to the registrations: a new client with a fresh channel, the
removal of whichever client has the key of a session in cleanup, or nothing. -/
theorem step_cases (w : World) (e : Event) :
    (∃ i key, e = .accept i key ∧ (w.step e).relay = (w.relay.insertClient key).2) ∨
      (∃ i key rx, e = .resume i ∧ w.sessions.lookup i = some (.closing key rx) ∧
        (w.step e).relay = w.relay.dropClient key) ∨
      Keeps w.relay (w.step e).relay := by
  cases e with
  | accept i key =>
    cases hi : w.sessions.lookup i with
    | some session => exact Or.inr (Or.inr (by simp only [step, hi]; exact .refl _))
    | none => exact Or.inl ⟨i, key, rfl, by simp only [step, hi, setSession_relay]⟩
  | message i bytes =>
    refine Or.inr (Or.inr ?_)
    simp only [step]
    split
    · exact handleClientFrame_keeps _ _ _ _ _
    · exact .refl _
  | resume i =>
    cases hi : w.sessions.lookup i with
    | none => exact Or.inr (Or.inr (by simp only [step, hi]; exact .refl _))
    | some session =>
      simp only [step, hi]
      cases session with
      | closing key rx => exact Or.inr (Or.inl ⟨i, key, rx, rfl, hi, rfl⟩)
      | announcing key rx => exact Or.inr (Or.inr (.notifyWatchers _ _))
      | running key rx => exact Or.inr (Or.inr (.refl _))
      | forwarding key rx dst data => exact Or.inr (Or.inr (.deliverMesh _ _ _))
      | watching key rx sender => exact Or.inr (Or.inr (.ofServer fun _ => rfl))
      | unwatching key rx => exact Or.inr (Or.inr (.ofServer fun _ => rfl))
      | departing key rx => exact Or.inr (Or.inr (.notifyWatchers _ _))
      | closed key rx => exact Or.inr (Or.inr (.refl _))
  | keepAlive i =>
    refine Or.inr (Or.inr ?_)
    simp only [step]
    split
    · split
      · exact .sendRawFrame _ _ _
      · exact .refl _
    · exact .refl _
  | hangup i =>
    refine Or.inr (Or.inr ?_)
    simp only [step]
    split
    · exact .ofChannel (Channel.close_sent _)
    · exact .refl _
  | write rx => exact Or.inr (Or.inr (.ofChannel (Channel.take_sent _)))
  | pump sender =>
    refine Or.inr (Or.inr ?_)
    simp only [step]
    split
    · exact pump_keeps _ _ _ _
    · exact .refl _
  | addForwarder dst sender => exact Or.inr (Or.inr (.ofServer fun _ => rfl))
  | removeForwarder dst => exact Or.inr (Or.inr (.ofServer fun _ => rfl))

/-- The key is registered to nobody and client channel `n` is nobody's. -/
structure Unregistered (r : Relay) (key : NodeKey) (n : Nat) : Prop where
  key : r.server.senderOf key = none
  made : n < r.nextChannel
  channel : ∀ k, r.server.senderOf k ≠ some n

/-- Only a new `accept_client` for the key brings it back, and nothing brings frames to the
channel it lost. -/
theorem Unregistered.step {w : World} {key : NodeKey} {n : Nat}
    (h : Unregistered w.relay key n) {e : Event} (he : ∀ i, e ≠ .accept i key) :
    Unregistered (w.step e).relay key n ∧
      ((w.step e).relay.channels (.client n)).sent = (w.relay.channels (.client n)).sent := by
  rcases w.step_cases e with ⟨i, other, hacc, heq⟩ | ⟨i, other, rx, -, -, heq⟩ | hkeeps
  · have hne : key ≠ other := by
      rintro rfl
      exact he i hacc
    have hfresh : n ≠ w.relay.nextChannel := Nat.ne_of_lt h.made
    rw [heq]
    refine ⟨⟨?_, ?_, ?_⟩, ?_⟩
    · rw [Relay.senderOf_insertClient, if_neg hne]
      exact h.key
    · exact Nat.lt_succ_of_lt h.made
    · intro k hk
      rw [Relay.senderOf_insertClient] at hk
      split_ifs at hk
      · simp only [Option.some.injEq] at hk
        exact hfresh hk.symm
      · exact h.channel k hk
    · simp only [Relay.insertClient]
      rw [Channels.create_other _ (by simpa using hfresh)]
  · rw [heq]
    refine ⟨⟨?_, h.made, ?_⟩, rfl⟩
    · rw [Relay.senderOf_dropClient, h.key]
      split_ifs <;> rfl
    · intro k hk
      rw [Relay.senderOf_dropClient] at hk
      split_ifs at hk
      exact h.channel k hk
  · refine ⟨⟨?_, ?_, ?_⟩, hkeeps.sent n h.channel⟩
    · rw [hkeeps.senderOf]
      exact h.key
    · exact Nat.lt_of_lt_of_le h.made hkeeps.next
    · intro k hk
      rw [hkeeps.senderOf] at hk
      exact h.channel k hk

theorem Unregistered.run {w : World} {key : NodeKey} {n : Nat}
    (h : Unregistered w.relay key n) {more : List Event} (hmore : ∀ i, .accept i key ∉ more) :
    Unregistered (more.foldl World.step w).relay key n ∧
      ((more.foldl World.step w).relay.channels (.client n)).sent =
        (w.relay.channels (.client n)).sent := by
  induction more generalizing w with
  | nil => exact ⟨h, rfl⟩
  | cons e rest ih =>
    have he : ∀ i, e ≠ .accept i key := by
      rintro i rfl
      exact hmore i (by simp)
    obtain ⟨hnext, hsent⟩ := h.step he
    obtain ⟨hend, hrest⟩ := ih hnext fun i hi => hmore i (by simp [hi])
    exact ⟨hend, hrest.trans hsent⟩

/-- The key and channel of session `b` while it has not begun its cleanup. -/
def connectedAs (w : World) (b : Nat) : Option (NodeKey × Nat) :=
  (w.sessions.lookup b).bind Session.connected

theorem connectedAs_setSession (w : World) (i b : Nat) (session : Session) :
    (w.setSession i session).connectedAs b =
      if b = i then session.connected else w.connectedAs b := by
  simp only [connectedAs, setSession]
  rw [HashMap.lookup_insert_ite]
  split_ifs <;> rfl

/-- A session that goes on to another phase of the same kind. -/
theorem connectedAs_setSession_same {w w' : World} {i : Nat} {session : Session}
    (hw : w'.sessions = w.sessions) (h : session.connected = w.connectedAs i) (b : Nat) :
    (w'.setSession i session).connectedAs b = w.connectedAs b := by
  rw [connectedAs_setSession]
  split_ifs with heq
  · rw [h, heq]
  · rw [connectedAs, connectedAs, hw]

theorem handleClientFrame_connectedAs {w : World} {i : Nat} {key : NodeKey} {rx : Nat}
    (hi : w.connectedAs i = some (key, rx)) (frame : Frame) (b : Nat) :
    (w.handleClientFrame i key rx frame).connectedAs b = w.connectedAs b := by
  unfold handleClientFrame
  split
  · split
    · split
      · rfl
      · refine connectedAs_setSession_same rfl ?_ b
        exact hi.symm
    · rfl
  · rfl
  · refine connectedAs_setSession_same rfl ?_ b
    exact hi.symm
  · split <;> rfl
  · rfl

theorem resume_connectedAs {w : World} {i : Nat} {session : Session}
    (hi : session.connected = w.connectedAs i) (b : Nat) :
    (w.resume i session).connectedAs b = w.connectedAs b := by
  cases session
  case running | closed => rfl
  all_goals
    refine connectedAs_setSession_same rfl ?_ b
    exact hi

/-- A session connects by its own `accept_client`, with a channel that is new, and only its
own read loop ends it. -/
theorem connectedAs_step_cases (w : World) (e : Event) (b : Nat) :
    (w.step e).connectedAs b = w.connectedAs b ∨
      (∃ key, e = .accept b key ∧ w.connectedAs b = none ∧
        (w.step e).relay = (w.relay.insertClient key).2 ∧
        (w.step e).connectedAs b = some (key, w.relay.nextChannel)) ∨
      (e = .hangup b ∧ (w.step e).connectedAs b = none) := by
  cases e with
  | accept i key =>
    cases hi : w.sessions.lookup i with
    | some session => exact Or.inl (by simp only [step, hi])
    | none =>
      by_cases hb : b = i
      · subst hb
        refine Or.inr (Or.inl ⟨key, rfl, by simp [connectedAs, hi], ?_, ?_⟩)
        · simp only [step, hi, setSession_relay]
        · simp only [step, hi, connectedAs_setSession, if_pos]
          rfl
      · left
        simp only [step, hi, connectedAs_setSession, if_neg hb]
        rfl
  | message i bytes =>
    left
    simp only [step]
    split
    · rename_i key rx frame used hi hframe
      exact handleClientFrame_connectedAs (by simp [connectedAs, hi, Session.connected]) frame b
    · rfl
  | resume i =>
    left
    cases hi : w.sessions.lookup i with
    | none => simp only [step, hi]
    | some session =>
      simp only [step, hi]
      exact resume_connectedAs (by simp [connectedAs, hi]) b
  | keepAlive i =>
    left
    simp only [step]
    split
    · split <;> rfl
    · rfl
  | hangup i =>
    simp only [step]
    split
    · rename_i key rx hi
      rw [connectedAs_setSession]
      by_cases hb : b = i
      · rw [if_pos hb, hb]
        exact Or.inr (Or.inr ⟨rfl, rfl⟩)
      · rw [if_neg hb]
        exact Or.inl rfl
    · exact Or.inl rfl
  | write rx => exact Or.inl rfl
  | pump sender =>
    left
    simp only [step]
    split
    · simp only [pump]
      split <;> rfl
    · rfl
  | addForwarder dst sender => exact Or.inl rfl
  | removeForwarder dst => exact Or.inl rfl

theorem connectedAs_step {w : World} {b : Nat} {x : NodeKey × Nat} (h : w.connectedAs b = some x)
    {e : Event} (he : e ≠ .hangup b) : (w.step e).connectedAs b = some x := by
  rcases w.connectedAs_step_cases e b with hsame | ⟨key, -, hnone, -, -⟩ | ⟨hhang, -⟩
  · rw [hsame, h]
  · rw [h] at hnone
    cases hnone
  · exact absurd hhang he

theorem connectedAs_run {w : World} {b : Nat} {x : NodeKey × Nat} (h : w.connectedAs b = some x)
    {more : List Event} (hmore : .hangup b ∉ more) :
    (more.foldl step w).connectedAs b = some x := by
  induction more generalizing w with
  | nil => exact h
  | cons e rest ih =>
    rw [List.mem_cons, not_or] at hmore
    exact ih (connectedAs_step h (Ne.symm hmore.1)) hmore.2

/-- The channel of a connected session is registered under the key of that session or under
no key, and no channel is registered or held that was not made yet. -/
structure OwnChannels (w : World) : Prop where
  registered : ∀ k n, w.relay.server.senderOf k = some n → n < w.relay.nextChannel
  held : ∀ b key n, w.connectedAs b = some (key, n) → n < w.relay.nextChannel
  own : ∀ b key n k, w.connectedAs b = some (key, n) →
    w.relay.server.senderOf k = some n → k = key

theorem ownChannels_new (serverKey : NodeKey) : (new serverKey).OwnChannels := by
  constructor
  · intro k n h
    simp [new, Relay.new, DerpServer.new, DerpServer.senderOf] at h
  · intro b key n h
    simp [new, connectedAs] at h
  · intro b key n k h
    simp [new, connectedAs] at h

theorem nextChannel_le_step (w : World) (e : Event) :
    w.relay.nextChannel ≤ (w.step e).relay.nextChannel := by
  rcases w.step_cases e with ⟨i, key, -, heq⟩ | ⟨i, key, rx, -, -, heq⟩ | hkeeps
  · rw [heq]
    exact Nat.le_succ _
  · rw [heq]
    exact le_rfl
  · exact hkeeps.next

/-- A registration is an old one, or it is the new channel of an `accept_client`. -/
theorem senderOf_step_cases {w : World} {e : Event} {k : NodeKey} {n : Nat}
    (h : (w.step e).relay.server.senderOf k = some n) :
    w.relay.server.senderOf k = some n ∨
      n = w.relay.nextChannel ∧ ∃ i, e = .accept i k ∧
        (w.step e).relay = (w.relay.insertClient k).2 := by
  rcases w.step_cases e with ⟨i, key, hacc, heq⟩ | ⟨i, key, rx, -, -, heq⟩ | hkeeps
  · rw [heq, Relay.senderOf_insertClient] at h
    split_ifs at h with hkey
    · subst hkey
      exact Or.inr ⟨(Option.some.inj h).symm, i, hacc, heq⟩
    · exact Or.inl h
  · rw [heq, Relay.senderOf_dropClient] at h
    split_ifs at h
    exact Or.inl h
  · rw [hkeeps.senderOf] at h
    exact Or.inl h

theorem OwnChannels.step {w : World} (h : w.OwnChannels) (e : Event) : (w.step e).OwnChannels := by
  have hnext := w.nextChannel_le_step e
  have hmade : ∀ key, (w.step e).relay = (w.relay.insertClient key).2 →
      w.relay.nextChannel < (w.step e).relay.nextChannel := by
    intro key heq
    rw [heq]
    exact Nat.lt_succ_self _
  constructor
  · intro k n hk
    rcases senderOf_step_cases hk with hold | ⟨rfl, i, -, heq⟩
    · exact Nat.lt_of_lt_of_le (h.registered k n hold) hnext
    · exact hmade k heq
  · intro b key n hb
    rcases w.connectedAs_step_cases e b with hsame | ⟨key', -, -, heq, hnew⟩ | ⟨-, hnone⟩
    · rw [hsame] at hb
      exact Nat.lt_of_lt_of_le (h.held b key n hb) hnext
    · rw [hnew] at hb
      cases hb
      exact hmade _ heq
    · rw [hnone] at hb
      cases hb
  · intro b key n k hb hk
    rcases w.connectedAs_step_cases e b with hsame | ⟨key', hacc, -, heq, hnew⟩ | ⟨-, hnone⟩
    · rw [hsame] at hb
      rcases senderOf_step_cases hk with hold | ⟨rfl, i, -, -⟩
      · exact h.own b key n k hb hold
      · exact absurd (h.held b key _ hb) (lt_irrefl _)
    · rw [hnew] at hb
      cases hb
      rcases senderOf_step_cases hk with hold | ⟨-, i, hacc', -⟩
      · exact absurd (h.registered k _ hold) (lt_irrefl _)
      · rw [hacc] at hacc'
        cases hacc'
        rfl
    · rw [hnone] at hb
      cases hb

theorem OwnChannels.run {w : World} (h : w.OwnChannels) (events : List Event) :
    (events.foldl World.step w).OwnChannels := by
  induction events generalizing w with
  | nil => exact h
  | cons e rest ih => exact ih (h.step e)

theorem OwnChannels.unregistered {w : World} (h : w.OwnChannels) {b : Nat} {key : NodeKey}
    {n : Nat} (hb : w.connectedAs b = some (key, n)) :
    Unregistered (w.relay.dropClient key) key n := by
  constructor
  · rw [Relay.senderOf_dropClient, if_pos rfl]
  · exact h.held b key n hb
  · intro k hk
    rw [Relay.senderOf_dropClient] at hk
    split_ifs at hk with heq
    exact heq (h.own b key n k hb hk)

/-- In every interleaving: when session `a` gets to its cleanup while another session `b` of
the same key is connected, the key is registered to nobody. Until it is accepted once more no
packet reaches `b`'s channel, and the watchers that have room are told that the key is gone,
all while `b` is connected. -/
theorem cleanup_unregisters_newer_session (serverKey : NodeKey) (events more : List Event)
    (a b : Nat) (key : NodeKey) (ca cb : Nat)
    (ha : (events.foldl step (new serverKey)).sessions.lookup a = some (.closing key ca))
    (hb : (events.foldl step (new serverKey)).connectedAs b = some (key, cb))
    (hmore : ∀ i, .accept i key ∉ more) (hopen : .hangup b ∉ more) :
    let w := events.foldl step (new serverKey)
    let w' := more.foldl step (w.step (.resume a))
    w'.connectedAs b = some (key, cb) ∧
      w'.relay.server.hasClient key = false ∧
      (w'.relay.channels (.client cb)).sent = (w.relay.channels (.client cb)).sent ∧
      (∀ src data, (w'.relay.sendPacket src key data).2.channels (.client cb) =
        w'.relay.channels (.client cb)) ∧
      (w'.sessions.lookup a = some (.departing key ca) →
        ∀ watcherKey watcher, w'.relay.server.watchers.lookup watcherKey = some watcher →
          (w'.relay.channels (.watcher watcher.sender)).hasRoom = true →
          (w'.relay.channels (.watcher watcher.sender)).sent ++ [.peerGone key] <+:
            ((w'.step (.resume a)).relay.channels (.watcher watcher.sender)).sent) := by
  intro w w'
  have hdrop : (w.step (.resume a)).relay = w.relay.dropClient key := by
    simp only [step]
    rw [ha]
    rfl
  have hgone : Unregistered (w.step (.resume a)).relay key cb := by
    rw [hdrop]
    exact ((ownChannels_new serverKey).run events).unregistered hb
  obtain ⟨hend, hsent⟩ := hgone.run hmore
  refine ⟨?_, ?_, ?_, ?_, ?_⟩
  · exact connectedAs_run (connectedAs_step hb (by simp)) hopen
  · rw [Bool.eq_false_iff, Ne, DerpServer.hasClient_iff]
    rintro ⟨n, hn⟩
    rw [hend.key] at hn
    simp at hn
  · rw [hsent, hdrop]
    rfl
  · intro src data
    exact Relay.sendPacket_unregistered hend.key cb
  · intro hdeparting watcherKey watcher hwatcher hroom
    have hnotify : (w'.step (.resume a)).relay = w'.relay.notifyWatchers (.peerGone key) := by
      simp only [step]
      rw [hdeparting]
      rfl
    rw [hnotify]
    exact Relay.notifyWatchers_watcher hwatcher _ hroom

/-- A client connects, connects again before the server has noticed that the first connection
is dead, and the first session's read loop times out. -/
def reconnect (key : NodeKey) : List Event :=
  [.accept 0 key, .resume 0, .accept 1 key, .resume 1, .hangup 0]

theorem cleanup_unregisters_newer_session_reconnect :
    ((reconnect (.filled 2)).foldl step (new (.filled 1))).relay.server.hasClient (.filled 2) =
        true ∧
      (((reconnect (.filled 2)).foldl step (new (.filled 1))).step (.resume 0)).relay.server.hasClient
        (.filled 2) = false :=
  ⟨by decide,
    (cleanup_unregisters_newer_session (.filled 1) (reconnect (.filled 2)) [] 0 1 (.filled 2) 0 1
      (by decide) (by decide) (by simp) (by simp)).2.1⟩

theorem reconnect_not_registered_after_cleanup :
    ¬ ∀ (serverKey : NodeKey) (events more : List Event) (a b : Nat) (key : NodeKey) (ca cb : Nat),
      (events.foldl step (new serverKey)).sessions.lookup a = some (.closing key ca) →
      (events.foldl step (new serverKey)).connectedAs b = some (key, cb) →
      (events.foldl step (new serverKey)).relay.server.senderOf key = some cb →
      (∀ i, .accept i key ∉ more) → .hangup b ∉ more →
      (more.foldl step ((events.foldl step (new serverKey)).step (.resume a))).relay.server.senderOf
        key = some cb := by
  intro h
  have hstill := h (.filled 1) (reconnect (.filled 2)) [.resume 0, .resume 0] 0 1 (.filled 2) 0 1
    (by decide) (by decide) (by decide) (by simp) (by simp)
  exact absurd hstill (by decide)

end World

end Coderd.Derp
