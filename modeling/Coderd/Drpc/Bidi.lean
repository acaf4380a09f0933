import Coderd.Drpc.Conversations
import Coderd.Foundation.Channel

namespace Coderd.Drpc
open Coderd.Foundation

/-! ## A bidi stream

`drive_bidi` runs three tasks: the inbound pump, the handler, and the outbound pump, which is the
call itself. They meet in two channels. -/

inductive InboundPump where
  | reading
  /-- A message is read, and `req_tx.send` has not come back. -/
  | sending (payload : List UInt8)
  | ended
  deriving DecidableEq, Repr

inductive HandlerEnd where
  | ok
  | error (err : RpcError)
  | panicked (message : String)
  deriving DecidableEq, Repr

inductive OutboundPump where
  | draining
  /-- An error is written, the handler is waited for. -/
  | reaping
  /-- The `Close` is written, the handler is waited for. -/
  | joining
  | returned (result : Except Stop Unit)
  deriving DecidableEq, Repr

/-- The channel of requests has its sender in the inbound pump, and the channel of responses its
receiver in the outbound one; `sink` tells whether the handler still has its sink. -/
structure Bidi (ω : Type) where
  session : Session ω
  stream : UInt64
  inbound : InboundPump
  requests : Channel (List UInt8)
  responses : Channel (Except RpcError (List UInt8))
  sink : Bool
  handler : Option HandlerEnd
  outbound : OutboundPump
  outMessage : UInt64

variable {ω : Type}

namespace Bidi

/-- The capacity of both channels is 32. -/
def start (session : Session ω) (stream : UInt64) : Bidi ω where
  session
  stream
  inbound := .reading
  requests := .new 32
  responses := .new 32
  sink := true
  handler := none
  outbound := .draining
  outMessage := 0

/-! ### The inbound pump -/

def read (b : Bidi ω) : Bidi ω :=
  match b.inbound with
  | .reading =>
    match readPacket b.session.unread with
    | (.error _, rest) => { b with session := { b.session with unread := rest }, inbound := .ended }
    | (.ok p, rest) =>
      let session := { b.session with unread := rest }
      match p.kind with
      | .message => { b with session := session, inbound := .sending p.data }
      | .closeSend | .cancel | .close => { b with session := session, inbound := .ended }
      | _ => { b with session := session }
  | _ => b

/-- `req_tx.send` comes back once there is room, or with an error when the receiver is gone. -/
def deliver (b : Bidi ω) : Bidi ω :=
  match b.inbound with
  | .sending payload =>
    if !b.requests.listening then { b with inbound := .ended }
    else if b.requests.hasRoom then
      { b with requests := (b.requests.trySend payload).2, inbound := .reading }
    else b
  | _ => b

/-! ### The handler

Nothing is assumed of a handler: it does any of these at any time. -/

inductive HandlerMove where
  | recv
  | send (payload : List UInt8)
  | dropRequests
  | dropSink
  | finish (result : HandlerEnd)
  deriving DecidableEq, Repr

/-- `BidiResponseSink::send`, as far as it changes anything: a full channel is waited for, and one
whose receiver is gone gives an error to the handler. -/
def sinkSend (b : Bidi ω) (payload : List UInt8) : Bidi ω :=
  if b.sink && b.responses.hasRoom then
    { b with responses := (b.responses.trySend (.ok payload)).2 }
  else b

def handle (b : Bidi ω) : HandlerMove → Bidi ω
  | .recv => if b.requests.listening then { b with requests := b.requests.take } else b
  | .send payload => b.sinkSend payload
  | .dropRequests => { b with requests := b.requests.close }
  | .dropSink => { b with sink := false }
  | .finish result =>
    match b.handler with
    | none => { b with handler := some result }
    | some _ => b

/-! ### The outbound pump -/

/-- The function returns: the receiver of the responses is dropped. -/
def return_ (b : Bidi ω) (result : Except Stop Unit) : Bidi ω :=
  { b with outbound := .returned result, responses := b.responses.close }

/-- Write one packet under the next number, and go on where that works. -/
def emit (b : Bidi ω) (packet : PacketId → Packet) (next : Bidi ω → Bidi ω) : Bidi ω :=
  let outMessage := b.outMessage + 1
  match Session.send (writePacket (packet ⟨b.stream, outMessage⟩)) b.session with
  | (.ok (), session) => next { b with session := session, outMessage := outMessage }
  | (.error stop, session) =>
    { b with session := session, outMessage := outMessage }.return_ (.error stop)

def write (b : Bidi ω) : Bidi ω :=
  match b.outbound with
  | .draining =>
    match b.responses.front with
    | some (.ok payload) =>
      { b with responses := b.responses.take }.emit (fun id => ⟨.message, id, payload⟩) id
    | some (.error err) =>
      { b with responses := b.responses.take }.emit
        (fun id => errorPacket id (rpcErrorToDrpc err).1 (rpcErrorToDrpc err).2)
        fun b => { b with outbound := .reaping }
    | none =>
      if b.sink then b
      else
        b.emit (fun id => ⟨.close, id, []⟩) fun b =>
          -- the inbound pump is aborted, which drops its sender
          { b with outbound := .joining, inbound := .ended }
  | .reaping =>
    match b.handler with
    | none => b
    | some _ => { b with inbound := .ended }.return_ (.ok ())
  | .joining =>
    match b.handler with
    | none => b
    | some (.panicked message) =>
      b.return_ (.error (.error (.protocol ("bidi handler join: " ++ message))))
    | some _ => b.return_ (.ok ())
  | .returned _ => b

/-! ### All together -/

inductive Move where
  | read
  | deliver
  | handler (move : HandlerMove)
  | write
  deriving DecidableEq, Repr

def step (b : Bidi ω) : Move → Bidi ω
  | .read => b.read
  | .deliver => b.deliver
  | .handler move => b.handle move
  | .write => b.write

def run (b : Bidi ω) (moves : List Move) : Bidi ω := moves.foldl step b

/-- The requests the handler has received. -/
def received (b : Bidi ω) : List (List UInt8) := b.requests.sent.take b.requests.taken

end Bidi

/-! ## What the pumps keep -/

/-- The payloads of the messages among packets. -/
def messages (packets : List Packet) : List (List UInt8) :=
  (packets.filter (·.kind = .message)).map (·.data)

@[simp] theorem messages_append (ps qs : List Packet) :
    messages (ps ++ qs) = messages ps ++ messages qs := by
  simp [messages]

/-- The packet ends the client's side of the stream. -/
def endsRequests (p : Packet) : Prop := p.kind = .closeSend ∨ p.kind = .cancel ∨ p.kind = .close

namespace Bidi

/-- The requests in the channel, and the one on its way to it, are the messages read, in their
order. A pump that stopped by itself has come to the end of the requests. -/
structure Inbound (first : List UInt8) (b : Bidi ω) (packets : List Packet)
    (mid : List UInt8) : Prop where
  reads : Reads first packets mid
  goesOn : ∀ p ∈ packets, ¬ endsRequests p
  reading : b.inbound = .reading → mid = b.session.unread ∧ b.requests.sent = messages packets
  sending : ∀ payload, b.inbound = .sending payload →
    mid = b.session.unread ∧ b.requests.sent ++ [payload] = messages packets
  ended : b.requests.sent <+: messages packets
  stopped : b.inbound = .ended → b.requests.listening = true → b.outbound = .draining →
    b.requests.sent = messages packets ∧
      ((∃ e rest, readPacket mid = (.error e, rest)) ∨
        ∃ p rest, readPacket mid = (.ok p, rest) ∧ endsRequests p)

theorem inbound_start (session : Session ω) (stream : UInt64) :
    Inbound session.unread (start session stream) [] session.unread where
  reads := rfl
  goesOn := by simp
  reading _ := ⟨rfl, rfl⟩
  sending _ h := by cases h
  ended := List.prefix_rfl
  stopped h := by cases h

/-- The pump reads a packet that is no message and does not end the requests. -/
theorem Inbound.skip {first mid rest : List UInt8} {b : Bidi ω} {packets : List Packet}
    {p : Packet} (h : Inbound first b packets mid) (hinbound : b.inbound = .reading)
    (hread : readPacket mid = (.ok p, rest)) (hmessage : p.kind ≠ .message)
    (hends : ¬ endsRequests p) :
    Inbound first { b with session := { b.session with unread := rest }, inbound := .reading }
      (packets ++ [p]) rest := by
  obtain ⟨-, hsent⟩ := h.reading hinbound
  have hsame : messages (packets ++ [p]) = messages packets := by simp [messages, hmessage]
  constructor
  · exact h.reads.append ⟨rest, hread, rfl⟩
  · intro q hq
    obtain hq | hq := List.mem_append.mp hq
    · exact h.goesOn q hq
    · rwa [List.mem_singleton.mp hq]
  · exact fun _ => ⟨rfl, by rw [hsame]; exact hsent⟩
  · intro payload hsending
    cases hsending
  · rw [hsame]
    exact h.ended
  · intro hended
    cases hended

theorem Inbound.read {first mid : List UInt8} {b : Bidi ω} {packets : List Packet}
    (h : Inbound first b packets mid) : ∃ packets mid, Inbound first b.read packets mid := by
  unfold Bidi.read
  cases hinbound : b.inbound with
  | sending payload => exact ⟨packets, mid, h⟩
  | ended => exact ⟨packets, mid, h⟩
  | reading =>
    obtain ⟨rfl, hsent⟩ := h.reading hinbound
    dsimp only
    rcases hread : readPacket b.session.unread with ⟨result, rest⟩
    cases result with
    | error e =>
      refine ⟨packets, b.session.unread, h.reads, h.goesOn, ?_, ?_, h.ended, ?_⟩
      · intro hreading
        cases hreading
      · intro payload hsending
        cases hsending
      · exact fun _ _ _ => ⟨hsent, .inl ⟨e, rest, hread⟩⟩
    | ok p =>
      have hstop : endsRequests p → ∃ packets mid, Inbound first
          { b with session := { b.session with unread := rest }, inbound := .ended }
          packets mid := by
        intro hends
        refine ⟨packets, b.session.unread, h.reads, h.goesOn, ?_, ?_, h.ended, ?_⟩
        · intro hreading
          cases hreading
        · intro payload hsending
          cases hsending
        · exact fun _ _ _ => ⟨hsent, .inr ⟨p, rest, hread, hends⟩⟩
      have hskip : p.kind ≠ .message → ¬ endsRequests p → ∃ packets mid, Inbound first
          { b with session := { b.session with unread := rest }, inbound := .reading }
          packets mid :=
        fun hmessage hends => ⟨_, _, h.skip hinbound hread hmessage hends⟩
      dsimp only
      cases hkind : p.kind with
      | message =>
        -- the message is on its way to the channel
        have hmore : messages (packets ++ [p]) = messages packets ++ [p.data] := by
          simp [messages, hkind]
        refine ⟨packets ++ [p], rest, h.reads.append ⟨rest, hread, rfl⟩, ?_, ?_, ?_, ?_, ?_⟩
        · intro q hq
          obtain hq | hq := List.mem_append.mp hq
          · exact h.goesOn q hq
          · rw [List.mem_singleton.mp hq]
            simp [endsRequests, hkind]
        · intro hreading
          cases hreading
        · intro payload hsending
          cases hsending
          exact ⟨rfl, by rw [hmore, hsent]⟩
        · rw [hmore]
          exact h.ended.trans (List.prefix_append _ _)
        · intro hended
          cases hended
      | closeSend => exact hstop (.inl hkind)
      | cancel => exact hstop (.inr (.inl hkind))
      | close => exact hstop (.inr (.inr hkind))
      | invoke => exact hskip (by simp [hkind]) (by simp [endsRequests, hkind])
      | error => exact hskip (by simp [hkind]) (by simp [endsRequests, hkind])
      | invokeMetadata => exact hskip (by simp [hkind]) (by simp [endsRequests, hkind])

theorem Inbound.deliver {first mid : List UInt8} {b : Bidi ω} {packets : List Packet}
    (h : Inbound first b packets mid) : Inbound first b.deliver packets mid := by
  unfold Bidi.deliver
  cases hinbound : b.inbound with
  | reading => exact h
  | ended => exact h
  | sending payload =>
    obtain ⟨hmid, hsent⟩ := h.sending payload hinbound
    dsimp only
    split_ifs with hgone hroom
    · refine ⟨h.reads, h.goesOn, ?_, ?_, h.ended, ?_⟩
      · intro hreading
        cases hreading
      · intro payload' hsending
        cases hsending
      · intro _ hlistening
        have hthere : b.requests.listening = true := hlistening
        rw [hthere] at hgone
        cases hgone
    · have hpushed : (b.requests.trySend payload).2.sent = messages packets := by
        rw [Channel.trySend_of_hasRoom hroom, hsent]
      refine ⟨h.reads, h.goesOn, fun _ => ⟨hmid, hpushed⟩, ?_, ?_, ?_⟩
      · intro payload' hsending
        cases hsending
      · exact hpushed ▸ List.prefix_rfl
      · intro hended
        cases hended
    · exact h

/-- What another task does to the channel of requests leaves what was sent alone, and the pump is
ended from outside only once the outbound one is no longer draining. -/
theorem Inbound.frame {first mid : List UInt8} {b b' : Bidi ω} {packets : List Packet}
    (h : Inbound first b packets mid) (hunread : b'.session.unread = b.session.unread)
    (hsent : b'.requests.sent = b.requests.sent)
    (hlistening : b'.requests.listening = true → b.requests.listening = true)
    (hdraining : b'.outbound = .draining → b.outbound = .draining)
    (hinbound : b'.inbound = b.inbound ∨ (b'.inbound = .ended ∧ b'.outbound ≠ .draining)) :
    Inbound first b' packets mid := by
  obtain hsame | ⟨hended, hnot⟩ := hinbound
  · constructor
    · exact h.reads
    · exact h.goesOn
    · rw [hsame, hunread, hsent]
      exact h.reading
    · rw [hsame, hunread, hsent]
      exact h.sending
    · rw [hsent]
      exact h.ended
    · rw [hsame, hsent]
      exact fun he hl hd => h.stopped he (hlistening hl) (hdraining hd)
  · refine ⟨h.reads, h.goesOn, ?_, ?_, ?_, fun _ _ hd => absurd hd hnot⟩
    · rw [hended]
      intro hreading
      cases hreading
    · rw [hended]
      intro payload hsending
      cases hsending
    · rw [hsent]
      exact h.ended

/-- What is on the wire of the responses the handler has sent, `before` being there at the
start. -/
structure Outbound (stream : UInt64) (before : List UInt8) (b : Bidi ω)
    (payloads : List (List UInt8)) : Prop where
  stream_eq : b.stream = stream
  sent : b.responses.sent = payloads.map .ok
  taken : b.responses.taken ≤ payloads.length
  bounded : payloads.length ≤ b.responses.taken + 32 ∧ b.responses.capacity = 32
  draining : b.outbound = .draining →
    b.outMessage = UInt64.ofNat b.responses.taken ∧
    b.session.written =
      before ++ packetBytes (replyAfter stream .pending 0 (payloads.take b.responses.taken))
  notReaping : b.outbound ≠ .reaping
  joining : b.outbound = .joining →
    b.sink = false ∧ b.session.written = before ++ packetBytes (replyAfter stream .close 0 payloads)
  returned : ∀ result, b.outbound = .returned result →
    b.responses.listening = false ∧
    ∃ sent, b.session.written = before ++ sent ∧
      sent <+: packetBytes (replyAfter stream .close 0 payloads) ∧
      (result ≠ .error .writeFailed → sent = packetBytes (replyAfter stream .close 0 payloads))

theorem outbound_start (session : Session ω) (stream : UInt64) :
    Outbound stream session.written (start session stream) [] where
  stream_eq := rfl
  sent := rfl
  taken := Nat.le_refl 0
  bounded := ⟨Nat.zero_le _, rfl⟩
  draining _ := ⟨rfl, by simp [start, replyAfter, Ending.packets]⟩
  notReaping h := by cases h
  joining h := by cases h
  returned _ h := by cases h

end Bidi

theorem replyAfter_append (stream : UInt64) (ending : Ending) (outMessage : UInt64)
    (xs ys : List (List UInt8)) :
    replyAfter stream ending outMessage (xs ++ ys) =
      replyAfter stream .pending outMessage xs ++
        replyAfter stream ending (outMessage + UInt64.ofNat xs.length) ys := by
  induction xs generalizing outMessage with
  | nil => simp [replyAfter, Ending.packets]
  | cons x xs ih =>
    have hnext : outMessage + UInt64.ofNat (x :: xs).length =
        outMessage + 1 + UInt64.ofNat xs.length := by
      rw [List.length_cons, Nat.add_comm, UInt64.ofNat_add, ← UInt64.add_assoc]
      rfl
    rw [List.cons_append, replyAfter, replyAfter, ih, hnext]
    rfl

/-- The reply up to a payload, that payload, and what follows it. -/
theorem packetBytes_split (stream : UInt64) {payloads : List (List UInt8)} {i : Nat}
    {payload : List UInt8} (h : payloads[i]? = some payload) (ending : Ending) :
    packetBytes (replyAfter stream ending 0 payloads) =
      packetBytes (replyAfter stream .pending 0 (payloads.take i)) ++
        (writePacket ⟨.message, ⟨stream, UInt64.ofNat i + 1⟩, payload⟩ ++
          packetBytes
            (replyAfter stream ending (UInt64.ofNat i + 1) (payloads.drop (i + 1)))) := by
  obtain ⟨hi, hget⟩ := List.getElem?_eq_some_iff.mp h
  have hcut : payloads = payloads.take i ++ payload :: payloads.drop (i + 1) := by
    rw [← hget, ← List.drop_eq_getElem_cons hi, List.take_append_drop]
  have hlen : (payloads.take i).length = i := List.length_take_of_le (Nat.le_of_lt hi)
  conv_lhs => rw [hcut]
  rw [replyAfter_append, hlen, UInt64.zero_add, packetBytes, List.flatMap_append]
  rfl

/-- A send is whole, or fails with a beginning of the bytes on the wire. -/
theorem send_cases (bytes : List UInt8) (s : Session ω) :
    (∃ room, Session.send bytes s =
      (.ok (), { s with written := s.written ++ bytes, room := room })) ∨
    ∃ sent room, sent <+: bytes ∧ Session.send bytes s =
      (.error .writeFailed, { s with written := s.written ++ sent, room := room }) := by
  cases hroom : s.room with
  | none =>
    left
    refine ⟨none, ?_⟩
    rw [Session.send, hroom]
  | some n =>
    by_cases hlen : bytes.length < n
    · left
      exact ⟨some (n - bytes.length), by simp [Session.send, hroom, hlen]⟩
    · right
      exact ⟨bytes.take n, some 0, List.take_prefix n bytes, by simp [Session.send, hroom, hlen]⟩

namespace Bidi

/-- The handler sends one more payload, at a time when the call has not returned. -/
theorem Outbound.sinkSend {stream : UInt64} {before : List UInt8} {b : Bidi ω}
    {payloads : List (List UInt8)} (h : Outbound stream before b payloads)
    (payload : List UInt8) :
    ∃ payloads, Outbound stream before (b.sinkSend payload) payloads := by
  unfold Bidi.sinkSend
  split_ifs with hopen
  · rw [Bool.and_eq_true] at hopen
    obtain ⟨hsink, hroom⟩ := hopen
    have hlistening : b.responses.listening = true := by
      rw [Channel.hasRoom, Bool.and_eq_true] at hroom
      exact hroom.1
    have hpush : (b.responses.trySend (.ok payload)).2 =
        { b.responses with sent := b.responses.sent ++ [.ok payload] } := by
      rw [Channel.trySend, if_pos hroom]
    rw [hpush]
    refine ⟨payloads ++ [payload], h.stream_eq, ?_, ?_, ?_, ?_, h.notReaping, ?_, ?_⟩
    · simp [h.sent]
    · have htaken := h.taken
      simp only [List.length_append, List.length_singleton]
      omega
    · refine ⟨?_, h.bounded.2⟩
      rw [Channel.hasRoom, hlistening, h.sent, h.bounded.2] at hroom
      simp only [List.length_map, Bool.true_and, decide_eq_true_eq] at hroom
      simp only [List.length_append, List.length_singleton]
      omega
    · intro hdraining
      obtain ⟨hnumber, hwritten⟩ := h.draining hdraining
      refine ⟨hnumber, ?_⟩
      rw [List.take_append_of_le_length h.taken]
      exact hwritten
    · intro hjoining
      have hclosed := (h.joining hjoining).1
      rw [hsink] at hclosed
      cases hclosed
    · intro result hreturned
      have hclosed := (h.returned result hreturned).1
      rw [hlistening] at hclosed
      cases hclosed
  · exact ⟨payloads, h⟩

/-- Steps that leave the wire and the responses alone. -/
theorem Outbound.frame {stream : UInt64} {before : List UInt8} {b b' : Bidi ω}
    {payloads : List (List UInt8)} (h : Outbound stream before b payloads)
    (hstream : b'.stream = b.stream) (hresponses : b'.responses = b.responses)
    (hnumber : b'.outMessage = b.outMessage) (hwritten : b'.session.written = b.session.written)
    (houtbound : b'.outbound = b.outbound) (hsink : b.sink = false → b'.sink = false) :
    Outbound stream before b' payloads where
  stream_eq := hstream.trans h.stream_eq
  sent := hresponses ▸ h.sent
  taken := hresponses ▸ h.taken
  bounded := hresponses ▸ h.bounded
  draining := by
    rw [houtbound, hresponses, hnumber, hwritten]
    exact h.draining
  notReaping := by
    rw [houtbound]
    exact h.notReaping
  joining := by
    rw [houtbound, hwritten]
    exact fun hjoining => ⟨hsink (h.joining hjoining).1, (h.joining hjoining).2⟩
  returned := by
    rw [houtbound, hresponses, hwritten]
    exact h.returned

theorem emit_cases (b : Bidi ω) (packet : PacketId → Packet) (next : Bidi ω → Bidi ω) :
    (∃ room, b.emit packet next = next
      { b with
        session := { b.session with
          written := b.session.written ++ writePacket (packet ⟨b.stream, b.outMessage + 1⟩)
          room := room }
        outMessage := b.outMessage + 1 }) ∨
    ∃ sent room, sent <+: writePacket (packet ⟨b.stream, b.outMessage + 1⟩) ∧
      b.emit packet next = Bidi.return_
        { b with
          session := { b.session with written := b.session.written ++ sent, room := room }
          outMessage := b.outMessage + 1 } (.error .writeFailed) := by
  unfold emit
  dsimp only
  obtain ⟨room, hsend⟩ | ⟨sent, room, hsent, hsend⟩ :=
    send_cases (writePacket (packet ⟨b.stream, b.outMessage + 1⟩)) b.session
  · exact .inl ⟨room, by rw [hsend]⟩
  · exact .inr ⟨sent, room, hsent, by rw [hsend]⟩

/-- The call returns with a failed write, a beginning of what it wrote last being on the wire. -/
theorem Outbound.failed {stream : UInt64} {before sent : List UInt8} {b b' : Bidi ω}
    {payloads : List (List UInt8)} (h : Outbound stream before b payloads)
    (hstream : b'.stream = b.stream) (hsent : b'.responses.sent = b.responses.sent)
    (htaken : b'.responses.taken ≤ payloads.length)
    (hbounded : b.responses.taken ≤ b'.responses.taken)
    (hcapacity : b'.responses.capacity = b.responses.capacity)
    (hwritten : b'.session.written = before ++ sent)
    (hbegun : sent <+: packetBytes (replyAfter stream .close 0 payloads)) :
    Outbound stream before (b'.return_ (.error .writeFailed)) payloads where
  stream_eq := hstream.trans h.stream_eq
  sent := hsent.trans h.sent
  taken := htaken
  bounded := ⟨h.bounded.1.trans (Nat.add_le_add_right hbounded 32), hcapacity.trans h.bounded.2⟩
  draining hdraining := by cases hdraining
  notReaping hreaping := by cases hreaping
  joining hjoining := by cases hjoining
  returned result hreturned := by
    cases hreturned
    exact ⟨rfl, sent, hwritten, hbegun, fun hne => absurd rfl hne⟩

theorem Outbound.write {stream : UInt64} {before : List UInt8} {b : Bidi ω}
    {payloads : List (List UInt8)} (h : Outbound stream before b payloads) :
    Outbound stream before b.write payloads := by
  unfold Bidi.write
  cases houtbound : b.outbound with
  | reaping => exact absurd houtbound h.notReaping
  | returned result => exact h
  | joining =>
    obtain ⟨hsink, hwritten⟩ := h.joining houtbound
    have hreturn : ∀ result, Outbound stream before (b.return_ result) payloads := by
      intro result
      refine ⟨h.stream_eq, h.sent, h.taken, h.bounded, ?_, ?_, ?_, ?_⟩
      · intro hdraining
        cases hdraining
      · intro hreaping
        cases hreaping
      · intro hjoining
        cases hjoining
      · intro _ _
        exact ⟨rfl, _, hwritten, List.prefix_rfl, fun _ => rfl⟩
    cases b.handler with
    | none => exact h
    | some result =>
      cases result with
      | ok => exact hreturn _
      | error err => exact hreturn _
      | panicked message => exact hreturn _
  | draining =>
    obtain ⟨hnumber, hwritten⟩ := h.draining houtbound
    dsimp only
    cases hfront : b.responses.front with
    | none =>
      -- the channel is empty, so all of the payloads are on the wire
      have hall : b.responses.taken = payloads.length := by
        have hpast := List.getElem?_eq_none_iff.mp hfront
        rw [h.sent, List.length_map] at hpast
        exact Nat.le_antisymm h.taken hpast
      have hfull : packetBytes (replyAfter stream .close 0 payloads) =
          packetBytes (replyAfter stream .pending 0 (payloads.take b.responses.taken)) ++
            writePacket ⟨.close, ⟨stream, b.outMessage + 1⟩, []⟩ := by
        have happend := replyAfter_append stream .close 0 payloads []
        rw [List.append_nil, UInt64.zero_add] at happend
        rw [happend, hnumber, hall, List.take_length, packetBytes, List.flatMap_append]
        simp [replyAfter, Ending.packets, packetBytes]
      dsimp only
      cases hsink : b.sink with
      | true => exact h
      | false =>
        rw [if_neg (by simp)]
        obtain ⟨room, hemit⟩ | ⟨sent, room, hsent, hemit⟩ := b.emit_cases
          (fun id => ⟨.close, id, []⟩) fun b => { b with outbound := .joining, inbound := .ended }
        · rw [hemit]
          refine ⟨h.stream_eq, h.sent, h.taken, h.bounded, ?_, ?_, ?_, ?_⟩
          · intro hdraining
            cases hdraining
          · intro hreaping
            cases hreaping
          · intro _
            refine ⟨hsink, ?_⟩
            rw [hfull, ← List.append_assoc, ← hwritten, ← h.stream_eq]
          · intro _ hreturned
            cases hreturned
        · rw [hemit]
          refine h.failed rfl rfl h.taken (Nat.le_refl _) rfl (hwritten ▸ List.append_assoc _ _ _) ?_
          rw [hfull]
          rw [h.stream_eq] at hsent
          exact (List.prefix_append_right_inj _).mpr hsent
    | some item =>
      obtain ⟨payload, hpayload, rfl⟩ : ∃ payload, payloads[b.responses.taken]? = some payload ∧
          Except.ok payload = item := by
        rw [Channel.front, h.sent, List.getElem?_map] at hfront
        exact Option.map_eq_some_iff.mp hfront
      have htaken : b.responses.taken < payloads.length :=
        (List.getElem?_eq_some_iff.mp hpayload).1
      have htake : b.responses.take = { b.responses with taken := b.responses.taken + 1 } := by
        rw [Channel.take, hfront]
      dsimp only
      obtain ⟨room, hemit⟩ | ⟨sent, room, hsent, hemit⟩ :=
        { b with responses := b.responses.take, outbound := .draining }.emit_cases
          (fun id => ⟨.message, id, payload⟩) id
      · rw [hemit, htake]
        refine ⟨h.stream_eq, h.sent, htaken, ?_, ?_, ?_, ?_, ?_⟩
        · exact ⟨h.bounded.1.trans (Nat.add_le_add_right (Nat.le_succ _) 32), h.bounded.2⟩
        · intro _
          have hgot : (payloads.take (b.responses.taken + 1))[b.responses.taken]? =
              some payload := by
            rw [List.getElem?_take_of_lt (Nat.lt_succ_self _), hpayload]
          have hsplit := packetBytes_split stream hgot .pending
          rw [List.take_take, Nat.min_eq_left (Nat.le_succ _), List.drop_take] at hsplit
          simp only [Nat.sub_self, List.take_zero, replyAfter, Ending.packets, packetBytes_nil,
            List.append_nil] at hsplit
          have hnext : b.outMessage + 1 = UInt64.ofNat (b.responses.taken + 1) := by
            rw [hnumber, UInt64.ofNat_add]
            rfl
          have hmore : b.session.written ++
                writePacket ⟨.message, ⟨b.stream, b.outMessage + 1⟩, payload⟩ =
              before ++ packetBytes (replyAfter stream .pending 0
                (payloads.take (b.responses.taken + 1))) := by
            rw [hsplit, ← List.append_assoc, ← hwritten, ← hnumber, ← h.stream_eq]
          exact ⟨hnext, hmore⟩
        · intro hreaping
          cases hreaping
        · intro hjoining
          cases hjoining
        · intro result hreturned
          cases hreturned
      · rw [hemit, htake]
        refine h.failed rfl rfl htaken (Nat.le_succ _) rfl (hwritten ▸ List.append_assoc _ _ _) ?_
        rw [packetBytes_split stream hpayload .close]
        have hmessage : sent <+: writePacket
            ⟨.message, ⟨stream, UInt64.ofNat b.responses.taken + 1⟩, payload⟩ := by
          rw [← h.stream_eq, ← hnumber]
          exact hsent
        exact (List.prefix_append_right_inj _).mpr (hmessage.trans (List.prefix_append _ _))

/-! ### Each move leaves the rest alone -/

theorem sinkSend_frame (b : Bidi ω) (payload : List UInt8) :
    ∃ responses, b.sinkSend payload = { b with responses := responses } := by
  unfold Bidi.sinkSend
  split_ifs
  · exact ⟨_, rfl⟩
  · exact ⟨b.responses, rfl⟩

theorem read_frame (b : Bidi ω) : ∃ unread inbound, b.read =
    { b with session := { b.session with unread := unread }, inbound := inbound } := by
  unfold Bidi.read
  cases b.inbound with
  | sending payload => exact ⟨b.session.unread, b.inbound, rfl⟩
  | ended => exact ⟨b.session.unread, b.inbound, rfl⟩
  | reading =>
    rcases readPacket b.session.unread with ⟨result, rest⟩
    cases result with
    | error e => exact ⟨rest, .ended, rfl⟩
    | ok p =>
      dsimp only
      cases p.kind <;> exact ⟨rest, _, rfl⟩

theorem deliver_frame (b : Bidi ω) : ∃ requests inbound, b.deliver =
    { b with requests := requests, inbound := inbound } := by
  unfold Bidi.deliver
  cases b.inbound with
  | reading => exact ⟨b.requests, b.inbound, rfl⟩
  | ended => exact ⟨b.requests, b.inbound, rfl⟩
  | sending payload =>
    dsimp only
    split_ifs <;> exact ⟨_, _, rfl⟩

/-- The outbound pump ends the inbound one only when it has stopped draining. -/
structure WriteFrame (b b' : Bidi ω) : Prop where
  unread : b'.session.unread = b.session.unread
  requests : b'.requests = b.requests
  draining : b'.outbound = .draining → b.outbound = .draining
  inbound : b'.inbound = b.inbound ∨ (b'.inbound = .ended ∧ b'.outbound ≠ .draining)

theorem writeFrame_emit {b mid : Bidi ω} {packet : PacketId → Packet} {next : Bidi ω → Bidi ω}
    (hmid : WriteFrame b mid) (hnext : ∀ b', WriteFrame b b' → WriteFrame b (next b')) :
    WriteFrame b (mid.emit packet next) := by
  obtain ⟨room, hemit⟩ | ⟨sent, room, -, hemit⟩ := mid.emit_cases packet next
  · rw [hemit]
    exact hnext _ ⟨hmid.unread, hmid.requests, hmid.draining, hmid.inbound⟩
  · rw [hemit]
    refine ⟨hmid.unread, hmid.requests, fun h => (by cases h), ?_⟩
    obtain hsame | ⟨hended, -⟩ := hmid.inbound
    · exact .inl hsame
    · exact .inr ⟨hended, fun h => by cases h⟩

theorem write_frame (b : Bidi ω) : WriteFrame b b.write := by
  have hself : WriteFrame b b := ⟨rfl, rfl, id, .inl rfl⟩
  unfold Bidi.write
  cases houtbound : b.outbound with
  | returned result => exact hself
  | reaping =>
    cases b.handler with
    | none => exact hself
    | some result => exact ⟨rfl, rfl, fun h => (by cases h), .inr ⟨rfl, fun h => by cases h⟩⟩
  | joining =>
    have hreturn : ∀ result, WriteFrame b (b.return_ result) :=
      fun result => ⟨rfl, rfl, fun h => (by cases h), .inl rfl⟩
    cases b.handler with
    | none => exact hself
    | some result =>
      cases result with
      | ok => exact hreturn _
      | error err => exact hreturn _
      | panicked message => exact hreturn _
  | draining =>
    have htake : WriteFrame b { b with responses := b.responses.take, outbound := .draining } :=
      ⟨rfl, rfl, fun _ => houtbound, .inl rfl⟩
    dsimp only
    cases b.responses.front with
    | none =>
      dsimp only
      split_ifs
      · exact hself
      · exact writeFrame_emit hself fun b' hb' =>
          ⟨hb'.unread, hb'.requests, fun h => (by cases h), .inr ⟨rfl, fun h => by cases h⟩⟩
    | some item =>
      cases item with
      | ok payload => exact writeFrame_emit htake fun _ hb' => hb'
      | error err =>
        refine writeFrame_emit htake fun b' hb' => ⟨hb'.unread, hb'.requests, ?_, ?_⟩
        · intro h
          cases h
        · obtain hsame | ⟨hended, -⟩ := hb'.inbound
          · exact .inl hsame
          · exact .inr ⟨hended, fun h => by cases h⟩

/-! ### One move, and a run -/

theorem Inbound.step {first mid : List UInt8} {b : Bidi ω} {packets : List Packet}
    (h : Inbound first b packets mid) (move : Move) :
    ∃ packets mid, Inbound first (b.step move) packets mid := by
  cases move with
  | read => exact h.read
  | deliver => exact ⟨packets, mid, h.deliver⟩
  | write =>
    have hframe := b.write_frame
    exact ⟨packets, mid, h.frame hframe.unread (by rw [Bidi.step, hframe.requests])
      (by rw [Bidi.step, hframe.requests]; exact id) hframe.draining hframe.inbound⟩
  | handler move =>
    refine ⟨packets, mid, ?_⟩
    rw [Bidi.step]
    cases move with
    | recv =>
      unfold handle
      split_ifs with hlistening
      · exact h.frame rfl (Channel.take_sent _) (fun _ => hlistening) id (.inl rfl)
      · exact h
    | send payload =>
      obtain ⟨responses, hsend⟩ := b.sinkSend_frame payload
      rw [handle, hsend]
      exact h.frame rfl rfl id id (.inl rfl)
    | dropRequests => exact h.frame rfl rfl (fun hclosed => by cases hclosed) id (.inl rfl)
    | dropSink => exact h.frame rfl rfl id id (.inl rfl)
    | finish result =>
      unfold handle
      cases b.handler with
      | none => exact h.frame rfl rfl id id (.inl rfl)
      | some before => exact h

theorem Outbound.step {stream : UInt64} {before : List UInt8} {b : Bidi ω}
    {payloads : List (List UInt8)} (h : Outbound stream before b payloads) (move : Move) :
    ∃ payloads, Outbound stream before (b.step move) payloads := by
  cases move with
  | read =>
    obtain ⟨unread, inbound, hread⟩ := b.read_frame
    exact ⟨payloads, by rw [Bidi.step, hread]; exact h.frame rfl rfl rfl rfl rfl id⟩
  | deliver =>
    obtain ⟨requests, inbound, hdeliver⟩ := b.deliver_frame
    exact ⟨payloads, by rw [Bidi.step, hdeliver]; exact h.frame rfl rfl rfl rfl rfl id⟩
  | write => exact ⟨payloads, h.write⟩
  | handler move =>
    rw [Bidi.step]
    cases move with
    | send payload => exact h.sinkSend payload
    | recv =>
      refine ⟨payloads, ?_⟩
      unfold handle
      split_ifs
      · exact h.frame rfl rfl rfl rfl rfl id
      · exact h
    | dropRequests => exact ⟨payloads, h.frame rfl rfl rfl rfl rfl id⟩
    | dropSink => exact ⟨payloads, h.frame rfl rfl rfl rfl rfl fun _ => rfl⟩
    | finish result =>
      refine ⟨payloads, ?_⟩
      unfold handle
      cases b.handler with
      | none => exact h.frame rfl rfl rfl rfl rfl id
      | some before => exact h

theorem Inbound.run {first mid : List UInt8} {b : Bidi ω} {packets : List Packet}
    (h : Inbound first b packets mid) (moves : List Move) :
    ∃ packets mid, Inbound first (b.run moves) packets mid := by
  induction moves generalizing b packets mid with
  | nil => exact ⟨packets, mid, h⟩
  | cons move moves ih =>
    obtain ⟨packets', mid', hnext⟩ := h.step move
    exact ih hnext

theorem Outbound.run {stream : UInt64} {before : List UInt8} {b : Bidi ω}
    {payloads : List (List UInt8)} (h : Outbound stream before b payloads) (moves : List Move) :
    ∃ payloads, Outbound stream before (b.run moves) payloads := by
  induction moves generalizing b payloads with
  | nil => exact ⟨payloads, h⟩
  | cons move moves ih =>
    obtain ⟨payloads', hnext⟩ := h.step move
    exact ih hnext

theorem received_prefix {first mid : List UInt8} {b : Bidi ω} {packets : List Packet}
    (h : Inbound first b packets mid) : b.received <+: messages packets :=
  (List.take_prefix _ _).trans h.ended

/-! ### The reply is completed -/

theorem emit_of_room (b : Bidi ω) (packet : PacketId → Packet) (next : Bidi ω → Bidi ω)
    (hroom : b.session.room = none) :
    b.emit packet next = next
      { b with
        session := { b.session with
          written := b.session.written ++ writePacket (packet ⟨b.stream, b.outMessage + 1⟩) }
        outMessage := b.outMessage + 1 } := by
  unfold emit
  dsimp only
  rw [Session.send, hroom]

theorem emit_room (b : Bidi ω) (packet : PacketId → Packet) (next : Bidi ω → Bidi ω)
    (hroom : b.session.room = none)
    (hnext : ∀ b : Bidi ω, b.session.room = none → (next b).session.room = none) :
    (b.emit packet next).session.room = none := by
  rw [b.emit_of_room packet next hroom]
  exact hnext _ hroom

theorem write_room (b : Bidi ω) (hroom : b.session.room = none) :
    b.write.session.room = none := by
  unfold Bidi.write
  cases b.outbound with
  | returned result => exact hroom
  | reaping => cases b.handler <;> exact hroom
  | joining =>
    cases b.handler with
    | none => exact hroom
    | some result => cases result <;> exact hroom
  | draining =>
    dsimp only
    cases b.responses.front with
    | none =>
      dsimp only
      split_ifs
      · exact hroom
      · exact b.emit_room _ _ hroom fun _ h => h
    | some item => cases item <;> exact emit_room _ _ _ hroom fun _ h => h

theorem step_room (b : Bidi ω) (move : Move) (hroom : b.session.room = none) :
    (b.step move).session.room = none := by
  cases move with
  | read =>
    obtain ⟨unread, inbound, hread⟩ := b.read_frame
    rw [Bidi.step, hread]
    exact hroom
  | deliver =>
    obtain ⟨requests, inbound, hdeliver⟩ := b.deliver_frame
    rw [Bidi.step, hdeliver]
    exact hroom
  | write => exact b.write_room hroom
  | handler move =>
    rw [Bidi.step]
    cases move with
    | send payload =>
      obtain ⟨responses, hsend⟩ := b.sinkSend_frame payload
      rw [handle, hsend]
      exact hroom
    | recv => unfold handle; split_ifs <;> exact hroom
    | dropRequests => exact hroom
    | dropSink => exact hroom
    | finish result => unfold handle; cases b.handler <;> exact hroom

theorem run_room (b : Bidi ω) (moves : List Move) (hroom : b.session.room = none) :
    (b.run moves).session.room = none := by
  induction moves generalizing b with
  | nil => exact hroom
  | cons move moves ih => exact ih _ (b.step_room move hroom)

/-- With the sink gone, each write takes one response off the channel, and the one after the last
is the `Close`. The induction is on the responses that wait. -/
theorem Outbound.closes {stream : UInt64} {before : List UInt8} {b : Bidi ω}
    {payloads : List (List UInt8)} (h : Outbound stream before b payloads)
    (hroom : b.session.room = none) (hsink : b.sink = false) (hdraining : b.outbound = .draining)
    {n : Nat} (hn : payloads.length = b.responses.taken + n) :
    let b' := b.run (List.replicate (n + 1) .write)
    b'.outbound = .joining ∧ Outbound stream before b' payloads := by
  induction n generalizing b with
  | zero =>
    have hnone : b.responses.front = none := by
      refine List.getElem?_eq_none_iff.mpr ?_
      rw [h.sent, List.length_map, hn]
      exact Nat.le_refl _
    refine ⟨?_, h.write⟩
    show b.write.outbound = .joining
    unfold Bidi.write
    rw [hdraining]
    dsimp only
    rw [hnone]
    dsimp only
    rw [if_neg (by rw [hsink]; simp), b.emit_of_room _ _ hroom]
  | succ n ih =>
    have hlt : b.responses.taken < payloads.length := by omega
    have hfront : b.responses.front = some (.ok payloads[b.responses.taken]) := by
      rw [Channel.front, h.sent, List.getElem?_map, List.getElem?_eq_getElem hlt]
      rfl
    have htake : b.responses.take = { b.responses with taken := b.responses.taken + 1 } := by
      rw [Channel.take, hfront]
    have hwrite : b.write.responses.taken = b.responses.taken + 1 ∧ b.write.sink = false ∧
        b.write.outbound = .draining := by
      unfold Bidi.write
      rw [hdraining]
      dsimp only
      rw [hfront]
      dsimp only
      rw [emit_of_room _ _ _ (by exact hroom), htake]
      exact ⟨rfl, hsink, rfl⟩
    have hleft : payloads.length = b.write.responses.taken + n := by
      rw [hwrite.1]
      omega
    exact ih h.write (b.write_room hroom) hwrite.2.1 hwrite.2.2 hleft

/-- Wherever a run has come to: once the handler has dropped its sink, no more than 33 turns of
the outbound pump put the rest of its responses and the `Close` on a wire that holds. It needs
neither the client nor the inbound pump for it. -/
theorem bidi_closes (session : Session ω) (stream : UInt64) (hroom : session.room = none)
    (moves : List Move)
    (hsink : ((start session stream).run moves).sink = false)
    (hdraining : ((start session stream).run moves).outbound = .draining) :
    let b := (start session stream).run moves
    ∃ n ≤ 33, ∃ payloads, b.responses.sent = payloads.map .ok ∧
      (b.run (List.replicate n .write)).outbound = .joining ∧
      (b.run (List.replicate n .write)).session.written =
        session.written ++ packetBytes (replyAfter stream .close 0 payloads) := by
  dsimp only
  obtain ⟨payloads, hout⟩ := (outbound_start session stream).run moves
  have hbound := hout.bounded.1
  have htaken := hout.taken
  obtain ⟨hjoining, hend⟩ := hout.closes (run_room _ moves hroom) hsink hdraining
    (n := payloads.length - ((start session stream).run moves).responses.taken) (by omega)
  exact ⟨_, by omega, payloads, hout.sent, hjoining, (hend.joining hjoining).2⟩

/-- One response and the end of the handler's side. -/
def sampleMoves : List Move := [.handler (.send [1, 2]), .handler .dropSink]

theorem bidi_closes_sampleMoves :
    let b := (start (⟨[], [], none, 0, []⟩ : Session Nat) 5).run sampleMoves
    ∃ n ≤ 33, (b.run (List.replicate n .write)).outbound = .joining ∧
      (b.run (List.replicate n .write)).session.written =
        packetBytes [⟨.message, ⟨5, 1⟩, [1, 2]⟩, ⟨.close, ⟨5, 2⟩, []⟩] := by
  intro b
  obtain ⟨n, hn, payloads, hsent, hjoining, hwritten⟩ :=
    bidi_closes (⟨[], [], none, 0, []⟩ : Session Nat) 5 rfl sampleMoves rfl rfl
  have hpayloads : payloads = [[1, 2]] := by
    have hmap : payloads.map (Except.ok : _ → Except RpcError (List UInt8)) = [.ok [1, 2]] :=
      hsent.symm
    obtain ⟨payload, rfl, hpayload⟩ := List.map_eq_singleton_iff.mp hmap
    rw [Except.ok.inj hpayload]
  subst hpayloads
  exact ⟨n, hn, hjoining, hwritten⟩

end Bidi

end Coderd.Drpc
