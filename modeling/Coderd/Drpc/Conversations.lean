import Coderd.Drpc.Replies

namespace Coderd.Drpc
open Coderd.Foundation

variable {ω β α : Type}

/-! ## What the server reads -/

/-- The next reads of packets give `packets` and leave `rest`. -/
def Reads : List UInt8 → List Packet → List UInt8 → Prop
  | bytes, [], rest => bytes = rest
  | bytes, packet :: packets, rest =>
    ∃ mid, readPacket bytes = (.ok packet, mid) ∧ Reads mid packets rest

theorem Reads.append {bytes mid rest : List UInt8} {ps qs : List Packet} (hp : Reads bytes ps mid)
    (hq : Reads mid qs rest) : Reads bytes (ps ++ qs) rest := by
  induction ps generalizing bytes with
  | nil =>
    obtain rfl : bytes = mid := hp
    exact hq
  | cons p ps ih =>
    obtain ⟨next, hread, hps⟩ := hp
    exact ⟨next, hread, ih hps⟩

theorem Reads.of_append {bytes rest : List UInt8} {ps qs : List Packet}
    (h : Reads bytes (ps ++ qs) rest) : ∃ mid, Reads bytes ps mid ∧ Reads mid qs rest := by
  induction ps generalizing bytes with
  | nil => exact ⟨bytes, rfl, h⟩
  | cons p ps ih =>
    obtain ⟨next, hread, hrest⟩ := h
    obtain ⟨mid, hps, hqs⟩ := ih hrest
    exact ⟨mid, ⟨next, hread, hps⟩, hqs⟩

/-- Packets before the `Invoke`, the `Invoke` itself. -/
theorem readInvoke_ok {left : Nat} {raw raw' : List (List UInt8)} {bytes rest : List UInt8}
    {invoke : Packet} (h : readInvoke left raw bytes = (.ok (raw', invoke), rest)) :
    ∃ metas, Reads bytes (metas ++ [invoke]) rest ∧ (∀ p ∈ metas, p.kind = .invokeMetadata) ∧
      metas.length ≤ left ∧ raw' = raw ++ metas.map (·.data) ∧ invoke.kind = .invoke := by
  induction left generalizing raw bytes with
  | zero =>
    rw [readInvoke] at h
    obtain ⟨p, mid, hread, hrest⟩ := Effect.bind_eq_ok h
    cases hkind : p.kind with
    | invoke =>
      simp only [hkind] at hrest
      obtain ⟨hpair, rfl⟩ := Prod.mk.inj hrest
      cases hpair
      exact ⟨[], ⟨_, hread, rfl⟩, by simp, Nat.le_refl 0, by simp, hkind⟩
    | _ =>
      simp only [hkind] at hrest
      cases (Prod.mk.inj hrest).1
  | succ left ih =>
    rw [readInvoke] at h
    obtain ⟨p, mid, hread, hrest⟩ := Effect.bind_eq_ok h
    cases hkind : p.kind with
    | invoke =>
      simp only [hkind] at hrest
      obtain ⟨hpair, rfl⟩ := Prod.mk.inj hrest
      cases hpair
      exact ⟨[], ⟨_, hread, rfl⟩, by simp, Nat.zero_le _, by simp, hkind⟩
    | invokeMetadata =>
      simp only [hkind] at hrest
      obtain ⟨metas, hreads, hmetas, hlen, hraw, hinvoke⟩ := ih hrest
      refine ⟨p :: metas, ⟨mid, hread, hreads⟩, ?_, ?_, ?_, hinvoke⟩
      · intro q hq
        obtain rfl | hq := List.mem_cons.mp hq
        · exact hkind
        · exact hmetas q hq
      · simpa using hlen
      · rw [hraw, List.append_assoc]
        rfl
    | _ =>
      simp only [hkind] at hrest
      cases (Prod.mk.inj hrest).1

theorem readInvoke_of_reads {left : Nat} {raw : List (List UInt8)} {bytes rest : List UInt8}
    {metas : List Packet} {invoke : Packet} (h : Reads bytes (metas ++ [invoke]) rest)
    (hmetas : ∀ p ∈ metas, p.kind = .invokeMetadata) (hlen : metas.length ≤ left)
    (hinvoke : invoke.kind = .invoke) :
    readInvoke left raw bytes = (.ok (raw ++ metas.map (·.data), invoke), rest) := by
  induction metas generalizing left raw bytes with
  | nil =>
    obtain ⟨mid, hread, hrest⟩ := h
    obtain rfl : mid = rest := hrest
    rw [readInvoke, Effect.bind_ok hread]
    simp only [hinvoke, List.map_nil, List.append_nil]
    rfl
  | cons p metas ih =>
    obtain ⟨mid, hread, hreads⟩ := h
    cases left with
    | zero => simp at hlen
    | succ left =>
      have hp : p.kind = .invokeMetadata := hmetas p List.mem_cons_self
      rw [readInvoke, Effect.bind_ok hread]
      simp only [hp]
      rw [ih hreads (fun q hq => hmetas q (List.mem_cons_of_mem p hq)) (by simpa using hlen)]
      simp

theorem readRequest_some {bytes rest body : List UInt8} {stream : UInt64}
    (h : readRequest bytes = (.ok (some (body, stream)), rest)) :
    ∃ request, Reads bytes [request] rest ∧ request.kind = .message ∧ request.data = body ∧
      request.id.stream = stream := by
  obtain ⟨p, mid, hread, hrest⟩ := Effect.bind_eq_ok h
  cases hkind : p.kind with
  | message =>
    simp only [hkind] at hrest
    obtain ⟨hsome, rfl⟩ := Prod.mk.inj hrest
    cases hsome
    exact ⟨p, ⟨_, hread, rfl⟩, hkind, rfl, rfl⟩
  | _ =>
    simp only [hkind] at hrest
    cases (Prod.mk.inj hrest).1

theorem readRequest_of_reads {bytes rest : List UInt8} {request : Packet}
    (h : Reads bytes [request] rest) (hkind : request.kind = .message) :
    readRequest bytes = (.ok (some (request.data, request.id.stream)), rest) := by
  obtain ⟨mid, hread, hrest⟩ := h
  obtain rfl : mid = rest := hrest
  rw [readRequest, Effect.bind_ok hread]
  simp only [hkind]
  rfl

theorem receive_ok {reader : Reader α} {s : Session ω} {a : α} {rest : List UInt8}
    (h : reader s.unread = (.ok a, rest)) :
    Session.receive reader s = (.ok a, { s with unread := rest }) := by
  rw [Session.receive, h]

theorem receive_error {reader : Reader α} {s : Session ω} {e : DrpcError} {rest : List UInt8}
    (h : reader s.unread = (.error e, rest)) :
    Session.receive reader s = (.error (.error e), { s with unread := rest }) := by
  rw [Session.receive, h]

/-! ## What any client can bring about -/

/-- What a call comes to that is not handed to a bidi stream. -/
def callAnswer (handler : AgentRpcHandler ω) (streams : StreamRegistry ω β) (ctx : RpcContext)
    (body : List UInt8) (world : ω) : Answer ω :=
  match streams.lookupServerStream ctx.method with
  | some serverStream => streamAnswer serverStream ctx body world
  | none => unaryAnswer handler ctx.method body world

/-- At most one request reaches a handler, and it is the one that was sent; where none does,
the reply is an error. -/
theorem callAnswer_asked (handler : AgentRpcHandler ω) (streams : StreamRegistry ω β)
    (ctx : RpcContext) (body : List UInt8) (world : ω) :
    let a := callAnswer handler streams ctx body world
    a.asked = [⟨ctx.method, body⟩] ∨
      (a.asked = [] ∧ a.world = world ∧ a.payloads = [] ∧ ∃ err, a.ending = .error err) := by
  dsimp only [callAnswer]
  cases streams.lookupServerStream ctx.method with
  | some serverStream =>
    left
    dsimp only [streamAnswer]
    rcases serverStream ctx body world with ⟨err | responses, world'⟩ <;> rfl
  | none =>
    dsimp only [unaryAnswer]
    cases AgentMethod.fromPath ctx.method with
    | none => exact .inr ⟨rfl, rfl, rfl, _, rfl⟩
    | some m =>
      dsimp only
      cases handler.decode m body with
      | error e => exact .inr ⟨rfl, rfl, rfl, _, rfl⟩
      | ok request =>
        left
        dsimp only
        rcases handler.call m request world with ⟨err | response, world'⟩
        · rfl
        · dsimp only
          split
          · rfl
          · cases handler.encode m response <;> rfl

/-- The packets with which a client asks for `ctx` with `body`, `stream` being the stream of
the last. -/
structure Asks (packets : List Packet) (ctx : RpcContext) (body : List UInt8)
    (stream : UInt64) : Prop where
  split : ∃ metas invoke request, packets = metas ++ [invoke, request] ∧
    (∀ p ∈ metas, p.kind = .invokeMetadata) ∧ metas.length ≤ 16 ∧
    ctx.metadata.raw = metas.map (·.data) ∧
    invoke.kind = .invoke ∧ fromUtf8 invoke.data = some ctx.method ∧
    request.kind = .message ∧ request.data = body ∧ request.id.stream = stream

/-- From `s` on the server was asked and has answered: `s'` is where it stopped, `out` what it
returned. -/
structure Answered (handler : AgentRpcHandler ω) (streams : StreamRegistry ω β) (s : Session ω)
    (out : Except Stop (Served β)) (s' : Session ω) (ctx : RpcContext) (body : List UInt8)
    (stream : UInt64) : Prop where
  asks : ∃ packets, Reads s.unread packets s'.unread ∧ Asks packets ctx body stream
  notBidi : streams.lookupBidi ctx.method = none
  world : s'.world = (callAnswer handler streams ctx body s.world).world
  asked : s'.asked = s.asked ++ (callAnswer handler streams ctx body s.world).asked
  written :
    let a := callAnswer handler streams ctx body s.world
    let reply := packetBytes (replyAfter stream a.ending 0 a.payloads)
    ∃ sent, s'.written = s.written ++ sent ∧ sent <+: reply ∧
      (out = .ok .done → sent = reply) ∧
      (s.room = none → sent = reply ∧ out = a.ending.result.map fun _ => .done)

theorem withRequest_cases {k : List UInt8 → UInt64 → Serve ω Unit}
    {answer : List UInt8 → ω → Answer ω}
    (hk : ∀ body stream s, Gives stream (answer body s.world) s (k body stream))
    (s : Session ω) :
    (∃ rest, (withRequest k s).2 = { s with unread := rest }) ∨
      ∃ request rest, Reads s.unread [request] rest ∧ request.kind = .message ∧
        Gives request.id.stream (answer request.data s.world) { s with unread := rest }
          (k request.data request.id.stream) ∧
        withRequest k s = k request.data request.id.stream { s with unread := rest } := by
  rcases hread : readRequest s.unread with ⟨result, rest⟩
  cases result with
  | error e =>
    left
    refine ⟨rest, ?_⟩
    rw [withRequest, Effect.bind_error (receive_error hread)]
  | ok found =>
    cases found with
    | none =>
      left
      refine ⟨rest, ?_⟩
      rw [withRequest, Effect.bind_ok (receive_ok hread)]
      rfl
    | some pair =>
      right
      obtain ⟨body, stream⟩ := pair
      obtain ⟨request, hreads, hkind, rfl, rfl⟩ := readRequest_some hread
      refine ⟨request, rest, hreads, hkind, hk _ _ { s with unread := rest }, ?_⟩
      rw [withRequest, Effect.bind_ok (receive_ok hread)]

theorem then_done {m : Serve ω Unit} {s : Session ω} :
    (m >>= fun _ => pure (Served.done : Served β)) s =
      ((m s).1.map fun _ => .done, (m s).2) := by
  rcases hm : m s with ⟨result, s'⟩
  cases result with
  | ok u => rw [Effect.bind_ok hm]; rfl
  | error stop => rw [Effect.bind_error hm]; rfl

/-- The part after the `Invoke`, for whichever handler the method is routed to. -/
theorem answered_of_withRequest {handler : AgentRpcHandler ω} {streams : StreamRegistry ω β}
    (ctx : RpcContext) {k : List UInt8 → UInt64 → Serve ω Unit}
    (hk : ∀ body stream s,
      Gives stream (callAnswer handler streams ctx body s.world) s (k body stream))
    {s : Session ω} {mid : List UInt8} {metas : List Packet} {invoke : Packet}
    (hreads : Reads s.unread (metas ++ [invoke]) mid)
    (hmetas : ∀ p ∈ metas, p.kind = .invokeMetadata) (hlen : metas.length ≤ 16)
    (hraw : ctx.metadata.raw = metas.map (·.data)) (hinvoke : invoke.kind = .invoke)
    (hmethod : fromUtf8 invoke.data = some ctx.method)
    (hbidi : streams.lookupBidi ctx.method = none) :
    let run := (withRequest k >>= fun _ => pure (Served.done : Served β))
      { s with unread := mid }
    (∃ rest, run.2 = { s with unread := rest }) ∨
      ∃ ctx body stream, Answered handler streams s run.1 run.2 ctx body stream := by
  rw [then_done]
  dsimp only
  obtain ⟨rest, hidle⟩ | ⟨request, rest, hrequest, hkind, hgives, hrun⟩ :=
    withRequest_cases hk { s with unread := mid }
  · exact .inl ⟨rest, hidle⟩
  · right
    obtain ⟨sent, room, hsent, hstate, hall, hholds⟩ := hgives
    refine ⟨ctx, request.data, request.id.stream, ?_, hbidi, ?_, ?_, sent, ?_, hsent, ?_, ?_⟩
    · refine ⟨metas ++ [invoke] ++ [request], ?_,
        ⟨metas, invoke, request, by simp, hmetas, hlen, hraw, hinvoke, hmethod, hkind, rfl, rfl⟩⟩
      rw [hrun, hstate]
      exact hreads.append hrequest
    · rw [hrun, hstate]
    · rw [hrun, hstate]
    · rw [hrun, hstate]
    · intro hdone
      refine hall ?_
      rw [← hrun]
      cases hresult : (withRequest k { s with unread := mid }).1 with
      | ok u => rfl
      | error stop => rw [hresult] at hdone; cases hdone
    · intro hroom
      obtain ⟨-, hwhole, hfinal⟩ := hholds hroom
      exact ⟨hwhole, by rw [hrun, hfinal]⟩

/-- Past the `Invoke` a call goes to the handler that `callAnswer` asks. -/
theorem serveDrpcStream_routes [Utf8Refusal] (handler : AgentRpcHandler ω)
    (streams : StreamRegistry ω β) {s : Session ω} {raw : List (List UInt8)} {invoke : Packet}
    {mid : List UInt8} {method : String}
    (hinvoke : readInvoke 16 [] s.unread = (.ok (raw, invoke), mid))
    (hmethod : fromUtf8 invoke.data = some method)
    (hbidi : streams.lookupBidi method = none) :
    ∃ k : List UInt8 → UInt64 → Serve ω Unit,
      (∀ body stream s, Gives stream (callAnswer handler streams ⟨method, ⟨raw⟩⟩ body s.world) s
        (k body stream)) ∧
      serveDrpcStreamWithStreams handler streams s =
        (withRequest k >>= fun _ => pure .done) { s with unread := mid } := by
  rw [serveDrpcStreamWithStreams, Effect.bind_ok (receive_ok hinvoke)]
  simp only [hmethod, hbidi]
  cases hserver : streams.lookupServerStream method with
  | some serverStream =>
    refine ⟨invokeServerStream serverStream ⟨method, ⟨raw⟩⟩, fun body stream s => ?_, rfl⟩
    have hanswer : callAnswer handler streams ⟨method, ⟨raw⟩⟩ body s.world =
        streamAnswer serverStream ⟨method, ⟨raw⟩⟩ body s.world := by
      rw [callAnswer, hserver]
    rw [hanswer]
    exact invokeServerStream_gives _ _ _ _ _
  | none =>
    refine ⟨invokeUnary handler method, fun body stream s => ?_, rfl⟩
    have hanswer : callAnswer handler streams ⟨method, ⟨raw⟩⟩ body s.world =
        unaryAnswer handler method body s.world := by
      rw [callAnswer, hserver]
    rw [hanswer]
    exact invokeUnary_gives _ _ _ _ _

/-! ## A call and its reply, from end to end -/

/-- On a transport that holds, a server that is asked gives the whole answer and stops where the
request ends. -/
theorem serveDrpcStream_of_asks [Utf8Refusal] (handler : AgentRpcHandler ω)
    (streams : StreamRegistry ω β) {s : Session ω} {packets : List Packet} {rest : List UInt8}
    {ctx : RpcContext} {body : List UInt8} {stream : UInt64}
    (hreads : Reads s.unread packets rest) (hasks : Asks packets ctx body stream)
    (hbidi : streams.lookupBidi ctx.method = none) (hroom : s.room = none) :
    let a := callAnswer handler streams ctx body s.world
    serveDrpcStreamWithStreams handler streams s =
      (a.ending.result.map fun _ => .done,
        { s with
          unread := rest
          written := s.written ++ packetBytes (replyAfter stream a.ending 0 a.payloads)
          world := a.world
          asked := s.asked ++ a.asked }) := by
  dsimp only
  obtain ⟨metas, invoke, request, rfl, hmetas, hlen, hraw, hkind, hmethod, hrequest, rfl, rfl⟩ :=
    hasks.split
  have hcut : metas ++ [invoke, request] = metas ++ [invoke] ++ [request] := by simp
  rw [hcut] at hreads
  obtain ⟨mid, hfirst, hlast⟩ := hreads.of_append
  have hinvoke : readInvoke 16 [] s.unread = (.ok ([] ++ metas.map (·.data), invoke), mid) :=
    readInvoke_of_reads hfirst hmetas hlen hkind
  obtain ⟨k, hk, hrun⟩ := serveDrpcStream_routes handler streams hinvoke hmethod hbidi
  have hctx : (⟨ctx.method, ⟨[] ++ metas.map (·.data)⟩⟩ : RpcContext) = ctx := by
    rw [List.nil_append, ← hraw]
  rw [hctx] at hk
  obtain ⟨sent, room, -, hstate, -, hholds⟩ :=
    hk request.data request.id.stream { s with unread := rest }
  obtain ⟨rfl, rfl, hfinal⟩ := hholds hroom
  have hmid : withRequest k { s with unread := mid } =
      k request.data request.id.stream { s with unread := rest } := by
    rw [withRequest, Effect.bind_ok (receive_ok (readRequest_of_reads hlast hrequest))]
  rw [hrun, then_done, hmid, hstate, hfinal, ← hroom]

theorem reads_wire (cuts : List CutPacket) (rest : List UInt8)
    (hkind : ∀ c ∈ cuts, c.packet.kind.terminal = false)
    (hsize : ∀ c ∈ cuts, c.packet.data.length ≤ maxPacketSize) :
    Reads (wire cuts ++ rest) (cuts.map (·.packet)) rest := by
  induction cuts with
  | nil => rfl
  | cons c cuts ih =>
    have hread := readPacket_cut c (hkind c List.mem_cons_self) (hsize c List.mem_cons_self)
      (wire cuts ++ rest)
    refine ⟨wire cuts ++ rest, ?_, ih (fun d hd => hkind d (List.mem_cons_of_mem c hd))
      (fun d hd => hsize d (List.mem_cons_of_mem c hd))⟩
    rw [← hread]
    simp [wire]

/-- A packet of any kind written in one frame reads back. -/
theorem readPacket_writePacket (packet : Packet) (hsize : packet.data.length ≤ maxPacketSize) :
    readPacket.Decodes (writePacket packet) packet := by
  intro rest
  have hread := readFrame_writeFrame ⟨packet.kind, packet.id, packet.data, true⟩ hsize rest
  have hpush : (PacketReassembler.new.push ⟨packet.kind, packet.id, packet.data, true⟩).1 =
      .ok (some packet) := by
    by_cases hterm : packet.kind.terminal = true
    · simp [PacketReassembler.push, hterm]
    · have hnew : PacketReassembler.new.pending.lookup packet.id.stream = none :=
        AList.lookup_empty _
      simp [PacketReassembler.push, hterm, hnew, Nat.not_lt.mpr hsize]
  rw [readPacket, writePacket, readPacketLoop_ok hread]
  rcases hp : PacketReassembler.new.push ⟨packet.kind, packet.id, packet.data, true⟩ with ⟨res, r⟩
  rw [hp] at hpush
  obtain rfl : res = .ok (some packet) := hpush
  rfl

theorem readPackets_packetBytes (packets : List Packet)
    (hsize : ∀ p ∈ packets, p.data.length ≤ maxPacketSize) :
    readPackets (packets.length + 1) (packetBytes packets) =
      packets.map .ok ++ [.error .closed] := by
  induction packets with
  | nil => simp [readPackets, readPacket_nil]
  | cons p packets ih =>
    have hread := readPacket_writePacket p (hsize p List.mem_cons_self) (packetBytes packets)
    have hrest := ih fun q hq => hsize q (List.mem_cons_of_mem p hq)
    rw [List.length_cons, readPackets, packetBytes_cons, hread]
    simp [hrest]

/-- What a client writes for one call: metadata, the method and the request, each cut into
frames in some way. -/
structure ClientCall where
  metas : List CutPacket
  invoke : CutPacket
  request : CutPacket
  method : String
  metas_kind : ∀ c ∈ metas, c.packet.kind = .invokeMetadata
  metas_length : metas.length ≤ 16
  invoke_kind : invoke.packet.kind = .invoke
  invoke_data : invoke.packet.data = utf8Bytes method
  request_kind : request.packet.kind = .message
  size : ∀ c ∈ metas ++ [invoke, request], c.packet.data.length ≤ maxPacketSize

namespace ClientCall

def bytes (call : ClientCall) : List UInt8 := wire (call.metas ++ [call.invoke, call.request])

def context (call : ClientCall) : RpcContext := ⟨call.method, ⟨call.metas.map (·.packet.data)⟩⟩

def body (call : ClientCall) : List UInt8 := call.request.packet.data

def stream (call : ClientCall) : UInt64 := call.request.packet.id.stream

theorem asks (call : ClientCall) :
    Asks ((call.metas ++ [call.invoke, call.request]).map (·.packet)) call.context call.body
      call.stream where
  split := by
    refine ⟨call.metas.map (·.packet), call.invoke.packet, call.request.packet, by simp, ?_, ?_,
      by simp [context], call.invoke_kind, ?_, call.request_kind, rfl, rfl⟩
    · intro p hp
      obtain ⟨c, hc, rfl⟩ := List.mem_map.mp hp
      exact call.metas_kind c hc
    · simpa using call.metas_length
    · rw [call.invoke_data, fromUtf8_utf8Bytes]
      rfl

theorem reads (call : ClientCall) (rest : List UInt8) :
    Reads (call.bytes ++ rest) ((call.metas ++ [call.invoke, call.request]).map (·.packet))
      rest := by
  refine reads_wire _ rest ?_ call.size
  intro c hc
  have hkind : c.packet.kind = .invokeMetadata ∨ c.packet.kind = .invoke ∨
      c.packet.kind = .message := by
    simp only [List.mem_append, List.mem_cons, List.not_mem_nil, or_false] at hc
    obtain hc | rfl | rfl := hc
    · exact .inl (call.metas_kind c hc)
    · exact .inr (.inl call.invoke_kind)
    · exact .inr (.inr call.request_kind)
  obtain h | h | h := hkind <;> rw [h] <;> rfl

end ClientCall

/-- The body, twice. -/
def sampleStreams : StreamRegistry Nat Empty :=
  StreamRegistry.new.registerServerStream "/a" fun _ body n =>
    (.ok ⟨[.ok body, .ok body], true⟩, n + 1)

def sampleHandler : AgentRpcHandler Nat where
  Request _ := Unit
  Response _ := Unit
  decode _ _ := .ok ()
  encode _ _ := .ok []
  call _ _ := pure ()

def sampleCall : ClientCall where
  metas := [⟨⟨.invokeMetadata, ⟨5, 1⟩, [9]⟩, [[9]], by decide, rfl⟩]
  invoke := ⟨⟨.invoke, ⟨5, 2⟩, utf8Bytes "/a"⟩, [utf8Bytes "/a"], by decide, by simp⟩
  request := ⟨⟨.message, ⟨5, 3⟩, [1, 2]⟩, [[1], [2]], by decide, rfl⟩
  method := "/a"
  metas_kind := by decide
  metas_length := by decide
  invoke_kind := rfl
  invoke_data := rfl
  request_kind := rfl
  size := by decide

end Coderd.Drpc
