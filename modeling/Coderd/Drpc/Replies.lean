import Coderd.Drpc.Serving

namespace Coderd.Drpc
open Coderd.Foundation

variable {ω β α : Type}

/-! ## The reply to one call

What a handler answers, and the packets that say so. -/

/-- How a reply ends: with a `Close`, with an error, or not at all so far. -/
inductive Ending where
  | close
  | error (err : RpcError)
  | pending
  deriving DecidableEq, Repr

def Ending.packets (id : PacketId) : Ending → List Packet
  | .close => [⟨.close, id, []⟩]
  | .error err => [errorPacket id (rpcErrorToDrpc err).1 (rpcErrorToDrpc err).2]
  | .pending => []

/-- What the server returns once such a reply is written. -/
def Ending.result : Ending → Except Stop Unit
  | .pending => .error .waiting
  | _ => .ok ()

/-- The packets of a reply on `stream` after the one numbered `outMessage`: a message for each
payload, numbered one after the other, then the ending. -/
def replyAfter (stream : UInt64) (ending : Ending) :
    (outMessage : UInt64) → List (List UInt8) → List Packet
  | outMessage, [] => ending.packets ⟨stream, outMessage + 1⟩
  | outMessage, payload :: payloads =>
    ⟨.message, ⟨stream, outMessage + 1⟩, payload⟩ ::
      replyAfter stream ending (outMessage + 1) payloads

/-- The bytes of packets that are each written in one frame. -/
def packetBytes (packets : List Packet) : List UInt8 := packets.flatMap writePacket

@[simp] theorem packetBytes_nil : packetBytes [] = [] := rfl

@[simp] theorem packetBytes_cons (packet : Packet) (packets : List Packet) :
    packetBytes (packet :: packets) = writePacket packet ++ packetBytes packets := rfl

/-- The payloads before the first error. -/
def leadingPayloads : List (Except RpcError (List UInt8)) → List (List UInt8)
  | .ok payload :: items => payload :: leadingPayloads items
  | _ => []

def endingOf (ends : Bool) : List (Except RpcError (List UInt8)) → Ending
  | [] => if ends then .close else .pending
  | .ok _ :: items => endingOf ends items
  | .error err :: _ => .error err

/-! ## Writing -/

/-- All that `m` does is to write: a beginning of `bytes`, and the whole of them where it ends
well or the transport holds. It returns `final` where the transport holds. -/
def Writes (bytes : List UInt8) (final : Except Stop Unit) (m : Serve ω Unit) : Prop :=
  ∀ s, ∃ sent room, sent <+: bytes ∧
    (m s).2 = { s with written := s.written ++ sent, room := room } ∧
    ((m s).1 = .ok () → sent = bytes) ∧
    (s.room = none → room = none ∧ sent = bytes ∧ (m s).1 = final)

theorem send_writes (bytes : List UInt8) :
    Writes bytes (.ok ()) (Session.send bytes : Serve ω Unit) := by
  intro s
  cases hroom : s.room with
  | none =>
    have hsend : Session.send bytes s = (.ok (), { s with written := s.written ++ bytes }) := by
      rw [Session.send, hroom]
    rw [hsend, ← hroom]
    exact ⟨bytes, s.room, List.prefix_rfl, rfl, fun _ => rfl, fun h => ⟨h, rfl, rfl⟩⟩
  | some n =>
    by_cases hlen : bytes.length < n
    · exact ⟨bytes, some (n - bytes.length), List.prefix_rfl,
        by simp [Session.send, hroom, hlen], fun _ => rfl, fun h => by cases h⟩
    · refine ⟨bytes.take n, some 0, List.take_prefix n bytes,
        by simp [Session.send, hroom, hlen], ?_, fun h => by cases h⟩
      intro hok
      simp [Session.send, hroom, hlen] at hok

theorem fail_writes (stop : Stop) :
    Writes [] (.error stop) (Effect.fail stop : Serve ω Unit) := by
  intro s
  refine ⟨[], s.room, List.nil_prefix, by simp [Effect.fail], fun _ => rfl, ?_⟩
  intro hroom
  exact ⟨hroom, rfl, rfl⟩

theorem Writes.bind {xs ys : List UInt8} {final : Except Stop Unit} {m k : Serve ω Unit}
    (hm : Writes xs (.ok ()) m) (hk : Writes ys final k) :
    Writes (xs ++ ys) final (m >>= fun _ => k) := by
  intro s
  obtain ⟨sent, room, hsent, hstate, hall, hholds⟩ := hm s
  rcases hms : m s with ⟨out, mid⟩
  rw [hms] at hstate hall hholds
  cases out with
  | error stop =>
    rw [Effect.bind_error hms]
    refine ⟨sent, room, hsent.trans (List.prefix_append _ _), hstate, ?_, ?_⟩
    · intro h
      cases h
    · intro hroom
      cases (hholds hroom).2.2
  | ok u =>
    -- the first part is whole, so what the second adds goes on where it ends
    obtain rfl : sent = xs := hall rfl
    obtain ⟨sent', room', hsent', hstate', hall', hholds'⟩ := hk mid
    have hmid : mid = { s with written := s.written ++ sent, room := room } := hstate
    rw [Effect.bind_ok hms]
    refine ⟨sent ++ sent', room', (List.prefix_append_right_inj sent).mpr hsent', ?_, ?_, ?_⟩
    · rw [hstate', hmid]
      simp
    · intro h
      rw [hall' h]
    · intro hroom
      have hmidroom : mid.room = none := by rw [hmid, (hholds hroom).1]
      obtain ⟨hroom', hwhole, hfinal⟩ := hholds' hmidroom
      exact ⟨hroom', by rw [hwhole], hfinal⟩

theorem writeError_writes (id : PacketId) (err : RpcError) :
    Writes (packetBytes ((Ending.error err).packets id)) (.ok ())
      (writeError id err : Serve ω Unit) := by
  have h : Writes _ _ (Session.send (packetBytes ((Ending.error err).packets id)) : Serve ω Unit) :=
    send_writes _
  simpa [Ending.packets, writeError] using h

theorem close_writes (id : PacketId) :
    Writes (packetBytes (Ending.close.packets id)) (.ok ())
      (Session.send (writePacket ⟨.close, id, []⟩) : Serve ω Unit) := by
  have h : Writes _ _ (Session.send (packetBytes (Ending.close.packets id)) : Serve ω Unit) :=
    send_writes _
  simpa [Ending.packets] using h

/-- The loop writes the reply that the items make, whatever their number. -/
theorem forward_writes (stream : UInt64) (ends : Bool)
    (items : List (Except RpcError (List UInt8))) (outMessage : UInt64) :
    Writes (packetBytes (replyAfter stream (endingOf ends items) outMessage
        (leadingPayloads items)))
      (endingOf ends items).result (forward stream ends outMessage items : Serve ω Unit) := by
  induction items generalizing outMessage with
  | nil =>
    cases ends with
    | true => exact close_writes ⟨stream, outMessage + 1⟩
    | false => exact fail_writes _
  | cons item items ih =>
    cases item with
    | error err => exact writeError_writes ⟨stream, outMessage + 1⟩ err
    | ok payload => exact (send_writes _).bind (ih (outMessage + 1))

/-! ## A call as a function -/

/-- What a call comes to: the payloads and the ending of its reply, the world it leaves, and
what reached a handler. -/
structure Answer (ω : Type) where
  payloads : List (List UInt8)
  ending : Ending
  world : ω
  asked : List Invocation

def unaryAnswer (handler : AgentRpcHandler ω) (method : String) (body : List UInt8) (world : ω) :
    Answer ω :=
  match AgentMethod.fromPath method with
  | none => ⟨[], .error (.unimplemented method), world, []⟩
  | some m =>
    match handler.decode m body with
    | .error e => ⟨[], .error (.invalidArgument ("decode: " ++ e)), world, []⟩
    | .ok request =>
      match handler.call m request world with
      | (.error err, world) => ⟨[], .error err, world, [⟨method, body⟩]⟩
      | (.ok response, world) =>
        if m = .reportConnection then ⟨[[]], .close, world, [⟨method, body⟩]⟩
        else
          match handler.encode m response with
          | .error e => ⟨[], .error (.internal ("encode: " ++ e)), world, [⟨method, body⟩]⟩
          | .ok bytes => ⟨[bytes], .close, world, [⟨method, body⟩]⟩

def streamAnswer (handler : ServerStreamHandler ω) (ctx : RpcContext) (body : List UInt8)
    (world : ω) : Answer ω :=
  match handler ctx body world with
  | (.error err, world) => ⟨[], .error err, world, [⟨ctx.method, body⟩]⟩
  | (.ok responses, world) =>
    ⟨leadingPayloads responses.items, endingOf responses.ends responses.items, world,
      [⟨ctx.method, body⟩]⟩

/-- From `s` on, `m` gives the answer `a` on `stream`: the world and the record are those of the
answer, and the packets of its reply are written as far as the transport lets them. -/
def Gives (stream : UInt64) (a : Answer ω) (s : Session ω) (m : Serve ω Unit) : Prop :=
  ∃ sent room, sent <+: packetBytes (replyAfter stream a.ending 0 a.payloads) ∧
    (m s).2 = { s with
      written := s.written ++ sent
      room := room
      world := a.world
      asked := s.asked ++ a.asked } ∧
    ((m s).1 = .ok () → sent = packetBytes (replyAfter stream a.ending 0 a.payloads)) ∧
    (s.room = none → room = none ∧
      sent = packetBytes (replyAfter stream a.ending 0 a.payloads) ∧ (m s).1 = a.ending.result)

/-- After a computation that returns a value and touches only the world and the record. -/
theorem Gives.of_bind {stream : UInt64} {a : Answer ω} {s : Session ω} {m : Serve ω α}
    {k : α → Serve ω Unit} (value : α)
    (hm : m s = (.ok value, { s with world := a.world, asked := s.asked ++ a.asked }))
    (hk : Writes (packetBytes (replyAfter stream a.ending 0 a.payloads)) a.ending.result
      (k value)) :
    Gives stream a s (m >>= k) := by
  obtain ⟨sent, room, hsent, hstate, hall, hholds⟩ :=
    hk { s with world := a.world, asked := s.asked ++ a.asked }
  unfold Gives
  rw [Effect.bind_ok hm]
  exact ⟨sent, room, hsent, hstate, hall, hholds⟩

theorem invokeServerStream_gives (handler : ServerStreamHandler ω) (ctx : RpcContext)
    (body : List UInt8) (stream : UInt64) (s : Session ω) :
    Gives stream (streamAnswer handler ctx body s.world) s
      (invokeServerStream handler ctx body stream) := by
  rcases hcall : handler ctx body s.world with ⟨result, world⟩
  cases result with
  | error err =>
    have hanswer : streamAnswer handler ctx body s.world =
        ⟨[], .error err, world, [⟨ctx.method, body⟩]⟩ := by
      rw [streamAnswer, hcall]
    rw [hanswer]
    exact Gives.of_bind (.error err) (by rw [Session.ask, hcall])
      (writeError_writes ⟨stream, 1⟩ err)
  | ok responses =>
    have hanswer : streamAnswer handler ctx body s.world =
        ⟨leadingPayloads responses.items, endingOf responses.ends responses.items, world,
          [⟨ctx.method, body⟩]⟩ := by
      rw [streamAnswer, hcall]
    rw [hanswer]
    exact Gives.of_bind (.ok responses) (by rw [Session.ask, hcall])
      (forward_writes _ _ _ _)

/-- A reply that is an error and nothing else, from a dispatch that failed. -/
theorem invokeUnary_gives_error {handler : AgentRpcHandler ω} {method : String}
    {body : List UInt8} {stream : UInt64} {s : Session ω} {err : RpcError} {world : ω}
    {asked : List Invocation}
    (h : dispatch handler method body s =
      (.ok (.error err), { s with world := world, asked := s.asked ++ asked })) :
    Gives stream ⟨[], .error err, world, asked⟩ s (invokeUnary handler method body stream) :=
  Gives.of_bind (.error err) h (writeError_writes ⟨stream, 1⟩ err)

theorem invokeUnary_gives_response {handler : AgentRpcHandler ω} {method : String}
    {body : List UInt8} {stream : UInt64} {s : Session ω} {response : List UInt8} {world : ω}
    {asked : List Invocation}
    (h : dispatch handler method body s =
      (.ok (.ok response), { s with world := world, asked := s.asked ++ asked })) :
    Gives stream ⟨[response], .close, world, asked⟩ s (invokeUnary handler method body stream) :=
  Gives.of_bind (.ok response) h
    ((send_writes _).bind (close_writes ⟨stream, 2⟩))

theorem invokeUnary_gives (handler : AgentRpcHandler ω) (method : String) (body : List UInt8)
    (stream : UInt64) (s : Session ω) :
    Gives stream (unaryAnswer handler method body s.world) s
      (invokeUnary handler method body stream) := by
  cases hpath : AgentMethod.fromPath method with
  | none =>
    simp only [unaryAnswer, hpath]
    refine invokeUnary_gives_error ?_
    simp [dispatch, hpath, pure, Effect.pure]
  | some m =>
    cases hdecode : handler.decode m body with
    | error e =>
      simp only [unaryAnswer, hpath, hdecode]
      refine invokeUnary_gives_error ?_
      simp [dispatch, hpath, hdecode, pure, Effect.pure]
    | ok request =>
      rcases hcall : handler.call m request s.world with ⟨result, world⟩
      have hask : Session.ask ⟨method, body⟩ (handler.call m request) s =
          (.ok result, { s with world := world, asked := s.asked ++ [⟨method, body⟩] }) := by
        rw [Session.ask, hcall]
      cases result with
      | error err =>
        simp only [unaryAnswer, hpath, hdecode, hcall]
        refine invokeUnary_gives_error ?_
        simp only [dispatch, hpath, hdecode]
        rw [Effect.bind_ok hask]
        rfl
      | ok response =>
        by_cases hreport : m = .reportConnection
        · simp only [unaryAnswer, hpath, hdecode, hcall, if_pos hreport]
          refine invokeUnary_gives_response ?_
          simp only [dispatch, hpath, hdecode]
          rw [Effect.bind_ok hask]
          simp only [if_pos hreport]
          rfl
        · cases hencode : handler.encode m response with
          | error e =>
            simp only [unaryAnswer, hpath, hdecode, hcall, if_neg hreport, hencode]
            refine invokeUnary_gives_error ?_
            simp only [dispatch, hpath, hdecode]
            rw [Effect.bind_ok hask]
            simp only [if_neg hreport, hencode]
            rfl
          | ok bytes =>
            simp only [unaryAnswer, hpath, hdecode, hcall, if_neg hreport, hencode]
            refine invokeUnary_gives_response ?_
            simp only [dispatch, hpath, hdecode]
            rw [Effect.bind_ok hask]
            simp only [if_neg hreport, hencode]
            rfl

end Coderd.Drpc
