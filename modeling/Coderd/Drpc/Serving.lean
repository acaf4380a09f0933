import Coderd.Drpc.RoundTrip
import Coderd.Foundation.Unicode

namespace Coderd.Drpc
open Coderd.Foundation

/-! ## Handlers -/

inductive RpcError where
  | unimplemented (message : String)
  | invalidArgument (message : String)
  | internal (message : String)
  deriving DecidableEq, Repr

/-- The error codes `DRPC_ERR_UNIMPLEMENTED`, `DRPC_ERR_INVALID_ARGUMENT` and
`DRPC_ERR_INTERNAL`, each with the text that goes with it. -/
def rpcErrorToDrpc : RpcError → UInt64 × String
  | .unimplemented m => (12, "unimplemented: " ++ m)
  | .invalidArgument m => (3, "invalid argument: " ++ m)
  | .internal m => (13, "internal: " ++ m)

/-- The payloads of the `InvokeMetadata` packets, in order. -/
structure InvokeMetadata where
  raw : List (List UInt8)
  deriving DecidableEq, Repr

structure RpcContext where
  method : String
  metadata : InvokeMetadata
  deriving DecidableEq, Repr

/-- What a handler's stream yields. One that does not end leaves the server waiting for the
next item. -/
structure ResponseStream where
  items : List (Except RpcError (List UInt8))
  ends : Bool

abbrev ServerStreamHandler (ω : Type) :=
  RpcContext → List UInt8 → Effect ω RpcError ResponseStream

inductive AgentMethod where
  | getManifest
  | getAnnouncementBanners
  | updateStartup
  | batchUpdateAppHealths
  | updateStats
  | updateLifecycle
  | batchCreateLogs
  | batchUpdateMetadata
  | scriptCompleted
  | getServiceBanner
  | reportConnection
  | getResourcesMonitoringConfiguration
  | pushResourcesMonitoringUsage
  | createSubAgent
  | deleteSubAgent
  | listSubAgents
  | reportBoundaryLogs
  | updateAppStatus
  deriving DecidableEq, Repr

/-- The arms of the `match` in `dispatch`. -/
def AgentMethod.fromPath : String → Option AgentMethod
  | "/coder.agent.v2.Agent/GetManifest" => some .getManifest
  | "/coder.agent.v2.Agent/GetAnnouncementBanners" => some .getAnnouncementBanners
  | "/coder.agent.v2.Agent/UpdateStartup" => some .updateStartup
  | "/coder.agent.v2.Agent/BatchUpdateAppHealths" => some .batchUpdateAppHealths
  | "/coder.agent.v2.Agent/UpdateStats" => some .updateStats
  | "/coder.agent.v2.Agent/UpdateLifecycle" => some .updateLifecycle
  | "/coder.agent.v2.Agent/BatchCreateLogs" => some .batchCreateLogs
  | "/coder.agent.v2.Agent/BatchUpdateMetadata" => some .batchUpdateMetadata
  | "/coder.agent.v2.Agent/ScriptCompleted" => some .scriptCompleted
  | "/coder.agent.v2.Agent/GetServiceBanner" => some .getServiceBanner
  | "/coder.agent.v2.Agent/ReportConnection" => some .reportConnection
  | "/coder.agent.v2.Agent/GetResourcesMonitoringConfiguration" =>
    some .getResourcesMonitoringConfiguration
  | "/coder.agent.v2.Agent/PushResourcesMonitoringUsage" => some .pushResourcesMonitoringUsage
  | "/coder.agent.v2.Agent/CreateSubAgent" => some .createSubAgent
  | "/coder.agent.v2.Agent/DeleteSubAgent" => some .deleteSubAgent
  | "/coder.agent.v2.Agent/ListSubAgents" => some .listSubAgents
  | "/coder.agent.v2.Agent/ReportBoundaryLogs" => some .reportBoundaryLogs
  | "/coder.agent.v2.Agent/UpdateAppStatus" => some .updateAppStatus
  | _ => none

/-- An `AgentRpcHandler` over a world `ω`, with the protobuf messages of its methods and what
`prost` makes of their bytes. -/
structure AgentRpcHandler (ω : Type) where
  Request : AgentMethod → Type
  Response : AgentMethod → Type
  decode : (m : AgentMethod) → List UInt8 → Except String (Request m)
  encode : (m : AgentMethod) → Response m → Except String (List UInt8)
  call : (m : AgentMethod) → Request m → Effect ω RpcError (Response m)

/-- `β` is what stands for the handler of a bidi stream. -/
structure StreamRegistry (ω β : Type) where
  serverStreams : HashMap String (ServerStreamHandler ω)
  bidiStreams : HashMap String β

namespace StreamRegistry

variable {ω β : Type}

def new : StreamRegistry ω β := ⟨∅, ∅⟩

def registerServerStream (r : StreamRegistry ω β) (method : String)
    (handler : ServerStreamHandler ω) : StreamRegistry ω β :=
  { r with serverStreams := r.serverStreams.insert method handler }

def registerBidi (r : StreamRegistry ω β) (method : String) (handler : β) :
    StreamRegistry ω β :=
  { r with bidiStreams := r.bidiStreams.insert method handler }

def has (r : StreamRegistry ω β) (method : String) : Bool :=
  (r.serverStreams.lookup method).isSome || (r.bidiStreams.lookup method).isSome

def lookupServerStream (r : StreamRegistry ω β) (method : String) :
    Option (ServerStreamHandler ω) :=
  r.serverStreams.lookup method

def lookupBidi (r : StreamRegistry ω β) (method : String) : Option β :=
  r.bidiStreams.lookup method

end StreamRegistry

/-! ## One stream and its server -/

/-- A request that reached a handler. -/
structure Invocation where
  method : String
  body : List UInt8
  deriving DecidableEq, Repr

/-- The bytes the client sends until it closes, those written back, and the world of the
handlers. `room` tells when the transport breaks: after that many more bytes. `asked` is the
record of what reached a handler, which the server does not read. -/
structure Session (ω : Type) where
  unread : List UInt8
  written : List UInt8
  room : Option Nat
  world : ω
  asked : List Invocation

inductive Stop where
  | error (e : DrpcError)
  /-- `DrpcError::Io` of a write. -/
  | writeFailed
  /-- The handler's stream has nothing to yield. -/
  | waiting
  deriving DecidableEq, Repr

abbrev Serve (ω α : Type) := Effect (Session ω) Stop α

/-- `u64::to_be_bytes`. -/
def codeBytes (code : UInt64) : List UInt8 :=
  [(code >>> 56).toUInt8, (code >>> 48).toUInt8, (code >>> 40).toUInt8, (code >>> 32).toUInt8,
    (code >>> 24).toUInt8, (code >>> 16).toUInt8, (code >>> 8).toUInt8, code.toUInt8]

/-- The packet that `write_error` writes. -/
def errorPacket (id : PacketId) (code : UInt64) (message : String) : Packet :=
  ⟨.error, id, codeBytes code ++ utf8Bytes message⟩

variable {ω β α : Type}

namespace Session

/-- Read from the client. -/
def receive (reader : Reader α) : Serve ω α := fun s =>
  match reader s.unread with
  | (.ok a, rest) => (.ok a, { s with unread := rest })
  | (.error e, rest) => (.error (.error e), { s with unread := rest })

/-- Ask a handler; its error is a value to the server. -/
def ask (invocation : Invocation) (m : Effect ω RpcError α) :
    Serve ω (Except RpcError α) := fun s =>
  (.ok (m s.world).1, { s with world := (m s.world).2, asked := s.asked ++ [invocation] })

/-- `write_all` and `flush`. A transport that breaks has taken the first bytes, or all of them
and failed in the flush. -/
def send (bytes : List UInt8) : Serve ω Unit := fun s =>
  match s.room with
  | none => (.ok (), { s with written := s.written ++ bytes })
  | some n =>
    if bytes.length < n then
      (.ok (), { s with written := s.written ++ bytes, room := some (n - bytes.length) })
    else (.error .writeFailed, { s with written := s.written ++ bytes.take n, room := some 0 })

end Session

open Session

/-- The loop of `serve_drpc_stream_with_streams` over the packets before the `Invoke`: `left`
more of the `MAX_INVOKE_METADATA_PACKETS` may be metadata. -/
def readInvoke : (left : Nat) → (raw : List (List UInt8)) → Reader (List (List UInt8) × Packet)
  | left, raw => do
    let p ← readPacket
    match p.kind with
    | .invokeMetadata =>
      match left with
      | 0 => Effect.fail (.protocol "too many InvokeMetadata packets (>16) before Invoke")
      | left + 1 => readInvoke left (raw ++ [p.data])
    | .invoke => pure (raw, p)
    | other => Effect.fail (.protocol ("expected Invoke, got " ++ other.debug))

/-- The read at the head of `drive_unary` and of `drive_server_stream`: the body of the request
and the stream it came on, or nothing when the client has given up. -/
def readRequest : Reader (Option (List UInt8 × UInt64)) := do
  let p ← readPacket
  match p.kind with
  | .message => pure (some (p.data, p.id.stream))
  | .closeSend =>
    Effect.fail (.protocol "client CloseSend before sending request body")
  | .cancel | .close => pure none
  | other =>
    Effect.fail (.protocol ("unexpected packet " ++ other.debug ++ " while reading request"))

def dispatch (handler : AgentRpcHandler ω) (method : String) (body : List UInt8) :
    Serve ω (Except RpcError (List UInt8)) :=
  match AgentMethod.fromPath method with
  | none => pure (.error (.unimplemented method))
  | some m =>
    match handler.decode m body with
    | .error e => pure (.error (.invalidArgument ("decode: " ++ e)))
    | .ok request => do
      match ← ask ⟨method, body⟩ (handler.call m request) with
      | .error err => pure (.error err)
      | .ok response =>
        -- an empty message, which is not encoded
        if m = .reportConnection then pure (.ok [])
        else
          match handler.encode m response with
          | .error e => pure (.error (.internal ("encode: " ++ e)))
          | .ok bytes => pure (.ok bytes)

def writeError (id : PacketId) (err : RpcError) : Serve ω Unit :=
  send (writePacket (errorPacket id (rpcErrorToDrpc err).1 (rpcErrorToDrpc err).2))

/-- What `drive_unary` and `drive_server_stream` have in common: without a request nothing is
done. -/
def withRequest (serve : List UInt8 → UInt64 → Serve ω Unit) : Serve ω Unit := do
  match ← receive readRequest with
  | none => pure ()
  | some (body, stream) => serve body stream

def invokeUnary (handler : AgentRpcHandler ω) (method : String) (body : List UInt8)
    (stream : UInt64) : Serve ω Unit := do
  match ← dispatch handler method body with
  | .ok response => do
    send (writePacket ⟨.message, ⟨stream, 1⟩, response⟩)
    send (writePacket ⟨.close, ⟨stream, 2⟩, []⟩)
  | .error err => writeError ⟨stream, 1⟩ err

def driveUnary (handler : AgentRpcHandler ω) (method : String) : Serve ω Unit :=
  withRequest (invokeUnary handler method)

/-- The loop over the handler's stream, `outMessage` being the number last written. -/
def forward (stream : UInt64) (ends : Bool) :
    (outMessage : UInt64) → List (Except RpcError (List UInt8)) → Serve ω Unit
  | outMessage, [] =>
    if ends then send (writePacket ⟨.close, ⟨stream, outMessage + 1⟩, []⟩)
    else Effect.fail .waiting
  | outMessage, .ok payload :: items => do
    send (writePacket ⟨.message, ⟨stream, outMessage + 1⟩, payload⟩)
    forward stream ends (outMessage + 1) items
  | outMessage, .error err :: _ => writeError ⟨stream, outMessage + 1⟩ err

def invokeServerStream (handler : ServerStreamHandler ω) (ctx : RpcContext) (body : List UInt8)
    (stream : UInt64) : Serve ω Unit := do
  match ← ask ⟨ctx.method, body⟩ (handler ctx body) with
  | .error err => writeError ⟨stream, 1⟩ err
  | .ok responses => forward stream responses.ends 0 responses.items

def driveServerStream (handler : ServerStreamHandler ω) (ctx : RpcContext) : Serve ω Unit :=
  withRequest (invokeServerStream handler ctx)

/-- How far the sequential part goes: a bidi stream is handed to its handler. -/
inductive Served (β : Type) where
  | done
  | bidi (handler : β) (ctx : RpcContext) (stream : UInt64)

def serveDrpcStreamWithStreams [Utf8Refusal] (handler : AgentRpcHandler ω)
    (streams : StreamRegistry ω β) : Serve ω (Served β) := do
  let (raw, invoke) ← receive (readInvoke 16 [])
  match fromUtf8 invoke.data with
  | none =>
    Effect.fail (.error (.protocol ("invalid method utf-8: " ++ Utf8Refusal.text invoke.data)))
  | some method =>
    match streams.lookupBidi method with
    | some bidi => pure (.bidi bidi ⟨method, ⟨raw⟩⟩ invoke.id.stream)
    | none =>
      match streams.lookupServerStream method with
      | some serverStream => do
        driveServerStream serverStream ⟨method, ⟨raw⟩⟩
        pure .done
      | none => do
        driveUnary handler method
        pure .done

/-- `serve_drpc_stream`: nothing is registered. -/
def serveDrpcStream [Utf8Refusal] (handler : AgentRpcHandler ω) : Serve ω (Served Empty) :=
  serveDrpcStreamWithStreams handler .new

end Coderd.Drpc
