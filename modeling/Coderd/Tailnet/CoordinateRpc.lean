import Coderd.Drpc.Serving
import Coderd.Foundation.Interleaving
import Coderd.Foundation.Leases
import Coderd.Tailnet.ResumeTokens
import Coderd.Tailnet.Sessions

namespace Coderd.Tailnet.Rpc

open Coderd.Foundation
open Coderd.Drpc (RpcError)

/-! ## The `Coordinate` method

Of a request only the node key is looked at. -/

structure NodeKey where
  key : List UInt8
  deriving DecidableEq

structure UpdateSelf where
  node : Option NodeKey
  deriving DecidableEq

structure CoordinateRequest where
  updateSelf : Option UpdateSelf
  deriving DecidableEq

/-- What `prost` makes of the bytes of a request. -/
class Prost where
  decodeCoordinateRequest : List UInt8 → Except String CoordinateRequest

/-- The node's key, or no bytes. -/
def CoordinateRequest.key (request : CoordinateRequest) : List UInt8 :=
  ((request.updateSelf.bind UpdateSelf.node).map NodeKey.key).getD []

/-- `Uuid::from_bytes`. The most significant byte comes first. -/
def fromBytes (bytes : List UInt8) : Uuid :=
  ⟨BitVec.ofNat 128 (bytes.foldl (fun n byte => 256 * n + byte.toNat) 0)⟩

def peerIdFromKey [Sha256] (key : List UInt8) : Uuid := fromBytes ((Sha256.digest key).take 16)

/-- The peer is deregistered when this is dropped. -/
structure CoordinateSession where
  peerId : Uuid
  sessionId : Uuid
  deriving DecidableEq

inductive CoordinateState where
  | handshake
  | registered (guard : CoordinateSession)
  | done
  deriving DecidableEq

def CoordinateState.session : CoordinateState → Option CoordinateSession
  | registered guard => some guard
  | _ => none

theorem CoordinateState.registered_of_session {state : CoordinateState} {guard : CoordinateSession}
    (h : state.session = some guard) : state = .registered guard := by
  cases state with
  | registered held =>
    cases h
    rfl
  | handshake => cases h
  | done => cases h

variable {Node : Type}

/-- What dropping a state does to the coordinator. -/
def CoordinateState.drop (coordinator : Option (CoordinatorInner Node)) :
    CoordinateState → Option (CoordinatorInner Node)
  | registered guard =>
    coordinator.map fun inner => closeCoordination inner guard.peerId guard.sessionId
  | _ => coordinator

/-- The encoded form of `CoordinateResponse::default()`, in which no field is set. -/
def acknowledgement : List UInt8 := []

/-- The item, the state after it and the coordinator, once `incoming` has said what is next.
`connectedAt` and `sessionId` are what the coordinator gives a session that begins here. -/
def coordinateStep [Sha256] [UuidText] (coordinator : Option (CoordinatorInner Node))
    (connectedAt : Int) (sessionId : Uuid) (state : CoordinateState)
    (next : Option CoordinateRequest) :
    Option (Except RpcError (List UInt8)) × CoordinateState × Option (CoordinatorInner Node) :=
  match state, next with
  | .handshake, none =>
    (some (.error (.invalidArgument "coordinate: client closed before handshake")), .done,
      coordinator)
  | .handshake, some first =>
    if first.key.isEmpty then
      (some (.error (.invalidArgument "coordinate: update_self.node.key is required")), .done,
        coordinator)
    else
      match coordinator with
      | none =>
        (some (.error (.internal "coordinate: no tailnet coordinator configured")), .done, none)
      | some inner =>
        let peerId := peerIdFromKey first.key
        (some (.ok acknowledgement), .registered { peerId, sessionId },
          some (coordinate inner
            { id := peerId, name := UuidText.display peerId, kind := .client, connectedAt }
            sessionId))
  | .registered guard, some _ =>
    (some (.ok acknowledgement), .registered guard, coordinator)
  | .registered guard, none => (none, .done, CoordinateState.drop coordinator (.registered guard))
  | .done, _ => (none, .done, coordinator)

/-! ## The handler of one stream -/

/-- Where `invoke` is: it waits for the next item, it has one that the sink must take, or it has
come to an end. -/
inductive Invocation where
  | polling
  | sending (payload : List UInt8)
  | returned (result : Except RpcError Unit)
  | cancelled
  deriving DecidableEq

/-- A stream with the task that decodes its requests. `requests` are the frames that this task has
not taken, `incoming` the requests that it has passed on. `taken` and `responses` are a record of
what the handler took and what the sink took. -/
structure CoordinateStream where
  requests : List (List UInt8) := []
  requestsOpen : Bool := true
  decoding : Bool := true
  incoming : List CoordinateRequest := []
  state : CoordinateState := .handshake
  invocation : Invocation := .polling
  sinkOpen : Bool := true
  received : List (List UInt8) := []
  taken : List CoordinateRequest := []
  responses : List (List UInt8) := []
  deriving DecidableEq

/-- What can happen to a stream. The first two moves are those of the reader of the transport. -/
inductive StreamMove where
  | receive (frame : List UInt8)
  | hangUp
  | decode
  | poll (connectedAt : Int) (sessionId : Uuid)
  | send
  | closeSink
  | cancel
  deriving DecidableEq

namespace CoordinateStream

/-- The handler holds the receiving end of `incoming` until its stream of responses ends. -/
def listens (s : CoordinateStream) : Bool := s.state ≠ .done

def decode [Prost] (s : CoordinateStream) : CoordinateStream :=
  if s.decoding then
    match s.requests with
    | [] => if s.requestsOpen then s else { s with decoding := false }
    | bytes :: rest =>
      match Prost.decodeCoordinateRequest bytes with
      | .ok message =>
        if s.listens then { s with requests := rest, incoming := s.incoming ++ [message] }
        else { s with requests := rest, decoding := false }
      | .error _ => { s with requests := rest, decoding := false }
  else s

/-- `incoming.next()`, or nothing while more may come. -/
def next (s : CoordinateStream) : Option (Option CoordinateRequest) :=
  match s.incoming with
  | request :: _ => some (some request)
  | [] => if s.decoding then none else some none

/-- Drop the stream of responses, and with it what is left of `incoming`. -/
def finish (s : CoordinateStream) (invocation : Invocation)
    (coordinator : Option (CoordinatorInner Node)) :
    Option (CoordinatorInner Node) × CoordinateStream :=
  (CoordinateState.drop coordinator s.state,
    { s with state := .done, incoming := [], invocation })

/-- The handler takes what is next and does with the item what `invoke` does. -/
def advance [Sha256] [UuidText] (s : CoordinateStream)
    (coordinator : Option (CoordinatorInner Node)) (connectedAt : Int) (sessionId : Uuid)
    (next : Option CoordinateRequest) : Option (CoordinatorInner Node) × CoordinateStream :=
  let s := { s with incoming := s.incoming.tail, taken := s.taken ++ next.toList }
  match coordinateStep coordinator connectedAt sessionId s.state next with
  | (some (.ok payload), state, coordinator) =>
    (coordinator, { s with state, invocation := .sending payload })
  | (some (.error e), state, coordinator) =>
    finish { s with state } (.returned (.error e)) coordinator
  | (none, state, coordinator) => finish { s with state } (.returned (.ok ())) coordinator

def act [Prost] [Sha256] [UuidText] (s : CoordinateStream)
    (coordinator : Option (CoordinatorInner Node)) :
    StreamMove → Option (CoordinatorInner Node) × CoordinateStream
  | .receive frame =>
    if s.requestsOpen && s.decoding then
      (coordinator,
        { s with requests := s.requests ++ [frame], received := s.received ++ [frame] })
    else (coordinator, s)
  | .hangUp => (coordinator, { s with requestsOpen := false })
  | .decode => (coordinator, s.decode)
  | .poll connectedAt sessionId =>
    match s.invocation with
    | .polling =>
      match s.next with
      | some next => s.advance coordinator connectedAt sessionId next
      | none => (coordinator, s)
    | _ => (coordinator, s)
  | .send =>
    match s.invocation with
    | .sending payload =>
      if s.sinkOpen then
        (coordinator, { s with invocation := .polling, responses := s.responses ++ [payload] })
      else s.finish (.returned (.ok ())) coordinator
    | _ => (coordinator, s)
  | .closeSink => (coordinator, { s with sinkOpen := false })
  | .cancel =>
    match s.invocation with
    | .polling | .sending _ => s.finish .cancelled coordinator
    | _ => (coordinator, s)

end CoordinateStream

/-! ## All streams of a server -/

abbrev World (Node : Type) := Pool (Option (CoordinatorInner Node)) CoordinateStream

/-- Others call the same coordinator. -/
def program [Prost] [Sha256] [UuidText] :
    Program (Option (CoordinatorInner Node)) CoordinateStream Unit StreamMove (Call Node) where
  enter _ := {}
  advance coordinator s move := some (s.act coordinator move)
  outside coordinator call := coordinator.map call.apply

abbrev RpcMove (Node : Type) := Move Unit StreamMove (Call Node)

/-- A server that has just started, with or without a coordinator. -/
def World.start (configured : Bool) : World Node := ⟨if configured then some .new else none, []⟩

/-- The session that the coordinator has for a peer. -/
def sessionOf (coordinator : Option (CoordinatorInner Node)) (p : Uuid) : Option Uuid :=
  coordinator.bind fun inner => inner.sessionOf p

/-! ## What a client is answered -/

section

variable [Prost]

/-- The requests up to the first frame that is none. -/
def decodable : List (List UInt8) → List CoordinateRequest
  | [] => []
  | bytes :: rest =>
    match Prost.decodeCoordinateRequest bytes with
    | .ok message => message :: decodable rest
    | .error _ => []

theorem decodable_append {passed : List (List UInt8)} {messages : List CoordinateRequest}
    (h : passed.map Prost.decodeCoordinateRequest = messages.map .ok) (rest : List (List UInt8)) :
    decodable (passed ++ rest) = messages ++ decodable rest := by
  induction passed generalizing messages with
  | nil =>
    obtain rfl : messages = [] := by simpa using h.symm
    rfl
  | cons bytes passed ih =>
    cases messages with
    | nil => simp at h
    | cons message messages =>
      obtain ⟨hfirst, hpassed⟩ := List.cons.inj h
      simp only [List.cons_append, decodable, hfirst, ih hpassed]

end

/-- Why a stream is refused that begins with `first`, if it is. -/
def refusal (configured : Bool) : Option CoordinateRequest → Option RpcError
  | none => some (.invalidArgument "coordinate: client closed before handshake")
  | some first =>
    if first.key.isEmpty then
      some (.invalidArgument "coordinate: update_self.node.key is required")
    else if configured then none
    else some (.internal "coordinate: no tailnet coordinator configured")

/-- The items of the stream for a client that sends `requests` and then closes. -/
def answers (configured : Bool) (requests : List CoordinateRequest) :
    List (Except RpcError (List UInt8)) :=
  match refusal configured requests.head? with
  | some e => [.error e]
  | none => requests.map fun _ => .ok acknowledgement

namespace CoordinateStream

/-- The items that the stream has yielded, as far as they were passed on. -/
def items (s : CoordinateStream) : List (Except RpcError (List UInt8)) :=
  s.responses.map .ok ++
    match s.invocation with
    | .returned (.error e) => [.error e]
    | _ => []

variable [Prost]

/-- The requests that were passed on are those of the first frames, and nothing is held back but
what the decoding task has before it. -/
def Decodes (s : CoordinateStream) : Prop :=
  ∃ passed rest, s.received = passed ++ rest ∧
    passed.map Prost.decodeCoordinateRequest = (s.taken ++ s.incoming).map .ok ∧
    (s.listens = true → if s.decoding then rest = s.requests else decodable rest = [])

variable {s : CoordinateStream}

theorem Decodes.decodable (h : s.Decodes) : s.taken ++ s.incoming <+: decodable s.received := by
  obtain ⟨passed, rest, hreceived, hpassed, -⟩ := h
  rw [hreceived, decodable_append hpassed]
  exact List.prefix_append _ _

/-- Nothing more will come. -/
theorem Decodes.ended (h : s.Decodes) (hlistens : s.listens = true) (hend : s.decoding = false) :
    Rpc.decodable s.received = s.taken ++ s.incoming := by
  obtain ⟨passed, rest, hreceived, hpassed, hrest⟩ := h
  have hnone := hrest hlistens
  rw [hend, if_neg Bool.false_ne_true] at hnone
  rw [hreceived, decodable_append hpassed, hnone, List.append_nil]

theorem Decodes.receive (h : s.Decodes) (frame : List UInt8) (hdecoding : s.decoding = true) :
    Decodes { s with requests := s.requests ++ [frame], received := s.received ++ [frame] } := by
  obtain ⟨passed, rest, hreceived, hpassed, hrest⟩ := h
  refine ⟨passed, rest ++ [frame], ?_, hpassed, fun hlistens => ?_⟩
  · rw [hreceived, List.append_assoc]
  · have hbefore := hrest hlistens
    rw [hdecoding, if_pos rfl] at hbefore ⊢
    rw [hbefore]

theorem Decodes.decode (h : s.Decodes) : s.decode.Decodes := by
  obtain ⟨passed, rest, hreceived, hpassed, hrest⟩ := h
  unfold CoordinateStream.decode
  by_cases hdecoding : s.decoding = true
  · rw [if_pos hdecoding]
    cases hrequests : s.requests with
    | nil =>
      dsimp only
      split
      · exact ⟨passed, rest, hreceived, hpassed, hrest⟩
      · refine ⟨passed, rest, hreceived, hpassed, fun hlistens => ?_⟩
        have hbefore := hrest hlistens
        rw [if_pos hdecoding, hrequests] at hbefore
        rw [if_neg Bool.false_ne_true, hbefore]
        rfl
    | cons bytes more =>
      dsimp only
      cases hdecode : Prost.decodeCoordinateRequest bytes with
      | ok message =>
        by_cases hlistens : s.listens = true
        · have hbefore := hrest hlistens
          rw [if_pos hdecoding, hrequests] at hbefore
          simp only [hlistens, if_true]
          refine ⟨passed ++ [bytes], more, ?_, ?_, fun _ => ?_⟩
          · rw [hreceived, hbefore, List.append_assoc, List.singleton_append]
          · simp [hpassed, hdecode]
          · rw [if_pos hdecoding]
        · simp only [hlistens, Bool.false_eq_true, if_false]
          exact ⟨passed, rest, hreceived, hpassed, fun hlistens' => absurd hlistens' hlistens⟩
      | error e =>
        refine ⟨passed, rest, hreceived, hpassed, fun hlistens => ?_⟩
        have hbefore := hrest hlistens
        rw [if_pos hdecoding, hrequests] at hbefore
        rw [if_neg Bool.false_ne_true, hbefore]
        simp only [Rpc.decodable, hdecode]
  · rw [if_neg hdecoding]
    exact ⟨passed, rest, hreceived, hpassed, hrest⟩

/-- A stream that listens no longer may have dropped what was passed on and not taken. -/
theorem Decodes.mono (h : s.Decodes) {s' : CoordinateStream} (hreceived : s'.received = s.received)
    (hpart : s'.taken ++ s'.incoming <+: s.taken ++ s.incoming)
    (hsame : s'.listens = true → s.listens = true ∧
      s'.taken ++ s'.incoming = s.taken ++ s.incoming ∧ s'.decoding = s.decoding ∧
      s'.requests = s.requests) : s'.Decodes := by
  obtain ⟨passed, rest, hsplit, hpassed, hrest⟩ := h
  by_cases hlistens : s'.listens = true
  · obtain ⟨hbefore, hmessages, hdecoding, hrequests⟩ := hsame hlistens
    refine ⟨passed, rest, hreceived.trans hsplit, hmessages ▸ hpassed, fun _ => ?_⟩
    rw [hdecoding, hrequests]
    exact hrest hbefore
  · obtain ⟨dropped, hdropped⟩ := hpart
    rw [← hdropped, List.map_append, List.map_eq_append_iff] at hpassed
    obtain ⟨first, second, rfl, hfirst, -⟩ := hpassed
    refine ⟨first, second ++ rest, ?_, hfirst, fun hlistens' => absurd hlistens' hlistens⟩
    rw [hreceived, hsplit, List.append_assoc]

omit [Prost] in
/-- What the handler takes is what was passed on first. -/
theorem toList_append_tail {next : Option CoordinateRequest} (h : s.next = some next) :
    next.toList ++ s.incoming.tail = s.incoming := by
  unfold CoordinateStream.next at h
  split at h
  next request rest hincoming =>
    cases h
    rw [hincoming]
    rfl
  next hincoming =>
    split at h
    · cases h
    · cases h
      rw [hincoming]
      rfl

/-- Where the handler is told the end, everything was passed on and taken. -/
theorem Decodes.of_next_none (h : s.Decodes) (hnext : s.next = some none)
    (hlistens : s.listens = true) :
    s.decoding = false ∧ Rpc.decodable s.received = s.taken := by
  unfold CoordinateStream.next at hnext
  split at hnext
  · cases hnext
  next hincoming =>
    split at hnext
    · cases hnext
    next hdecoding =>
      have hdecoding : s.decoding = false := by simpa using hdecoding
      rw [h.ended hlistens hdecoding, hincoming, List.append_nil]
      exact ⟨hdecoding, rfl⟩

theorem Decodes.finish {Node : Type} (h : s.Decodes) (invocation : Invocation)
    (coordinator : Option (CoordinatorInner Node)) :
    (s.finish invocation coordinator).2.Decodes := by
  refine h.mono rfl ?_ fun hlistens => ?_
  · simp only [CoordinateStream.finish, List.append_nil]
    exact List.prefix_append _ _
  · simp [CoordinateStream.finish, listens] at hlistens

section

variable [Sha256] [UuidText] {Node : Type}

omit [Prost] in
theorem coordinateStep_done {coordinator : Option (CoordinatorInner Node)} {connectedAt : Int}
    {sessionId : Uuid} {next : Option CoordinateRequest} {state : CoordinateState}
    (h : (coordinateStep coordinator connectedAt sessionId state next).2.1 ≠ .done) :
    state ≠ .done := by
  rintro rfl
  exact h rfl

theorem Decodes.advance (h : s.Decodes) (coordinator : Option (CoordinatorInner Node))
    (connectedAt : Int) (sessionId : Uuid) {next : Option CoordinateRequest}
    (hnext : s.next = some next) :
    (s.advance coordinator connectedAt sessionId next).2.Decodes := by
  have htake : (s.taken ++ next.toList) ++ s.incoming.tail = s.taken ++ s.incoming := by
    rw [List.append_assoc, toList_append_tail hnext]
  have hdone : (coordinateStep coordinator connectedAt sessionId s.state next).2.1 ≠ .done →
      s.state ≠ .done := coordinateStep_done
  have hstep (state : CoordinateState) (hstate : state ≠ .done → s.state ≠ .done)
      (invocation : Invocation) : Decodes { s with
        incoming := s.incoming.tail, taken := s.taken ++ next.toList, state, invocation } := by
    refine h.mono rfl (htake ▸ List.prefix_rfl) fun hlistens => ⟨?_, htake, rfl, rfl⟩
    simp only [listens, decide_eq_true_eq] at hlistens ⊢
    exact hstate hlistens
  unfold CoordinateStream.advance
  dsimp only
  generalize coordinateStep coordinator connectedAt sessionId s.state next = result at hdone
  obtain ⟨item, state, coordinator'⟩ := result
  cases item with
  | none => exact (hstep state hdone s.invocation).finish _ _
  | some item =>
    cases item with
    | ok payload => exact hstep state hdone _
    | error e => exact (hstep state hdone s.invocation).finish _ _

theorem Decodes.act (h : s.Decodes) (coordinator : Option (CoordinatorInner Node))
    (move : StreamMove) : (s.act coordinator move).2.Decodes := by
  cases move with
  | receive frame =>
    simp only [CoordinateStream.act]
    split
    next hopen => exact h.receive frame (Bool.and_eq_true_iff.mp hopen).2
    next => exact h
  | hangUp => exact h
  | decode => exact h.decode
  | poll connectedAt sessionId =>
    simp only [CoordinateStream.act]
    cases s.invocation with
    | polling =>
      cases hnext : s.next with
      | some next => exact h.advance coordinator connectedAt sessionId hnext
      | none => exact h
    | sending payload => exact h
    | returned result => exact h
    | cancelled => exact h
  | send =>
    simp only [CoordinateStream.act]
    cases s.invocation with
    | sending payload =>
      dsimp only
      split
      · exact h
      · exact h.finish _ _
    | polling => exact h
    | returned result => exact h
    | cancelled => exact h
  | closeSink => exact h
  | cancel =>
    simp only [CoordinateStream.act]
    cases s.invocation with
    | polling => exact h.finish _ _
    | sending payload => exact h.finish _ _
    | returned result => exact h
    | cancelled => exact h

end

/-! ### Where the handler is -/

def acknowledgements (requests : List CoordinateRequest) : List (List UInt8) :=
  requests.map fun _ => acknowledgement

/-- The places where a handler can be, with what it has taken and passed on by then. -/
inductive Answering (configured : Bool) (s : CoordinateStream) : Prop where
  | handshake (hstate : s.state = .handshake) (hinvocation : s.invocation = .polling)
    (htaken : s.taken = []) (hresponses : s.responses = [])
  | waiting (guard : CoordinateSession) (hstate : s.state = .registered guard)
    (hinvocation : s.invocation = .polling) (haccepted : refusal configured s.taken.head? = none)
    (hresponses : s.responses = acknowledgements s.taken)
  | sending (guard : CoordinateSession) (hstate : s.state = .registered guard)
    (hinvocation : s.invocation = .sending acknowledgement)
    (haccepted : refusal configured s.taken.head? = none)
    (hresponses : s.responses ++ [acknowledgement] = acknowledgements s.taken)
  | refused (e : RpcError) (hstate : s.state = .done)
    (hinvocation : s.invocation = .returned (.error e))
    (hrefusal : refusal configured s.taken.head? = some e) (hresponses : s.responses = [])
    (hended : s.taken = [] → s.decoding = false ∧ Rpc.decodable s.received = [])
  | closed (hstate : s.state = .done) (hinvocation : s.invocation = .returned (.ok ()))
    (haccepted : refusal configured s.taken.head? = none)
    (hresponses : s.responses = acknowledgements s.taken)
    (hended : s.decoding = false ∧ Rpc.decodable s.received = s.taken)
  | broken (hstate : s.state = .done) (hinvocation : s.invocation = .returned (.ok ()))
    (haccepted : refusal configured s.taken.head? = none)
    (hresponses : s.responses ++ [acknowledgement] = acknowledgements s.taken)
    (hsink : s.sinkOpen = false)
  | cancelled (hstate : s.state = .done) (hinvocation : s.invocation = .cancelled)
    (haccepted : s.responses = [] ∨ refusal configured s.taken.head? = none)
    (hresponses : s.responses <+: acknowledgements s.taken)

variable {configured : Bool}

/-- A move that is not the handler's leaves it where it is. -/
theorem Answering.same (h : s.Answering configured) {s' : CoordinateStream}
    (hstate : s'.state = s.state) (hinvocation : s'.invocation = s.invocation)
    (htaken : s'.taken = s.taken) (hresponses : s'.responses = s.responses)
    (hsink : s.sinkOpen = false → s'.sinkOpen = false)
    (hfrozen : s.decoding = false → s'.decoding = false ∧ s'.received = s.received) :
    s'.Answering configured := by
  cases h with
  | handshake hs hi ht hr =>
    exact .handshake (hstate.trans hs) (hinvocation.trans hi) (htaken.trans ht)
      (hresponses.trans hr)
  | waiting guard hs hi ha hr =>
    exact .waiting guard (hstate.trans hs) (hinvocation.trans hi) (htaken ▸ ha)
      (by rw [hresponses, htaken, hr])
  | sending guard hs hi ha hr =>
    exact .sending guard (hstate.trans hs) (hinvocation.trans hi) (htaken ▸ ha)
      (by rw [hresponses, htaken, hr])
  | refused e hs hi ha hr he =>
    refine .refused e (hstate.trans hs) (hinvocation.trans hi) (htaken ▸ ha)
      (hresponses.trans hr) fun hnone => ?_
    obtain ⟨hdecoding, hreceived⟩ := he (htaken ▸ hnone)
    exact ⟨(hfrozen hdecoding).1, (hfrozen hdecoding).2 ▸ hreceived⟩
  | closed hs hi ha hr he =>
    refine .closed (hstate.trans hs) (hinvocation.trans hi) (htaken ▸ ha)
      (by rw [hresponses, htaken, hr]) ⟨(hfrozen he.1).1, ?_⟩
    rw [(hfrozen he.1).2, htaken]
    exact he.2
  | broken hs hi ha hr hb =>
    exact .broken (hstate.trans hs) (hinvocation.trans hi) (htaken ▸ ha)
      (by rw [hresponses, htaken, hr]) (hsink hb)
  | cancelled hs hi ha hr =>
    exact .cancelled (hstate.trans hs) (hinvocation.trans hi)
      (by rw [hresponses, htaken]; exact ha) (by rw [hresponses, htaken]; exact hr)

theorem Answering.of_polling (h : s.Answering configured) (hpolling : s.invocation = .polling) :
    (s.state = .handshake ∧ s.taken = [] ∧ s.responses = []) ∨
      ∃ guard, s.state = .registered guard ∧ refusal configured s.taken.head? = none ∧
        s.responses = acknowledgements s.taken := by
  cases h with
  | handshake hstate _ htaken hresponses => exact .inl ⟨hstate, htaken, hresponses⟩
  | waiting guard hstate _ haccepted hresponses =>
    exact .inr ⟨guard, hstate, haccepted, hresponses⟩
  | sending _ _ hinvocation => simp [hinvocation] at hpolling
  | refused _ _ hinvocation => simp [hinvocation] at hpolling
  | closed _ hinvocation => simp [hinvocation] at hpolling
  | broken _ hinvocation => simp [hinvocation] at hpolling
  | cancelled _ hinvocation => simp [hinvocation] at hpolling

theorem Answering.of_sending (h : s.Answering configured) {payload : List UInt8}
    (hsending : s.invocation = .sending payload) :
    ∃ guard, payload = acknowledgement ∧ s.state = .registered guard ∧
      refusal configured s.taken.head? = none ∧
        s.responses ++ [acknowledgement] = acknowledgements s.taken := by
  cases h with
  | sending guard hstate hinvocation haccepted hresponses =>
    rw [hinvocation] at hsending
    cases hsending
    exact ⟨guard, rfl, hstate, haccepted, hresponses⟩
  | handshake _ hinvocation => simp [hinvocation] at hsending
  | waiting _ _ hinvocation => simp [hinvocation] at hsending
  | refused _ _ hinvocation => simp [hinvocation] at hsending
  | closed _ hinvocation => simp [hinvocation] at hsending
  | broken _ hinvocation => simp [hinvocation] at hsending
  | cancelled _ hinvocation => simp [hinvocation] at hsending

theorem decode_frame (s : CoordinateStream) :
    s.decode.state = s.state ∧ s.decode.invocation = s.invocation ∧ s.decode.taken = s.taken ∧
      s.decode.responses = s.responses ∧ s.decode.sinkOpen = s.sinkOpen ∧
      (s.decoding = false → s.decode = s) := by
  unfold CoordinateStream.decode
  by_cases hdecoding : s.decoding = true
  · simp only [hdecoding, if_true, Bool.true_eq_false, false_implies, and_true]
    repeat' split
    all_goals exact ⟨rfl, rfl, rfl, rfl, rfl⟩
  · simp [hdecoding]

theorem Answering.decode (h : s.Answering configured) : s.decode.Answering configured := by
  obtain ⟨hstate, hinvocation, htaken, hresponses, hsink, hstopped⟩ := decode_frame s
  refine h.same hstate hinvocation htaken hresponses (fun hclosed => hsink.trans hclosed) ?_
  intro hdecoding
  rw [hstopped hdecoding]
  exact ⟨hdecoding, rfl⟩

section

variable [Sha256] [UuidText] {Node : Type} {coordinator : Option (CoordinatorInner Node)}

/-- The handler has taken what was next, or the end. -/
theorem Answering.advance (h : s.Answering configured) (hdecodes : s.Decodes)
    (hcoordinator : coordinator.isSome = configured) (hpolling : s.invocation = .polling)
    {next : Option CoordinateRequest} (hnext : s.next = some next) (connectedAt : Int)
    (sessionId : Uuid) :
    (s.advance coordinator connectedAt sessionId next).2.Answering configured := by
  obtain ⟨hstate, htaken, hresponses⟩ | ⟨guard, hstate, haccepted, hresponses⟩ :=
    h.of_polling hpolling
  · unfold CoordinateStream.advance
    cases next with
    | none =>
      obtain ⟨hdecoding, hreceived⟩ := hdecodes.of_next_none hnext (by simp [listens, hstate])
      rw [htaken] at hreceived
      simp only [hstate, coordinateStep, htaken]
      exact .refused _ rfl rfl rfl hresponses fun _ => ⟨hdecoding, hreceived⟩
    | some first =>
      have hfirst : (s.taken ++ [first]).head? = some first := by simp [htaken]
      have hsome : s.taken ++ [first] ≠ [] := by simp
      by_cases hkey : first.key.isEmpty = true
      · simp only [hstate, coordinateStep, hkey, if_true]
        refine .refused _ rfl rfl ?_ hresponses fun hnone => absurd hnone hsome
        show refusal configured (s.taken ++ [first]).head? = _
        rw [hfirst, refusal, if_pos hkey]
      · cases hconfigured : coordinator with
        | none =>
          rw [hconfigured] at hcoordinator
          simp only [hstate, coordinateStep, hkey]
          refine .refused _ rfl rfl ?_ hresponses fun hnone => absurd hnone hsome
          show refusal configured (s.taken ++ [first]).head? = _
          rw [hfirst, refusal, if_neg hkey, ← hcoordinator]
          rfl
        | some inner =>
          rw [hconfigured] at hcoordinator
          simp only [hstate, coordinateStep, hkey]
          refine .sending _ rfl rfl ?_ ?_
          · show refusal configured (s.taken ++ [first]).head? = _
            rw [hfirst, refusal, if_neg hkey, ← hcoordinator]
            rfl
          · show s.responses ++ [acknowledgement] = acknowledgements (s.taken ++ [first])
            rw [hresponses, htaken]
            rfl
  · unfold CoordinateStream.advance
    cases next with
    | none =>
      simp only [hstate, coordinateStep, Option.toList_none, List.append_nil]
      exact .closed rfl rfl haccepted hresponses
        (hdecodes.of_next_none hnext (by simp [listens, hstate]))
    | some request =>
      simp only [hstate, coordinateStep]
      refine .sending guard rfl rfl ?_ ?_
      · cases htaken : s.taken with
        | nil => simp [htaken, refusal] at haccepted
        | cons first rest => simpa [htaken] using haccepted
      · rw [hresponses]
        simp [acknowledgements]

omit [Sha256] [UuidText] in
/-- The handler is dropped in the middle. -/
theorem Answering.cancel (h : s.Answering configured)
    (hrunning : s.invocation = .polling ∨ s.invocation = .sending acknowledgement) :
    (s.finish .cancelled coordinator).2.Answering configured := by
  obtain hpolling | hsending := hrunning
  · obtain ⟨-, htaken, hresponses⟩ | ⟨guard, -, haccepted, hresponses⟩ := h.of_polling hpolling
    · refine .cancelled rfl rfl (.inl hresponses) ?_
      show s.responses <+: _
      rw [hresponses]
      exact List.nil_prefix
    · refine .cancelled rfl rfl (.inr haccepted) ?_
      show s.responses <+: acknowledgements s.taken
      rw [hresponses]
  · obtain ⟨guard, -, -, haccepted, hresponses⟩ := h.of_sending hsending
    refine .cancelled rfl rfl (.inr haccepted) ?_
    show s.responses <+: acknowledgements s.taken
    rw [← hresponses]
    exact List.prefix_append _ _

theorem Answering.act (h : s.Answering configured) (hdecodes : s.Decodes)
    (hcoordinator : coordinator.isSome = configured) (move : StreamMove) :
    (s.act coordinator move).2.Answering configured := by
  cases move with
  | receive frame =>
    simp only [CoordinateStream.act]
    split
    next hopen =>
      have hdecoding := (Bool.and_eq_true_iff.mp hopen).2
      refine h.same rfl rfl rfl rfl id fun hstopped => ?_
      rw [hstopped] at hdecoding
      cases hdecoding
    next => exact h
  | hangUp => exact h.same rfl rfl rfl rfl id fun hstopped => ⟨hstopped, rfl⟩
  | closeSink => exact h.same rfl rfl rfl rfl (fun _ => rfl) fun hstopped => ⟨hstopped, rfl⟩
  | decode => exact h.decode
  | poll connectedAt sessionId =>
    simp only [CoordinateStream.act]
    cases hinvocation : s.invocation with
    | polling =>
      cases hnext : s.next with
      | some next => exact h.advance hdecodes hcoordinator hinvocation hnext connectedAt sessionId
      | none => exact h
    | sending payload => exact h
    | returned result => exact h
    | cancelled => exact h
  | send =>
    simp only [CoordinateStream.act]
    cases hinvocation : s.invocation with
    | sending payload =>
      obtain ⟨guard, rfl, hstate, haccepted, hresponses⟩ := h.of_sending hinvocation
      dsimp only
      split
      · exact .waiting guard hstate rfl haccepted hresponses
      next hsink =>
        refine .broken rfl rfl haccepted hresponses ?_
        show s.sinkOpen = false
        simpa using hsink
    | polling => exact h
    | returned result => exact h
    | cancelled => exact h
  | cancel =>
    simp only [CoordinateStream.act]
    cases hinvocation : s.invocation with
    | polling => exact h.cancel (.inl hinvocation)
    | sending payload =>
      obtain ⟨-, rfl, -⟩ := h.of_sending hinvocation
      exact h.cancel (.inr hinvocation)
    | returned result => exact h
    | cancelled => exact h

end

/-! ### What it passes on -/

omit [Prost] in
theorem head?_of_isPrefix {taken requests : List CoordinateRequest} (h : taken <+: requests)
    (hsome : taken ≠ []) : requests.head? = taken.head? := by
  obtain ⟨rest, rfl⟩ := h
  rw [List.head?_append_of_ne_nil _ hsome]

omit [Prost] in
/-- A client that was accepted gets an acknowledgement for each request. -/
theorem acknowledged {taken requests : List CoordinateRequest} (h : taken <+: requests)
    (haccepted : refusal configured taken.head? = none) :
    (acknowledgements taken).map .ok <+: answers configured requests := by
  have hsome : taken ≠ [] := by
    rintro rfl
    cases haccepted
  rw [answers, head?_of_isPrefix h hsome, haccepted, acknowledgements, List.map_map]
  exact h.map _

theorem Answering.items_isPrefix (h : s.Answering configured) (hdecodes : s.Decodes) :
    s.items <+: answers configured (Rpc.decodable s.received) := by
  have htaken : s.taken <+: Rpc.decodable s.received :=
    (List.prefix_append _ _).trans hdecodes.decodable
  have hresponses {responses : List (List UInt8)} (hpart : responses <+: acknowledgements s.taken)
      (haccepted : refusal configured s.taken.head? = none) :
      responses.map .ok <+: answers configured (Rpc.decodable s.received) :=
    (hpart.map _).trans (acknowledged htaken haccepted)
  cases h with
  | handshake _ hinvocation _ hnone => simp [items, hinvocation, hnone]
  | waiting _ _ hinvocation haccepted hall =>
    simpa [items, hinvocation] using hresponses (hall ▸ List.prefix_rfl) haccepted
  | sending _ _ hinvocation haccepted hall =>
    simpa [items, hinvocation] using hresponses (hall ▸ List.prefix_append _ _) haccepted
  | refused e _ hinvocation hrefusal hnone hended =>
    have hhead : refusal configured (Rpc.decodable s.received).head? = some e := by
      by_cases hempty : s.taken = []
      · rw [(hended hempty).2, ← hempty]
        exact hrefusal
      · rw [head?_of_isPrefix htaken hempty]
        exact hrefusal
    simp [items, hinvocation, hnone, answers, hhead]
  | closed _ hinvocation haccepted hall =>
    simpa [items, hinvocation] using hresponses (hall ▸ List.prefix_rfl) haccepted
  | broken _ hinvocation haccepted hall =>
    simpa [items, hinvocation] using hresponses (hall ▸ List.prefix_append _ _) haccepted
  | cancelled _ hinvocation haccepted hpart =>
    obtain hnone | haccepted := haccepted
    · simp [items, hinvocation, hnone]
    · simpa [items, hinvocation] using hresponses hpart haccepted

/-- A handler that has returned to a client that still listens has passed on everything. -/
theorem Answering.items_whole (h : s.Answering configured) (hdecodes : s.Decodes)
    {result : Except RpcError Unit} (hreturned : s.invocation = .returned result)
    (hsink : s.sinkOpen = true) : s.items = answers configured (Rpc.decodable s.received) := by
  have hpart := h.items_isPrefix hdecodes
  cases h with
  | refused e _ hinvocation hrefusal hnone hended =>
    have hitems : s.items = [.error e] := by simp [items, hinvocation, hnone]
    rw [hitems, answers] at hpart ⊢
    split at hpart
    · exact hpart.eq_of_length rfl
    · obtain ⟨rest, hrest⟩ := hpart
      cases hreceived : Rpc.decodable s.received with
      | nil => simp [hreceived] at hrest
      | cons first later => simp [hreceived] at hrest
  | closed _ hinvocation haccepted hall hended =>
    rw [hended.2]
    simp [items, hinvocation, hall, answers, haccepted, acknowledgements]
  | broken _ _ _ _ hbroken => simp [hsink] at hbroken
  | handshake _ hinvocation => simp [hinvocation] at hreturned
  | waiting _ _ hinvocation => simp [hinvocation] at hreturned
  | sending _ _ hinvocation => simp [hinvocation] at hreturned
  | cancelled _ hinvocation => simp [hinvocation] at hreturned

end CoordinateStream

end Coderd.Tailnet.Rpc
