import Coderd.Foundation.Broadcast
import Coderd.Foundation.HashMap
import Coderd.Foundation.Interleaving
import Coderd.Foundation.Unicode

namespace Coderd.Pubsub

open Coderd.Foundation

inductive PubSubError where
  | unavailable (message : String)
  | closed
  deriving DecidableEq, Repr

/-- Commands to the background task. -/
inductive ListenerCommand where
  | listen (channel : String)
  | unlisten (channel : String)
  | close
  deriving DecidableEq, Repr

structure Notification where
  channel : String
  payload : String
  deriving DecidableEq, Repr

def broadcastCapacity : Nat := 2048

/-- A subscription: the broadcast channel it receives from, by id, and its place on it. It is
`handed` once `subscribe` has returned it, and `held` until it is dropped. `since` is the record
of how many notifications had come in when it was made. -/
structure Subscription where
  channel : String
  hub : Nat
  receiver : Broadcast.Receiver (List UInt8)
  since : Nat
  handed : Bool
  held : Bool

/-- The process and its connection. `channels` maps a name to the id of its broadcast channel;
the sender of a channel is dropped with its entry. `issued` and `delivered` are records of the
notifications that were sent by anyone, and of those the background task has received. -/
structure State where
  closed : Bool
  channels : HashMap String Nat
  hubs : Nat → Broadcast (List UInt8)
  hubCount : Nat
  subs : List Subscription
  commands : List ListenerCommand
  running : Bool
  listened : List String
  inflight : List Notification
  issued : List Notification
  delivered : List Notification

namespace State

def new : State where
  closed := false
  channels := ∅
  hubs _ := .new broadcastCapacity
  hubCount := 0
  subs := []
  commands := []
  running := true
  listened := []
  inflight := []
  issued := []
  delivered := []

/-- `NOTIFY`, from this process or another: it reaches the connection if that listens. -/
def notify (s : State) (n : Notification) : State :=
  { s with
    issued := s.issued ++ [n]
    inflight := if n.channel ∈ s.listened then s.inflight ++ [n] else s.inflight }

/-- `command_tx.send`, which fails when the background task is gone. -/
def sendCommand (s : State) (command : ListenerCommand) : State :=
  if s.running then { s with commands := s.commands ++ [command] } else s

/-- `sender.subscribe()`. -/
def addSubscription (s : State) (channel : String) (hub : Nat) (handed : Bool) : State :=
  { s with
    subs := s.subs ++ [⟨channel, hub, (s.hubs hub).subscribe, s.delivered.length, handed, true⟩] }

def insertHub (s : State) (channel : String) : State :=
  { s with
    channels := s.channels.insert channel s.hubCount
    hubs := Function.update s.hubs s.hubCount (.new broadcastCapacity)
    hubCount := s.hubCount + 1 }

def removeChannel (s : State) (channel : String) : State :=
  { s with channels := s.channels.erase channel }

/-- `sender.receiver_count()`. -/
def receiverCount (s : State) (hub : Nat) : Nat := s.subs.countP fun sub => sub.hub = hub && sub.held

def updateSub (s : State) (i : Nat) (f : Subscription → Subscription) : State :=
  { s with subs := s.subs.modify i f }

end State

/-! ## The calls

Where a call is between two of its steps: each step that takes the lock, sends a command or asks
the database is one. -/

inductive Call where
  | subscribe (channel : String)
  /-- Before `Listen` is sent, with the subscription in hand. -/
  | sendListen (channel : String) (sub : Nat)
  /-- After that failed, before the lock is taken again. -/
  | undoListen (channel : String) (sub : Nat)
  | publish (channel : String) (message : List UInt8)
  | notify (n : Notification)
  | cleanup (channel : String)
  /-- After the entry is removed, before `Unlisten` is sent. -/
  | sendUnlisten (channel : String)
  | close
  | sendClose
  | joining
  | returned (result : Except PubSubError (Option Nat))
  deriving DecidableEq

/-- What the database does with a query: it fails with a text, and has done it or not. -/
structure Choice where
  fails : Option String
  committed : Bool

open State

def advance [Utf8Refusal] (s : State) (call : Call) (choice : Choice) : Option (State × Call) :=
  match call with
  | .subscribe channel =>
    if s.closed then some (s, .returned (.error .closed))
    else
      match s.channels.lookup channel with
      | some hub =>
        some (s.addSubscription channel hub true, .returned (.ok (some s.subs.length)))
      | none =>
        some ((s.insertHub channel).addSubscription channel s.hubCount false,
          .sendListen channel s.subs.length)
  | .sendListen channel sub =>
    if s.running then
      some ((s.sendCommand (.listen channel)).updateSub sub fun sub => { sub with handed := true },
        .returned (.ok (some sub)))
    else some (s, .undoListen channel sub)
  | .undoListen channel sub =>
    some ((s.removeChannel channel).updateSub sub fun sub => { sub with held := false },
      .returned (.error (.unavailable "channel closed")))
  | .publish channel message =>
    if s.closed then some (s, .returned (.error .closed))
    else
      match fromUtf8 message with
      | none =>
        some (s, .returned
          (.error (.unavailable ("payload is not valid UTF-8: " ++ Utf8Refusal.text message))))
      | some payload => some (s, .notify ⟨channel, payload⟩)
  | .notify n =>
    match choice.fails with
    | none => some (s.notify n, .cleanup n.channel)
    | some message =>
      some (if choice.committed then s.notify n else s, .returned (.error (.unavailable message)))
  | .cleanup channel =>
    match s.channels.lookup channel with
    | none => some (s, .returned (.ok none))
    | some hub =>
      if s.receiverCount hub = 0 then some (s.removeChannel channel, .sendUnlisten channel)
      else some (s, .returned (.ok none))
  | .sendUnlisten channel => some (s.sendCommand (.unlisten channel), .returned (.ok none))
  | .close =>
    if s.closed then some (s, .returned (.ok none))
    else some ({ s with closed := true, channels := ∅ }, .sendClose)
  | .sendClose => some (s.sendCommand .close, .joining)
  | .joining => if s.running then none else some (s, .returned (.ok none))
  | .returned _ => none

/-! ## The background task, its connection and the subscribers -/

inductive Event where
  /-- `listener_loop` takes the next command, which the database carries out or not. -/
  | command (succeeds : Bool)
  /-- `listener_loop` receives a notification. -/
  | dispatch
  /-- The connection breaks and is made again, with the same `LISTEN`s. -/
  | reconnect
  /-- Another process notifies. -/
  | foreign (n : Notification)
  | recv (sub : Nat)
  | drop (sub : Nat)
  deriving DecidableEq

def runCommand (s : State) (succeeds : Bool) : ListenerCommand → State
  | .listen channel =>
    if succeeds then { s with listened := channel :: s.listened } else s.removeChannel channel
  | .unlisten channel =>
    if succeeds then { s with listened := s.listened.filter (· ≠ channel) } else s
  | .close => { s with running := false, commands := [], listened := [], inflight := [] }

def dispatch (s : State) (n : Notification) : State :=
  let s := { s with delivered := s.delivered ++ [n] }
  match s.channels.lookup n.channel with
  | none => s
  | some hub =>
    { s with hubs := Function.update s.hubs hub ((s.hubs hub).send (utf8Bytes n.payload)) }

def outside (s : State) : Event → State
  | .command succeeds =>
    match s.running, s.commands with
    | true, command :: commands => runCommand { s with commands } succeeds command
    | _, _ => s
  | .dispatch =>
    match s.running, s.inflight with
    | true, n :: inflight => dispatch { s with inflight } n
    | _, _ => s
  | .reconnect => { s with inflight := [] }
  | .foreign n => s.notify n
  | .recv i =>
    s.updateSub i fun sub =>
      if sub.handed && sub.held then { sub with receiver := (s.hubs sub.hub).recv sub.receiver }
      else sub
  | .drop i =>
    s.updateSub i fun sub => if sub.handed then { sub with held := false } else sub

inductive Operation where
  | subscribe (channel : String)
  | publish (channel : String) (message : List UInt8)
  | close
  deriving DecidableEq

def enter : Operation → Call
  | .subscribe channel => .subscribe channel
  | .publish channel message => .publish channel message
  | .close => .close

def program [Utf8Refusal] : Program State Call Operation Choice Event where
  enter := enter
  advance := advance
  outside := outside

abbrev World := Pool State Call

def World.new : World := { shared := .new, tasks := [] }

abbrev PubSubMove := Move Operation Choice Event

end Coderd.Pubsub
