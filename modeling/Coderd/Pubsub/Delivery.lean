import Coderd.Pubsub.PostgresPubSub

namespace Coderd.Pubsub

open Coderd.Foundation

/-! ## What a subscriber gets -/

/-- The notifications on the channel of a subscription that came in since it was made. -/
def State.due (s : State) (sub : Subscription) : List (List UInt8) :=
  ((s.delivered.drop sub.since).filter (·.channel = sub.channel)).map fun n => utf8Bytes n.payload

/-- The subscription's broadcast channel is the one that notifications go to. -/
def State.registered (s : State) (sub : Subscription) : Prop :=
  s.channels.lookup sub.channel = some sub.hub

/-- The place of a subscription: its broadcast channel carries the notifications due to it, all of
them as long as it is registered. -/
structure Placed (s : State) (sub : Subscription) : Prop where
  hub_lt : sub.hub < s.hubCount
  since_le : sub.since ≤ s.delivered.length
  follows : Broadcast.Follows (s.hubs sub.hub) sub.receiver
  log : (s.hubs sub.hub).log.drop sub.receiver.joined <+: s.due sub
  whole : s.registered sub → (s.hubs sub.hub).log.drop sub.receiver.joined = s.due sub

structure Delivers (s : State) : Prop where
  placed : ∀ sub ∈ s.subs, Placed s sub
  fresh : ∀ channel hub, s.channels.lookup channel = some hub → hub < s.hubCount
  named : ∀ channel hub, s.channels.lookup channel = some hub →
    ∀ sub ∈ s.subs, sub.hub = hub → sub.channel = channel
  distinct : ∀ channel channel' hub, s.channels.lookup channel = some hub →
    s.channels.lookup channel' = some hub → channel = channel'
  arrived : (s.delivered ++ s.inflight).Sublist s.issued

theorem delivers_new : Delivers State.new where
  placed := by simp [State.new]
  fresh := by simp [State.new]
  named := by simp [State.new]
  distinct := by simp [State.new]
  arrived := List.Sublist.refl _

/-! ### Steps that change neither the broadcast channels nor what has come in -/

/-- A subscription looks the same, apart from the marks of who has it. -/
structure SameSub (sub sub' : Subscription) : Prop where
  channel : sub'.channel = sub.channel
  hub : sub'.hub = sub.hub
  receiver : sub'.receiver = sub.receiver
  since : sub'.since = sub.since

theorem Placed.of_same {s s' : State} {sub sub' : Subscription} (h : Placed s sub)
    (hsame : SameSub sub sub') (hhubs : s'.hubs = s.hubs) (hcount : s'.hubCount = s.hubCount)
    (hdelivered : s'.delivered = s.delivered)
    (hregistered : s'.registered sub' → s.registered sub) : Placed s' sub' := by
  have hdue : s'.due sub' = s.due sub := by
    rw [State.due, State.due, hdelivered, hsame.since, hsame.channel]
  constructor
  · rw [hsame.hub, hcount]
    exact h.hub_lt
  · rw [hsame.since, hdelivered]
    exact h.since_le
  · rw [hhubs, hsame.hub, hsame.receiver]
    exact h.follows
  · rw [hhubs, hsame.hub, hsame.receiver, hdue]
    exact h.log
  · intro hreg
    rw [hhubs, hsame.hub, hsame.receiver, hdue]
    exact h.whole (hregistered hreg)

/-- The entries are among those there were, the subscriptions look the same. -/
theorem Delivers.of_same {s s' : State} (h : Delivers s)
    (hsubs : ∀ sub' ∈ s'.subs, ∃ sub ∈ s.subs, SameSub sub sub')
    (hchannels : ∀ channel hub, s'.channels.lookup channel = some hub →
      s.channels.lookup channel = some hub)
    (hhubs : s'.hubs = s.hubs) (hcount : s'.hubCount = s.hubCount)
    (hdelivered : s'.delivered = s.delivered)
    (harrived : (s'.delivered ++ s'.inflight).Sublist s'.issued) : Delivers s' where
  placed := by
    intro sub' hsub'
    obtain ⟨sub, hsub, hsame⟩ := hsubs sub' hsub'
    refine (h.placed sub hsub).of_same hsame hhubs hcount hdelivered fun hreg => ?_
    have hold := hchannels _ _ hreg
    rwa [hsame.channel, hsame.hub] at hold
  fresh := by
    intro channel hub hlookup
    rw [hcount]
    exact h.fresh channel hub (hchannels _ _ hlookup)
  named := by
    intro channel hub hlookup sub' hsub' hhub
    obtain ⟨sub, hsub, hsame⟩ := hsubs sub' hsub'
    rw [hsame.channel]
    exact h.named channel hub (hchannels _ _ hlookup) sub hsub (by rw [← hsame.hub]; exact hhub)
  distinct := by
    intro channel channel' hub hlookup hlookup'
    exact h.distinct _ _ _ (hchannels _ _ hlookup) (hchannels _ _ hlookup')
  arrived := harrived

theorem mem_updateSub {s : State} {i : Nat} {f : Subscription → Subscription}
    {sub' : Subscription} (h : sub' ∈ (s.updateSub i f).subs) :
    ∃ sub ∈ s.subs, sub' = f sub ∨ sub' = sub := by
  obtain ⟨j, hj⟩ := List.mem_iff_getElem?.mp h
  rw [State.updateSub, List.getElem?_modify] at hj
  obtain ⟨sub, hsub, hf⟩ := Option.map_eq_some_iff.mp hj
  refine ⟨sub, List.mem_of_getElem? hsub, ?_⟩
  split_ifs at hf
  · exact .inl hf.symm
  · exact .inr hf.symm

theorem SameSub.refl (sub : Subscription) : SameSub sub sub := ⟨rfl, rfl, rfl, rfl⟩

theorem Delivers.updateSub {s : State} (h : Delivers s) (i : Nat)
    {f : Subscription → Subscription} (hf : ∀ sub, SameSub sub (f sub)) :
    Delivers (s.updateSub i f) := by
  refine h.of_same ?_ (fun _ _ hlookup => hlookup) rfl rfl rfl h.arrived
  intro sub' hsub'
  obtain ⟨sub, hsub, rfl | rfl⟩ := mem_updateSub hsub'
  · exact ⟨sub, hsub, hf sub⟩
  · exact ⟨sub', hsub, .refl sub'⟩

theorem Delivers.removeChannel {s : State} (h : Delivers s) (channel : String) :
    Delivers (s.removeChannel channel) := by
  refine h.of_same (fun sub hsub => ⟨sub, hsub, .refl sub⟩) ?_ rfl rfl rfl h.arrived
  intro other hub hlookup
  rw [State.removeChannel, HashMap.lookup_erase_ite] at hlookup
  split_ifs at hlookup
  exact hlookup

theorem Delivers.sendCommand {s : State} (h : Delivers s) (command : ListenerCommand) :
    Delivers (s.sendCommand command) := by
  unfold State.sendCommand
  split_ifs
  · exact h.of_same (fun sub hsub => ⟨sub, hsub, .refl sub⟩) (fun _ _ hlookup => hlookup) rfl rfl
      rfl h.arrived
  · exact h

theorem Delivers.notify {s : State} (h : Delivers s) (n : Notification) :
    Delivers (s.notify n) := by
  refine h.of_same (fun sub hsub => ⟨sub, hsub, .refl sub⟩) (fun _ _ hlookup => hlookup) rfl rfl
    rfl ?_
  show (s.delivered ++ if n.channel ∈ s.listened then s.inflight ++ [n] else s.inflight).Sublist
    (s.issued ++ [n])
  split_ifs
  · rw [← List.append_assoc]
    exact h.arrived.append (List.Sublist.refl [n])
  · exact h.arrived.trans (List.sublist_append_left _ _)

/-- A subscription to a broadcast channel that is registered under its name. -/
theorem Delivers.addSubscription {s : State} (h : Delivers s) {channel : String} {hub : Nat}
    (hlookup : s.channels.lookup channel = some hub) (handed : Bool) :
    Delivers (s.addSubscription channel hub handed) where
  placed := by
    intro sub hsub
    obtain hsub | hsub := List.mem_append.mp hsub
    · exact (h.placed sub hsub).of_same (.refl sub) rfl rfl rfl id
    · obtain rfl := List.mem_singleton.mp hsub
      -- nothing has come in since
      have hdue : (s.addSubscription channel hub handed).due
          ⟨channel, hub, (s.hubs hub).subscribe, s.delivered.length, handed, true⟩ = [] := by
        simp [State.due, State.addSubscription]
      have hlog : (s.hubs hub).log.drop (s.hubs hub).subscribe.joined = [] := by
        simp [Broadcast.subscribe]
      refine ⟨h.fresh _ _ hlookup, Nat.le_refl _, Broadcast.follows_subscribe _, ?_, ?_⟩
      · exact hlog ▸ List.nil_prefix
      · intro _
        rw [hdue]
        exact hlog
  fresh := h.fresh
  named := by
    intro other hub' hlookup' sub hsub hhub
    obtain hsub | hsub := List.mem_append.mp hsub
    · exact h.named other hub' hlookup' sub hsub hhub
    · obtain rfl := List.mem_singleton.mp hsub
      obtain rfl : hub = hub' := hhub
      exact h.distinct _ _ _ hlookup hlookup'
  distinct := h.distinct
  arrived := h.arrived

theorem Delivers.insertHub {s : State} (h : Delivers s) {channel : String}
    (hnone : s.channels.lookup channel = none) : Delivers (s.insertHub channel) := by
  have hold : ∀ other hub, (s.insertHub channel).channels.lookup other = some hub →
      (other = channel ∧ hub = s.hubCount) ∨
        (other ≠ channel ∧ s.channels.lookup other = some hub) := by
    intro other hub hlookup
    rw [State.insertHub, HashMap.lookup_insert_ite] at hlookup
    split_ifs at hlookup with heq
    · exact .inl ⟨heq, (Option.some.inj hlookup).symm⟩
    · exact .inr ⟨heq, hlookup⟩
  have hsame : ∀ sub ∈ s.subs, (s.insertHub channel).hubs sub.hub = s.hubs sub.hub :=
    fun sub hsub => Function.update_of_ne (Nat.ne_of_lt (h.placed sub hsub).hub_lt) _ _
  constructor
  · intro sub hsub
    have hplaced := h.placed sub hsub
    refine ⟨Nat.lt_succ_of_lt hplaced.hub_lt, hplaced.since_le, ?_, ?_, ?_⟩
    · rw [hsame sub hsub]
      exact hplaced.follows
    · rw [hsame sub hsub]
      exact hplaced.log
    · intro hreg
      rw [hsame sub hsub]
      obtain ⟨-, hhub⟩ | ⟨-, hreg⟩ := hold _ _ hreg
      · exact absurd hhub (Nat.ne_of_lt hplaced.hub_lt)
      · exact hplaced.whole hreg
  · intro other hub hlookup
    obtain ⟨-, rfl⟩ | ⟨-, hlookup⟩ := hold _ _ hlookup
    · exact Nat.lt_succ_self _
    · exact Nat.lt_succ_of_lt (h.fresh _ _ hlookup)
  · intro other hub hlookup sub hsub hhub
    obtain ⟨-, rfl⟩ | ⟨-, hlookup⟩ := hold _ _ hlookup
    · exact absurd hhub (Nat.ne_of_lt (h.placed sub hsub).hub_lt)
    · exact h.named _ _ hlookup sub hsub hhub
  · intro other other' hub hlookup hlookup'
    obtain ⟨rfl, rfl⟩ | ⟨-, hlookup⟩ := hold _ _ hlookup
    · obtain ⟨rfl, -⟩ | ⟨-, hlookup'⟩ := hold _ _ hlookup'
      · rfl
      · exact absurd rfl (Nat.ne_of_lt (h.fresh _ _ hlookup'))
    · obtain ⟨-, rfl⟩ | ⟨-, hlookup'⟩ := hold _ _ hlookup'
      · exact absurd rfl (Nat.ne_of_lt (h.fresh _ _ hlookup))
      · exact h.distinct _ _ _ hlookup hlookup'
  · exact h.arrived

/-! ### The background task and the subscribers -/

theorem due_dispatch {s : State} {sub : Subscription} (hsince : sub.since ≤ s.delivered.length)
    (n : Notification) :
    (dispatch s n).due sub =
      s.due sub ++ if n.channel = sub.channel then [utf8Bytes n.payload] else [] := by
  have hdelivered : (dispatch s n).delivered = s.delivered ++ [n] := by
    unfold dispatch
    dsimp only
    cases s.channels.lookup n.channel <;> rfl
  rw [State.due, hdelivered, List.drop_append_of_le_length hsince, List.filter_append,
    List.map_append, State.due]
  by_cases hchannel : n.channel = sub.channel
  · simp [hchannel]
  · simp [hchannel]

theorem Placed.dispatch {s : State} {sub : Subscription} (hs : Delivers s) (hsub : sub ∈ s.subs)
    (n : Notification) : Placed (Pubsub.dispatch s n) sub := by
  have h := hs.placed sub hsub
  have hdue := due_dispatch h.since_le n
  have hsince : sub.since ≤ (Pubsub.dispatch s n).delivered.length := by
    unfold Pubsub.dispatch
    dsimp only
    cases s.channels.lookup n.channel <;>
      exact Nat.le_trans h.since_le (by simp)
  cases hlookup : s.channels.lookup n.channel with
  | none =>
    have hstate : Pubsub.dispatch s n = { s with delivered := s.delivered ++ [n] } := by
      unfold Pubsub.dispatch
      dsimp only
      rw [hlookup]
    rw [hstate] at hdue hsince ⊢
    refine ⟨h.hub_lt, hsince, h.follows, ?_, ?_⟩
    · rw [hdue]
      exact h.log.trans (List.prefix_append _ _)
    · intro hreg
      have hother : n.channel ≠ sub.channel := by
        intro heq
        rw [heq] at hlookup
        rw [show s.channels.lookup sub.channel = some sub.hub from hreg] at hlookup
        cases hlookup
      rw [hdue, if_neg hother, List.append_nil]
      exact h.whole hreg
  | some hub =>
    have hstate : Pubsub.dispatch s n =
        { s with
          delivered := s.delivered ++ [n]
          hubs := Function.update s.hubs hub ((s.hubs hub).send (utf8Bytes n.payload)) } := by
      unfold Pubsub.dispatch
      dsimp only
      rw [hlookup]
    rw [hstate] at hdue hsince ⊢
    by_cases hhub : sub.hub = hub
    · -- the subscription is on the broadcast channel that is sent to
      subst hhub
      have hchannel : n.channel = sub.channel := (hs.named _ _ hlookup sub hsub rfl).symm
      have hlog : ((s.hubs sub.hub).send (utf8Bytes n.payload)).log.drop sub.receiver.joined =
          (s.hubs sub.hub).log.drop sub.receiver.joined ++ [utf8Bytes n.payload] :=
        List.drop_append_of_le_length (Nat.le_trans h.follows.joined_le h.follows.next_le)
      have hreg : s.registered sub := by
        rw [State.registered, ← hchannel]
        exact hlookup
      have hwhole : ((s.hubs sub.hub).send (utf8Bytes n.payload)).log.drop sub.receiver.joined =
          s.due sub ++ [utf8Bytes n.payload] := by
        rw [hlog, h.whole hreg]
      rw [if_pos hchannel] at hdue
      refine ⟨h.hub_lt, hsince, ?_, ?_, ?_⟩
      · simp only [Function.update_self]
        exact h.follows.send _
      · simp only [Function.update_self]
        exact ⟨[], by rw [List.append_nil, hwhole, hdue]⟩
      · intro _
        simp only [Function.update_self]
        rw [hwhole, hdue]
    · refine ⟨h.hub_lt, hsince, ?_, ?_, ?_⟩
      · simp only [Function.update_of_ne hhub]
        exact h.follows
      · simp only [Function.update_of_ne hhub]
        rw [hdue]
        exact h.log.trans (List.prefix_append _ _)
      · intro hreg
        have hother : n.channel ≠ sub.channel := by
          intro heq
          rw [heq] at hlookup
          rw [show s.channels.lookup sub.channel = some sub.hub from hreg] at hlookup
          exact hhub (Option.some.inj hlookup)
        simp only [Function.update_of_ne hhub]
        rw [hdue, if_neg hother, List.append_nil]
        exact h.whole hreg

theorem Delivers.dispatch {s : State} {n : Notification} {inflight : List Notification}
    (h : Delivers s) (hinflight : s.inflight = n :: inflight) :
    Delivers (Pubsub.dispatch { s with inflight } n) := by
  have hrest : (s.delivered ++ [n] ++ inflight).Sublist s.issued := by
    have harrived := h.arrived
    rw [hinflight] at harrived
    simpa using harrived
  have hmid : Delivers { s with inflight } :=
    h.of_same (fun sub hsub => ⟨sub, hsub, .refl sub⟩) (fun _ _ hlookup => hlookup) rfl rfl rfl
      ((List.Sublist.append (List.sublist_append_left _ _) (List.Sublist.refl _)).trans hrest)
  have hsame : (Pubsub.dispatch { s with inflight } n).subs = s.subs ∧
      (Pubsub.dispatch { s with inflight } n).channels = s.channels ∧
      (Pubsub.dispatch { s with inflight } n).hubCount = s.hubCount ∧
      (Pubsub.dispatch { s with inflight } n).delivered = s.delivered ++ [n] ∧
      (Pubsub.dispatch { s with inflight } n).inflight = inflight ∧
      (Pubsub.dispatch { s with inflight } n).issued = s.issued := by
    unfold Pubsub.dispatch
    dsimp only
    cases s.channels.lookup n.channel <;> exact ⟨rfl, rfl, rfl, rfl, rfl, rfl⟩
  obtain ⟨hsubs, hchannels, hcount, hdelivered, hleft, hissued⟩ := hsame
  constructor
  · intro sub hsub
    rw [hsubs] at hsub
    exact Placed.dispatch hmid hsub n
  · rw [hchannels, hcount]
    exact h.fresh
  · rw [hchannels, hsubs]
    exact h.named
  · rw [hchannels]
    exact h.distinct
  · rw [hdelivered, hleft, hissued]
    exact hrest

theorem Delivers.recv {s : State} (h : Delivers s) (i : Nat) : Delivers (outside s (.recv i)) := by
  let f : Subscription → Subscription := fun sub =>
    if sub.handed && sub.held then { sub with receiver := (s.hubs sub.hub).recv sub.receiver }
    else sub
  have hf : ∀ sub, (f sub).hub = sub.hub ∧ (f sub).channel = sub.channel ∧
      (f sub).since = sub.since ∧ ((f sub).receiver = sub.receiver ∨
        (f sub).receiver = (s.hubs sub.hub).recv sub.receiver) := by
    intro sub
    dsimp only [f]
    split_ifs
    · exact ⟨rfl, rfl, rfl, .inr rfl⟩
    · exact ⟨rfl, rfl, rfl, .inl rfl⟩
  have hjoined : ∀ sub, (f sub).receiver.joined = sub.receiver.joined := by
    intro sub
    obtain ⟨-, -, -, hsame | hrecv⟩ := hf sub
    · rw [hsame]
    · rw [hrecv, Broadcast.joined_recv]
  show Delivers (s.updateSub i f)
  constructor
  · intro sub' hsub'
    obtain ⟨sub, hsub, rfl | rfl⟩ := mem_updateSub hsub'
    · have hplaced := h.placed sub hsub
      obtain ⟨hhub, hchannel, hsince, hreceiver⟩ := hf sub
      have hdue : (s.updateSub i f).due (f sub) = s.due sub := by
        rw [State.due, State.due, hsince, hchannel]
        rfl
      constructor
      · rw [hhub]
        exact hplaced.hub_lt
      · rw [hsince]
        exact hplaced.since_le
      · rw [hhub]
        obtain hsame | hrecv := hreceiver
        · rw [hsame]
          exact hplaced.follows
        · rw [hrecv]
          exact hplaced.follows.recv
      · rw [hhub, hjoined, hdue]
        exact hplaced.log
      · rw [State.registered, hhub, hchannel, hjoined, hdue]
        exact hplaced.whole
    · exact (h.placed sub' hsub).of_same (.refl sub') rfl rfl rfl id
  · exact h.fresh
  · intro channel hub hlookup sub' hsub' hhub
    obtain ⟨sub, hsub, rfl | rfl⟩ := mem_updateSub hsub'
    · rw [(hf sub).2.1]
      exact h.named _ _ hlookup sub hsub (by rw [← (hf sub).1]; exact hhub)
    · exact h.named _ _ hlookup sub' hsub hhub
  · exact h.distinct
  · exact h.arrived

theorem Delivers.runCommand {s : State} (h : Delivers s) (succeeds : Bool)
    (command : ListenerCommand) : Delivers (Pubsub.runCommand s succeeds command) := by
  have hself : ∀ sub ∈ s.subs, ∃ sub' ∈ s.subs, SameSub sub' sub :=
    fun sub hsub => ⟨sub, hsub, .refl sub⟩
  cases command with
  | listen channel =>
    unfold Pubsub.runCommand
    split_ifs
    · exact h.of_same hself (fun _ _ hlookup => hlookup) rfl rfl rfl h.arrived
    · exact h.removeChannel channel
  | unlisten channel =>
    unfold Pubsub.runCommand
    split_ifs
    · exact h.of_same hself (fun _ _ hlookup => hlookup) rfl rfl rfl h.arrived
    · exact h
  | close =>
    refine h.of_same hself (fun _ _ hlookup => hlookup) rfl rfl rfl ?_
    exact ((List.Sublist.refl _).append (List.nil_sublist _)).trans h.arrived

theorem Delivers.outside {s : State} (h : Delivers s) (event : Event) :
    Delivers (Pubsub.outside s event) := by
  have hself : ∀ sub ∈ s.subs, ∃ sub' ∈ s.subs, SameSub sub' sub :=
    fun sub hsub => ⟨sub, hsub, .refl sub⟩
  cases event with
  | command succeeds =>
    dsimp only [Pubsub.outside]
    split
    · refine Delivers.runCommand ?_ _ _
      exact h.of_same hself (fun _ _ hlookup => hlookup) rfl rfl rfl h.arrived
    · exact h
  | dispatch =>
    dsimp only [Pubsub.outside]
    split
    · rename_i hinflight
      exact h.dispatch hinflight
    · exact h
  | reconnect =>
    refine h.of_same hself (fun _ _ hlookup => hlookup) rfl rfl rfl ?_
    exact ((List.Sublist.refl _).append (List.nil_sublist _)).trans h.arrived
  | foreign n => exact h.notify n
  | recv i => exact h.recv i
  | drop i =>
    refine h.updateSub i fun sub => ?_
    split_ifs
    · exact ⟨rfl, rfl, rfl, rfl⟩
    · exact .refl sub

/-! ### The calls -/

theorem Delivers.advance [Utf8Refusal] {s s' : State} {call call' : Call} {choice : Choice}
    (h : Delivers s) (hadvance : Pubsub.advance s call choice = some (s', call')) :
    Delivers s' := by
  cases call with
  | subscribe channel =>
    dsimp only [Pubsub.advance] at hadvance
    split_ifs at hadvance
    · cases hadvance
      exact h
    · cases hlookup : s.channels.lookup channel with
      | some hub =>
        rw [hlookup] at hadvance
        cases hadvance
        exact h.addSubscription hlookup true
      | none =>
        rw [hlookup] at hadvance
        cases hadvance
        exact (h.insertHub hlookup).addSubscription (AList.lookup_insert _) false
  | sendListen channel sub =>
    dsimp only [Pubsub.advance] at hadvance
    split_ifs at hadvance
    · cases hadvance
      exact (h.sendCommand _).updateSub sub fun _ => ⟨rfl, rfl, rfl, rfl⟩
    · cases hadvance
      exact h
  | undoListen channel sub =>
    cases hadvance
    exact (h.removeChannel channel).updateSub sub fun _ => ⟨rfl, rfl, rfl, rfl⟩
  | publish channel message =>
    dsimp only [Pubsub.advance] at hadvance
    split_ifs at hadvance
    · cases hadvance
      exact h
    · cases hmessage : fromUtf8 message with
      | none =>
        rw [hmessage] at hadvance
        cases hadvance
        exact h
      | some payload =>
        rw [hmessage] at hadvance
        cases hadvance
        exact h
  | notify n =>
    dsimp only [Pubsub.advance] at hadvance
    cases hfails : choice.fails with
    | none =>
      rw [hfails] at hadvance
      cases hadvance
      exact h.notify n
    | some message =>
      rw [hfails] at hadvance
      cases hadvance
      split_ifs
      · exact h.notify n
      · exact h
  | cleanup channel =>
    dsimp only [Pubsub.advance] at hadvance
    cases hlookup : s.channels.lookup channel with
    | none =>
      rw [hlookup] at hadvance
      cases hadvance
      exact h
    | some hub =>
      rw [hlookup] at hadvance
      dsimp only at hadvance
      split_ifs at hadvance
      · cases hadvance
        exact h.removeChannel channel
      · cases hadvance
        exact h
  | sendUnlisten channel =>
    cases hadvance
    exact h.sendCommand _
  | close =>
    dsimp only [Pubsub.advance] at hadvance
    split_ifs at hadvance
    · cases hadvance
      exact h
    · cases hadvance
      refine h.of_same (fun sub hsub => ⟨sub, hsub, .refl sub⟩) ?_ rfl rfl rfl h.arrived
      intro channel hub hlookup
      cases hlookup
  | sendClose =>
    cases hadvance
    exact h.sendCommand _
  | joining =>
    dsimp only [Pubsub.advance] at hadvance
    split_ifs at hadvance
    cases hadvance
    exact h
  | returned result => cases hadvance

theorem Delivers.step [Utf8Refusal] {w : World} (h : Delivers w.shared) (move : PubSubMove) :
    Delivers (program.step w move).shared := by
  have hsteps := program.steps_step w move
  generalize program.step w move = w' at hsteps ⊢
  cases hsteps with
  | idle => exact h
  | spawn op => exact h
  | run htask hadvance => exact h.advance hadvance
  | outside event => exact h.outside event

theorem Delivers.run [Utf8Refusal] {w : World} (h : Delivers w.shared) (moves : List PubSubMove) :
    Delivers (program.run w moves).shared := by
  induction moves generalizing w with
  | nil => exact h
  | cons move moves ih => exact ih (h.step move)

/-- In every run, with any interleaving of the calls, the background task, the database and the
subscribers: what comes in was sent, in that order and none of it twice; a subscriber gets what
came in on its own channel since it subscribed, in that order and none of it twice; and one that
never fell behind, its channel being registered, has all of it, but for what still waits. -/
theorem pubsub_delivers [Utf8Refusal] (moves : List PubSubMove) :
    let s := (program.run World.new moves).shared
    (s.delivered ++ s.inflight).Sublist s.issued ∧
      ∀ sub ∈ s.subs, sub.receiver.got.Sublist (s.due sub) ∧
        (s.registered sub → sub.receiver.lagged = false →
          sub.receiver.got ++ (s.hubs sub.hub).log.drop sub.receiver.next = s.due sub) := by
  have h : Delivers (program.run World.new moves).shared := Delivers.run delivers_new moves
  refine ⟨h.arrived, fun sub hsub => ⟨?_, fun hregistered hlagged => ?_⟩⟩
  · have hplaced := h.placed sub hsub
    exact hplaced.follows.sublist_log.trans hplaced.log.sublist
  · have hplaced := h.placed sub hsub
    rw [hplaced.follows.got_append hlagged, hplaced.whole hregistered]

/-! ## Which channels are listened on -/

/-- Whether the channel is listened on once the commands are carried out. -/
def settled (channel : String) : List ListenerCommand → Bool → Bool
  | [], listened => listened
  | .listen other :: commands, listened =>
    settled channel commands (listened || decide (other = channel))
  | .unlisten other :: commands, listened =>
    settled channel commands (listened && decide (other ≠ channel))
  | .close :: _, _ => false

/-- A subscription does not make a channel anew while an `Unlisten` of it is still to be sent:
nothing else takes the lock between the two halves of a cleanup to subscribe to its channel. -/
def undisturbed (w : World) : PubSubMove → Bool
  | .run i _ =>
    match w.tasks[i]? with
    | some (.subscribe channel) =>
      (w.shared.channels.lookup channel).isSome || !w.tasks.contains (.sendUnlisten channel)
    | _ => true
  | _ => true

/-- Each channel that is registered is listened on, or will be; the task runs until it is
closed. -/
structure Listens (w : World) : Prop where
  registered : ∀ channel hub, w.shared.channels.lookup channel = some hub →
    Call.sendUnlisten channel ∉ w.tasks ∧
    ((∃ i, Call.sendListen channel i ∈ w.tasks) ∨
      settled channel w.shared.commands (decide (channel ∈ w.shared.listened)) = true)
  emptied : w.shared.closed = true → ∀ channel, w.shared.channels.lookup channel = none
  running : w.shared.closed = false →
    w.shared.running = true ∧ .close ∉ w.shared.commands ∧ Call.sendClose ∉ w.tasks

theorem listens_new : Listens World.new where
  registered := by simp [World.new, State.new]
  emptied h := by cases h
  running _ := ⟨rfl, by simp [World.new, State.new], by simp [World.new]⟩

theorem listens_of_closed {w : World} (hclosed : w.shared.closed = true)
    (hnone : ∀ channel, w.shared.channels.lookup channel = none) : Listens w where
  registered channel hub hlookup := by
    rw [hnone channel] at hlookup
    cases hlookup
  emptied _ := hnone
  running h := by
    rw [hclosed] at h
    cases h

theorem settled_append (channel : String) (commands : List ListenerCommand) (listened : Bool)
    (command : ListenerCommand) (hclose : .close ∉ commands) :
    settled channel (commands ++ [command]) listened =
      settled channel [command] (settled channel commands listened) := by
  induction commands generalizing listened with
  | nil => rfl
  | cons first commands ih =>
    have hrest : .close ∉ commands := fun hmem => hclose (List.mem_cons_of_mem _ hmem)
    cases first with
    | listen other => exact ih _ hrest
    | unlisten other => exact ih _ hrest
    | close => exact absurd List.mem_cons_self hclose

theorem settled_mono {channel : String} {commands : List ListenerCommand} {a b : Bool}
    (hab : a = true → b = true) (h : settled channel commands a = true) :
    settled channel commands b = true := by
  induction commands generalizing a b with
  | nil => exact hab h
  | cons first commands ih =>
    cases first with
    | listen other =>
      refine ih (fun ha => ?_) h
      rw [Bool.or_eq_true] at ha ⊢
      exact ha.imp_left hab
    | unlisten other =>
      refine ih (fun ha => ?_) h
      rw [Bool.and_eq_true] at ha ⊢
      exact ⟨hab ha.1, ha.2⟩
    | close => exact h

section Calls

variable {w : World} {s' : State} {i : Nat} {call call' : Call}

theorem mem_set_of_ne {other : Call} (htask : w.tasks[i]? = some call) (hother : other ∈ w.tasks)
    (hne : other ≠ call) : other ∈ w.tasks.set i call' := by
  obtain ⟨j, hj⟩ := List.mem_iff_getElem?.mp hother
  have hij : i ≠ j := by
    rintro rfl
    rw [htask] at hj
    exact hne (Option.some.inj hj).symm
  exact List.mem_of_getElem? (by rw [List.getElem?_set_ne hij]; exact hj)

/-- A step of a call that leaves the commands alone and removes channels at most. -/
theorem Listens.quiet (h : Listens w) (htask : w.tasks[i]? = some call)
    (hcall : ∀ channel sub, call ≠ .sendListen channel sub)
    (hunlisten : ∀ channel, call' ≠ .sendUnlisten channel) (hclose : call' ≠ .sendClose)
    (hchannels : ∀ channel hub, s'.channels.lookup channel = some hub →
      w.shared.channels.lookup channel = some hub)
    (hcommands : s'.commands = w.shared.commands) (hlistened : s'.listened = w.shared.listened)
    (hrunning : s'.running = w.shared.running) (hclosed : s'.closed = w.shared.closed) :
    Listens { shared := s', tasks := w.tasks.set i call' } where
  registered := by
    intro channel hub hlookup
    obtain ⟨hnone, hcoming⟩ := h.registered channel hub (hchannels _ _ hlookup)
    refine ⟨fun hmem => ?_, ?_⟩
    · obtain hmem | heq := List.mem_or_eq_of_mem_set hmem
      · exact hnone hmem
      · exact hunlisten channel heq.symm
    · rw [hcommands, hlistened]
      refine hcoming.imp_left ?_
      rintro ⟨sub, hmem⟩
      exact ⟨sub, mem_set_of_ne htask hmem (hcall channel sub).symm⟩
  emptied := by
    intro hshut channel
    have hnone := h.emptied (by rw [← hclosed]; exact hshut) channel
    cases hlookup : s'.channels.lookup channel with
    | none => rfl
    | some hub =>
      rw [hchannels _ _ hlookup] at hnone
      cases hnone
  running := by
    intro hopen
    obtain ⟨hrun, hcommand, htasks⟩ := h.running (by rw [← hclosed]; exact hopen)
    refine ⟨hrunning.trans hrun, by rw [hcommands]; exact hcommand, fun hmem => ?_⟩
    obtain hmem | heq := List.mem_or_eq_of_mem_set hmem
    · exact htasks hmem
    · exact hclose heq.symm

/-- The channel that is made anew is to be listened on. -/
theorem Listens.insert {channel : String} (h : Listens w)
    (htask : w.tasks[i]? = some (.subscribe channel))
    (hnew : w.shared.channels.lookup channel = none) (hopen : w.shared.closed = false)
    (hok : Call.sendUnlisten channel ∉ w.tasks) :
    Listens
      { shared := (w.shared.insertHub channel).addSubscription channel w.shared.hubCount false
        tasks := w.tasks.set i (.sendListen channel w.shared.subs.length) } where
  registered := by
    intro other hub hlookup
    have hlookup' : (w.shared.channels.insert channel w.shared.hubCount).lookup other =
        some hub := hlookup
    rw [HashMap.lookup_insert_ite] at hlookup'
    have hlt : i < w.tasks.length := (List.getElem?_eq_some_iff.mp htask).1
    by_cases heq : other = channel
    · subst heq
      refine ⟨fun hmem => ?_, .inl ⟨_, List.mem_set hlt _⟩⟩
      obtain hmem | hcall := List.mem_or_eq_of_mem_set hmem
      · exact hok hmem
      · cases hcall
    · rw [if_neg heq] at hlookup'
      obtain ⟨hnone, hcoming⟩ := h.registered other hub hlookup'
      refine ⟨fun hmem => ?_, hcoming.imp_left ?_⟩
      · obtain hmem | hcall := List.mem_or_eq_of_mem_set hmem
        · exact hnone hmem
        · cases hcall
      · rintro ⟨sub, hmem⟩
        exact ⟨sub, mem_set_of_ne htask hmem (by simp)⟩
  emptied := by
    intro hshut
    have hclosed : w.shared.closed = true := hshut
    rw [hopen] at hclosed
    cases hclosed
  running := by
    intro _
    obtain ⟨hrun, hcommand, htasks⟩ := h.running hopen
    refine ⟨hrun, hcommand, fun hmem => ?_⟩
    obtain hmem | hcall := List.mem_or_eq_of_mem_set hmem
    · exact htasks hmem
    · cases hcall

theorem Listens.sendListen {channel : String} {sub : Nat} (h : Listens w)
    (htask : w.tasks[i]? = some (.sendListen channel sub))
    (hunlisten : ∀ channel, call' ≠ .sendUnlisten channel) (hclose : call' ≠ .sendClose)
    (hchannels : s'.channels = w.shared.channels)
    (hcommands : s'.commands = w.shared.commands ++ [.listen channel])
    (hlistened : s'.listened = w.shared.listened)
    (hrunning : s'.running = w.shared.running) (hclosed : s'.closed = w.shared.closed)
    (hopen : w.shared.closed = false) :
    Listens { shared := s', tasks := w.tasks.set i call' } where
  registered := by
    intro other hub hlookup
    rw [hchannels] at hlookup
    obtain ⟨hnone, hcoming⟩ := h.registered other hub hlookup
    refine ⟨fun hmem => ?_, ?_⟩
    · obtain hmem | hcall := List.mem_or_eq_of_mem_set hmem
      · exact hnone hmem
      · exact hunlisten other hcall.symm
    · rw [hcommands, hlistened, settled_append _ _ _ _ (h.running hopen).2.1]
      by_cases heq : other = channel
      · right
        simp [settled, heq]
      · obtain ⟨sub', hmem⟩ | hsettled := hcoming
        · left
          refine ⟨sub', mem_set_of_ne htask hmem ?_⟩
          simp [heq]
        · right
          simp [settled, hsettled]
  emptied := by
    intro hshut
    rw [hclosed, hopen] at hshut
    cases hshut
  running := by
    intro _
    obtain ⟨hrun, hcommand, htasks⟩ := h.running hopen
    refine ⟨hrunning.trans hrun, by simp [hcommands, hcommand], fun hmem => ?_⟩
    obtain hmem | hcall := List.mem_or_eq_of_mem_set hmem
    · exact htasks hmem
    · exact hclose hcall.symm

/-- The channel that is unlistened on is not registered, so no other one loses by it. -/
theorem Listens.sendUnlisten {channel : String} (h : Listens w)
    (htask : w.tasks[i]? = some (.sendUnlisten channel))
    (hunlisten : ∀ channel, call' ≠ .sendUnlisten channel) (hclose : call' ≠ .sendClose)
    (hopen : w.shared.closed = false) :
    Listens
      { shared := { w.shared with commands := w.shared.commands ++ [.unlisten channel] }
        tasks := w.tasks.set i call' } where
  registered := by
    intro other hub hlookup
    obtain ⟨hnone, hcoming⟩ := h.registered other hub hlookup
    have hne : channel ≠ other := by
      rintro rfl
      exact hnone (List.mem_of_getElem? htask)
    refine ⟨fun hmem => ?_, ?_⟩
    · obtain hmem | hcall := List.mem_or_eq_of_mem_set hmem
      · exact hnone hmem
      · exact hunlisten other hcall.symm
    · obtain ⟨sub, hmem⟩ | hsettled := hcoming
      · exact .inl ⟨sub, mem_set_of_ne htask hmem (by simp)⟩
      · right
        rw [settled_append _ _ _ _ (h.running hopen).2.1]
        simp [settled, hsettled, hne]
  emptied := by
    intro hshut
    have hclosed : w.shared.closed = true := hshut
    rw [hopen] at hclosed
    cases hclosed
  running := by
    intro _
    obtain ⟨hrun, hcommand, htasks⟩ := h.running hopen
    refine ⟨hrun, by simp [hcommand], fun hmem => ?_⟩
    obtain hmem | hcall := List.mem_or_eq_of_mem_set hmem
    · exact htasks hmem
    · exact hclose hcall.symm

theorem Listens.removed {channel : String} (h : Listens w)
    (htask : w.tasks[i]? = some (.cleanup channel)) :
    Listens
      { shared := w.shared.removeChannel channel
        tasks := w.tasks.set i (.sendUnlisten channel) } where
  registered := by
    intro other hub hlookup
    have hlookup' : (w.shared.channels.erase channel).lookup other = some hub := hlookup
    rw [HashMap.lookup_erase_ite] at hlookup'
    split_ifs at hlookup' with heq
    obtain ⟨hnone, hcoming⟩ := h.registered other hub hlookup'
    refine ⟨fun hmem => ?_, hcoming.imp_left ?_⟩
    · obtain hmem | hcall := List.mem_or_eq_of_mem_set hmem
      · exact hnone hmem
      · cases hcall
        exact heq rfl
    · rintro ⟨sub, hmem⟩
      exact ⟨sub, mem_set_of_ne htask hmem (by simp)⟩
  emptied := by
    intro hshut other
    have hnone := h.emptied hshut other
    show (w.shared.channels.erase channel).lookup other = none
    rw [HashMap.lookup_erase_ite, hnone, ite_self]
  running := by
    intro hopen
    obtain ⟨hrun, hcommand, htasks⟩ := h.running hopen
    refine ⟨hrun, hcommand, fun hmem => ?_⟩
    obtain hmem | hcall := List.mem_or_eq_of_mem_set hmem
    · exact htasks hmem
    · cases hcall

end Calls

/-! ### The background task -/

theorem outside_closed (s : State) (event : Event) : (outside s event).closed = s.closed := by
  cases event with
  | command succeeds =>
    dsimp only [outside]
    split
    · rename_i command _ _ _
      cases command <;> cases succeeds <;> rfl
    · rfl
  | dispatch =>
    dsimp only [outside]
    split
    · dsimp only [dispatch]
      split <;> rfl
    · rfl
  | _ => rfl

theorem outside_lookup {s : State} {event : Event} {channel : String} {hub : Nat}
    (h : (outside s event).channels.lookup channel = some hub) :
    s.channels.lookup channel = some hub := by
  cases event with
  | command succeeds =>
    dsimp only [outside] at h
    split at h
    · rename_i command _ _ _
      cases command with
      | listen other =>
        cases succeeds with
        | true => exact h
        | false =>
          have h' : (s.channels.erase other).lookup channel = some hub := h
          rw [HashMap.lookup_erase_ite] at h'
          split_ifs at h'
          exact h'
      | unlisten other => cases succeeds <;> exact h
      | close => exact h
    · exact h
  | dispatch =>
    dsimp only [outside] at h
    split at h
    · dsimp only [dispatch] at h
      split at h <;> exact h
    · exact h
  | _ => exact h

/-- A step of the background task, as far as the channels that stay are concerned. -/
theorem Listens.shared {w : World} {s' : State} (h : Listens w)
    (hchannels : ∀ channel hub, s'.channels.lookup channel = some hub →
      w.shared.channels.lookup channel = some hub)
    (hsettled : ∀ channel hub, s'.channels.lookup channel = some hub →
      settled channel w.shared.commands (decide (channel ∈ w.shared.listened)) = true →
      settled channel s'.commands (decide (channel ∈ s'.listened)) = true)
    (hcommands : .close ∉ w.shared.commands → .close ∉ s'.commands)
    (hrunning : s'.running = w.shared.running) (hclosed : s'.closed = w.shared.closed) :
    Listens { w with shared := s' } where
  registered := by
    intro channel hub hlookup
    obtain ⟨hnone, hcoming⟩ := h.registered channel hub (hchannels _ _ hlookup)
    exact ⟨hnone, hcoming.imp_right (hsettled channel hub hlookup)⟩
  emptied := by
    intro hshut channel
    have hnone := h.emptied (by rw [← hclosed]; exact hshut) channel
    cases hlookup : s'.channels.lookup channel with
    | none => rfl
    | some hub =>
      rw [hchannels _ _ hlookup] at hnone
      cases hnone
  running := by
    intro hopen
    obtain ⟨hrun, hcommand, htasks⟩ := h.running (by rw [← hclosed]; exact hopen)
    exact ⟨hrunning.trans hrun, hcommands hcommand, htasks⟩

theorem Listens.runCommand {w : World} {command : ListenerCommand}
    {commands : List ListenerCommand} (h : Listens w) (hopen : w.shared.closed = false)
    (hqueue : w.shared.commands = command :: commands) (succeeds : Bool) :
    Listens { w with shared := Pubsub.runCommand { w.shared with commands } succeeds command } := by
  have hrest : .close ∉ w.shared.commands → .close ∉ commands := by
    rw [hqueue]
    exact fun hnot hmem => hnot (List.mem_cons_of_mem _ hmem)
  cases command with
  | close =>
    have hnot := (h.running hopen).2.1
    rw [hqueue] at hnot
    exact absurd List.mem_cons_self hnot
  | listen channel =>
    cases succeeds with
    | true =>
      refine h.shared (fun _ _ hlookup => hlookup) ?_ hrest rfl rfl
      intro other hub _ hsettled
      rw [hqueue] at hsettled
      refine settled_mono (fun hbefore => ?_) hsettled
      obtain hmem | heq := (Bool.or_eq_true _ _).mp hbefore
      · exact decide_eq_true (List.mem_cons_of_mem _ (of_decide_eq_true hmem))
      · exact decide_eq_true (by rw [of_decide_eq_true heq]; exact List.mem_cons_self)
    | false =>
      -- the channel is gone, and the other ones do not look at this command
      have hsub : ∀ other hub,
          (w.shared.channels.erase channel).lookup other = some hub →
          other ≠ channel ∧ w.shared.channels.lookup other = some hub := by
        intro other hub hlookup
        rw [HashMap.lookup_erase_ite] at hlookup
        split_ifs at hlookup with heq
        exact ⟨heq, hlookup⟩
      refine h.shared (fun other hub hlookup => (hsub other hub hlookup).2) ?_ hrest rfl rfl
      intro other hub hlookup hsettled
      rw [hqueue] at hsettled
      refine settled_mono (fun hbefore => ?_) hsettled
      obtain hmem | heq := (Bool.or_eq_true _ _).mp hbefore
      · exact hmem
      · exact absurd (of_decide_eq_true heq).symm (hsub other hub hlookup).1
  | unlisten channel =>
    cases succeeds with
    | true =>
      refine h.shared (fun _ _ hlookup => hlookup) ?_ hrest rfl rfl
      intro other hub _ hsettled
      rw [hqueue] at hsettled
      refine settled_mono (fun hbefore => ?_) hsettled
      obtain ⟨hmem, hne⟩ := (Bool.and_eq_true _ _).mp hbefore
      refine decide_eq_true (List.mem_filter.mpr ⟨of_decide_eq_true hmem, ?_⟩)
      exact decide_eq_true (Ne.symm (of_decide_eq_true hne))
    | false =>
      refine h.shared (fun _ _ hlookup => hlookup) ?_ hrest rfl rfl
      intro other hub _ hsettled
      rw [hqueue] at hsettled
      exact settled_mono (fun hbefore => ((Bool.and_eq_true _ _).mp hbefore).1) hsettled

theorem Listens.outside {w : World} (h : Listens w) (event : Event) :
    Listens { w with shared := Pubsub.outside w.shared event } := by
  cases hopen : w.shared.closed with
  | true =>
    refine listens_of_closed ((outside_closed _ _).trans hopen) fun channel => ?_
    have hnone := h.emptied hopen channel
    cases hlookup : (Pubsub.outside w.shared event).channels.lookup channel with
    | none => rfl
    | some hub =>
      rw [outside_lookup hlookup] at hnone
      cases hnone
  | false =>
    have hself : ∀ s' : State, s'.channels = w.shared.channels →
        s'.commands = w.shared.commands → s'.listened = w.shared.listened →
        s'.running = w.shared.running → s'.closed = w.shared.closed →
        Listens { w with shared := s' } := by
      intro s' hchannels hcommands hlistened hrunning hclosed
      refine h.shared ?_ ?_ ?_ hrunning hclosed
      · rw [hchannels]
        exact fun _ _ hlookup => hlookup
      · rw [hcommands, hlistened]
        exact fun _ _ _ hsettled => hsettled
      · rw [hcommands]
        exact id
    cases event with
    | command succeeds =>
      dsimp only [Pubsub.outside]
      split
      · rename_i hqueue
        exact h.runCommand hopen hqueue succeeds
      · exact h
    | dispatch =>
      dsimp only [Pubsub.outside]
      split
      · refine hself _ ?_ ?_ ?_ ?_ ?_ <;>
          (dsimp only [Pubsub.dispatch]; split <;> rfl)
      · exact h
    | reconnect => exact hself _ rfl rfl rfl rfl rfl
    | foreign n => exact hself _ rfl rfl rfl rfl rfl
    | recv i => exact hself _ rfl rfl rfl rfl rfl
    | drop i => exact hself _ rfl rfl rfl rfl rfl

/-! ### The calls -/

theorem Listens.advance [Utf8Refusal] {w : World} {s' : State} {i : Nat} {call call' : Call}
    {choice : Choice} (h : Listens w) (hok : undisturbed w (.run i choice) = true)
    (htask : w.tasks[i]? = some call)
    (hadvance : Pubsub.advance w.shared call choice = some (s', call')) :
    Listens { shared := s', tasks := w.tasks.set i call' } := by
  have hquiet : (∀ channel sub, call ≠ .sendListen channel sub) →
      (∀ channel, call' ≠ .sendUnlisten channel) → call' ≠ .sendClose →
      s'.channels = w.shared.channels → s'.commands = w.shared.commands →
      s'.listened = w.shared.listened → s'.running = w.shared.running →
      s'.closed = w.shared.closed → Listens { shared := s', tasks := w.tasks.set i call' } := by
    intro hcall hunlisten hclose hchannels
    exact h.quiet htask hcall hunlisten hclose fun _ _ hlookup => by rwa [hchannels] at hlookup
  cases call with
  | subscribe channel =>
    dsimp only [Pubsub.advance] at hadvance
    cases hopen : w.shared.closed with
    | true =>
      rw [hopen, if_pos rfl] at hadvance
      cases hadvance
      exact hquiet (by simp) (by simp) (by simp) rfl rfl rfl rfl rfl
    | false =>
      rw [hopen, if_neg (by simp)] at hadvance
      cases hlookup : w.shared.channels.lookup channel with
      | some hub =>
        rw [hlookup] at hadvance
        cases hadvance
        exact hquiet (by simp) (by simp) (by simp) rfl rfl rfl rfl rfl
      | none =>
        rw [hlookup] at hadvance
        cases hadvance
        refine h.insert htask hlookup hopen fun hmem => ?_
        simp [undisturbed, htask, hlookup, hmem] at hok
  | sendListen channel sub =>
    dsimp only [Pubsub.advance] at hadvance
    cases hopen : w.shared.closed with
    | true =>
      have hstays : s'.closed = true ∧ s'.channels = w.shared.channels := by
        split_ifs at hadvance with hrun
        · cases hadvance
          simp [State.updateSub, State.sendCommand, hrun, hopen]
        · cases hadvance
          exact ⟨hopen, rfl⟩
      exact listens_of_closed hstays.1 fun channel => by
        show s'.channels.lookup channel = none
        rw [hstays.2]
        exact h.emptied hopen channel
    | false =>
      have hrun := (h.running hopen).1
      rw [if_pos hrun] at hadvance
      cases hadvance
      refine h.sendListen htask (by simp) (by simp) ?_ ?_ ?_ ?_ ?_ hopen <;>
        simp [State.updateSub, State.sendCommand, hrun]
  | undoListen channel sub =>
    cases hadvance
    refine h.quiet htask (by simp) (by simp) (by simp) ?_ rfl rfl rfl rfl
    intro other hub hlookup
    have hlookup' : (w.shared.channels.erase channel).lookup other = some hub := hlookup
    rw [HashMap.lookup_erase_ite] at hlookup'
    split_ifs at hlookup'
    exact hlookup'
  | publish channel message =>
    dsimp only [Pubsub.advance] at hadvance
    split_ifs at hadvance
    · cases hadvance
      exact hquiet (by simp) (by simp) (by simp) rfl rfl rfl rfl rfl
    · split at hadvance
      · cases hadvance
        exact hquiet (by simp) (by simp) (by simp) rfl rfl rfl rfl rfl
      · cases hadvance
        exact hquiet (by simp) (by simp) (by simp) rfl rfl rfl rfl rfl
  | notify n =>
    dsimp only [Pubsub.advance] at hadvance
    split at hadvance
    · cases hadvance
      exact hquiet (by simp) (by simp) (by simp) rfl rfl rfl rfl rfl
    · cases hadvance
      refine hquiet (by simp) (by simp) (by simp) ?_ ?_ ?_ ?_ ?_ <;> split_ifs <;> rfl
  | cleanup channel =>
    dsimp only [Pubsub.advance] at hadvance
    split at hadvance
    · cases hadvance
      exact hquiet (by simp) (by simp) (by simp) rfl rfl rfl rfl rfl
    · split_ifs at hadvance
      · cases hadvance
        exact h.removed htask
      · cases hadvance
        exact hquiet (by simp) (by simp) (by simp) rfl rfl rfl rfl rfl
  | sendUnlisten channel =>
    cases hadvance
    cases hopen : w.shared.closed with
    | true =>
      have hstays : (w.shared.sendCommand (.unlisten channel)).closed = true ∧
          (w.shared.sendCommand (.unlisten channel)).channels = w.shared.channels := by
        unfold State.sendCommand
        split_ifs <;> exact ⟨hopen, rfl⟩
      exact listens_of_closed hstays.1 fun channel => by
        show (State.sendCommand _ _).channels.lookup channel = none
        rw [hstays.2]
        exact h.emptied hopen channel
    | false =>
      have hrun := (h.running hopen).1
      rw [State.sendCommand, if_pos hrun]
      exact h.sendUnlisten htask (by simp) (by simp) hopen
  | close =>
    dsimp only [Pubsub.advance] at hadvance
    split_ifs at hadvance
    · cases hadvance
      exact hquiet (by simp) (by simp) (by simp) rfl rfl rfl rfl rfl
    · cases hadvance
      exact listens_of_closed rfl fun channel => AList.lookup_empty channel
  | sendClose =>
    cases hadvance
    have hclosed : w.shared.closed = true := by
      cases hopen : w.shared.closed with
      | true => rfl
      | false => exact absurd (List.mem_of_getElem? htask) (h.running hopen).2.2
    have hstays : (w.shared.sendCommand .close).closed = true ∧
        (w.shared.sendCommand .close).channels = w.shared.channels := by
      unfold State.sendCommand
      split_ifs <;> exact ⟨hclosed, rfl⟩
    exact listens_of_closed hstays.1 fun channel => by
      show (State.sendCommand _ _).channels.lookup channel = none
      rw [hstays.2]
      exact h.emptied hclosed channel
  | joining =>
    dsimp only [Pubsub.advance] at hadvance
    split_ifs at hadvance
    cases hadvance
    exact hquiet (by simp) (by simp) (by simp) rfl rfl rfl rfl rfl
  | returned result => cases hadvance

theorem Listens.spawn {w : World} (h : Listens w) (op : Operation) :
    Listens { w with tasks := w.tasks ++ [enter op] } where
  registered := by
    intro channel hub hlookup
    obtain ⟨hnone, hcoming⟩ := h.registered channel hub hlookup
    refine ⟨fun hmem => ?_, hcoming.imp_left ?_⟩
    · obtain hmem | hmem := List.mem_append.mp hmem
      · exact hnone hmem
      · have heq := List.mem_singleton.mp hmem
        cases op <;> cases heq
    · rintro ⟨sub, hmem⟩
      exact ⟨sub, List.mem_append_left _ hmem⟩
  emptied := h.emptied
  running := by
    intro hopen
    obtain ⟨hrun, hcommand, htasks⟩ := h.running hopen
    refine ⟨hrun, hcommand, fun hmem => ?_⟩
    obtain hmem | hmem := List.mem_append.mp hmem
    · exact htasks hmem
    · have heq := List.mem_singleton.mp hmem
      cases op <;> cases heq

theorem Listens.step [Utf8Refusal] {w : World} (h : Listens w) {move : PubSubMove}
    (hok : undisturbed w move = true) : Listens (program.step w move) := by
  have hsteps := program.steps_step w move
  generalize program.step w move = w' at hsteps ⊢
  cases hsteps with
  | idle => exact h
  | spawn op => exact h.spawn op
  | run htask hadvance => exact h.advance hok htask hadvance
  | outside event => exact h.outside event

/-- In every run in which no channel is subscribed to anew in the middle of its cleanup: once the
commands are carried out and no `Listen` is still to be sent, the connection listens on each
channel that is registered, so that a notification on it, from anywhere, is on its way. It does not
matter which of the commands fail. -/
theorem pubsub_listens [Utf8Refusal] (moves : List PubSubMove)
    (hrun : Along program.step (fun w move => undisturbed w move = true) World.new moves) :
    let w := program.run World.new moves
    w.shared.commands = [] → ∀ channel hub, w.shared.channels.lookup channel = some hub →
      (∀ sub, Call.sendListen channel sub ∉ w.tasks) →
      ∀ payload, (w.shared.notify ⟨channel, payload⟩).inflight =
        w.shared.inflight ++ [⟨channel, payload⟩] := by
  intro w hdrained channel hub hlookup hsent payload
  have h : Listens w := Along.invariant (I := Listens) (fun _ _ h hok => h.step hok) listens_new hrun
  obtain ⟨-, ⟨sub, hmem⟩ | hsettled⟩ := h.registered channel hub hlookup
  · exact absurd hmem (hsent sub)
  · rw [hdrained] at hsettled
    have hlistened : channel ∈ w.shared.listened := of_decide_eq_true hsettled
    simp [State.notify, hlistened]

/-- A subscription is made, dropped and cleaned up after, and made again. -/
def resubscribed : List PubSubMove :=
  let choice : Choice := ⟨none, true⟩
  [.spawn (.subscribe "c"), .run 0 choice, .run 0 choice, .outside (.command true),
    .outside (.drop 0), .spawn (.publish "c" [104, 105]), .run 1 choice, .run 1 choice,
    .run 1 choice, .run 1 choice, .spawn (.subscribe "c"), .run 2 choice, .run 2 choice,
    .outside (.command true), .outside (.command true)]

theorem pubsub_listens_resubscribed :
    let _ : Utf8Refusal := ⟨fun _ => "invalid utf-8 sequence"⟩
    let w := program.run World.new resubscribed
    w.shared.channels.lookup "c" = some 1 ∧
      (w.shared.notify ⟨"c", "x"⟩).inflight = w.shared.inflight ++ [⟨"c", "x"⟩] := by
  intro _ w
  have htasks : w.tasks = [.returned (.ok (some 0)), .returned (.ok none),
      .returned (.ok (some 1))] := by decide
  refine ⟨by decide, pubsub_listens resubscribed (by decide) (by decide) "c" 1 (by decide) ?_ "x"⟩
  intro sub hmem
  rw [htasks] at hmem
  simp at hmem

/-- Where the second subscription comes between the two halves of the cleanup instead, it is
registered and nobody listens for it. -/
example :
    let _ : Utf8Refusal := ⟨fun _ => "invalid utf-8 sequence"⟩
    let choice : Choice := ⟨none, true⟩
    let w := program.run World.new (resubscribed.take 9 ++
      [.spawn (.subscribe "c"), .run 2 choice, .run 2 choice, .run 1 choice,
        .outside (.command true), .outside (.command true)])
    w.shared.channels.lookup "c" = some 1 ∧ w.shared.commands = [] ∧ w.shared.listened = [] := by
  decide

end Coderd.Pubsub
