import Coderd.Tailnet.Coordinator

namespace Coderd.Tailnet

open Coderd.Foundation

variable {Node : Type}

/-! ## Tunnels as a relation -/

namespace TunnelStore

/-- There is a tunnel from `src` to `dst`. -/
def Tunnel (t : TunnelStore) (src dst : Uuid) : Prop := dst ∈ t.bySrc.get src

/-- There is a tunnel between the two, in either direction. -/
def Linked (t : TunnelStore) (a b : Uuid) : Prop := t.Tunnel a b ∨ t.Tunnel b a

variable {t : TunnelStore} {a b src dst id : Uuid}

instance : Decidable (t.Linked a b) :=
  inferInstanceAs (Decidable (b ∈ t.bySrc.get a ∨ a ∈ t.bySrc.get b))

theorem Linked.symm (h : t.Linked a b) : t.Linked b a := Or.symm h

theorem tunnel_add : (t.add src dst).Tunnel a b ↔ t.Tunnel a b ∨ (a = src ∧ b = dst) :=
  SetMap.mem_get_add

theorem tunnel_remove : (t.remove src dst).Tunnel a b ↔
    t.Tunnel a b ∧ ¬ (a = src ∧ b = dst) ∧ ¬ (a = dst ∧ b = src) := by
  simp only [Tunnel, remove, SetMap.mem_get_discard, and_assoc]

theorem tunnel_removeAll : (t.removeAll id).Tunnel a b ↔ t.Tunnel a b ∧ a ≠ id ∧ b ≠ id := by
  simp only [Tunnel, removeAll, SetMap.mem_get_foldl_discard, SetMap.mem_get_erase,
    HashSet.mem_toList, t.mirrored]
  by_cases ha : a = id
  · simp [ha]
  · by_cases hb : b = id
    · subst hb
      tauto
    · tauto

theorem linked_add : (t.add src dst).Linked a b ↔
    t.Linked a b ∨ (a = src ∧ b = dst) ∨ (a = dst ∧ b = src) := by
  simp only [Linked, tunnel_add]
  tauto

theorem linked_remove : (t.remove src dst).Linked a b ↔
    t.Linked a b ∧ ¬ (a = src ∧ b = dst) ∧ ¬ (a = dst ∧ b = src) := by
  simp only [Linked, tunnel_remove]
  tauto

theorem linked_removeAll : (t.removeAll id).Linked a b ↔ t.Linked a b ∧ a ≠ id ∧ b ≠ id := by
  simp only [Linked, tunnel_removeAll]
  tauto

theorem mem_findTunnelPeers : b ∈ t.findTunnelPeers a ↔ t.Linked a b := by
  rw [findTunnelPeers, HashSet.mem_extend, Linked, Tunnel, Tunnel, t.mirrored b a]

theorem tunnelExists_iff : t.tunnelExists a b = true ↔ t.Linked a b := by
  rw [tunnelExists, decide_eq_true_iff, Linked, Tunnel, Tunnel, t.mirrored b a]

theorem not_linked_new : ¬ new.Linked a b := by
  simp [Linked, Tunnel, new]

end TunnelStore

open TunnelStore

/-! ## What a client has been told -/

/-- The last update about `about` other than a handshake, in the order of the messages. -/
def lastUpdate (about : Uuid) (log : List (CoordinateResponse Node)) :
    Option (PeerUpdateMsg Node) :=
  ((log.flatMap (·.peerUpdates)).filter
    (fun u => u.id = about ∧ u.kind ≠ .readyForHandshake)).getLast?

theorem lastUpdate_append (about : Uuid) (log new : List (CoordinateResponse Node)) :
    lastUpdate about (log ++ new) = (lastUpdate about new).or (lastUpdate about log) := by
  simp only [lastUpdate, List.flatMap_append, List.filter_append, List.getLast?_append]

@[simp] theorem lastUpdate_nil (about : Uuid) :
    lastUpdate about ([] : List (CoordinateResponse Node)) = none := rfl

theorem lastUpdate_ite (about : Uuid) (c : Prop) [Decidable c]
    (log : List (CoordinateResponse Node)) :
    lastUpdate about (if c then log else []) = if c then lastUpdate about log else none := by
  split <;> rfl

theorem lastUpdate_nodeUpdate (about id : Uuid) (node : Node) :
    lastUpdate about [nodeUpdate id node] =
      if id = about then some { id, kind := .node, node := some node } else none := by
  by_cases h : id = about <;> simp [lastUpdate, nodeUpdate, h]

theorem lastUpdate_notice (about id : Uuid) {kind : PeerUpdateKind}
    (hkind : kind ≠ .readyForHandshake) :
    lastUpdate about [(notice id kind : CoordinateResponse Node)] =
      if id = about then some { id, kind, node := none } else none := by
  by_cases h : id = about <;> simp [lastUpdate, notice, h, hkind]

/-- Messages that say nothing about who is there. -/
def Silent (log : List (CoordinateResponse Node)) : Prop := ∀ about, lastUpdate about log = none

theorem Silent.append {log log' : List (CoordinateResponse Node)} (h : Silent log)
    (h' : Silent log') : Silent (log ++ log') := by
  intro about
  rw [lastUpdate_append, h about, h' about, Option.or_none]

theorem silent_nil : Silent ([] : List (CoordinateResponse Node)) := fun _ => rfl

theorem silent_errorResponse (message : String) :
    Silent [(errorResponse message : CoordinateResponse Node)] := fun _ => rfl

theorem silent_readyForHandshake (id : Uuid) :
    Silent [(notice id .readyForHandshake : CoordinateResponse Node)] := by
  intro about
  simp [lastUpdate, notice]

/-! ## Sending -/

/-- What has been pushed on the channel of `id`, if it has one. -/
def CoordinatorInner.channel (inner : CoordinatorInner Node) (id : Uuid) :
    Option (List (CoordinateResponse Node)) :=
  (inner.peers.lookup id).bind CoordinatorPeer.responseTx

def CoordinatorPeer.pushAll (peer : CoordinatorPeer Node)
    (responses : List (CoordinateResponse Node)) : CoordinatorPeer Node :=
  { peer with responseTx := peer.responseTx.map (· ++ responses) }

theorem CoordinatorPeer.pushAll_nil (peer : CoordinatorPeer Node) : peer.pushAll [] = peer := by
  obtain ⟨info, node, responseTx, sessionId⟩ := peer
  cases responseTx <;> simp [pushAll]

theorem CoordinatorPeer.pushAll_pushAll (peer : CoordinatorPeer Node)
    (rs rs' : List (CoordinateResponse Node)) :
    (peer.pushAll rs).pushAll rs' = peer.pushAll (rs ++ rs') := by
  obtain ⟨info, node, responseTx, sessionId⟩ := peer
  cases responseTx <;> simp [pushAll]

/-- Nothing but the channels changed, and each `q` was sent `sent q`. -/
structure Sends (before after : CoordinatorInner Node)
    (sent : Uuid → List (CoordinateResponse Node)) : Prop where
  peers : ∀ q, after.peers.lookup q = (before.peers.lookup q).map (·.pushAll (sent q))
  tunnels : after.tunnels = before.tunnels
  subscriptions : after.subscriptions = before.subscriptions

namespace Sends

variable {i i' i'' : CoordinatorInner Node} {sent sent' : Uuid → List (CoordinateResponse Node)}

theorem refl (i : CoordinatorInner Node) : Sends i i (fun _ => []) where
  peers := by
    intro q
    rcases i.peers.lookup q with _ | peer
    · rfl
    · rw [Option.map_some, CoordinatorPeer.pushAll_nil]
  tunnels := rfl
  subscriptions := rfl

theorem trans (h : Sends i i' sent) (h' : Sends i' i'' sent') :
    Sends i i'' (fun q => sent q ++ sent' q) where
  peers := by
    intro q
    rw [h'.peers q, h.peers q, Option.map_map]
    apply congrArg (Option.map · (i.peers.lookup q))
    funext peer
    exact CoordinatorPeer.pushAll_pushAll peer _ _
  tunnels := h'.tunnels.trans h.tunnels
  subscriptions := h'.subscriptions.trans h.subscriptions

theorem channel (h : Sends i i' sent) (q : Uuid) :
    i'.channel q = (i.channel q).map (· ++ sent q) := by
  rw [CoordinatorInner.channel, CoordinatorInner.channel, h.peers q]
  cases i.peers.lookup q <;> rfl

theorem nodeOf (h : Sends i i' sent) (q : Uuid) : i'.nodeOf q = i.nodeOf q := by
  rw [CoordinatorInner.nodeOf, CoordinatorInner.nodeOf, h.peers q]
  cases i.peers.lookup q <;> rfl

theorem containsPeer (h : Sends i i' sent) (q : Uuid) :
    i'.containsPeer q = i.containsPeer q := by
  rw [CoordinatorInner.containsPeer, CoordinatorInner.containsPeer, h.peers q, Option.isSome_map]

end Sends

theorem sendToPeer_sends (i : CoordinatorInner Node) (id : Uuid) (r : CoordinateResponse Node) :
    Sends i (i.sendToPeer id r) (fun q => if q = id then [r] else []) := by
  rcases hid : i.peers.lookup id with _ | peer
  · have hsame : i.sendToPeer id r = i := by simp [CoordinatorInner.sendToPeer, hid]
    refine ⟨?_, by rw [hsame], by rw [hsame]⟩
    intro q
    rw [hsame]
    by_cases hq : q = id
    · subst hq
      simp [hid]
    · simpa [hq] using (Sends.refl i).peers q
  · have hsend : i.sendToPeer id r = { i with peers := i.peers.insert id (peer.push r) } := by
      simp [CoordinatorInner.sendToPeer, hid]
    refine ⟨?_, by rw [hsend], by rw [hsend]⟩
    intro q
    rw [hsend, HashMap.lookup_insert_ite]
    by_cases hq : q = id
    · subst hq
      simp [hid, CoordinatorPeer.push, CoordinatorPeer.pushAll]
    · simpa [hq] using (Sends.refl i).peers q

theorem sendToPeers_sends (i : CoordinatorInner Node) (ids : List Uuid)
    (r : CoordinateResponse Node) (hnodup : ids.Nodup) :
    Sends i (i.sendToPeers ids r) (fun q => if q ∈ ids then [r] else []) := by
  induction ids generalizing i with
  | nil => exact Sends.refl i
  | cons id ids ih =>
    obtain ⟨hnew, hnodup⟩ := List.nodup_cons.mp hnodup
    have hboth := (sendToPeer_sends i id r).trans (ih (i.sendToPeer id r) hnodup)
    refine ⟨?_, hboth.tunnels, hboth.subscriptions⟩
    intro q
    rw [CoordinatorInner.sendToPeers, List.foldl_cons]
    have hsent : (if q ∈ id :: ids then [r] else []) =
        (if q = id then [r] else []) ++ (if q ∈ ids then [r] else []) := by
      by_cases hq : q = id
      · subst hq
        simp [hnew]
      · simp [hq]
    rw [hsent]
    exact hboth.peers q

/-- The same coordinator with `t` as its tunnels. -/
def CoordinatorInner.withTunnels (i : CoordinatorInner Node) (t : TunnelStore) :
    CoordinatorInner Node :=
  { i with tunnels := t }

theorem Sends.withTunnels {i i' : CoordinatorInner Node}
    {sent : Uuid → List (CoordinateResponse Node)} (h : Sends i i' sent) (t : TunnelStore) :
    Sends (i.withTunnels t) (i'.withTunnels t) sent :=
  ⟨h.peers, rfl, h.subscriptions⟩

/-- Messages were sent, but none that says who is there. -/
def SilentlySends (before after : CoordinatorInner Node) : Prop :=
  ∃ sent, Sends before after sent ∧ ∀ q, Silent (sent q)

theorem SilentlySends.refl (i : CoordinatorInner Node) : SilentlySends i i :=
  ⟨_, Sends.refl i, fun _ => silent_nil⟩

theorem SilentlySends.trans {i i' i'' : CoordinatorInner Node} (h : SilentlySends i i')
    (h' : SilentlySends i' i'') : SilentlySends i i'' := by
  obtain ⟨sent, hsent, hsilent⟩ := h
  obtain ⟨sent', hsent', hsilent'⟩ := h'
  exact ⟨_, hsent.trans hsent', fun q => (hsilent q).append (hsilent' q)⟩

theorem sendToPeer_silent (i : CoordinatorInner Node) (id : Uuid) {r : CoordinateResponse Node}
    (hr : Silent [r]) : SilentlySends i (i.sendToPeer id r) := by
  refine ⟨_, sendToPeer_sends i id r, ?_⟩
  intro q
  split
  · exact hr
  · exact silent_nil

/-! ## What each part of a request does -/

variable (i : CoordinatorInner Node) (p d : Uuid)

theorem lookup_setNode (node : Node) (q : Uuid) : (i.setNode p node).peers.lookup q =
    (i.peers.lookup q).map (fun peer => if q = p then { peer with node := some node } else peer) := by
  unfold CoordinatorInner.setNode
  rcases hp : i.peers.lookup p with _ | peer
  · by_cases hq : q = p
    · subst hq
      simp [hp]
    · simp [hq]
  · rw [HashMap.lookup_insert_ite]
    by_cases hq : q = p
    · subst hq
      simp [hp]
    · simp [hq]

theorem tunnels_setNode (node : Node) : (i.setNode p node).tunnels = i.tunnels := by
  unfold CoordinatorInner.setNode
  split <;> rfl

theorem subscriptions_setNode (node : Node) :
    (i.setNode p node).subscriptions = i.subscriptions := by
  unfold CoordinatorInner.setNode
  split <;> rfl

theorem channel_setNode (node : Node) (q : Uuid) :
    (i.setNode p node).channel q = i.channel q := by
  rw [CoordinatorInner.channel, CoordinatorInner.channel, lookup_setNode]
  rcases i.peers.lookup q with _ | peer
  · rfl
  · by_cases hq : q = p <;> simp [hq]

theorem containsPeer_setNode (node : Node) (q : Uuid) :
    (i.setNode p node).containsPeer q = i.containsPeer q := by
  rw [CoordinatorInner.containsPeer, CoordinatorInner.containsPeer, lookup_setNode,
    Option.isSome_map]

theorem nodeOf_setNode_of_ne {q : Uuid} (node : Node) (hne : q ≠ p) :
    (i.setNode p node).nodeOf q = i.nodeOf q := by
  rw [CoordinatorInner.nodeOf, CoordinatorInner.nodeOf, lookup_setNode]
  rcases i.peers.lookup q with _ | peer <;> simp [hne]

theorem nodeOf_setNode {node node' : Node} (h : (i.setNode p node).nodeOf p = some node') :
    node' = node := by
  rw [CoordinatorInner.nodeOf, lookup_setNode] at h
  rcases hp : i.peers.lookup p with _ | peer
  · simp [hp] at h
  · simpa [hp, eq_comm] using h

/-- A node goes to the tunnel peers first and to the subscribers after them. -/
theorem applyUpdateSelf_sends (node : Node) :
    Sends (i.setNode p node) (applyUpdateSelf i p node) (fun q =>
      (if q ∈ (i.tunnels.findTunnelPeers p).toList then [nodeUpdate p node] else []) ++
      (if q ∈ subscribers i p then [nodeUpdate p node] else [])) := by
  have htold := sendToPeers_sends (i.setNode p node) (i.tunnels.findTunnelPeers p).toList
    (nodeUpdate p node) (i.tunnels.findTunnelPeers p).nodup
  have hsubscribers : subscribers ((i.setNode p node).sendToPeers
      (i.tunnels.findTunnelPeers p).toList (nodeUpdate p node)) p = subscribers i p := by
    simp only [subscribers, htold.subscriptions, subscriptions_setNode]
  have hnodup : (subscribers i p).Nodup := i.subscriptions.keys_nodup.filter _
  simp only [applyUpdateSelf, tunnels_setNode, hsubscribers]
  exact htold.trans (sendToPeers_sends _ _ _ hnodup)

/-- The node of `about`, as it is sent to a new tunnel peer. -/
def introduction (about : Uuid) : List (CoordinateResponse Node) :=
  ((i.nodeOf about).map (nodeUpdate about)).toList

theorem sendNodeOf_sends (about dst : Uuid) :
    Sends i (i.sendNodeOf about dst) (fun q => if q = dst then introduction i about else []) := by
  unfold introduction CoordinatorInner.sendNodeOf
  rcases i.nodeOf about with _ | node
  · simpa using Sends.refl i
  · exact sendToPeer_sends i dst _

theorem lastUpdate_introduction (about x : Uuid) :
    lastUpdate x (introduction i about) =
      if about = x then (i.nodeOf x).map (fun n => { id := x, kind := .node, node := some n })
      else none := by
  unfold introduction
  by_cases h : about = x
  · subst h
    rcases i.nodeOf about with _ | node
    · simp
    · simp [lastUpdate_nodeUpdate]
  · rcases i.nodeOf about with _ | node
    · simp [h]
    · simp [lastUpdate_nodeUpdate, h]

section

variable [UuidText]

/-- A refused tunnel is answered with an error; otherwise both ends are introduced. -/
theorem applyAddTunnel_cases :
    (¬ (d ≠ p ∧ i.containsPeer d = true) ∧ SilentlySends i (applyAddTunnel i p d)) ∨
    ((d ≠ p ∧ i.containsPeer d = true) ∧
      Sends (i.withTunnels (i.tunnels.add p d)) (applyAddTunnel i p d) (fun q =>
        (if q = p then introduction i d else []) ++ (if q = d then introduction i p else []))) := by
  unfold applyAddTunnel
  split
  case isTrue hself =>
    exact .inl ⟨fun h => h.1 hself, sendToPeer_silent i p (silent_errorResponse _)⟩
  case isFalse hself =>
    split
    case isTrue hunknown =>
      refine .inl ⟨fun h => ?_, sendToPeer_silent i p (silent_errorResponse _)⟩
      simp [h.2] at hunknown
    case isFalse hknown =>
      refine .inr ⟨⟨hself, by simpa using hknown⟩, ?_⟩
      have hfirst := sendNodeOf_sends (i.withTunnels (i.tunnels.add p d)) d p
      have hsecond := sendNodeOf_sends ((i.withTunnels (i.tunnels.add p d)).sendNodeOf d p) p d
      rw [introduction, hfirst.nodeOf p] at hsecond
      exact hfirst.trans hsecond

/-- A tunnel that is there is taken down after both ends were told. -/
theorem applyRemoveTunnel_cases :
    (¬ i.tunnels.Linked p d ∧ SilentlySends i (applyRemoveTunnel i p d)) ∨
    (i.tunnels.Linked p d ∧
      Sends (i.withTunnels (i.tunnels.remove p d)) (applyRemoveTunnel i p d) (fun q =>
        (if q = p then [notice d .disconnected] else []) ++
        (if q = d then [notice p .disconnected] else []))) := by
  unfold applyRemoveTunnel
  split
  case isTrue hexists =>
    refine .inr ⟨tunnelExists_iff.mp hexists, ?_⟩
    have hboth := (sendToPeer_sends i p (notice d .disconnected)).trans
      (sendToPeer_sends _ d (notice p .disconnected))
    have htunnels := hboth.withTunnels (i.tunnels.remove p d)
    dsimp only
    rw [hboth.tunnels]
    exact htunnels
  case isFalse hnone =>
    exact .inl ⟨fun h => hnone (tunnelExists_iff.mpr h),
      sendToPeer_silent i p (silent_errorResponse _)⟩

theorem applyReadyForHandshake_silent (rfhIds : List Uuid) :
    SilentlySends i (applyReadyForHandshake i p rfhIds) := by
  induction rfhIds generalizing i with
  | nil => exact .refl i
  | cons dst rfhIds ih =>
    refine SilentlySends.trans ?_ (ih _)
    dsimp only
    split
    · exact sendToPeer_silent i p (silent_errorResponse _)
    · exact sendToPeer_silent i dst (silent_readyForHandshake p)

end

/-- `P` holds while the parts of a request are applied, and `Q` at the end. -/
theorem processRequest_rule [UuidText] {P Q : CoordinatorInner Node → Prop}
    {i : CoordinatorInner Node} {p : Uuid} (request : CoordinateRequest Node)
    (hunknown : i.containsPeer p = false → Q i) (hknown : i.containsPeer p = true → P i)
    (hself : ∀ i node, P i → P (applyUpdateSelf i p node))
    (hadd : ∀ i d, P i → P (applyAddTunnel i p d))
    (hremove : ∀ i d, P i → P (applyRemoveTunnel i p d))
    (hdepart : ∀ i, P i → Q (depart i p .disconnected))
    (hready : ∀ i rfhIds, P i → Q (applyReadyForHandshake i p rfhIds)) (hdone : ∀ i, P i → Q i) :
    Q (processRequest i p request).2 := by
  have hpart {α : Type} (field : Option α) {i : CoordinatorInner Node} (hi : P i)
      {f : α → CoordinatorInner Node} (hf : ∀ a, P (f a)) : P (ifSome field i f) := by
    cases field with
    | none => exact hi
    | some a => exact hf a
  unfold processRequest
  split
  case isTrue h => exact hunknown (by simpa using h)
  case isFalse h =>
    -- the parts of a request are applied in this order, those left out change nothing
    have hP0 := hknown (by simpa using h)
    have hP1 := hpart request.updateSelf hP0 fun node => hself _ node hP0
    have hP2 := hpart request.addTunnel hP1 fun d => hadd _ d hP1
    have hP3 := hpart request.removeTunnel hP2 fun d => hremove _ d hP2
    dsimp only
    split
    · exact hdepart _ hP3
    · cases request.readyForHandshake with
      | none => exact hdone _ hP3
      | some rfhIds => exact hready _ rfhIds hP3

/-! ## Sessions that start and end -/

theorem lookup_insertPeer (peer : CoordinatorPeer Node) (q : Uuid) :
    (i.insertPeer p peer).peers.lookup q = if q = p then some peer else i.peers.lookup q :=
  HashMap.lookup_insert_ite _ _ _ _

theorem tunnels_closeChannel : (i.closeChannel p).tunnels = i.tunnels := by
  unfold CoordinatorInner.closeChannel
  split <;> rfl

theorem subscriptions_closeChannel : (i.closeChannel p).subscriptions = i.subscriptions := by
  unfold CoordinatorInner.closeChannel
  split <;> rfl

theorem tunnels_insertPeer (peer : CoordinatorPeer Node) :
    (i.insertPeer p peer).tunnels = i.tunnels := tunnels_closeChannel i p

theorem subscriptions_insertPeer (peer : CoordinatorPeer Node) :
    (i.insertPeer p peer).subscriptions = i.subscriptions := subscriptions_closeChannel i p

theorem lookup_forgetPeer (q : Uuid) :
    (i.forgetPeer p).peers.lookup q = if q = p then none else i.peers.lookup q :=
  HashMap.lookup_erase_ite _ _ _

theorem depart_sends (kind : PeerUpdateKind) :
    ∃ told, Sends i told (fun q => if q ∈ (i.tunnels.findTunnelPeers p).toList then
        [notice p kind] else []) ∧
      depart i p kind = told.forgetPeer p :=
  ⟨_, sendToPeers_sends i _ _ (i.tunnels.findTunnelPeers p).nodup, rfl⟩

/-- The tunnel peers as a new session of `p` is told of them. -/
def greeting (peerUpdates : List (PeerUpdateMsg Node)) : List (CoordinateResponse Node) :=
  if peerUpdates.isEmpty then [] else [{ peerUpdates, error := none }]

theorem coordinate_sends (info : PeerInfo) (sessionId : Uuid) :
    ∃ fresh : CoordinatorInner Node,
      (∀ q, fresh.peers.lookup q = if q = info.id then
        some { info, node := none, responseTx := some [], sessionId } else i.peers.lookup q) ∧
      fresh.tunnels = i.tunnels ∧ fresh.subscriptions = i.subscriptions ∧
      Sends fresh (coordinate i info sessionId)
        (fun q => if q = info.id then greeting (initialUpdates fresh info.id) else []) := by
  -- the old channel hears of it before the new one takes its place
  have hold := sendToPeer_sends i info.id (errorResponse "overwritten by new connection")
  refine ⟨(i.sendToPeer info.id (errorResponse "overwritten by new connection")).insertPeer info.id
    { info, node := none, responseTx := some [], sessionId }, ?_, ?_, ?_, ?_⟩
  · intro q
    rw [lookup_insertPeer]
    by_cases hq : q = info.id
    · rw [if_pos hq, if_pos hq]
    · rw [if_neg hq, if_neg hq, hold.peers q, if_neg hq]
      exact ((Sends.refl i).peers q).symm
  · rw [tunnels_insertPeer, hold.tunnels]
  · rw [subscriptions_insertPeer, hold.subscriptions]
  · simp only [coordinate, greeting]
    split
    · simpa using Sends.refl _
    · exact sendToPeer_sends _ _ _

theorem filter_filterMap_id {ids : List Uuid} (hnodup : ids.Nodup)
    (nodeOf : Uuid → Option Node) (x : Uuid) :
    (ids.filterMap fun id => (nodeOf id).map fun node =>
        ({ id, kind := .node, node := some node } : PeerUpdateMsg Node)).filter
        (fun u => u.id = x ∧ u.kind ≠ .readyForHandshake) =
      if x ∈ ids then
        ((nodeOf x).map fun n => { id := x, kind := .node, node := some n }).toList else [] := by
  induction ids with
  | nil => rfl
  | cons id ids ih =>
    obtain ⟨hnew, hnodup⟩ := List.nodup_cons.mp hnodup
    have hrest := ih hnodup
    rw [List.filterMap_cons]
    by_cases hx : x = id
    · subst hx
      rw [if_neg hnew] at hrest
      rcases hnode : nodeOf x with _ | node
      · simpa [hnode] using hrest
      · simpa [hnode] using hrest
    · rcases hnode : nodeOf id with _ | node
      · simpa [hx] using hrest
      · simpa [hx, Ne.symm hx] using hrest

theorem lastUpdate_greeting (x : Uuid) :
    lastUpdate x (greeting (initialUpdates i p)) =
      if i.tunnels.Linked p x then
        (i.nodeOf x).map (fun n => { id := x, kind := .node, node := some n })
      else none := by
  have hflat : (greeting (initialUpdates i p)).flatMap (·.peerUpdates) = initialUpdates i p := by
    unfold greeting
    split
    case isTrue hempty => simp [List.isEmpty_iff.mp hempty]
    case isFalse => simp
  rw [lastUpdate, hflat, initialUpdates,
    filter_filterMap_id (i.tunnels.findTunnelPeers p).nodup i.nodeOf x]
  simp only [HashSet.mem_toList, mem_findTunnelPeers]
  split
  · rcases i.nodeOf x with _ | node <;> rfl
  · rfl

end Coderd.Tailnet
