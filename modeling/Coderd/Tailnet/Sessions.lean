import Coderd.Tailnet.Messaging

namespace Coderd.Tailnet

open Coderd.Foundation TunnelStore

variable {Node : Type}

/-! ## What belongs to a session -/

/-- A peer record without the messages that wait on its channel. -/
structure SessionRecord (Node : Type) where
  info : PeerInfo
  node : Option Node
  hasChannel : Bool
  sessionId : Uuid

def CoordinatorPeer.record (peer : CoordinatorPeer Node) : SessionRecord Node where
  info := peer.info
  node := peer.node
  hasChannel := peer.responseTx.isSome
  sessionId := peer.sessionId

def CoordinatorInner.record (i : CoordinatorInner Node) (p : Uuid) :
    Option (SessionRecord Node) :=
  (i.peers.lookup p).map CoordinatorPeer.record

/-- The record, the tunnels and the subscriptions of the session that is registered for
`p` are the same in `i'` as in `i`. Without such a session there is nothing to keep. -/
structure SessionUnchanged (i i' : CoordinatorInner Node) (p : Uuid) : Prop where
  record : i'.record p = i.record p
  tunnels : i.containsPeer p = true → ∀ q,
    (i'.tunnels.Tunnel p q ↔ i.tunnels.Tunnel p q) ∧ (i'.tunnels.Tunnel q p ↔ i.tunnels.Tunnel q p)
  subscriptions : i.containsPeer p = true → ∀ agent,
    agent ∈ SetMap.get i'.subscriptions p ↔ agent ∈ SetMap.get i.subscriptions p

variable {i i' : CoordinatorInner Node} {p d : Uuid}
  {sent : Uuid → List (CoordinateResponse Node)}

theorem containsPeer_eq_record (q : Uuid) : i.containsPeer q = (i.record q).isSome := by
  rw [CoordinatorInner.containsPeer, CoordinatorInner.record, Option.isSome_map]

theorem nodeOf_eq_record (q : Uuid) : i.nodeOf q = (i.record q).bind SessionRecord.node := by
  rw [CoordinatorInner.nodeOf, CoordinatorInner.record]
  cases i.peers.lookup q <;> rfl

theorem Sends.record (h : Sends i i' sent) (q : Uuid) : i'.record q = i.record q := by
  rw [CoordinatorInner.record, CoordinatorInner.record, h.peers q, Option.map_map]
  apply congrArg (Option.map · (i.peers.lookup q))
  funext peer
  simp [CoordinatorPeer.record, CoordinatorPeer.pushAll]

theorem record_setNode_self (node : Node) : (i.setNode p node).record p =
    (i.record p).map (fun r => { r with node := some node }) := by
  rw [CoordinatorInner.record, CoordinatorInner.record, lookup_setNode, Option.map_map,
    Option.map_map]
  apply congrArg (Option.map · (i.peers.lookup p))
  funext peer
  simp [CoordinatorPeer.record]

theorem record_forgetPeer_self : (i.forgetPeer p).record p = none := by
  rw [CoordinatorInner.record, lookup_forgetPeer, if_pos rfl]
  rfl

/-! ## What a request does to the session it is for -/

theorem applyUpdateSelf_effect (field : Option Node) :
    (ifSome field i fun node => applyUpdateSelf i p node).record p =
      (i.record p).map (fun r => { r with node := field.or r.node }) ∧
    (ifSome field i fun node => applyUpdateSelf i p node).tunnels = i.tunnels ∧
    (ifSome field i fun node => applyUpdateSelf i p node).subscriptions = i.subscriptions ∧
    ∀ q, (ifSome field i fun node => applyUpdateSelf i p node).containsPeer q =
      i.containsPeer q := by
  cases field with
  | none =>
    refine ⟨?_, rfl, rfl, fun _ => rfl⟩
    simp [ifSome]
  | some node =>
    have hsends := applyUpdateSelf_sends i p node
    refine ⟨?_, ?_, ?_, ?_⟩
    · exact (hsends.record p).trans (record_setNode_self node)
    · exact hsends.tunnels.trans (tunnels_setNode i p node)
    · exact hsends.subscriptions.trans (subscriptions_setNode i p node)
    · exact fun q => (hsends.containsPeer q).trans (containsPeer_setNode i p node q)

section

variable [UuidText]

theorem applyAddTunnel_effect (field : Option Uuid) : ∃ t sent,
    Sends (i.withTunnels t) (ifSome field i fun d => applyAddTunnel i p d) sent ∧
    ∀ a b, t.Tunnel a b ↔ i.tunnels.Tunnel a b ∨
      (a = p ∧ field = some b ∧ b ≠ p ∧ i.containsPeer b = true) := by
  cases field with
  | none => exact ⟨i.tunnels, _, Sends.refl i, by simp⟩
  | some d =>
    obtain ⟨hrefused, sent, hsends, -⟩ | ⟨⟨hself, hknown⟩, hsends⟩ := applyAddTunnel_cases i p d
    · refine ⟨i.tunnels, sent, hsends, ?_⟩
      intro a b
      refine ⟨.inl, ?_⟩
      rintro (h | ⟨-, hb, hne, hcontains⟩)
      · exact h
      · cases hb
        exact absurd ⟨hne, hcontains⟩ hrefused
    · refine ⟨i.tunnels.add p d, _, hsends, ?_⟩
      intro a b
      rw [tunnel_add]
      refine or_congr_right ⟨?_, ?_⟩
      · rintro ⟨rfl, rfl⟩
        exact ⟨rfl, rfl, hself, hknown⟩
      · rintro ⟨rfl, hb, -, -⟩
        cases hb
        exact ⟨rfl, rfl⟩

theorem applyRemoveTunnel_effect (field : Option Uuid) : ∃ t sent,
    Sends (i.withTunnels t) (ifSome field i fun d => applyRemoveTunnel i p d) sent ∧
    ∀ a b, t.Tunnel a b ↔ i.tunnels.Tunnel a b ∧
      ∀ d, field = some d → ¬ (a = p ∧ b = d) ∧ ¬ (a = d ∧ b = p) := by
  cases field with
  | none => exact ⟨i.tunnels, _, Sends.refl i, by simp⟩
  | some d =>
    simp only [Option.some.injEq, forall_eq']
    obtain ⟨hnone, sent, hsends, -⟩ | ⟨-, hsends⟩ := applyRemoveTunnel_cases i p d
    · refine ⟨i.tunnels, sent, hsends, ?_⟩
      intro a b
      refine ⟨fun h => ⟨h, ?_, ?_⟩, fun h => h.1⟩
      · rintro ⟨rfl, rfl⟩
        exact hnone (.inl h)
      · rintro ⟨rfl, rfl⟩
        exact hnone (.inr h)
    · exact ⟨i.tunnels.remove p d, _, hsends, fun a b => tunnel_remove⟩

/-- The effect of a request that does not disconnect, as far as its own session goes. -/
structure RequestEffect (i i' : CoordinatorInner Node) (p : Uuid)
    (request : CoordinateRequest Node) : Prop where
  record : i'.record p =
    (i.record p).map (fun r => { r with node := request.updateSelf.or r.node })
  tunnel : ∀ a b, i'.tunnels.Tunnel a b ↔
    (i.tunnels.Tunnel a b ∨
      (a = p ∧ request.addTunnel = some b ∧ b ≠ p ∧ i.containsPeer b = true)) ∧
    ∀ d, request.removeTunnel = some d → ¬ (a = p ∧ b = d) ∧ ¬ (a = d ∧ b = p)
  subscriptions : i'.subscriptions = i.subscriptions

theorem processRequest_effect (hp : i.containsPeer p = true) {request : CoordinateRequest Node}
    (hstay : request.disconnect ≠ some true) :
    RequestEffect i (processRequest i p request).2 p request := by
  unfold processRequest
  simp only [hp, hstay, Bool.not_true, Bool.false_eq_true, if_false]
  obtain ⟨hrecord, htunnels, hsubscriptions, hcontains⟩ :=
    applyUpdateSelf_effect (i := i) (p := p) request.updateSelf
  generalize (ifSome request.updateSelf i fun node => applyUpdateSelf i p node) = i₁ at *
  obtain ⟨t₂, sent₂, hsends₂, ht₂⟩ := applyAddTunnel_effect (i := i₁) (p := p) request.addTunnel
  generalize (ifSome request.addTunnel i₁ fun d => applyAddTunnel i₁ p d) = i₂ at *
  obtain ⟨t₃, sent₃, hsends₃, ht₃⟩ :=
    applyRemoveTunnel_effect (i := i₂) (p := p) request.removeTunnel
  generalize (ifSome request.removeTunnel i₂ fun d => applyRemoveTunnel i₂ p d) = i₃ at *
  have hready : SilentlySends i₃ (ifSome request.readyForHandshake i₃ fun rfhIds =>
      applyReadyForHandshake i₃ p rfhIds) := by
    cases request.readyForHandshake with
    | none => exact .refl i₃
    | some rfhIds => exact applyReadyForHandshake_silent i₃ p rfhIds
  obtain ⟨sent₄, hsends₄, -⟩ := hready
  refine ⟨?_, ?_, ?_⟩
  · rw [hsends₄.record, hsends₃.record]
    exact (hsends₂.record p).trans hrecord
  · intro a b
    rw [hsends₄.tunnels, hsends₃.tunnels]
    refine (ht₃ a b).trans ?_
    rw [hsends₂.tunnels]
    refine and_congr_left' ((ht₂ a b).trans ?_)
    rw [htunnels, hcontains]
  · rw [hsends₄.subscriptions, hsends₃.subscriptions]
    exact hsends₂.subscriptions.trans hsubscriptions

end

/-! ## Calls of a session that was overwritten -/

/-- A call by whoever holds an old session of a peer, or its multi-agent handle. -/
inductive StaleCall (Node : Type) where
  | closeCoordination
  | processRequest (request : CoordinateRequest Node)
  | subscribe (agentId : Uuid)
  | unsubscribe (agentId : Uuid)
  | updateSelf (node : Node)
  | close

/-- The call goes out under the old session id, where it takes one at all. -/
def StaleCall.apply [UuidText] (old : MultiAgentConn) (i : CoordinatorInner Node) :
    StaleCall Node → CoordinatorInner Node
  | closeCoordination => Tailnet.closeCoordination i old.clientId old.sessionId
  | processRequest request => (Tailnet.processRequest i old.clientId request).2
  | subscribe agentId => old.subscribe i agentId
  | unsubscribe agentId => old.unsubscribe i agentId
  | updateSelf node => old.updateSelf i node
  | close => old.close i

/-- A request that asks for nothing but what the session of `p` already is and has. A tunnel
may be asked for and given up at once. -/
def CoordinateRequest.AsksNothing (request : CoordinateRequest Node) (i : CoordinatorInner Node)
    (p : Uuid) : Prop :=
  request.disconnect ≠ some true ∧
  (∀ node, request.updateSelf = some node → i.nodeOf p = some node) ∧
  (∀ d, request.removeTunnel = some d → ¬ i.tunnels.Linked p d) ∧
  (∀ d, request.addTunnel = some d → d ≠ p → i.containsPeer d = true →
    i.tunnels.Tunnel p d ∨ request.removeTunnel = some d)

def StaleCall.Inert (i : CoordinatorInner Node) (p : Uuid) : StaleCall Node → Prop
  | closeCoordination | close => True
  | processRequest request => i.containsPeer p = true → request.AsksNothing i p
  | subscribe agentId => i.containsPeer p = true → agentId ∈ SetMap.get i.subscriptions p
  | unsubscribe agentId => i.containsPeer p = true → ¬ agentId ∈ SetMap.get i.subscriptions p
  | updateSelf node => i.containsPeer p = true → i.nodeOf p = some node

theorem SessionUnchanged.refl (i : CoordinatorInner Node) (p : Uuid) : SessionUnchanged i i p :=
  ⟨rfl, fun _ _ => ⟨Iff.rfl, Iff.rfl⟩, fun _ _ => Iff.rfl⟩

theorem record_eq_map_node_iff (hp : i.containsPeer p = true) (field : Option Node) :
    (i.record p).map (fun r => { r with node := field.or r.node }) = i.record p ↔
      ∀ node, field = some node → i.nodeOf p = some node := by
  rw [nodeOf_eq_record]
  rw [containsPeer_eq_record] at hp
  obtain ⟨r, hr⟩ := Option.isSome_iff_exists.mp hp
  obtain ⟨info, node, hasChannel, sessionId⟩ := r
  cases field with
  | none => simp [hr]
  | some node' => simp [hr, eq_comm]

/-- Adding and removing tunnels comes to nothing for the ends at `p` just when what is
removed was not there and what is added was, or is removed right away. -/
theorem tunnels_unchanged_iff {t t' : TunnelStore} {add remove : Option Uuid} {known : Uuid → Prop}
    (h : ∀ a b, t'.Tunnel a b ↔ (t.Tunnel a b ∨ (a = p ∧ add = some b ∧ b ≠ p ∧ known b)) ∧
      ∀ d, remove = some d → ¬ (a = p ∧ b = d) ∧ ¬ (a = d ∧ b = p)) :
    (∀ q, (t'.Tunnel p q ↔ t.Tunnel p q) ∧ (t'.Tunnel q p ↔ t.Tunnel q p)) ↔
      (∀ d, remove = some d → ¬ t.Linked p d) ∧
      (∀ d, add = some d → d ≠ p → known d → t.Tunnel p d ∨ remove = some d) := by
  constructor
  · intro hsame
    refine ⟨?_, ?_⟩
    · rintro d hremove (hlinked | hlinked)
      · have hkept := ((h p d).mp ((hsame d).1.mpr hlinked)).2 d hremove
        exact hkept.1 ⟨rfl, rfl⟩
      · have hkept := ((h d p).mp ((hsame d).2.mpr hlinked)).2 d hremove
        exact hkept.2 ⟨rfl, rfl⟩
    · intro d hadd hne hknown
      by_contra hneither
      rw [not_or] at hneither
      refine hneither.1 ((hsame d).1.mp ((h p d).mpr ⟨.inr ⟨rfl, hadd, hne, hknown⟩, ?_⟩))
      intro r hremove
      refine ⟨?_, ?_⟩
      · rintro ⟨-, rfl⟩
        exact hneither.2 hremove
      · rintro ⟨-, heq⟩
        exact hne heq
  · rintro ⟨hremove, hadd⟩ q
    refine ⟨⟨?_, ?_⟩, ⟨?_, ?_⟩⟩
    · intro hq
      obtain ⟨hq | ⟨-, hq, hne, hknown⟩, hkept⟩ := (h p q).mp hq
      · exact hq
      · obtain hq | hq := hadd q hq hne hknown
        · exact hq
        · exact absurd ⟨rfl, rfl⟩ (hkept q hq).1
    · intro hq
      refine (h p q).mpr ⟨.inl hq, fun d hd => ⟨?_, ?_⟩⟩
      · rintro ⟨-, rfl⟩
        exact hremove q hd (.inl hq)
      · rintro ⟨rfl, rfl⟩
        exact hremove _ hd (.inl hq)
    · intro hq
      obtain ⟨hq | ⟨-, -, hne, -⟩, -⟩ := (h q p).mp hq
      · exact hq
      · exact absurd rfl hne
    · intro hq
      refine (h q p).mpr ⟨.inl hq, fun d hd => ⟨?_, ?_⟩⟩
      · rintro ⟨rfl, rfl⟩
        exact hremove _ hd (.inl hq)
      · rintro ⟨rfl, -⟩
        exact hremove q hd (.inr hq)

theorem processRequest_unchanged_iff [UuidText] (hp : i.containsPeer p = true)
    (request : CoordinateRequest Node) :
    SessionUnchanged i (processRequest i p request).2 p ↔ request.AsksNothing i p := by
  by_cases hstay : request.disconnect = some true
  · refine ⟨fun h => ?_, fun h => absurd hstay h.1⟩
    have hgone : (processRequest i p request).2.record p = none := by
      simp only [processRequest, hp, hstay, Bool.not_true, Bool.false_eq_true, if_false, if_true]
      exact record_forgetPeer_self
    have hrecord := h.record
    rw [containsPeer_eq_record, ← hrecord, hgone] at hp
    cases hp
  · have heffect := processRequest_effect hp hstay
    have hrecord := record_eq_map_node_iff hp request.updateSelf
    have htunnels := tunnels_unchanged_iff (p := p) heffect.tunnel
    constructor
    · intro h
      have hends := htunnels.mp (h.tunnels hp)
      exact ⟨hstay, hrecord.mp (heffect.record.symm.trans h.record), hends.1, hends.2⟩
    · rintro ⟨-, hnode, hends⟩
      refine ⟨heffect.record.trans (hrecord.mpr hnode), fun _ => htunnels.mpr hends, ?_⟩
      intro _ agent
      rw [heffect.subscriptions]

/-- The session is not, or no longer, the one that is registered for its peer. -/
def MultiAgentConn.Overwritten (old : MultiAgentConn) (i : CoordinatorInner Node) : Prop :=
  ∀ peer, i.peers.lookup old.clientId = some peer → peer.sessionId ≠ old.sessionId

theorem closeCoordination_overwritten {old : MultiAgentConn} (h : old.Overwritten i) :
    closeCoordination i old.clientId old.sessionId = i := by
  unfold closeCoordination
  rcases hpeer : i.peers.lookup old.clientId with _ | peer
  · rfl
  · exact if_pos (h peer hpeer)

theorem subscribe_unchanged_iff (conn : MultiAgentConn) (agentId : Uuid) :
    SessionUnchanged i (conn.subscribe i agentId) conn.clientId ↔
      (i.containsPeer conn.clientId = true →
        agentId ∈ SetMap.get i.subscriptions conn.clientId) := by
  have hsends := sendNodeOf_sends
    { i with subscriptions := SetMap.add i.subscriptions conn.clientId agentId } agentId conn.clientId
  have hmem (agent : Uuid) : agent ∈ SetMap.get (conn.subscribe i agentId).subscriptions
      conn.clientId ↔ agent ∈ SetMap.get i.subscriptions conn.clientId ∨ agent = agentId := by
    unfold MultiAgentConn.subscribe
    rw [hsends.subscriptions, SetMap.mem_get_add]
    simp
  constructor
  · intro h hp
    exact (h.subscriptions hp agentId).mp ((hmem agentId).mpr (.inr rfl))
  · intro h
    refine ⟨hsends.record _, ?_, ?_⟩
    · intro _ q
      unfold MultiAgentConn.subscribe
      rw [hsends.tunnels]
      exact ⟨Iff.rfl, Iff.rfl⟩
    · intro hp agent
      rw [hmem]
      refine ⟨?_, .inl⟩
      rintro (hagent | rfl)
      · exact hagent
      · exact h hp

theorem unsubscribe_unchanged_iff (conn : MultiAgentConn) (agentId : Uuid) :
    SessionUnchanged i (conn.unsubscribe i agentId) conn.clientId ↔
      (i.containsPeer conn.clientId = true →
        ¬ agentId ∈ SetMap.get i.subscriptions conn.clientId) := by
  have hmem (agent : Uuid) : agent ∈ SetMap.get (conn.unsubscribe i agentId).subscriptions
      conn.clientId ↔ agent ∈ SetMap.get i.subscriptions conn.clientId ∧ agent ≠ agentId := by
    refine SetMap.mem_get_discard.trans ?_
    simp
  constructor
  · intro h hp hagent
    exact ((hmem agentId).mp ((h.subscriptions hp agentId).mpr hagent)).2 rfl
  · intro h
    refine ⟨rfl, fun _ q => ⟨Iff.rfl, Iff.rfl⟩, ?_⟩
    intro hp agent
    rw [hmem]
    refine ⟨fun hagent => hagent.1, fun hagent => ⟨hagent, ?_⟩⟩
    rintro rfl
    exact h hp hagent

theorem StaleCall.unchanged_iff [UuidText] {old : MultiAgentConn} (h : old.Overwritten i)
    (call : StaleCall Node) :
    SessionUnchanged i (call.apply old i) old.clientId ↔ call.Inert i old.clientId := by
  have hrequest (request : CoordinateRequest Node) :
      SessionUnchanged i (Tailnet.processRequest i old.clientId request).2 old.clientId ↔
        (i.containsPeer old.clientId = true → request.AsksNothing i old.clientId) := by
    by_cases hp : i.containsPeer old.clientId = true
    · rw [processRequest_unchanged_iff hp]
      exact ⟨fun h _ => h, fun h => h hp⟩
    · have hsame : (Tailnet.processRequest i old.clientId request).2 = i := by
        simp [Tailnet.processRequest, hp]
      rw [hsame]
      exact ⟨fun _ h => absurd h hp, fun _ => .refl i _⟩
  have hclose : SessionUnchanged i (Tailnet.closeCoordination i old.clientId old.sessionId)
      old.clientId := by
    rw [closeCoordination_overwritten h]
    exact .refl i _
  cases call with
  | closeCoordination => exact iff_of_true hclose trivial
  | close => exact iff_of_true hclose trivial
  | processRequest request => exact hrequest request
  | subscribe agentId => exact subscribe_unchanged_iff old agentId
  | unsubscribe agentId => exact unsubscribe_unchanged_iff old agentId
  | updateSelf node =>
    refine (hrequest _).trans (imp_congr_right fun _ => ?_)
    simp [CoordinateRequest.AsksNothing]

/-! ## Runs with an overwritten session -/

def CoordinatorInner.sessionOf (i : CoordinatorInner Node) (q : Uuid) : Option Uuid :=
  (i.record q).map SessionRecord.sessionId

/-- No peer has a session in `i'` that it did not have in `i`. -/
def NoNewSession (i i' : CoordinatorInner Node) : Prop :=
  ∀ q s, i'.sessionOf q = some s → i.sessionOf q = some s

theorem NoNewSession.trans {i'' : CoordinatorInner Node} (h : NoNewSession i i')
    (h' : NoNewSession i' i'') : NoNewSession i i'' :=
  fun q s hs => h q s (h' q s hs)

theorem Sends.noNewSession (h : Sends i i' sent) : NoNewSession i i' := by
  intro q s hs
  rwa [CoordinatorInner.sessionOf, h.record] at hs

theorem noNewSession_setNode (node : Node) : NoNewSession i (i.setNode p node) := by
  intro q s hs
  rw [CoordinatorInner.sessionOf, CoordinatorInner.record, lookup_setNode] at hs
  rw [CoordinatorInner.sessionOf, CoordinatorInner.record]
  rcases hq : i.peers.lookup q with _ | peer
  · simp [hq] at hs
  · by_cases heq : q = p <;> simpa [hq, heq, CoordinatorPeer.record] using hs

theorem noNewSession_forgetPeer : NoNewSession i (i.forgetPeer p) := by
  intro q s hs
  rw [CoordinatorInner.sessionOf, CoordinatorInner.record, lookup_forgetPeer] at hs
  by_cases hq : q = p
  · simp [hq] at hs
  · rwa [if_neg hq] at hs

theorem noNewSession_depart (kind : PeerUpdateKind) : NoNewSession i (depart i p kind) := by
  obtain ⟨told, hsends, hdepart⟩ := depart_sends i p kind
  rw [hdepart]
  exact hsends.noNewSession.trans noNewSession_forgetPeer

theorem noNewSession_processRequest [UuidText] (request : CoordinateRequest Node) :
    NoNewSession i (processRequest i p request).2 := by
  refine processRequest_rule (P := NoNewSession i) request ?_ ?_ ?_ ?_ ?_ ?_ ?_ ?_
  · exact fun _ _ _ h => h
  · exact fun _ _ _ h => h
  · intro j node hj
    exact (hj.trans (noNewSession_setNode node)).trans (applyUpdateSelf_sends j p node).noNewSession
  · intro j d hj
    obtain ⟨t, sent, hsends, -⟩ := applyAddTunnel_effect (i := j) (p := p) (some d)
    exact hj.trans hsends.noNewSession
  · intro j d hj
    obtain ⟨t, sent, hsends, -⟩ := applyRemoveTunnel_effect (i := j) (p := p) (some d)
    exact hj.trans hsends.noNewSession
  · exact fun j hj => hj.trans (noNewSession_depart _)
  · intro j rfhIds hj
    obtain ⟨sent, hsends, -⟩ := applyReadyForHandshake_silent j p rfhIds
    exact hj.trans hsends.noNewSession
  · exact fun _ hj => hj

theorem noNewSession_closeCoordination (sessionId : Uuid) :
    NoNewSession i (closeCoordination i p sessionId) := by
  unfold closeCoordination
  split
  · split
    · exact fun _ _ h => h
    · exact noNewSession_depart _
  · exact fun _ _ h => h

theorem noNewSession_subscribe (conn : MultiAgentConn) (agentId : Uuid) :
    NoNewSession i (conn.subscribe i agentId) :=
  (sendNodeOf_sends _ agentId conn.clientId).noNewSession

/-- The session id a call makes up, if it makes one up. -/
def Call.issued : Call Node → Option Uuid
  | addPeer _ sessionId | coordinate _ sessionId => some sessionId
  | _ => none

theorem sessionOf_apply [UuidText] {call : Call Node} {q s : Uuid}
    (h : (call.apply i).sessionOf q = some s) : i.sessionOf q = some s ∨ call.issued = some s := by
  cases call with
  | addPeer info sessionId =>
    rw [Call.apply, addPeer, CoordinatorInner.sessionOf, CoordinatorInner.record,
      lookup_insertPeer] at h
    by_cases hq : q = info.id
    · exact .inr (by simpa [hq, CoordinatorPeer.record, Call.issued] using h)
    · rw [if_neg hq] at h
      exact .inl h
  | removePeer peerId => exact .inl (noNewSession_forgetPeer q s h)
  | coordinate info sessionId =>
    obtain ⟨fresh, hpeers, -, -, hsends⟩ := coordinate_sends i info sessionId
    have h := hsends.noNewSession q s h
    rw [CoordinatorInner.sessionOf, CoordinatorInner.record, hpeers] at h
    by_cases hq : q = info.id
    · exact .inr (by simpa [hq, CoordinatorPeer.record, Call.issued] using h)
    · rw [if_neg hq] at h
      exact .inl h
  | processRequest peerId request => exact .inl (noNewSession_processRequest request q s h)
  | closeCoordination peerId sessionId =>
    exact .inl (noNewSession_closeCoordination sessionId q s h)
  | subscribe conn agentId => exact .inl (noNewSession_subscribe conn agentId q s h)
  | unsubscribe conn agentId => exact .inl h

theorem overwritten_iff {old : MultiAgentConn} :
    old.Overwritten i ↔ i.sessionOf old.clientId ≠ some old.sessionId := by
  unfold MultiAgentConn.Overwritten CoordinatorInner.sessionOf CoordinatorInner.record
  cases i.peers.lookup old.clientId with
  | none => simp
  | some peer => simp [CoordinatorPeer.record]

/-- What happens after a session was overwritten: anyone's calls, and those of its holder. -/
inductive Event (Node : Type) where
  | other (call : Call Node)
  | stale (call : StaleCall Node)

def Event.apply [UuidText] (old : MultiAgentConn) (i : CoordinatorInner Node) :
    Event Node → CoordinatorInner Node
  | other call => call.apply i
  | stale call => call.apply old i

def Event.issued : Event Node → Option Uuid
  | other call => call.issued
  | stale _ => none

theorem Event.overwritten_apply [UuidText] {old : MultiAgentConn} (h : old.Overwritten i)
    {event : Event Node} (hevent : event.issued ≠ some old.sessionId) :
    old.Overwritten (event.apply old i) := by
  rw [overwritten_iff] at h ⊢
  cases event with
  | other call =>
    intro hcurrent
    obtain hbefore | hissued := sessionOf_apply hcurrent
    · exact h hbefore
    · exact hevent hissued
  | stale call =>
    -- a call of the old holder can end sessions but begins none
    have hnone : NoNewSession i (call.apply old i) := by
      cases call with
      | closeCoordination => exact noNewSession_closeCoordination _
      | processRequest request => exact noNewSession_processRequest request
      | subscribe agentId => exact noNewSession_subscribe old agentId
      | unsubscribe agentId => exact fun _ _ hs => hs
      | updateSelf node => exact noNewSession_processRequest _
      | close => exact noNewSession_closeCoordination _
    exact fun hcurrent => h (hnone _ _ hcurrent)

/-- A run in which a peer begins a session, another session overwrites it, and more happens.
Session ids are fresh, as those of `Uuid::new_v4` are. -/
structure OverwritingRun (Node : Type) where
  before : List (Call Node)
  first : PeerInfo
  old : Uuid
  between : List (Call Node)
  second : PeerInfo
  new : Uuid
  after : List (Event Node)
  same_peer : second.id = first.id
  fresh : (before.filterMap Call.issued ++ old :: between.filterMap Call.issued ++
    new :: after.filterMap Event.issued).Nodup

namespace OverwritingRun

/-- The holder of the first session. -/
def holder (run : OverwritingRun Node) : MultiAgentConn := ⟨run.first.id, run.old⟩

/-- The state after the overwriting and the events `events`. -/
def stateAfter [UuidText] (run : OverwritingRun Node) (events : List (Event Node)) :
    CoordinatorInner Node :=
  events.foldl (Event.apply run.holder)
    (runCalls (run.before ++ .coordinate run.first run.old :: run.between ++
      [.coordinate run.second run.new]))

theorem old_not_issued_later (run : OverwritingRun Node) :
    run.new ≠ run.old ∧ ∀ event ∈ run.after, event.issued ≠ some run.old := by
  -- the id of the first session stands before all ids that are made up later
  obtain ⟨-, -, hdisjoint⟩ := List.nodup_append.mp run.fresh
  have hold : run.old ∈ run.before.filterMap Call.issued ++
      run.old :: run.between.filterMap Call.issued :=
    List.mem_append_right _ List.mem_cons_self
  refine ⟨(hdisjoint _ hold _ List.mem_cons_self).symm, ?_⟩
  intro event hevent hissued
  exact hdisjoint _ hold _
    (List.mem_cons_of_mem _ (List.mem_filterMap.mpr ⟨event, hevent, hissued⟩)) rfl

theorem sessionOf_coordinate (info : PeerInfo) (sessionId : Uuid) :
    (coordinate i info sessionId).sessionOf info.id = some sessionId := by
  obtain ⟨fresh, hpeers, -, -, hsends⟩ := coordinate_sends i info sessionId
  rw [CoordinatorInner.sessionOf, hsends.record, CoordinatorInner.record, hpeers, if_pos rfl]
  rfl

theorem overwritten_stateAfter [UuidText] (run : OverwritingRun Node)
    (events : List (Event Node)) (hevents : ∀ event ∈ events, event ∈ run.after) :
    run.holder.Overwritten (run.stateAfter events) := by
  obtain ⟨hnew, hlater⟩ := run.old_not_issued_later
  refine List.foldlRecOn events _ ?_ ?_
  · rw [overwritten_iff, runCalls, List.foldl_append, holder, ← run.same_peer]
    dsimp only [List.foldl_cons, List.foldl_nil, Call.apply]
    rw [sessionOf_coordinate]
    simpa using hnew
  · intro i hi event hmem
    exact event.overwritten_apply hi (hlater event (hevents event hmem))

/-- In every run, the calls of an overwritten session all leave the newer session alone if
and only if each of them asks for nothing that the newer session does not already have. -/
theorem stale_calls_unchanged_iff [UuidText] (run : OverwritingRun Node) :
    (∀ events call later, run.after = events ++ .stale call :: later →
      SessionUnchanged (run.stateAfter events)
        (call.apply run.holder (run.stateAfter events)) run.first.id) ↔
    (∀ events call later, run.after = events ++ .stale call :: later →
      call.Inert (run.stateAfter events) run.first.id) := by
  have hcall (events : List (Event Node)) (call : StaleCall Node) (later : List (Event Node))
      (hafter : run.after = events ++ .stale call :: later) :=
    call.unchanged_iff (run.overwritten_stateAfter events
      (fun event hevent => hafter ▸ List.mem_append_left _ hevent))
  constructor
  · intro h events call later hafter
    exact (hcall events call later hafter).mp (h events call later hafter)
  · intro h events call later hafter
    exact (hcall events call later hafter).mpr (h events call later hafter)

/-- A peer reconnects, and then a request of its first session asks to disconnect. -/
def staleDisconnect : OverwritingRun Nat where
  before := []
  first := ⟨⟨1⟩, "agent", .agent, 0⟩
  old := ⟨101⟩
  between := []
  second := ⟨⟨1⟩, "agent", .agent, 1⟩
  new := ⟨102⟩
  after := [.stale (.processRequest { disconnect := some true })]
  same_peer := rfl
  fresh := by decide

theorem staleDisconnect_removes_newer_session : ¬ ∀ (run : OverwritingRun Nat) events call later,
    run.after = events ++ .stale call :: later →
    SessionUnchanged (@stateAfter Nat Uuid.hyphenated run events)
      (@StaleCall.apply Nat Uuid.hyphenated run.holder
        (@stateAfter Nat Uuid.hyphenated run events) call) run.first.id := by
  intro h
  have hunchanged := h staleDisconnect [] _ [] rfl
  have hbefore : (@stateAfter Nat Uuid.hyphenated staleDisconnect []).containsPeer ⟨1⟩ = true := by
    decide +kernel
  have hafter : (@StaleCall.apply Nat Uuid.hyphenated staleDisconnect.holder
      (@stateAfter Nat Uuid.hyphenated staleDisconnect [])
      (.processRequest { disconnect := some true })).containsPeer ⟨1⟩ = false := by
    decide +kernel
  rw [containsPeer_eq_record] at hbefore hafter
  have hsame := congrArg Option.isSome hunchanged.record
  exact Bool.false_ne_true (hafter.symm.trans (hsame.trans hbefore))

end OverwritingRun

end Coderd.Tailnet
