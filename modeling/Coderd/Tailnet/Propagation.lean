import Coderd.Tailnet.Messaging

namespace Coderd.Tailnet

open Coderd.Foundation TunnelStore

variable {Node : Type}

/-- If `q` has a channel and shares a tunnel with `p`, the node of `p` is what it was told
of `p` last. -/
def InformedOf (i : CoordinatorInner Node) (p q : Uuid) : Prop :=
  ∀ node log, i.tunnels.Linked p q → i.nodeOf p = some node → i.channel q = some log →
    lastUpdate p log = some { id := p, kind := .node, node := some node }

def Informed (i : CoordinatorInner Node) : Prop := ∀ p q, InformedOf i p q

variable {i i' : CoordinatorInner Node} {sent : Uuid → List (CoordinateResponse Node)}

/-- Messages re-establish the invariant if they say what is right or nothing. -/
theorem Sends.informed (h : Sends i i' sent)
    (htold : ∀ p q node log, i.tunnels.Linked p q → i.nodeOf p = some node →
      i.channel q = some log →
      (lastUpdate p (sent q)).or (lastUpdate p log) =
        some { id := p, kind := .node, node := some node }) : Informed i' := by
  intro p q node log hlinked hnode hlog
  rw [h.tunnels] at hlinked
  rw [h.nodeOf] at hnode
  rw [h.channel] at hlog
  obtain ⟨log, hchannel, rfl⟩ := Option.map_eq_some_iff.mp hlog
  rw [lastUpdate_append]
  exact htold p q node log hlinked hnode hchannel

theorem Informed.silent (hi : Informed i) (h : SilentlySends i i') : Informed i' := by
  obtain ⟨sent, hsends, hsilent⟩ := h
  apply hsends.informed
  intro p q node log hlinked hnode hlog
  rw [hsilent q p, Option.none_or]
  exact hi p q node log hlinked hnode hlog

theorem Informed.updateSelf (hi : Informed i) (p : Uuid) (node : Node) :
    Informed (applyUpdateSelf i p node) := by
  apply (applyUpdateSelf_sends i p node).informed
  intro x q node' log hlinked hnode hlog
  rw [tunnels_setNode] at hlinked
  rw [channel_setNode] at hlog
  simp only [lastUpdate_append, lastUpdate_ite, lastUpdate_nodeUpdate]
  by_cases hx : p = x
  · subst hx
    obtain rfl := nodeOf_setNode i p hnode
    have hq : q ∈ (i.tunnels.findTunnelPeers p).toList := mem_findTunnelPeers.mpr hlinked
    by_cases hsub : q ∈ subscribers i p <;> simp [hq, hsub]
  · rw [nodeOf_setNode_of_ne i p node (Ne.symm hx)] at hnode
    simp [hx, hi x q node' log hlinked hnode hlog]

theorem lastUpdate_introduction_of_node {about x : Uuid} {node : Node}
    (hnode : i.nodeOf x = some node) :
    lastUpdate x (introduction i about) =
      if about = x then some { id := x, kind := .node, node := some node } else none := by
  rw [lastUpdate_introduction, hnode, Option.map_some]

/-- An introduction never contradicts the node that is stored. -/
theorem introduction_or {about x : Uuid} {node : Node} (c : Prop) [Decidable c]
    (hnode : i.nodeOf x = some node) {o : Option (PeerUpdateMsg Node)}
    (ho : o = some { id := x, kind := .node, node := some node }) :
    (lastUpdate x (if c then introduction i about else [])).or o = o := by
  rw [lastUpdate_ite, lastUpdate_introduction_of_node hnode, ho]
  by_cases hc : c <;> by_cases hx : about = x <;> simp [hc, hx]

theorem Informed.addTunnel [UuidText] (hi : Informed i) (p d : Uuid) :
    Informed (applyAddTunnel i p d) := by
  obtain ⟨-, hsilent⟩ | ⟨⟨hself, -⟩, hsends⟩ := applyAddTunnel_cases i p d
  · exact hi.silent hsilent
  apply hsends.informed
  intro x q node log hlinked hnode hlog
  replace hnode : i.nodeOf x = some node := hnode
  rw [lastUpdate_append, Option.or_assoc]
  obtain hlinked | ⟨rfl, rfl⟩ | ⟨rfl, rfl⟩ := linked_add.mp hlinked
  · have hlog := hi x q node log hlinked hnode hlog
    rw [introduction_or _ hnode (by rw [introduction_or _ hnode hlog]; exact hlog),
      introduction_or _ hnode hlog, hlog]
  · rw [if_pos rfl, lastUpdate_introduction_of_node hnode, if_pos rfl, Option.some_or]
  · rw [if_neg (Ne.symm hself), lastUpdate_nil, Option.none_or, if_pos rfl,
      lastUpdate_introduction_of_node hnode, if_pos rfl, Option.some_or]

theorem Informed.removeTunnel [UuidText] (hi : Informed i) (p d : Uuid) :
    Informed (applyRemoveTunnel i p d) := by
  obtain ⟨-, hsilent⟩ | ⟨-, hsends⟩ := applyRemoveTunnel_cases i p d
  · exact hi.silent hsilent
  apply hsends.informed
  intro x q node log hlinked hnode hlog
  obtain ⟨hlinked, hpd, hdp⟩ := linked_remove.mp hlinked
  -- the two notices are for the pair that is not linked any more
  have hnotice (a b : Uuid) (hab : ¬ (x = a ∧ q = b)) : lastUpdate x
      (if q = b then [(notice a .disconnected : CoordinateResponse Node)] else []) = none := by
    rw [lastUpdate_ite, lastUpdate_notice _ _ (by decide)]
    by_cases hq : q = b
    · rw [if_pos hq, if_neg (fun ha => hab ⟨ha.symm, hq⟩)]
    · rw [if_neg hq]
  rw [lastUpdate_append, hnotice p d hpd, hnotice d p hdp]
  exact hi x q node log hlinked hnode hlog

theorem informed_forgetPeer {p : Uuid} (hi : ∀ x q, x ≠ p → InformedOf i x q) :
    Informed (i.forgetPeer p) := by
  intro x q node log hlinked hnode hlog
  obtain ⟨hlinked, hx, hq⟩ := linked_removeAll.mp hlinked
  rw [CoordinatorInner.nodeOf, lookup_forgetPeer, if_neg hx] at hnode
  rw [CoordinatorInner.channel, lookup_forgetPeer, if_neg hq] at hlog
  exact hi x q hx node log hlinked hnode hlog

theorem Informed.depart (hi : Informed i) (p : Uuid) {kind : PeerUpdateKind}
    (hkind : kind ≠ .readyForHandshake) : Informed (depart i p kind) := by
  obtain ⟨told, hsends, hdepart⟩ := depart_sends i p kind
  rw [hdepart]
  apply informed_forgetPeer
  intro x q hx node log hlinked hnode hlog
  rw [hsends.tunnels] at hlinked
  rw [hsends.nodeOf] at hnode
  rw [hsends.channel] at hlog
  obtain ⟨log, hchannel, rfl⟩ := Option.map_eq_some_iff.mp hlog
  rw [lastUpdate_append, lastUpdate_ite, lastUpdate_notice _ _ hkind, if_neg (Ne.symm hx), ite_self,
    Option.none_or]
  exact hi x q node log hlinked hnode hchannel

/-- A peer without a node and without a channel to hear on is owed nothing. -/
theorem Informed.addPeer (hi : Informed i) (info : PeerInfo) (sessionId : Uuid) :
    Informed (addPeer i info sessionId) := by
  intro x q node log hlinked hnode hlog
  unfold Tailnet.addPeer at hlinked hnode hlog
  rw [tunnels_insertPeer] at hlinked
  rw [CoordinatorInner.nodeOf, lookup_insertPeer] at hnode
  rw [CoordinatorInner.channel, lookup_insertPeer] at hlog
  by_cases hx : x = info.id
  · simp [hx] at hnode
  · by_cases hq : q = info.id
    · simp [hq] at hlog
    · rw [if_neg hx] at hnode
      rw [if_neg hq] at hlog
      exact hi x q node log hlinked hnode hlog

theorem Informed.coordinate (hi : Informed i) (info : PeerInfo) (sessionId : Uuid) :
    Informed (coordinate i info sessionId) := by
  obtain ⟨fresh, hpeers, htunnels, -, hsends⟩ := coordinate_sends i info sessionId
  apply hsends.informed
  intro x q node log hlinked hnode hlog
  by_cases hq : q = info.id
  · subst hq
    rw [if_pos rfl, lastUpdate_greeting, if_pos hlinked.symm, hnode, Option.map_some,
      Option.some_or]
  · rw [if_neg hq, lastUpdate_nil, Option.none_or]
    rw [htunnels] at hlinked
    rw [CoordinatorInner.channel, hpeers, if_neg hq] at hlog
    rw [CoordinatorInner.nodeOf, hpeers] at hnode
    by_cases hx : x = info.id
    · simp [hx] at hnode
    · rw [if_neg hx] at hnode
      exact hi x q node log hlinked hnode hlog

theorem Informed.subscribe (hi : Informed i) (conn : MultiAgentConn) (agentId : Uuid) :
    Informed (conn.subscribe i agentId) := by
  refine Sends.informed (sendNodeOf_sends _ agentId conn.clientId) ?_
  intro x q node log hlinked hnode hlog
  have htold := hi x q node log hlinked hnode hlog
  rw [introduction_or _ hnode htold, htold]

theorem Informed.apply [UuidText] (hi : Informed i) (call : Call Node) :
    Informed (call.apply i) := by
  cases call with
  | addPeer info sessionId => exact hi.addPeer info sessionId
  | removePeer peerId => exact informed_forgetPeer fun x q _ => hi x q
  | coordinate info sessionId => exact hi.coordinate info sessionId
  | processRequest peerId request =>
    refine processRequest_rule (P := Informed) request (fun _ => hi) (fun _ => hi) ?_ ?_ ?_ ?_ ?_ ?_
    · exact fun i node hi => hi.updateSelf peerId node
    · exact fun i d hi => hi.addTunnel peerId d
    · exact fun i d hi => hi.removeTunnel peerId d
    · exact fun i hi => hi.depart peerId (by decide)
    · exact fun i rfhIds hi => hi.silent (applyReadyForHandshake_silent i peerId rfhIds)
    · exact fun i hi => hi
  | closeCoordination peerId sessionId =>
    simp only [Call.apply, closeCoordination]
    split
    · split
      · exact hi
      · exact hi.depart peerId (by decide)
    · exact hi
  | subscribe conn agentId => exact hi.subscribe conn agentId
  | unsubscribe conn agentId => exact hi

/-- No node update is lost: in every run, whoever has a channel and shares a tunnel with a
peer that has a node heard of exactly that node last. -/
theorem runCalls_informed [UuidText] (calls : List (Call Node)) (p q : Uuid) (node : Node)
    (log : List (CoordinateResponse Node)) (hlinked : (runCalls calls).tunnels.Linked p q)
    (hnode : (runCalls calls).nodeOf p = some node)
    (hlog : (runCalls calls).channel q = some log) :
    lastUpdate p log = some { id := p, kind := .node, node := some node } := by
  have hnew : Informed (CoordinatorInner.new : CoordinatorInner Node) :=
    fun p q _ _ hlinked => absurd hlinked not_linked_new
  have hrun : Informed (runCalls calls) :=
    List.foldlRecOn calls Call.apply hnew fun i hi call _ => hi.apply call
  exact hrun p q node log hlinked hnode hlog

/-- An agent publishes a node, a client makes a tunnel to it and then reconnects, and the
agent publishes another node. -/
def sampleCalls : List (Call Nat) :=
  let agent : Uuid := ⟨1⟩
  let client : Uuid := ⟨2⟩
  [.coordinate ⟨agent, "agent", .agent, 0⟩ ⟨101⟩,
    .coordinate ⟨client, "client", .client, 0⟩ ⟨102⟩,
    .processRequest agent { updateSelf := some 7 },
    .processRequest client { addTunnel := some agent },
    .coordinate ⟨client, "client", .client, 1⟩ ⟨103⟩,
    .processRequest agent { updateSelf := some 8 }]

theorem runCalls_informed_sampleCalls :
    lastUpdate ⟨1⟩ [nodeUpdate ⟨1⟩ 7, nodeUpdate ⟨1⟩ 8] =
      some { id := ⟨1⟩, kind := .node, node := some 8 } :=
  @runCalls_informed Nat Uuid.hyphenated sampleCalls ⟨1⟩ ⟨2⟩ 8 _ (by decide +kernel)
    (by decide +kernel) (by decide +kernel)

end Coderd.Tailnet
