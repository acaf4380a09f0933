import Coderd.Foundation.Transition
import Coderd.Tailnet.Presence

namespace Coderd.Tailnet

open Coderd.Foundation TunnelStore

variable {Node : Type}

/-! ## The three maps of the coordinator -/

/-- The two indexes of the tunnels agree and hold no empty set, no peer has a tunnel to itself,
and tunnels and subscriptions are those of registered peers. -/
structure Structured (i : CoordinatorInner Node) : Prop where
  mirrored : ∀ s d, d ∈ i.tunnels.bySrc.get s ↔ s ∈ i.tunnels.byDst.get d
  bySrc : i.tunnels.bySrc.NoEmpty
  byDst : i.tunnels.byDst.NoEmpty
  irreflexive : ∀ s d, i.tunnels.Tunnel s d → s ≠ d
  registered : ∀ s d, i.tunnels.Tunnel s d → i.containsPeer s = true ∧ i.containsPeer d = true
  subscribed : ∀ c, (i.subscriptions.lookup c).isSome = true → i.containsPeer c = true
  subscriptions : i.subscriptions.NoEmpty

variable {i i' : CoordinatorInner Node} {p : Uuid}

theorem structured_new : Structured (CoordinatorInner.new : CoordinatorInner Node) where
  mirrored := TunnelStore.new.mirrored
  bySrc := .empty
  byDst := .empty
  irreflexive s d h := absurd (.inl h) not_linked_new
  registered s d h := absurd (.inl h) not_linked_new
  subscribed c h := by cases h
  subscriptions := .empty

namespace Structured

/-- More peers, and the rest as it was. -/
theorem of_containsPeer (h : Structured i) (htunnels : i'.tunnels = i.tunnels)
    (hsubscriptions : i'.subscriptions = i.subscriptions)
    (hpeers : ∀ q, i.containsPeer q = true → i'.containsPeer q = true) : Structured i' where
  mirrored := i'.tunnels.mirrored
  bySrc := htunnels ▸ h.bySrc
  byDst := htunnels ▸ h.byDst
  irreflexive := htunnels ▸ h.irreflexive
  registered s d htunnel := by
    obtain ⟨hs, hd⟩ := h.registered s d (htunnels ▸ htunnel)
    exact ⟨hpeers s hs, hpeers d hd⟩
  subscribed c hc := hpeers c (h.subscribed c (hsubscriptions ▸ hc))
  subscriptions := hsubscriptions ▸ h.subscriptions

theorem sends (h : Structured i) {sent : Uuid → List (CoordinateResponse Node)}
    (hsends : Sends i i' sent) : Structured i' :=
  h.of_containsPeer hsends.tunnels hsends.subscriptions fun q hq => by
    rwa [hsends.containsPeer]

theorem silent (h : Structured i) (hsilent : SilentlySends i i') : Structured i' := by
  obtain ⟨sent, hsends, -⟩ := hsilent
  exact h.sends hsends

theorem insertPeer (h : Structured i) (peer : CoordinatorPeer Node) :
    Structured (i.insertPeer p peer) := by
  refine h.of_containsPeer (tunnels_insertPeer i p peer) (subscriptions_insertPeer i p peer) ?_
  intro q hq
  rw [CoordinatorInner.containsPeer, lookup_insertPeer]
  split
  · rfl
  · exact hq

theorem updateSelf (h : Structured i) (node : Node) : Structured (applyUpdateSelf i p node) := by
  refine Structured.sends ?_ (applyUpdateSelf_sends i p node)
  refine h.of_containsPeer (tunnels_setNode i p node) (subscriptions_setNode i p node) ?_
  intro q hq
  rwa [containsPeer_setNode]

theorem forgetPeer (h : Structured i) : Structured (i.forgetPeer p) where
  mirrored := (i.tunnels.removeAll p).mirrored
  bySrc := (h.bySrc.erase p).foldl_discard _ p
  byDst := (h.byDst.foldl_discard _ p).erase p
  irreflexive s d htunnel := h.irreflexive s d (tunnel_removeAll.mp htunnel).1
  registered s d htunnel := by
    obtain ⟨htunnel, hs, hd⟩ := tunnel_removeAll.mp htunnel
    obtain ⟨hsource, htarget⟩ := h.registered s d htunnel
    simp only [CoordinatorInner.containsPeer, lookup_forgetPeer, if_neg hs, if_neg hd]
    exact ⟨hsource, htarget⟩
  subscribed c hc := by
    have hlookup : (i.forgetPeer p).subscriptions.lookup c =
        if c = p then none else i.subscriptions.lookup c := HashMap.lookup_erase_ite _ _ _
    rw [hlookup] at hc
    by_cases hcp : c = p
    · simp [hcp] at hc
    · rw [if_neg hcp] at hc
      rw [CoordinatorInner.containsPeer, lookup_forgetPeer, if_neg hcp]
      exact h.subscribed c hc
  subscriptions := h.subscriptions.erase p

theorem depart (h : Structured i) (kind : PeerUpdateKind) : Structured (depart i p kind) := by
  obtain ⟨told, hsends, hdepart⟩ := depart_sends i p kind
  rw [hdepart]
  exact (h.sends hsends).forgetPeer

theorem coordinate (h : Structured i) (info : PeerInfo) (sessionId : Uuid) :
    Structured (coordinate i info sessionId) := by
  obtain ⟨fresh, hpeers, htunnels, hsubscriptions, hsends⟩ := coordinate_sends i info sessionId
  refine Structured.sends ?_ hsends
  refine h.of_containsPeer htunnels hsubscriptions ?_
  intro q hq
  rw [CoordinatorInner.containsPeer, hpeers]
  split
  · rfl
  · exact hq

section

variable [UuidText]

theorem addTunnel (h : Structured i) (hp : i.containsPeer p = true) (d : Uuid) :
    Structured (applyAddTunnel i p d) := by
  obtain ⟨-, hsilent⟩ | ⟨⟨hself, hd⟩, hsends⟩ := applyAddTunnel_cases i p d
  · exact h.silent hsilent
  have hadded : Structured (i.withTunnels (i.tunnels.add p d)) :=
    { mirrored := (i.tunnels.add p d).mirrored
      bySrc := h.bySrc.add p d
      byDst := h.byDst.add d p
      irreflexive := by
        intro s t htunnel
        obtain htunnel | ⟨rfl, rfl⟩ := tunnel_add.mp htunnel
        · exact h.irreflexive s t htunnel
        · exact Ne.symm hself
      registered := by
        intro s t htunnel
        obtain htunnel | ⟨rfl, rfl⟩ := tunnel_add.mp htunnel
        · exact h.registered s t htunnel
        · exact ⟨hp, hd⟩
      subscribed := h.subscribed
      subscriptions := h.subscriptions }
  exact hadded.sends hsends

theorem removeTunnel (h : Structured i) (d : Uuid) : Structured (applyRemoveTunnel i p d) := by
  obtain ⟨-, hsilent⟩ | ⟨-, hsends⟩ := applyRemoveTunnel_cases i p d
  · exact h.silent hsilent
  have hremoved : Structured (i.withTunnels (i.tunnels.remove p d)) :=
    { mirrored := (i.tunnels.remove p d).mirrored
      bySrc := (h.bySrc.discard p d).discard d p
      byDst := (h.byDst.discard d p).discard p d
      irreflexive := fun s t htunnel => h.irreflexive s t (tunnel_remove.mp htunnel).1
      registered := fun s t htunnel => h.registered s t (tunnel_remove.mp htunnel).1
      subscribed := h.subscribed
      subscriptions := h.subscriptions }
  exact hremoved.sends hsends

end

theorem subscribe (h : Structured i) (conn : MultiAgentConn)
    (hregistered : i.containsPeer conn.clientId = true) (agentId : Uuid) :
    Structured (conn.subscribe i agentId) := by
  have hadded : Structured
      { i with subscriptions := SetMap.add i.subscriptions conn.clientId agentId } :=
    { h with
      subscribed := by
        intro c hc
        dsimp only at hc
        rw [SetMap.add, HashMap.lookup_insert_ite] at hc
        by_cases hcp : c = conn.clientId
        · subst hcp
          exact hregistered
        · rw [if_neg hcp] at hc
          exact h.subscribed c hc
      subscriptions := h.subscriptions.add conn.clientId agentId }
  exact hadded.sends (sendNodeOf_sends _ agentId conn.clientId)

theorem unsubscribe (h : Structured i) (conn : MultiAgentConn) (agentId : Uuid) :
    Structured (conn.unsubscribe i agentId) :=
  { h with
    subscribed := by
      intro c hc
      refine h.subscribed c ?_
      dsimp only [MultiAgentConn.unsubscribe] at hc
      unfold SetMap.discard at hc
      split at hc
      · rename_i agents hagents
        split at hc
        · rw [HashMap.lookup_erase_ite] at hc
          split at hc
          · cases hc
          · exact hc
        · rw [HashMap.lookup_insert_ite] at hc
          by_cases hcp : c = conn.clientId
          · subst hcp
            rw [hagents]
            rfl
          · rwa [if_neg hcp] at hc
      · exact hc
    subscriptions := h.subscriptions.discard conn.clientId agentId }

end Structured

/-! ## Whole runs -/

/-- A subscription is made for a registered client. -/
def Call.IsRegistered (i : CoordinatorInner Node) : Call Node → Prop
  | subscribe conn _ => i.containsPeer conn.clientId = true
  | addPeer _ _ | removePeer _ | coordinate _ _ | processRequest _ _ | closeCoordination _ _
  | unsubscribe _ _ => True

theorem Structured.apply [UuidText] (h : Structured i) {call : Call Node}
    (hok : call.IsRegistered i) : Structured (call.apply i) := by
  cases call with
  | addPeer info sessionId => exact h.insertPeer _
  | removePeer peerId => exact h.forgetPeer
  | coordinate info sessionId => exact h.coordinate info sessionId
  | processRequest peerId request =>
    refine processRequest_rule (P := fun i => Structured i ∧ i.containsPeer peerId = true) request
      (fun _ => h) (fun hp => ⟨h, hp⟩) ?_ ?_ ?_ ?_ ?_ ?_
    · rintro i node ⟨hi, hp⟩
      exact ⟨hi.updateSelf node, by rw [containsPeer_updateSelf, hp]⟩
    · rintro i d ⟨hi, hp⟩
      exact ⟨hi.addTunnel hp d, by rw [containsPeer_addTunnel, hp]⟩
    · rintro i d ⟨hi, hp⟩
      exact ⟨hi.removeTunnel d, by rw [containsPeer_removeTunnel, hp]⟩
    · exact fun i hi => hi.1.depart _
    · exact fun i rfhIds hi => hi.1.silent (applyReadyForHandshake_silent i peerId rfhIds)
    · exact fun i hi => hi.1
  | closeCoordination peerId sessionId =>
    simp only [Call.apply, closeCoordination]
    split
    · split
      · exact h
      · exact h.depart _
    · exact h
  | subscribe conn agentId => exact h.subscribe conn hok agentId
  | unsubscribe conn agentId => exact h.unsubscribe conn agentId

/-- A subscription that a handle makes after its registration is gone is nobody's. -/
theorem Structured.isRegistered_of_apply [UuidText] {call : Call Node}
    (h : Structured (call.apply i)) : call.IsRegistered i := by
  cases call with
  | subscribe conn agentId =>
    have hsends := sendNodeOf_sends
      { i with subscriptions := SetMap.add i.subscriptions conn.clientId agentId } agentId
      conn.clientId
    have hkey : ((conn.subscribe i agentId).subscriptions.lookup conn.clientId).isSome = true := by
      rw [MultiAgentConn.subscribe, hsends.subscriptions, SetMap.add, AList.lookup_insert]
      rfl
    have hpeer := h.subscribed conn.clientId hkey
    change (conn.subscribe i agentId).containsPeer conn.clientId = true at hpeer
    rw [MultiAgentConn.subscribe, hsends.containsPeer] at hpeer
    exact hpeer
  | addPeer | removePeer | coordinate | processRequest | closeCoordination | unsubscribe =>
    trivial

/-- The maps are in order in every state of a run exactly when every subscription is made while
its client is registered. -/
theorem structured_iff_registered [UuidText] (calls : List (Call Node)) :
    (∀ before after, calls = before ++ after → Structured (runCalls before)) ↔
      Along Call.apply (fun i call => call.IsRegistered i) .new calls := by
  constructor
  · intro h
    rw [along_iff]
    intro before call after hsplit
    have hnext := h (before ++ [call]) after (by rw [hsplit]; simp)
    rw [runCalls, List.foldl_append] at hnext
    exact hnext.isRegistered_of_apply
  · intro hrun before after hsplit
    rw [hsplit, along_append] at hrun
    exact Along.invariant (I := Structured) (fun _ _ hi hok => hi.apply hok) structured_new hrun.1

/-- A multi-agent client connects and closes, and then subscribes through its handle. -/
def lateSubscription : List (Call Nat) :=
  [.coordinate ⟨⟨1⟩, "multi-agent-1", .client, 0⟩ ⟨101⟩,
    .closeCoordination ⟨1⟩ ⟨101⟩,
    .subscribe ⟨⟨1⟩, ⟨101⟩⟩ ⟨2⟩]

theorem not_structured_lateSubscription :
    ¬ Structured (@runCalls Nat Uuid.hyphenated lateSubscription) := by
  intro h
  have hpeer := h.subscribed ⟨1⟩ (by decide +kernel)
  revert hpeer
  decide +kernel

end Coderd.Tailnet
