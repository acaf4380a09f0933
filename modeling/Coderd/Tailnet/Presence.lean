import Coderd.Tailnet.Messaging

namespace Coderd.Tailnet

open Coderd.Foundation TunnelStore

variable {Node : Type}

/-- The calls of clients with a single session: no bare registration, no subscription. -/
def Call.IsSession : Call Node → Prop
  | coordinate _ _ | processRequest _ _ | closeCoordination _ _ => True
  | addPeer _ _ | removePeer _ | subscribe _ _ | unsubscribe _ _ => False

/-- Replaying the log leaves `p` in the client's view. -/
def InView (p : Uuid) (log : List (CoordinateResponse Node)) : Prop :=
  ∃ u, lastUpdate p log = some u ∧ u.kind = .node

/-- Tunnels have both ends registered, and a peer is only in view across a tunnel. -/
structure Anchored (i : CoordinatorInner Node) : Prop where
  registered : ∀ p q, i.tunnels.Linked p q → i.containsPeer p = true
  quiet : ∀ client agent, ¬ agent ∈ SetMap.get i.subscriptions client
  linked : ∀ p q log, i.channel q = some log → InView p log → i.tunnels.Linked p q

variable {i i' : CoordinatorInner Node} {sent : Uuid → List (CoordinateResponse Node)} {p : Uuid}

theorem inView_append {log new : List (CoordinateResponse Node)} (h : InView p (log ++ new)) :
    InView p new ∨ (lastUpdate p new = none ∧ InView p log) := by
  obtain ⟨u, hu, hkind⟩ := h
  rw [lastUpdate_append] at hu
  obtain hnew | ⟨hnone, hold⟩ := Option.or_eq_some_iff.mp hu
  · exact .inl ⟨u, hnew, hkind⟩
  · exact .inr ⟨hnone, u, hold, hkind⟩

theorem not_inView_of_none {log : List (CoordinateResponse Node)} (h : lastUpdate p log = none) :
    ¬ InView p log := by
  rintro ⟨u, hu, -⟩
  rw [h] at hu
  cases hu

/-- A change of the tunnels is sound once the messages about it are out. -/
theorem Sends.anchored (h : Sends i i' sent)
    (hreg : ∀ p q, i.tunnels.Linked p q → i.containsPeer p = true)
    (hquiet : ∀ client agent, ¬ agent ∈ SetMap.get i.subscriptions client)
    (hnew : ∀ p q, InView p (sent q) → i.tunnels.Linked p q)
    (hold : ∀ p q log, i.channel q = some log → lastUpdate p (sent q) = none → InView p log →
      i.tunnels.Linked p q) : Anchored i' where
  registered := by
    intro p q hlinked
    rw [h.tunnels] at hlinked
    rw [h.containsPeer]
    exact hreg p q hlinked
  quiet := by
    rw [h.subscriptions]
    exact hquiet
  linked := by
    intro p q log hlog hview
    rw [h.channel] at hlog
    rw [h.tunnels]
    obtain ⟨log, hchannel, rfl⟩ := Option.map_eq_some_iff.mp hlog
    obtain hview | ⟨hnone, hview⟩ := inView_append hview
    · exact hnew p q hview
    · exact hold p q log hchannel hnone hview

theorem Anchored.silent (hi : Anchored i) (h : SilentlySends i i') : Anchored i' := by
  obtain ⟨sent, hsends, hsilent⟩ := h
  refine hsends.anchored hi.registered hi.quiet ?_ ?_
  · exact fun p q hview => absurd hview (not_inView_of_none (hsilent q p))
  · exact fun p q log hlog _ hview => hi.linked p q log hlog hview

theorem inView_ite_nodeUpdate {x : Uuid} {c : Prop} [Decidable c] {node : Node}
    (h : InView x (if c then [nodeUpdate p node] else [])) : c ∧ p = x := by
  obtain ⟨u, hu, -⟩ := h
  rw [lastUpdate_ite, lastUpdate_nodeUpdate] at hu
  by_cases hc : c <;> by_cases hp : p = x <;> simp_all

theorem Anchored.updateSelf (hi : Anchored i) (node : Node) :
    Anchored (applyUpdateSelf i p node) := by
  refine (applyUpdateSelf_sends i p node).anchored ?_ ?_ ?_ ?_
  · intro x q hlinked
    rw [tunnels_setNode] at hlinked
    rw [containsPeer_setNode]
    exact hi.registered x q hlinked
  · rw [subscriptions_setNode]
    exact hi.quiet
  · intro x q hview
    rw [tunnels_setNode]
    obtain hview | ⟨-, hview⟩ := inView_append hview
    · obtain ⟨hsub, -⟩ := inView_ite_nodeUpdate hview
      have hmem := (List.mem_filter.mp hsub).2
      exact absurd (of_decide_eq_true hmem) (hi.quiet q p)
    · obtain ⟨hq, rfl⟩ := inView_ite_nodeUpdate hview
      exact mem_findTunnelPeers.mp hq
  · intro x q log hlog _ hview
    rw [tunnels_setNode]
    rw [channel_setNode] at hlog
    exact hi.linked x q log hlog hview

theorem containsPeer_updateSelf (q : Uuid) (node : Node) :
    (applyUpdateSelf i p node).containsPeer q = i.containsPeer q := by
  rw [(applyUpdateSelf_sends i p node).containsPeer, containsPeer_setNode]

theorem inView_ite_introduction {x about : Uuid} {c : Prop} [Decidable c]
    (h : InView x (if c then introduction i about else [])) : c ∧ about = x := by
  obtain ⟨u, hu, -⟩ := h
  rw [lastUpdate_ite, lastUpdate_introduction] at hu
  by_cases hc : c <;> by_cases hx : about = x <;> simp_all

theorem not_inView_ite_notice {x about : Uuid} {c : Prop} [Decidable c] :
    ¬ InView x (if c then [(notice about .disconnected : CoordinateResponse Node)] else []) := by
  rintro ⟨u, hu, hkind⟩
  rw [lastUpdate_ite, lastUpdate_notice _ _ (by decide)] at hu
  by_cases hc : c <;> by_cases hx : about = x <;> simp_all
  simp [← hu] at hkind

section

variable [UuidText]

theorem Anchored.addTunnel (hi : Anchored i) (hp : i.containsPeer p = true) (d : Uuid) :
    Anchored (applyAddTunnel i p d) := by
  obtain ⟨-, hsilent⟩ | ⟨⟨-, hd⟩, hsends⟩ := applyAddTunnel_cases i p d
  · exact hi.silent hsilent
  refine hsends.anchored ?_ hi.quiet ?_ ?_
  · intro x q hlinked
    obtain hlinked | ⟨rfl, -⟩ | ⟨rfl, -⟩ := linked_add.mp hlinked
    · exact hi.registered x q hlinked
    · exact hp
    · exact hd
  · intro x q hview
    obtain hview | ⟨-, hview⟩ := inView_append hview
    · obtain ⟨rfl, rfl⟩ := inView_ite_introduction hview
      exact linked_add.mpr (.inr (.inl ⟨rfl, rfl⟩))
    · obtain ⟨rfl, rfl⟩ := inView_ite_introduction hview
      exact linked_add.mpr (.inr (.inr ⟨rfl, rfl⟩))
  · intro x q log hlog _ hview
    exact linked_add.mpr (.inl (hi.linked x q log hlog hview))

theorem containsPeer_addTunnel (d q : Uuid) :
    (applyAddTunnel i p d).containsPeer q = i.containsPeer q := by
  obtain ⟨-, sent, hsends, -⟩ | ⟨-, hsends⟩ := applyAddTunnel_cases i p d
  · exact hsends.containsPeer q
  · exact hsends.containsPeer q

theorem Anchored.removeTunnel (hi : Anchored i) (d : Uuid) :
    Anchored (applyRemoveTunnel i p d) := by
  obtain ⟨-, hsilent⟩ | ⟨-, hsends⟩ := applyRemoveTunnel_cases i p d
  · exact hi.silent hsilent
  refine hsends.anchored ?_ hi.quiet ?_ ?_
  · intro x q hlinked
    exact hi.registered x q (linked_remove.mp hlinked).1
  · intro x q hview
    obtain hview | ⟨-, hview⟩ := inView_append hview
    · exact absurd hview not_inView_ite_notice
    · exact absurd hview not_inView_ite_notice
  · intro x q log hlog hnone hview
    refine linked_remove.mpr ⟨hi.linked x q log hlog hview, ?_, ?_⟩
    -- the two ends were told, so they do not rely on what they knew before
    · rintro ⟨rfl, rfl⟩
      rw [lastUpdate_append, if_pos rfl, lastUpdate_notice _ _ (by decide), if_pos rfl] at hnone
      cases hnone
    · rintro ⟨rfl, rfl⟩
      rw [lastUpdate_append, if_pos rfl, lastUpdate_notice _ _ (by decide), if_pos rfl] at hnone
      simp at hnone

theorem containsPeer_removeTunnel (d q : Uuid) :
    (applyRemoveTunnel i p d).containsPeer q = i.containsPeer q := by
  obtain ⟨-, sent, hsends, -⟩ | ⟨-, hsends⟩ := applyRemoveTunnel_cases i p d
  · exact hsends.containsPeer q
  · exact hsends.containsPeer q

end

theorem channel_forgetPeer_of_ne {q : Uuid} (hq : q ≠ p) :
    (i.forgetPeer p).channel q = i.channel q := by
  rw [CoordinatorInner.channel, lookup_forgetPeer, if_neg hq]
  rfl

theorem channel_forgetPeer_self : (i.forgetPeer p).channel p = none := by
  rw [CoordinatorInner.channel, lookup_forgetPeer, if_pos rfl]
  rfl

theorem channel_depart_of_ne (kind : PeerUpdateKind) {q : Uuid} (hq : q ≠ p) :
    (depart i p kind).channel q =
      (i.channel q).map (· ++ if i.tunnels.Linked p q then [notice p kind] else []) := by
  obtain ⟨told, hsends, hdepart⟩ := depart_sends i p kind
  rw [hdepart, channel_forgetPeer_of_ne hq, hsends.channel]
  simp only [HashSet.mem_toList, mem_findTunnelPeers]

theorem Anchored.depart (hi : Anchored i) {kind : PeerUpdateKind}
    (hkind : kind ≠ .readyForHandshake) (hnode : kind ≠ .node) : Anchored (depart i p kind) where
  registered := by
    intro x q hlinked
    obtain ⟨told, hsends, hdepart⟩ := depart_sends i p kind
    rw [hdepart] at hlinked ⊢
    obtain ⟨hlinked, hx, -⟩ := linked_removeAll.mp hlinked
    rw [hsends.tunnels] at hlinked
    rw [CoordinatorInner.containsPeer, lookup_forgetPeer, if_neg hx]
    exact (hsends.containsPeer x).trans (hi.registered x q hlinked)
  quiet := by
    intro client agent hmem
    obtain ⟨told, hsends, hdepart⟩ := depart_sends i p kind
    rw [hdepart] at hmem
    have hmem' := (SetMap.mem_get_erase.mp hmem).1
    rw [hsends.subscriptions] at hmem'
    exact hi.quiet client agent hmem'
  linked := by
    intro x q log hlog hview
    have htunnels : (Tailnet.depart i p kind).tunnels = i.tunnels.removeAll p := by
      obtain ⟨told, hsends, hdepart⟩ := depart_sends i p kind
      rw [hdepart, ← hsends.tunnels]
      rfl
    have hq : q ≠ p := by
      rintro rfl
      rw [Tailnet.depart, channel_forgetPeer_self] at hlog
      cases hlog
    rw [channel_depart_of_ne kind hq] at hlog
    obtain ⟨log, hchannel, rfl⟩ := Option.map_eq_some_iff.mp hlog
    rw [htunnels]
    obtain ⟨u, hu, hukind⟩ := hview
    rw [lastUpdate_append, lastUpdate_ite, lastUpdate_notice _ _ hkind] at hu
    by_cases hx : p = x
    · -- whoever was across a tunnel has just heard that `p` is gone
      subst hx
      rw [if_pos rfl] at hu
      by_cases hlinked : i.tunnels.Linked p q
      · rw [if_pos hlinked, Option.some_or] at hu
        cases hu
        exact absurd hukind hnode
      · rw [if_neg hlinked, Option.none_or] at hu
        exact absurd (hi.linked p q log hchannel ⟨u, hu, hukind⟩) hlinked
    · rw [if_neg hx, ite_self, Option.none_or] at hu
      exact linked_removeAll.mpr ⟨hi.linked x q log hchannel ⟨u, hu, hukind⟩, Ne.symm hx, hq⟩

theorem Anchored.coordinate (hi : Anchored i) (info : PeerInfo) (sessionId : Uuid) :
    Anchored (coordinate i info sessionId) := by
  obtain ⟨fresh, hpeers, htunnels, hsubscriptions, hsends⟩ := coordinate_sends i info sessionId
  refine hsends.anchored ?_ ?_ ?_ ?_
  · intro x q hlinked
    rw [htunnels] at hlinked
    rw [CoordinatorInner.containsPeer, hpeers]
    split
    · rfl
    · exact hi.registered x q hlinked
  · rw [hsubscriptions]
    exact hi.quiet
  -- what the new session is greeted with is about the peers it has a tunnel with
  · rintro x q ⟨u, hu, -⟩
    rw [lastUpdate_ite, lastUpdate_greeting] at hu
    by_cases hq : q = info.id
    · subst hq
      by_cases hlinked : fresh.tunnels.Linked info.id x
      · exact hlinked.symm
      · simp [hlinked] at hu
    · simp [hq] at hu
  -- and its channel starts empty, so that nothing from before is in view
  · intro x q log hlog _ hview
    rw [htunnels]
    rw [CoordinatorInner.channel, hpeers] at hlog
    by_cases hq : q = info.id
    · obtain rfl : [] = log := by simpa [hq] using hlog
      exact absurd hview (not_inView_of_none rfl)
    · rw [if_neg hq] at hlog
      exact hi.linked x q log hlog hview

theorem Anchored.apply [UuidText] (hi : Anchored i) {call : Call Node} (hcall : call.IsSession) :
    Anchored (call.apply i) := by
  cases call with
  | coordinate info sessionId => exact hi.coordinate info sessionId
  | processRequest peerId request =>
    refine processRequest_rule (P := fun i => Anchored i ∧ i.containsPeer peerId = true) request
      (fun _ => hi) (fun hp => ⟨hi, hp⟩) ?_ ?_ ?_ ?_ ?_ ?_
    · rintro i node ⟨hi, hp⟩
      exact ⟨hi.updateSelf node, by rw [containsPeer_updateSelf, hp]⟩
    · rintro i d ⟨hi, hp⟩
      exact ⟨hi.addTunnel hp d, by rw [containsPeer_addTunnel, hp]⟩
    · rintro i d ⟨hi, hp⟩
      exact ⟨hi.removeTunnel d, by rw [containsPeer_removeTunnel, hp]⟩
    · exact fun i hi => hi.1.depart (by decide) (by decide)
    · exact fun i rfhIds hi => hi.1.silent (applyReadyForHandshake_silent i peerId rfhIds)
    · exact fun i hi => hi.1
  | closeCoordination peerId sessionId =>
    simp only [Call.apply, closeCoordination]
    split
    · split
      · exact hi
      · exact hi.depart (by decide) (by decide)
    · exact hi
  | addPeer | removePeer | subscribe | unsubscribe => exact hcall.elim

theorem runCalls_anchored [UuidText] (calls : List (Call Node)) (h : ∀ c ∈ calls, c.IsSession) :
    Anchored (runCalls calls) := by
  have hnew : Anchored (CoordinatorInner.new : CoordinatorInner Node) :=
    ⟨fun p q hlinked => absurd hlinked not_linked_new, fun _ _ => SetMap.mem_get_empty _ _,
      fun p q log hlog => by cases hlog⟩
  exact List.foldlRecOn calls Call.apply hnew fun i hi call hmem => hi.apply (h call hmem)

/-! ## Departures -/

/-- The part of a request that comes before the disconnect. -/
def CoordinateRequest.beforeDisconnect (request : CoordinateRequest Node) :
    CoordinateRequest Node :=
  { request with disconnect := none, readyForHandshake := none }

/-- The part of a request that comes before the removal of a tunnel. -/
def CoordinateRequest.beforeRemoval (request : CoordinateRequest Node) :
    CoordinateRequest Node :=
  { updateSelf := request.updateSelf, addTunnel := request.addTunnel }

/-- `p` left: the channels across its tunnels got the notice and no other channel did, and
whoever had `p` in view was across a tunnel. -/
structure Announces (before after : CoordinatorInner Node) (p : Uuid) (kind : PeerUpdateKind) :
    Prop where
  notified : ∀ q, q ≠ p → after.channel q =
    (before.channel q).map (· ++ if before.tunnels.Linked p q then [notice p kind] else [])
  told : ∀ q log, before.channel q = some log → InView p log → before.tunnels.Linked p q

/-- The tunnel between `p` and `d` went: both ends got a notice about the other, no other
channel got anything, and no one else can have seen one of them across this tunnel. -/
structure AnnouncesRemoval (before after : CoordinatorInner Node) (p d : Uuid) : Prop where
  notified : ∀ q, after.channel q = (before.channel q).map (· ++
    ((if q = p then [notice d .disconnected] else []) ++
      (if q = d then [notice p .disconnected] else [])))
  told : ∀ x q log, before.channel q = some log → InView x log →
    after.tunnels.Linked x q ∨ (x = d ∧ q = p) ∨ (x = p ∧ q = d)

theorem processRequest_disconnect [UuidText] (hp : i.containsPeer p = true)
    {request : CoordinateRequest Node} (h : request.disconnect = some true) :
    (processRequest i p request).2 =
      depart (processRequest i p request.beforeDisconnect).2 p .disconnected := by
  simp [processRequest, hp, h, CoordinateRequest.beforeDisconnect, ifSome]

theorem processRequest_removal [UuidText] (hp : i.containsPeer p = true) (d : Uuid)
    (request : CoordinateRequest Node) :
    (processRequest i p { request.beforeRemoval with removeTunnel := some d }).2 =
      applyRemoveTunnel (processRequest i p request.beforeRemoval).2 p d := by
  simp [processRequest, hp, CoordinateRequest.beforeRemoval, ifSome]

theorem Anchored.announces_depart (hi : Anchored i) (kind : PeerUpdateKind) :
    Announces i (Tailnet.depart i p kind) p kind where
  notified := fun _ hq => channel_depart_of_ne kind hq
  told := fun q log hlog hview => hi.linked p q log hlog hview

theorem Anchored.announces_removal [UuidText] (hi : Anchored i) {d : Uuid}
    (hlinked : i.tunnels.Linked p d) : AnnouncesRemoval i (applyRemoveTunnel i p d) p d := by
  obtain ⟨hnone, -⟩ | ⟨-, hsends⟩ := applyRemoveTunnel_cases i p d
  · exact absurd hlinked hnone
  refine ⟨fun q => hsends.channel q, ?_⟩
  intro x q log hlog hview
  have hx := hi.linked x q log hlog hview
  rw [hsends.tunnels]
  by_cases hends : (x = d ∧ q = p) ∨ (x = p ∧ q = d)
  · exact .inr hends
  · rw [not_or] at hends
    exact .inl (linked_remove.mpr ⟨hx, hends.2, hends.1⟩)

/-- A client's view holds registered peers across a tunnel only, and departures of all three
kinds are announced to exactly those across a tunnel. These are all that had the peer in
view, and those who never heard of its node besides. -/
theorem runCalls_no_dangling_peers [UuidText] (calls : List (Call Node))
    (hcalls : ∀ c ∈ calls, c.IsSession) :
    (∀ p q log, (runCalls calls).channel q = some log → InView p log →
      (runCalls calls).containsPeer p = true ∧ (runCalls calls).tunnels.Linked p q) ∧
    (∀ p (request : CoordinateRequest Node), (runCalls calls).containsPeer p = true →
      request.disconnect = some true →
      Announces (processRequest (runCalls calls) p request.beforeDisconnect).2
        (processRequest (runCalls calls) p request).2 p .disconnected) ∧
    (∀ p peer, (runCalls calls).peers.lookup p = some peer →
      Announces (runCalls calls) (closeCoordination (runCalls calls) p peer.sessionId) p .lost) ∧
    (∀ p d (request : CoordinateRequest Node), (runCalls calls).containsPeer p = true →
      (processRequest (runCalls calls) p request.beforeRemoval).2.tunnels.Linked p d →
      AnnouncesRemoval (processRequest (runCalls calls) p request.beforeRemoval).2
        (processRequest (runCalls calls) p
          { request.beforeRemoval with removeTunnel := some d }).2 p d) := by
  have hi := runCalls_anchored calls hcalls
  have hmid (p : Uuid) (request : CoordinateRequest Node) :
      Anchored (processRequest (runCalls calls) p request).2 :=
    hi.apply (show (Call.processRequest p request).IsSession from trivial)
  refine ⟨?_, ?_, ?_, ?_⟩
  · intro p q log hlog hview
    have hlinked := hi.linked p q log hlog hview
    exact ⟨hi.registered p q hlinked, hlinked⟩
  · intro p request hp hdisconnect
    rw [processRequest_disconnect hp hdisconnect]
    exact (hmid p _).announces_depart _
  · intro p peer hpeer
    have hclose : closeCoordination (runCalls calls) p peer.sessionId =
        Tailnet.depart (runCalls calls) p .lost := by
      simp [closeCoordination, hpeer]
    rw [hclose]
    exact hi.announces_depart _
  · intro p d request hp hlinked
    rw [processRequest_removal hp]
    exact (hmid p _).announces_removal hlinked

/-- A client makes a tunnel to an agent, and only then do the two publish their nodes. -/
def tunnelThenNodes : List (Call Nat) :=
  [.coordinate ⟨⟨1⟩, "agent", .agent, 0⟩ ⟨101⟩,
    .coordinate ⟨⟨2⟩, "client", .client, 0⟩ ⟨102⟩,
    .processRequest ⟨2⟩ { addTunnel := some ⟨1⟩ },
    .processRequest ⟨1⟩ { updateSelf := some 7 },
    .processRequest ⟨2⟩ { updateSelf := some 8 }]

theorem runCalls_no_dangling_peers_tunnelThenNodes :
    (@runCalls Nat Uuid.hyphenated tunnelThenNodes).containsPeer ⟨1⟩ = true ∧
      (@runCalls Nat Uuid.hyphenated tunnelThenNodes).tunnels.Linked ⟨1⟩ ⟨2⟩ :=
  (@runCalls_no_dangling_peers Nat Uuid.hyphenated tunnelThenNodes
    (by simp [tunnelThenNodes, Call.IsSession])).1 ⟨1⟩ ⟨2⟩ [nodeUpdate ⟨1⟩ 7] (by decide +kernel)
    ⟨{ id := ⟨1⟩, kind := .node, node := some 7 }, by decide, rfl⟩

/-- A peer can be told that another one left of whose node it never heard: the tunnel
between the two is what counts, with or without a node to send across it. -/
theorem departure_announced_to_untold : ¬ ∀ (calls : List (Call Nat)) (p q : Uuid)
    (log : List (CoordinateResponse Nat)), (∀ c ∈ calls, c.IsSession) → q ≠ p →
    (@runCalls Nat Uuid.hyphenated calls).containsPeer p = true →
    (@runCalls Nat Uuid.hyphenated calls).channel q = some log →
    ((@processRequest Nat Uuid.hyphenated (@runCalls Nat Uuid.hyphenated calls) p
        { disconnect := some true }).2.channel q = some (log ++ [notice p .disconnected]) ↔
      InView p log) := by
  intro h
  have htold := h (tunnelThenNodes.take 3) ⟨1⟩ ⟨2⟩ []
    (by simp [tunnelThenNodes, Call.IsSession]) (by decide) (by decide +kernel) (by decide +kernel)
  exact not_inView_of_none rfl (htold.mp (by decide +kernel))

end Coderd.Tailnet
