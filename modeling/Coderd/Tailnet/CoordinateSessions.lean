import Mathlib.Data.List.Induction
import Coderd.Tailnet.CoordinateRpc

namespace Coderd.Tailnet.Rpc

open Coderd.Foundation
open Coderd.Drpc (RpcError)

variable {Node : Type} {i : CoordinatorInner Node} {p : Uuid}

/-! ## What a call does to the sessions of the coordinator -/

theorem sessionOf_of_lookup {i' : CoordinatorInner Node} {peer : Option (CoordinatorPeer Node)}
    (h : ∀ q, i'.peers.lookup q = if q = p then peer else i.peers.lookup q) :
    i'.sessionOf = Function.update i.sessionOf p (peer.map CoordinatorPeer.sessionId) := by
  funext q
  rw [CoordinatorInner.sessionOf, CoordinatorInner.record, h, Option.map_map]
  by_cases hq : q = p
  · subst hq
    rw [if_pos rfl, Function.update_self]
    rfl
  · rw [if_neg hq, Function.update_of_ne hq, CoordinatorInner.sessionOf, CoordinatorInner.record,
      Option.map_map]

theorem sessionOf_sends {i' : CoordinatorInner Node} {sent : Uuid → List (CoordinateResponse Node)}
    (h : Sends i i' sent) : i'.sessionOf = i.sessionOf := by
  funext q
  rw [CoordinatorInner.sessionOf, h.record, CoordinatorInner.sessionOf]

theorem sessionOf_setNode (node : Node) : (i.setNode p node).sessionOf = i.sessionOf := by
  funext q
  rw [CoordinatorInner.sessionOf, CoordinatorInner.record, lookup_setNode,
    CoordinatorInner.sessionOf, CoordinatorInner.record, Option.map_map, Option.map_map,
    Option.map_map]
  apply congrArg (Option.map · (i.peers.lookup q))
  funext peer
  by_cases hq : q = p <;> simp [hq, CoordinatorPeer.record]

theorem sessionOf_depart (kind : PeerUpdateKind) :
    (depart i p kind).sessionOf = Function.update i.sessionOf p none := by
  obtain ⟨told, hsends, hdepart⟩ := depart_sends i p kind
  rw [hdepart, sessionOf_of_lookup (lookup_forgetPeer told p), sessionOf_sends hsends]
  rfl

theorem sessionOf_coordinated (info : PeerInfo) (sessionId : Uuid) :
    (coordinate i info sessionId).sessionOf =
      Function.update i.sessionOf info.id (some sessionId) := by
  obtain ⟨fresh, hpeers, -, -, hsends⟩ := coordinate_sends i info sessionId
  exact (sessionOf_sends hsends).trans (sessionOf_of_lookup hpeers)

theorem sessionOf_closeCoordination (sessionId : Uuid) :
    (closeCoordination i p sessionId).sessionOf =
      Lease.apply i.sessionOf (.release p sessionId) := by
  have hsession : i.sessionOf p = (i.peers.lookup p).map CoordinatorPeer.sessionId := by
    rw [CoordinatorInner.sessionOf, CoordinatorInner.record, Option.map_map]
    rfl
  unfold closeCoordination
  rw [Lease.apply, hsession]
  cases i.peers.lookup p with
  | none => simp
  | some peer =>
    by_cases heq : peer.sessionId = sessionId
    · simp [heq, sessionOf_depart]
    · simp [heq]

theorem sessionOf_ifSome {α : Type} (field : Option α) {f : α → CoordinatorInner Node}
    (h : ∀ a, (f a).sessionOf = i.sessionOf) : (ifSome field i f).sessionOf = i.sessionOf := by
  cases field with
  | none => rfl
  | some a => exact h a

section

variable [UuidText]

theorem sessionOf_processRequest (request : Tailnet.CoordinateRequest Node) :
    (processRequest i p request).2.sessionOf =
      if request.disconnect = some true then Function.update i.sessionOf p none
      else i.sessionOf := by
  unfold processRequest
  split
  case isTrue hunknown =>
    have hnone : i.sessionOf p = none := by
      rw [containsPeer_eq_record] at hunknown
      rw [CoordinatorInner.sessionOf, Option.map_eq_none_iff]
      simpa using hunknown
    have hsame : Function.update i.sessionOf p none = i.sessionOf := by
      rw [← hnone, Function.update_eq_self]
    rw [hsame, ite_self]
  case isFalse =>
    dsimp only
    -- the parts before the last leave every session as it is
    have hself := sessionOf_ifSome (i := i) request.updateSelf
      (f := fun node => applyUpdateSelf i p node) fun node =>
        (sessionOf_sends (applyUpdateSelf_sends i p node)).trans (sessionOf_setNode node)
    generalize (ifSome request.updateSelf i fun node => applyUpdateSelf i p node) = i₁ at *
    obtain ⟨t₂, sent₂, hadd, -⟩ := applyAddTunnel_effect (i := i₁) (p := p) request.addTunnel
    generalize (ifSome request.addTunnel i₁ fun d => applyAddTunnel i₁ p d) = i₂ at *
    obtain ⟨t₃, sent₃, hremove, -⟩ :=
      applyRemoveTunnel_effect (i := i₂) (p := p) request.removeTunnel
    generalize (ifSome request.removeTunnel i₂ fun d => applyRemoveTunnel i₂ p d) = i₃ at *
    have hbefore : i₃.sessionOf = i.sessionOf :=
      (sessionOf_sends hremove).trans ((sessionOf_sends hadd).trans hself)
    by_cases hdisconnect : request.disconnect = some true
    · rw [if_pos hdisconnect, if_pos hdisconnect, sessionOf_depart, hbefore]
    · rw [if_neg hdisconnect, if_neg hdisconnect, ← hbefore]
      refine sessionOf_ifSome request.readyForHandshake fun rfhIds => ?_
      obtain ⟨sent, hsends, -⟩ := applyReadyForHandshake_silent i₃ p rfhIds
      exact sessionOf_sends hsends

/-- Who takes over a peer's place in a call of the coordinator, or gives it up. -/
def callLeases : Call Node → List (Lease.Event Uuid Uuid)
  | .addPeer info sessionId | .coordinate info sessionId => [.acquire info.id sessionId]
  | .removePeer peerId => [.revoke peerId]
  | .processRequest peerId request =>
    if request.disconnect = some true then [.revoke peerId] else []
  | .closeCoordination peerId sessionId => [.release peerId sessionId]
  | .subscribe _ _ | .unsubscribe _ _ => []

theorem sessionOf_call (i : CoordinatorInner Node) (call : Call Node) :
    (call.apply i).sessionOf = (callLeases call).foldl Lease.apply i.sessionOf := by
  cases call with
  | addPeer info sessionId => exact sessionOf_of_lookup (lookup_insertPeer i info.id _)
  | removePeer peerId => exact sessionOf_of_lookup (lookup_forgetPeer i peerId)
  | coordinate info sessionId => exact sessionOf_coordinated info sessionId
  | processRequest peerId request =>
    rw [Call.apply, sessionOf_processRequest, callLeases]
    split <;> rfl
  | closeCoordination peerId sessionId => exact sessionOf_closeCoordination sessionId
  | subscribe conn agentId =>
    have hsent := sessionOf_sends (sendNodeOf_sends
      { i with subscriptions := SetMap.add i.subscriptions conn.clientId agentId }
      agentId conn.clientId)
    exact hsent
  | unsubscribe conn agentId => rfl

end

/-- What a stream does to who holds a peer, when its session changes. -/
def handover : Option CoordinateSession → Option CoordinateSession →
    List (Lease.Event Uuid Uuid)
  | none, some guard => [.acquire guard.peerId guard.sessionId]
  | some guard, none => [.release guard.peerId guard.sessionId]
  | _, _ => []

theorem handover_self (session : Option CoordinateSession) : handover session session = [] := by
  cases session <;> rfl

/-- The session id that a move may make up. -/
def issued : RpcMove Node → Option Uuid
  | .run _ (.poll _ sessionId) => some sessionId
  | .outside call => call.issued
  | _ => none

def CoordinateStream.HoldsOneOf (ids : List Uuid) (s : CoordinateStream) : Prop :=
  ∀ guard, s.state.session = some guard → guard.sessionId ∈ ids

def CoordinateStream.Apart (s t : CoordinateStream) : Prop :=
  ∀ guard guard', s.state.session = some guard → t.state.session = some guard' →
    guard.sessionId ≠ guard'.sessionId

/-- The sessions of the streams are among `ids` and differ. -/
abbrev Distinct (ids : List Uuid) (w : World Node) : Prop :=
  Pool.Noninterfering (fun _ s => s.HoldsOneOf ids) CoordinateStream.Apart w

theorem Distinct.mono {ids more : List Uuid} {w : World Node} (h : Distinct ids w) :
    Distinct (ids ++ more) w where
  each k s hs guard hguard := List.mem_append_left _ (h.each k s hs guard hguard)
  apart := h.apart

/-! ## What a move of a stream does -/

section

variable [Prost] [Sha256] [UuidText]

/-- The session of a stream, with all that may happen to it in one move. -/
inductive Acts (coordinator : Option (CoordinatorInner Node)) (s : CoordinateStream) :
    StreamMove → Option (CoordinatorInner Node) × CoordinateStream → Prop where
  | stays {move : StreamMove} {s' : CoordinateStream} (h : s'.state.session = s.state.session) :
    Acts coordinator s move (coordinator, s')
  | registers {connectedAt : Int} {sessionId peerId : Uuid} {name : String} {s' : CoordinateStream}
    {inner : CoordinatorInner Node} (hcoordinator : coordinator = some inner)
    (hbefore : s.state.session = none)
    (hafter : s'.state.session = some { peerId, sessionId }) :
    Acts coordinator s (.poll connectedAt sessionId)
      (some (coordinate inner { id := peerId, name, kind := .client, connectedAt } sessionId), s')
  | ends {move : StreamMove} {s' : CoordinateStream} {guard : CoordinateSession}
    (hbefore : s.state.session = some guard) (hafter : s'.state.session = none) :
    Acts coordinator s move
      (coordinator.map fun inner => closeCoordination inner guard.peerId guard.sessionId, s')

variable {coordinator : Option (CoordinatorInner Node)} {s : CoordinateStream} {move : StreamMove}

omit [Prost] [Sha256] [UuidText] in
theorem acts_finish (invocation : Invocation) :
    Acts coordinator s move (s.finish invocation coordinator) := by
  unfold CoordinateStream.finish
  cases hstate : s.state with
  | registered guard => exact .ends (by rw [hstate]; rfl) rfl
  | handshake => exact .stays (by rw [hstate]; rfl)
  | done => exact .stays (by rw [hstate])

omit [Prost] in
theorem acts_advance (connectedAt : Int) (sessionId : Uuid) (next : Option CoordinateRequest) :
    Acts coordinator s (.poll connectedAt sessionId)
      (s.advance coordinator connectedAt sessionId next) := by
  unfold CoordinateStream.advance
  cases hstate : s.state with
  | handshake =>
    cases next with
    | none => exact .stays (by rw [hstate]; rfl)
    | some first =>
      by_cases hkey : first.key.isEmpty
      · simp only [coordinateStep, hkey, if_true]
        exact .stays (by rw [hstate]; rfl)
      · cases hcoordinator : coordinator with
        | none =>
          simp only [coordinateStep, hkey]
          exact .stays (by rw [hstate]; rfl)
        | some inner =>
          simp only [coordinateStep, hkey]
          exact .registers rfl (by rw [hstate]; rfl) rfl
  | registered guard =>
    cases next with
    | none => exact .ends (by rw [hstate]; rfl) rfl
    | some request => exact .stays (by rw [hstate])
  | done => exact .stays (by rw [hstate])

theorem acts_act (coordinator : Option (CoordinatorInner Node)) (s : CoordinateStream)
    (move : StreamMove) : Acts coordinator s move (s.act coordinator move) := by
  cases move with
  | receive frame =>
    simp only [CoordinateStream.act]
    split <;> exact .stays rfl
  | hangUp => exact .stays rfl
  | decode =>
    refine .stays ?_
    unfold CoordinateStream.decode
    repeat' split
    all_goals rfl
  | poll connectedAt sessionId =>
    simp only [CoordinateStream.act]
    cases s.invocation with
    | polling =>
      cases s.next with
      | some next => exact acts_advance connectedAt sessionId next
      | none => exact .stays rfl
    | sending payload => exact .stays rfl
    | returned result => exact .stays rfl
    | cancelled => exact .stays rfl
  | send =>
    simp only [CoordinateStream.act]
    cases s.invocation with
    | sending payload =>
      by_cases hsink : s.sinkOpen = true
      · simp only [hsink, if_true]
        exact .stays rfl
      · simp only [hsink]
        exact acts_finish _
    | polling => exact .stays rfl
    | returned result => exact .stays rfl
    | cancelled => exact .stays rfl
  | closeSink => exact .stays rfl
  | cancel =>
    simp only [CoordinateStream.act]
    cases s.invocation with
    | polling => exact acts_finish _
    | sending payload => exact acts_finish _
    | returned result => exact .stays rfl
    | cancelled => exact .stays rfl

/-! ## Who holds a peer -/

/-- What a move does to who holds a peer. -/
def leases (w : World Node) : RpcMove Node → List (Lease.Event Uuid Uuid)
  | .spawn _ => []
  | .run k move =>
    match w.tasks[k]? with
    | some s => handover s.state.session (s.act w.shared move).2.state.session
    | none => []
  | .outside call => if w.shared.isSome then callLeases call else []

theorem sessionOf_act (coordinator : Option (CoordinatorInner Node)) (s : CoordinateStream)
    (move : StreamMove) : sessionOf (s.act coordinator move).1 =
      (handover s.state.session (s.act coordinator move).2.state.session).foldl Lease.apply
        (sessionOf coordinator) := by
  have hacts := acts_act coordinator s move
  generalize s.act coordinator move = result at hacts
  cases hacts with
  | stays hsame =>
    rw [hsame, handover_self]
    rfl
  | registers hcoordinator hbefore hafter =>
    subst hcoordinator
    rw [hbefore, hafter]
    exact sessionOf_coordinated _ _
  | ends hbefore hafter =>
    rw [hbefore, hafter]
    cases coordinator with
    | none => simp [sessionOf, handover, Lease.apply]
    | some inner => exact sessionOf_closeCoordination _

/-- The coordinator's sessions change as the move says. -/
theorem sessionOf_step (w : World Node) (move : RpcMove Node) :
    sessionOf (program.step w move).shared =
      (leases w move).foldl Lease.apply (sessionOf w.shared) := by
  cases move with
  | spawn => rfl
  | run k move =>
    cases hstream : w.tasks[k]? with
    | none =>
      simp only [Program.step, leases, hstream]
      rfl
    | some s =>
      simp only [Program.step, leases, hstream, program]
      exact sessionOf_act w.shared s move
  | outside call =>
    simp only [Program.step, leases, program]
    cases w.shared with
    | none => rfl
    | some inner => exact sessionOf_call inner call

/-! ## Sessions are told apart -/

theorem Distinct.step {ids : List Uuid} {w : World Node} {move : RpcMove Node} (h : Distinct ids w)
    (hfresh : ∀ id, issued move = some id → id ∉ ids) :
    Distinct (ids ++ (issued move).toList) (program.step w move) := by
  have hsteps := program.steps_step w move
  generalize program.step w move = w' at hsteps
  have hmore : Distinct (ids ++ (issued move).toList) w := h.mono
  cases hsteps with
  | idle => exact hmore
  | spawn op =>
    have hnew : ∀ guard, ¬ (CoordinateState.handshake.session = some guard) := by
      rintro guard ⟨⟩
    refine hmore.spawn (fun guard hguard => absurd hguard (hnew guard)) fun s hs => ⟨?_, ?_⟩
    · exact fun guard _ hguard => absurd hguard (hnew guard)
    · exact fun _ guard _ hguard => absurd hguard (hnew guard)
  | outside call => exact hmore.outside fun _ hs => hs
  | @run k move s s' coordinator hstream hadvance =>
    obtain hresult : s.act w.shared move = (coordinator, s') := Option.some.inj hadvance
    have hacts := acts_act w.shared s move
    rw [hresult] at hacts
    have hapart {j : Nat} {t : CoordinateStream} (hj : j ≠ k) (ht : w.tasks[j]? = some t) :
        s.Apart t ∧ t.Apart s :=
      ⟨h.apart k j s t hj.symm hstream ht, h.apart j k t s hj ht hstream⟩
    cases hacts with
    | stays hsame =>
      refine hmore.run (fun guard hguard => hmore.each k s hstream guard (hsame ▸ hguard))
        fun j t hj ht => ⟨hmore.each j t ht, ?_, ?_⟩
      · exact fun guard guard' hguard => (hapart hj ht).1 guard guard' (hsame ▸ hguard)
      · exact fun guard guard' hguard hguard' =>
          (hapart hj ht).2 guard guard' hguard (hsame ▸ hguard')
    | @registers connectedAt sessionId _ _ _ _ _ _ hafter =>
      -- the new id is none of those that the other streams hold
      have hnew : sessionId ∉ ids := hfresh sessionId rfl
      refine hmore.run (fun guard hguard => ?_) fun j t hj ht => ⟨hmore.each j t ht, ?_, ?_⟩
      · rw [hafter] at hguard
        cases hguard
        exact List.mem_append_right _ (List.mem_singleton.mpr rfl)
      · intro guard guard' hguard hguard' heq
        rw [hafter] at hguard
        cases hguard
        have hmem := h.each j t ht guard' hguard'
        rw [← heq] at hmem
        exact hnew hmem
      · intro guard guard' hguard hguard' heq
        rw [hafter] at hguard'
        cases hguard'
        have hmem := h.each j t ht guard hguard
        rw [heq] at hmem
        exact hnew hmem
    | ends _ hafter =>
      refine hmore.run (fun guard hguard => by rw [hafter] at hguard; cases hguard)
        fun j t hj ht => ⟨hmore.each j t ht, ?_, ?_⟩
      · exact fun guard _ hguard => by rw [hafter] at hguard; cases hguard
      · exact fun _ guard _ hguard => by rw [hafter] at hguard; cases hguard

theorem distinct_run (configured : Bool) (moves : List (RpcMove Node))
    (hfresh : (moves.filterMap issued).Nodup) :
    Distinct (moves.filterMap issued) (program.run (World.start configured) moves) := by
  induction moves using List.reverseRecOn with
  | nil => exact .empty _
  | append_singleton moves move ih =>
    rw [List.filterMap_append, List.nodup_append] at hfresh
    obtain ⟨hbefore, -, hdisjoint⟩ := hfresh
    have hone : [move].filterMap issued = (issued move).toList := by
      cases hissued : issued move <;> simp [hissued]
    rw [Program.run_concat, List.filterMap_append, hone]
    refine (ih hbefore).step fun id hissued hmem => ?_
    exact hdisjoint id hmem id (by rw [hone, hissued]; exact List.mem_singleton.mpr rfl) rfl

/-! ## Runs -/

/-- The move gives the peer of `guard` to somebody else or to nobody, and is not the end of a
stream. -/
def displaces (w : World Node) (guard : CoordinateSession) : RpcMove Node → Bool
  | .outside call => (callLeases call).any (Lease.Event.ends guard.peerId guard.sessionId)
  | move => (leases w move).any (Lease.Event.displaces guard.peerId)

theorem getElem?_step_run {w : World Node} {k : Nat} {s : CoordinateStream}
    (hs : w.tasks[k]? = some s) (move : StreamMove) :
    (program.step w (.run k move)).tasks[k]? = some (s.act w.shared move).2 := by
  obtain ⟨hk, -⟩ := List.getElem?_eq_some_iff.mp hs
  simp only [Program.step, hs, program]
  exact List.getElem?_set_self hk

/-- What ends the hold of a stream that goes on is not the end of another stream. -/
theorem Distinct.displaces_of_ends {ids : List Uuid} {w : World Node} (h : Distinct ids w)
    {move : RpcMove Node} {k : Nat} {s s' : CoordinateStream} {guard : CoordinateSession}
    (hs : w.tasks[k]? = some s) (hsession : s.state.session = some guard)
    (hs' : (program.step w move).tasks[k]? = some s') (hsession' : s'.state.session = some guard)
    {event : Lease.Event Uuid Uuid} (hevent : event ∈ leases w move)
    (hends : event.ends guard.peerId guard.sessionId = true) : displaces w guard move = true := by
  cases move with
  | spawn => cases hevent
  | outside call =>
    refine List.any_eq_true.mpr ⟨event, ?_, hends⟩
    simp only [leases] at hevent
    split at hevent
    · exact hevent
    · cases hevent
  | run j move =>
    refine List.any_eq_true.mpr ⟨event, hevent, ?_⟩
    cases event with
    | acquire key token => exact hends
    | revoke key => exact hends
    | release key token =>
      exfalso
      obtain ⟨rfl, rfl⟩ : key = guard.peerId ∧ token = guard.sessionId := by
        simpa [Lease.Event.ends] using hends
      simp only [leases] at hevent
      cases ht : w.tasks[j]? with
      | none => simp [ht] at hevent
      | some t =>
        simp only [ht] at hevent
        cases hbefore : t.state.session with
        | none => cases hafter : (t.act w.shared move).2.state.session <;>
            simp [handover, hbefore, hafter] at hevent
        | some guard' =>
          cases hafter : (t.act w.shared move).2.state.session with
          | some guard'' => simp [handover, hbefore, hafter] at hevent
          | none =>
            have hsame : guard.sessionId = guard'.sessionId := by
              simp only [handover, hbefore, hafter, List.mem_singleton,
                Lease.Event.release.injEq] at hevent
              exact hevent.2
            by_cases hjk : j = k
            · subst hjk
              rw [getElem?_step_run ht move] at hs'
              cases hs'
              rw [hafter] at hsession'
              cases hsession'
            · exact h.apart k j s t (Ne.symm hjk) hs ht guard guard' hsession hbefore hsame

/-- A stream that is registered was so before, or this move registers it. -/
theorem registered_cases {w : World Node} {move : RpcMove Node} {k : Nat} {s : CoordinateStream}
    {guard : CoordinateSession} (hs : (program.step w move).tasks[k]? = some s)
    (hsession : s.state.session = some guard) :
    (∃ s₀, w.tasks[k]? = some s₀ ∧ s₀.state.session = some guard) ∨
      leases w move = [.acquire guard.peerId guard.sessionId] := by
  cases move with
  | outside call => exact .inl ⟨s, hs, hsession⟩
  | spawn =>
    simp only [Program.step, program] at hs
    by_cases hk : k < w.tasks.length
    · rw [List.getElem?_append_left hk] at hs
      exact .inl ⟨s, hs, hsession⟩
    · rw [List.getElem?_append_right (by omega)] at hs
      obtain rfl := List.mem_singleton.mp (List.mem_of_getElem? hs)
      cases hsession
  | run j move =>
    cases ht : w.tasks[j]? with
    | none =>
      simp only [Program.step, ht] at hs
      exact .inl ⟨s, hs, hsession⟩
    | some t =>
      by_cases hjk : j = k
      · subst hjk
        rw [getElem?_step_run ht move] at hs
        cases hs
        have hacts := acts_act w.shared t move
        simp only [leases, ht]
        generalize t.act w.shared move = result at hacts hsession
        cases hacts with
        | stays hsame => exact .inl ⟨t, rfl, hsame ▸ hsession⟩
        | registers _ hbefore _ =>
          right
          rw [hbefore, hsession]
          rfl
        | ends _ hafter =>
          rw [hafter] at hsession
          cases hsession
      · simp only [Program.step, ht, program] at hs
        rw [List.getElem?_set_ne hjk] at hs
        exact .inl ⟨s, hs, hsession⟩

/-- Where a stream is registered, the coordinator has its session, or the peer was given to
somebody else since. -/
theorem held_or_displaced (configured : Bool) (moves : List (RpcMove Node))
    (hfresh : (moves.filterMap issued).Nodup) {k : Nat} {s : CoordinateStream}
    {guard : CoordinateSession}
    (hs : (program.run (World.start configured) moves).tasks[k]? = some s)
    (hsession : s.state.session = some guard) :
    sessionOf (program.run (World.start configured) moves).shared guard.peerId =
        some guard.sessionId ∨
      ∃ before move after, moves = before ++ move :: after ∧
        displaces (program.run (World.start configured) before) guard move = true := by
  induction moves using List.reverseRecOn generalizing s with
  | nil =>
    rw [Program.run, List.foldl_nil] at hs
    cases hs
  | append_singleton moves move ih =>
    rw [List.filterMap_append, List.nodup_append] at hfresh
    have hdistinct := distinct_run configured moves hfresh.1
    rw [Program.run_concat] at hs ⊢
    obtain ⟨s₀, hs₀, hsession₀⟩ | hacquires := registered_cases hs hsession
    · obtain hheld | ⟨before, earlier, after, rfl, hdisplaces⟩ := ih hfresh.1 hs₀ hsession₀
      · by_cases hends : ∃ event ∈ leases (program.run (World.start configured) moves) move,
          event.ends guard.peerId guard.sessionId = true
        · obtain ⟨event, hevent, hends⟩ := hends
          exact .inr ⟨moves, move, [], rfl,
            hdistinct.displaces_of_ends hs₀ hsession₀ hs hsession hevent hends⟩
        · left
          rw [sessionOf_step, Lease.foldl_apply_eq_some_iff]
          refine .inr ⟨hheld, fun event hevent => ?_⟩
          exact Bool.eq_false_iff.mpr fun htrue => hends ⟨event, hevent, htrue⟩
      · exact .inr ⟨before, earlier, after ++ [move], by simp, hdisplaces⟩
    · left
      rw [sessionOf_step, hacquires, Lease.foldl_apply_eq_some_iff]
      exact .inl ⟨[], [], rfl, by simp⟩

omit [Prost] [Sha256] [UuidText] in
theorem issued_of_callLeases {call : Call Node} {key token : Uuid}
    (h : .acquire key token ∈ callLeases call) : call.issued = some token := by
  cases call with
  | addPeer info sessionId =>
    obtain ⟨-, rfl⟩ : key = info.id ∧ token = sessionId := by simpa [callLeases] using h
    rfl
  | coordinate info sessionId =>
    obtain ⟨-, rfl⟩ : key = info.id ∧ token = sessionId := by simpa [callLeases] using h
    rfl
  | removePeer peerId => simp [callLeases] at h
  | processRequest peerId request =>
    simp only [callLeases] at h
    split at h <;> simp at h
  | closeCoordination peerId sessionId => simp [callLeases] at h
  | subscribe conn agentId => cases h
  | unsubscribe conn agentId => cases h

/-- Only a stream that registers and the calls of others make up a session. -/
theorem acquires_cases {w : World Node} {move : RpcMove Node} {key token : Uuid}
    (h : .acquire key token ∈ leases w move) :
    (∃ (k : Nat) (s : CoordinateStream), (program.step w move).tasks[k]? = some s ∧
        s.state.session = some ⟨key, token⟩) ∨
      ∃ call, move = .outside call ∧ call.issued = some token := by
  cases move with
  | spawn => cases h
  | outside call =>
    simp only [leases] at h
    split at h
    · exact .inr ⟨call, rfl, issued_of_callLeases h⟩
    · cases h
  | run k move =>
    simp only [leases] at h
    cases ht : w.tasks[k]? with
    | none => simp [ht] at h
    | some t =>
      refine .inl ⟨k, _, getElem?_step_run ht move, ?_⟩
      simp only [ht] at h
      generalize (t.act w.shared move).2.state.session = after at h
      cases hbefore : t.state.session <;> cases after <;> simp [hbefore, handover] at h
      obtain ⟨rfl, rfl⟩ := h
      rfl

/-- A registered stream stays so through a move that does not release its session. -/
theorem registered_step {w : World Node} {move : RpcMove Node} {k : Nat} {s : CoordinateStream}
    {guard : CoordinateSession} (hs : w.tasks[k]? = some s)
    (hsession : s.state.session = some guard)
    (hkept : .release guard.peerId guard.sessionId ∉ leases w move) :
    ∃ s', (program.step w move).tasks[k]? = some s' ∧ s'.state.session = some guard := by
  cases move with
  | outside call => exact ⟨s, hs, hsession⟩
  | spawn =>
    obtain ⟨hk, -⟩ := List.getElem?_eq_some_iff.mp hs
    exact ⟨s, (List.getElem?_append_left hk).trans hs, hsession⟩
  | run j move =>
    by_cases hjk : j = k
    · subst hjk
      refine ⟨_, getElem?_step_run hs move, ?_⟩
      simp only [leases, hs] at hkept
      have hacts := acts_act w.shared s move
      generalize s.act w.shared move = result at hacts hkept
      cases hacts with
      | stays hsame => exact hsame.trans hsession
      | registers _ hbefore _ =>
        rw [hbefore] at hsession
        cases hsession
      | ends hbefore hafter =>
        rw [hbefore] at hsession
        cases hsession
        rw [hbefore, hafter] at hkept
        exact absurd (List.mem_singleton.mpr rfl) hkept
    · refine ⟨s, ?_, hsession⟩
      cases ht : w.tasks[j]? with
      | none => simpa only [Program.step, ht] using hs
      | some t =>
        simp only [Program.step, ht, program]
        exact (List.getElem?_set_ne hjk).trans hs

/-- The coordinator has no session that a stream has left behind. -/
theorem held_by_stream (configured : Bool) (moves : List (RpcMove Node)) {p sessionId : Uuid}
    (hheld : sessionOf (program.run (World.start configured) moves).shared p = some sessionId) :
    (∃ (k : Nat) (s : CoordinateStream),
        (program.run (World.start configured) moves).tasks[k]? = some s ∧
        s.state.session = some ⟨p, sessionId⟩) ∨
      ∃ call, .outside call ∈ moves ∧ call.issued = some sessionId := by
  induction moves using List.reverseRecOn with
  | nil => cases configured <;> cases hheld
  | append_singleton moves move ih =>
    rw [Program.run_concat] at hheld ⊢
    rw [sessionOf_step, Lease.foldl_apply_eq_some_iff] at hheld
    obtain ⟨before, after, hsplit, -⟩ | ⟨hheld, hkept⟩ := hheld
    · have hevent : .acquire p sessionId ∈
          leases (program.run (World.start configured) moves) move := by
        rw [hsplit]
        exact List.mem_append_right _ List.mem_cons_self
      obtain hstream | ⟨call, rfl, hissued⟩ := acquires_cases hevent
      · exact .inl hstream
      · exact .inr ⟨call, by simp, hissued⟩
    · obtain ⟨k, s, hs, hsession⟩ | ⟨call, hcall, hissued⟩ := ih hheld
      · left
        refine ⟨k, registered_step hs hsession fun hrelease => ?_⟩
        have hends := hkept _ hrelease
        simp [Lease.Event.ends] at hends
      · exact .inr ⟨call, List.mem_append_left _ hcall, hissued⟩

/-! ## What the clients are answered -/

theorem isSome_act (s : CoordinateStream) (coordinator : Option (CoordinatorInner Node))
    (move : StreamMove) : (s.act coordinator move).1.isSome = coordinator.isSome := by
  have hacts := acts_act coordinator s move
  generalize s.act coordinator move = result at hacts
  cases hacts with
  | stays => rfl
  | registers hcoordinator =>
    rw [hcoordinator]
    rfl
  | ends => exact Option.isSome_map

/-- Each stream answers its client. -/
structure Answers (configured : Bool) (w : World Node) : Prop where
  shared : w.shared.isSome = configured
  streams : ∀ s ∈ w.tasks, s.Decodes ∧ s.Answering configured

theorem Answers.step {configured : Bool} {w : World Node} (h : Answers configured w)
    (move : RpcMove Node) : Answers configured (program.step w move) := by
  have hsteps := program.steps_step w move
  generalize program.step w move = w' at hsteps
  cases hsteps with
  | idle => exact h
  | outside call => exact ⟨Option.isSome_map.trans h.shared, h.streams⟩
  | spawn =>
    refine ⟨h.shared, fun s hs => ?_⟩
    obtain hs | hs := List.mem_append.mp hs
    · exact h.streams s hs
    · obtain rfl := List.mem_singleton.mp hs
      exact ⟨⟨[], [], rfl, rfl, fun _ => rfl⟩, .handshake rfl rfl rfl rfl⟩
  | @run k move s s' coordinator hstream hadvance =>
    obtain hresult : s.act w.shared move = (coordinator, s') := Option.some.inj hadvance
    obtain ⟨hdecodes, hanswering⟩ := h.streams s (List.mem_of_getElem? hstream)
    have hact := isSome_act s w.shared move
    have hdecodes' := hdecodes.act w.shared move
    have hanswering' := hanswering.act hdecodes h.shared move
    rw [hresult] at hact hdecodes' hanswering'
    refine ⟨hact.trans h.shared, fun t ht => ?_⟩
    obtain ht | rfl := List.mem_or_eq_of_mem_set ht
    · exact h.streams t ht
    · exact ⟨hdecodes', hanswering'⟩

theorem answers_run (configured : Bool) (moves : List (RpcMove Node)) :
    Answers configured (program.run (World.start configured) moves) := by
  refine List.foldlRecOn moves _ ?_ fun w h move _ => h.step move
  exact ⟨by cases configured <;> rfl, fun s hs => nomatch hs⟩

/-- Whatever the other streams do, a client is passed on the answers to its own requests, in their
order, and all of them when its stream has ended and it still listens. -/
theorem coordinate_answers (configured : Bool) (moves : List (RpcMove Node)) :
    ∀ s ∈ (program.run (World.start configured) moves).tasks,
      s.items <+: answers configured (decodable s.received) ∧
      ∀ result, s.invocation = .returned result → s.sinkOpen = true →
        s.items = answers configured (decodable s.received) := by
  intro s hs
  obtain ⟨hdecodes, hanswering⟩ := (answers_run configured moves).streams s hs
  exact ⟨hanswering.items_isPrefix hdecodes,
    fun result hreturned hsink => hanswering.items_whole hdecodes hreturned hsink⟩

end

/-- `prost` on a request without fields and on one with a node key of one byte. -/
@[reducible] def sampleProst : Prost where
  decodeCoordinateRequest bytes :=
    match bytes with
    | [] => .ok ⟨none⟩
    | [10, 5, 10, 3, 26, 1, key] => .ok ⟨some ⟨some ⟨[key]⟩⟩⟩
    | _ => .error "failed to decode Protobuf message"

/-- Its first request has no key. -/
def keyless : List (RpcMove Nat) :=
  [.spawn (), .run 0 (.receive []), .run 0 .decode, .run 0 (.poll 5 ⟨101⟩)]

theorem coordinate_answers_keyless :
    let _ : Prost := sampleProst
    let _ : Sha256 := sha256
    let _ : UuidText := Uuid.hyphenated
    ∃ s, (program.run (World.start true) keyless).tasks[0]? = some s ∧
      s.items = [.error (.invalidArgument "coordinate: update_self.node.key is required")] := by
  intro _ _ _
  let refused : CoordinateStream :=
    { received := [[]], taken := [⟨none⟩], state := .done
      invocation := .returned
        (.error (.invalidArgument "coordinate: update_self.node.key is required")) }
  have hs : (program.run (World.start true) keyless).tasks[0]? = some refused := by decide
  refine ⟨refused, hs, ?_⟩
  exact (coordinate_answers true keyless refused (List.mem_of_getElem? hs)).2 _ rfl rfl

/-- A client reconnects with the same key, and then its first connection comes to an end. -/
def reconnected : List (RpcMove Nat) :=
  [.spawn (), .run 0 (.receive [10, 5, 10, 3, 26, 1, 7]), .run 0 .decode,
    .run 0 (.poll 5 ⟨101⟩), .run 0 .send, .spawn (),
    .run 1 (.receive [10, 5, 10, 3, 26, 1, 7]), .run 1 .decode, .run 1 (.poll 6 ⟨102⟩),
    .run 0 .hangUp, .run 0 .decode, .run 0 (.poll 7 ⟨103⟩)]

/-! ## A client that hangs up -/

section

variable [Prost] [Sha256] [UuidText]

/-- The moves of one stream, one after the other. -/
def play (coordinator : Option (CoordinatorInner Node)) (s : CoordinateStream)
    (moves : List StreamMove) : Option (CoordinatorInner Node) × CoordinateStream :=
  moves.foldl (fun now move => now.2.act now.1 move) (coordinator, s)

theorem play_append (coordinator : Option (CoordinatorInner Node)) (s : CoordinateStream)
    (first second : List StreamMove) : play coordinator s (first ++ second) =
      play (play coordinator s first).1 (play coordinator s first).2 second :=
  List.foldl_append

theorem getElem?_run_play {w : World Node} {k : Nat} {s : CoordinateStream}
    (hs : w.tasks[k]? = some s) (moves : List StreamMove) :
    (program.run w (moves.map (.run k))).tasks[k]? = some (play w.shared s moves).2 := by
  induction moves generalizing w s with
  | nil => exact hs
  | cons move moves ih =>
    have hnext := ih (getElem?_step_run hs move)
    have hshared : (program.step w (.run k move)).shared = (s.act w.shared move).1 := by
      simp only [Program.step, hs, program]
    rw [hshared] at hnext
    exact hnext

namespace CoordinateStream

/-- The stream of a client that has hung up, once the decoding task is through. -/
structure Ending (configured : Bool) (coordinator : Option (CoordinatorInner Node))
    (s : CoordinateStream) : Prop where
  coordinator_eq : coordinator.isSome = configured
  answering : s.Answering configured
  decodes : s.Decodes
  decoding : s.decoding = false

variable {configured : Bool} {coordinator : Option (CoordinatorInner Node)} {s : CoordinateStream}

theorem Ending.act (h : s.Ending configured coordinator) {move : StreamMove}
    (hmove : move = .send ∨ ∃ connectedAt sessionId, move = .poll connectedAt sessionId) :
    (s.act coordinator move).2.Ending configured (s.act coordinator move).1 where
  coordinator_eq := (isSome_act s coordinator move).trans h.coordinator_eq
  answering := h.answering.act h.decodes h.coordinator_eq move
  decodes := h.decodes.act coordinator move
  decoding := by
    obtain rfl | ⟨connectedAt, sessionId, rfl⟩ := hmove
    · simp only [CoordinateStream.act]
      cases s.invocation with
      | sending payload => dsimp only; split <;> exact h.decoding
      | polling => exact h.decoding
      | returned result => exact h.decoding
      | cancelled => exact h.decoding
    · simp only [CoordinateStream.act]
      cases s.invocation with
      | polling =>
        cases s.next with
        | none => exact h.decoding
        | some next =>
          simp only [CoordinateStream.advance]
          generalize coordinateStep coordinator connectedAt sessionId s.state next = result
          obtain ⟨item, state, coordinator'⟩ := result
          cases item with
          | none => exact h.decoding
          | some item => cases item <;> exact h.decoding
      | sending payload => exact h.decoding
      | returned result => exact h.decoding
      | cancelled => exact h.decoding

theorem play_decode (n : Nat) : play coordinator s (List.replicate n .decode) =
    (coordinator, CoordinateStream.decode^[n] s) := by
  induction n generalizing s with
  | zero => rfl
  | succ n ih =>
    rw [List.replicate_succ, Function.iterate_succ_apply, ← ih]
    rfl

omit [Sha256] [UuidText] in
/-- Without more to come, a step of the decoding task is its last, or a frame less is left. -/
theorem decode_cases (hclosed : s.requestsOpen = false) :
    (s.decode.decoding = false ∧ s.decode.incoming = s.incoming) ∨
      (s.decode.requestsOpen = false ∧ s.decode.requests.length < s.requests.length ∧
        s.decode.incoming.length = s.incoming.length + 1) := by
  unfold CoordinateStream.decode
  by_cases hdecoding : s.decoding = true
  · rw [if_pos hdecoding]
    cases hrequests : s.requests with
    | nil =>
      dsimp only
      rw [if_neg (by simp [hclosed])]
      exact .inl ⟨rfl, rfl⟩
    | cons bytes rest =>
      dsimp only
      split
      · split
        · exact .inr ⟨hclosed, Nat.lt_succ_self _, by simp⟩
        · exact .inl ⟨rfl, rfl⟩
      · exact .inl ⟨rfl, rfl⟩
  · rw [if_neg hdecoding]
    exact .inl ⟨by simpa using hdecoding, rfl⟩

omit [Sha256] [UuidText] in
/-- The decoding task is through after one step for each frame and one for the end. -/
theorem decode_iterate (hclosed : s.requestsOpen = false) {n : Nat} (hn : s.requests.length < n) :
    (CoordinateStream.decode^[n] s).decoding = false ∧
      (CoordinateStream.decode^[n] s).incoming.length ≤
        s.incoming.length + s.requests.length := by
  induction n generalizing s with
  | zero => omega
  | succ n ih =>
    rw [Function.iterate_succ_apply]
    obtain ⟨hdone, hincoming⟩ | ⟨hclosed, hless, hmore⟩ := decode_cases hclosed
    · rw [Function.iterate_fixed ((decode_frame s.decode).2.2.2.2.2 hdone) n, hincoming]
      exact ⟨hdone, Nat.le_add_right _ _⟩
    · obtain ⟨hdone, hlength⟩ := ih hclosed (by omega)
      exact ⟨hdone, by omega⟩

omit [Sha256] [UuidText] in
/-- The handler is at work as long as its stream has not come to its end. -/
theorem Answering.running_or_over (h : s.Answering configured) :
    (s.state ≠ .done ∧
        (s.invocation = .polling ∨ s.invocation = .sending acknowledgement)) ∨
      (s.state = .done ∧
        ((∃ result, s.invocation = .returned result) ∨ s.invocation = .cancelled)) := by
  cases h with
  | handshake hstate hinvocation => exact .inl ⟨by simp [hstate], .inl hinvocation⟩
  | waiting _ hstate hinvocation => exact .inl ⟨by simp [hstate], .inl hinvocation⟩
  | sending _ hstate hinvocation => exact .inl ⟨by simp [hstate], .inr hinvocation⟩
  | refused e hstate hinvocation => exact .inr ⟨hstate, .inl ⟨_, hinvocation⟩⟩
  | closed hstate hinvocation => exact .inr ⟨hstate, .inl ⟨_, hinvocation⟩⟩
  | broken hstate hinvocation => exact .inr ⟨hstate, .inl ⟨_, hinvocation⟩⟩
  | cancelled hstate hinvocation => exact .inr ⟨hstate, .inr hinvocation⟩

omit [Sha256] [UuidText] in
theorem Answering.iterate (h : s.Answering configured) (hdecodes : s.Decodes) (n : Nat) :
    (CoordinateStream.decode^[n] s).Answering configured ∧
      (CoordinateStream.decode^[n] s).Decodes := by
  induction n generalizing s with
  | zero => exact ⟨h, hdecodes⟩
  | succ n ih =>
    rw [Function.iterate_succ_apply]
    exact ih h.decode hdecodes.decode

/-- Polled, the stream takes what is next or comes to its end. -/
theorem Ending.poll (h : s.Ending configured coordinator) (hpolling : s.invocation = .polling)
    (connectedAt : Int) (sessionId : Uuid) :
    let s' := (s.act coordinator (.poll connectedAt sessionId)).2
    s'.state = .done ∨ s'.incoming.length < s.incoming.length := by
  dsimp only
  simp only [CoordinateStream.act, hpolling]
  cases hincoming : s.incoming with
  | nil =>
    left
    have hnext : s.next = some none := by simp [CoordinateStream.next, hincoming, h.decoding]
    simp only [hnext, CoordinateStream.advance]
    cases s.state <;> rfl
  | cons request rest =>
    have hnext : s.next = some (some request) := by simp [CoordinateStream.next, hincoming]
    simp only [hnext, CoordinateStream.advance]
    generalize coordinateStep coordinator connectedAt sessionId s.state (some request) = result
    obtain ⟨item, state, coordinator'⟩ := result
    cases item with
    | none => exact .inl rfl
    | some item =>
      cases item with
      | ok payload => exact .inr (by simp [hincoming])
      | error e => exact .inl rfl

/-- The handler is at its end, and stays there. -/
theorem act_of_done {move : StreamMove} (h : s.Answering configured) (hdone : s.state = .done)
    (hmove : move = .send ∨ ∃ connectedAt sessionId, move = .poll connectedAt sessionId) :
    s.act coordinator move = (coordinator, s) := by
  obtain ⟨hrunning, -⟩ | ⟨-, hover⟩ := h.running_or_over
  · exact absurd hdone hrunning
  · obtain ⟨result, hinvocation⟩ | hinvocation := hover <;>
      obtain rfl | ⟨connectedAt, sessionId, rfl⟩ := hmove <;>
      simp only [CoordinateStream.act, hinvocation]

/-- An item that the client takes or refuses no longer keeps the handler. -/
theorem Ending.send (h : s.Ending configured coordinator) (hrunning : s.state ≠ .done) :
    let s' := (s.act coordinator .send).2
    (s'.state = .done ∨ s'.invocation = .polling) ∧ s'.incoming.length ≤ s.incoming.length := by
  dsimp only
  obtain ⟨-, hinvocation | hinvocation⟩ | ⟨hdone, -⟩ := h.answering.running_or_over
  · have hact : s.act coordinator .send = (coordinator, s) := by
      simp only [CoordinateStream.act, hinvocation]
    rw [hact]
    exact ⟨.inr hinvocation, Nat.le_refl _⟩
  · simp only [CoordinateStream.act, hinvocation]
    split
    · exact ⟨.inr rfl, Nat.le_refl _⟩
    · exact ⟨.inl rfl, Nat.zero_le _⟩
  · exact absurd hdone hrunning

theorem Ending.rounds (h : s.Ending configured coordinator) (connectedAt : Int) (sessionId : Uuid)
    {n : Nat} (hn : s.state = .done ∨ s.incoming.length < n) :
    (play coordinator s
      (List.replicate n [.send, .poll connectedAt sessionId]).flatten).2.state = .done := by
  induction n generalizing s coordinator with
  | zero => exact hn.resolve_right (Nat.not_lt_zero _)
  | succ n ih =>
    have hsent := h.act (.inl rfl)
    have hpolled := hsent.act (.inr ⟨connectedAt, sessionId, rfl⟩)
    have hround : ((s.act coordinator .send).2.act (s.act coordinator .send).1
          (.poll connectedAt sessionId)).2.state = .done ∨
        ((s.act coordinator .send).2.act (s.act coordinator .send).1
          (.poll connectedAt sessionId)).2.incoming.length < n := by
      by_cases hdone : (s.act coordinator .send).2.state = .done
      · left
        rw [act_of_done hsent.answering hdone (.inr ⟨connectedAt, sessionId, rfl⟩)]
        exact hdone
      · have hrunning : s.state ≠ .done := by
          intro hbefore
          rw [act_of_done h.answering hbefore (.inl rfl)] at hdone
          exact hdone hbefore
        obtain ⟨hnext, hlength⟩ := h.send hrunning
        have hlt := hn.resolve_left hrunning
        refine (hsent.poll (hnext.resolve_left hdone) connectedAt sessionId).imp_right ?_
        intro hless
        omega
    exact ih hpolled hround

end CoordinateStream

/-- What is left to do for a stream whose client has hung up: a step of the decoding task for each
frame and one for the end, and a turn of the handler for each request and one for the end. -/
def windUp (s : CoordinateStream) (connectedAt : Int) (sessionId : Uuid) : List StreamMove :=
  List.replicate (s.requests.length + 1) .decode ++
    (List.replicate (s.incoming.length + s.requests.length + 1)
      [.send, .poll connectedAt sessionId]).flatten

/-- From every state that the server can reach, a stream whose client has hung up comes to its end
by its own moves, and the coordinator then has no session of it. -/
theorem coordinate_closes (configured : Bool) (moves : List (RpcMove Node)) (k : Nat)
    (s : CoordinateStream)
    (hs : (program.run (World.start configured) moves).tasks[k]? = some s)
    (hclosed : s.requestsOpen = false) (connectedAt : Int) (sessionId : Uuid) :
    let w := program.run (World.start configured)
      (moves ++ (windUp s connectedAt sessionId).map (.run k))
    (∃ s', w.tasks[k]? = some s' ∧ s'.state = .done) ∧
      ∀ p held, sessionOf w.shared p = some held →
        (∃ j s', j ≠ k ∧ w.tasks[j]? = some s' ∧ s'.state = .registered ⟨p, held⟩) ∨
          ∃ call, .outside call ∈ moves ∧ call.issued = some held := by
  dsimp only
  set w := program.run (World.start configured) moves with hw
  have hanswers : Answers configured w := answers_run configured moves
  obtain ⟨hdecodes, hanswering⟩ := hanswers.streams s (List.mem_of_getElem? hs)
  have hrun : (program.run w ((windUp s connectedAt sessionId).map (.run k))).tasks[k]? =
      some (play w.shared s (windUp s connectedAt sessionId)).2 := getElem?_run_play hs _
  rw [Program.run_append, ← hw]
  have hdone : (play w.shared s (windUp s connectedAt sessionId)).2.state = .done := by
    obtain ⟨hdecoding, hincoming⟩ :=
      CoordinateStream.decode_iterate hclosed (Nat.lt_succ_self s.requests.length)
    rw [windUp, play_append, CoordinateStream.play_decode]
    have hending : CoordinateStream.Ending configured w.shared
        (CoordinateStream.decode^[s.requests.length + 1] s) :=
      ⟨hanswers.shared, (hanswering.iterate hdecodes _).1, (hanswering.iterate hdecodes _).2,
        hdecoding⟩
    exact hending.rounds connectedAt sessionId (.inr (Nat.lt_succ_of_le hincoming))
  refine ⟨⟨_, hrun, hdone⟩, fun p held hheld => ?_⟩
  rw [hw, ← Program.run_append] at hheld
  obtain ⟨j, s', hs', hsession⟩ | ⟨call, hcall, hissued⟩ := held_by_stream configured _ hheld
  · have hstate := CoordinateState.registered_of_session hsession
    refine .inl ⟨j, s', ?_, ?_, hstate⟩
    · rintro rfl
      rw [Program.run_append, ← hw, hrun] at hs'
      cases hs'
      rw [hdone] at hstate
      cases hstate
    · rw [Program.run_append, ← hw] at hs'
      exact hs'
  · refine .inr ⟨call, ?_, hissued⟩
    obtain hcall | hcall := List.mem_append.mp hcall
    · exact hcall
    · obtain ⟨move, -, hmove⟩ := List.mem_map.mp hcall
      cases hmove

end

/-- The first connection only, whose client hangs up. -/
def hungUp : List (RpcMove Nat) := reconnected.take 5 ++ [.run 0 .hangUp]

theorem coordinate_closes_hungUp :
    let _ : Prost := sampleProst
    let _ : Sha256 := sha256
    let _ : UuidText := Uuid.hyphenated
    ∃ s, (program.run (World.start true) hungUp).tasks[0]? = some s ∧
      s.state = .registered ⟨peerIdFromKey [7], ⟨101⟩⟩ ∧
      ∃ s', (program.run (World.start true)
        (hungUp ++ (windUp s 8 ⟨104⟩).map (.run 0))).tasks[0]? = some s' ∧ s'.state = .done := by
  intro _ _ _
  let held : CoordinateStream :=
    { requestsOpen := false, received := [[10, 5, 10, 3, 26, 1, 7]], taken := [⟨some ⟨some ⟨[7]⟩⟩⟩]
      state := .registered ⟨peerIdFromKey [7], ⟨101⟩⟩, responses := [[]] }
  have hs : (program.run (World.start true) hungUp).tasks[0]? = some held := by decide +kernel
  exact ⟨held, hs, rfl, (coordinate_closes true hungUp 0 held hs rfl 8 ⟨104⟩).1⟩

end Coderd.Tailnet.Rpc
