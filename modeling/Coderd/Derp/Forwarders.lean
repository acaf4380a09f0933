import Coderd.Derp.Server
import Coderd.Foundation.Transition

namespace Coderd.Derp
open Coderd.Foundation

/-- One run of `run_mesh_connection_once` after its handshake. `heard` keeps the
notifications of the link in order. -/
inductive Link where
  /-- In the read loop. -/
  | reading (registered : List NodeKey) (heard : List (NodeKey × Bool))
  /-- After the read loop, with the peers whose forwarders are still to be removed. -/
  | cleaning (remaining : List NodeKey)
  | closed
  deriving DecidableEq

/-- The last notification about a key, if there was one. -/
def lastNotice (heard : List (NodeKey × Bool)) (k : NodeKey) : Option Bool :=
  heard.foldl (fun last notice => if notice.1 = k then some notice.2 else last) none

theorem lastNotice_append (heard : List (NodeKey × Bool)) (key k : NodeKey) (present : Bool) :
    lastNotice (heard ++ [(key, present)]) k =
      if key = k then some present else lastNotice heard k := by
  simp [lastNotice, List.foldl_append]

namespace Link

/-- The link is live and its last notification about the key is `PeerPresent`. -/
def present (k : NodeKey) : Link → Bool
  | reading _ heard => lastNotice heard k = some true
  | cleaning _ | closed => false

/-- The link's cleanup has yet to remove the key. -/
def owes (k : NodeKey) : Link → Bool
  | cleaning remaining => k ∈ remaining
  | reading _ _ | closed => false

def isCleaning : Link → Bool
  | cleaning _ => true
  | reading _ _ | closed => false

end Link

/-- A server and its mesh links. A link's number is that of its forward channel, so a link
that is dialed again has a new number. -/
structure Mesh where
  server : DerpServer
  links : HashMap Nat Link

inductive MeshEvent where
  /-- The handshake with the peer is done. -/
  | dial (l : Nat)
  /-- The peer's socket delivers one binary message. -/
  | message (l : Nat) (bytes : List UInt8)
  /-- The read loop ends. -/
  | drop (l : Nat)
  /-- The cleanup loop takes the forwarders lock once more. -/
  | cleanup (l : Nat)
  deriving DecidableEq

namespace Mesh

def new (serverKey : NodeKey) : Mesh := ⟨.new serverKey, ∅⟩

/-- The notification in a message; any other frame is ignored by the read loop. -/
def notification (bytes : List UInt8) : Option (NodeKey × Bool) :=
  match parseFrame bytes with
  | .error _ => none
  | .ok (frame, _) =>
    match frame.frameType with
    | .peerPresent =>
      (parsePeerKey .peerPresent frame.payload).toOption.map fun peer => (peer, true)
    | .peerGone => (parsePeerKey .peerGone frame.payload).toOption.map fun peer => (peer, false)
    | _ => none

/-- One turn of the read loop on a notification. -/
def notified (w : Mesh) (l : Nat) (registered : List NodeKey) (heard : List (NodeKey × Bool)) :
    NodeKey × Bool → Mesh
  | (peer, true) =>
    ⟨w.server.addPacketForwarder peer l,
      w.links.insert l (.reading (registered ++ [peer]) (heard ++ [(peer, true)]))⟩
  | (peer, false) =>
    ⟨w.server.removePacketForwarder peer,
      w.links.insert l (.reading (registered.filter (· ≠ peer)) (heard ++ [(peer, false)]))⟩

def step (w : Mesh) : MeshEvent → Mesh
  | .dial l =>
    match w.links.lookup l with
    | some _ => w
    | none => { w with links := w.links.insert l (.reading [] []) }
  | .message l bytes =>
    match w.links.lookup l, notification bytes with
    | some (.reading registered heard), some notice => w.notified l registered heard notice
    | _, _ => w
  | .drop l =>
    match w.links.lookup l with
    | some (.reading registered _) => { w with links := w.links.insert l (.cleaning registered) }
    | _ => w
  | .cleanup l =>
    match w.links.lookup l with
    | some (.cleaning (peer :: rest)) =>
      ⟨w.server.removePacketForwarder peer, w.links.insert l (.cleaning rest)⟩
    | some (.cleaning []) => { w with links := w.links.insert l .closed }
    | _ => w

/-- The link that has the forwarder entry of a key. -/
def forwarderOf (w : Mesh) (k : NodeKey) : Option Nat := w.server.meshForwarders.lookup k

/-- Link `l` is live and last said that the key is present. -/
def Present (w : Mesh) (l : Nat) (k : NodeKey) : Prop :=
  ∃ link, w.links.lookup l = some link ∧ link.present k = true

/-- Link `l` was dropped with the key present, and its cleanup has not come to it. -/
def Owes (w : Mesh) (l : Nat) (k : NodeKey) : Prop :=
  ∃ link, w.links.lookup l = some link ∧ link.owes k = true

/-- Forwarders follow the live links; the entry of a link in the middle of its cleanup
stands until that link removes it. -/
def FollowsLinks (w : Mesh) : Prop :=
  ∀ k, ((∃ l, w.Present l k) → ∃ l, w.forwarderOf k = some l ∧ (w.Present l k ∨ w.Owes l k)) ∧
    ((∀ l, ¬ w.Present l k ∧ ¬ w.Owes l k) → w.forwarderOf k = none)

/-- Forwarders follow the live links exactly. -/
def FollowsLiveLinks (w : Mesh) : Prop :=
  ∀ k, ((∃ l, w.Present l k) → ∃ l, w.forwarderOf k = some l ∧ w.Present l k) ∧
    ((∀ l, ¬ w.Present l k) → w.forwarderOf k = none)

/-- The key whose entry an event removes, and the link it does so for. -/
def removal (w : Mesh) : MeshEvent → Option (Nat × NodeKey)
  | .message l bytes =>
    match w.links.lookup l, notification bytes with
    | some (.reading _ _), some (peer, false) => some (l, peer)
    | _, _ => none
  | .cleanup l =>
    match w.links.lookup l with
    | some (.cleaning (peer :: _)) => some (l, peer)
    | _ => none
  | .dial _ | .drop _ => none

/-- A link removes the entry of a key only when no other live link has the key present. -/
def RemovesUnshared (w : Mesh) (e : MeshEvent) : Prop :=
  ∀ r ∈ w.removal e, ∀ entry ∈ w.links.entries, entry.1 ≠ r.1 → entry.2.present r.2 = false

instance (w : Mesh) (e : MeshEvent) : Decidable (w.RemovesUnshared e) :=
  inferInstanceAs (Decidable (∀ r ∈ w.removal e, ∀ entry ∈ w.links.entries, _ → _))

theorem present_iff {w : Mesh} {l : Nat} {link : Link} (h : w.links.lookup l = some link)
    (k : NodeKey) : w.Present l k ↔ link.present k = true := by
  simp [Present, h]

theorem owes_iff {w : Mesh} {l : Nat} {link : Link} (h : w.links.lookup l = some link)
    (k : NodeKey) : w.Owes l k ↔ link.owes k = true := by
  simp [Owes, h]

theorem present_insert (w : Mesh) (s : DerpServer) (l l' : Nat) (link : Link) (k : NodeKey) :
    Present ⟨s, w.links.insert l link⟩ l' k ↔
      if l' = l then link.present k = true else w.Present l' k := by
  simp only [Present]
  rw [HashMap.lookup_insert_ite]
  split_ifs <;> simp

theorem owes_insert (w : Mesh) (s : DerpServer) (l l' : Nat) (link : Link) (k : NodeKey) :
    Owes ⟨s, w.links.insert l link⟩ l' k ↔
      if l' = l then link.owes k = true else w.Owes l' k := by
  simp only [Owes]
  rw [HashMap.lookup_insert_ite]
  split_ifs <;> simp

theorem forwarderOf_add (w : Mesh) (links : HashMap Nat Link) (peer k : NodeKey) (l : Nat) :
    forwarderOf ⟨w.server.addPacketForwarder peer l, links⟩ k =
      if k = peer then some l else w.forwarderOf k := HashMap.lookup_insert_ite _ _ _ _

theorem forwarderOf_remove (w : Mesh) (links : HashMap Nat Link) (peer k : NodeKey) :
    forwarderOf ⟨w.server.removePacketForwarder peer, links⟩ k =
      if k = peer then none else w.forwarderOf k := HashMap.lookup_erase_ite _ _ _

/-- An entry belongs to a link that has the key present or owes its removal, a key that is
present has an entry, and what a live link has present is on its list. -/
structure Inv (w : Mesh) : Prop where
  owned : ∀ k l, w.forwarderOf k = some l → w.Present l k ∨ w.Owes l k
  kept : ∀ k l, w.Present l k → ∃ l', w.forwarderOf k = some l'
  listed : ∀ l registered heard, w.links.lookup l = some (.reading registered heard) →
    ∀ k, lastNotice heard k = some true → k ∈ registered

theorem inv_new (serverKey : NodeKey) : Inv (new serverKey) := by
  constructor
  · intro k l h
    simp [forwarderOf, new, DerpServer.new] at h
  · rintro k l ⟨link, h, -⟩
    simp [new] at h
  · intro l registered heard h
    simp [new] at h

theorem Inv.followsLinks {w : Mesh} (h : Inv w) : w.FollowsLinks := by
  intro k
  constructor
  · rintro ⟨l, hl⟩
    obtain ⟨l', hl'⟩ := h.kept k l hl
    exact ⟨l', hl', h.owned k l' hl'⟩
  · intro hnone
    cases hentry : w.forwarderOf k with
    | none => rfl
    | some l =>
      rcases h.owned k l hentry with hl | hl
      · exact absurd hl (hnone l).1
      · exact absurd hl (hnone l).2

/-- Without a cleanup under way nothing is owed. -/
theorem FollowsLinks.live {w : Mesh} (h : w.FollowsLinks)
    (hclean : ∀ l link, w.links.lookup l = some link → link.isCleaning = false) :
    w.FollowsLiveLinks := by
  have howes : ∀ l k, ¬ w.Owes l k := by
    rintro l k ⟨link, hl, hk⟩
    have := hclean l link hl
    cases link <;> simp_all [Link.isCleaning, Link.owes]
  intro k
  obtain ⟨hpresent, hgone⟩ := h k
  constructor
  · intro hl
    obtain ⟨l, hentry, hl | hl⟩ := hpresent hl
    · exact ⟨l, hentry, hl⟩
    · exact absurd hl (howes l k)
  · intro hnone
    exact hgone fun l => ⟨hnone l, howes l k⟩

theorem Inv.listed_insert {w : Mesh} (h : Inv w) {l : Nat} {link : Link}
    (hlisted : ∀ registered heard, link = .reading registered heard →
      ∀ k, lastNotice heard k = some true → k ∈ registered)
    (l' : Nat) (registered : List NodeKey) (heard : List (NodeKey × Bool))
    (hl' : (w.links.insert l link).lookup l' = some (.reading registered heard)) (k : NodeKey)
    (hk : lastNotice heard k = some true) : k ∈ registered := by
  rw [HashMap.lookup_insert_ite] at hl'
  split_ifs at hl' with heq
  · exact hlisted registered heard (Option.some.inj hl') k hk
  · exact h.listed l' registered heard hl' k hk

/-- Link `l` goes on as `link`, with nothing present and the forwarders as they are. -/
theorem Inv.relink {w : Mesh} (h : Inv w) {l : Nat} {link : Link}
    (howned : ∀ k, w.forwarderOf k = some l → link.owes k = true)
    (habsent : ∀ k, link.present k = false)
    (hlisted : ∀ registered heard, link = .reading registered heard →
      ∀ k, lastNotice heard k = some true → k ∈ registered) :
    Inv { w with links := w.links.insert l link } := by
  constructor
  · intro k l' hentry
    rw [present_insert, owes_insert]
    by_cases heq : l' = l
    · subst heq
      rw [if_pos rfl, if_pos rfl]
      exact Or.inr (howned k hentry)
    · rw [if_neg heq, if_neg heq]
      exact h.owned k l' hentry
  · intro k l' hp
    rw [present_insert] at hp
    split_ifs at hp with heq
    · rw [habsent k] at hp
      cases hp
    · exact h.kept k l' hp
  · exact h.listed_insert hlisted

theorem Inv.dial {w : Mesh} (h : Inv w) {l : Nat} (hl : w.links.lookup l = none) :
    Inv { w with links := w.links.insert l (.reading [] []) } := by
  refine h.relink (fun k hentry => ?_) (fun k => ?_) (fun registered heard hlink k hk => ?_)
  · -- a link that is not there has no entry
    rcases h.owned k l hentry with ⟨link, hlink, -⟩ | ⟨link, hlink, -⟩ <;>
      · rw [hl] at hlink
        cases hlink
  · simp [Link.present, lastNotice]
  · simp only [Link.reading.injEq] at hlink
    rw [← hlink.2] at hk
    simp [lastNotice] at hk

/-- The dropped link owes what it had present. -/
theorem Inv.drop {w : Mesh} (h : Inv w) {l : Nat} {registered : List NodeKey}
    {heard : List (NodeKey × Bool)} (hl : w.links.lookup l = some (.reading registered heard)) :
    Inv { w with links := w.links.insert l (.cleaning registered) } := by
  refine h.relink (fun k hentry => ?_) (fun k => rfl) (fun _ _ hlink => by cases hlink)
  have hown := h.owned k l hentry
  rw [present_iff hl, owes_iff hl] at hown
  rcases hown with hk | hk
  · have hlast : lastNotice heard k = some true := by simpa [Link.present] using hk
    simpa [Link.owes] using h.listed l registered heard hl k hlast
  · simp [Link.owes] at hk

/-- The end of a cleanup with nothing left to remove. -/
theorem Inv.close {w : Mesh} (h : Inv w) {l : Nat} (hl : w.links.lookup l = some (.cleaning [])) :
    Inv { w with links := w.links.insert l .closed } := by
  refine h.relink (fun k hentry => ?_) (fun k => rfl) (fun _ _ hlink => by cases hlink)
  have hown := h.owned k l hentry
  rw [present_iff hl, owes_iff hl] at hown
  simp [Link.present, Link.owes] at hown

theorem Inv.peerPresent {w : Mesh} (h : Inv w) {l : Nat} {registered : List NodeKey}
    {heard : List (NodeKey × Bool)} (hl : w.links.lookup l = some (.reading registered heard))
    (peer : NodeKey) : Inv (w.notified l registered heard (peer, true)) := by
  -- what link `l` says about other keys is as before
  have hother : ∀ k, k ≠ peer →
      (Link.present k (.reading (registered ++ [peer]) (heard ++ [(peer, true)])) = true ↔
        w.Present l k) := by
    intro k hk
    simp [Link.present, lastNotice_append, Ne.symm hk, Present, hl]
  constructor
  · intro k l' hentry
    rw [notified, forwarderOf_add] at hentry
    rw [notified, present_insert, owes_insert]
    by_cases hk : k = peer
    · subst hk
      rw [if_pos rfl, Option.some.injEq] at hentry
      left
      rw [if_pos hentry.symm]
      simp [Link.present, lastNotice_append]
    · rw [if_neg hk] at hentry
      by_cases heq : l' = l
      · subst heq
        rw [if_pos rfl, if_pos rfl, hother k hk]
        refine (h.owned k l' hentry).imp_right fun howes => ?_
        rw [owes_iff hl] at howes
        simp [Link.owes] at howes
      · rw [if_neg heq, if_neg heq]
        exact h.owned k l' hentry
  · intro k l' hp
    rw [notified, present_insert] at hp
    rw [notified, forwarderOf_add]
    by_cases hk : k = peer
    · exact ⟨l, if_pos hk⟩
    · rw [if_neg hk]
      split_ifs at hp with heq
      · exact h.kept k l ((hother k hk).mp hp)
      · exact h.kept k l' hp
  · refine h.listed_insert fun registered' heard' hlink k hk => ?_
    simp only [Link.reading.injEq] at hlink
    rw [← hlink.2, lastNotice_append] at hk
    rw [← hlink.1, List.mem_append, List.mem_singleton]
    by_cases hpeer : peer = k
    · exact Or.inr hpeer.symm
    · rw [if_neg hpeer] at hk
      exact Or.inl (h.listed l registered heard hl k hk)

/-- Link `l` removes the entry of `peer` while no other live link has it present, and goes
on as `link`, which says about other keys what it said before. -/
theorem Inv.remove {w : Mesh} (h : Inv w) {l : Nat} {before link : Link} {peer : NodeKey}
    (hl : w.links.lookup l = some before) (hpeer : link.present peer = false)
    (hsame : ∀ k, k ≠ peer → link.present k = before.present k ∧ link.owes k = before.owes k)
    (hlisted : ∀ registered heard, link = .reading registered heard →
      ∀ k, lastNotice heard k = some true → k ∈ registered)
    (hunshared : ∀ l', l' ≠ l → ¬ w.Present l' peer) :
    Inv ⟨w.server.removePacketForwarder peer, w.links.insert l link⟩ := by
  constructor
  · intro k l' hentry
    rw [forwarderOf_remove] at hentry
    split_ifs at hentry with hk
    rw [present_insert, owes_insert]
    by_cases heq : l' = l
    · subst heq
      rw [if_pos rfl, if_pos rfl, (hsame k hk).1, (hsame k hk).2, ← present_iff hl,
        ← owes_iff hl]
      exact h.owned k l' hentry
    · rw [if_neg heq, if_neg heq]
      exact h.owned k l' hentry
  · intro k l' hp
    rw [present_insert] at hp
    rw [forwarderOf_remove]
    by_cases hk : k = peer
    · -- nobody has the removed key present
      subst hk
      split_ifs at hp with heq
      · rw [hpeer] at hp
        simp at hp
      · exact absurd hp (hunshared l' heq)
    · rw [if_neg hk]
      split_ifs at hp with heq
      · rw [(hsame k hk).1, ← present_iff hl] at hp
        exact h.kept k l hp
      · exact h.kept k l' hp
  · exact h.listed_insert hlisted

theorem RemovesUnshared.not_present {w : Mesh} {e : MeshEvent} (h : w.RemovesUnshared e)
    {l : Nat} {peer : NodeKey} (hremoval : w.removal e = some (l, peer)) {l' : Nat}
    (hne : l' ≠ l) : ¬ w.Present l' peer := by
  rintro ⟨link, hlink, hp⟩
  have := h (l, peer) hremoval ⟨l', link⟩ (AList.mem_lookup_iff.mp hlink) hne
  rw [hp] at this
  simp at this

theorem Inv.step {w : Mesh} (h : Inv w) {e : MeshEvent} (hok : w.RemovesUnshared e) :
    Inv (w.step e) := by
  cases e with
  | dial l =>
    simp only [Mesh.step]
    split
    · exact h
    · rename_i hl
      exact h.dial hl
  | message l bytes =>
    simp only [Mesh.step]
    split
    · rename_i registered heard notice hl hnotice
      obtain ⟨peer, present⟩ := notice
      cases present with
      | true => exact h.peerPresent hl peer
      | false =>
        have hremoval : w.removal (.message l bytes) = some (l, peer) := by
          simp [removal, hl, hnotice]
        refine h.remove hl ?_ (fun k hk => ?_) ?_ (fun l' => hok.not_present hremoval)
        · simp [Link.present, lastNotice_append]
        · simp [Link.present, Link.owes, lastNotice_append, Ne.symm hk]
        · intro registered' heard' hlink k hk
          simp only [Link.reading.injEq] at hlink
          rw [← hlink.2, lastNotice_append] at hk
          split_ifs at hk with hpeer
          · simp at hk
          · rw [← hlink.1, List.mem_filter]
            exact ⟨h.listed l registered heard hl k hk, by simpa using Ne.symm hpeer⟩
    · exact h
  | drop l =>
    simp only [Mesh.step]
    split
    · rename_i registered heard hl
      exact h.drop hl
    · exact h
  | cleanup l =>
    simp only [Mesh.step]
    split
    · rename_i peer rest hl
      have hremoval : w.removal (.cleanup l) = some (l, peer) := by simp [removal, hl]
      refine h.remove hl rfl (fun k hk => ?_) (fun registered heard hlink => by cases hlink)
        (fun l' => hok.not_present hremoval)
      simp [Link.present, Link.owes, hk]
    · rename_i hl
      exact h.close hl
    · exact h

theorem step_removal {w : Mesh} {e : MeshEvent} {l : Nat} {peer : NodeKey}
    (h : w.removal e = some (l, peer)) :
    ∃ link, w.step e = ⟨w.server.removePacketForwarder peer, w.links.insert l link⟩ := by
  cases e with
  | message l' bytes =>
    simp only [removal] at h
    split at h
    · rename_i registered heard gone hl hnotice
      simp only [Option.some.injEq, Prod.mk.injEq] at h
      obtain ⟨rfl, rfl⟩ := h
      refine ⟨.reading (registered.filter (· ≠ gone)) (heard ++ [(gone, false)]), ?_⟩
      simp only [step, hl, hnotice, notified]
    · simp at h
  | cleanup l' =>
    simp only [removal] at h
    split at h
    · rename_i gone rest hl
      simp only [Option.some.injEq, Prod.mk.injEq] at h
      obtain ⟨rfl, rfl⟩ := h
      exact ⟨.cleaning rest, by simp only [step, hl]⟩
    · simp at h
  | dial l' => simp [removal] at h
  | drop l' => simp [removal] at h

/-- Removing the entry of a key that another live link has present leaves that key without
a forwarder. -/
theorem removesUnshared_of_followsLinks {w : Mesh} {e : MeshEvent}
    (h : (w.step e).FollowsLinks) : w.RemovesUnshared e := by
  rintro ⟨l, peer⟩ hremoval ⟨l', link⟩ hmem hne
  by_contra hp
  have hpresent : w.Present l' peer :=
    ⟨link, AList.mem_lookup_iff.mpr hmem, by simpa using hp⟩
  obtain ⟨after, hstep⟩ := step_removal hremoval
  rw [hstep] at h
  have hstill : Present ⟨w.server.removePacketForwarder peer, w.links.insert l after⟩ l' peer := by
    rw [present_insert, if_neg hne]
    exact hpresent
  obtain ⟨m, hentry, -⟩ := (h peer).1 ⟨l', hstill⟩
  rw [forwarderOf_remove, if_pos rfl] at hentry
  simp at hentry

/-- Over every interleaving of notifications, drops and cleanups: the forwarders follow the
live links in every state reached exactly when no link ever removes an entry of a key that
another live link has present; and then, whenever no cleanup is under way, they follow
the live links exactly. -/
theorem forwarders_follow_links (serverKey : NodeKey) (events : List MeshEvent) :
    (Along step RemovesUnshared (new serverKey) events ↔
        ∀ before, before <+: events → (before.foldl step (new serverKey)).FollowsLinks) ∧
      (Along step RemovesUnshared (new serverKey) events →
        ∀ before, before <+: events →
          (∀ l link, (before.foldl step (new serverKey)).links.lookup l = some link →
            link.isCleaning = false) →
          (before.foldl step (new serverKey)).FollowsLiveLinks) := by
  have hfollows : Along step RemovesUnshared (new serverKey) events →
      ∀ before, before <+: events → (before.foldl step (new serverKey)).FollowsLinks := by
    rintro hrun before ⟨after, rfl⟩
    have hbefore := ((along_append _ before after).mp hrun).1
    exact (hbefore.invariant (fun w e h hok => h.step hok) (inv_new serverKey)).followsLinks
  refine ⟨⟨hfollows, fun h => ?_⟩, fun hrun before hbefore hclean => ?_⟩
  · rw [along_iff]
    intro before e after hsplit
    apply removesUnshared_of_followsLinks
    have := h (before ++ [e]) ⟨after, by rw [hsplit]; simp⟩
    rwa [List.foldl_append] at this
  · exact (hfollows hrun before hbefore).live hclean

/-- Link 0 comes up with a peer and goes down again. -/
theorem forwarders_follow_links_dropped :
    (([.dial 0, .message 0 (Frame.peerPresent (.filled 2)).toBytes, .drop 0, .cleanup 0,
      .cleanup 0] : List MeshEvent).foldl step (new (.filled 1))).FollowsLiveLinks := by
  refine (forwarders_follow_links (.filled 1) _).2 (by decide) _ List.prefix_rfl ?_
  intro l link hl
  have hall : ∀ entry ∈ (([.dial 0, .message 0 (Frame.peerPresent (.filled 2)).toBytes, .drop 0,
      .cleanup 0, .cleanup 0] : List MeshEvent).foldl step (new (.filled 1))).links.entries,
      entry.2.isCleaning = false := by decide
  exact hall ⟨l, link⟩ (AList.mem_lookup_iff.mp hl)

/-- A node that moves from the server of link 0 to the server of link 1, whose notification
comes first. -/
def movingNode (key : NodeKey) : List MeshEvent :=
  [.dial 0, .dial 1, .message 0 (Frame.peerPresent key).toBytes,
    .message 1 (Frame.peerPresent key).toBytes, .message 0 (Frame.peerGone key).toBytes]

theorem forwarders_lose_moving_node :
    ¬ ∀ (serverKey : NodeKey) (events : List MeshEvent),
      (∀ l link, (events.foldl step (new serverKey)).links.lookup l = some link →
        link.isCleaning = false) →
      (events.foldl step (new serverKey)).FollowsLiveLinks := by
  intro h
  have hclean : ∀ l link, ((movingNode (.filled 2)).foldl step (new (.filled 1))).links.lookup l =
      some link → link.isCleaning = false := by
    intro l link hl
    have hall : ∀ entry ∈ ((movingNode (.filled 2)).foldl step (new (.filled 1))).links.entries,
        entry.2.isCleaning = false := by decide
    exact hall ⟨l, link⟩ (AList.mem_lookup_iff.mp hl)
  obtain ⟨l, hentry, -⟩ := (h (.filled 1) (movingNode (.filled 2)) hclean (.filled 2)).1
    ⟨1, .reading [.filled 2] [(.filled 2, true)], by decide, by decide⟩
  have hnone : ((movingNode (.filled 2)).foldl step (new (.filled 1))).forwarderOf (.filled 2) =
      none := by decide
  rw [hnone] at hentry
  simp at hentry

end Mesh

end Coderd.Derp
