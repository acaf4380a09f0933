import Coderd.Derp.Server
import Coderd.Foundation.SetMap
import Coderd.Foundation.Transition
import Mathlib.Data.List.Induction

namespace Coderd.Derp
open Coderd.Foundation

/-! ## What a watcher makes of its frames -/

def see (seen : HashSet NodeKey) (frame : Frame) : HashSet NodeKey :=
  match frame.frameType with
  | .peerPresent =>
    match parsePeerKey .peerPresent frame.payload with
    | .ok key => seen.insert key
    | .error _ => seen
  | .peerGone =>
    match parsePeerKey .peerGone frame.payload with
    | .ok key => seen.remove key
    | .error _ => seen
  | _ => seen

/-- The peers present after replaying the notifications in order. -/
def replay (frames : List Frame) : HashSet NodeKey := frames.foldl see ∅

/-- The notification that a key is or is not there. -/
def notification (key : NodeKey) : Bool → Frame
  | true => .peerPresent key
  | false => .peerGone key

theorem mem_see_notification (seen : HashSet NodeKey) (key k : NodeKey) (present : Bool) :
    k ∈ see seen (notification key present) ↔ if k = key then present = true else k ∈ seen := by
  cases present with
  | true =>
    have h : see seen (.peerPresent key) = seen.insert key := by
      simp [see, Frame.peerPresent, parsePeerKey_bytes]
    show k ∈ see seen (.peerPresent key) ↔ _
    rw [h, HashSet.mem_insert]
    split_ifs with heq <;> simp [heq]
  | false =>
    have h : see seen (.peerGone key) = seen.remove key := by
      simp [see, Frame.peerGone, parsePeerKey_bytes]
    show k ∈ see seen (.peerGone key) ↔ _
    rw [h, HashSet.mem_remove]
    split_ifs with heq <;> simp [heq]

theorem replay_append (frames more : List Frame) :
    replay (frames ++ more) = more.foldl see (replay frames) := List.foldl_append

/-- Copies of one notification say what a single one says. -/
theorem mem_replay_copies (frames : List Frame) (key k : NodeKey) (present : Bool) (n : Nat) :
    k ∈ replay (frames ++ List.replicate n (notification key present)) ↔
      if k = key ∧ 0 < n then present = true else k ∈ replay frames := by
  induction n with
  | zero => simp
  | succ n ih =>
    rw [List.replicate_succ', ← List.append_assoc, replay_append, List.foldl_cons, List.foldl_nil,
      mem_see_notification, ih]
    by_cases hk : k = key
    · simp [hk]
    · simp [hk]

theorem mem_replay_peerPresent (keys : List NodeKey) (k : NodeKey) :
    k ∈ replay (keys.map Frame.peerPresent) ↔ k ∈ keys := by
  induction keys using List.reverseRecOn with
  | nil => simp [replay]
  | append_singleton keys key ih =>
    rw [List.map_append, replay_append]
    show k ∈ see (replay (keys.map Frame.peerPresent)) (notification key true) ↔ _
    rw [mem_see_notification, ih, List.mem_append, List.mem_singleton]
    split_ifs with heq <;> simp [heq]

/-! ## Methods cut at their locks -/

inductive Call where
  | accept (key : NodeKey)
  | remove (key : NodeKey)
  | watch (key : NodeKey)
  deriving DecidableEq

/-- A method between two of its locks. -/
inductive Op where
  /-- `accept_client`, about to notify. -/
  | announcing (key : NodeKey)
  /-- `remove_client`, about to take the key out of the watchers. -/
  | unwatching (key : NodeKey)
  /-- `remove_client`, about to notify. -/
  | departing (key : NodeKey)
  /-- `watch_conns`, with its snapshot taken. -/
  | registering (key : NodeKey) (sender : Nat)
  deriving DecidableEq

namespace Op

/-- The key whose registration the method has changed without having notified yet. -/
def subject : Op → Option NodeKey
  | announcing key | unwatching key | departing key => some key
  | registering _ _ => none

/-- The notification that is the method's next step. -/
def notice : Op → Option (NodeKey × Bool)
  | announcing key => some (key, true)
  | departing key => some (key, false)
  | unwatching _ | registering _ _ => none

/-- The watcher channel that has its snapshot and is not registered. -/
def snapshotOf : Op → Option Nat
  | registering _ sender => some sender
  | announcing _ | unwatching _ | departing _ => none

end Op

/-- A server and the calls in progress on it, by number. -/
structure Calls where
  relay : Relay
  ops : HashMap Nat Op

inductive Action where
  | call (t : Nat) (c : Call)
  | resume (t : Nat)
  /-- A watcher takes a frame off its channel. -/
  | take (sender : Nat)
  deriving DecidableEq

namespace Calls

def new (serverKey : NodeKey) : Calls := ⟨.new serverKey, ∅⟩

/-- The first lock of a method and where it leaves the caller. -/
def enter (r : Relay) : Call → Op × Relay
  | .accept key => (.announcing key, (r.insertClient key).2)
  | .remove key => (.unwatching key, r.dropClient key)
  | .watch key => (.registering key r.snapshot.1, r.snapshot.2)

/-- The next lock of a method; `none` when the method returns. -/
def proceed (r : Relay) : Op → Option Op × Relay
  | .announcing key => (none, r.notifyWatchers (.peerPresent key))
  | .unwatching key => (some (.departing key), r.dropWatcher key)
  | .departing key => (none, r.notifyWatchers (.peerGone key))
  | .registering key sender => (none, r.registerWatcher key sender)

def setOp (ops : HashMap Nat Op) (t : Nat) : Option Op → HashMap Nat Op
  | some op => ops.insert t op
  | none => ops.erase t

def step (w : Calls) : Action → Calls
  | .call t c =>
    match w.ops.lookup t with
    | some _ => w
    | none => ⟨(enter w.relay c).2, w.ops.insert t (enter w.relay c).1⟩
  | .resume t =>
    match w.ops.lookup t with
    | some op => ⟨(proceed w.relay op).2, setOp w.ops t (proceed w.relay op).1⟩
    | none => w
  | .take sender =>
    { w with relay := { w.relay with channels := w.relay.channels.take (.watcher sender) } }

/-- The frames a watcher channel has accepted. -/
def heard (w : Calls) (n : Nat) : List Frame := (w.relay.channels (.watcher n)).sent

/-- The notification that `action` sends. -/
def noticeOf (w : Calls) : Action → Option (Nat × NodeKey × Bool)
  | .resume t => ((w.ops.lookup t).bind Op.notice).map fun notice => (t, notice)
  | .call _ _ | .take _ => none

/-- When the last method under way on a key notifies, what it says is what the client map
says, and a watcher between its snapshot and its registration does not need to hear it. -/
def NoticeInTime (w : Calls) (action : Action) : Prop :=
  ∀ notice ∈ w.noticeOf action,
    (∀ e ∈ w.ops.entries, e.1 ≠ notice.1 → e.2.subject ≠ some notice.2.1) →
      w.relay.server.hasClient notice.2.1 = notice.2.2 ∧
        ∀ e ∈ w.ops.entries, ∀ n ∈ e.2.snapshotOf,
          (notice.2.1 ∈ replay (w.heard n) ↔ w.relay.server.hasClient notice.2.1 = true)

instance (w : Calls) (action : Action) : Decidable (w.NoticeInTime action) :=
  inferInstanceAs (Decidable (∀ notice ∈ w.noticeOf action, _ → _ ∧ _))

/-! ## The invariant -/

/-- A registration change of the key is not notified yet. -/
def Changing (w : Calls) (k : NodeKey) : Prop :=
  ∃ t op, w.ops.lookup t = some op ∧ op.subject = some k

/-- The watcher channel is registered, or has its snapshot. -/
def Tracked (w : Calls) (n : Nat) : Prop :=
  (∃ key, w.relay.server.watchers.lookup key = some ⟨n⟩) ∨
    ∃ t op, w.ops.lookup t = some op ∧ op.snapshotOf = some n

/-- What the channel has heard about the key is what the client map says. -/
def Informed (w : Calls) (n : Nat) (k : NodeKey) : Prop :=
  k ∈ replay (w.heard n) ↔ w.relay.server.hasClient k = true

structure Inv (w : Calls) : Prop where
  made : ∀ n, w.Tracked n → n < w.relay.nextChannel
  informed : ∀ n, w.Tracked n → (w.relay.channels (.watcher n)).refused = [] →
    ∀ k, w.Changing k ∨ w.Informed n k

theorem inv_new (serverKey : NodeKey) : Inv (new serverKey) := by
  have hnone : ∀ n, ¬ (new serverKey).Tracked n := by
    rintro n (⟨key, h⟩ | ⟨t, op, h, -⟩)
    · simp [new, Relay.new, DerpServer.new] at h
    · simp [new] at h
  exact ⟨fun n h => absurd h (hnone n), fun n h => absurd h (hnone n)⟩

/-- A step that tells the watchers nothing keeps the invariant when it leaves the clients
alone but for keys that are being changed. -/
theorem Inv.quiet {w w' : Calls} (h : Inv w)
    (hnext : w.relay.nextChannel ≤ w'.relay.nextChannel)
    (htracked : ∀ n, w'.Tracked n → w.Tracked n)
    (hheard : ∀ n, w'.heard n = w.heard n)
    (hrefused : ∀ n, (w'.relay.channels (.watcher n)).refused = [] →
      (w.relay.channels (.watcher n)).refused = [])
    (hchanging : ∀ k, w.Changing k → w'.Changing k)
    (hclients : ∀ k, w'.Changing k ∨
      w'.relay.server.hasClient k = w.relay.server.hasClient k) : Inv w' := by
  constructor
  · intro n hn
    exact Nat.lt_of_lt_of_le (h.made n (htracked n hn)) hnext
  · intro n hn hrefs k
    rcases h.informed n (htracked n hn) (hrefused n hrefs) k with hk | hk
    · exact Or.inl (hchanging k hk)
    · rcases hclients k with hc | hc
      · exact Or.inl hc
      · right
        rw [Informed, hheard, hc]
        exact hk

theorem changing_insert {ops : HashMap Nat Op} {t : Nat} (ht : ops.lookup t = none) {k : NodeKey}
    {op : Op} {r r' : Relay} (h : Changing ⟨r, ops⟩ k) : Changing ⟨r', ops.insert t op⟩ k := by
  obtain ⟨u, held, hu, hk⟩ := h
  refine ⟨u, held, ?_, hk⟩
  rw [HashMap.lookup_insert_ite, if_neg]
  · exact hu
  · rintro rfl
    rw [ht] at hu
    simp at hu

theorem tracked_insert {w : Calls} {t : Nat} {op : Op} {r : Relay} {n : Nat}
    (h : Tracked ⟨r, w.ops.insert t op⟩ n) :
    (∃ key, r.server.watchers.lookup key = some ⟨n⟩) ∨ op.snapshotOf = some n ∨
      ∃ u held, w.ops.lookup u = some held ∧ held.snapshotOf = some n := by
  rcases h with hreg | ⟨u, held, hu, hn⟩
  · exact Or.inl hreg
  · rw [HashMap.lookup_insert_ite] at hu
    split_ifs at hu with heq
    · cases hu
      exact Or.inr (Or.inl hn)
    · exact Or.inr (Or.inr ⟨u, held, hu, hn⟩)

theorem tracked_erase {w : Calls} {t : Nat} {r : Relay} {n : Nat}
    (h : Tracked ⟨r, w.ops.erase t⟩ n) :
    (∃ key, r.server.watchers.lookup key = some ⟨n⟩) ∨
      ∃ u held, w.ops.lookup u = some held ∧ held.snapshotOf = some n := by
  rcases h with hreg | ⟨u, held, hu, hn⟩
  · exact Or.inl hreg
  · rw [HashMap.lookup_erase_ite] at hu
    split_ifs at hu
    exact Or.inr ⟨u, held, hu, hn⟩

/-- A call that starts by changing the registration of its key. -/
theorem Inv.enterChange {w : Calls} (h : Inv w) {t : Nat} (ht : w.ops.lookup t = none)
    {op : Op} {key : NodeKey} (hop : op.subject = some key) (hsnap : op.snapshotOf = none)
    {r : Relay} (hnext : w.relay.nextChannel ≤ r.nextChannel)
    (hwatchers : r.server.watchers = w.relay.server.watchers)
    (hchannels : ∀ n, r.channels (.watcher n) = w.relay.channels (.watcher n))
    (hclients : ∀ k, k ≠ key → r.server.hasClient k = w.relay.server.hasClient k) :
    Inv ⟨r, w.ops.insert t op⟩ := by
  refine h.quiet hnext (fun n hn => ?_) (fun n => ?_) (fun n hn => ?_)
    (fun k => changing_insert ht) (fun k => ?_)
  · rcases tracked_insert hn with hreg | hop' | hold
    · exact Or.inl (hwatchers ▸ hreg)
    · rw [hsnap] at hop'
      cases hop'
    · exact Or.inr hold
  · simp only [heard, hchannels]
  · rw [← hchannels n]
    exact hn
  · by_cases hk : k = key
    · left
      subst hk
      exact ⟨t, op, AList.lookup_insert _, hop⟩
    · exact Or.inr (hclients k hk)

theorem Inv.enterWatch {w : Calls} (h : Inv w) {t : Nat} (ht : w.ops.lookup t = none)
    (key : NodeKey) :
    Inv ⟨w.relay.snapshot.2, w.ops.insert t (.registering key w.relay.snapshot.1)⟩ := by
  have hold : ∀ n, n ≠ w.relay.nextChannel →
      w.relay.snapshot.2.channels (.watcher n) = w.relay.channels (.watcher n) := by
    intro n hn
    simp only [Relay.snapshot]
    rw [Channels.sendList_other _ (by simpa using hn), Channels.create_other _ (by simpa using hn)]
  have htracked : ∀ n,
      Tracked ⟨w.relay.snapshot.2, w.ops.insert t (.registering key w.relay.snapshot.1)⟩ n →
        n = w.relay.nextChannel ∨ w.Tracked n := by
    intro n hn
    rcases tracked_insert hn with hreg | hop | hold
    · exact Or.inr (Or.inl hreg)
    · left
      simpa [Op.snapshotOf, Relay.snapshot] using hop.symm
    · exact Or.inr (Or.inr hold)
  constructor
  · intro n hn
    have hnext : w.relay.snapshot.2.nextChannel = w.relay.nextChannel + 1 := rfl
    show n < w.relay.snapshot.2.nextChannel
    rw [hnext]
    rcases htracked n hn with rfl | hn
    · omega
    · have := h.made n hn
      omega
  · intro n hn hrefs k
    by_cases hfresh : n = w.relay.nextChannel
    · -- the new channel starts with exactly the clients of this moment
      right
      subst hfresh
      have hsent := (Channels.sendList_of_not_refused hrefs).2
      rw [Channels.create_self] at hsent
      show k ∈ replay (w.relay.snapshot.2.channels (.watcher w.relay.nextChannel)).sent ↔ _
      have hkeys : (w.relay.snapshot.2.channels (.watcher w.relay.nextChannel)).sent =
          w.relay.server.clients.keys.map Frame.peerPresent := hsent
      rw [hkeys, mem_replay_peerPresent]
      show k ∈ w.relay.server.clients.keys ↔ (w.relay.server.clients.lookup k).isSome = true
      rw [AList.lookup_isSome]
      rfl
    · have hn' := (htracked n hn).resolve_left hfresh
      simp only [hold n hfresh] at hrefs
      rcases h.informed n hn' hrefs k with hk | hk
      · exact Or.inl (changing_insert ht hk)
      · right
        simp only [Informed, heard, hold n hfresh]
        exact hk

theorem changing_erase {w : Calls} {t : Nat} {op : Op} (hop : w.ops.lookup t = some op)
    {k : NodeKey} (hk : op.subject ≠ some k) (h : w.Changing k) {r : Relay} :
    Changing ⟨r, w.ops.erase t⟩ k := by
  obtain ⟨u, held, hu, hsubject⟩ := h
  refine ⟨u, held, ?_, hsubject⟩
  rw [HashMap.lookup_erase_ite, if_neg]
  · exact hu
  · rintro rfl
    rw [hop, Option.some.injEq] at hu
    exact hk (hu ▸ hsubject)

theorem Inv.notify {w : Calls} (h : Inv w) {t : Nat} {op : Op} (hop : w.ops.lookup t = some op)
    {key : NodeKey} {present : Bool} (hnotice : op.notice = some (key, present))
    (hok : w.NoticeInTime (.resume t)) :
    Inv ⟨w.relay.notifyWatchers (notification key present), w.ops.erase t⟩ := by
  have hsubject : op.subject = some key := by
    cases op <;> simp_all [Op.notice, Op.subject]
  constructor
  · intro n hn
    exact h.made n (tracked_erase hn)
  · intro n hn hrefs k
    have htracked : w.Tracked n := tracked_erase hn
    obtain ⟨hbefore, hsent⟩ := Channels.sendAll_of_not_refused hrefs
    have hheard : heard ⟨w.relay.notifyWatchers (notification key present), w.ops.erase t⟩ n =
        w.heard n ++ List.replicate _ (notification key present) := hsent
    by_cases hk : k = key
    · subst hk
      by_cases hother : ∀ e ∈ w.ops.entries, e.1 ≠ t → e.2.subject ≠ some k
      · -- the last method on the key: whoever hears it, and whoever cannot, agrees with the map
        right
        have hin : (t, (k, present)) ∈ w.noticeOf (.resume t) := by
          simp [noticeOf, hop, hnotice]
        obtain ⟨htrue, hsnap⟩ := hok _ hin hother
        rw [Informed, hheard, mem_replay_copies]
        split_ifs with hcopies
        · show present = true ↔ w.relay.server.hasClient k = true
          rw [show w.relay.server.hasClient k = present from htrue]
        · rcases htracked with ⟨watcher, hreg⟩ | ⟨u, held, hu, hsnapshot⟩
          · exfalso
            apply hcopies
            refine ⟨rfl, List.count_pos_iff.mpr (List.mem_map.mpr ⟨⟨n⟩, ?_, rfl⟩)⟩
            exact HashMap.mem_values_of_lookup hreg
          · exact hsnap ⟨u, held⟩ (AList.mem_lookup_iff.mp hu) n hsnapshot
      · left
        push Not at hother
        obtain ⟨⟨u, held⟩, hmem, hne, hheld⟩ := hother
        refine ⟨u, held, ?_, hheld⟩
        rw [HashMap.lookup_erase_ite, if_neg hne]
        exact AList.mem_lookup_iff.mpr hmem
    · rcases h.informed n htracked hbefore k with hc | hc
      · refine Or.inl (changing_erase hop ?_ hc)
        rw [hsubject]
        simpa using Ne.symm hk
      · right
        rw [Informed, hheard, mem_replay_copies, if_neg (fun hand => hk hand.1)]
        exact hc

theorem Inv.unwatch {w : Calls} (h : Inv w) {t : Nat} {key : NodeKey}
    (hop : w.ops.lookup t = some (.unwatching key)) :
    Inv ⟨w.relay.dropWatcher key, w.ops.insert t (.departing key)⟩ := by
  refine h.quiet le_rfl (fun n hn => ?_) (fun n => rfl) (fun n hn => hn) (fun k hk => ?_)
    (fun k => Or.inr rfl)
  · rcases tracked_insert hn with ⟨watcher, hreg⟩ | hsnap | hold
    · simp only [Relay.dropWatcher] at hreg
      rw [HashMap.lookup_erase_ite] at hreg
      split_ifs at hreg
      exact Or.inl ⟨watcher, hreg⟩
    · cases hsnap
    · exact Or.inr hold
  · -- the method itself still has the key to notify
    obtain ⟨u, held, hu, hsubject⟩ := hk
    by_cases heq : u = t
    · subst heq
      rw [hop, Option.some.injEq] at hu
      subst hu
      exact ⟨u, .departing key, AList.lookup_insert _, hsubject⟩
    · refine ⟨u, held, ?_, hsubject⟩
      rw [HashMap.lookup_insert_ite, if_neg heq]
      exact hu

/-- A watcher channel that is registered had its snapshot before. -/
theorem Inv.register {w : Calls} (h : Inv w) {t : Nat} {key : NodeKey} {sender : Nat}
    (hop : w.ops.lookup t = some (.registering key sender)) :
    Inv ⟨w.relay.registerWatcher key sender, w.ops.erase t⟩ := by
  refine h.quiet le_rfl (fun n hn => ?_) (fun n => rfl) (fun n hn => hn) (fun k hk => ?_)
    (fun k => Or.inr rfl)
  · rcases tracked_erase hn with ⟨watcher, hreg⟩ | hold
    · simp only [Relay.registerWatcher] at hreg
      rw [HashMap.lookup_insert_ite] at hreg
      split_ifs at hreg with heq
      · simp only [Option.some.injEq, ConnWatcher.mk.injEq] at hreg
        exact Or.inr ⟨t, _, hop, by simp [Op.snapshotOf, hreg]⟩
      · exact Or.inl ⟨watcher, hreg⟩
    · exact Or.inr hold
  · exact changing_erase hop (by simp [Op.subject]) hk

theorem Inv.take {w : Calls} (h : Inv w) (sender : Nat) : Inv (w.step (.take sender)) := by
  have hchannel : ∀ n, ((w.relay.channels.take (.watcher sender)) (.watcher n)).sent =
        (w.relay.channels (.watcher n)).sent ∧
      ((w.relay.channels.take (.watcher sender)) (.watcher n)).refused =
        (w.relay.channels (.watcher n)).refused := by
    intro n
    rw [Channels.take]
    by_cases hn : n = sender
    · subst hn
      simp
    · rw [Function.update_of_ne (by simpa using hn)]
      exact ⟨rfl, rfl⟩
  exact h.quiet le_rfl (fun n hn => hn) (fun n => (hchannel n).1)
    (fun n hn => (hchannel n).2 ▸ hn) (fun k hk => hk) (fun k => Or.inr rfl)

theorem Inv.step {w : Calls} (h : Inv w) {action : Action} (hok : w.NoticeInTime action) :
    Inv (w.step action) := by
  cases action with
  | call t c =>
    simp only [Calls.step]
    split
    · exact h
    · rename_i ht
      cases c with
      | accept key =>
        refine h.enterChange ht rfl rfl (Nat.le_succ _) rfl (fun n => ?_) (fun k hk => ?_)
        · have hne : ChannelId.watcher n ≠ .client w.relay.nextChannel := by simp
          exact Channels.create_other clientChannelCapacity hne
        · simp only [enter, Relay.insertClient, DerpServer.hasClient]
          rw [HashMap.lookup_insert_ite, if_neg hk]
      | remove key =>
        refine h.enterChange ht rfl rfl le_rfl rfl (fun n => rfl) (fun k hk => ?_)
        simp only [enter, Relay.dropClient, DerpServer.hasClient]
        rw [HashMap.lookup_erase_ite, if_neg hk]
      | watch key => exact h.enterWatch ht key
  | resume t =>
    cases hop : w.ops.lookup t with
    | none => simpa only [Calls.step, hop] using h
    | some op =>
      simp only [Calls.step, hop]
      cases op with
      | announcing key => exact h.notify hop rfl hok
      | departing key => exact h.notify hop rfl hok
      | unwatching key => exact h.unwatch hop
      | registering key sender => exact h.register hop
  | take sender => exact h.take sender

/-- In every interleaving whose notifications are in time, once no call is in progress: a
registered watcher whose channel never refused a frame, replaying what it was sent, has
exactly the connected clients. -/
theorem watcher_view_complete (serverKey : NodeKey) (actions : List Action)
    (hok : Along step NoticeInTime (new serverKey) actions)
    (hidle : (actions.foldl step (new serverKey)).ops = ∅) (watcherKey : NodeKey) (n : Nat)
    (hreg : (actions.foldl step (new serverKey)).relay.server.watchers.lookup watcherKey = some ⟨n⟩)
    (hfits : ((actions.foldl step (new serverKey)).relay.channels (.watcher n)).refused = [])
    (k : NodeKey) :
    k ∈ replay ((actions.foldl step (new serverKey)).heard n) ↔
      (actions.foldl step (new serverKey)).relay.server.hasClient k = true := by
  have hinv : Inv (actions.foldl step (new serverKey)) :=
    hok.invariant (fun w action h hin => h.step hin) (inv_new serverKey)
  rcases hinv.informed n (Or.inl ⟨watcherKey, hreg⟩) hfits k with ⟨t, op, hop, -⟩ | hk
  · rw [hidle] at hop
    simp at hop
  · exact hk

/-- A client connects while a watcher registers, and the notification comes after. -/
def watchedConnect : List Action :=
  [.call 0 (.watch (.filled 3)), .call 1 (.accept (.filled 2)), .resume 0, .resume 1]

theorem watcher_view_complete_watchedConnect :
    .filled 2 ∈ replay ((watchedConnect.foldl step (new (.filled 1))).heard 0) :=
  (watcher_view_complete (.filled 1) watchedConnect (by decide) rfl (.filled 3) 0
    (by decide) (by decide) (.filled 2)).mpr (by decide)

/-- The client connects and the watchers are notified between the snapshot and the
registration: the new watcher never hears of it. -/
theorem watcher_view_misses_client :
    ¬ ∀ (serverKey : NodeKey) (actions : List Action),
      (actions.foldl step (new serverKey)).ops = ∅ →
      ∀ (watcherKey : NodeKey) (n : Nat),
        (actions.foldl step (new serverKey)).relay.server.watchers.lookup watcherKey = some ⟨n⟩ →
        ((actions.foldl step (new serverKey)).relay.channels (.watcher n)).refused = [] →
        ∀ k, k ∈ replay ((actions.foldl step (new serverKey)).heard n) ↔
          (actions.foldl step (new serverKey)).relay.server.hasClient k = true := by
  intro h
  have hview := h (.filled 1)
    [.call 0 (.watch (.filled 3)), .call 1 (.accept (.filled 2)), .resume 1, .resume 0]
    rfl (.filled 3) 0 (by decide) (by decide) (.filled 2)
  exact absurd hview (by decide)

end Calls

end Coderd.Derp
