import Coderd.Pty.Store

namespace Coderd.Pty

open Coderd.Foundation

/-! ## How far a task has come -/

/-- An agent's attachment that has its session, has cleared the grace window, is among the
writers, or was the last of them and has not started the grace window yet. -/
inductive Stage where
  | looking
  | joining
  | counted
  | closing
  deriving DecidableEq

def Attach.stage (a : Attach) : Option (Stage × Nat) :=
  match a.side, a.phase with
  | .agent, .clock arc | .agent, .checkGrace arc _ | .agent, .clearGrace arc =>
    some (.looking, arc)
  | .agent, .join arc => some (.joining, arc)
  | .agent, .touchClock arc | .agent, .touch arc _ | .agent, .attached arc | .agent, .leave arc =>
    some (.counted, arc)
  | .agent, .leftClock arc 0 | .agent, .left arc 0 _ | .agent, .graceClock arc
  | .agent, .setGrace arc _ => some (.closing, arc)
  | _, _ => none

namespace Task

def stage : Task → Option (Stage × Uuid × Nat)
  | attach a => a.stage.map fun e => (e.1, a.reconnectId, e.2)
  | prune _ => none

/-- The ids that the task is about to remove from the map, or will if their sessions have been
idle for long enough. -/
def condemned : Task → List Uuid
  | attach a =>
    match a.phase with
    | .expire => [a.reconnectId]
    | _ => []
  | prune p =>
    match p with
    | .next scan | .readers scan _ _ | .writers scan _ _ _ => scan.toRemove
    | .lastActivity scan id _ readerCount writerCount =>
      if readerCount = 0 ∧ writerCount = 0 then id :: scan.toRemove else scan.toRemove
    | .remove toRemove => toRemove
    | .clock | .lock _ | .returned => []

/-- A pruner that has the map locked. -/
def isScanner : Task → Bool
  | attach _ => false
  | prune p =>
    match p with
    | .next _ | .readers _ _ _ | .writers _ _ _ _ | .lastActivity _ _ _ _ _ => true
    | .clock | .lock _ | .remove _ | .returned => false

/-- The sessions that it has still to look at, and the one it is looking at. -/
def todo : Task → List (Uuid × Nat)
  | attach _ => []
  | prune p =>
    match p with
    | .next scan => scan.todo
    | .readers scan id arc | .writers scan id arc _ | .lastActivity scan id arc _ _ =>
      (id, arc) :: scan.todo
    | .clock | .lock _ | .remove _ | .returned => []

def isWriter (arc : Nat) (t : Task) : Bool :=
  match t.stage with
  | some (.counted, _, arc') => arc' = arc
  | _ => false

/-- The drop of an agent's guard has work to do on the session. -/
def cleansUp (arc : Nat) : Task → Bool
  | attach a =>
    match a.side, a.phase with
    | .agent, .leave arc' | .agent, .leftClock arc' _ | .agent, .left arc' _ _
    | .agent, .graceClock arc' | .agent, .setGrace arc' _ => arc' = arc
    | _, _ => false
  | prune _ => false

/-! ## The steps that other tasks must not be in the way of -/

/-- `attach_agent` is about to get hold of a session of the id. -/
def obtains (store : Store) : Task → Option Uuid
  | attach a =>
    match a.side, a.phase with
    | .agent, .lookup =>
      match store.get a.reconnectId a.agentId with
      | some (.ok _) => some a.reconnectId
      | _ => none
    | .agent, .create =>
      match store.get a.reconnectId a.agentId with
      | some (.error _) => none
      | _ => some a.reconnectId
    | _, _ => none
  | prune _ => none

/-- The task is about to find the session under the id expired, or without readers and
writers. -/
def condemns (store : Store) (choice : Nat) : Task → Option (Uuid × Nat)
  | attach a =>
    match a.phase with
    | .checkGrace arc now =>
      (store.made[arc]?).bind fun session =>
        if session.expired now then some (a.reconnectId, arc) else none
    | _ => none
  | prune p =>
    match p with
    | .next scan =>
      (scan.todo[choice]?).bind fun e =>
        (store.made[e.2]?).bind fun session =>
          if session.expired scan.now then some e else none
    | .writers _ id arc readerCount =>
      (store.made[arc]?).bind fun session =>
        if readerCount = 0 ∧ session.writers = 0 then some (id, arc) else none
    | _ => none

/-- `attach_agent` is about to clear the grace window. -/
def clears : Task → Option Nat
  | attach a =>
    match a.side, a.phase with
    | .agent, .clearGrace arc => some arc
    | _, _ => none
  | prune _ => none

/-- The drop of the last guard among the writers is about to take it out of the count. -/
def empties (store : Store) : Task → Option Nat
  | attach a =>
    match a.side, a.phase with
    | .agent, .leave arc =>
      (store.made[arc]?).bind fun session => if session.writers ≤ 1 then some arc else none
    | _, _ => none
  | prune _ => none

end Task

/-- A step of the task `t` falls into no window of the other tasks:
* `attach_agent` gets its session while nobody is about to remove the id from the map;
* a session is found expired or without readers and writers while it is still the one in the
  map and no `attach_agent` of the id is between getting the session and joining its writers;
* `attach_agent` clears the grace window while no drop that has left no writers is about to
  start it;
* the last writer leaves while no `attach_agent` is between clearing the window and joining. -/
structure InTime (store : Store) (choice : Nat) (t : Task) (others : List Task) : Prop where
  obtains : ∀ r ∈ t.obtains store, ∀ u ∈ others, r ∉ u.condemned
  condemns : ∀ e ∈ t.condemns store choice,
    (∀ arc ∈ store.sessions.lookup e.1, arc = e.2) ∧
      ∀ u ∈ others, ∀ x ∈ u.stage, x.1 = .looking ∨ x.1 = .joining → x.2.1 ≠ e.1
  clears : ∀ arc ∈ t.clears, ∀ u ∈ others, ∀ x ∈ u.stage, x.1 = .closing → x.2.2 ≠ arc
  empties : ∀ arc ∈ t.empties store, ∀ u ∈ others, ∀ x ∈ u.stage, x.1 = .joining → x.2.2 ≠ arc

instance (store : Store) (choice : Nat) (t : Task) (others : List Task) :
    Decidable (InTime store choice t others) :=
  decidable_of_iff
    ((∀ r ∈ t.obtains store, ∀ u ∈ others, r ∉ u.condemned) ∧
      (∀ e ∈ t.condemns store choice,
        (∀ arc ∈ store.sessions.lookup e.1, arc = e.2) ∧
          ∀ u ∈ others, ∀ x ∈ u.stage, x.1 = .looking ∨ x.1 = .joining → x.2.1 ≠ e.1) ∧
      (∀ arc ∈ t.clears, ∀ u ∈ others, ∀ x ∈ u.stage, x.1 = .closing → x.2.2 ≠ arc) ∧
      ∀ arc ∈ t.empties store, ∀ u ∈ others, ∀ x ∈ u.stage, x.1 = .joining → x.2.2 ≠ arc)
    ⟨fun ⟨h₁, h₂, h₃, h₄⟩ => ⟨h₁, h₂, h₃, h₄⟩, fun ⟨h₁, h₂, h₃, h₄⟩ => ⟨h₁, h₂, h₃, h₄⟩⟩

def Timely (w : Pool Store Task) : Move Op Nat Nat → Prop
  | .run i choice => ∀ t ∈ w.tasks[i]?, InTime w.shared choice t (w.others i)
  | .spawn _ | .outside _ => True

instance (w : Pool Store Task) : (move : Move Op Nat Nat) → Decidable (Timely w move)
  | .run i choice =>
    inferInstanceAs (Decidable (∀ t ∈ w.tasks[i]?, InTime w.shared choice t (w.others i)))
  | .spawn _ | .outside _ => inferInstanceAs (Decidable True)

/-! ## What a step does -/

/-- The writers and the grace window of a session. -/
def Store.view (store : Store) (arc : Nat) : Option (Nat × Option Nat) :=
  (store.made[arc]?).map fun session => (session.writers, session.graceDeadline)

theorem view_modify (store : Store) (arc : Nat) {f : Session → Session}
    (g : Nat × Option Nat → Nat × Option Nat)
    (h : ∀ session, ((f session).writers, (f session).graceDeadline) =
      g (session.writers, session.graceDeadline)) (a : Nat) :
    (store.modify arc f).view a = (store.view a).map fun v => if a = arc then g v else v := by
  unfold Store.view Store.modify
  rw [List.getElem?_modify]
  cases store.made[a]? with
  | none => rfl
  | some session =>
    by_cases ha : arc = a
    · subst ha
      simp [h]
    · simp [ha, Ne.symm ha]

theorem view_modify_same (store : Store) (arc : Nat) {f : Session → Session}
    (h : ∀ session, ((f session).writers, (f session).graceDeadline) =
      (session.writers, session.graceDeadline)) (a : Nat) :
    (store.modify arc f).view a = store.view a := by
  rw [view_modify store arc id h]
  simp

theorem view_insert (store : Store) (reconnectId agentId : Uuid) (a : Nat) :
    (store.insert reconnectId agentId).view a =
      if a = store.made.length then some (0, none) else store.view a := by
  unfold Store.view Store.insert
  rw [List.getElem?_append]
  by_cases ha : a = store.made.length
  · simp [ha, Session.new]
  · by_cases hlt : a < store.made.length
    · simp [hlt, ha]
    · have hpos : a - store.made.length ≠ 0 := by omega
      simp [hlt, ha, hpos]

theorem lookup_remove (store : Store) (ids : List Uuid) (r : Uuid) :
    (store.remove ids).sessions.lookup r = if r ∈ ids then none else store.sessions.lookup r := by
  unfold Store.remove
  induction ids generalizing store with
  | nil => simp
  | cons id ids ih =>
    have hnext := ih { store with sessions := store.sessions.erase id }
    dsimp only at hnext ⊢
    rw [List.foldl_cons, hnext, HashMap.lookup_erase_ite]
    by_cases hr : r = id
    · simp [hr]
    · simp [hr]

theorem get_ok {store : Store} {reconnectId agentId : Uuid} {arc : Nat}
    (h : store.get reconnectId agentId = some (.ok arc)) :
    store.sessions.lookup reconnectId = some arc := by
  obtain ⟨found, hlookup, h⟩ := Option.bind_eq_some_iff.mp h
  obtain ⟨existing, -, h⟩ := Option.map_eq_some_iff.mp h
  split at h
  · cases h
  · cases h
    exact hlookup

/-- The step starts nothing that others have to wait for. -/
structure Unmoved (t t' : Task) : Prop where
  condemned : t'.condemned ⊆ t.condemned
  todo : t'.todo ⊆ t.todo
  isScanner : t'.isScanner = t.isScanner

/-- All that one step of a task can do. -/
inductive Effect (store : Store) (choice : Nat) (t : Task) : Store → Task → Prop where
  | quiet {store' : Store} {t' : Task} (hsessions : store'.sessions = store.sessions)
      (hscanners : store'.scanners = store.scanners) (hview : ∀ a, store'.view a = store.view a)
      (hstage : t'.stage = t.stage) (hunmoved : Unmoved t t') : Effect store choice t store' t'
  | obtain {r : Uuid} {arc : Nat} {t' : Task} (hobtains : t.obtains store = some r)
      (hlookup : store.sessions.lookup r = some arc) (hstage : t.stage = none)
      (hstage' : t'.stage = some (.looking, r, arc)) (hunmoved : Unmoved t t') :
    Effect store choice t store t'
  | insert {r agentId : Uuid} {t' : Task} (hlookup : store.get r agentId = none)
      (hscanners : store.scanners = 0) (hstage : t.stage = none)
      (hstage' : t'.stage = none ∨
        t'.stage = some (.looking, r, store.made.length) ∧ t.obtains store = some r)
      (hunmoved : Unmoved t t') : Effect store choice t (store.insert r agentId) t'
  | condemn {r : Uuid} {arc : Nat} {v : Nat × Option Nat} {t' : Task}
      (hcondemns : t.condemns store choice = some (r, arc)) (hview : store.view arc = some v)
      (hv : v.2 ≠ none ∨ v.1 = 0) (hstage : ∀ a, t.isWriter a = false) (hstage' : t'.stage = none)
      (hcondemned : t'.condemned ⊆ r :: t.condemned) (htodo : t'.todo ⊆ t.todo)
      (hscanner : t'.isScanner = t.isScanner) (hscanned : t.isScanner → (r, arc) ∈ t.todo) :
    Effect store choice t store t'
  | clear {store' : Store} {r : Uuid} {arc : Nat} {t' : Task}
      (hsessions : store'.sessions = store.sessions)
      (hscanners : store'.scanners = store.scanners)
      (hview : ∀ a, store'.view a = (store.view a).map fun v => if a = arc then (v.1, none) else v)
      (hclears : t.clears = some arc) (hstage : t.stage = some (.looking, r, arc))
      (hstage' : t'.stage = some (.joining, r, arc)) (hunmoved : Unmoved t t') :
    Effect store choice t store' t'
  | join {store' : Store} {r : Uuid} {arc : Nat} {t' : Task}
      (hsessions : store'.sessions = store.sessions)
      (hscanners : store'.scanners = store.scanners)
      (hview : ∀ a, store'.view a =
        (store.view a).map fun v => if a = arc then (v.1 + 1, v.2) else v)
      (hstage : t.stage = some (.joining, r, arc))
      (hstage' : t'.stage = some (.counted, r, arc)) (hunmoved : Unmoved t t') :
    Effect store choice t store' t'
  | leave {store' : Store} {r : Uuid} {arc : Nat} {v : Nat × Option Nat} {t' : Task}
      (hsessions : store'.sessions = store.sessions)
      (hscanners : store'.scanners = store.scanners)
      (hview : ∀ a, store'.view a =
        (store.view a).map fun v => if a = arc then (v.1 - 1, v.2) else v)
      (hv : store.view arc = some v) (hstage : t.stage = some (.counted, r, arc))
      (hstage' : t'.stage = none ∨ t'.stage = some (.closing, r, arc) ∧ v.1 ≤ 1 ∧
        t.empties store = some arc)
      (hunmoved : Unmoved t t') : Effect store choice t store' t'
  | setGrace {store' : Store} {r : Uuid} {arc deadline : Nat} {t' : Task}
      (hsessions : store'.sessions = store.sessions)
      (hscanners : store'.scanners = store.scanners)
      (hview : ∀ a, store'.view a =
        (store.view a).map fun v => if a = arc then (v.1, some deadline) else v)
      (hstage : t.stage = some (.closing, r, arc)) (hstage' : t'.stage = none)
      (hunmoved : Unmoved t t') : Effect store choice t store' t'
  | remove {ids : List Uuid} {t' : Task} (hscanners : store.scanners = 0)
      (hids : ids ⊆ t.condemned) (hstage : t.stage = none) (hstage' : t'.stage = none)
      (hunmoved : Unmoved t t') : Effect store choice t (store.remove ids) t'
  | lock {t' : Task} (hstage : t.stage = none) (hstage' : t'.stage = none)
      (hcondemned : t'.condemned = []) (hscanner : t.isScanner = false)
      (hscanner' : t'.isScanner = true)
      (htodo : ∀ e ∈ t'.todo, store.sessions.lookup e.1 = some e.2) :
    Effect store choice t { store with scanners := store.scanners + 1 } t'
  | unlock {t' : Task} (hstage : t.stage = none) (hstage' : t'.stage = none)
      (hcondemned : t'.condemned ⊆ t.condemned) (hscanner : t.isScanner = true)
      (hscanner' : t'.isScanner = false) (htodo : t'.todo = []) :
    Effect store choice t { store with scanners := store.scanners - 1 } t'

theorem view_of_made {store : Store} {arc : Nat} {session : Session}
    (h : store.made[arc]? = some session) :
    store.view arc = some (session.writers, session.graceDeadline) := by
  rw [Store.view, h]
  rfl

/-- A step of an attachment that changes neither writers nor grace windows. -/
theorem Effect.quietAttach {store store' : Store} {choice : Nat} {a a' : Attach}
    (hsessions : store'.sessions = store.sessions) (hscanners : store'.scanners = store.scanners)
    (hview : ∀ arc, store'.view arc = store.view arc)
    (hstage : (Task.attach a').stage = (Task.attach a).stage)
    (hcondemned : (Task.attach a').condemned = []) :
    Effect store choice (.attach a) store' (.attach a') :=
  .quiet hsessions hscanners hview hstage
    ⟨by rw [hcondemned]; exact List.nil_subset _, List.Subset.refl _, rfl⟩

theorem Unmoved.attach {a a' : Attach} (h : (Task.attach a').condemned = []) :
    Unmoved (.attach a) (.attach a') :=
  ⟨by rw [h]; exact List.nil_subset _, List.Subset.refl _, rfl⟩

theorem effect_attach {store store' : Store} {choice : Nat} {a a' : Attach}
    (h : a.advance store = some (store', a')) :
    Effect store choice (.attach a) store' (.attach a') := by
  obtain ⟨side, r, agentId, phase⟩ := a
  cases phase with
  | lookup =>
    simp only [Attach.advance] at h
    split at h
    · rename_i arc hget
      obtain ⟨rfl, rfl⟩ := by simpa using h
      cases side with
      | client => exact .quietAttach rfl rfl (fun _ => rfl) rfl rfl
      | agent =>
        exact .obtain (by simp [Task.obtains, hget]) (get_ok hget) rfl rfl (.attach rfl)
    · obtain ⟨rfl, rfl⟩ := by simpa using h
      cases side <;> exact .quietAttach rfl rfl (fun _ => rfl) rfl rfl
    · obtain ⟨rfl, rfl⟩ := by simpa using h
      cases side <;> exact .quietAttach rfl rfl (fun _ => rfl) rfl rfl
  | clock arc =>
    obtain ⟨rfl, rfl⟩ := by simpa [Attach.advance] using h
    cases side <;> exact .quietAttach rfl rfl (fun _ => rfl) rfl rfl
  | checkGrace arc now =>
    simp only [Attach.advance] at h
    obtain ⟨existing, hmade, h⟩ := Option.map_eq_some_iff.mp h
    by_cases hexpired : existing.expired now = true
    · rw [if_pos hexpired] at h
      obtain ⟨rfl, rfl⟩ := by simpa using h
      have hcondemns : Task.condemns store choice
          (.attach ⟨side, r, agentId, .checkGrace arc now⟩) = some (r, arc) := by
        simp [Task.condemns, hmade, hexpired]
      have hgrace : existing.graceDeadline ≠ none := by
        intro hnone
        simp [Session.expired, hnone] at hexpired
      refine .condemn hcondemns (view_of_made hmade) (.inl hgrace) (fun _ => ?_) ?_
        (List.cons_subset_cons _ (List.nil_subset _)) (List.Subset.refl _) rfl
        (by simp [Task.isScanner])
      · cases side <;> rfl
      · cases side <;> rfl
    · rw [if_neg hexpired] at h
      obtain ⟨rfl, rfl⟩ := by simpa using h
      cases side <;> exact .quietAttach rfl rfl (fun _ => rfl) rfl rfl
  | expire =>
    simp only [Attach.advance] at h
    split at h
    · rename_i hscanners
      obtain ⟨rfl, rfl⟩ := by simpa using h
      refine .remove hscanners (List.Subset.refl _) ?_ ?_ (.attach rfl)
      · cases side <;> rfl
      · cases side <;> rfl
    · cases h
  | create =>
    simp only [Attach.advance] at h
    split at h
    · rename_i hscanners
      split at h
      · rename_i arc hget
        obtain ⟨rfl, rfl⟩ := by simpa using h
        cases side with
        | client => exact .quietAttach rfl rfl (fun _ => rfl) rfl rfl
        | agent =>
          exact .obtain (by simp [Task.obtains, hget]) (get_ok hget) rfl rfl (.attach rfl)
      · obtain ⟨rfl, rfl⟩ := by simpa using h
        cases side <;> exact .quietAttach rfl rfl (fun _ => rfl) rfl rfl
      · rename_i hget
        obtain ⟨rfl, rfl⟩ := by simpa using h
        cases side with
        | client => exact .insert hget hscanners rfl (.inl rfl) (.attach rfl)
        | agent =>
          exact .insert hget hscanners rfl (.inr ⟨rfl, by simp [Task.obtains, hget]⟩) (.attach rfl)
    · cases h
  | clearGrace arc =>
    cases side with
    | client => cases h
    | agent =>
      obtain ⟨rfl, rfl⟩ := by simpa [Attach.advance] using h
      have hstage : Task.stage (.attach ⟨.agent, r, agentId, .clearGrace arc⟩) =
          some (.looking, r, arc) := rfl
      exact .clear rfl rfl (view_modify store arc (fun v => (v.1, none)) fun _ => rfl) rfl hstage
        rfl (.attach rfl)
  | join arc =>
    cases side with
    | client =>
      obtain ⟨rfl, rfl⟩ := by simpa [Attach.advance] using h
      exact .quietAttach rfl rfl (view_modify_same store arc fun _ => rfl) rfl rfl
    | agent =>
      obtain ⟨rfl, rfl⟩ := by simpa [Attach.advance] using h
      have hstage : Task.stage (.attach ⟨.agent, r, agentId, .join arc⟩) =
          some (.joining, r, arc) := rfl
      exact .join rfl rfl (view_modify store arc (fun v => (v.1 + 1, v.2)) fun _ => rfl) hstage
        rfl (.attach rfl)
  | touchClock arc =>
    obtain ⟨rfl, rfl⟩ := by simpa [Attach.advance] using h
    cases side <;> exact .quietAttach rfl rfl (fun _ => rfl) rfl rfl
  | touch arc now =>
    obtain ⟨rfl, rfl⟩ := by simpa [Attach.advance] using h
    cases side <;>
      exact .quietAttach rfl rfl (view_modify_same store arc fun _ => rfl) rfl rfl
  | attached arc =>
    obtain ⟨rfl, rfl⟩ := by simpa [Attach.advance] using h
    cases side <;> exact .quietAttach rfl rfl (fun _ => rfl) rfl rfl
  | leave arc =>
    cases side with
    | client =>
      obtain ⟨session, -, h⟩ := Option.map_eq_some_iff.mp h
      obtain ⟨rfl, rfl⟩ := by simpa using h
      exact .quietAttach rfl rfl (view_modify_same store arc fun _ => rfl) rfl rfl
    | agent =>
      obtain ⟨session, hmade, h⟩ := Option.map_eq_some_iff.mp h
      obtain ⟨rfl, rfl⟩ := by simpa using h
      have hstage : Task.stage (.attach ⟨.agent, r, agentId, .leave arc⟩) =
          some (.counted, r, arc) := rfl
      refine .leave rfl rfl (view_modify store arc (fun v => (v.1 - 1, v.2)) fun _ => rfl)
        (view_of_made hmade) hstage ?_ (.attach rfl)
      cases hremaining : session.writers - 1 with
      | zero =>
        have hlast : session.writers ≤ 1 := by omega
        exact .inr ⟨rfl, hlast, by simp [Task.empties, hmade, hlast]⟩
      | succ n => exact .inl rfl
  | leftClock arc remaining =>
    obtain ⟨rfl, rfl⟩ := by simpa [Attach.advance] using h
    cases side with
    | client => exact .quietAttach rfl rfl (fun _ => rfl) rfl rfl
    | agent => cases remaining <;> exact .quietAttach rfl rfl (fun _ => rfl) rfl rfl
  | left arc remaining now =>
    obtain ⟨rfl, rfl⟩ := by simpa [Attach.advance] using h
    have hview := view_modify_same store arc
      (f := fun session => { session with lastActivity := now }) fun _ => rfl
    cases side with
    | client => exact .quietAttach rfl rfl hview rfl rfl
    | agent => cases remaining <;> exact .quietAttach rfl rfl hview rfl rfl
  | graceClock arc =>
    obtain ⟨rfl, rfl⟩ := by simpa [Attach.advance] using h
    cases side <;> exact .quietAttach rfl rfl (fun _ => rfl) rfl rfl
  | setGrace arc now =>
    cases side with
    | client => cases h
    | agent =>
      obtain ⟨rfl, rfl⟩ := by simpa [Attach.advance] using h
      have hstage : Task.stage (.attach ⟨.agent, r, agentId, .setGrace arc now⟩) =
          some (.closing, r, arc) := rfl
      exact .setGrace rfl rfl (view_modify store arc (fun v => (v.1, some _)) fun _ => rfl) hstage
        rfl (.attach rfl)
  | returned result => cases h

/-- A step of a pruner that only looks. -/
theorem Effect.quietPrune {store : Store} {choice : Nat} {p p' : Prune}
    (hcondemned : (Task.prune p').condemned ⊆ (Task.prune p).condemned)
    (htodo : (Task.prune p').todo ⊆ (Task.prune p).todo)
    (hscanner : (Task.prune p').isScanner = (Task.prune p).isScanner) :
    Effect store choice (.prune p) store (.prune p') :=
  .quiet rfl rfl (fun _ => rfl) rfl ⟨hcondemned, htodo, hscanner⟩

theorem effect_prune {store store' : Store} {choice : Nat} {p p' : Prune}
    (h : p.advance store choice = some (store', p')) :
    Effect store choice (.prune p) store' (.prune p') := by
  cases p with
  | clock =>
    obtain ⟨rfl, rfl⟩ := by simpa [Prune.advance] using h
    exact .quietPrune (List.Subset.refl _) (List.Subset.refl _) rfl
  | lock now =>
    obtain ⟨rfl, rfl⟩ := by simpa [Prune.advance] using h
    refine .lock rfl rfl rfl rfl rfl ?_
    intro e he
    obtain ⟨entry, hentry, rfl⟩ := List.mem_map.mp he
    exact AList.mem_lookup_iff.mpr hentry
  | next scan =>
    simp only [Prune.advance] at h
    split at h
    · rename_i id arc htodo
      obtain ⟨session, hmade, h⟩ := Option.map_eq_some_iff.mp h
      have hmem : (id, arc) ∈ scan.todo := List.mem_of_getElem? htodo
      have hsub : scan.todo.eraseIdx choice ⊆ scan.todo := List.eraseIdx_subset
      by_cases hexpired : session.expired scan.now = true
      · rw [if_pos hexpired] at h
        obtain ⟨rfl, rfl⟩ := by simpa using h
        have hcondemns : Task.condemns store choice (.prune (.next scan)) = some (id, arc) := by
          simp [Task.condemns, htodo, hmade, hexpired]
        have hgrace : session.graceDeadline ≠ none := by
          intro hnone
          simp [Session.expired, hnone] at hexpired
        refine .condemn hcondemns (view_of_made hmade) (.inl hgrace) (fun _ => rfl) rfl ?_ hsub rfl
          fun _ => hmem
        simp [Task.condemned, Scan.collect]
      · rw [if_neg hexpired] at h
        obtain ⟨rfl, rfl⟩ := by simpa using h
        exact .quietPrune (List.Subset.refl _) (List.cons_subset.mpr ⟨hmem, hsub⟩) rfl
    · split at h
      · obtain ⟨rfl, rfl⟩ := by simpa using h
        by_cases hnone : scan.toRemove = []
        · rw [if_pos hnone]
          exact .unlock rfl rfl (List.nil_subset _) rfl rfl rfl
        · rw [if_neg hnone]
          exact .unlock rfl rfl (List.Subset.refl _) rfl rfl rfl
      · cases h
  | readers scan id arc =>
    obtain ⟨session, -, h⟩ := Option.map_eq_some_iff.mp h
    obtain ⟨rfl, rfl⟩ := by simpa using h
    exact .quietPrune (List.Subset.refl _) (List.Subset.refl _) rfl
  | writers scan id arc readerCount =>
    obtain ⟨session, hmade, h⟩ := Option.map_eq_some_iff.mp h
    obtain ⟨rfl, rfl⟩ := by simpa using h
    by_cases hidle : readerCount = 0 ∧ session.writers = 0
    · have hcondemns : Task.condemns store choice (.prune (.writers scan id arc readerCount)) =
          some (id, arc) := by
        simp [Task.condemns, hmade, hidle]
      refine .condemn hcondemns (view_of_made hmade) (.inr hidle.2) (fun _ => rfl) rfl ?_
        (List.Subset.refl _) rfl fun _ => List.mem_cons_self
      simp [Task.condemned, hidle]
    · refine .quietPrune ?_ (List.Subset.refl _) rfl
      simp [Task.condemned, hidle]
  | lastActivity scan id arc readerCount writerCount =>
    obtain ⟨session, -, h⟩ := Option.map_eq_some_iff.mp h
    obtain ⟨rfl, rfl⟩ := by simpa using h
    refine .quietPrune ?_ ?_ ?_
    · split
      · rename_i hidle
        simp [Task.condemned, Scan.collect, hidle.1, hidle.2.1]
      · simp only [Task.condemned]
        split
        · exact List.subset_cons_self _ _
        · exact List.Subset.refl _
    · split <;> exact List.subset_cons_self _ _
    · split <;> rfl
  | remove toRemove =>
    simp only [Prune.advance] at h
    split at h
    · rename_i hscanners
      obtain ⟨rfl, rfl⟩ := by simpa using h
      exact .remove hscanners (List.Subset.refl _) rfl rfl
        ⟨List.nil_subset _, List.Subset.refl _, rfl⟩
    · cases h
  | returned => cases h

theorem effect_advance {store store' : Store} {choice : Nat} {t t' : Task}
    (h : program.advance store t choice = some (store', t')) :
    Effect store choice t store' t' := by
  cases t with
  | attach a =>
    obtain ⟨⟨_, a'⟩, hadvance, h⟩ := Option.map_eq_some_iff.mp h
    cases h
    exact effect_attach hadvance
  | prune p =>
    obtain ⟨⟨_, p'⟩, hadvance, h⟩ := Option.map_eq_some_iff.mp h
    cases h
    exact effect_prune hadvance

end Coderd.Pty
