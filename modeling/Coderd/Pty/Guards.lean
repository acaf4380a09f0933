import Coderd.Pty.Windows

namespace Coderd.Pty

open Coderd.Foundation

/-- A session with a live agent guard is in the map under its id, and when no drop of a guard
has still work to do on it, its grace window is not set. -/
def KeepsSessions (w : Pool Store Task) : Prop :=
  ∀ (i : Nat) (reconnectId agentId : Uuid) (arc : Nat),
    w.tasks[i]? = some (.attach { side := .agent, reconnectId, agentId, phase := .attached arc }) →
      w.shared.sessions.lookup reconnectId = some arc ∧
        ((∀ t ∈ w.tasks, t.cleansUp arc = false) →
          ∃ session, w.shared.made[arc]? = some session ∧ session.graceDeadline = none)

/-! ## The invariant -/

/-- What an agent's attachment and a pruner rely on. -/
structure Served (store : Store) (t : Task) : Prop where
  kept : ∀ stage r arc, t.stage = some (stage, r, arc) → stage ≠ .closing →
    store.sessions.lookup r = some arc
  ungraced : ∀ stage r arc, t.stage = some (stage, r, arc) → stage = .joining ∨ stage = .counted →
    ∀ v, store.view arc = some v → v.2 = none
  scanned : ∀ e ∈ t.todo, store.sessions.lookup e.1 = some e.2

/-- Nobody removes the session of an attachment, or starts its grace window once it is
cleared. -/
structure Compatible (t u : Task) : Prop where
  kept : ∀ stage r arc, t.stage = some (stage, r, arc) → stage ≠ .closing → r ∉ u.condemned
  ungraced : ∀ stage r r' arc, t.stage = some (stage, r, arc) →
    stage = .joining ∨ stage = .counted → u.stage ≠ some (.closing, r', arc)

structure Sound (w : Pool Store Task) : Prop where
  made : ∀ r arc, w.shared.sessions.lookup r = some arc → w.shared.view arc ≠ none
  scanners : w.shared.scanners = w.tasks.countP Task.isScanner
  writers : ∀ arc v, w.shared.view arc = some v → v.1 = w.tasks.countP (Task.isWriter arc)
  tasks : w.Noninterfering Served Compatible

theorem Task.isWriter_iff {t : Task} {arc : Nat} :
    t.isWriter arc = true ↔ ∃ r, t.stage = some (.counted, r, arc) := by
  unfold Task.isWriter
  split
  · rename_i r arc' hstage
    simp [hstage]
  · rename_i hother
    constructor
    · exact nofun
    · rintro ⟨r, hstage⟩
      exact absurd hstage (hother r arc)

theorem Task.isWriter_eq_false {t : Task} {arc : Nat}
    (h : ∀ r, t.stage ≠ some (.counted, r, arc)) : t.isWriter arc = false := by
  by_contra hwriter
  obtain ⟨r, hstage⟩ := Task.isWriter_iff.mp (by simpa using hwriter)
  exact h r hstage

theorem Task.isWriter_of_stage_eq {t t' : Task} (h : t'.stage = t.stage) (arc : Nat) :
    t'.isWriter arc = t.isWriter arc := by
  unfold Task.isWriter
  rw [h]

/-- A task without a session. -/
theorem served_of_stage_none {store : Store} {t : Task} (h : t.stage = none)
    (htodo : ∀ e ∈ t.todo, store.sessions.lookup e.1 = some e.2) : Served store t where
  kept stage r arc hstage := by simp [h] at hstage
  ungraced stage r arc hstage := by simp [h] at hstage
  scanned := htodo

theorem served_of_stage {store : Store} {t : Task} {stage : Stage} {r : Uuid} {arc : Nat}
    (h : t.stage = some (stage, r, arc))
    (hkept : stage ≠ .closing → store.sessions.lookup r = some arc)
    (hungraced : stage = .joining ∨ stage = .counted → ∀ v, store.view arc = some v → v.2 = none)
    (htodo : ∀ e ∈ t.todo, store.sessions.lookup e.1 = some e.2) : Served store t where
  kept _ _ _ hstage hopen := by
    rw [h] at hstage
    cases hstage
    exact hkept hopen
  ungraced _ _ _ hstage hjoined := by
    rw [h] at hstage
    cases hstage
    exact hungraced hjoined
  scanned := htodo

theorem compatible_of_stage_none {t u : Task} (h : t.stage = none) : Compatible t u where
  kept stage r arc hstage := by simp [h] at hstage
  ungraced stage r r' arc hstage := by simp [h] at hstage

theorem compatible_of_looking {t u : Task} {r : Uuid} {arc : Nat}
    (h : t.stage = some (.looking, r, arc)) (hfree : r ∉ u.condemned) : Compatible t u where
  kept _ _ _ hstage _ := by
    rw [h] at hstage
    cases hstage
    exact hfree
  ungraced _ _ _ _ hstage hjoined := by
    rw [h] at hstage
    cases hstage
    simp at hjoined

/-- The other tasks keep what they rely on when the map stays as it is and no grace window that
one of them has cleared is set. -/
theorem Served.of_view {store store' : Store} {u : Task} (h : Served store u)
    (hsessions : store'.sessions = store.sessions)
    (hview : ∀ stage r arc, u.stage = some (stage, r, arc) →
      stage = .joining ∨ stage = .counted → ∀ v', store'.view arc = some v' →
        ∃ v, store.view arc = some v ∧ (v.2 = none → v'.2 = none)) : Served store' u where
  kept stage r arc hstage hopen := by
    rw [hsessions]
    exact h.kept stage r arc hstage hopen
  ungraced stage r arc hstage hjoined v' hv' := by
    obtain ⟨v, hv, hnone⟩ := hview stage r arc hstage hjoined v' hv'
    exact hnone (h.ungraced stage r arc hstage hjoined v hv)
  scanned e he := by
    rw [hsessions]
    exact h.scanned e he

theorem Task.todo_of_not_isScanner {t : Task} (h : t.isScanner = false) : t.todo = [] := by
  cases t with
  | attach a => rfl
  | prune p => cases p <;> first | rfl | cases h

namespace Effect

variable {store store' : Store} {choice : Nat} {t t' u : Task}

/-- Every session in the map has been made. -/
theorem made (heffect : Effect store choice t store' t')
    (h : ∀ r arc, store.sessions.lookup r = some arc → store.view arc ≠ none) (r : Uuid)
    (arc : Nat) (hlookup : store'.sessions.lookup r = some arc) : store'.view arc ≠ none := by
  cases heffect with
  | quiet hsessions _ hview =>
    rw [hview]
    exact h r arc (hsessions ▸ hlookup)
  | clear hsessions _ hview | join hsessions _ hview | leave hsessions _ hview
  | setGrace hsessions _ hview =>
    rw [hview, Ne, Option.map_eq_none_iff]
    exact h r arc (hsessions ▸ hlookup)
  | obtain | condemn | lock | unlock => exact h r arc hlookup
  | insert =>
    rw [view_insert]
    split
    · simp
    · rename_i hold
      rw [Store.insert, HashMap.lookup_insert_ite] at hlookup
      split at hlookup
      · cases hlookup
        exact absurd rfl hold
      · exact h r arc hlookup
  | remove =>
    rw [lookup_remove] at hlookup
    split at hlookup
    · cases hlookup
    · exact h r arc hlookup

theorem served_own (heffect : Effect store choice t store' t') (h : Served store t)
    (hscanner : store.scanners = 0 → t.isScanner = false) : Served store' t' := by
  -- when nobody scans there is nothing left to scan
  have hnothing : store.scanners = 0 → Unmoved t t' → t'.todo = [] := fun hzero hunmoved =>
    Task.todo_of_not_isScanner (hunmoved.isScanner.trans (hscanner hzero))
  cases heffect with
  | quiet hsessions _ hview hstage hunmoved =>
    constructor
    · intro stage r arc hs hopen
      rw [hsessions]
      exact h.kept stage r arc (hstage ▸ hs) hopen
    · intro stage r arc hs hjoined v hv
      exact h.ungraced stage r arc (hstage ▸ hs) hjoined v (hview arc ▸ hv)
    · intro e he
      rw [hsessions]
      exact h.scanned e (hunmoved.todo he)
  | obtain _ hlookup _ hstage' hunmoved =>
    exact served_of_stage hstage' (fun _ => hlookup) (by simp)
      fun e he => h.scanned e (hunmoved.todo he)
  | insert _ hscanners _ hstage' hunmoved =>
    have htodo := hnothing hscanners hunmoved
    obtain hnone | ⟨hlooking, -⟩ := hstage'
    · exact served_of_stage_none hnone (by simp [htodo])
    · exact served_of_stage hlooking (fun _ => AList.lookup_insert _) (by simp) (by simp [htodo])
  | condemn _ _ _ _ hstage' _ htodo =>
    exact served_of_stage_none hstage' fun e he => h.scanned e (htodo he)
  | clear hsessions _ hview _ hstage hstage' hunmoved =>
    refine served_of_stage hstage' (fun _ => ?_) (fun _ v hv => ?_) fun e he => ?_
    · rw [hsessions]
      exact h.kept _ _ _ hstage (by decide)
    · rw [hview] at hv
      obtain ⟨before, -, rfl⟩ := Option.map_eq_some_iff.mp hv
      simp
    · rw [hsessions]
      exact h.scanned e (hunmoved.todo he)
  | join hsessions _ hview hstage hstage' hunmoved =>
    refine served_of_stage hstage' (fun _ => ?_) (fun _ v hv => ?_) fun e he => ?_
    · rw [hsessions]
      exact h.kept _ _ _ hstage (by decide)
    · rw [hview] at hv
      obtain ⟨before, hbefore, rfl⟩ := Option.map_eq_some_iff.mp hv
      simpa using h.ungraced _ _ _ hstage (.inl rfl) before hbefore
    · rw [hsessions]
      exact h.scanned e (hunmoved.todo he)
  | leave hsessions _ _ _ _ hstage' hunmoved =>
    have htodo : ∀ e ∈ t'.todo, store'.sessions.lookup e.1 = some e.2 := by
      intro e he
      rw [hsessions]
      exact h.scanned e (hunmoved.todo he)
    obtain hnone | ⟨hclosing, -⟩ := hstage'
    · exact served_of_stage_none hnone htodo
    · exact served_of_stage hclosing (fun hopen => absurd rfl hopen) (by simp) htodo
  | setGrace hsessions _ _ _ hstage' hunmoved =>
    refine served_of_stage_none hstage' fun e he => ?_
    rw [hsessions]
    exact h.scanned e (hunmoved.todo he)
  | remove hscanners _ _ hstage' hunmoved =>
    exact served_of_stage_none hstage' (by simp [hnothing hscanners hunmoved])
  | lock _ hstage' _ _ _ htodo => exact served_of_stage_none hstage' htodo
  | unlock _ hstage' _ _ _ htodo => exact served_of_stage_none hstage' (by simp [htodo])

theorem lookup_of_get_none {r agentId : Uuid}
    (h : ∀ r arc, store.sessions.lookup r = some arc → store.view arc ≠ none)
    (hget : store.get r agentId = none) : store.sessions.lookup r = none := by
  cases hlookup : store.sessions.lookup r with
  | none => rfl
  | some arc =>
    have hmade : store.made[arc]? = none := by
      simpa [Store.get, hlookup] using hget
    exact absurd (by rw [Store.view, hmade]; rfl) (h r arc hlookup)

theorem served_other (heffect : Effect store choice t store' t') (hu : Served store u)
    (hut : Compatible u t) (hscanner : store.scanners = 0 → u.isScanner = false)
    (hmade : ∀ r arc, store.sessions.lookup r = some arc → store.view arc ≠ none) :
    Served store' u := by
  cases heffect with
  | quiet hsessions _ hview =>
    exact hu.of_view hsessions fun _ _ arc _ _ v' hv' => ⟨v', by rwa [← hview], id⟩
  | obtain | condemn => exact hu
  | lock | unlock => exact hu.of_view rfl fun _ _ _ _ _ v' hv' => ⟨v', hv', id⟩
  | clear hsessions _ hview | join hsessions _ hview | leave hsessions _ hview =>
    refine hu.of_view hsessions fun _ _ arc _ _ v' hv' => ?_
    rw [hview] at hv'
    obtain ⟨v, hv, rfl⟩ := Option.map_eq_some_iff.mp hv'
    refine ⟨v, hv, fun hnone => ?_⟩
    split <;> simp [hnone]
  | setGrace hsessions _ hview hstage =>
    refine hu.of_view hsessions fun stage r arc hs hjoined v' hv' => ?_
    rw [hview] at hv'
    obtain ⟨v, hv, rfl⟩ := Option.map_eq_some_iff.mp hv'
    refine ⟨v, hv, fun hnone => ?_⟩
    split
    · rename_i harc
      rw [← harc] at hstage
      exact absurd hstage (hut.ungraced stage r _ arc hs hjoined)
    · exact hnone
  | insert hget hscanners =>
    have habsent := lookup_of_get_none hmade hget
    constructor
    · intro stage r arc hs hopen
      have hlookup := hu.kept stage r arc hs hopen
      rw [Store.insert, HashMap.lookup_insert_ite, if_neg]
      · exact hlookup
      · rintro rfl
        rw [habsent] at hlookup
        cases hlookup
    · intro stage r arc hs hjoined v hv
      rw [view_insert] at hv
      split at hv
      · cases hv
        rfl
      · exact hu.ungraced stage r arc hs hjoined v hv
    · simp [Task.todo_of_not_isScanner (hscanner hscanners)]
  | remove hscanners hids =>
    constructor
    · intro stage r arc hs hopen
      have hfree := hut.kept stage r arc hs hopen
      rw [lookup_remove, if_neg fun hmem => hfree (hids hmem)]
      exact hu.kept stage r arc hs hopen
    · exact hu.ungraced
    · simp [Task.todo_of_not_isScanner (hscanner hscanners)]

theorem compatible_own {others : List Task} (heffect : Effect store choice t store' t')
    (hok : InTime store choice t others) (hu : u ∈ others) (h : Compatible t u) :
    Compatible t' u := by
  cases heffect with
  | quiet _ _ _ hstage =>
    constructor
    · intro stage r arc hs
      exact h.kept stage r arc (hstage ▸ hs)
    · intro stage r r' arc hs
      exact h.ungraced stage r r' arc (hstage ▸ hs)
  | obtain hobtains _ _ hstage' => exact compatible_of_looking hstage' (hok.obtains _ hobtains u hu)
  | insert _ _ _ hstage' =>
    obtain hnone | ⟨hlooking, hobtains⟩ := hstage'
    · exact compatible_of_stage_none hnone
    · exact compatible_of_looking hlooking (hok.obtains _ hobtains u hu)
  | clear _ _ _ hclears hstage hstage' =>
    constructor
    · intro stage r arc hs _
      rw [hstage'] at hs
      cases hs
      exact h.kept _ _ _ hstage (by decide)
    · intro stage r r' arc hs _ hclosing
      rw [hstage'] at hs
      cases hs
      exact hok.clears _ hclears u hu _ hclosing rfl rfl
  | join _ _ _ hstage hstage' =>
    constructor
    · intro stage r arc hs _
      rw [hstage'] at hs
      cases hs
      exact h.kept _ _ _ hstage (by decide)
    · intro stage r r' arc hs _
      rw [hstage'] at hs
      cases hs
      exact h.ungraced _ _ _ _ hstage (.inl rfl)
  | leave _ _ _ _ _ hstage' =>
    obtain hnone | ⟨hclosing, -⟩ := hstage'
    · exact compatible_of_stage_none hnone
    · constructor
      · intro stage r arc hs hopen
        rw [hclosing] at hs
        cases hs
        exact absurd rfl hopen
      · intro stage r r' arc hs hjoined
        rw [hclosing] at hs
        cases hs
        simp at hjoined
  | condemn _ _ _ _ hstage' | setGrace _ _ _ _ hstage' | remove _ _ _ hstage' | lock _ hstage'
  | unlock _ hstage' => exact compatible_of_stage_none hstage'

/-- A task that condemns an id finds nobody at work on the session. -/
theorem not_condemned {others : List Task} {stage : Stage} {r : Uuid} {arc arc' : Nat}
    {v : Nat × Option Nat} (hok : InTime store choice t others) (hu : u ∈ others)
    (hserved : Served store u)
    (hcounted : ∀ v, u.isWriter arc' = true → store.view arc' = some v → v.1 ≠ 0)
    (hcondemns : t.condemns store choice = some (r, arc)) (hview : store.view arc = some v)
    (hv : v.2 ≠ none ∨ v.1 = 0) (hs : u.stage = some (stage, r, arc')) (hopen : stage ≠ .closing) :
    False := by
  obtain ⟨hcurrent, hfree⟩ := hok.condemns _ hcondemns
  have harc : arc' = arc := hcurrent arc' (hserved.kept stage r arc' hs hopen)
  subst harc
  have hsettled : stage = .counted := by
    have hnot := hfree u hu _ hs
    cases stage with
    | looking => exact absurd rfl (hnot (.inl rfl))
    | joining => exact absurd rfl (hnot (.inr rfl))
    | counted => rfl
    | closing => exact absurd rfl hopen
  subst hsettled
  obtain hgrace | hzero := hv
  · exact hgrace (hserved.ungraced _ _ _ hs (.inr rfl) v hview)
  · exact hcounted v (Task.isWriter_iff.mpr ⟨r, hs⟩) hview hzero

theorem compatible_other {others : List Task} (heffect : Effect store choice t store' t')
    (hok : InTime store choice t others) (hu : u ∈ others) (hserved : Served store u)
    (h : Compatible u t)
    (hcounted : ∀ arc v, u.isWriter arc = true → store.view arc = some v → v.1 ≠ 0)
    (htwo : ∀ arc v, u.isWriter arc = true → t.isWriter arc = true → store.view arc = some v →
      2 ≤ v.1) : Compatible u t' := by
  -- a step that condemns nothing new and does not close a session
  have hmild : t'.condemned ⊆ t.condemned → (∀ r arc, t'.stage ≠ some (.closing, r, arc)) →
      Compatible u t' := fun hcondemned hopen =>
    ⟨fun stage r arc hs hs' hmem => h.kept stage r arc hs hs' (hcondemned hmem),
      fun _ _ r' arc _ _ => hopen r' arc⟩
  cases heffect with
  | quiet _ _ _ hstage hunmoved =>
    constructor
    · intro stage r arc hs hopen hmem
      exact h.kept stage r arc hs hopen (hunmoved.condemned hmem)
    · intro stage r r' arc hs hjoined
      rw [hstage]
      exact h.ungraced stage r r' arc hs hjoined
  | obtain _ _ _ hstage' hunmoved => exact hmild hunmoved.condemned (by simp [hstage'])
  | insert _ _ _ hstage' hunmoved =>
    refine hmild hunmoved.condemned ?_
    obtain hnone | ⟨hlooking, -⟩ := hstage'
    · simp [hnone]
    · simp [hlooking]
  | condemn hcondemns hview hv _ hstage' hcondemned =>
    constructor
    · intro stage r arc hs hopen hmem
      obtain rfl | hmem := List.mem_cons.mp (hcondemned hmem)
      · exact not_condemned hok hu hserved (hcounted arc) hcondemns hview hv hs hopen
      · exact h.kept stage r arc hs hopen hmem
    · simp [hstage']
  | clear _ _ _ _ _ hstage' hunmoved | join _ _ _ _ hstage' hunmoved =>
    exact hmild hunmoved.condemned (by simp [hstage'])
  | setGrace _ _ _ _ hstage' hunmoved | remove _ _ _ hstage' hunmoved =>
    exact hmild hunmoved.condemned (by simp [hstage'])
  | leave _ _ _ hv hstage hstage' hunmoved =>
    obtain hnone | ⟨hclosing, hlast, hempties⟩ := hstage'
    · exact hmild hunmoved.condemned (by simp [hnone])
    · constructor
      · intro stage r arc hs hopen hmem
        exact h.kept stage r arc hs hopen (hunmoved.condemned hmem)
      · intro stage r r' arc hs hjoined hclosing'
        rw [hclosing] at hclosing'
        cases hclosing'
        obtain rfl | rfl := hjoined
        · exact hok.empties _ hempties u hu _ hs rfl rfl
        · have := htwo _ _ (Task.isWriter_iff.mpr ⟨r, hs⟩) (Task.isWriter_iff.mpr ⟨_, hstage⟩) hv
          omega
  | lock _ hstage' hcondemned => exact hmild (by simp [hcondemned]) (by simp [hstage'])
  | unlock _ hstage' hcondemned => exact hmild hcondemned (by simp [hstage'])

theorem scanners {tasks : List Task} {i : Nat} (heffect : Effect store choice t store' t')
    (htask : tasks[i]? = some t) (h : store.scanners = tasks.countP Task.isScanner) :
    store'.scanners = (tasks.set i t').countP Task.isScanner := by
  have hcount := Pool.countP_set_add Task.isScanner t' htask
  have hsame : t'.isScanner = t.isScanner →
      (tasks.set i t').countP Task.isScanner = tasks.countP Task.isScanner := by
    intro heq
    rw [heq] at hcount
    omega
  cases heffect with
  | quiet _ hscanners _ _ hunmoved | clear _ hscanners _ _ _ _ hunmoved
  | join _ hscanners _ _ _ hunmoved | leave _ hscanners _ _ _ _ hunmoved
  | setGrace _ hscanners _ _ _ hunmoved =>
    rw [hscanners, h, hsame hunmoved.isScanner]
  | obtain _ _ _ _ hunmoved | insert _ _ _ _ hunmoved | remove _ _ _ _ hunmoved =>
    rw [hsame hunmoved.isScanner]
    exact h
  | condemn _ _ _ _ _ _ _ hscanner =>
    rw [hsame hscanner]
    exact h
  | lock _ _ _ hscanner hscanner' =>
    rw [hscanner, hscanner'] at hcount
    simp only [if_true, if_false, Bool.false_eq_true] at hcount
    dsimp only
    omega
  | unlock _ _ _ hscanner hscanner' =>
    rw [hscanner, hscanner'] at hcount
    simp only [if_true, if_false, Bool.false_eq_true] at hcount
    dsimp only
    omega

theorem writers {tasks : List Task} {i : Nat} (heffect : Effect store choice t store' t')
    (htask : tasks[i]? = some t)
    (h : ∀ arc v, store.view arc = some v → v.1 = tasks.countP (Task.isWriter arc))
    (hfresh : ∀ arc, store.view arc = none → tasks.countP (Task.isWriter arc) = 0) (arc : Nat)
    (v : Nat × Option Nat) (hv : store'.view arc = some v) :
    v.1 = (tasks.set i t').countP (Task.isWriter arc) := by
  have hcount := Pool.countP_set_add (Task.isWriter arc) t' htask
  have hsame : t'.isWriter arc = t.isWriter arc →
      (tasks.set i t').countP (Task.isWriter arc) = tasks.countP (Task.isWriter arc) := by
    intro heq
    rw [heq] at hcount
    omega
  have hnever : (∀ r arc, t.stage ≠ some (.counted, r, arc)) →
      (∀ r arc, t'.stage ≠ some (.counted, r, arc)) →
      (tasks.set i t').countP (Task.isWriter arc) = tasks.countP (Task.isWriter arc) := by
    intro hbefore hafter
    refine hsame ?_
    rw [Task.isWriter_eq_false (fun r => hbefore r arc),
      Task.isWriter_eq_false (fun r => hafter r arc)]
  cases heffect with
  | quiet _ _ hview hstage =>
    rw [hsame (Task.isWriter_of_stage_eq hstage arc)]
    exact h arc v (hview arc ▸ hv)
  | obtain _ _ hstage hstage' =>
    rw [hnever (by simp [hstage]) (by simp [hstage'])]
    exact h arc v hv
  | condemn _ _ _ hstage hstage' =>
    rw [hsame (by rw [hstage, Task.isWriter_eq_false (by simp [hstage'])])]
    exact h arc v hv
  | remove _ _ hstage hstage' | lock hstage hstage' | unlock hstage hstage' =>
    rw [hnever (by simp [hstage]) (by simp [hstage'])]
    exact h arc v hv
  | insert _ _ hstage hstage' =>
    have hafter : ∀ r arc, t'.stage ≠ some (.counted, r, arc) := by
      obtain hnone | ⟨hlooking, -⟩ := hstage'
      · simp [hnone]
      · simp [hlooking]
    rw [hnever (by simp [hstage]) hafter]
    rw [view_insert] at hv
    split at hv
    · rename_i hnew
      cases hv
      refine (hfresh arc ?_).symm
      rw [Store.view, hnew, List.getElem?_eq_none (Nat.le_refl _)]
      rfl
    · exact h arc v hv
  | clear _ _ hview _ hstage hstage' =>
    rw [hnever (by simp [hstage]) (by simp [hstage'])]
    rw [hview] at hv
    obtain ⟨before, hbefore, rfl⟩ := Option.map_eq_some_iff.mp hv
    rw [← h arc before hbefore]
    split <;> rfl
  | setGrace _ _ hview hstage hstage' =>
    rw [hnever (by simp [hstage]) (by simp [hstage'])]
    rw [hview] at hv
    obtain ⟨before, hbefore, rfl⟩ := Option.map_eq_some_iff.mp hv
    rw [← h arc before hbefore]
    split <;> rfl
  | @join _ r arc' _ _ _ hview hstage hstage' =>
    rw [hview] at hv
    obtain ⟨before, hbefore, rfl⟩ := Option.map_eq_some_iff.mp hv
    have hwriters := h arc before hbefore
    rw [Task.isWriter_eq_false (t := t) (by simp [hstage])] at hcount
    by_cases harc : arc = arc'
    · subst harc
      rw [Task.isWriter_iff.mpr ⟨r, hstage'⟩] at hcount
      simp only [if_true, if_false, Bool.false_eq_true] at hcount ⊢
      omega
    · rw [Task.isWriter_eq_false (by simp [hstage', Ne.symm harc])] at hcount
      simp only [if_false, Bool.false_eq_true] at hcount
      rw [if_neg harc]
      omega
  | @leave _ r arc' last _ _ _ hview hlast hstage hstage' =>
    rw [hview] at hv
    obtain ⟨before, hbefore, rfl⟩ := Option.map_eq_some_iff.mp hv
    have hwriters := h arc before hbefore
    have hafter : t'.isWriter arc = false := by
      obtain hnone | ⟨hclosing, -⟩ := hstage'
      · exact Task.isWriter_eq_false (by simp [hnone])
      · exact Task.isWriter_eq_false (by simp [hclosing])
    rw [hafter] at hcount
    by_cases harc : arc = arc'
    · subst harc
      rw [Task.isWriter_iff.mpr ⟨r, hstage⟩] at hcount
      simp only [if_true, if_false, Bool.false_eq_true] at hcount ⊢
      omega
    · rw [Task.isWriter_eq_false (by simp [hstage, Ne.symm harc])] at hcount
      simp only [if_false, Bool.false_eq_true] at hcount
      rw [if_neg harc]
      omega

end Effect

namespace Sound

variable {w : Pool Store Task}

theorem not_isScanner (h : Sound w) {j : Nat} {u : Task} (hu : w.tasks[j]? = some u)
    (hzero : w.shared.scanners = 0) : u.isScanner = false := by
  rw [h.scanners] at hzero
  simpa using List.countP_eq_zero.mp hzero u (List.mem_of_getElem? hu)

theorem view_of_isWriter (h : Sound w) {arc : Nat} {u : Task} (hu : u ∈ w.tasks)
    (hwriter : u.isWriter arc = true) : w.shared.view arc ≠ none := by
  obtain ⟨j, hj⟩ := List.mem_iff_getElem?.mp hu
  obtain ⟨r, hstage⟩ := Task.isWriter_iff.mp hwriter
  exact h.made r arc ((h.tasks.each j u hj).kept _ r arc hstage (by decide))

theorem run (h : Sound w) {i choice : Nat} {t t' : Task} {store' : Store}
    (htask : w.tasks[i]? = some t) (hok : InTime w.shared choice t (w.others i))
    (heffect : Effect w.shared choice t store' t') :
    Sound { shared := store', tasks := w.tasks.set i t' } where
  made := heffect.made h.made
  scanners := heffect.scanners htask h.scanners
  writers := by
    refine heffect.writers htask h.writers fun arc hnone => List.countP_eq_zero.mpr ?_
    intro u hu hwriter
    exact h.view_of_isWriter hu hwriter hnone
  tasks := by
    refine h.tasks.run (heffect.served_own (h.tasks.each i t htask) (h.not_isScanner htask)) ?_
    intro j u hji hu
    have hother : u ∈ w.others i := Pool.mem_others.mpr ⟨j, hji, hu⟩
    have hserved := h.tasks.each j u hu
    have hut := h.tasks.apart j i u t hji hu htask
    have htu := h.tasks.apart i j t u hji.symm htask hu
    refine ⟨heffect.served_other hserved hut (h.not_isScanner hu) h.made,
      heffect.compatible_own hok hother htu,
      heffect.compatible_other hok hother hserved hut ?_ ?_⟩
    · intro arc v hwriter hv hzero
      have hpos : 0 < w.tasks.countP (Task.isWriter arc) :=
        List.countP_pos_iff.mpr ⟨u, List.mem_of_getElem? hu, hwriter⟩
      have := h.writers arc v hv
      omega
    · intro arc v hu' ht' hv
      rw [h.writers arc v hv]
      exact Pool.two_le_countP hji hu htask hu' ht'

theorem spawn (h : Sound w) (op : Op) :
    Sound { w with tasks := w.tasks ++ [program.enter op] } := by
  have hstage : (program.enter op).stage = none := by cases op <;> rfl
  have hcondemned : (program.enter op).condemned = [] := by cases op <;> rfl
  have hscanner : (program.enter op).isScanner = false := by cases op <;> rfl
  constructor
  · exact h.made
  · simp [List.countP_append, hscanner, h.scanners]
  · intro arc v hv
    have hwriter : (program.enter op).isWriter arc = false :=
      Task.isWriter_eq_false (by simp [hstage])
    simp [List.countP_append, hwriter, h.writers arc v hv]
  · refine h.tasks.spawn ?_ fun u _ => ⟨compatible_of_stage_none hstage, ?_⟩
    · exact served_of_stage_none hstage (by simp [Task.todo_of_not_isScanner hscanner])
    · constructor
      · simp [hcondemned]
      · simp [hstage]

theorem outside (h : Sound w) (delay : Nat) :
    Sound { w with shared := program.outside w.shared delay } where
  made := h.made
  scanners := h.scanners
  writers := h.writers
  tasks := h.tasks.outside fun _ ht => ⟨ht.kept, ht.ungraced, ht.scanned⟩

theorem step (h : Sound w) {move : Move Op Nat Nat} (hok : Timely w move) :
    Sound (program.step w move) := by
  have hsteps := program.steps_step w move
  generalize program.step w move = w' at hsteps ⊢
  cases hsteps with
  | idle => exact h
  | spawn op => exact h.spawn op
  | run htask hadvance => exact h.run htask (hok _ htask) (effect_advance hadvance)
  | outside delay => exact h.outside delay

theorem keepsSessions (h : Sound w) : KeepsSessions w := by
  intro i r agentId arc htask
  have hserved := h.tasks.each i _ htask
  have hlookup : w.shared.sessions.lookup r = some arc :=
    hserved.kept .counted r arc rfl (by decide)
  refine ⟨hlookup, fun _ => ?_⟩
  obtain ⟨v, hv⟩ := Option.ne_none_iff_exists'.mp (h.made r arc hlookup)
  have hnone := hserved.ungraced .counted r arc rfl (.inr rfl) v hv
  obtain ⟨session, hmade, rfl⟩ := Option.map_eq_some_iff.mp hv
  exact ⟨session, hmade, hnone⟩

end Sound

theorem sound_start (options : ReconnectingPtyOptions) : Sound (start options) where
  made r arc h := by cases h
  scanners := rfl
  writers arc v h := by cases h
  tasks := .empty _

/-! ## Whole runs -/

/-- In every run whose steps fall into no window, a session with a live agent guard is kept. -/
theorem keepsSessions_of_timely (options : ReconnectingPtyOptions)
    (moves : List (Move Op Nat Nat)) (hrun : Along program.step Timely (start options) moves)
    (before after : List (Move Op Nat Nat)) (hsplit : moves = before ++ after) :
    KeepsSessions (program.run (start options) before) := by
  rw [hsplit, along_append] at hrun
  have hsound := Along.invariant (I := Sound) (fun _ _ h hok => h.step hok)
    (sound_start options) hrun.1
  exact hsound.keepsSessions

def terminal : Uuid := ⟨1⟩

def workstation : Uuid := ⟨2⟩

/-- An agent attaches and detaches; when its grace window is set it attaches again, and an hour
later a pruner looks at the session. -/
def reattachment : List (Move Op Nat Nat) :=
  .spawn (.attachAgent terminal workstation) :: List.replicate 12 (.run 0 0) ++
    .spawn (.attachAgent terminal workstation) :: List.replicate 7 (.run 1 0) ++
    [.outside (3600 * 10 ^ 9), .spawn .prune] ++ List.replicate 7 (.run 2 0)

theorem keepsSessions_reattachment :
    (program.run (start default) reattachment).shared.sessions.lookup terminal = some 0 ∧
      KeepsSessions (program.run (start default) reattachment) :=
  ⟨by decide +kernel,
    keepsSessions_of_timely default reattachment (by decide +kernel) reattachment []
      (List.append_nil _).symm⟩

/-- The agent attaches again after the drop of its guard has left no writers and before it sets
the grace window; a minute later a pruner comes. -/
def overlap : List (Move Op Nat Nat) :=
  .spawn (.attachAgent terminal workstation) :: List.replicate 8 (.run 0 0) ++
    .spawn (.attachAgent terminal workstation) :: List.replicate 7 (.run 1 0) ++
    List.replicate 4 (.run 0 0) ++
    [.outside (60 * 10 ^ 9), .spawn .prune] ++ List.replicate 5 (.run 2 0)

theorem not_keepsSessions_overlap : ¬ KeepsSessions (program.run (start default) overlap) := by
  intro h
  have hguard : (program.run (start default) overlap).tasks[1]? =
      some (.attach
        { side := .agent
          reconnectId := terminal
          agentId := workstation
          phase := .attached 0 }) := rfl
  have hkept := (h 1 terminal workstation 0 hguard).1
  revert hkept
  decide +kernel

end Coderd.Pty
