import Coderd.Foundation.Calls

namespace Coderd.Foundation

variable {κ : Type} {ρ : κ → Type} {α β σ χ ο ε : Type}

/-! ## A program on its own -/

/-- What a program comes to: the calls it has made, what it returns and the state it leaves. -/
structure Ending (κ σ α : Type) where
  calls : List κ
  result : α
  state : σ

namespace Ending

/-- The ending with calls before those it has. -/
def after (e : Ending κ σ α) (calls : List κ) : Ending κ σ α :=
  { e with calls := calls ++ e.calls }

end Ending

namespace Calls

/-- The program with nothing between its calls, which meet with the choices in their order. It is
`none` where a call has to wait. -/
def alone (exec : (op : κ) → σ → χ → Option (ρ op × σ)) :
    Calls κ ρ α → σ → (ℕ → χ) → Option (Ending κ σ α)
  | .done a, s, _ => some ⟨[], a, s⟩
  | .call op next, s, choices =>
    (exec op s (choices 0)).bind fun r =>
      (alone exec (next r.1) r.2 fun n => choices (n + 1)).map fun e => e.after [op]

variable {exec : (op : κ) → σ → χ → Option (ρ op × σ)}

theorem alone_call {op : κ} {next : ρ op → Calls κ ρ α} {s s' : σ} {choices : ℕ → χ} {r : ρ op}
    (h : exec op s (choices 0) = some (r, s')) :
    (call op next).alone exec s choices =
      ((next r).alone exec s' fun n => choices (n + 1)).map fun e => e.after [op] := by
  rw [alone, h, Option.bind_some]

/-- The second program goes on where the first one ends, with the choices that are left. -/
theorem alone_bind {p : Calls κ ρ α} {k : α → Calls κ ρ β} {s : σ} {choices : ℕ → χ}
    {e : Ending κ σ α} (h : p.alone exec s choices = some e) :
    (p.bind k).alone exec s choices =
      ((k e.result).alone exec e.state fun n => choices (n + e.calls.length)).map fun e' =>
        e'.after e.calls := by
  induction p generalizing s choices e with
  | done a =>
    cases h
    have hid : (fun e' : Ending κ σ β => e'.after []) = id := rfl
    rw [bind, hid, Option.map_id, id]
    rfl
  | call op next ih =>
    obtain ⟨⟨r, s'⟩, hexec, hrest⟩ := Option.bind_eq_some_iff.mp h
    obtain ⟨e₁, hnext, rfl⟩ := Option.map_eq_some_iff.mp hrest
    rw [bind, alone_call hexec, ih r hnext, Option.map_map]
    rfl

theorem alone_bindOk {δ : Type} {p : Calls κ ρ (Except δ α)} {k : α → Calls κ ρ (Except δ β)}
    {s s' : σ} {choices : ℕ → χ} {calls : List κ} {a : α}
    (h : p.alone exec s choices = some ⟨calls, .ok a, s'⟩) :
    (p.bindOk k).alone exec s choices =
      ((k a).alone exec s' fun n => choices (n + calls.length)).map fun e' => e'.after calls :=
  alone_bind h

/-- A program on its own is the run of a pool with no other task. -/
theorem run_of_alone (svc : Service κ ρ α σ χ ο ε) {p : Calls κ ρ α} {s : σ} {choices : ℕ → χ}
    {e : Ending κ σ α} (h : p.alone svc.exec s choices = some e) :
    svc.program.run { shared := s, tasks := [p] }
        ((List.range e.calls.length).map fun n => .run 0 (choices n)) =
      { shared := e.state, tasks := [.done e.result] } := by
  induction p generalizing s choices e with
  | done a =>
    cases h
    rfl
  | call op next ih =>
    obtain ⟨⟨r, s'⟩, hexec, hrest⟩ := Option.bind_eq_some_iff.mp h
    obtain ⟨e', hnext, rfl⟩ := Option.map_eq_some_iff.mp hrest
    have htail := ih r hnext
    have hstep : svc.program.step { shared := s, tasks := [.call op next] } (.run 0 (choices 0)) =
        { shared := s', tasks := [next r] } :=
      Service.step_run rfl hexec
    simp only [Ending.after, List.length_append, List.length_singleton, Nat.add_comm 1,
      List.range_succ_eq_map, List.map_cons, List.map_map, Program.run, List.foldl_cons, hstep]
    exact htail

/-! ## What a program ensures -/

/-- Whatever its calls meet with, the program on its own ends only so. -/
def Ensures (exec : (op : κ) → σ → χ → Option (ρ op × σ)) (post : α → σ → Prop) :
    Calls κ ρ α → σ → Prop
  | .done a, s => post a s
  | .call op next, s =>
    ∀ choice r s', exec op s choice = some (r, s') → Ensures exec post (next r) s'

namespace Ensures

variable {post post' : α → σ → Prop} {p : Calls κ ρ α} {s : σ}

theorem alone {choices : ℕ → χ} {e : Ending κ σ α} (h : p.Ensures exec post s)
    (hend : p.alone exec s choices = some e) : post e.result e.state := by
  induction p generalizing s choices e with
  | done a =>
    cases hend
    exact h
  | call op next ih =>
    obtain ⟨⟨r, s'⟩, hexec, hrest⟩ := Option.bind_eq_some_iff.mp hend
    obtain ⟨e', hnext, rfl⟩ := Option.map_eq_some_iff.mp hrest
    have hpost : post e'.result e'.state := ih r (h _ r s' hexec) hnext
    exact hpost

theorem mono (h : p.Ensures exec post s) (himp : ∀ a s', post a s' → post' a s') :
    p.Ensures exec post' s := by
  induction p generalizing s with
  | done a => exact himp a s h
  | call op next ih => exact fun choice r s' hexec => ih r (h choice r s' hexec)

theorem bind {k : α → Calls κ ρ β} {post : β → σ → Prop}
    (h : p.Ensures exec (fun a s' => (k a).Ensures exec post s') s) :
    (p.bind k).Ensures exec post s := by
  induction p generalizing s with
  | done a => exact h
  | call op next ih => exact fun choice r s' hexec => ih r (h choice r s' hexec)

/-- An error ends the program; of a result, the rest of it ensures what is asked for. -/
theorem bindOk {δ : Type} {p : Calls κ ρ (Except δ α)} {k : α → Calls κ ρ (Except δ β)}
    {post : Except δ β → σ → Prop} (h : p.Ensures exec (fun r s' =>
      (∀ e, r = .error e → post (.error e) s') ∧ ∀ a, r = .ok a → (k a).Ensures exec post s') s) :
    (p.bindOk k).Ensures exec post s := by
  refine Ensures.bind (h.mono fun r s' hr => ?_)
  cases r with
  | error e => exact hr.1 e rfl
  | ok a => exact hr.2 a rfl

/-- Of a program whose results do not matter. -/
theorem any (p : Calls κ ρ α) (s : σ) : p.Ensures exec (fun _ _ => True) s := by
  induction p generalizing s with
  | done a => trivial
  | call op next ih => exact fun choice r s' hexec => ih r s'

theorem bindOk_any {δ : Type} {p : Calls κ ρ (Except δ α)} {k : α → Calls κ ρ (Except δ β)}
    {post : Except δ β → σ → Prop} (herror : ∀ e s', post (.error e) s')
    (hk : ∀ a s', (k a).Ensures exec post s') : (p.bindOk k).Ensures exec post s :=
  bindOk ((any p s).mono fun _ s' _ => ⟨fun e _ => herror e s', fun a _ => hk a s'⟩)

/-- What each of its calls keeps, the program keeps. -/
theorem of_uses {allowed : κ → Prop} {inv : σ → Prop} (huses : p.Uses allowed)
    (hkeeps : ∀ op s choice r s', allowed op → exec op s choice = some (r, s') → inv s → inv s')
    (hs : inv s) : p.Ensures exec (fun _ s' => inv s') s := by
  induction p generalizing s with
  | done a => exact hs
  | call op next ih =>
    exact fun choice r s' hexec =>
      ih r (huses.2 r) (hkeeps op s choice r s' huses.1 hexec hs)

end Ensures

/-! ## The calls of a larger store -/

section

variable {κ' : Type} {ρ' : κ' → Type} {σ' : Type} {f : κ → κ'} {g : ∀ op, ρ' (f op) → ρ op}

/-- The program over the calls of a larger store, of which its own are some. -/
def via (f : κ → κ') (g : ∀ op, ρ' (f op) → ρ op) : Calls κ ρ α → Calls κ' ρ' α
  | .done a => .done a
  | .call op next => .call (f op) fun r => (next (g op r)).via f g

/-- Where the larger store does what its part does, the program ensures of the part what it
ensured. -/
theorem Ensures.via {exec' : (op : κ') → σ' → χ → Option (ρ' op × σ')} (part : σ' → σ)
    (hexec : ∀ op s choice r s', exec' (f op) s choice = some (r, s') →
      exec op (part s) choice = some (g op r, part s'))
    {post : α → σ → Prop} {p : Calls κ ρ α} {s : σ'} (h : p.Ensures exec post (part s)) :
    (p.via f g).Ensures exec' (fun a s' => post a (part s')) s := by
  induction p generalizing s with
  | done a => exact h
  | call op next ih =>
    exact fun choice r s' hr => ih (g op r) (h choice _ _ (hexec op s choice r s' hr))

end

end Calls

end Coderd.Foundation
