import Mathlib.Data.List.Basic

namespace Coderd.Foundation

/-- A broadcast channel: all that was sent on it, of which the last `capacity` values can still
be received. -/
structure Broadcast (α : Type) where
  capacity : Nat
  log : List α

namespace Broadcast

variable {α : Type}

def new (capacity : Nat) : Broadcast α := ⟨capacity, []⟩

def send (b : Broadcast α) (a : α) : Broadcast α := { b with log := b.log ++ [a] }

/-- A receiver: where it joined, the value it receives next, and what it got so far. `lagged`
tells whether a value was overwritten before it came to it. -/
structure Receiver (α : Type) where
  joined : Nat
  next : Nat
  got : List α
  lagged : Bool

def subscribe (b : Broadcast α) : Receiver α := ⟨b.log.length, b.log.length, [], false⟩

/-- The oldest value still there. -/
def oldest (b : Broadcast α) : Nat := b.log.length - b.capacity

/-- Receive until there is a value, those overwritten being skipped. Nothing changes while there
is none. -/
def recv (b : Broadcast α) (r : Receiver α) : Receiver α :=
  let next := max r.next b.oldest
  match b.log[next]? with
  | none => r
  | some a =>
    { r with
      next := next + 1
      got := r.got ++ [a]
      lagged := r.lagged || decide (r.next < b.oldest) }

@[simp] theorem joined_recv (b : Broadcast α) (r : Receiver α) :
    (b.recv r).joined = r.joined := by
  unfold recv
  dsimp only
  split <;> rfl

/-- The receiver has got some of what was sent since it joined, in that order, and all of it where
it never lagged. -/
structure Follows (b : Broadcast α) (r : Receiver α) : Prop where
  joined_le : r.joined ≤ r.next
  next_le : r.next ≤ b.log.length
  sublist : r.got.Sublist ((b.log.take r.next).drop r.joined)
  exact : r.lagged = false → r.got = (b.log.take r.next).drop r.joined

theorem follows_subscribe (b : Broadcast α) : Follows b b.subscribe where
  joined_le := Nat.le_refl _
  next_le := Nat.le_refl _
  sublist := List.nil_sublist _
  exact _ := by simp [subscribe]

theorem Follows.send {b : Broadcast α} {r : Receiver α} (h : Follows b r) (a : α) :
    Follows (b.send a) r := by
  have htake : (b.send a).log.take r.next = b.log.take r.next :=
    List.take_append_of_le_length h.next_le
  refine ⟨h.joined_le, ?_, ?_, ?_⟩
  · rw [Broadcast.send, List.length_append]
    exact Nat.le_trans h.next_le (Nat.le_add_right _ _)
  · rw [htake]
    exact h.sublist
  · rw [htake]
    exact h.exact

/-- One value more at the end of a window. -/
theorem take_succ_drop {log : List α} {i j : Nat} {a : α} (hij : i ≤ j)
    (ha : log[j]? = some a) : (log.take (j + 1)).drop i = (log.take j).drop i ++ [a] := by
  obtain ⟨hj, rfl⟩ := List.getElem?_eq_some_iff.mp ha
  rw [List.take_succ_eq_append_getElem hj, List.drop_append_of_le_length]
  rw [List.length_take]
  omega

theorem Follows.recv {b : Broadcast α} {r : Receiver α} (h : Follows b r) :
    Follows b (b.recv r) := by
  unfold Broadcast.recv
  dsimp only
  cases hget : b.log[max r.next b.oldest]? with
  | none => exact h
  | some a =>
    obtain ⟨hlt, -⟩ := List.getElem?_eq_some_iff.mp hget
    have hle : r.next ≤ max r.next b.oldest := Nat.le_max_left _ _
    have hjoined : r.joined ≤ max r.next b.oldest := Nat.le_trans h.joined_le hle
    have hwindow := take_succ_drop hjoined hget
    refine ⟨Nat.le_trans hjoined (Nat.le_succ _), hlt, ?_, ?_⟩
    · -- what was skipped is between the two windows
      have hskip : ((b.log.take r.next).drop r.joined).Sublist
          ((b.log.take (max r.next b.oldest)).drop r.joined) :=
        (List.take_prefix_take_left hle).sublist.drop r.joined
      rw [hwindow]
      exact (h.sublist.trans hskip).append (List.Sublist.refl [a])
    · intro hlagged
      obtain ⟨hbefore, hkept⟩ : r.lagged = false ∧ b.oldest ≤ r.next := by
        simpa using hlagged
      rw [Nat.max_eq_left hkept] at hwindow ⊢
      rw [hwindow, h.exact hbefore]

theorem Follows.sublist_log {b : Broadcast α} {r : Receiver α} (h : Follows b r) :
    r.got.Sublist (b.log.drop r.joined) :=
  h.sublist.trans ((List.take_prefix r.next b.log).sublist.drop r.joined)

/-- What a receiver that never lagged has got and what still waits for it are all that was sent
since it joined. -/
theorem Follows.got_append {b : Broadcast α} {r : Receiver α} (h : Follows b r)
    (hlagged : r.lagged = false) : r.got ++ b.log.drop r.next = b.log.drop r.joined := by
  have hcut : b.log.drop r.joined =
      (b.log.take r.next).drop r.joined ++ b.log.drop r.next := by
    conv_lhs => rw [← List.take_append_drop r.next b.log]
    rw [List.drop_append_of_le_length]
    rw [List.length_take, Nat.min_eq_left h.next_le]
    exact h.joined_le
  rw [hcut, h.exact hlagged]

end Broadcast

end Coderd.Foundation
