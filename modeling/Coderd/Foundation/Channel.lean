import Mathlib.Data.List.Basic
import Mathlib.Logic.Function.Basic

namespace Coderd.Foundation

/-- A bounded channel: the values accepted so far, how many of them were received, those
that could not be queued, and whether the receiver is still there. -/
structure Channel (α : Type) where
  capacity : Nat
  sent : List α
  taken : Nat
  refused : List α
  listening : Bool

namespace Channel

variable {α : Type}

/-- A channel nobody listens on. -/
def dead : Channel α := ⟨0, [], 0, [], false⟩

def new (capacity : Nat) : Channel α := ⟨capacity, [], 0, [], true⟩

def hasRoom (ch : Channel α) : Bool :=
  ch.listening && decide (ch.sent.length < ch.taken + ch.capacity)

/-- `try_send`: a value that cannot be queued at once is given back to the caller. -/
def trySend (ch : Channel α) (a : α) : Bool × Channel α :=
  if ch.hasRoom then (true, { ch with sent := ch.sent ++ [a] })
  else (false, { ch with refused := ch.refused ++ [a] })

/-- The next value waiting, if there is one. -/
def front (ch : Channel α) : Option α := ch.sent[ch.taken]?

/-- `recv`, when a value is waiting. -/
def take (ch : Channel α) : Channel α :=
  match ch.front with
  | some _ => { ch with taken := ch.taken + 1 }
  | none => ch

/-- The receiver is dropped. -/
def close (ch : Channel α) : Channel α := { ch with listening := false }

@[simp] theorem take_sent (ch : Channel α) : ch.take.sent = ch.sent := by
  rw [take]
  split <;> rfl

@[simp] theorem take_refused (ch : Channel α) : ch.take.refused = ch.refused := by
  rw [take]
  split <;> rfl

@[simp] theorem close_sent (ch : Channel α) : ch.close.sent = ch.sent := rfl

theorem trySend_sent_of_not_refused {ch : Channel α} {a : α}
    (h : (ch.trySend a).2.refused = []) :
    (ch.trySend a).2.sent = ch.sent ++ [a] ∧ ch.refused = [] := by
  rw [trySend] at h ⊢
  split_ifs at h ⊢ with hroom
  · exact ⟨rfl, h⟩
  · simp at h

theorem trySend_of_hasRoom {ch : Channel α} {a : α} (h : ch.hasRoom = true) :
    (ch.trySend a).2.sent = ch.sent ++ [a] := by
  rw [trySend, if_pos h]

theorem trySend_sent_cases (ch : Channel α) (a : α) :
    (ch.trySend a).2.sent = ch.sent ++ [a] ∨ (ch.trySend a).2.sent = ch.sent := by
  rw [trySend]
  split_ifs
  · exact Or.inl rfl
  · exact Or.inr rfl

theorem mem_sent_trySend {ch : Channel α} {a b : α} (h : b ∈ (ch.trySend a).2.sent) :
    b ∈ ch.sent ∨ b = a := by
  rcases ch.trySend_sent_cases a with heq | heq
  · rw [heq, List.mem_append, List.mem_singleton] at h
    exact h
  · rw [heq] at h
    exact Or.inl h

theorem mem_sent_of_front {ch : Channel α} {a : α} (h : ch.front = some a) : a ∈ ch.sent :=
  List.mem_of_getElem? h

/-- The channel with every value seen through `f`. -/
def map {β : Type} (f : α → β) (ch : Channel α) : Channel β :=
  ⟨ch.capacity, ch.sent.map f, ch.taken, ch.refused.map f, ch.listening⟩

/-- What a value looks like has no part in whether it is queued. -/
theorem map_trySend {β : Type} (f : α → β) (ch : Channel α) (a : α) :
    (ch.map f).trySend (f a) = ((ch.trySend a).1, (ch.trySend a).2.map f) := by
  have hroom : (ch.map f).hasRoom = ch.hasRoom := by simp [hasRoom, map]
  rw [trySend, trySend, hroom]
  split_ifs <;> simp [map]

end Channel

/-- All channels of a process, by id. -/
abbrev Channels (ι α : Type) := ι → Channel α

namespace Channels

variable {ι α : Type} [DecidableEq ι]

/-- `mpsc::channel`, with `c` as the id of the new channel. -/
def create (cs : Channels ι α) (c : ι) (capacity : Nat) : Channels ι α :=
  Function.update cs c (Channel.new capacity)

def trySend (cs : Channels ι α) (c : ι) (a : α) : Bool × Channels ι α :=
  (((cs c).trySend a).1, Function.update cs c ((cs c).trySend a).2)

def take (cs : Channels ι α) (c : ι) : Channels ι α := Function.update cs c (cs c).take

def close (cs : Channels ι α) (c : ι) : Channels ι α := Function.update cs c (cs c).close

/-- The same value offered to one channel after the other, full channels being skipped. -/
def sendAll (cs : Channels ι α) (targets : List ι) (a : α) : Channels ι α :=
  targets.foldl (fun cs c => (cs.trySend c a).2) cs

theorem trySend_other {cs : Channels ι α} {c d : ι} (a : α) (h : d ≠ c) :
    (cs.trySend c a).2 d = cs d := by
  rw [trySend]
  exact Function.update_of_ne h _ _

theorem trySend_self (cs : Channels ι α) (c : ι) (a : α) :
    (cs.trySend c a).2 c = ((cs c).trySend a).2 := by
  rw [trySend]
  exact Function.update_self _ _ _

theorem create_other {cs : Channels ι α} {c d : ι} (capacity : Nat) (h : d ≠ c) :
    cs.create c capacity d = cs d :=
  Function.update_of_ne h _ _

theorem create_self (cs : Channels ι α) (c : ι) (capacity : Nat) :
    cs.create c capacity c = Channel.new capacity :=
  Function.update_self _ _ _

theorem sendAll_other {cs : Channels ι α} {targets : List ι} {d : ι} (a : α) (h : d ∉ targets) :
    cs.sendAll targets a d = cs d := by
  induction targets generalizing cs with
  | nil => rfl
  | cons c rest ih =>
    rw [List.mem_cons, not_or] at h
    rw [sendAll, List.foldl_cons]
    exact (ih h.2).trans (trySend_other a h.1)

theorem sent_trySend_extends (cs : Channels ι α) (c d : ι) (a : α) :
    (cs d).sent <+: ((cs.trySend c a).2 d).sent := by
  by_cases h : d = c
  · subst h
    rw [trySend_self]
    rcases (cs d).trySend_sent_cases a with heq | heq
    · rw [heq]
      exact List.prefix_append _ _
    · simp only [heq, List.prefix_rfl]
  · simp only [trySend_other a h, List.prefix_rfl]

theorem sent_sendAll_extends (cs : Channels ι α) (targets : List ι) (d : ι) (a : α) :
    (cs d).sent <+: (cs.sendAll targets a d).sent := by
  induction targets generalizing cs with
  | nil => exact List.prefix_rfl
  | cons c rest ih => exact (sent_trySend_extends cs c d a).trans (ih _)

/-- A target with room gets the value. -/
theorem sent_sendAll_of_hasRoom {cs : Channels ι α} {targets : List ι} {c : ι} {a : α}
    (hc : c ∈ targets) (hroom : (cs c).hasRoom = true) :
    (cs c).sent ++ [a] <+: (cs.sendAll targets a c).sent := by
  induction targets generalizing cs with
  | nil => simp at hc
  | cons d rest ih =>
    rw [sendAll, List.foldl_cons]
    by_cases heq : c = d
    · subst heq
      have hsent : ((cs.trySend c a).2 c).sent = (cs c).sent ++ [a] := by
        rw [trySend_self, Channel.trySend_of_hasRoom hroom]
      rw [← hsent]
      exact sent_sendAll_extends _ rest c a
    · have hsame : (cs.trySend d a).2 c = cs c := trySend_other a heq
      have hrest : c ∈ rest := by
        rcases List.mem_cons.mp hc with h | h
        · exact absurd h heq
        · exact h
      have htail := @ih (cs.trySend d a).2 hrest (by rw [hsame]; exact hroom)
      rw [hsame] at htail
      exact htail

/-- A channel that refused nothing got one copy each time it was a target. -/
theorem sendAll_of_not_refused {cs : Channels ι α} {targets : List ι} {c : ι} {a : α}
    (h : (cs.sendAll targets a c).refused = []) :
    (cs c).refused = [] ∧
      (cs.sendAll targets a c).sent = (cs c).sent ++ List.replicate (targets.count c) a := by
  induction targets generalizing cs with
  | nil => exact ⟨h, by simp [sendAll]⟩
  | cons d rest ih =>
    obtain ⟨hmid, hsent⟩ := @ih (cs.trySend d a).2 h
    have hstep : cs.sendAll (d :: rest) a c = (cs.trySend d a).2.sendAll rest a c := rfl
    rw [hstep, hsent]
    by_cases heq : c = d
    · subst heq
      rw [trySend_self] at hmid ⊢
      obtain ⟨hone, hbefore⟩ := Channel.trySend_sent_of_not_refused hmid
      refine ⟨hbefore, ?_⟩
      rw [hone, List.count_cons_self, List.replicate_succ, List.append_assoc]
      rfl
    · rw [trySend_other a heq] at hmid ⊢
      rw [List.count_cons_of_ne (Ne.symm heq)]
      exact ⟨hmid, rfl⟩

/-- A list of values offered to one channel. -/
def sendList (cs : Channels ι α) (c : ι) (as : List α) : Channels ι α :=
  as.foldl (fun cs a => (cs.trySend c a).2) cs

theorem sendList_other {cs : Channels ι α} {c d : ι} (as : List α) (h : d ≠ c) :
    cs.sendList c as d = cs d := by
  induction as generalizing cs with
  | nil => rfl
  | cons a rest ih =>
    rw [sendList, List.foldl_cons]
    exact ih.trans (trySend_other a h)

theorem sendList_of_not_refused {cs : Channels ι α} {c : ι} {as : List α}
    (h : (cs.sendList c as c).refused = []) :
    (cs c).refused = [] ∧ (cs.sendList c as c).sent = (cs c).sent ++ as := by
  induction as generalizing cs with
  | nil => exact ⟨h, by simp [sendList]⟩
  | cons a rest ih =>
    obtain ⟨hmid, hsent⟩ := @ih (cs.trySend c a).2 h
    have hstep : cs.sendList c (a :: rest) c = (cs.trySend c a).2.sendList c rest c := rfl
    rw [trySend_self] at hmid hsent
    obtain ⟨hone, hbefore⟩ := Channel.trySend_sent_of_not_refused hmid
    refine ⟨hbefore, ?_⟩
    rw [hstep, hsent, hone, List.append_assoc]
    rfl

end Channels

end Coderd.Foundation
