import Mathlib.Data.List.DropRight
import Mathlib.Data.List.TakeDrop

namespace Coderd.Pty

/-! ## The end of a list -/

section End

variable {α : Type}

theorem rtake_append (l m : List α) (n : Nat) :
    (l ++ m).rtake n = l.rtake (n - m.length) ++ m.rtake n := by
  simp only [List.rtake_eq_reverse_take_reverse, List.reverse_append, List.take_append,
    List.length_reverse]

theorem rtake_rtake (l : List α) {k n : Nat} (h : k ≤ n) : (l.rtake n).rtake k = l.rtake k := by
  rw [List.rtake_eq_reverse_take_reverse, List.rtake_eq_reverse_take_reverse,
    List.rtake_eq_reverse_take_reverse, List.reverse_reverse, List.take_take, min_eq_left h]

/-- What is not at the end of a list is not at the end of a longer one. -/
theorem rtake_rtake_append (l m : List α) (n : Nat) :
    (l.rtake n ++ m).rtake n = (l ++ m).rtake n := by
  rw [rtake_append, rtake_append, rtake_rtake l (Nat.sub_le n m.length)]

theorem rtake_min_length (l : List α) (n : Nat) : l.rtake (min l.length n) = l.rtake n := by
  have hsame : l.length - min l.length n = l.length - n := by omega
  rw [List.rtake, List.rtake, hsame]

theorem length_rtake_le (l : List α) (n : Nat) : (l.rtake n).length ≤ n := by
  rw [List.rtake, List.length_drop]
  omega

end End

/-! ## The ring buffer -/

/-- The bytes of the ring for `bytes` that come to `data`. -/
def pushBytes (capacity : Nat) (data bytes : List UInt8) : List UInt8 :=
  let (start, overflow, data) :=
    if bytes.length ≥ capacity then (bytes.length - capacity, 0, [])
    else (0, data.length + bytes.length - capacity, data)
  List.tail^[overflow] data ++ bytes.drop start

theorem pushBytes_eq (capacity : Nat) (data bytes : List UInt8) :
    pushBytes capacity data bytes = (data ++ bytes).rtake capacity := by
  rw [pushBytes, rtake_append]
  by_cases hlong : bytes.length ≥ capacity
  · have hnone : capacity - bytes.length = 0 := by omega
    rw [if_pos hlong, hnone, List.rtake_zero]
    rfl
  · have hstart : bytes.length - capacity = 0 := by omega
    have hover : data.length - (capacity - bytes.length) =
        data.length + bytes.length - capacity := by omega
    rw [if_neg hlong]
    show List.tail^[data.length + bytes.length - capacity] data ++ bytes = _
    rw [List.tail_iterate, List.rtake, List.rtake, hstart, hover, List.drop_zero]

theorem length_pushBytes_le (capacity : Nat) (data bytes : List UInt8) :
    (pushBytes capacity data bytes).length ≤ capacity := by
  rw [pushBytes_eq]
  exact length_rtake_le _ capacity

/-- Bounded byte ring that discards the oldest bytes when full. The oldest byte comes first. -/
structure RingBuffer where
  capacity : Nat
  data : List UInt8
  capacity_pos : 0 < capacity
  length_le : data.length ≤ capacity

namespace RingBuffer

def new (capacity : Nat) : RingBuffer where
  capacity := max capacity 1
  data := []
  capacity_pos := Nat.lt_of_lt_of_le Nat.one_pos (Nat.le_max_right capacity 1)
  length_le := Nat.zero_le (max capacity 1)

def push (buffer : RingBuffer) (bytes : List UInt8) : RingBuffer where
  capacity := buffer.capacity
  data := pushBytes buffer.capacity buffer.data bytes
  capacity_pos := buffer.capacity_pos
  length_le := length_pushBytes_le buffer.capacity buffer.data bytes

def snapshot (buffer : RingBuffer) : List UInt8 := buffer.data

/-- `Session::push_output`; empty outputs do not come to the ring. -/
def pushOutput (buffer : RingBuffer) (bytes : List UInt8) : RingBuffer :=
  if bytes.isEmpty then buffer else buffer.push bytes

/-- The ring has the end of all that was pushed. -/
def Retains (buffer : RingBuffer) (output : List UInt8) : Prop :=
  buffer.data = output.rtake buffer.capacity

theorem retains_new (capacity : Nat) : (new capacity).Retains [] :=
  (List.rtake_nil (max capacity 1)).symm

theorem Retains.push {buffer : RingBuffer} {output : List UInt8} (h : buffer.Retains output)
    (bytes : List UInt8) : (buffer.push bytes).Retains (output ++ bytes) := by
  show pushBytes buffer.capacity buffer.data bytes = (output ++ bytes).rtake buffer.capacity
  rw [pushBytes_eq, show buffer.data = _ from h, rtake_rtake_append]

theorem Retains.pushes {buffer : RingBuffer} {output : List UInt8} (h : buffer.Retains output)
    (pushes : List (List UInt8)) :
    (pushes.foldl RingBuffer.push buffer).Retains (output ++ pushes.flatten) := by
  induction pushes generalizing buffer output with
  | nil =>
    rw [List.flatten_nil, List.append_nil]
    exact h
  | cons bytes pushes ih =>
    rw [List.foldl_cons, List.flatten_cons, ← List.append_assoc]
    exact ih (h.push bytes)

theorem capacity_pushes (buffer : RingBuffer) (pushes : List (List UInt8)) :
    (pushes.foldl RingBuffer.push buffer).capacity = buffer.capacity := by
  induction pushes generalizing buffer with
  | nil => rfl
  | cons bytes pushes ih =>
    rw [List.foldl_cons, ih]
    rfl

theorem Retains.pushOutput {buffer : RingBuffer} {output : List UInt8} (h : buffer.Retains output)
    (bytes : List UInt8) : (buffer.pushOutput bytes).Retains (output ++ bytes) := by
  rw [RingBuffer.pushOutput]
  split
  · rename_i hempty
    rw [List.isEmpty_iff.mp hempty, List.append_nil]
    exact h
  · exact h.push bytes

/-- Scrollback is the tail of the output. -/
theorem snapshot_pushes (capacity : Nat) (pushes : List (List UInt8)) :
    (pushes.foldl RingBuffer.push (new capacity)).snapshot =
      pushes.flatten.rtake (min pushes.flatten.length (max capacity 1)) := by
  have h := (retains_new capacity).pushes pushes
  rw [Retains, capacity_pushes, List.nil_append] at h
  rw [rtake_min_length]
  exact h

end RingBuffer

end Coderd.Pty
