import Coderd.Drpc.Wire
import Coderd.Foundation.Unwinding

namespace Coderd.Drpc
open Coderd.Foundation

/-- Reassembly of a single stream: the whole state is that stream's partial, if any. -/
def streamPush (slot : Option PartialPacket) (frame : Frame) :
    Except DrpcError (Option Packet) × Option PartialPacket :=
  if frame.kind.terminal then (.ok (some ⟨frame.kind, frame.id, frame.data⟩), none)
  else
    match slot with
    | some held =>
      if held.kind ≠ frame.kind then
        (.error (.protocol ("multi-frame packet kind mismatch: expected "
          ++ held.kind.debug ++ ", got " ++ frame.kind.debug)), none)
      else if held.data.length + frame.data.length > maxPacketSize then
        (.error (.protocol ("reassembled drpc packet exceeds "
          ++ toString maxPacketSize ++ " bytes")), none)
      else if frame.done then (.ok (some ⟨held.kind, held.id, held.data ++ frame.data⟩), none)
      else (.ok none, some ⟨held.kind, frame.id, held.data ++ frame.data⟩)
    | none =>
      if frame.done then
        if frame.data.length > maxPacketSize then
          (.error (.protocol ("single-frame drpc packet exceeds "
            ++ toString maxPacketSize ++ " bytes")), none)
        else (.ok (some ⟨frame.kind, frame.id, frame.data⟩), none)
      else if frame.data.length > maxPacketSize then
        (.error (.protocol ("first drpc frame already exceeds "
          ++ toString maxPacketSize ++ " bytes")), none)
      else (.ok none, some ⟨frame.kind, frame.id, frame.data⟩)

namespace PacketReassembler

/-- `push` answers as the frame's own stream alone would. -/
theorem push_result (r : PacketReassembler) (frame : Frame) :
    (r.push frame).1 = (streamPush (r.pending.lookup frame.id.stream) frame).1 := by
  simp only [push, streamPush]
  split
  · rfl
  · cases r.pending.lookup frame.id.stream with
    | some held => dsimp only; split_ifs <;> rfl
    | none => dsimp only; split_ifs <;> rfl

/-- `push` moves the slot of the frame's stream as `streamPush` does and no other slot. -/
theorem push_lookup (r : PacketReassembler) (frame : Frame) (s : UInt64) :
    (r.push frame).2.pending.lookup s =
      if s = frame.id.stream then (streamPush (r.pending.lookup frame.id.stream) frame).2
      else r.pending.lookup s := by
  by_cases hs : s = frame.id.stream
  · subst hs
    simp only [push, streamPush, if_true]
    split
    · exact AList.lookup_erase _ _
    · cases hslot : r.pending.lookup frame.id.stream with
      | some held => dsimp only; split_ifs <;> simp
      | none => dsimp only; split_ifs <;> simp [hslot]
  · simp only [push, if_neg hs]
    split
    · exact AList.lookup_erase_ne hs
    · cases r.pending.lookup frame.id.stream with
      | some held =>
        dsimp only
        split_ifs <;> simp [hs]
      | none =>
        dsimp only
        split_ifs <;> simp [hs]

theorem push_unwinds (s : UInt64) :
    Unwinds push (fun frame => frame.id.stream) (fun r => r.pending.lookup s) s where
  respects := by
    intro r frame hne
    rw [push_lookup, if_neg (Ne.symm hne)]
  consistent := by
    intro r r' frame heq hview
    subst heq
    refine ⟨?_, ?_⟩
    · rw [push_result, push_result, hview]
    · rw [push_lookup, push_lookup, hview]

/-- Every buffered partial is filed under the stream it carries. -/
def KeyedByStream (r : PacketReassembler) : Prop :=
  ∀ s held, r.pending.lookup s = some held → held.id.stream = s

theorem keyedByStream_new : KeyedByStream new := by
  intro s held h
  simp [new] at h

theorem streamPush_stream {slot : Option PartialPacket} {frame : Frame}
    (hslot : ∀ held, slot = some held → held.id.stream = frame.id.stream) :
    (∀ packet, (streamPush slot frame).1 = .ok (some packet) →
        packet.id.stream = frame.id.stream) ∧
      ∀ held, (streamPush slot frame).2 = some held → held.id.stream = frame.id.stream := by
  simp only [streamPush]
  split
  · simp
  · cases slot with
    | none => dsimp only; split_ifs <;> simp
    | some held =>
      have hid := hslot held rfl
      dsimp only
      split_ifs <;> simp [hid]

theorem KeyedByStream.push {r : PacketReassembler} (h : r.KeyedByStream) (frame : Frame) :
    (r.push frame).2.KeyedByStream := by
  intro s held hs
  rw [push_lookup] at hs
  split_ifs at hs with heq
  · subst heq
    exact (streamPush_stream (h frame.id.stream)).2 held hs
  · exact h s held hs

theorem KeyedByStream.run {r : PacketReassembler} (h : r.KeyedByStream) (frames : List Frame) :
    (runWith PacketReassembler.push r frames).2.KeyedByStream := by
  induction frames generalizing r with
  | nil => exact h
  | cons frame rest ih => exact ih (h.push frame)

/-- Whatever the other streams do, stream `s` returns what it would return alone and is
left with the partial it would hold alone; a frame never touches a foreign partial nor
completes one. -/
theorem run_stream_isolated (frames : List Frame) (s : UInt64) :
    outputsOf (fun frame => frame.id.stream) s frames (runWith push new frames).1 =
        (runWith push new (frames.filter (fun frame => frame.id.stream = s))).1 ∧
      (runWith push new frames).2.pending.lookup s =
        (runWith push new (frames.filter (fun frame => frame.id.stream = s))).2.pending.lookup s ∧
      ∀ frame, frame.id.stream ≠ s →
        ((runWith push new frames).2.push frame).2.pending.lookup s =
            (runWith push new frames).2.pending.lookup s ∧
          ∀ packet, ((runWith push new frames).2.push frame).1 = .ok (some packet) →
            packet.id.stream ≠ s := by
  obtain ⟨hout, hview⟩ := (push_unwinds s).run frames new new rfl
  refine ⟨hout, hview, fun frame hne => ⟨(push_unwinds s).respects _ frame hne, ?_⟩⟩
  intro packet hpacket
  rw [push_result] at hpacket
  have hkeyed := keyedByStream_new.run frames
  rw [(streamPush_stream (hkeyed frame.id.stream)).1 packet hpacket]
  exact hne

end PacketReassembler

end Coderd.Drpc
