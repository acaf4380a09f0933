import Coderd.Drpc.StreamIsolation
import Coderd.Foundation.Transition

namespace Coderd.Drpc
open Coderd.Foundation

/-- The payload of `frame` is appended to the partial instead of being refused. -/
def PartialPacket.Joins (held : PartialPacket) (frame : Frame) : Prop :=
  frame.kind.terminal = false ∧ held.kind = frame.kind ∧
    held.data.length + frame.data.length ≤ maxPacketSize

instance (held : PartialPacket) (frame : Frame) : Decidable (held.Joins frame) :=
  inferInstanceAs (Decidable (_ ∧ _ ∧ _))

/-- All of `parts` carry this kind and id, and their payloads in order are `data`. -/
def MadeOf (kind : Kind) (id : PacketId) (data : List UInt8) (parts : List Frame) : Prop :=
  (∀ part ∈ parts, part.kind = kind ∧ part.id = id) ∧ parts.flatMap Frame.data = data

theorem madeOf_single (frame : Frame) : MadeOf frame.kind frame.id frame.data [frame] := by
  constructor
  · intro part hpart
    rw [List.mem_singleton] at hpart
    exact ⟨by rw [hpart], by rw [hpart]⟩
  · simp

theorem MadeOf.append {kind : Kind} {id : PacketId} {data : List UInt8} {parts : List Frame}
    (h : MadeOf kind id data parts) (frame : Frame) (hkind : frame.kind = kind)
    (hid : frame.id = id) : MadeOf kind id (data ++ frame.data) (parts ++ [frame]) := by
  constructor
  · intro part hpart
    rw [List.mem_append, List.mem_singleton] at hpart
    rcases hpart with hpart | rfl
    · exact h.1 part hpart
    · exact ⟨hkind, hid⟩
  · rw [List.flatMap_append, h.2]
    simp

/-- A returned packet is its last frame alone, or that frame joined to the partial. -/
theorem streamPush_packet {slot : Option PartialPacket} {frame : Frame} {packet : Packet}
    (h : (streamPush slot frame).1 = .ok (some packet)) :
    packet = ⟨frame.kind, frame.id, frame.data⟩ ∨
      ∃ held, slot = some held ∧ held.Joins frame ∧
        packet = ⟨held.kind, held.id, held.data ++ frame.data⟩ := by
  simp only [streamPush] at h
  split at h
  · simp only [Except.ok.injEq, Option.some.injEq] at h
    exact Or.inl h.symm
  · rename_i hterm
    cases slot with
    | none =>
      dsimp only at h
      split_ifs at h
      · simp only [Except.ok.injEq, Option.some.injEq] at h
        exact Or.inl h.symm
      · simp at h
    | some held =>
      dsimp only at h
      split_ifs at h with hkind hsize hdone
      · simp only [Except.ok.injEq, Option.some.injEq] at h
        have hjoins : held.Joins frame :=
          ⟨by simpa using hterm, by simpa using hkind, by omega⟩
        exact Or.inr ⟨held, rfl, hjoins, h.symm⟩
      · simp at h

/-- A partial left behind by a frame was started by it or extended by it, and extending it
puts the frame's id in the place of the older one. -/
theorem streamPush_held {slot : Option PartialPacket} {frame : Frame} {left : PartialPacket}
    (h : (streamPush slot frame).2 = some left) :
    left = ⟨frame.kind, frame.id, frame.data⟩ ∨
      ∃ held, slot = some held ∧ held.Joins frame ∧
        left = ⟨held.kind, frame.id, held.data ++ frame.data⟩ := by
  simp only [streamPush] at h
  split at h
  · simp at h
  · rename_i hterm
    cases slot with
    | none =>
      dsimp only at h
      split_ifs at h
      simp only [Option.some.injEq] at h
      exact Or.inl h.symm
    | some held =>
      dsimp only at h
      split_ifs at h with hkind hsize hdone
      simp only [Option.some.injEq] at h
      have hjoins : held.Joins frame :=
        ⟨by simpa using hterm, by simpa using hkind, by omega⟩
      exact Or.inr ⟨held, rfl, hjoins, h.symm⟩

namespace PacketReassembler

/-- The reassembler left behind by one frame. -/
def fed (r : PacketReassembler) (frame : Frame) : PacketReassembler := (r.push frame).2

/-- A frame is joined only to a partial of its own message. -/
def JoinsOwnMessage (r : PacketReassembler) (frame : Frame) : Prop :=
  ∀ held, r.pending.lookup frame.id.stream = some held → held.Joins frame → held.id = frame.id

instance (r : PacketReassembler) (frame : Frame) : Decidable (r.JoinsOwnMessage frame) :=
  inferInstanceAs (Decidable (∀ held ∈ r.pending.lookup frame.id.stream,
    held.Joins frame → held.id = frame.id))

/-- Every partial is made of the latest frames of its stream, all of one message. -/
def OneMessagePartials (past : List Frame) (r : PacketReassembler) : Prop :=
  ∀ s held, r.pending.lookup s = some held →
    ∃ parts, MadeOf held.kind held.id held.data parts ∧
      parts <:+ past.filter (fun frame => frame.id.stream = s)

theorem suffix_filter_append {parts past : List Frame} {frame : Frame} {s : UInt64}
    (h : parts <:+ past.filter (fun frame => frame.id.stream = s)) (hs : frame.id.stream = s) :
    parts ++ [frame] <:+ (past ++ [frame]).filter (fun frame => frame.id.stream = s) := by
  obtain ⟨front, hfront⟩ := h
  refine ⟨front, ?_⟩
  rw [List.filter_append, ← hfront]
  simp [hs]

theorem OneMessagePartials.push {past : List Frame} {r : PacketReassembler}
    (h : OneMessagePartials past r) (frame : Frame) (hjoin : r.JoinsOwnMessage frame) :
    OneMessagePartials (past ++ [frame]) (r.fed frame) := by
  intro s left hleft
  rw [fed, push_lookup] at hleft
  by_cases hs : s = frame.id.stream
  · subst hs
    rw [if_pos rfl] at hleft
    rcases streamPush_held hleft with rfl | ⟨held, hslot, hjoins, rfl⟩
    · exact ⟨[frame], madeOf_single frame,
        suffix_filter_append (List.nil_suffix) rfl⟩
    · -- the partial keeps its kind and takes the frame's id, which by `hjoin` it already had
      obtain ⟨parts, hmade, hsuffix⟩ := h _ held hslot
      have hid : held.id = frame.id := hjoin held hslot hjoins
      rw [hid] at hmade
      exact ⟨parts ++ [frame], hmade.append frame hjoins.2.1.symm rfl,
        suffix_filter_append hsuffix rfl⟩
  · rw [if_neg hs] at hleft
    obtain ⟨parts, hmade, hsuffix⟩ := h s left hleft
    refine ⟨parts, hmade, ?_⟩
    have hne : ¬ frame.id.stream = s := fun heq => hs heq.symm
    simpa [List.filter_append, hne] using hsuffix

theorem oneMessagePartials_new : OneMessagePartials [] new := by
  intro s held h
  simp [new] at h

/-- Over every sequence of frames in which a frame is joined only to a partial of its own
message, each returned packet is the payloads of frames of exactly its kind and id, and
these are consecutive among the frames of its stream. -/
theorem packet_of_one_message (before : List Frame) (frame : Frame) (packet : Packet)
    (hrun : Along fed JoinsOwnMessage new (before ++ [frame]))
    (hpacket : ((runWith push new before).2.push frame).1 = .ok (some packet)) :
    ∃ parts, MadeOf packet.kind packet.id packet.data (parts ++ [frame]) ∧
      parts ++ [frame] <:+
        (before ++ [frame]).filter (fun frame => frame.id.stream = packet.id.stream) := by
  obtain ⟨hbefore, hlast, -⟩ := (along_append new before [frame]).mp hrun
  have hinv : OneMessagePartials before (before.foldl fed new) :=
    hbefore.history (fun past r frame h hok => h.push frame hok) oneMessagePartials_new
  rw [runWith_snd, push_result] at hpacket
  rcases streamPush_packet hpacket with rfl | ⟨held, hslot, hjoins, rfl⟩
  · exact ⟨[], madeOf_single frame, suffix_filter_append (List.nil_suffix) rfl⟩
  · obtain ⟨parts, hmade, hsuffix⟩ := hinv _ held hslot
    have hid : held.id = frame.id := hlast held hslot hjoins
    refine ⟨parts, hmade.append frame hjoins.2.1.symm hid.symm, ?_⟩
    have hstream : frame.id.stream = held.id.stream := by rw [hid]
    exact suffix_filter_append (hstream ▸ hsuffix) hstream

/-- A message in two frames with another stream's frame between them. -/
theorem packet_of_one_message_interleaved :
    ∃ parts, MadeOf .message ⟨1, 4⟩ [7, 8] (parts ++ [⟨.message, ⟨1, 4⟩, [8], true⟩]) ∧
      parts ++ [⟨.message, ⟨1, 4⟩, [8], true⟩] <:+
        [⟨.message, ⟨1, 4⟩, [7], false⟩, ⟨.message, ⟨1, 4⟩, [8], true⟩] :=
  packet_of_one_message
    [⟨.message, ⟨1, 4⟩, [7], false⟩, ⟨.invoke, ⟨2, 1⟩, [9], false⟩] ⟨.message, ⟨1, 4⟩, [8], true⟩
    ⟨.message, ⟨1, 4⟩, [7, 8]⟩ (by decide) (by decide)

/-- A sender that abandons message 1 after a frame and goes on with message 2: the bytes of
both come out as one packet. -/
theorem packet_of_two_messages :
    ¬ ∀ (before : List Frame) (frame : Frame) (packet : Packet),
      ((runWith push new before).2.push frame).1 = .ok (some packet) →
        ∃ parts, MadeOf packet.kind packet.id packet.data (parts ++ [frame]) ∧
          parts ++ [frame] <:+
            (before ++ [frame]).filter (fun frame => frame.id.stream = packet.id.stream) := by
  intro h
  obtain ⟨parts, hmade, -⟩ := h [⟨.message, ⟨1, 1⟩, [1], false⟩] ⟨.message, ⟨1, 2⟩, [2], true⟩
    ⟨.message, ⟨1, 1⟩, [1, 2]⟩ (by decide)
  have hlast := (hmade.1 ⟨.message, ⟨1, 2⟩, [2], true⟩ (by simp)).2
  exact absurd hlast (by decide)

end PacketReassembler

end Coderd.Drpc
