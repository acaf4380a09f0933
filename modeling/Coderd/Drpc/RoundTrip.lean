import Coderd.Drpc.StreamIsolation
import Coderd.Drpc.Varint

namespace Coderd.Drpc
open Coderd.Foundation

/-- Call `read_packet` `n` times in a row on one stream. -/
def readPackets : Nat → List UInt8 → List (Except DrpcError Packet)
  | 0, _ => []
  | n + 1, bytes => (readPacket bytes).1 :: readPackets n (readPacket bytes).2

/-- The frames of one packet, `done` set on the last one only. -/
def cutFrames (kind : Kind) (id : PacketId) : List (List UInt8) → List Frame
  | [] => []
  | [last] => [⟨kind, id, last, true⟩]
  | chunk :: next :: rest => ⟨kind, id, chunk, false⟩ :: cutFrames kind id (next :: rest)

/-- A packet with one way of cutting its payload into at least one piece. -/
structure CutPacket where
  packet : Packet
  chunks : List (List UInt8)
  chunks_ne : chunks ≠ []
  joined : chunks.flatten = packet.data

def CutPacket.frames (c : CutPacket) : List Frame :=
  cutFrames c.packet.kind c.packet.id c.chunks

/-- The wire bytes of a list of cut packets, frame after frame. -/
def wire (cuts : List CutPacket) : List UInt8 :=
  cuts.flatMap fun c => c.frames.flatMap writeFrame

theorem header_kind (kind : Kind) (done : Bool) :
    Kind.fromU8 ((((kind.toU8 <<< 1) ||| (if done then 0b00000001 else 0)) &&& 0b01111110) >>> 1) =
      .ok kind := by
  cases kind <;> cases done <;> rfl

theorem header_done (kind : Kind) (done : Bool) :
    decide (((kind.toU8 <<< 1) ||| (if done then 0b00000001 else 0)) &&& 0b00000001 ≠ 0) = done := by
  cases kind <;> cases done <;> decide

theorem readExact_append (data : List UInt8) : (readExact data.length).Decodes data data := by
  intro rest
  simp [readExact]

theorem readFrameBody_encode (kind : Kind) (id : PacketId) (data : List UInt8) (done : Bool)
    (hsize : data.length ≤ maxPacketSize) :
    (readFrameBody kind done).Decodes
      (encodeVarint id.stream ++ encodeVarint id.message
        ++ encodeVarint (UInt64.ofNat data.length) ++ data) ⟨kind, id, data, done⟩ := by
  have hlen : (UInt64.ofNat data.length).toNat = data.length := by
    rw [UInt64.toNat_ofNat']
    exact Nat.mod_eq_of_lt (by simp only [maxPacketSize] at hsize; omega)
  simp only [List.append_assoc]
  refine .bind (readVarint_encodeVarint _) (.bind (readVarint_encodeVarint _)
    (.bind (readVarint_encodeVarint _) ?_))
  rw [if_neg (by omega), hlen]
  have h := (readExact_append data).bind (k := fun data' =>
    (pure ⟨kind, ⟨id.stream, id.message⟩, data', done⟩ : Reader Frame)) (.pure _)
  simpa using h

/-- A written frame reads back, and the read stops at the frame's last byte. -/
theorem readFrame_writeFrame (frame : Frame) (hsize : frame.data.length ≤ maxPacketSize) :
    readFrame.Decodes (writeFrame frame) frame := by
  intro rest
  rw [writeFrame, List.cons_append, readFrame,
    Effect.bind_ok (show readHeader (_ :: _) = (.ok _, _) from rfl), header_kind]
  simp only [header_done]
  exact readFrameBody_encode frame.kind frame.id frame.data frame.done hsize rest

namespace PacketReassembler

/-- `acc` is what the reassembler has gathered so far of the packet `(kind, id)`. -/
def Holds (r : PacketReassembler) (kind : Kind) (id : PacketId) (acc : List UInt8) : Prop :=
  (acc = [] ∧ r.pending.lookup id.stream = none) ∨
    r.pending.lookup id.stream = some ⟨kind, id, acc⟩

theorem holds_new (kind : Kind) (id : PacketId) : Holds new kind id [] :=
  Or.inl ⟨rfl, AList.lookup_empty _⟩

/-- One further frame of the same packet: it is joined to what is held, and it completes
the packet exactly when its `done` bit is set. -/
theorem Holds.push {r : PacketReassembler} {kind : Kind} {id : PacketId} {acc : List UInt8}
    (h : r.Holds kind id acc) (hkind : kind.terminal = false) (data : List UInt8) (done : Bool)
    (hsize : acc.length + data.length ≤ maxPacketSize) :
    (r.push ⟨kind, id, data, done⟩).1 =
        .ok (if done then some ⟨kind, id, acc ++ data⟩ else none) ∧
      (done = false → (r.push ⟨kind, id, data, done⟩).2.Holds kind id (acc ++ data)) := by
  unfold Holds
  rw [push_result, push_lookup, if_pos rfl]
  rcases h with ⟨rfl, hslot⟩ | hslot
  · have hdata : ¬ data.length > maxPacketSize := by simp at hsize; omega
    rw [hslot]
    cases done <;> simp [streamPush, hkind, hdata]
  · have hjoin : ¬ acc.length + data.length > maxPacketSize := by omega
    rw [hslot]
    cases done <;> simp [streamPush, hkind, hjoin]

end PacketReassembler

theorem readPacketLoop_ok {r : PacketReassembler} {bytes rest : List UInt8} {frame : Frame}
    (h : readFrame bytes = (.ok frame, rest)) :
    readPacketLoop r bytes =
      match r.push frame with
      | (.error e, _) => (.error e, rest)
      | (.ok (some packet), _) => (.ok packet, rest)
      | (.ok none, r') => readPacketLoop r' rest := by
  rw [readPacketLoop]
  split
  · rename_i heq; rw [h] at heq; simp at heq
  · rename_i heq
    rw [h] at heq
    obtain ⟨rfl, rfl⟩ : frame = _ ∧ rest = _ := by simpa using heq
    rfl

/-- The reassembly loop over the frames of one packet. The induction is on the pieces still
to come; what is already held is the invariant's accumulator. -/
theorem readPacketLoop_cutFrames (kind : Kind) (id : PacketId) (hkind : kind.terminal = false)
    (chunks : List (List UInt8)) (hne : chunks ≠ []) (r : PacketReassembler) (acc : List UInt8)
    (hr : r.Holds kind id acc) (hsize : acc.length + chunks.flatten.length ≤ maxPacketSize)
    (rest : List UInt8) :
    readPacketLoop r ((cutFrames kind id chunks).flatMap writeFrame ++ rest) =
      (.ok ⟨kind, id, acc ++ chunks.flatten⟩, rest) := by
  induction chunks generalizing r acc with
  | nil => exact absurd rfl hne
  | cons chunk more ih =>
    simp only [List.flatten_cons, List.length_append] at hsize
    cases more with
    | nil =>
      have hread := readFrame_writeFrame ⟨kind, id, chunk, true⟩
        (show chunk.length ≤ maxPacketSize by omega) rest
      have hpush := (hr.push hkind chunk true (by omega)).1
      simp only [cutFrames, List.flatMap_cons, List.flatMap_nil, List.append_nil]
      rw [readPacketLoop_ok hread]
      rcases hp : r.push ⟨kind, id, chunk, true⟩ with ⟨res, r'⟩
      rw [hp] at hpush
      simp only at hpush
      subst hpush
      simp
    | cons next later =>
      have hread := readFrame_writeFrame ⟨kind, id, chunk, false⟩
        (show chunk.length ≤ maxPacketSize by omega)
        ((cutFrames kind id (next :: later)).flatMap writeFrame ++ rest)
      obtain ⟨hpush, hheld⟩ := hr.push hkind chunk false (by omega)
      have hheld := hheld rfl
      simp only [cutFrames, List.flatMap_cons, List.append_assoc]
      rw [readPacketLoop_ok hread]
      rcases hp : r.push ⟨kind, id, chunk, false⟩ with ⟨res, r'⟩
      rw [hp] at hpush hheld
      simp only at hpush
      subst hpush
      have hrest := ih (by simp) r' (acc ++ chunk) hheld (by simp only [List.length_append]; omega)
      simpa using hrest

theorem readPacket_cut (c : CutPacket) (hkind : c.packet.kind.terminal = false)
    (hsize : c.packet.data.length ≤ maxPacketSize) :
    readPacket.Decodes (c.frames.flatMap writeFrame) c.packet := by
  intro rest
  have h := readPacketLoop_cutFrames c.packet.kind c.packet.id hkind c.chunks c.chunks_ne .new []
    (PacketReassembler.holds_new _ _) (by simpa [c.joined] using hsize) rest
  rw [List.nil_append, c.joined] at h
  exact h

theorem readPacketLoop_nil (r : PacketReassembler) :
    readPacketLoop r [] = (.error .closed, []) := by
  have hclosed : readFrame [] = (.error .closed, []) := rfl
  rw [readPacketLoop]
  split
  · rename_i heq
    rw [hclosed] at heq
    simpa using heq.symm
  · rename_i heq
    rw [hclosed] at heq
    simp at heq

theorem readPacket_nil : readPacket [] = (.error .closed, []) := readPacketLoop_nil .new

/-- Every list of data packets, cut into frames in any way and written one frame after the
other, comes back packet by packet from `read_packet`, and the next call reports the close.
The packets need not share a stream. -/
theorem readPackets_wire (cuts : List CutPacket)
    (hkind : ∀ c ∈ cuts, c.packet.kind ∈ [Kind.invoke, .message, .closeSend, .invokeMetadata])
    (hsize : ∀ c ∈ cuts, c.packet.data.length ≤ maxPacketSize) :
    readPackets (cuts.length + 1) (wire cuts) =
      cuts.map (fun c => .ok c.packet) ++ [.error .closed] := by
  induction cuts with
  | nil => simp [readPackets, wire, readPacket_nil]
  | cons c rest ih =>
    have hterm : c.packet.kind.terminal = false := by
      have := hkind c (by simp)
      generalize c.packet.kind = kind at this
      cases kind <;> simp_all [Kind.terminal]
    have hread := readPacket_cut c hterm (hsize c (by simp)) (wire rest)
    have hih := ih (fun d hd => hkind d (by simp [hd])) (fun d hd => hsize d (by simp [hd]))
    rw [List.length_cons, readPackets,
      show wire (c :: rest) = c.frames.flatMap writeFrame ++ wire rest by simp [wire], hread]
    simp [hih]

/-- An invocation in one frame, then a message in three frames of which one is empty. -/
def sampleCuts : List CutPacket :=
  [⟨⟨.invoke, ⟨5, 1⟩, [47, 65]⟩, [[47, 65]], by decide, rfl⟩,
   ⟨⟨.message, ⟨5, 2⟩, [1, 2, 3]⟩, [[1, 2], [], [3]], by decide, rfl⟩]

theorem readPackets_wire_sampleCuts :
    readPackets 3 (wire sampleCuts) =
      [.ok ⟨.invoke, ⟨5, 1⟩, [47, 65]⟩, .ok ⟨.message, ⟨5, 2⟩, [1, 2, 3]⟩, .error .closed] :=
  readPackets_wire sampleCuts (by decide) (by decide)

end Coderd.Drpc
