import Coderd.Drpc.Merging
import Coderd.Drpc.RoundTrip

namespace Coderd.Drpc
open Coderd.Foundation

/-- The frame makes `push` answer, with a packet or with an error, instead of buffering. -/
def finishes (slot : Option PartialPacket) (frame : Frame) : Bool :=
  frame.kind.terminal || frame.done ||
    match slot with
    | some held =>
      decide (held.kind ≠ frame.kind ∨ held.data.length + frame.data.length > maxPacketSize)
    | none => decide (frame.data.length > maxPacketSize)

theorem streamPush_of_finishes {slot : Option PartialPacket} {frame : Frame}
    (h : finishes slot frame = true) :
    (streamPush slot frame).1 ≠ .ok none ∧ (streamPush slot frame).2 = none := by
  simp only [streamPush]
  by_cases hterm : frame.kind.terminal = true
  · simp [hterm]
  · cases slot with
    | none =>
      simp only [finishes, hterm, Bool.false_or, Bool.or_eq_true, decide_eq_true_eq] at h
      dsimp only
      split_ifs <;> simp_all
    | some held =>
      simp only [finishes, hterm, Bool.false_or, Bool.or_eq_true, decide_eq_true_eq] at h
      dsimp only
      split_ifs <;> simp_all

theorem streamPush_of_not_finishes {slot : Option PartialPacket} {frame : Frame}
    (h : finishes slot frame = false) : (streamPush slot frame).1 = .ok none := by
  simp only [finishes, Bool.or_eq_false_iff] at h
  obtain ⟨⟨hterm, hdone⟩, hslot⟩ := h
  cases slot with
  | none =>
    have hfits : ¬ frame.data.length > maxPacketSize := by simpa using hslot
    simp [streamPush, hterm, hdone, hfits]
  | some held =>
    have hjoins : held.kind = frame.kind ∧
        ¬ held.data.length + frame.data.length > maxPacketSize := by simpa using hslot
    simp [streamPush, hterm, hdone, hjoins.1, hjoins.2]

namespace PacketReassembler

/-- One frame on the `read_packet` path: the call that has its answer returns and drops its
private reassembler, and the next call starts with a new one. -/
def callPush (r : PacketReassembler) (frame : Frame) :
    Except DrpcError (Option Packet) × PacketReassembler :=
  match r.push frame with
  | (.ok none, r') => (.ok none, r')
  | (.ok (some packet), _) => (.ok (some packet), new)
  | (.error e, _) => (.error e, new)

/-- The reassembler the next frame meets on the `read_packet` path. -/
def callFed (r : PacketReassembler) (frame : Frame) : PacketReassembler := (r.callPush frame).2

theorem callPush_result (r : PacketReassembler) (frame : Frame) :
    (r.callPush frame).1 = (r.push frame).1 := by
  rw [callPush]
  split <;> simp_all

theorem callFed_of_answer {r : PacketReassembler} {frame : Frame}
    (h : (r.push frame).1 ≠ .ok none) : r.callFed frame = new := by
  rw [callFed, callPush]
  split <;> simp_all

theorem callFed_of_none {r : PacketReassembler} {frame : Frame}
    (h : (r.push frame).1 = .ok none) : r.callFed frame = r.fed frame := by
  rw [callFed, callPush, fed]
  split <;> simp_all

/-- No other stream is left half-received by a frame that gets an answer. -/
def FinishesAlone (r : PacketReassembler) (frame : Frame) : Prop :=
  finishes (r.pending.lookup frame.id.stream) frame = true →
    ∀ s ∈ r.pending.keys, s = frame.id.stream

instance (r : PacketReassembler) (frame : Frame) : Decidable (r.FinishesAlone frame) :=
  have : Decidable (∀ s ∈ r.pending.keys, s = frame.id.stream) :=
    List.decidableBAll (fun s => s = frame.id.stream) r.pending.keys
  inferInstanceAs (Decidable (_ → _))

/-- The two reassemblers hold the same partials. -/
def SamePartials (r r' : PacketReassembler) : Prop :=
  ∀ s, r.pending.lookup s = r'.pending.lookup s

theorem SamePartials.push_result {r r' : PacketReassembler} (h : r.SamePartials r')
    (frame : Frame) : (r.push frame).1 = (r'.push frame).1 := by
  rw [PacketReassembler.push_result, PacketReassembler.push_result, h]

theorem SamePartials.step {r r' : PacketReassembler} (h : r.SamePartials r') {frame : Frame}
    (halone : r.FinishesAlone frame) : (r.fed frame).SamePartials (r'.callFed frame) := by
  intro s
  cases hfin : finishes (r.pending.lookup frame.id.stream) frame with
  | false =>
    have hnone : (r'.push frame).1 = .ok none := by
      rw [← h.push_result, PacketReassembler.push_result, streamPush_of_not_finishes hfin]
    rw [callFed_of_none hnone, fed, fed, push_lookup, push_lookup, h, h]
  | true =>
    -- the call returns: its reassembler is gone, so nothing else may have been buffered
    obtain ⟨hanswer, hslot⟩ := streamPush_of_finishes hfin
    have hcall : r'.callFed frame = new := by
      apply callFed_of_answer
      rw [← h.push_result, PacketReassembler.push_result]
      exact hanswer
    have hempty : (new : PacketReassembler).pending.lookup s = none := AList.lookup_empty s
    rw [hcall, hempty, fed, push_lookup]
    by_cases hs : s = frame.id.stream
    · rw [if_pos hs, hslot]
    · rw [if_neg hs, AList.lookup_eq_none]
      exact fun hkey => hs (halone hfin s hkey)

theorem SamePartials.run {r r' : PacketReassembler} (h : r.SamePartials r') {frames : List Frame}
    (halone : Along fed FinishesAlone r frames) :
    (runWith push r frames).1 = (runWith callPush r' frames).1 ∧
      (runWith push r frames).2.SamePartials (runWith callPush r' frames).2 := by
  induction frames generalizing r r' with
  | nil => exact ⟨rfl, h⟩
  | cons frame rest ih =>
    obtain ⟨hfirst, hrest⟩ := halone
    obtain ⟨hout, hend⟩ := ih (h.step hfirst) hrest
    rw [runWith_cons, runWith_cons, callPush_result, h.push_result frame]
    refine ⟨?_, hend⟩
    show _ :: (runWith push (r.fed frame) rest).1 =
      _ :: (runWith callPush (r'.callFed frame) rest).1
    rw [hout]

/-- The packets among the answers of a run of `push`. -/
def packetsOf (answers : List (Except DrpcError (Option Packet))) : List Packet :=
  answers.filterMap fun
    | .ok packet => packet
    | .error _ => none

end PacketReassembler

/-- The packets that `n` calls of `read_packet` return, errors left out. -/
def packetsRead (n : Nat) (bytes : List UInt8) : List Packet :=
  (readPackets n bytes).filterMap Except.toOption

theorem packetsRead_nil (n : Nat) : packetsRead n [] = [] := by
  induction n with
  | zero => rfl
  | succ n ih =>
    rw [packetsRead, readPackets, readPacket_nil]
    exact ih

open PacketReassembler

/-- What the call in progress, with `r` as its private reassembler, and `n` further calls
return. -/
def packetsReadFrom (r : PacketReassembler) (n : Nat) (bytes : List UInt8) : List Packet :=
  ((readPacketLoop r bytes).1 :: readPackets n (readPacketLoop r bytes).2).filterMap
    Except.toOption

theorem packetsReadFrom_answer {r : PacketReassembler} {n : Nat} {bytes rest : List UInt8}
    {frame : Frame} (hread : readFrame bytes = (.ok frame, rest))
    (hanswer : (r.push frame).1 ≠ .ok none) :
    packetsReadFrom r n bytes = packetsOf [(r.push frame).1] ++ packetsRead n rest := by
  rw [packetsReadFrom, readPacketLoop_ok hread]
  rcases hpush : r.push frame with ⟨e | packet | packet, r'⟩
  · rfl
  · exact absurd (by rw [hpush]) hanswer
  · rfl

theorem packetsReadFrom_none {r : PacketReassembler} {n : Nat} {bytes rest : List UInt8}
    {frame : Frame} (hread : readFrame bytes = (.ok frame, rest))
    (hnone : (r.push frame).1 = .ok none) :
    packetsReadFrom r n bytes = packetsReadFrom (r.fed frame) n rest := by
  rw [packetsReadFrom, readPacketLoop_ok hread, fed]
  rcases hpush : r.push frame with ⟨res, r'⟩
  rw [hpush] at hnone
  simp only at hnone
  subst hnone
  rfl

/-- Calling `read_packet` again and again on written frames is `callPush` frame by frame. The
induction is on the frames still on the wire; a call takes at least one of them. -/
theorem packetsReadFrom_eq (frames : List Frame)
    (hsize : ∀ frame ∈ frames, frame.data.length ≤ maxPacketSize) (r : PacketReassembler)
    (n : Nat) (hn : frames.length ≤ n + 1) :
    packetsReadFrom r n (frames.flatMap writeFrame) = packetsOf (runWith callPush r frames).1 := by
  induction frames generalizing r n with
  | nil =>
    rw [List.flatMap_nil, packetsReadFrom, readPacketLoop_nil]
    exact packetsRead_nil n
  | cons frame rest ih =>
    have hread := readFrame_writeFrame frame (hsize frame (by simp)) (rest.flatMap writeFrame)
    have hrest := fun f hf => hsize f (List.mem_cons_of_mem frame hf)
    rw [List.length_cons] at hn
    have houts : packetsOf (runWith callPush r (frame :: rest)).1 =
        packetsOf [(r.push frame).1] ++ packetsOf (runWith callPush (r.callFed frame) rest).1 := by
      rw [runWith_cons, callPush_result]
      exact List.filterMap_append (l := [_])
    rw [List.flatMap_cons, houts]
    by_cases hnone : (r.push frame).1 = .ok none
    · rw [packetsReadFrom_none hread hnone, ih hrest _ n (by omega), callFed_of_none hnone, hnone]
      rfl
    · rw [packetsReadFrom_answer hread hnone, callFed_of_answer hnone]
      congr 1
      cases n with
      | zero =>
        obtain rfl : rest = [] := List.length_eq_zero_iff.mp (by omega)
        rfl
      | succ n => exact ih hrest new n (by omega)

theorem packetsRead_eq (frames : List Frame)
    (hsize : ∀ frame ∈ frames, frame.data.length ≤ maxPacketSize) (n : Nat)
    (hn : frames.length ≤ n) :
    packetsRead n (frames.flatMap writeFrame) = packetsOf (runWith callPush new frames).1 := by
  cases n with
  | zero =>
    obtain rfl : frames = [] := List.length_eq_zero_iff.mp (by omega)
    rfl
  | succ n => exact packetsReadFrom_eq frames hsize new n hn

/-- The two receive paths agree on these frames: repeated `read_packet` returns the packets
of one long-lived reassembler, and a partial the latter holds is never lost on the way. -/
def PathsAgree (frames : List Frame) : Prop :=
  (∀ n, frames.length ≤ n →
    packetsRead n (frames.flatMap writeFrame) = packetsOf (runWith push new frames).1) ∧
  ∀ before, before <+: frames →
    (runWith push new before).2.SamePartials (runWith callPush new before).2

theorem finishesAlone_of_samePartials {frames : List Frame}
    (h : ∀ before, before <+: frames →
      (runWith push new before).2.SamePartials (runWith callPush new before).2) :
    Along fed FinishesAlone new frames := by
  rw [along_iff]
  intro before frame after hsplit hfin s hkey
  by_contra hs
  have hpre : (before.foldl fed new).SamePartials (before.foldl callFed new) := by
    have := h before ⟨frame :: after, hsplit.symm⟩
    rwa [runWith_snd, runWith_snd] at this
  have hpost : ((before.foldl fed new).fed frame).SamePartials
      ((before.foldl callFed new).callFed frame) := by
    have := h (before ++ [frame]) ⟨after, by rw [hsplit]; simp⟩
    rwa [runWith_snd, runWith_snd, List.foldl_append, List.foldl_append] at this
  -- the call returned here, so its path holds nothing of stream `s`
  have hcall : (before.foldl callFed new).callFed frame = new := by
    apply callFed_of_answer
    rw [← hpre.push_result, PacketReassembler.push_result]
    exact (streamPush_of_finishes hfin).1
  have hgone : ((before.foldl fed new).fed frame).pending.lookup s = none := by
    rw [hpost s, hcall]
    exact AList.lookup_empty s
  rw [fed, push_lookup, if_neg hs, AList.lookup_eq_none] at hgone
  exact hgone hkey

/-- On every stream of valid frames, `read_packet` keeps to the long-lived reassembler
exactly when no frame that completes a packet, or is refused, arrives while another stream
is half-received. -/
theorem pathsAgree_iff_finishesAlone (frames : List Frame)
    (hsize : ∀ frame ∈ frames, frame.data.length ≤ maxPacketSize) :
    PathsAgree frames ↔ Along fed FinishesAlone new frames := by
  constructor
  · intro h
    exact finishesAlone_of_samePartials h.2
  · intro halone
    have hnew : (new : PacketReassembler).SamePartials new := fun _ => rfl
    constructor
    · intro n hn
      rw [packetsRead_eq frames hsize n hn, (hnew.run halone).1]
    · intro before hbefore
      obtain ⟨after, rfl⟩ := hbefore
      exact (hnew.run ((along_append new before after).mp halone).1).2

/-- A message in two frames, then a packet of another stream. -/
theorem pathsAgree_sequential :
    PathsAgree [⟨.message, ⟨1, 1⟩, [1], false⟩, ⟨.message, ⟨1, 1⟩, [2], true⟩,
      ⟨.invoke, ⟨2, 1⟩, [3], true⟩] :=
  (pathsAgree_iff_finishesAlone _ (by decide)).mpr (by decide)

/-- A packet of stream 2 completes between the two frames of a message on stream 1: only the
second half of the message comes out of `read_packet`. -/
theorem packetsRead_loses_partial :
    ¬ ∀ frames : List Frame, (∀ frame ∈ frames, frame.data.length ≤ maxPacketSize) →
      ∀ n, frames.length ≤ n →
        packetsRead n (frames.flatMap writeFrame) = packetsOf (runWith push new frames).1 := by
  intro h
  have hsize : ∀ frame ∈ ([⟨.message, ⟨1, 1⟩, [1], false⟩, ⟨.invoke, ⟨2, 1⟩, [3], true⟩,
      ⟨.message, ⟨1, 1⟩, [2], true⟩] : List Frame), frame.data.length ≤ maxPacketSize := by
    decide
  have heq := h _ hsize 3 (by decide)
  rw [packetsRead_eq _ hsize 3 (by decide)] at heq
  exact absurd heq (by decide)

end Coderd.Drpc
