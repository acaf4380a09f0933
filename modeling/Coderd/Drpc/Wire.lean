import Coderd.Foundation.ByteReader
import Coderd.Foundation.HashMap

namespace Coderd.Drpc
open Coderd.Foundation

/-- The transport failures an in-memory byte stream can produce. -/
inductive IoErrorKind where
  | unexpectedEof
  deriving DecidableEq, Repr

inductive DrpcError where
  | io (kind : IoErrorKind)
  | protocol (message : String)
  | closed
  deriving DecidableEq, Repr

def maxVarintLen : Nat := 10

def maxPacketSize : Nat := 4 * 1024 * 1024

inductive Kind where
  | invoke
  | message
  | error
  | cancel
  | close
  | closeSend
  | invokeMetadata
  deriving DecidableEq, Repr

namespace Kind

def fromU8 (v : UInt8) : Except DrpcError Kind :=
  if v = 1 then .ok .invoke
  else if v = 2 then .ok .message
  else if v = 3 then .ok .error
  else if v = 4 then .ok .cancel
  else if v = 5 then .ok .close
  else if v = 6 then .ok .closeSend
  else if v = 7 then .ok .invokeMetadata
  else .error (.protocol ("unknown drpc packet kind " ++ toString v))

def toU8 : Kind → UInt8
  | invoke => 1
  | message => 2
  | error => 3
  | cancel => 4
  | close => 5
  | closeSend => 6
  | invokeMetadata => 7

/-- The `Debug` rendering that the mismatch error interpolates. -/
def debug : Kind → String
  | invoke => "Invoke"
  | message => "Message"
  | error => "Error"
  | cancel => "Cancel"
  | close => "Close"
  | closeSend => "CloseSend"
  | invokeMetadata => "InvokeMetadata"

/-- The kinds that end a stream and abort its in-progress reassembly. -/
def terminal : Kind → Bool
  | cancel | close | error => true
  | _ => false

end Kind

structure PacketId where
  stream : UInt64
  message : UInt64
  deriving DecidableEq, Repr

structure Packet where
  kind : Kind
  id : PacketId
  data : List UInt8
  deriving DecidableEq, Repr

structure Frame where
  kind : Kind
  id : PacketId
  data : List UInt8
  done : Bool
  deriving DecidableEq, Repr

structure PartialPacket where
  kind : Kind
  id : PacketId
  data : List UInt8
  deriving DecidableEq, Repr

/-- Partial payloads keyed by stream id. -/
structure PacketReassembler where
  pending : HashMap UInt64 PartialPacket

namespace PacketReassembler

def new : PacketReassembler := ⟨∅⟩

/-- Feed one frame. The returned reassembler is the one left behind, also on an error. -/
def push (r : PacketReassembler) (frame : Frame) :
    Except DrpcError (Option Packet) × PacketReassembler :=
  if frame.kind.terminal then
    (.ok (some ⟨frame.kind, frame.id, frame.data⟩), ⟨r.pending.erase frame.id.stream⟩)
  else
    match r.pending.lookup frame.id.stream with
    | some held =>
      -- the partial is taken out of the map before any of the checks below
      let pending := r.pending.erase frame.id.stream
      if held.kind ≠ frame.kind then
        (.error (.protocol ("multi-frame packet kind mismatch: expected "
          ++ held.kind.debug ++ ", got " ++ frame.kind.debug)), ⟨pending⟩)
      else if held.data.length + frame.data.length > maxPacketSize then
        (.error (.protocol ("reassembled drpc packet exceeds "
          ++ toString maxPacketSize ++ " bytes")), ⟨pending⟩)
      else if frame.done then
        (.ok (some ⟨held.kind, held.id, held.data ++ frame.data⟩), ⟨pending⟩)
      else
        (.ok none,
          ⟨pending.insert frame.id.stream ⟨held.kind, frame.id, held.data ++ frame.data⟩⟩)
    | none =>
      if frame.done then
        if frame.data.length > maxPacketSize then
          (.error (.protocol ("single-frame drpc packet exceeds "
            ++ toString maxPacketSize ++ " bytes")), r)
        else
          (.ok (some ⟨frame.kind, frame.id, frame.data⟩), r)
      else if frame.data.length > maxPacketSize then
        (.error (.protocol ("first drpc frame already exceeds "
          ++ toString maxPacketSize ++ " bytes")), r)
      else
        (.ok none, ⟨r.pending.insert frame.id.stream ⟨frame.kind, frame.id, frame.data⟩⟩)

def hasPartial (r : PacketReassembler) (stream : UInt64) : Bool :=
  (r.pending.lookup stream).isSome

def clearStream (r : PacketReassembler) (stream : UInt64) : PacketReassembler :=
  ⟨r.pending.erase stream⟩

end PacketReassembler

abbrev Reader := ByteReader DrpcError

/-- One byte of the stream, or the end of it. -/
def readU8 : Reader UInt8
  | [] => (.error (.io .unexpectedEof), [])
  | b :: rest => (.ok b, rest)

/-- Exactly `n` bytes; a shorter stream is used up and reported. -/
def readExact (n : Nat) : Reader (List UInt8) := fun bytes =>
  if n ≤ bytes.length then (.ok (bytes.take n), bytes.drop n)
  else (.error (.io .unexpectedEof), [])

/-- The loop of `read_varint`: `n` bytes may still be read. -/
def readVarintLoop : Nat → UInt64 → Nat → Reader UInt64
  | 0, _, _ => Effect.fail (.protocol "varint too long")
  | n + 1, value, shift => do
    let byte ← readU8
    let value := value ||| ((byte &&& 0x7f).toUInt64 <<< UInt64.ofNat shift)
    if byte &&& 0x80 = 0 then pure value
    else readVarintLoop n value (shift + 7)

def readVarint : Reader UInt64 := readVarintLoop maxVarintLen 0 0

/-- The header read of `read_frame`: an end of stream here is a clean close. -/
def readHeader : Reader UInt8
  | [] => (.error .closed, [])
  | b :: rest => (.ok b, rest)

/-- The part of a frame after its header byte. -/
def readFrameBody (kind : Kind) (done : Bool) : Reader Frame := do
  let stream ← readVarint
  let message ← readVarint
  let length ← readVarint
  if length.toNat > maxPacketSize then
    Effect.fail (.protocol ("drpc frame length " ++ toString length
      ++ " exceeds " ++ toString maxPacketSize))
  else
    let data ← readExact length.toNat
    pure ⟨kind, ⟨stream, message⟩, data, done⟩

def readFrame : Reader Frame := do
  let header ← readHeader
  match Kind.fromU8 ((header &&& 0b01111110) >>> 1) with
  | .error e => Effect.fail e
  | .ok kind => readFrameBody kind (header &&& 0b00000001 ≠ 0)

theorem readU8_nonLengthening : ByteReader.NonLengthening readU8 := by
  intro bytes b rest h
  cases bytes with
  | nil => simp [readU8] at h
  | cons c cs =>
    simp only [readU8, Prod.mk.injEq, Except.ok.injEq] at h
    simp [← h.2]

theorem readExact_nonLengthening (n : Nat) : ByteReader.NonLengthening (readExact n) := by
  intro bytes data rest h
  unfold readExact at h
  split at h
  · simp only [Prod.mk.injEq, Except.ok.injEq] at h
    simp [← h.2]
  · simp at h

theorem readVarintLoop_nonLengthening (n : Nat) (value : UInt64) (shift : Nat) :
    ByteReader.NonLengthening (readVarintLoop n value shift) := by
  induction n generalizing value shift with
  | zero => exact .fail _
  | succ n ih =>
    refine .bind readU8_nonLengthening fun byte => ?_
    dsimp only
    split
    · exact .pure _
    · exact ih _ _

theorem readFrameBody_nonLengthening (kind : Kind) (done : Bool) :
    ByteReader.NonLengthening (readFrameBody kind done) := by
  refine .bind (readVarintLoop_nonLengthening _ _ _) fun stream => ?_
  refine .bind (readVarintLoop_nonLengthening _ _ _) fun message => ?_
  refine .bind (readVarintLoop_nonLengthening _ _ _) fun length => ?_
  split
  · exact .fail _
  · exact .bind (readExact_nonLengthening _) fun data => .pure _

/-- Every frame takes at least its header byte off the stream. -/
theorem readFrame_shortens {bytes rest : List UInt8} {frame : Frame}
    (h : readFrame bytes = (.ok frame, rest)) : rest.length < bytes.length := by
  obtain ⟨header, mid, hheader, hbody⟩ := Effect.bind_eq_ok h
  have hmid : mid.length < bytes.length := by
    cases bytes with
    | nil => simp [readHeader] at hheader
    | cons b bs =>
      simp only [readHeader, Prod.mk.injEq, Except.ok.injEq] at hheader
      simp [← hheader.2]
  rcases hkind : Kind.fromU8 ((header &&& 0b01111110) >>> 1) with e | kind
  · simp [hkind, Effect.fail] at hbody
  · simp only [hkind] at hbody
    exact Nat.lt_of_le_of_lt (readFrameBody_nonLengthening _ _ mid frame rest hbody) hmid

/-- The loop of `read_packet`, with the private reassembler as its accumulator. -/
def readPacketLoop (reassembler : PacketReassembler) (bytes : List UInt8) :
    Except DrpcError Packet × List UInt8 :=
  match _h : readFrame bytes with
  | (.error e, rest) => (.error e, rest)
  | (.ok frame, rest) =>
    match reassembler.push frame with
    | (.error e, _) => (.error e, rest)
    | (.ok (some packet), _) => (.ok packet, rest)
    | (.ok none, reassembler') => readPacketLoop reassembler' rest
termination_by bytes.length
decreasing_by exact readFrame_shortens _h

def readPacket : Reader Packet := readPacketLoop .new

def encodeVarint (value : UInt64) : List UInt8 :=
  if 0x80 ≤ value then ((value.toUInt8 &&& 0x7f) ||| 0x80) :: encodeVarint (value >>> 7)
  else [value.toUInt8]
termination_by value.toNat
decreasing_by
  have hle : 128 ≤ value.toNat := by simpa [UInt64.le_iff_toNat_le] using ‹0x80 ≤ value›
  simp only [UInt64.toNat_shiftRight, UInt64.reduceToNat, Nat.reduceMod,
    Nat.shiftRight_eq_div_pow]
  omega

/-- The bytes `write_frame` puts on the wire. -/
def writeFrame (frame : Frame) : List UInt8 :=
  ((frame.kind.toU8 <<< 1) ||| (if frame.done then 0b00000001 else 0)) ::
    (encodeVarint frame.id.stream ++ encodeVarint frame.id.message
      ++ encodeVarint (UInt64.ofNat frame.data.length) ++ frame.data)

def writePacket (packet : Packet) : List UInt8 :=
  writeFrame ⟨packet.kind, packet.id, packet.data, true⟩

end Coderd.Drpc
