import Mathlib.Data.List.Basic

namespace Coderd.Derp

def nodeKeyLen : Nat := 32

/-- A node public key: exactly 32 bytes. -/
structure NodeKey where
  bytes : List UInt8
  length_eq : bytes.length = nodeKeyLen
  deriving DecidableEq

namespace NodeKey

def fromSlice (bytes : List UInt8) : Option NodeKey :=
  if h : bytes.length = nodeKeyLen then some ⟨bytes, h⟩ else none

theorem fromSlice_bytes (key : NodeKey) : fromSlice key.bytes = some key := by
  rw [fromSlice, dif_pos key.length_eq]

/-- The key all of whose bytes are `b`. -/
def filled (b : UInt8) : NodeKey := ⟨List.replicate nodeKeyLen b, List.length_replicate⟩

end NodeKey

inductive FrameType where
  | serverKey
  | clientInfo
  | meshKey
  | sendPacket
  | recvPacket
  | keepAlive
  | notePreferred
  | peerGone
  | peerPresent
  | watchConns
  | closePeer
  | ping
  | pong
  | serverInfo
  deriving DecidableEq, Repr

namespace FrameType

def fromByte (b : UInt8) : Option FrameType :=
  if b = 0x01 then some .serverKey
  else if b = 0x02 then some .clientInfo
  else if b = 0x03 then some .meshKey
  else if b = 0x04 then some .sendPacket
  else if b = 0x05 then some .recvPacket
  else if b = 0x06 then some .keepAlive
  else if b = 0x07 then some .notePreferred
  else if b = 0x08 then some .peerGone
  else if b = 0x09 then some .peerPresent
  else if b = 0x10 then some .watchConns
  else if b = 0x11 then some .closePeer
  else if b = 0x12 then some .ping
  else if b = 0x13 then some .pong
  else if b = 0x14 then some .serverInfo
  else none

def asByte : FrameType → UInt8
  | serverKey => 0x01
  | clientInfo => 0x02
  | meshKey => 0x03
  | sendPacket => 0x04
  | recvPacket => 0x05
  | keepAlive => 0x06
  | notePreferred => 0x07
  | peerGone => 0x08
  | peerPresent => 0x09
  | watchConns => 0x10
  | closePeer => 0x11
  | ping => 0x12
  | pong => 0x13
  | serverInfo => 0x14

theorem fromByte_asByte (t : FrameType) : fromByte t.asByte = some t := by
  cases t <;> rfl

end FrameType

def frameHeaderSize : Nat := 5

/-- 10 MiB. -/
def maxFrameSize : Nat := 10 * 1024 * 1024

inductive FrameError where
  | bufferTooSmall (got : Nat)
  | unknownFrameType (byte : UInt8)
  | payloadTooLarge (length : UInt32)
  | incompletePayload (expected : UInt32) (actual : Nat)
  | invalidPayload (frameType : FrameType) (reason : String)
  deriving DecidableEq, Repr

structure Frame where
  frameType : FrameType
  payload : List UInt8
  deriving DecidableEq, Repr

/-- `u32::to_be_bytes`. -/
def toBeBytes (n : UInt32) : List UInt8 :=
  [UInt8.ofNat (n.toNat / 16777216), UInt8.ofNat (n.toNat / 65536),
    UInt8.ofNat (n.toNat / 256), UInt8.ofNat n.toNat]

/-- `u32::from_be_bytes`. -/
def fromBeBytes (a b c d : UInt8) : UInt32 :=
  UInt32.ofNat (a.toNat * 16777216 + b.toNat * 65536 + c.toNat * 256 + d.toNat)

theorem fromBeBytes_toBeBytes (n : UInt32) :
    fromBeBytes (UInt8.ofNat (n.toNat / 16777216)) (UInt8.ofNat (n.toNat / 65536))
      (UInt8.ofNat (n.toNat / 256)) (UInt8.ofNat n.toNat) = n := by
  have hn : n.toNat < 4294967296 := n.toNat_lt
  rw [fromBeBytes, ← UInt32.toNat_inj, UInt32.toNat_ofNat']
  simp only [UInt8.toNat_ofNat']
  omega

namespace Frame

/-- The payload length is cut to 32 bits, as `as u32` does. -/
def toBytes (frame : Frame) : List UInt8 :=
  frame.frameType.asByte :: (toBeBytes (UInt32.ofNat frame.payload.length) ++ frame.payload)

def serverKey (key : NodeKey) : Frame := ⟨.serverKey, key.bytes⟩

def clientInfo (key : NodeKey) : Frame := ⟨.clientInfo, key.bytes⟩

def meshKey (key : List UInt8) : Frame := ⟨.meshKey, key⟩

def sendPacket (dst : NodeKey) (data : List UInt8) : Frame := ⟨.sendPacket, dst.bytes ++ data⟩

def recvPacket (src : NodeKey) (data : List UInt8) : Frame := ⟨.recvPacket, src.bytes ++ data⟩

def keepAlive : Frame := ⟨.keepAlive, []⟩

def peerGone (key : NodeKey) : Frame := ⟨.peerGone, key.bytes⟩

def peerPresent (key : NodeKey) : Frame := ⟨.peerPresent, key.bytes⟩

def watchConns : Frame := ⟨.watchConns, []⟩

def pong (data : List UInt8) : Frame := ⟨.pong, data⟩

end Frame

/-- The frame at the front of the buffer and the number of bytes it takes. -/
def parseFrame : List UInt8 → Except FrameError (Frame × Nat)
  | t :: a :: b :: c :: d :: rest =>
    match FrameType.fromByte t with
    | none => .error (.unknownFrameType t)
    | some frameType =>
      let payloadLen := fromBeBytes a b c d
      if payloadLen.toNat > maxFrameSize then .error (.payloadTooLarge payloadLen)
      else if rest.length < payloadLen.toNat then
        .error (.incompletePayload payloadLen rest.length)
      else .ok (⟨frameType, rest.take payloadLen.toNat⟩, frameHeaderSize + payloadLen.toNat)
  | buf => .error (.bufferTooSmall buf.length)

/-- The 32-byte key at the front of a payload and what follows it. -/
def parseKeyed (frameType : FrameType) (name : String) (payload : List UInt8) :
    Except FrameError (NodeKey × List UInt8) :=
  if payload.length < nodeKeyLen then
    .error (.invalidPayload frameType ("payload too short for " ++ name ++ " key: "
      ++ toString payload.length ++ " bytes"))
  else
    match NodeKey.fromSlice (payload.take nodeKeyLen) with
    | some key => .ok (key, payload.drop nodeKeyLen)
    | none => .error (.invalidPayload frameType ("invalid " ++ name ++ " key length"))

def parseSendPacket (payload : List UInt8) : Except FrameError (NodeKey × List UInt8) :=
  parseKeyed .sendPacket "destination" payload

def parseRecvPacket (payload : List UInt8) : Except FrameError (NodeKey × List UInt8) :=
  parseKeyed .recvPacket "source" payload

def parsePeerKey (frameType : FrameType) (payload : List UInt8) : Except FrameError NodeKey :=
  match NodeKey.fromSlice payload with
  | some key => .ok key
  | none => .error (.invalidPayload frameType ("expected " ++ toString nodeKeyLen
      ++ " bytes, got " ++ toString payload.length))

/-- A frame that fits comes back with its exact length, whatever follows it. -/
theorem parseFrame_toBytes (frame : Frame) (rest : List UInt8)
    (hsize : frame.payload.length ≤ maxFrameSize) :
    parseFrame (frame.toBytes ++ rest) =
      .ok (frame, frameHeaderSize + frame.payload.length) := by
  have hlen : (UInt32.ofNat frame.payload.length).toNat = frame.payload.length := by
    rw [UInt32.toNat_ofNat']
    exact Nat.mod_eq_of_lt (by simp only [maxFrameSize] at hsize; omega)
  have hread := fromBeBytes_toBeBytes (UInt32.ofNat frame.payload.length)
  have hfits : ¬ (UInt32.ofNat frame.payload.length).toNat > maxFrameSize := by omega
  have hwhole : ¬ (frame.payload ++ rest).length < frame.payload.length := by
    rw [List.length_append]
    omega
  simp only [Frame.toBytes, toBeBytes, List.cons_append, List.nil_append, parseFrame,
    FrameType.fromByte_asByte, hread]
  rw [if_neg hfits, hlen, if_neg hwhole, List.take_left]

/-- What is accepted is within the size limit. -/
theorem parseFrame_size {buf : List UInt8} {frame : Frame} {used : Nat}
    (h : parseFrame buf = .ok (frame, used)) : frame.payload.length ≤ maxFrameSize := by
  match buf, h with
  | t :: a :: b :: c :: d :: rest, h =>
    simp only [parseFrame] at h
    split at h
    · simp at h
    · split_ifs at h with hmax hshort
      simp only [Except.ok.injEq, Prod.mk.injEq] at h
      rw [← h.1]
      simp only [List.length_take]
      omega

theorem parseKeyed_append (frameType : FrameType) (name : String) (key : NodeKey)
    (data : List UInt8) : parseKeyed frameType name (key.bytes ++ data) = .ok (key, data) := by
  have htake : (key.bytes ++ data).take nodeKeyLen = key.bytes := by
    rw [← key.length_eq]
    exact List.take_left
  have hdrop : (key.bytes ++ data).drop nodeKeyLen = data := by
    rw [← key.length_eq]
    exact List.drop_left
  have hlong : ¬ (key.bytes ++ data).length < nodeKeyLen := by
    rw [List.length_append, key.length_eq]
    omega
  rw [parseKeyed, if_neg hlong, htake, hdrop, NodeKey.fromSlice_bytes]

theorem parseKeyed_eq_ok {frameType : FrameType} {name : String} {payload data : List UInt8}
    {key : NodeKey} (h : parseKeyed frameType name payload = .ok (key, data)) :
    payload = key.bytes ++ data := by
  have hkey : payload.take nodeKeyLen = key.bytes ∧ payload.drop nodeKeyLen = data := by
    unfold parseKeyed NodeKey.fromSlice at h
    split_ifs at h with hshort hlen
    simp only [Except.ok.injEq, Prod.mk.injEq] at h
    exact ⟨by rw [← h.1], h.2⟩
  rw [← hkey.1, ← hkey.2]
  exact (List.take_append_drop nodeKeyLen payload).symm

theorem parsePeerKey_bytes (frameType : FrameType) (key : NodeKey) :
    parsePeerKey frameType key.bytes = .ok key := by
  rw [parsePeerKey, NodeKey.fromSlice_bytes]

end Coderd.Derp
