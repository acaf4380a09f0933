import Mathlib.Tactic.SplitIfs
import Coderd.Derp.Frame

namespace Coderd.Derp

/-! ## The codec of frames -/

namespace FrameType

theorem asByte_of_ite {b c : UInt8} {s t : FrameType} {other : Option FrameType}
    (h : (if b = c then some s else other) = some t) (hs : s.asByte = c)
    (hother : other = some t → t.asByte = b) : t.asByte = b := by
  by_cases hb : b = c
  · rw [if_pos hb] at h
    cases h
    rw [hs, hb]
  · rw [if_neg hb] at h
    exact hother h

theorem asByte_of_fromByte {b : UInt8} {t : FrameType} (h : fromByte b = some t) :
    t.asByte = b := by
  unfold fromByte at h
  iterate 14 refine asByte_of_ite h rfl fun h => ?_
  cases h

theorem fromByte_eq_some_iff {b : UInt8} {t : FrameType} :
    fromByte b = some t ↔ t.asByte = b := by
  constructor
  · exact asByte_of_fromByte
  · rintro rfl
    exact fromByte_asByte t

end FrameType

theorem toBeBytes_fromBeBytes (a b c d : UInt8) :
    toBeBytes (fromBeBytes a b c d) = [a, b, c, d] := by
  have ha := a.toNat_lt
  have hb := b.toNat_lt
  have hc := c.toNat_lt
  have hd := d.toNat_lt
  have hn : (fromBeBytes a b c d).toNat =
      a.toNat * 16777216 + b.toNat * 65536 + c.toNat * 256 + d.toNat := by
    rw [fromBeBytes, UInt32.toNat_ofNat']
    exact Nat.mod_eq_of_lt (by omega)
  have hbyte : ∀ (n : Nat) (x : UInt8), n % 256 = x.toNat → UInt8.ofNat n = x := by
    intro n x h
    rw [← UInt8.toNat_inj, UInt8.toNat_ofNat']
    exact h
  rw [toBeBytes, hn, hbyte _ a (by omega), hbyte _ b (by omega), hbyte _ c (by omega),
    hbyte _ d (by omega)]

theorem Frame.length_toBytes (frame : Frame) :
    frame.toBytes.length = frameHeaderSize + frame.payload.length := by
  rw [Frame.toBytes, toBeBytes, frameHeaderSize, List.length_cons, List.length_append]
  simp only [List.length_cons, List.length_nil]
  omega

/-! ### What is accepted -/

section Accepted

variable {buf : List UInt8} {frame : Frame} {used : Nat}

theorem parseFrame_short (h : buf.length < frameHeaderSize) :
    parseFrame buf = .error (.bufferTooSmall buf.length) := by
  match buf, h with
  | [], _ => rfl
  | [_], _ => rfl
  | [_, _], _ => rfl
  | [_, _, _], _ => rfl
  | [_, _, _, _], _ => rfl
  | _ :: _ :: _ :: _ :: _ :: rest, h =>
    simp only [List.length_cons, frameHeaderSize] at h
    omega

theorem parseFrame_header {t a b c d : UInt8} {rest : List UInt8}
    (h : parseFrame (t :: a :: b :: c :: d :: rest) = .ok (frame, used)) :
    FrameType.fromByte t = some frame.frameType ∧ (fromBeBytes a b c d).toNat ≤ rest.length ∧
      frame.payload = rest.take (fromBeBytes a b c d).toNat ∧
      used = frameHeaderSize + (fromBeBytes a b c d).toNat := by
  simp only [parseFrame] at h
  split at h
  · cases h
  · rename_i frameType htype
    split_ifs at h with hmax hshort
    simp only [Except.ok.injEq, Prod.mk.injEq] at h
    obtain ⟨rfl, rfl⟩ := h
    exact ⟨htype, Nat.le_of_not_lt hshort, rfl, rfl⟩

/-- What is accepted begins with the frame. -/
theorem toBytes_prefix_of_parseFrame (h : parseFrame buf = .ok (frame, used)) :
    used = frame.toBytes.length ∧ frame.toBytes <+: buf := by
  match buf, h with
  | t :: a :: b :: c :: d :: rest, h =>
    obtain ⟨htype, hlong, hpayload, rfl⟩ := parseFrame_header h
    have hlength : frame.payload.length = (fromBeBytes a b c d).toNat := by
      rw [hpayload, List.length_take, Nat.min_eq_left hlong]
    have hbytes : frame.toBytes = t :: a :: b :: c :: d :: frame.payload := by
      rw [Frame.toBytes, FrameType.asByte_of_fromByte htype, hlength, UInt32.ofNat_toNat,
        toBeBytes_fromBeBytes]
      rfl
    refine ⟨by rw [Frame.length_toBytes, hlength], ?_⟩
    rw [hbytes, hpayload]
    simp only [List.cons_prefix_cons, true_and]
    exact List.take_prefix _ rest

theorem parseFrame_ok_iff : parseFrame buf = .ok (frame, used) ↔
    frame.payload.length ≤ maxFrameSize ∧ used = frame.toBytes.length ∧ frame.toBytes <+: buf := by
  constructor
  · intro h
    exact ⟨parseFrame_size h, toBytes_prefix_of_parseFrame h⟩
  · rintro ⟨hsize, rfl, rest, rfl⟩
    rw [parseFrame_toBytes frame rest hsize, Frame.length_toBytes]

theorem parseFrame_incomplete {rest : List UInt8} (hsize : frame.payload.length ≤ maxFrameSize)
    (hshort : rest.length < frame.payload.length) :
    parseFrame (frame.frameType.asByte :: (toBeBytes (.ofNat frame.payload.length) ++ rest)) =
      .error (.incompletePayload (.ofNat frame.payload.length) rest.length) := by
  have hlen : (UInt32.ofNat frame.payload.length).toNat = frame.payload.length := by
    rw [UInt32.toNat_ofNat']
    exact Nat.mod_eq_of_lt (by simp only [maxFrameSize] at hsize; omega)
  have hread := fromBeBytes_toBeBytes (UInt32.ofNat frame.payload.length)
  have hfits : ¬ (UInt32.ofNat frame.payload.length).toNat > maxFrameSize := by omega
  simp only [toBeBytes, List.cons_append, List.nil_append, parseFrame,
    FrameType.fromByte_asByte, hread]
  rw [if_neg hfits, hlen, if_pos hshort]

/-- A frame that is cut off is to be waited for. -/
theorem parseFrame_cut {cut : List UInt8} (hsize : frame.payload.length ≤ maxFrameSize)
    (hcut : cut <+: frame.toBytes) (hne : cut ≠ frame.toBytes) : parseFrame cut =
      if cut.length < frameHeaderSize then .error (.bufferTooSmall cut.length)
      else .error
        (.incompletePayload (.ofNat frame.payload.length) (cut.length - frameHeaderSize)) := by
  let header := frame.frameType.asByte :: toBeBytes (.ofNat frame.payload.length)
  have hbytes : frame.toBytes = header ++ frame.payload := rfl
  by_cases hshort : cut.length < frameHeaderSize
  · rw [if_pos hshort, parseFrame_short hshort]
  · rw [hbytes] at hcut hne
    obtain ⟨rest, rfl⟩ := List.prefix_of_prefix_length_le (List.prefix_append header _) hcut
      (Nat.le_of_not_lt hshort)
    have hrest : rest <+: frame.payload := (List.prefix_append_right_inj header).mp hcut
    have hlt : rest.length < frame.payload.length := by
      have hle := hrest.length_le
      have hdiffer : rest.length ≠ frame.payload.length := fun heq =>
        hne (by rw [hrest.eq_of_length heq])
      omega
    have hlength : (header ++ rest).length - frameHeaderSize = rest.length := by
      rw [List.length_append]
      exact Nat.add_sub_cancel_left frameHeaderSize rest.length
    rw [if_neg hshort, hlength]
    exact parseFrame_incomplete hsize hlt

/-- The codec is exact. -/
theorem parseFrame_exact :
    (∀ (frame : Frame) (rest : List UInt8), frame.payload.length ≤ maxFrameSize →
      parseFrame (frame.toBytes ++ rest) = .ok (frame, frame.toBytes.length)) ∧
    (∀ buf frame used, parseFrame buf = .ok (frame, used) →
      used ≤ buf.length ∧ frame.toBytes = buf.take used) ∧
    ∀ (frame : Frame) (cut : List UInt8), frame.payload.length ≤ maxFrameSize →
      cut <+: frame.toBytes → cut ≠ frame.toBytes →
        parseFrame cut = .error (.bufferTooSmall cut.length) ∨
          parseFrame cut = .error
            (.incompletePayload (.ofNat frame.payload.length) (cut.length - frameHeaderSize)) := by
  refine ⟨?_, ?_, ?_⟩
  · intro frame rest hsize
    exact parseFrame_ok_iff.mpr ⟨hsize, rfl, List.prefix_append _ rest⟩
  · intro buf frame used h
    obtain ⟨-, rfl, hstart⟩ := parseFrame_ok_iff.mp h
    exact ⟨hstart.length_le, List.prefix_iff_eq_take.mp hstart⟩
  · intro frame cut hsize hcut hne
    rw [parseFrame_cut hsize hcut hne]
    split
    · exact .inl rfl
    · exact .inr rfl

end Accepted

/-- A ping with more behind it, and the same ping cut off. -/
theorem parseFrame_exact_ping :
    parseFrame [0x12, 0, 0, 0, 2, 7, 8, 0x13] = .ok (⟨.ping, [7, 8]⟩, 7) ∧
      (⟨.ping, [7, 8]⟩ : Frame).toBytes = [0x12, 0, 0, 0, 2, 7, 8, 0x13].take 7 ∧
      (parseFrame [0x12, 0, 0, 0, 2, 7] = .error (.bufferTooSmall 6) ∨
        parseFrame [0x12, 0, 0, 0, 2, 7] = .error (.incompletePayload 2 1)) :=
  ⟨parseFrame_exact.1 ⟨.ping, [7, 8]⟩ [0x13] (by decide),
    (parseFrame_exact.2.1 [0x12, 0, 0, 0, 2, 7, 8, 0x13] ⟨.ping, [7, 8]⟩ 7 (by rfl)).2,
    parseFrame_exact.2.2 ⟨.ping, [7, 8]⟩ [0x12, 0, 0, 0, 2, 7] (by decide) (by decide)
      (by decide)⟩

end Coderd.Derp
