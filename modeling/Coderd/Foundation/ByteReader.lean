import Coderd.Foundation.Effect

namespace Coderd.Foundation

/-- A reader over a finite byte stream, whose state is the bytes not yet read. -/
abbrev ByteReader (ε α : Type) := Effect (List UInt8) ε α

namespace ByteReader

variable {ε α β : Type}

/-- `p` decodes `bytes` to `a` and stops exactly where `bytes` end, whatever follows. -/
def Decodes (p : ByteReader ε α) (bytes : List UInt8) (a : α) : Prop :=
  ∀ rest, p (bytes ++ rest) = (.ok a, rest)

theorem Decodes.pure (a : α) : Decodes (Pure.pure a : ByteReader ε α) [] a := fun _ => rfl

theorem Decodes.bind {p : ByteReader ε α} {k : α → ByteReader ε β} {xs ys : List UInt8}
    {a : α} {b : β} (hp : Decodes p xs a) (hk : Decodes (k a) ys b) :
    Decodes (p >>= k) (xs ++ ys) b := by
  intro rest
  rw [List.append_assoc, Effect.bind_ok (hp (ys ++ rest))]
  exact hk rest

/-- A successful read of `p` never lengthens the stream. -/
def NonLengthening (p : ByteReader ε α) : Prop :=
  ∀ bytes a rest, p bytes = (.ok a, rest) → rest.length ≤ bytes.length

theorem NonLengthening.pure (a : α) : NonLengthening (Pure.pure a : ByteReader ε α) := by
  intro bytes b rest h
  have hrest : bytes = rest := congrArg Prod.snd h
  exact Nat.le_of_eq (congrArg List.length hrest.symm)

theorem NonLengthening.fail (e : ε) : NonLengthening (Effect.fail e : ByteReader ε α) := by
  intro bytes b rest h
  simp [Effect.fail] at h

theorem NonLengthening.bind {p : ByteReader ε α} {k : α → ByteReader ε β}
    (hp : NonLengthening p) (hk : ∀ a, NonLengthening (k a)) : NonLengthening (p >>= k) := by
  intro bytes b rest h
  obtain ⟨a, mid, h1, h2⟩ := Effect.bind_eq_ok h
  exact Nat.le_trans (hk a mid b rest h2) (hp bytes a mid h1)

end ByteReader

end Coderd.Foundation
