import Mathlib.Algebra.Ring.Nat
import Mathlib.Data.List.GetD

namespace Coderd.Foundation.Sha2

/-! ## SHA-256

A word is a number below `2 ^ 32`. -/

/-- The first 32 bits of the fractional parts of the cube roots of the first 64 primes. -/
def roundConstants : List ℕ :=
  [0x428a2f98, 0x71374491, 0xb5c0fbcf, 0xe9b5dba5, 0x3956c25b, 0x59f111f1, 0x923f82a4, 0xab1c5ed5,
    0xd807aa98, 0x12835b01, 0x243185be, 0x550c7dc3, 0x72be5d74, 0x80deb1fe, 0x9bdc06a7, 0xc19bf174,
    0xe49b69c1, 0xefbe4786, 0x0fc19dc6, 0x240ca1cc, 0x2de92c6f, 0x4a7484aa, 0x5cb0a9dc, 0x76f988da,
    0x983e5152, 0xa831c66d, 0xb00327c8, 0xbf597fc7, 0xc6e00bf3, 0xd5a79147, 0x06ca6351, 0x14292967,
    0x27b70a85, 0x2e1b2138, 0x4d2c6dfc, 0x53380d13, 0x650a7354, 0x766a0abb, 0x81c2c92e, 0x92722c85,
    0xa2bfe8a1, 0xa81a664b, 0xc24b8b70, 0xc76c51a3, 0xd192e819, 0xd6990624, 0xf40e3585, 0x106aa070,
    0x19a4c116, 0x1e376c08, 0x2748774c, 0x34b0bcb5, 0x391c0cb3, 0x4ed8aa4a, 0x5b9cca4f, 0x682e6ff3,
    0x748f82ee, 0x78a5636f, 0x84c87814, 0x8cc70208, 0x90befffa, 0xa4506ceb, 0xbef9a3f7, 0xc67178f2]

structure HashState where
  a : ℕ
  b : ℕ
  c : ℕ
  d : ℕ
  e : ℕ
  f : ℕ
  g : ℕ
  h : ℕ

/-- The first 32 bits of the fractional parts of the square roots of the first 8 primes. -/
def HashState.initial : HashState :=
  ⟨0x6a09e667, 0xbb67ae85, 0x3c6ef372, 0xa54ff53a, 0x510e527f, 0x9b05688c, 0x1f83d9ab, 0x5be0cd19⟩

def add32 (x y : ℕ) : ℕ := (x + y) % 2 ^ 32

def rotateRight (x n : ℕ) : ℕ := (x >>> n) ||| ((x <<< (32 - n)) % 2 ^ 32)

/-- The words of the schedule, the latest first. -/
def extendSchedule : ℕ → List ℕ → List ℕ
  | 0, ws => ws
  | n + 1, ws =>
    let x := ws.getD 14 0
    let y := ws.getD 1 0
    let s0 := rotateRight x 7 ^^^ rotateRight x 18 ^^^ (x >>> 3)
    let s1 := rotateRight y 17 ^^^ rotateRight y 19 ^^^ (y >>> 10)
    extendSchedule n (add32 (ws.getD 15 0 + s0) (ws.getD 6 0 + s1) :: ws)

def HashState.round (s : HashState) (kw : ℕ × ℕ) : HashState :=
  let s1 := rotateRight s.e 6 ^^^ rotateRight s.e 11 ^^^ rotateRight s.e 25
  let ch := (s.e &&& s.f) ^^^ ((s.e ^^^ 0xffffffff) &&& s.g)
  let t1 := add32 (s.h + s1 + ch) (kw.1 + kw.2)
  let s0 := rotateRight s.a 2 ^^^ rotateRight s.a 13 ^^^ rotateRight s.a 22
  let maj := (s.a &&& s.b) ^^^ (s.a &&& s.c) ^^^ (s.b &&& s.c)
  ⟨add32 t1 (s0 + maj), s.a, s.b, s.c, add32 s.d t1, s.e, s.f, s.g⟩

def wordsOf : List UInt8 → List ℕ
  | a :: b :: c :: d :: rest =>
    (a.toNat * 2 ^ 24 + b.toNat * 2 ^ 16 + c.toNat * 2 ^ 8 + d.toNat) :: wordsOf rest
  | _ => []

def bytesOf (w : ℕ) : List UInt8 :=
  [.ofNat (w / 2 ^ 24), .ofNat (w / 2 ^ 16), .ofNat (w / 2 ^ 8), .ofNat w]

def HashState.compress (s : HashState) (block : List UInt8) : HashState :=
  let schedule := (extendSchedule 48 (wordsOf block).reverse).reverse
  let t := (roundConstants.zip schedule).foldl HashState.round s
  ⟨add32 s.a t.a, add32 s.b t.b, add32 s.c t.c, add32 s.d t.d, add32 s.e t.e, add32 s.f t.f,
    add32 s.g t.g, add32 s.h t.h⟩

def compressBlocks : ℕ → List UInt8 → HashState → HashState
  | 0, _, s => s
  | n + 1, bytes, s => compressBlocks n (bytes.drop 64) (s.compress (bytes.take 64))

/-- A one, zeros, and the length of the message in bits. -/
def padding (length : ℕ) : List UInt8 :=
  0x80 :: List.replicate ((119 - length % 64) % 64) 0 ++
    (List.range 8).map fun i => UInt8.ofNat (8 * length / 256 ^ (7 - i))

def HashState.bytes (s : HashState) : List UInt8 :=
  [s.a, s.b, s.c, s.d, s.e, s.f, s.g, s.h].flatMap bytesOf

def digest (msg : List UInt8) : List UInt8 :=
  let padded := msg ++ padding msg.length
  (compressBlocks (padded.length / 64) padded .initial).bytes

theorem length_digest (msg : List UInt8) : (digest msg).length = 32 := rfl

example : (digest [0x61, 0x62, 0x63]).take 8 =
    [0xba, 0x78, 0x16, 0xbf, 0x8f, 0x01, 0xcf, 0xea] := by decide +kernel

end Coderd.Foundation.Sha2
