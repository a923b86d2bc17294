import Mathlib

/-!
# SHA-256

The digest of a byte string, on words kept as natural numbers below `2 ^ 32` so that the kernel
evaluates it.

* `round`, `compressBlock` — one round, and the sixty-four rounds of a block.
* `pad` — the closing bit, zeros and the length, up to whole blocks.
* `digest`, `digest_length` — the thirty-two bytes.
-/

set_option autoImplicit false

namespace Sha2

/-- Words have 32 bits. -/
def wordModulus : Nat := 2 ^ 32

/-- Rotation of a word. -/
def rotateRight (x n : Nat) : Nat := x >>> n ||| x <<< (32 - n) % wordModulus

/-- The bits that a word lacks. -/
def complement (x : Nat) : Nat := wordModulus - 1 - x

/-- The constant of each round. -/
def roundConstants : List Nat :=
  [0x428a2f98, 0x71374491, 0xb5c0fbcf, 0xe9b5dba5, 0x3956c25b, 0x59f111f1, 0x923f82a4, 0xab1c5ed5,
   0xd807aa98, 0x12835b01, 0x243185be, 0x550c7dc3, 0x72be5d74, 0x80deb1fe, 0x9bdc06a7, 0xc19bf174,
   0xe49b69c1, 0xefbe4786, 0x0fc19dc6, 0x240ca1cc, 0x2de92c6f, 0x4a7484aa, 0x5cb0a9dc, 0x76f988da,
   0x983e5152, 0xa831c66d, 0xb00327c8, 0xbf597fc7, 0xc6e00bf3, 0xd5a79147, 0x06ca6351, 0x14292967,
   0x27b70a85, 0x2e1b2138, 0x4d2c6dfc, 0x53380d13, 0x650a7354, 0x766a0abb, 0x81c2c92e, 0x92722c85,
   0xa2bfe8a1, 0xa81a664b, 0xc24b8b70, 0xc76c51a3, 0xd192e819, 0xd6990624, 0xf40e3585, 0x106aa070,
   0x19a4c116, 0x1e376c08, 0x2748774c, 0x34b0bcb5, 0x391c0cb3, 0x4ed8aa4a, 0x5b9cca4f, 0x682e6ff3,
   0x748f82ee, 0x78a5636f, 0x84c87814, 0x8cc70208, 0x90befffa, 0xa4506ceb, 0xbef9a3f7, 0xc67178f2]

/-- The eight words that one block hands to the next. -/
structure State where
  a : Nat
  b : Nat
  c : Nat
  d : Nat
  e : Nat
  f : Nat
  g : Nat
  h : Nat

/-- The state before the first block. -/
def initialState : State where
  a := 0x6a09e667
  b := 0xbb67ae85
  c := 0x3c6ef372
  d := 0xa54ff53a
  e := 0x510e527f
  f := 0x9b05688c
  g := 0x1f83d9ab
  h := 0x5be0cd19

/-- The words of a state, in order. -/
def State.words (s : State) : List Nat := [s.a, s.b, s.c, s.d, s.e, s.f, s.g, s.h]

/-- The choice function of a round. -/
def choice (x y z : Nat) : Nat := x &&& y ^^^ complement x &&& z
def majority (x y z : Nat) : Nat := x &&& y ^^^ x &&& z ^^^ y &&& z
def bigSigma0 (x : Nat) : Nat := rotateRight x 2 ^^^ rotateRight x 13 ^^^ rotateRight x 22
def bigSigma1 (x : Nat) : Nat := rotateRight x 6 ^^^ rotateRight x 11 ^^^ rotateRight x 25
def smallSigma0 (x : Nat) : Nat := rotateRight x 7 ^^^ rotateRight x 18 ^^^ x >>> 3
def smallSigma1 (x : Nat) : Nat := rotateRight x 17 ^^^ rotateRight x 19 ^^^ x >>> 10

/-- One round. -/
def round (s : State) (constant word : Nat) : State :=
  let first := s.h + bigSigma1 s.e + choice s.e s.f s.g + constant + word
  let second := bigSigma0 s.a + majority s.a s.b s.c
  ⟨(first + second) % wordModulus, s.a, s.b, s.c, (s.d + first) % wordModulus, s.e, s.f, s.g⟩

/-- The word that follows a window of sixteen. -/
def nextWord (window : List Nat) : Nat :=
  (smallSigma1 (window.getD 14 0) + window.getD 9 0 + smallSigma0 (window.getD 1 0) +
    window.getD 0 0) % wordModulus

/-- The rounds of a block; the window slides over the message schedule. -/
def rounds : List Nat → List Nat → State → State
  | constant :: constants, word :: window, s =>
    rounds constants (window ++ [nextWord (word :: window)]) (round s constant word)
  | _, _, s => s

/-- The rounds of one block. -/
def compressBlock (s : State) (block : List Nat) : State :=
  let r := rounds roundConstants block s
  ⟨(s.a + r.a) % wordModulus, (s.b + r.b) % wordModulus, (s.c + r.c) % wordModulus,
   (s.d + r.d) % wordModulus, (s.e + r.e) % wordModulus, (s.f + r.f) % wordModulus,
   (s.g + r.g) % wordModulus, (s.h + r.h) % wordModulus⟩

/-! ## Bytes -/

/-- The lowest bytes of a number, most significant first. -/
def bigEndian : Nat → Nat → List UInt8
  | 0, _ => []
  | width + 1, n => bigEndian width (n / 256) ++ [UInt8.ofNat n]

theorem length_bigEndian (width n : Nat) : (bigEndian width n).length = width := by
  induction width generalizing n with
  | zero => rfl
  | succ width ih => rw [bigEndian, List.length_append, ih, List.length_singleton]

/-- Big-endian words of four bytes. -/
def bytesToWords : List UInt8 → List Nat
  | a :: b :: c :: d :: rest =>
    (((a.toNat * 256 + b.toNat) * 256 + c.toNat) * 256 + d.toNat) :: bytesToWords rest
  | _ => []

/-- A message padded to whole blocks. -/
def pad (message : List UInt8) : List UInt8 :=
  message ++ 0x80 :: List.replicate ((119 - message.length % 64) % 64) 0 ++
    bigEndian 8 (8 * message.length)

/-- The blocks of a padded message, sixteen words each. -/
def compress : Nat → State → List Nat → State
  | 0, s, _ => s
  | blocks + 1, s, words => compress blocks (compressBlock s (words.take 16)) (words.drop 16)

/-- The hash of a message. -/
def digest (message : List UInt8) : List UInt8 :=
  let words := bytesToWords (pad message)
  (compress (words.length / 16) initialState words).words.flatMap (bigEndian 4)

theorem digest_length (message : List UInt8) : (digest message).length = 32 := by
  simp [digest, State.words, length_bigEndian]

/-- The digest of `abc`. -/
example : digest [97, 98, 99] =
    [0xba, 0x78, 0x16, 0xbf, 0x8f, 0x01, 0xcf, 0xea, 0x41, 0x41, 0x40, 0xde, 0x5d, 0xae, 0x22, 0x23,
     0xb0, 0x03, 0x61, 0xa3, 0x96, 0x17, 0x7a, 0x9c, 0xb4, 0x10, 0xff, 0x61, 0xf2, 0x00, 0x15,
     0xad] := by
  decide +kernel

end Sha2
