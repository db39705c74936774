/-!
# Bistro — SHA-256 and HMAC

The SHA-256 digest of FIPS 180-4 over a list of byte values, and the keyed digest HMAC-SHA256 of
RFC 2104 built on it. The message is padded with a one bit, zeros and its bit length to whole
64-byte blocks; each block is expanded to 64 schedule words and folded into the eight state
words by 64 rounds. All word arithmetic is modulo 2^32, as the standard prescribes.
-/

namespace Bistro

namespace Sha256

/-- The round constants: the first 32 bits of the fractional parts of the cube roots of the
first 64 primes. -/
def roundConstants : Array UInt32 := #[
  0x428a2f98, 0x71374491, 0xb5c0fbcf, 0xe9b5dba5, 0x3956c25b, 0x59f111f1, 0x923f82a4, 0xab1c5ed5,
  0xd807aa98, 0x12835b01, 0x243185be, 0x550c7dc3, 0x72be5d74, 0x80deb1fe, 0x9bdc06a7, 0xc19bf174,
  0xe49b69c1, 0xefbe4786, 0x0fc19dc6, 0x240ca1cc, 0x2de92c6f, 0x4a7484aa, 0x5cb0a9dc, 0x76f988da,
  0x983e5152, 0xa831c66d, 0xb00327c8, 0xbf597fc7, 0xc6e00bf3, 0xd5a79147, 0x06ca6351, 0x14292967,
  0x27b70a85, 0x2e1b2138, 0x4d2c6dfc, 0x53380d13, 0x650a7354, 0x766a0abb, 0x81c2c92e, 0x92722c85,
  0xa2bfe8a1, 0xa81a664b, 0xc24b8b70, 0xc76c51a3, 0xd192e819, 0xd6990624, 0xf40e3585, 0x106aa070,
  0x19a4c116, 0x1e376c08, 0x2748774c, 0x34b0bcb5, 0x391c0cb3, 0x4ed8aa4a, 0x5b9cca4f, 0x682e6ff3,
  0x748f82ee, 0x78a5636f, 0x84c87814, 0x8cc70208, 0x90befffa, 0xa4506ceb, 0xbef9a3f7, 0xc67178f2]

/-- The initial state: the first 32 bits of the fractional parts of the square roots of the
first eight primes. -/
def initial : List UInt32 :=
  [0x6a09e667, 0xbb67ae85, 0x3c6ef372, 0xa54ff53a, 0x510e527f, 0x9b05688c, 0x1f83d9ab, 0x5be0cd19]

/-- Rotation of a word to the right. -/
def rotr (x : UInt32) (n : UInt32) : UInt32 := (x >>> n) ||| (x <<< (32 - n))

/-- The message with its padding: a one bit, zeros to 56 bytes modulo 64, and the bit length in
eight big-endian bytes. -/
def pad (msg : List Nat) : List Nat :=
  let bits := msg.length * 8
  let zeroCount := (119 - msg.length % 64) % 64
  msg ++ [0x80] ++ List.replicate zeroCount 0 ++ (List.range 8).reverse.map fun i => bits / Nat.pow 256 i % 256

/-- A big-endian word of four bytes. -/
def word (bs : List Nat) : UInt32 :=
  bs.foldl (fun acc b => (acc <<< 8) ||| (UInt32.ofNat b)) 0

/-- The four big-endian bytes of a word. -/
def wordBytes (w : UInt32) : List Nat :=
  [(w >>> 24).toNat % 256, (w >>> 16).toNat % 256, (w >>> 8).toNat % 256, w.toNat % 256]

/-- The 64 schedule words of a block of sixteen words. -/
def schedule (ws : Array UInt32) : Array UInt32 :=
  (List.range 48).foldl (fun w i =>
    let t := i + 16
    let w2 := w[t - 2]!
    let w15 := w[t - 15]!
    let s0 := rotr w15 7 ^^^ rotr w15 18 ^^^ (w15 >>> 3)
    let s1 := rotr w2 17 ^^^ rotr w2 19 ^^^ (w2 >>> 10)
    w.push (s1 + w[t - 7]! + s0 + w[t - 16]!)) ws

/-- The working state of the rounds. -/
structure Rounds where
  a : UInt32
  b : UInt32
  c : UInt32
  d : UInt32
  e : UInt32
  f : UInt32
  g : UInt32
  h : UInt32

/-- One round with schedule word `w` and constant `k`. -/
def round (s : Rounds) (k w : UInt32) : Rounds :=
  let s1 := rotr s.e 6 ^^^ rotr s.e 11 ^^^ rotr s.e 25
  let ch := (s.e &&& s.f) ^^^ ((~~~ s.e) &&& s.g)
  let t1 := s.h + s1 + ch + k + w
  let s0 := rotr s.a 2 ^^^ rotr s.a 13 ^^^ rotr s.a 22
  let maj := (s.a &&& s.b) ^^^ (s.a &&& s.c) ^^^ (s.b &&& s.c)
  let t2 := s0 + maj
  ⟨t1 + t2, s.a, s.b, s.c, s.d + t1, s.e, s.f, s.g⟩

/-- The state after one block of 64 bytes. -/
def compress (state : List UInt32) (block : List Nat) : List UInt32 :=
  let ws := (List.range 16).toArray.map fun i => word ((block.drop (4 * i)).take 4)
  let w := schedule ws
  let start : Rounds := match state with
    | [a, b, c, d, e, f, g, h] => ⟨a, b, c, d, e, f, g, h⟩
    | _ => ⟨0, 0, 0, 0, 0, 0, 0, 0⟩
  let s := (List.range 64).foldl (fun s i => round s roundConstants[i]! w[i]!) start
  (state.zip [s.a, s.b, s.c, s.d, s.e, s.f, s.g, s.h]).map fun (x, y) => x + y

end Sha256

/-- The SHA-256 digest of a message, as 32 byte values. -/
def sha256 (msg : List Nat) : List Nat :=
  let padded := Sha256.pad msg
  let blocks := (List.range (padded.length / 64)).map fun i => (padded.drop (64 * i)).take 64
  (blocks.foldl Sha256.compress Sha256.initial).flatMap Sha256.wordBytes

/-- The HMAC-SHA256 of a message under a key: a key longer than a block is first digested, then
zero-padded to 64 bytes and mixed with the inner and outer pads. -/
def hmacSha256 (key msg : List Nat) : List Nat :=
  let key := if key.length > 64 then sha256 key else key
  let key := key ++ List.replicate (64 - key.length) 0
  let inner := key.map fun b => (b ^^^ 0x36) % 256
  let outer := key.map fun b => (b ^^^ 0x5c) % 256
  sha256 (outer ++ sha256 (inner ++ msg))

end Bistro
