/-
  The SHA-256 digest of FIPS 180-4, on bytes.

  The parts, in the order in which the standard gives them:

    1.  the constants: cube roots of the first 64 primes for the rounds, square roots of the first
        8 for the start;
    2.  the message padded to whole blocks of 64 bytes, as a function of the place in it;
    3.  the schedule that stretches the 16 words of a block to 64;
    4.  the compression of one block into the chaining state, and the fold over all blocks.

  Words are `UInt32`, whose addition wraps as the standard asks.
-/

namespace LoopLowering.Digest.Sha256

/-! ## 1. Constants -/

/-- The round constants. -/
def roundConstants : Array UInt32 :=
  #[0x428a2f98, 0x71374491, 0xb5c0fbcf, 0xe9b5dba5, 0x3956c25b, 0x59f111f1, 0x923f82a4, 0xab1c5ed5,
    0xd807aa98, 0x12835b01, 0x243185be, 0x550c7dc3, 0x72be5d74, 0x80deb1fe, 0x9bdc06a7, 0xc19bf174,
    0xe49b69c1, 0xefbe4786, 0x0fc19dc6, 0x240ca1cc, 0x2de92c6f, 0x4a7484aa, 0x5cb0a9dc, 0x76f988da,
    0x983e5152, 0xa831c66d, 0xb00327c8, 0xbf597fc7, 0xc6e00bf3, 0xd5a79147, 0x06ca6351, 0x14292967,
    0x27b70a85, 0x2e1b2138, 0x4d2c6dfc, 0x53380d13, 0x650a7354, 0x766a0abb, 0x81c2c92e, 0x92722c85,
    0xa2bfe8a1, 0xa81a664b, 0xc24b8b70, 0xc76c51a3, 0xd192e819, 0xd6990624, 0xf40e3585, 0x106aa070,
    0x19a4c116, 0x1e376c08, 0x2748774c, 0x34b0bcb5, 0x391c0cb3, 0x4ed8aa4a, 0x5b9cca4f, 0x682e6ff3,
    0x748f82ee, 0x78a5636f, 0x84c87814, 0x8cc70208, 0x90befffa, 0xa4506ceb, 0xbef9a3f7, 0xc67178f2]

/-- The eight working words. -/
structure State where
  a : UInt32
  b : UInt32
  c : UInt32
  d : UInt32
  e : UInt32
  f : UInt32
  g : UInt32
  h : UInt32
  deriving DecidableEq, Repr

/-- The state before the first block. -/
def State.start : State :=
  ⟨0x6a09e667, 0xbb67ae85, 0x3c6ef372, 0xa54ff53a, 0x510e527f, 0x9b05688c, 0x1f83d9ab, 0x5be0cd19⟩

/-! ## 2. Padding -/

/-- How many blocks a padded message of `size` bytes has: the mark and the length take 9 bytes. -/
def blockCount (size : Nat) : Nat := (size + 9 + 63) / 64

/-- The byte at a place of the padded message: the message, a one bit, zeros, and in the last eight
    bytes the length in bits, most significant byte first. -/
def paddedByte (message : ByteArray) (i : Nat) : UInt8 :=
  if h : i < message.size then message[i]
  else if i = message.size then 0x80
  else
    let left := 64 * blockCount message.size - 1 - i
    if left < 8 then UInt8.ofNat ((8 * message.size) >>> (8 * left)) else 0

/-- The word that begins at a place of the padded message, most significant byte first. -/
def paddedWord (message : ByteArray) (i : Nat) : UInt32 :=
  let byte := fun k => (paddedByte message (i + k)).toUInt32
  (byte 0 <<< 24) ||| (byte 1 <<< 16) ||| (byte 2 <<< 8) ||| byte 3

/-- The 16 words of a block of the padded message. -/
def block (message : ByteArray) (n : Nat) : Array UInt32 :=
  (Array.range 16).map fun k => paddedWord message (64 * n + 4 * k)

/-! ## 3. Schedule -/

/-- Rotation of a word to the right. -/
def rotr (x : UInt32) (n : UInt32) : UInt32 := (x >>> n) ||| (x <<< (32 - n))

/-- Stretches a schedule by `n` words, each made of four before it. -/
def stretch : Nat → Array UInt32 → Array UInt32
  | 0, ws => ws
  | n + 1, ws =>
    -- `back i` is the word `i` places before the new one.
    let back := fun i => ws.getD (ws.size - i) 0
    let low := rotr (back 15) 7 ^^^ rotr (back 15) 18 ^^^ (back 15 >>> 3)
    let high := rotr (back 2) 17 ^^^ rotr (back 2) 19 ^^^ (back 2 >>> 10)
    stretch n (ws.push (high + back 7 + low + back 16))

/-- The 64 words of a block of 16. -/
def schedule (block : Array UInt32) : Array UInt32 := stretch 48 block

/-! ## 4. Compression -/

/-- One round, with its constant and its schedule word. -/
def State.round (s : State) (constant word : UInt32) : State :=
  let high := rotr s.e 6 ^^^ rotr s.e 11 ^^^ rotr s.e 25
  let choice := (s.e &&& s.f) ^^^ (~~~s.e &&& s.g)
  let first := s.h + high + choice + constant + word
  let low := rotr s.a 2 ^^^ rotr s.a 13 ^^^ rotr s.a 22
  let majority := (s.a &&& s.b) ^^^ (s.a &&& s.c) ^^^ (s.b &&& s.c)
  ⟨first + (low + majority), s.a, s.b, s.c, s.d + first, s.e, s.f, s.g⟩

/-- The state after a block of 16 words. -/
def State.absorb (s : State) (block : Array UInt32) : State :=
  let ws := schedule block
  let t := (List.range 64).foldl
    (fun (t : State) n => t.round (roundConstants.getD n 0) (ws.getD n 0)) s
  ⟨s.a + t.a, s.b + t.b, s.c + t.c, s.d + t.d, s.e + t.e, s.f + t.f, s.g + t.g, s.h + t.h⟩

/-- The state after all blocks of the padded message. -/
def State.absorbAll (s : State) (message : ByteArray) : State :=
  (List.range (blockCount message.size)).foldl (fun s n => s.absorb (block message n)) s

/-- The eight words of the digest of a message. -/
def digest (message : ByteArray) : List UInt32 :=
  let s := State.start.absorbAll message
  [s.a, s.b, s.c, s.d, s.e, s.f, s.g, s.h]

/-- The eight lower-case hexadecimal digits of a word. -/
def hexWord (w : UInt32) : List Char :=
  [28, 24, 20, 16, 12, 8, 4, 0].map fun shift => (w.toNat >>> shift % 16).digitChar

/-- The digest of a text's UTF-8 bytes, as 64 hexadecimal digits. -/
def hexDigest (text : String) : String :=
  String.ofList ((digest text.toUTF8).flatMap hexWord)

end LoopLowering.Digest.Sha256
