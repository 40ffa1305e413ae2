/-!
The digests SHA-256 and SHA-512. Both work on words, of 32 and of 64 bits, and differ only in their
constants and in the distances by which words are rotated.
-/

namespace AttributeRelease.Bytes

/-- Words with the operations that the digests need. -/
class Word (w : Type) extends Add w, XorOp w, AndOp w, Complement w where
  /-- The number of bytes of a word. -/
  bytes : Nat
  ofNat : Nat → w
  toNat : w → Nat
  shiftRight : w → Nat → w
  rotateRight : w → Nat → w

instance : Word UInt32 where
  bytes := 4
  ofNat := UInt32.ofNat
  toNat := UInt32.toNat
  shiftRight x n := x >>> UInt32.ofNat n
  rotateRight x n := (x >>> UInt32.ofNat n) ||| (x <<< UInt32.ofNat (32 - n))

instance : Word UInt64 where
  bytes := 8
  ofNat := UInt64.ofNat
  toNat := UInt64.toNat
  shiftRight x n := x >>> UInt64.ofNat n
  rotateRight x n := (x >>> UInt64.ofNat n) ||| (x <<< UInt64.ofNat (64 - n))

namespace Sha2

variable {w : Type} [Word w]

/-- What tells the digests apart. The last of the three distances for the schedule is a shift. -/
structure Parameters (w : Type) where
  constants : List w
  initial : List w
  schedule0 : Nat × Nat × Nat
  schedule1 : Nat × Nat × Nat
  round0 : Nat × Nat × Nat
  round1 : Nat × Nat × Nat

def rotations (d : Nat × Nat × Nat) (x : w) : w :=
  Word.rotateRight x d.1 ^^^ Word.rotateRight x d.2.1 ^^^ Word.rotateRight x d.2.2

def shifts (d : Nat × Nat × Nat) (x : w) : w :=
  Word.rotateRight x d.1 ^^^ Word.rotateRight x d.2.1 ^^^ Word.shiftRight x d.2.2

/-- The word that follows sixteen words of the schedule. -/
def nextWord (p : Parameters w) : List w → w
  | [w0, w1, _, _, _, _, _, _, _, w9, _, _, _, _, w14, _] =>
    shifts p.schedule1 w14 + w9 + shifts p.schedule0 w1 + w0
  | _ => Word.ofNat 0

/-- One round with a constant and a word of the schedule. -/
def round (p : Parameters w) (k x : w) : List w → List w
  | [a, b, c, d, e, f, g, h] =>
    let choice := (e &&& f) ^^^ (~~~e &&& g)
    let majority := (a &&& b) ^^^ (a &&& c) ^^^ (b &&& c)
    let t := h + rotations p.round1 e + choice + k + x
    [t + rotations p.round0 a + majority, a, b, c, d + t, e, f, g]
  | state => state

/-- The rounds for some constants; `schedule` holds the next sixteen words. -/
def rounds (p : Parameters w) : (constants schedule state : List w) → List w
  | [], _, state => state
  | k :: ks, schedule, state =>
    rounds p ks (schedule.tail ++ [nextWord p schedule])
      (round p k (schedule.headD (Word.ofNat 0)) state)

/-- The number written by bytes, the first of them worth most. -/
def number (bytes : List UInt8) : Nat := bytes.foldl (fun n b => n * 256 + b.toNat) 0

/-- A number as a fixed count of bytes, the first of them worth most. -/
def bigEndian (count n : Nat) : List UInt8 :=
  (List.range count).map fun i => UInt8.ofNat (n >>> (8 * (count - 1 - i)))

/-- Cuts a list into pieces of one length; `fuel` bounds their number. -/
def pieces (length : Nat) : (fuel : Nat) → List UInt8 → List (List UInt8)
  | 0, _ => []
  | _, [] => []
  | fuel + 1, bytes => bytes.take length :: pieces length fuel (bytes.drop length)

/-- Takes one block of a message into account. -/
def compress (p : Parameters w) (state : List w) (block : List UInt8) : List w :=
  let words := (pieces (Word.bytes w) 16 block).map fun b => Word.ofNat (number b)
  List.zipWith (· + ·) state (rounds p p.constants words state)

/-- A message with a closing bit, zeros, and its length in bits, filling blocks of sixteen words. -/
def pad (wordBytes : Nat) (message : List UInt8) : List UInt8 :=
  let block := 16 * wordBytes
  let open_ := (message.length + 1 + 2 * wordBytes) % block
  message ++ 0x80 :: List.replicate ((block - open_) % block) 0 ++
    bigEndian (2 * wordBytes) (8 * message.length)

def digest (p : Parameters w) (message : List UInt8) : List UInt8 :=
  let padded := pad (Word.bytes w) message
  let blocks := pieces (16 * Word.bytes w) padded.length padded
  (blocks.foldl (compress p) p.initial).flatMap fun x => bigEndian (Word.bytes w) (Word.toNat x)

def parameters256 : Parameters UInt32 where
  constants := [
    0x428a2f98, 0x71374491, 0xb5c0fbcf, 0xe9b5dba5, 0x3956c25b, 0x59f111f1, 0x923f82a4, 0xab1c5ed5,
    0xd807aa98, 0x12835b01, 0x243185be, 0x550c7dc3, 0x72be5d74, 0x80deb1fe, 0x9bdc06a7, 0xc19bf174,
    0xe49b69c1, 0xefbe4786, 0x0fc19dc6, 0x240ca1cc, 0x2de92c6f, 0x4a7484aa, 0x5cb0a9dc, 0x76f988da,
    0x983e5152, 0xa831c66d, 0xb00327c8, 0xbf597fc7, 0xc6e00bf3, 0xd5a79147, 0x06ca6351, 0x14292967,
    0x27b70a85, 0x2e1b2138, 0x4d2c6dfc, 0x53380d13, 0x650a7354, 0x766a0abb, 0x81c2c92e, 0x92722c85,
    0xa2bfe8a1, 0xa81a664b, 0xc24b8b70, 0xc76c51a3, 0xd192e819, 0xd6990624, 0xf40e3585, 0x106aa070,
    0x19a4c116, 0x1e376c08, 0x2748774c, 0x34b0bcb5, 0x391c0cb3, 0x4ed8aa4a, 0x5b9cca4f, 0x682e6ff3,
    0x748f82ee, 0x78a5636f, 0x84c87814, 0x8cc70208, 0x90befffa, 0xa4506ceb, 0xbef9a3f7, 0xc67178f2]
  initial := [
    0x6a09e667, 0xbb67ae85, 0x3c6ef372, 0xa54ff53a, 0x510e527f, 0x9b05688c, 0x1f83d9ab, 0x5be0cd19]
  schedule0 := (7, 18, 3)
  schedule1 := (17, 19, 10)
  round0 := (2, 13, 22)
  round1 := (6, 11, 25)

def parameters512 : Parameters UInt64 where
  constants := [
    0x428a2f98d728ae22, 0x7137449123ef65cd, 0xb5c0fbcfec4d3b2f, 0xe9b5dba58189dbbc,
    0x3956c25bf348b538, 0x59f111f1b605d019, 0x923f82a4af194f9b, 0xab1c5ed5da6d8118,
    0xd807aa98a3030242, 0x12835b0145706fbe, 0x243185be4ee4b28c, 0x550c7dc3d5ffb4e2,
    0x72be5d74f27b896f, 0x80deb1fe3b1696b1, 0x9bdc06a725c71235, 0xc19bf174cf692694,
    0xe49b69c19ef14ad2, 0xefbe4786384f25e3, 0x0fc19dc68b8cd5b5, 0x240ca1cc77ac9c65,
    0x2de92c6f592b0275, 0x4a7484aa6ea6e483, 0x5cb0a9dcbd41fbd4, 0x76f988da831153b5,
    0x983e5152ee66dfab, 0xa831c66d2db43210, 0xb00327c898fb213f, 0xbf597fc7beef0ee4,
    0xc6e00bf33da88fc2, 0xd5a79147930aa725, 0x06ca6351e003826f, 0x142929670a0e6e70,
    0x27b70a8546d22ffc, 0x2e1b21385c26c926, 0x4d2c6dfc5ac42aed, 0x53380d139d95b3df,
    0x650a73548baf63de, 0x766a0abb3c77b2a8, 0x81c2c92e47edaee6, 0x92722c851482353b,
    0xa2bfe8a14cf10364, 0xa81a664bbc423001, 0xc24b8b70d0f89791, 0xc76c51a30654be30,
    0xd192e819d6ef5218, 0xd69906245565a910, 0xf40e35855771202a, 0x106aa07032bbd1b8,
    0x19a4c116b8d2d0c8, 0x1e376c085141ab53, 0x2748774cdf8eeb99, 0x34b0bcb5e19b48a8,
    0x391c0cb3c5c95a63, 0x4ed8aa4ae3418acb, 0x5b9cca4f7763e373, 0x682e6ff3d6b2b8a3,
    0x748f82ee5defb2fc, 0x78a5636f43172f60, 0x84c87814a1f0ab72, 0x8cc702081a6439ec,
    0x90befffa23631e28, 0xa4506cebde82bde9, 0xbef9a3f7b2c67915, 0xc67178f2e372532b,
    0xca273eceea26619c, 0xd186b8c721c0c207, 0xeada7dd6cde0eb1e, 0xf57d4f7fee6ed178,
    0x06f067aa72176fba, 0x0a637dc5a2c898a6, 0x113f9804bef90dae, 0x1b710b35131c471b,
    0x28db77f523047d84, 0x32caab7b40c72493, 0x3c9ebe0a15c9bebc, 0x431d67c49c100d4c,
    0x4cc5d4becb3e42b6, 0x597f299cfc657e2a, 0x5fcb6fab3ad6faec, 0x6c44198c4a475817]
  initial := [
    0x6a09e667f3bcc908, 0xbb67ae8584caa73b, 0x3c6ef372fe94f82b, 0xa54ff53a5f1d36f1,
    0x510e527fade682d1, 0x9b05688c2b3e6c1f, 0x1f83d9abfb41bd6b, 0x5be0cd19137e2179]
  schedule0 := (1, 8, 7)
  schedule1 := (19, 61, 6)
  round0 := (28, 34, 39)
  round1 := (14, 18, 41)

end Sha2

def sha256 (message : List UInt8) : List UInt8 := Sha2.digest Sha2.parameters256 message

def sha512 (message : List UInt8) : List UInt8 := Sha2.digest Sha2.parameters512 message

end AttributeRelease.Bytes
