/-!
# The 512-bit digest of a text

A text that serves as a seed is turned into a number with the help of its SHA-512 digest: the bytes
are padded to blocks of 128, each block is spread to eighty words, and eighty rounds mix these into
eight words of state, which are added to the eight words so far.

The initial words are the fractions of the square roots of the first eight primes, the words of the
rounds those of the cube roots of the first eighty, each cut to 64 bits.
-/

set_option autoImplicit false

namespace Dicebox.Digest

/-- The words of the rounds. -/
def roundWords : Array UInt64 := #[
    0x428a2f98d728ae22, 0x7137449123ef65cd, 0xb5c0fbcfec4d3b2f, 0xe9b5dba58189dbbc,
    0x3956c25bf348b538, 0x59f111f1b605d019, 0x923f82a4af194f9b, 0xab1c5ed5da6d8118,
    0xd807aa98a3030242, 0x12835b0145706fbe, 0x243185be4ee4b28c, 0x550c7dc3d5ffb4e2,
    0x72be5d74f27b896f, 0x80deb1fe3b1696b1, 0x9bdc06a725c71235, 0xc19bf174cf692694,
    0xe49b69c19ef14ad2, 0xefbe4786384f25e3, 0x0fc19dc68b8cd5b5, 0x240ca1cc77ac9c65,
    0x2de92c6f592b0275, 0x4a7484aa6ea6e483, 0x5cb0a9dcbd41fbd4, 0x76f988da831153b5,
    0x983e5152ee66dfab, 0xa831c66d2db43210, 0xb00327c898fb213f, 0xbf597fc7beef0ee4,
    0xc6e00bf33da88fc2, 0xd5a79147930aa725, 0x06ca6351e003826f, 0x142929670a0e6e70,
    0x27b70a8546d22ffc, 0x2e1b21385c26c926, 0x4d2c6dfc5ac42aed, 0x53380d139d95b3df,
    0x650a73548baf63de, 0x766a0abb3c77b2a8, 0x81c2c92e47edaee6, 0x92722c851482353b,
    0xa2bfe8a14cf10364, 0xa81a664bbc423001, 0xc24b8b70d0f89791, 0xc76c51a30654be30,
    0xd192e819d6ef5218, 0xd69906245565a910, 0xf40e35855771202a, 0x106aa07032bbd1b8,
    0x19a4c116b8d2d0c8, 0x1e376c085141ab53, 0x2748774cdf8eeb99, 0x34b0bcb5e19b48a8,
    0x391c0cb3c5c95a63, 0x4ed8aa4ae3418acb, 0x5b9cca4f7763e373, 0x682e6ff3d6b2b8a3,
    0x748f82ee5defb2fc, 0x78a5636f43172f60, 0x84c87814a1f0ab72, 0x8cc702081a6439ec,
    0x90befffa23631e28, 0xa4506cebde82bde9, 0xbef9a3f7b2c67915, 0xc67178f2e372532b,
    0xca273eceea26619c, 0xd186b8c721c0c207, 0xeada7dd6cde0eb1e, 0xf57d4f7fee6ed178,
    0x06f067aa72176fba, 0x0a637dc5a2c898a6, 0x113f9804bef90dae, 0x1b710b35131c471b,
    0x28db77f523047d84, 0x32caab7b40c72493, 0x3c9ebe0a15c9bebc, 0x431d67c49c100d4c,
    0x4cc5d4becb3e42b6, 0x597f299cfc657e2a, 0x5fcb6fab3ad6faec, 0x6c44198c4a475817]

/-- The words before the first block. -/
def initialWords : Array UInt64 := #[
    0x6a09e667f3bcc908, 0xbb67ae8584caa73b, 0x3c6ef372fe94f82b, 0xa54ff53a5f1d36f1,
    0x510e527fade682d1, 0x9b05688c2b3e6c1f, 0x1f83d9abfb41bd6b, 0x5be0cd19137e2179]

/-! ## Words -/

/-- A word turned to the right. -/
def turn (x : UInt64) (n : UInt64) : UInt64 := (x >>> n) ||| (x <<< (64 - n))

/-- The number of some bytes, most significant first. -/
def ofBytes (bytes : List UInt8) : Nat := bytes.foldl (fun n b => 256 * n + b.toNat) 0

/-- The bytes of a number, most significant first, with zeros in front. -/
def toBytes : Nat → Nat → List UInt8
  | 0, _ => []
  | count + 1, n => toBytes count (n / 256) ++ [UInt8.ofNat n]

/-- A list cut into pieces of a positive length; only the last one may be shorter. The first number
bounds how many there are. -/
def pieces {α : Type} (size : Nat) : Nat → List α → List (List α)
  | 0, _ => []
  | _ + 1, [] => []
  | n + 1, items => items.take size :: pieces size n (items.drop size)

/-! ## Blocks -/

/-- The bytes of a block. -/
def blockSize : Nat := 128

/-- The bytes with a one bit, zeros and their own length in bits, to the end of a block. -/
def pad (bytes : List UInt8) : List UInt8 :=
  let zeros := (blockSize - (bytes.length + 17) % blockSize) % blockSize
  bytes ++ 0x80 :: List.replicate zeros 0 ++ toBytes 16 (8 * bytes.length)

/-- The eighty words that a block is spread to: its own sixteen, and then each from four before
it. -/
def schedule (block : List UInt8) : Array UInt64 :=
  let own := (pieces 8 16 block).map fun bytes => UInt64.ofNat (ofBytes bytes)
  (List.range 64).foldl (fun (words : Array UInt64) (i : Nat) =>
    let word (k : Nat) : UInt64 := words.getD k 0
    let early := word (i + 1)
    let late := word (i + 14)
    let spreadEarly := turn early 1 ^^^ turn early 8 ^^^ (early >>> 7)
    let spreadLate := turn late 19 ^^^ turn late 61 ^^^ (late >>> 6)
    words.push (spreadLate + word (i + 9) + spreadEarly + word i)) own.toArray

/-- The eight words of the state. -/
structure State where
  a : UInt64
  b : UInt64
  c : UInt64
  d : UInt64
  e : UInt64
  f : UInt64
  g : UInt64
  h : UInt64

namespace State

def ofWords (words : Array UInt64) : State :=
  let word (k : Nat) : UInt64 := words.getD k 0
  ⟨word 0, word 1, word 2, word 3, word 4, word 5, word 6, word 7⟩

def words (s : State) : Array UInt64 := #[s.a, s.b, s.c, s.d, s.e, s.f, s.g, s.h]

/-- One round with the sum of its word and the schedule's. -/
def round (s : State) (word : UInt64) : State :=
  let mixE := turn s.e 14 ^^^ turn s.e 18 ^^^ turn s.e 41
  let choice := (s.e &&& s.f) ^^^ ((~~~ s.e) &&& s.g)
  let first := s.h + mixE + choice + word
  let mixA := turn s.a 28 ^^^ turn s.a 34 ^^^ turn s.a 39
  let majority := (s.a &&& s.b) ^^^ (s.a &&& s.c) ^^^ (s.b &&& s.c)
  ⟨first + mixA + majority, s.a, s.b, s.c, s.d + first, s.e, s.f, s.g⟩

end State

/-- The words after a block. -/
def absorb (words : Array UInt64) (block : List UInt8) : Array UInt64 :=
  let sums := Array.zipWith (fun x y => x + y) roundWords (schedule block)
  let mixed := sums.foldl State.round (State.ofWords words)
  Array.zipWith (fun x y => x + y) words mixed.words

/-- The digest of some bytes. -/
def digest (bytes : List UInt8) : List UInt8 :=
  let padded := pad bytes
  let words := (pieces blockSize padded.length padded).foldl absorb initialWords
  words.toList.flatMap fun word => toBytes 8 word.toNat

end Dicebox.Digest
