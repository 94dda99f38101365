/-!
# SHA-2

The three digests of FIPS 180-4 that a token can be signed with. One description serves both word
widths; `Width` holds what the 32-bit and the 64-bit functions do not share.
-/

namespace SignedToken.Sha2

/-! ## What depends on the word -/

/-- A word width: how bytes make words, big end first, and the functions and constants of its
rounds. -/
structure Width (W : Type) where
  wordBytes : Nat
  load : List UInt8 → List W
  store : W → List UInt8
  bigSigma0 : W → W
  bigSigma1 : W → W
  smallSigma0 : W → W
  smallSigma1 : W → W
  rounds : List W

structure State (W : Type) where
  a : W
  b : W
  c : W
  d : W
  e : W
  f : W
  g : W
  h : W
deriving DecidableEq, Repr

def State.toList {W : Type} (s : State W) : List W := [s.a, s.b, s.c, s.d, s.e, s.f, s.g, s.h]

/-! ## Compression -/

section
variable {W : Type} [Add W] [AndOp W] [XorOp W] [Complement W]

def State.add (s t : State W) : State W :=
  ⟨s.a + t.a, s.b + t.b, s.c + t.c, s.d + t.d, s.e + t.e, s.f + t.f, s.g + t.g, s.h + t.h⟩

def choose (x y z : W) : W := (x &&& y) ^^^ (~~~x &&& z)

def majority (x y z : W) : W := (x &&& y) ^^^ (x &&& z) ^^^ (y &&& z)

/-- The first `n` words of the schedule that starts with the sixteen of `window`. -/
def schedule (p : Width W) : Nat → List W → List W
  | n + 1, [w0, w1, w2, w3, w4, w5, w6, w7, w8, w9, w10, w11, w12, w13, w14, w15] =>
    w0 :: schedule p n [w1, w2, w3, w4, w5, w6, w7, w8, w9, w10, w11, w12, w13, w14, w15,
      p.smallSigma1 w14 + w9 + p.smallSigma0 w1 + w0]
  | _, _ => []

def round (p : Width W) (s : State W) (kw : W × W) : State W :=
  let t1 := s.h + p.bigSigma1 s.e + choose s.e s.f s.g + kw.1 + kw.2
  let t2 := p.bigSigma0 s.a + majority s.a s.b s.c
  ⟨t1 + t2, s.a, s.b, s.c, s.d + t1, s.e, s.f, s.g⟩

def compress (p : Width W) (s : State W) (block : List W) : State W :=
  s.add ((p.rounds.zip (schedule p p.rounds.length block)).foldl (round p) s)

def absorb (p : Width W) (s : State W) : List W → State W
  | w0 :: w1 :: w2 :: w3 :: w4 :: w5 :: w6 :: w7 :: w8 :: w9 :: w10 :: w11 :: w12 :: w13 :: w14
      :: w15 :: rest =>
    absorb p (compress p s
      [w0, w1, w2, w3, w4, w5, w6, w7, w8, w9, w10, w11, w12, w13, w14, w15]) rest
  | _ => s

end

/-! ## Padding -/

def bigEndian : Nat → Nat → List UInt8
  | 0, _ => []
  | count + 1, n => bigEndian count (n / 256) ++ [.ofNat (n % 256)]

/-- The message, a one bit, zeros, and the length in bits in two words: whole blocks of sixteen. -/
def pad {W : Type} (p : Width W) (message : List UInt8) : List UInt8 :=
  let size := 16 * p.wordBytes
  let tail := (message.length + 1 + 2 * p.wordBytes) % size
  message ++ 0x80 :: (List.replicate ((size - tail) % size) 0
    ++ bigEndian (2 * p.wordBytes) (8 * message.length))

def digest {W : Type} [Add W] [AndOp W] [XorOp W] [Complement W] (p : Width W)
    (initial : State W) (message : List UInt8) : List UInt8 :=
  (absorb p initial (p.load (pad p message))).toList.flatMap p.store

/-! ## 32-bit words -/

def rotate32 (n : UInt32) (w : UInt32) : UInt32 := (w >>> n) ||| (w <<< (32 - n))

def load32 : List UInt8 → List UInt32
  | a :: b :: c :: d :: rest =>
    ((a.toUInt32 <<< 24) ||| (b.toUInt32 <<< 16) ||| (c.toUInt32 <<< 8) ||| d.toUInt32)
      :: load32 rest
  | _ => []

def store32 (w : UInt32) : List UInt8 :=
  [(w >>> 24).toUInt8, (w >>> 16).toUInt8, (w >>> 8).toUInt8, w.toUInt8]

def width32 : Width UInt32 where
  wordBytes := 4
  load := load32
  store := store32
  bigSigma0 w := rotate32 2 w ^^^ rotate32 13 w ^^^ rotate32 22 w
  bigSigma1 w := rotate32 6 w ^^^ rotate32 11 w ^^^ rotate32 25 w
  smallSigma0 w := rotate32 7 w ^^^ rotate32 18 w ^^^ (w >>> 3)
  smallSigma1 w := rotate32 17 w ^^^ rotate32 19 w ^^^ (w >>> 10)
  rounds := [
    0x428a2f98, 0x71374491, 0xb5c0fbcf, 0xe9b5dba5, 0x3956c25b, 0x59f111f1, 0x923f82a4, 0xab1c5ed5,
    0xd807aa98, 0x12835b01, 0x243185be, 0x550c7dc3, 0x72be5d74, 0x80deb1fe, 0x9bdc06a7, 0xc19bf174,
    0xe49b69c1, 0xefbe4786, 0x0fc19dc6, 0x240ca1cc, 0x2de92c6f, 0x4a7484aa, 0x5cb0a9dc, 0x76f988da,
    0x983e5152, 0xa831c66d, 0xb00327c8, 0xbf597fc7, 0xc6e00bf3, 0xd5a79147, 0x06ca6351, 0x14292967,
    0x27b70a85, 0x2e1b2138, 0x4d2c6dfc, 0x53380d13, 0x650a7354, 0x766a0abb, 0x81c2c92e, 0x92722c85,
    0xa2bfe8a1, 0xa81a664b, 0xc24b8b70, 0xc76c51a3, 0xd192e819, 0xd6990624, 0xf40e3585, 0x106aa070,
    0x19a4c116, 0x1e376c08, 0x2748774c, 0x34b0bcb5, 0x391c0cb3, 0x4ed8aa4a, 0x5b9cca4f, 0x682e6ff3,
    0x748f82ee, 0x78a5636f, 0x84c87814, 0x8cc70208, 0x90befffa, 0xa4506ceb, 0xbef9a3f7, 0xc67178f2]

def initial256 : State UInt32 :=
  ⟨0x6a09e667, 0xbb67ae85, 0x3c6ef372, 0xa54ff53a, 0x510e527f, 0x9b05688c, 0x1f83d9ab, 0x5be0cd19⟩

/-! ## 64-bit words -/

def rotate64 (n : UInt64) (w : UInt64) : UInt64 := (w >>> n) ||| (w <<< (64 - n))

def load64 : List UInt8 → List UInt64
  | a :: b :: c :: d :: e :: f :: g :: h :: rest =>
    ((a.toUInt64 <<< 56) ||| (b.toUInt64 <<< 48) ||| (c.toUInt64 <<< 40) ||| (d.toUInt64 <<< 32)
        ||| (e.toUInt64 <<< 24) ||| (f.toUInt64 <<< 16) ||| (g.toUInt64 <<< 8) ||| h.toUInt64)
      :: load64 rest
  | _ => []

def store64 (w : UInt64) : List UInt8 :=
  [(w >>> 56).toUInt8, (w >>> 48).toUInt8, (w >>> 40).toUInt8, (w >>> 32).toUInt8,
    (w >>> 24).toUInt8, (w >>> 16).toUInt8, (w >>> 8).toUInt8, w.toUInt8]

def width64 : Width UInt64 where
  wordBytes := 8
  load := load64
  store := store64
  bigSigma0 w := rotate64 28 w ^^^ rotate64 34 w ^^^ rotate64 39 w
  bigSigma1 w := rotate64 14 w ^^^ rotate64 18 w ^^^ rotate64 41 w
  smallSigma0 w := rotate64 1 w ^^^ rotate64 8 w ^^^ (w >>> 7)
  smallSigma1 w := rotate64 19 w ^^^ rotate64 61 w ^^^ (w >>> 6)
  rounds := [
    0x428a2f98d728ae22, 0x7137449123ef65cd, 0xb5c0fbcfec4d3b2f, 0xe9b5dba58189dbbc,
    0x3956c25bf348b538, 0x59f111f1b605d019, 0x923f82a4af194f9b, 0xab1c5ed5da6d8118,
    0xd807aa98a3030242, 0x12835b0145706fbe, 0x243185be4ee4b28c, 0x550c7dc3d5ffb4e2,
    0x72be5d74f27b896f, 0x80deb1fe3b1696b1, 0x9bdc06a725c71235, 0xc19bf174cf692694,
    0xe49b69c19ef14ad2, 0xefbe4786384f25e3, 0x0fc19dc68b8cd5b5, 0x240ca1cc77ac9c65,
    0x2de92c6f592b0275, 0x4a7484aa6ea6e483, 0x5cb0a9dcbd41fbd4, 0x76f988da831153b5,
    0x983e5152ee66dfab, 0xa831c66d2db43210, 0xb00327c898fb213f, 0xbf597fc7beef0ee4,
    0xc6e00bf33da88fc2, 0xd5a79147930aa725, 0x06ca6351e003826f, 0x142929670a0e6e70,
    0x27b70a8546d22ffc, 0x2e1b21385c26c926, 0x4d2c6dfc5ac42aed, 0x53380d139d95b3df,
    0x650a73548baf63de, 0x766a0abb3c77b2a8, 0x81c2c92e47edaee6, 0x92722c851482353b,
    0xa2bfe8a14cf10364, 0xa81a664bbc423001, 0xc24b8b70d0f89791, 0xc76c51a30654be30,
    0xd192e819d6ef5218, 0xd69906245565a910, 0xf40e35855771202a, 0x106aa07032bbd1b8,
    0x19a4c116b8d2d0c8, 0x1e376c085141ab53, 0x2748774cdf8eeb99, 0x34b0bcb5e19b48a8,
    0x391c0cb3c5c95a63, 0x4ed8aa4ae3418acb, 0x5b9cca4f7763e373, 0x682e6ff3d6b2b8a3,
    0x748f82ee5defb2fc, 0x78a5636f43172f60, 0x84c87814a1f0ab72, 0x8cc702081a6439ec,
    0x90befffa23631e28, 0xa4506cebde82bde9, 0xbef9a3f7b2c67915, 0xc67178f2e372532b,
    0xca273eceea26619c, 0xd186b8c721c0c207, 0xeada7dd6cde0eb1e, 0xf57d4f7fee6ed178,
    0x06f067aa72176fba, 0x0a637dc5a2c898a6, 0x113f9804bef90dae, 0x1b710b35131c471b,
    0x28db77f523047d84, 0x32caab7b40c72493, 0x3c9ebe0a15c9bebc, 0x431d67c49c100d4c,
    0x4cc5d4becb3e42b6, 0x597f299cfc657e2a, 0x5fcb6fab3ad6faec, 0x6c44198c4a475817]

def initial384 : State UInt64 :=
  ⟨0xcbbb9d5dc1059ed8, 0x629a292a367cd507, 0x9159015a3070dd17, 0x152fecd8f70e5939,
    0x67332667ffc00b31, 0x8eb44a8768581511, 0xdb0c2e0d64f98fa7, 0x47b5481dbefa4fa4⟩

def initial512 : State UInt64 :=
  ⟨0x6a09e667f3bcc908, 0xbb67ae8584caa73b, 0x3c6ef372fe94f82b, 0xa54ff53a5f1d36f1,
    0x510e527fade682d1, 0x9b05688c2b3e6c1f, 0x1f83d9abfb41bd6b, 0x5be0cd19137e2179⟩

/-! ## The digests -/

inductive Size where
  | bits256
  | bits384
  | bits512
deriving DecidableEq, Repr

def Size.digestBytes : Size → Nat
  | .bits256 => 32
  | .bits384 => 48
  | .bits512 => 64

def Size.blockBytes : Size → Nat
  | .bits256 => 64
  | .bits384 => 128
  | .bits512 => 128

/-- The digest of a message. The 384-bit one is cut from a 512-bit one of another start. -/
def hash : Size → List UInt8 → List UInt8
  | .bits256, message => digest width32 initial256 message
  | .bits384, message => (digest width64 initial384 message).take 48
  | .bits512, message => digest width64 initial512 message

end SignedToken.Sha2
