/-!
# SHA-256

The digest of FIPS 180-4 over lists of bytes.
-/

set_option autoImplicit false

namespace SheetCompiler.Sha256

/-- The first 32 bits of the fractional parts of the cube roots of the first 64
primes. -/
def roundConstants : List UInt32 :=
  [0x428a2f98, 0x71374491, 0xb5c0fbcf, 0xe9b5dba5, 0x3956c25b, 0x59f111f1, 0x923f82a4,
    0xab1c5ed5, 0xd807aa98, 0x12835b01, 0x243185be, 0x550c7dc3, 0x72be5d74, 0x80deb1fe,
    0x9bdc06a7, 0xc19bf174, 0xe49b69c1, 0xefbe4786, 0x0fc19dc6, 0x240ca1cc, 0x2de92c6f,
    0x4a7484aa, 0x5cb0a9dc, 0x76f988da, 0x983e5152, 0xa831c66d, 0xb00327c8, 0xbf597fc7,
    0xc6e00bf3, 0xd5a79147, 0x06ca6351, 0x14292967, 0x27b70a85, 0x2e1b2138, 0x4d2c6dfc,
    0x53380d13, 0x650a7354, 0x766a0abb, 0x81c2c92e, 0x92722c85, 0xa2bfe8a1, 0xa81a664b,
    0xc24b8b70, 0xc76c51a3, 0xd192e819, 0xd6990624, 0xf40e3585, 0x106aa070, 0x19a4c116,
    0x1e376c08, 0x2748774c, 0x34b0bcb5, 0x391c0cb3, 0x4ed8aa4a, 0x5b9cca4f, 0x682e6ff3,
    0x748f82ee, 0x78a5636f, 0x84c87814, 0x8cc70208, 0x90befffa, 0xa4506ceb, 0xbef9a3f7,
    0xc67178f2]

/-- The eight words that are carried from block to block. -/
structure Chain where
  a : UInt32
  b : UInt32
  c : UInt32
  d : UInt32
  e : UInt32
  f : UInt32
  g : UInt32
  h : UInt32
  deriving DecidableEq, Repr

namespace Chain

def start : Chain :=
  ⟨0x6a09e667, 0xbb67ae85, 0x3c6ef372, 0xa54ff53a, 0x510e527f, 0x9b05688c, 0x1f83d9ab,
    0x5be0cd19⟩

def add (x y : Chain) : Chain :=
  ⟨x.a + y.a, x.b + y.b, x.c + y.c, x.d + y.d, x.e + y.e, x.f + y.f, x.g + y.g, x.h + y.h⟩

def words (chain : Chain) : List UInt32 :=
  [chain.a, chain.b, chain.c, chain.d, chain.e, chain.f, chain.g, chain.h]

end Chain

def rotateRight (x : UInt32) (n : UInt32) : UInt32 := (x >>> n) ||| (x <<< (32 - n))

def smallSigma0 (x : UInt32) : UInt32 := rotateRight x 7 ^^^ rotateRight x 18 ^^^ (x >>> 3)

def smallSigma1 (x : UInt32) : UInt32 := rotateRight x 17 ^^^ rotateRight x 19 ^^^ (x >>> 10)

def bigSigma0 (x : UInt32) : UInt32 := rotateRight x 2 ^^^ rotateRight x 13 ^^^ rotateRight x 22

def bigSigma1 (x : UInt32) : UInt32 := rotateRight x 6 ^^^ rotateRight x 11 ^^^ rotateRight x 25

def choose (x y z : UInt32) : UInt32 := (x &&& y) ^^^ (~~~x &&& z)

def majority (x y z : UInt32) : UInt32 := (x &&& y) ^^^ (x &&& z) ^^^ (y &&& z)

/-- A word of four bytes, most significant first. -/
def word (bytes : List UInt8) : UInt32 :=
  (bytes.take 4).foldl (fun acc byte => (acc <<< 8) ||| byte.toUInt32) 0

/-- The words of a block. -/
def blockWords (block : List UInt8) : List UInt32 :=
  (List.range 16).map fun index => word (block.drop (4 * index))

/-- Extends the message schedule by a number of words. The words so far are given
from the last one back. -/
def extend : Nat → List UInt32 → List UInt32
  | 0, words => words
  | n + 1, words =>
      let back (k : Nat) : UInt32 := (words[k - 1]?).getD 0
      extend n ((smallSigma1 (back 2) + back 7 + smallSigma0 (back 15) + back 16) :: words)

/-- The 64 words of the message schedule of a block. -/
def schedule (block : List UInt8) : List UInt32 := (extend 48 (blockWords block).reverse).reverse

/-- One round with the sum of its constant and its schedule word. -/
def step (chain : Chain) (input : UInt32) : Chain :=
  let first := chain.h + bigSigma1 chain.e + choose chain.e chain.f chain.g + input
  let second := bigSigma0 chain.a + majority chain.a chain.b chain.c
  ⟨first + second, chain.a, chain.b, chain.c, chain.d + first, chain.e, chain.f, chain.g⟩

/-- Absorbs one block. -/
def compress (chain : Chain) (block : List UInt8) : Chain :=
  chain.add ((List.zipWith (· + ·) roundConstants (schedule block)).foldl step chain)

/-- The big-endian bytes of a number. -/
def bigEndian (width n : Nat) : List UInt8 :=
  (List.range width).map fun index => UInt8.ofNat (n >>> (8 * (width - 1 - index)))

/-- A message with its padding: a one bit, zeros, and the length in bits. -/
def padded (message : List UInt8) : List UInt8 :=
  let zeros := (119 - message.length % 64) % 64
  message ++ 0x80 :: List.replicate zeros 0 ++ bigEndian 8 (8 * message.length)

/-- The digest of a message: 32 bytes. -/
def digest (message : List UInt8) : List UInt8 :=
  let bytes := padded message
  let blocks := (List.range (bytes.length / 64)).map fun index => (bytes.drop (64 * index)).take 64
  (blocks.foldl compress .start).words.flatMap fun word => bigEndian 4 word.toNat

end SheetCompiler.Sha256
