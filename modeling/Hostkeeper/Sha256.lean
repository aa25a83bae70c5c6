/-! The SHA-256 hash of a byte list. -/
namespace Hostkeeper.Sha256

/-- The fractional parts of the cube roots of the first 64 primes. -/
def roundConstants : List UInt32 := [
  0x428a2f98,0x71374491,0xb5c0fbcf,0xe9b5dba5,0x3956c25b,0x59f111f1,0x923f82a4,0xab1c5ed5,0xd807aa98,
  0x12835b01,0x243185be,0x550c7dc3,0x72be5d74,0x80deb1fe,0x9bdc06a7,0xc19bf174,0xe49b69c1,0xefbe4786,
  0x0fc19dc6,0x240ca1cc,0x2de92c6f,0x4a7484aa,0x5cb0a9dc,0x76f988da,0x983e5152,0xa831c66d,0xb00327c8,
  0xbf597fc7,0xc6e00bf3,0xd5a79147,0x06ca6351,0x14292967,0x27b70a85,0x2e1b2138,0x4d2c6dfc,0x53380d13,
  0x650a7354,0x766a0abb,0x81c2c92e,0x92722c85,0xa2bfe8a1,0xa81a664b,0xc24b8b70,0xc76c51a3,0xd192e819,
  0xd6990624,0xf40e3585,0x106aa070,0x19a4c116,0x1e376c08,0x2748774c,0x34b0bcb5,0x391c0cb3,0x4ed8aa4a,
  0x5b9cca4f,0x682e6ff3,0x748f82ee,0x78a5636f,0x84c87814,0x8cc70208,0x90befffa,0xa4506ceb,0xbef9a3f7,
  0xc67178f2]

structure State where
  a : UInt32
  b : UInt32
  c : UInt32
  d : UInt32
  e : UInt32
  f : UInt32
  g : UInt32
  h : UInt32

def initial : State :=
  ⟨0x6a09e667,0xbb67ae85,0x3c6ef372,0xa54ff53a,
   0x510e527f,0x9b05688c,0x1f83d9ab,0x5be0cd19⟩

def rotate (n x : UInt32) : UInt32 := (x >>> n) ||| (x <<< (32 - n))

/-- The length in bits follows the bytes, a one bit and zeros, so that whole blocks result. -/
def padded (bytes : List UInt8) : List UInt8 :=
  let bits := bytes.length * 8
  let zeros := (119 - bytes.length % 64) % 64
  bytes ++ 0x80 :: List.replicate zeros 0 ++
    (List.range 8).map fun i => UInt8.ofNat (bits / Nat.pow 256 (7 - i) % 256)

def toWords : List UInt8 → List UInt32
  | a :: b :: c :: d :: rest =>
    ((a.toUInt32 <<< 24) ||| (b.toUInt32 <<< 16) ||| (c.toUInt32 <<< 8) ||| d.toUInt32) :: toWords rest
  | _ => []

def extend : Nat → List UInt32 → List UInt32
  | 0, w => w
  | n + 1, w =>
    let x := w.getD 1 0
    let y := w.getD 14 0
    let s1 := rotate 17 x ^^^ rotate 19 x ^^^ (x >>> 10)
    let s0 := rotate 7 y ^^^ rotate 18 y ^^^ (y >>> 3)
    extend n ((s1 + w.getD 6 0 + s0 + w.getD 15 0) :: w)

def round (s : State) (k : UInt32 × UInt32) : State :=
  let s1 := rotate 6 s.e ^^^ rotate 11 s.e ^^^ rotate 25 s.e
  let choice := (s.e &&& s.f) ^^^ (~~~s.e &&& s.g)
  let t1 := s.h + s1 + choice + k.1 + k.2
  let s0 := rotate 2 s.a ^^^ rotate 13 s.a ^^^ rotate 22 s.a
  let majority := (s.a &&& s.b) ^^^ (s.a &&& s.c) ^^^ (s.b &&& s.c)
  ⟨t1 + s0 + majority,s.a,s.b,s.c,s.d + t1,s.e,s.f,s.g⟩

def block (s : State) (words : List UInt32) : State :=
  let t := (roundConstants.zip (extend 48 words.reverse).reverse).foldl round s
  ⟨s.a + t.a,s.b + t.b,s.c + t.c,s.d + t.d,s.e + t.e,s.f + t.f,s.g + t.g,s.h + t.h⟩

def blocks : Nat → List UInt32 → State → State
  | 0, _, s => s
  | n + 1, words, s => blocks n (words.drop 16) (block s (words.take 16))

def State.bytes (s : State) : List UInt8 :=
  [s.a,s.b,s.c,s.d,s.e,s.f,s.g,s.h].flatMap fun (w : UInt32) =>
    [(w >>> 24).toUInt8,(w >>> 16).toUInt8,(w >>> 8).toUInt8,w.toUInt8]

def hash (bytes : List UInt8) : List UInt8 :=
  let words := toWords (padded bytes)
  (blocks (words.length / 16) words initial).bytes

end Hostkeeper.Sha256
