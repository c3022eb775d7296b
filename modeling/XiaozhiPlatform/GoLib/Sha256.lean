import XiaozhiPlatform.GoLib.Encoding

/-!
# SHA-256 and HMAC

`crypto/sha256` and `crypto/hmac`, executable. A digest is a vector of 32 bytes, so its length
needs no proof. The development only ever uses that digests are a function of the message;
`sum256` and `hmac` are irreducible so that no proof opens them.
-/

namespace GoLib.Sha256

/-- The round constants. -/
def roundConstants : List UInt32 := [
  0x428a2f98, 0x71374491, 0xb5c0fbcf, 0xe9b5dba5, 0x3956c25b, 0x59f111f1, 0x923f82a4, 0xab1c5ed5,
  0xd807aa98, 0x12835b01, 0x243185be, 0x550c7dc3, 0x72be5d74, 0x80deb1fe, 0x9bdc06a7, 0xc19bf174,
  0xe49b69c1, 0xefbe4786, 0x0fc19dc6, 0x240ca1cc, 0x2de92c6f, 0x4a7484aa, 0x5cb0a9dc, 0x76f988da,
  0x983e5152, 0xa831c66d, 0xb00327c8, 0xbf597fc7, 0xc6e00bf3, 0xd5a79147, 0x06ca6351, 0x14292967,
  0x27b70a85, 0x2e1b2138, 0x4d2c6dfc, 0x53380d13, 0x650a7354, 0x766a0abb, 0x81c2c92e, 0x92722c85,
  0xa2bfe8a1, 0xa81a664b, 0xc24b8b70, 0xc76c51a3, 0xd192e819, 0xd6990624, 0xf40e3585, 0x106aa070,
  0x19a4c116, 0x1e376c08, 0x2748774c, 0x34b0bcb5, 0x391c0cb3, 0x4ed8aa4a, 0x5b9cca4f, 0x682e6ff3,
  0x748f82ee, 0x78a5636f, 0x84c87814, 0x8cc70208, 0x90befffa, 0xa4506ceb, 0xbef9a3f7, 0xc67178f2]

/-- The eight working words. -/
structure Words where
  a : UInt32
  b : UInt32
  c : UInt32
  d : UInt32
  e : UInt32
  f : UInt32
  g : UInt32
  h : UInt32

/-- The initial hash value. -/
def initial : Words :=
  ⟨0x6a09e667, 0xbb67ae85, 0x3c6ef372, 0xa54ff53a, 0x510e527f, 0x9b05688c, 0x1f83d9ab, 0x5be0cd19⟩

def rotateRight (x n : UInt32) : UInt32 := (x >>> n) ||| (x <<< (32 - n))

/-- One round, on a round constant and a message word. -/
def round (s : Words) (kw : UInt32 × UInt32) : Words :=
  let s1 := rotateRight s.e 6 ^^^ rotateRight s.e 11 ^^^ rotateRight s.e 25
  let ch := (s.e &&& s.f) ^^^ (~~~s.e &&& s.g)
  let t1 := s.h + s1 + ch + kw.1 + kw.2
  let s0 := rotateRight s.a 2 ^^^ rotateRight s.a 13 ^^^ rotateRight s.a 22
  let maj := (s.a &&& s.b) ^^^ (s.a &&& s.c) ^^^ (s.b &&& s.c)
  ⟨t1 + (s0 + maj), s.a, s.b, s.c, s.d + t1, s.e, s.f, s.g⟩

/-- The message schedule, extended by `n` words; `w` is kept newest first. -/
def schedule : ℕ → List UInt32 → List UInt32
  | 0, w => w.reverse
  | n + 1, w =>
    let w2 := w.getD 1 0
    let w15 := w.getD 14 0
    let s0 := rotateRight w15 7 ^^^ rotateRight w15 18 ^^^ (w15 >>> 3)
    let s1 := rotateRight w2 17 ^^^ rotateRight w2 19 ^^^ (w2 >>> 10)
    schedule n ((w.getD 15 0 + s0 + w.getD 6 0 + s1) :: w)

/-- The compression function on a block of sixteen words. -/
def compress (s : Words) (block : List UInt32) : Words :=
  let r := (roundConstants.zip (schedule 48 block.reverse)).foldl round s
  ⟨s.a + r.a, s.b + r.b, s.c + r.c, s.d + r.d, s.e + r.e, s.f + r.f, s.g + r.g, s.h + r.h⟩

/-- The list cut into pieces of `n` elements, for at most `fuel` pieces. -/
def pieces {α : Type} (n : ℕ) : ℕ → List α → List (List α)
  | 0, _ => []
  | fuel + 1, l => if l.isEmpty then [] else l.take n :: pieces n fuel (l.drop n)

/-- The `n` low bytes of a number, most significant first. -/
def bigEndian (n value : ℕ) : List UInt8 :=
  (List.range n).map fun i => UInt8.ofNat (value >>> (8 * (n - 1 - i)))

/-- The message followed by its padding to a multiple of 64 bytes. -/
def pad (message : List UInt8) : List UInt8 :=
  message ++ 0x80 :: List.replicate ((119 - message.length % 64) % 64) 0 ++
    bigEndian 8 (8 * message.length)

def word (bytes : List UInt8) : UInt32 :=
  bytes.foldl (fun acc byte => (acc <<< 8) ||| byte.toUInt32) 0

/-- The blocks of the padded message. -/
def blocks (message : List UInt8) : List (List UInt32) :=
  let padded := pad message
  (pieces 64 padded.length padded).map fun block => (pieces 4 block.length block).map word

/-- The 32 bytes of the working words. -/
def digestBytes (s : Words) : Vector UInt8 32 :=
  (Vector.ofFn fun i : Fin 32 =>
    (([s.a, s.b, s.c, s.d, s.e, s.f, s.g, s.h].flatMap fun x => bigEndian 4 x.toNat)).getD i 0)

/-- `sha256.Sum256`. -/
@[irreducible]
def sum256 (message : List UInt8) : Vector UInt8 32 :=
  digestBytes ((blocks message).foldl compress initial)

/-- The HMAC key block: keys longer than a block are hashed, and the key is padded with zeros. -/
def keyBlock (key : List UInt8) : List UInt8 :=
  let short := if 64 < key.length then (sum256 key).toList else key
  short ++ List.replicate (64 - short.length) 0

/-- `hmac.New(sha256.New, key)` over the message. -/
@[irreducible]
def hmac (key message : List UInt8) : Vector UInt8 32 :=
  let block := keyBlock key
  sum256 (block.map (· ^^^ 0x5c) ++ (sum256 (block.map (· ^^^ 0x36) ++ message)).toList)

/-- The standard's test vector for the message `abc`. -/
example : Hex.encode (sum256 [97, 98, 99]).toList =
    "ba7816bf8f01cfea414140de5dae2223b00361a396177a9cb410ff61f20015ad".toList := by
  decide +kernel

end GoLib.Sha256
