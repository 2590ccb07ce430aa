/-!
# SHA-256

The message digest that checks file contents and names snapshots. The message
is padded to whole blocks of sixteen words; each block drives sixty-four
rounds over eight working words.
-/

namespace SourceAtlas.Digest.Sha256

/-- The fractional parts of the cube roots of the first sixty-four primes. -/
def roundConstants : Array UInt32 := #[
  0x428a2f98, 0x71374491, 0xb5c0fbcf, 0xe9b5dba5, 0x3956c25b, 0x59f111f1, 0x923f82a4, 0xab1c5ed5,
  0xd807aa98, 0x12835b01, 0x243185be, 0x550c7dc3, 0x72be5d74, 0x80deb1fe, 0x9bdc06a7, 0xc19bf174,
  0xe49b69c1, 0xefbe4786, 0x0fc19dc6, 0x240ca1cc, 0x2de92c6f, 0x4a7484aa, 0x5cb0a9dc, 0x76f988da,
  0x983e5152, 0xa831c66d, 0xb00327c8, 0xbf597fc7, 0xc6e00bf3, 0xd5a79147, 0x06ca6351, 0x14292967,
  0x27b70a85, 0x2e1b2138, 0x4d2c6dfc, 0x53380d13, 0x650a7354, 0x766a0abb, 0x81c2c92e, 0x92722c85,
  0xa2bfe8a1, 0xa81a664b, 0xc24b8b70, 0xc76c51a3, 0xd192e819, 0xd6990624, 0xf40e3585, 0x106aa070,
  0x19a4c116, 0x1e376c08, 0x2748774c, 0x34b0bcb5, 0x391c0cb3, 0x4ed8aa4a, 0x5b9cca4f, 0x682e6ff3,
  0x748f82ee, 0x78a5636f, 0x84c87814, 0x8cc70208, 0x90befffa, 0xa4506ceb, 0xbef9a3f7, 0xc67178f2]

/-- The eight working words. -/
structure Words where
  a : UInt32 := 0x6a09e667
  b : UInt32 := 0xbb67ae85
  c : UInt32 := 0x3c6ef372
  d : UInt32 := 0xa54ff53a
  e : UInt32 := 0x510e527f
  f : UInt32 := 0x9b05688c
  g : UInt32 := 0x1f83d9ab
  h : UInt32 := 0x5be0cd19

/-- Rotate right. -/
def rotr (x n : UInt32) : UInt32 := (x >>> n) ||| (x <<< (32 - n))

/-- The message schedule of a block: sixteen given words and forty-eight derived ones. -/
def schedule (block : Array UInt32) : Array UInt32 :=
  (List.range 48).foldl (fun w step =>
    let i := step + 16
    let x := w.getD (i - 15) 0
    let y := w.getD (i - 2) 0
    let s0 := rotr x 7 ^^^ rotr x 18 ^^^ (x >>> 3)
    let s1 := rotr y 17 ^^^ rotr y 19 ^^^ (y >>> 10)
    w.push (w.getD (i - 16) 0 + s0 + w.getD (i - 7) 0 + s1)) block

/-- One round. -/
def round (v : Words) (constant word : UInt32) : Words :=
  let s1 := rotr v.e 6 ^^^ rotr v.e 11 ^^^ rotr v.e 25
  let choice := (v.e &&& v.f) ^^^ ((~~~v.e) &&& v.g)
  let t1 := v.h + s1 + choice + constant + word
  let s0 := rotr v.a 2 ^^^ rotr v.a 13 ^^^ rotr v.a 22
  let majority := (v.a &&& v.b) ^^^ (v.a &&& v.c) ^^^ (v.b &&& v.c)
  { a := t1 + (s0 + majority), b := v.a, c := v.b, d := v.c
    e := v.d + t1, f := v.e, g := v.f, h := v.g }

/-- Mix one block into the running words. -/
def compress (start : Words) (block : Array UInt32) : Words :=
  let w := schedule block
  let v := (List.range 64).foldl
    (fun v i => round v (roundConstants.getD i 0) (w.getD i 0)) start
  { a := start.a + v.a, b := start.b + v.b, c := start.c + v.c, d := start.d + v.d
    e := start.e + v.e, f := start.f + v.f, g := start.g + v.g, h := start.h + v.h }

/-- The bytes of `width` big-endian octets of `n`. -/
def bigEndian (n width : Nat) : List UInt8 :=
  (List.range width).map fun i => (n >>> (8 * (width - 1 - i))).toUInt8

/-- The message with its padding: a one bit, zeros, and the length in bits. -/
def padded (message : ByteArray) : ByteArray :=
  let zeros := (119 - message.size % 64) % 64
  let tail := 0x80 :: (List.replicate zeros (0 : UInt8) ++ bigEndian (message.size * 8) 8)
  tail.foldl ByteArray.push message

/-- The big-endian word at a byte offset. -/
def wordAt (bytes : ByteArray) (offset : Nat) : UInt32 :=
  let byte := fun i => (bytes.data.getD (offset + i) 0).toUInt32
  (byte 0 <<< 24) ||| (byte 1 <<< 16) ||| (byte 2 <<< 8) ||| byte 3

/-- The final working words of a message. -/
def digestWords (message : ByteArray) : Words :=
  let bytes := padded message
  (List.range (bytes.size / 64)).foldl (fun v k =>
    compress v ((List.range 16).map fun i => wordAt bytes (64 * k + 4 * i)).toArray) {}

/-- Eight lower case hexadecimal digits of a word. -/
def hexWord (word : UInt32) : String :=
  String.ofList ((List.range 8).map fun i =>
    Nat.digitChar ((word.toNat >>> (4 * (7 - i))) % 16))

/-- The digest in sixty-four lower case hexadecimal digits. -/
def hex (message : ByteArray) : String :=
  let v := digestWords message
  String.join ([v.a, v.b, v.c, v.d, v.e, v.f, v.g, v.h].map hexWord)

end SourceAtlas.Digest.Sha256
