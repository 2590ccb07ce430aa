/-!
# Keyed short-input hash

The add-rotate-xor hash with one round per message word and three final
rounds, under the all-zero key. It decides which coordinate a word adds to in
a hashed embedding.
-/

namespace SourceAtlas.Digest.KeyedHash

/-- The four state words. -/
structure Words where
  v0 : UInt64
  v1 : UInt64
  v2 : UInt64
  v3 : UInt64

/-- The state under the all-zero key. -/
def Words.initial : Words where
  v0 := 0x736f6d6570736575
  v1 := 0x646f72616e646f6d
  v2 := 0x6c7967656e657261
  v3 := 0x7465646279746573

/-- Rotate left. -/
def rotl (x n : UInt64) : UInt64 := (x <<< n) ||| (x >>> (64 - n))

/-- One mixing round. -/
def Words.round (s : Words) : Words :=
  let v0 := s.v0 + s.v1
  let v1 := rotl s.v1 13 ^^^ v0
  let v0 := rotl v0 32
  let v2 := s.v2 + s.v3
  let v3 := rotl s.v3 16 ^^^ v2
  let v0 := v0 + v3
  let v3 := rotl v3 21 ^^^ v0
  let v2 := v2 + v1
  let v1 := rotl v1 17 ^^^ v2
  let v2 := rotl v2 32
  { v0, v1, v2, v3 }

/-- Take in one message word. -/
def Words.absorb (s : Words) (word : UInt64) : Words :=
  let mixed := Words.round { s with v3 := s.v3 ^^^ word }
  { mixed with v0 := mixed.v0 ^^^ word }

/-- A little-endian word of at most eight bytes. -/
def littleEndian (bytes : List UInt8) : UInt64 :=
  bytes.foldr (fun byte word => (word <<< 8) ||| byte.toUInt64) 0

/-- Absorb the whole words of a message and return the bytes that are left. The fuel bounds the
number of words; the length of the message is enough. -/
def absorbAll : Nat → Words → List UInt8 → Words × List UInt8
  | 0, s, bytes => (s, bytes)
  | fuel + 1, s, bytes =>
    if bytes.length < 8 then (s, bytes)
    else absorbAll fuel (s.absorb (littleEndian (bytes.take 8))) (bytes.drop 8)

/-- The hash of a message. -/
def hash (message : List UInt8) : UInt64 :=
  let (s, rest) := absorbAll message.length Words.initial message
  let last := littleEndian rest ||| ((message.length.toUInt64 &&& 0xff) <<< 56)
  let s := s.absorb last
  let s := { s with v2 := s.v2 ^^^ 0xff }
  let s := s.round.round.round
  s.v0 ^^^ s.v1 ^^^ s.v2 ^^^ s.v3

/-- The hash of a text: its UTF-8 bytes followed by one byte of all ones. -/
def hashText (text : String) : UInt64 :=
  hash (text.toUTF8.toList ++ [0xff])

end SourceAtlas.Digest.KeyedHash
