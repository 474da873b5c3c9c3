import Pubky2Pubky.Foundation.Json

/-!
# SHA-256

The hash function over byte lists: padding to whole blocks, the message
schedule, and the compression of one block into eight words.
-/

namespace Pubky2Pubky
namespace Foundation
namespace Sha256

def roundConstants : List UInt32 :=
  [0x428a2f98, 0x71374491, 0xb5c0fbcf, 0xe9b5dba5, 0x3956c25b, 0x59f111f1,
   0x923f82a4, 0xab1c5ed5, 0xd807aa98, 0x12835b01, 0x243185be, 0x550c7dc3,
   0x72be5d74, 0x80deb1fe, 0x9bdc06a7, 0xc19bf174, 0xe49b69c1, 0xefbe4786,
   0x0fc19dc6, 0x240ca1cc, 0x2de92c6f, 0x4a7484aa, 0x5cb0a9dc, 0x76f988da,
   0x983e5152, 0xa831c66d, 0xb00327c8, 0xbf597fc7, 0xc6e00bf3, 0xd5a79147,
   0x06ca6351, 0x14292967, 0x27b70a85, 0x2e1b2138, 0x4d2c6dfc, 0x53380d13,
   0x650a7354, 0x766a0abb, 0x81c2c92e, 0x92722c85, 0xa2bfe8a1, 0xa81a664b,
   0xc24b8b70, 0xc76c51a3, 0xd192e819, 0xd6990624, 0xf40e3585, 0x106aa070,
   0x19a4c116, 0x1e376c08, 0x2748774c, 0x34b0bcb5, 0x391c0cb3, 0x4ed8aa4a,
   0x5b9cca4f, 0x682e6ff3, 0x748f82ee, 0x78a5636f, 0x84c87814, 0x8cc70208,
   0x90befffa, 0xa4506ceb, 0xbef9a3f7, 0xc67178f2]

structure Words where
  a : UInt32
  b : UInt32
  c : UInt32
  d : UInt32
  e : UInt32
  f : UInt32
  g : UInt32
  h : UInt32

def initialWords : Words :=
  { a := 0x6a09e667, b := 0xbb67ae85, c := 0x3c6ef372, d := 0xa54ff53a,
    e := 0x510e527f, f := 0x9b05688c, g := 0x1f83d9ab, h := 0x5be0cd19 }

def rotateRight (x : UInt32) (n : UInt32) : UInt32 :=
  (x >>> n) ||| (x <<< (32 - n))

def compressRound (s : Words) (input : UInt32 × UInt32) : Words :=
  let s1 := rotateRight s.e 6 ^^^ rotateRight s.e 11 ^^^ rotateRight s.e 25
  let choice := (s.e &&& s.f) ^^^ (~~~ s.e &&& s.g)
  let t1 := s.h + s1 + choice + input.1 + input.2
  let s0 := rotateRight s.a 2 ^^^ rotateRight s.a 13 ^^^ rotateRight s.a 22
  let majority := (s.a &&& s.b) ^^^ (s.a &&& s.c) ^^^ (s.b &&& s.c)
  { a := t1 + s0 + majority, b := s.a, c := s.b, d := s.c, e := s.d + t1,
    f := s.e, g := s.f, h := s.g }

/-- The next word of the schedule from the last sixteen, most recent first. -/
def nextWord (recent : List UInt32) : UInt32 :=
  let w2 := recent.getD 1 0
  let w7 := recent.getD 6 0
  let w15 := recent.getD 14 0
  let w16 := recent.getD 15 0
  let s0 := rotateRight w15 7 ^^^ rotateRight w15 18 ^^^ (w15 >>> 3)
  let s1 := rotateRight w2 17 ^^^ rotateRight w2 19 ^^^ (w2 >>> 10)
  w16 + s0 + w7 + s1

def schedule (block : List UInt32) : List UInt32 :=
  ((List.range 48).foldl (fun recent _ => nextWord recent :: recent)
    block.reverse).reverse

def compress (s : Words) (block : List UInt32) : Words :=
  let t := (roundConstants.zip (schedule block)).foldl compressRound s
  { a := s.a + t.a, b := s.b + t.b, c := s.c + t.c, d := s.d + t.d,
    e := s.e + t.e, f := s.f + t.f, g := s.g + t.g, h := s.h + t.h }

def wordBytes (w : UInt32) : Bytes :=
  [(w >>> 24).toUInt8, (w >>> 16).toUInt8, (w >>> 8).toUInt8, w.toUInt8]

def ofBytes : Bytes -> List UInt32
  | a :: b :: c :: d :: rest =>
      ((a.toUInt32 <<< 24) ||| (b.toUInt32 <<< 16) ||| (c.toUInt32 <<< 8) |||
        d.toUInt32) :: ofBytes rest
  | _ => []

def blocks : Nat -> List UInt32 -> List (List UInt32)
  | 0, _ => []
  | n + 1, words => words.take 16 :: blocks n (words.drop 16)

def pad (message : Bytes) : Bytes :=
  let length := message.length
  let zeros := (119 - length % 64) % 64
  let bitLength := UInt64.ofNat (8 * length)
  message ++ (0x80 :: List.replicate zeros 0 : Bytes) ++
    wordBytes (bitLength >>> 32).toUInt32 ++ wordBytes bitLength.toUInt32

def hash (message : Bytes) : Bytes :=
  let padded := pad message
  let words := blocks (padded.length / 64) (ofBytes padded)
  let s := words.foldl compress initialWords
  [s.a, s.b, s.c, s.d, s.e, s.f, s.g, s.h].flatMap wordBytes

theorem hash_length (message : Bytes) : (hash message).length = 32 := by
  simp [hash, wordBytes]

end Sha256
end Foundation
end Pubky2Pubky
