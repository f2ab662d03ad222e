import Avatar.Text.Utf8

/-! # SHA-256 and its keyed form

    The message is padded to blocks of sixty-four octets.  Each block
    drives sixty-four rounds; the schedule is held as the sixteen words
    that come next, and every round takes one and appends one.  The keyed
    form (HMAC) hashes twice, each time after a block made from the
    key. -/

namespace Avatar.Sha256

/-- The eight words between two rounds. -/
structure Words where
  a : UInt32
  b : UInt32
  c : UInt32
  d : UInt32
  e : UInt32
  f : UInt32
  g : UInt32
  h : UInt32

namespace Words

/-- The words that the first block starts from. -/
def initial : Words :=
  ⟨0x6a09e667, 0xbb67ae85, 0x3c6ef372, 0xa54ff53a,
    0x510e527f, 0x9b05688c, 0x1f83d9ab, 0x5be0cd19⟩

/-- Sums word by word. -/
def add (s t : Words) : Words :=
  ⟨s.a + t.a, s.b + t.b, s.c + t.c, s.d + t.d, s.e + t.e, s.f + t.f, s.g + t.g, s.h + t.h⟩

/-- The words one after the other. -/
def toList (s : Words) : List UInt32 := [s.a, s.b, s.c, s.d, s.e, s.f, s.g, s.h]

end Words

/-- The constant of each round. -/
def roundConstants : List UInt32 := [
  0x428a2f98, 0x71374491, 0xb5c0fbcf, 0xe9b5dba5, 0x3956c25b, 0x59f111f1, 0x923f82a4, 0xab1c5ed5,
  0xd807aa98, 0x12835b01, 0x243185be, 0x550c7dc3, 0x72be5d74, 0x80deb1fe, 0x9bdc06a7, 0xc19bf174,
  0xe49b69c1, 0xefbe4786, 0x0fc19dc6, 0x240ca1cc, 0x2de92c6f, 0x4a7484aa, 0x5cb0a9dc, 0x76f988da,
  0x983e5152, 0xa831c66d, 0xb00327c8, 0xbf597fc7, 0xc6e00bf3, 0xd5a79147, 0x06ca6351, 0x14292967,
  0x27b70a85, 0x2e1b2138, 0x4d2c6dfc, 0x53380d13, 0x650a7354, 0x766a0abb, 0x81c2c92e, 0x92722c85,
  0xa2bfe8a1, 0xa81a664b, 0xc24b8b70, 0xc76c51a3, 0xd192e819, 0xd6990624, 0xf40e3585, 0x106aa070,
  0x19a4c116, 0x1e376c08, 0x2748774c, 0x34b0bcb5, 0x391c0cb3, 0x4ed8aa4a, 0x5b9cca4f, 0x682e6ff3,
  0x748f82ee, 0x78a5636f, 0x84c87814, 0x8cc70208, 0x90befffa, 0xa4506ceb, 0xbef9a3f7, 0xc67178f2]

/-- The word turned to the right by `n` of its thirty-two places. -/
def rotate (x : UInt32) (n : UInt32) : UInt32 := (x >>> n) ||| (x <<< (32 - n))

/-- The word that the schedule appends to sixteen words. -/
def nextWord (schedule : List UInt32) : UInt32 :=
  let word (i : Nat) : UInt32 := (schedule[i]?).getD 0
  let x := word 1
  let y := word 14
  word 0 + (rotate x 7 ^^^ rotate x 18 ^^^ (x >>> 3)) + word 9
    + (rotate y 17 ^^^ rotate y 19 ^^^ (y >>> 10))

/-- One round on the words and the sixteen scheduled ones. -/
def round (state : Words × List UInt32) (constant : UInt32) : Words × List UInt32 :=
  let s := state.1
  let t1 := s.h + (rotate s.e 6 ^^^ rotate s.e 11 ^^^ rotate s.e 25)
    + ((s.e &&& s.f) ^^^ (~~~s.e &&& s.g)) + constant + state.2.headD 0
  let t2 := (rotate s.a 2 ^^^ rotate s.a 13 ^^^ rotate s.a 22)
    + ((s.a &&& s.b) ^^^ (s.a &&& s.c) ^^^ (s.b &&& s.c))
  (⟨t1 + t2, s.a, s.b, s.c, s.d + t1, s.e, s.f, s.g⟩, state.2.tail ++ [nextWord state.2])

/-- The big-endian words that octets in fours stand for. -/
def wordsOf : Bytes → List UInt32
  | a :: b :: c :: d :: rest =>
    (((a.toUInt32 * 0x100 + b.toUInt32) * 0x100 + c.toUInt32) * 0x100 + d.toUInt32) :: wordsOf rest
  | _ => []

/-- All rounds of one block of sixteen words. -/
def compress (s : Words) (block : List UInt32) : Words :=
  s.add (roundConstants.foldl round (s, block)).1

/-- The lowest `width` octets of a number, the highest of them first. -/
def bigEndian : Nat → Nat → Bytes
  | 0, _ => []
  | width + 1, n => bigEndian width (n / 0x100) ++ [(n % 0x100).toUInt8]

/-- The message, one set bit, zeros, and the number of its bits in eight
    octets; sixty-four divides the length. -/
def pad (message : Bytes) : Bytes :=
  let zeros := (119 - message.length % 64) % 64
  message ++ 0x80 :: List.replicate zeros 0 ++ bigEndian 8 (8 * message.length)

/-- The words after a number of blocks. -/
def hashBlocks : Nat → Words → List UInt32 → Words
  | 0, s, _ => s
  | n + 1, s, words => hashBlocks n (compress s (words.take 16)) (words.drop 16)

/-- The thirty-two octets of the digest of a message. -/
def hash (message : Bytes) : Bytes :=
  let padded := pad message
  (hashBlocks (padded.length / 64) .initial (wordsOf padded)).toList.flatMap
    fun w => bigEndian 4 w.toNat

/-- The key as a whole block: hashed first if it is longer than one. -/
def keyBlock (key : Bytes) : Bytes :=
  let short := if key.length ≤ 64 then key else hash key
  short ++ List.replicate (64 - short.length) 0

/-- The digest of a message under a key. -/
def keyed (key message : Bytes) : Bytes :=
  let block := keyBlock key
  hash (block.map (· ^^^ 0x5C) ++ hash (block.map (· ^^^ 0x36) ++ message))

/-- Each digest has thirty-two octets. -/
theorem length_hash (message : Bytes) : (hash message).length = 32 := by
  simp [hash, Words.toList, bigEndian]

end Avatar.Sha256
