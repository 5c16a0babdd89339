import Scaffold.Text.Utf8

/-!
# Digest — checksums of bytes

The functions that sum up bytes in a word of fixed length: the block functions and the plain sums.
-/

set_option autoImplicit false

/-!
## Block — content in blocks of one size

A digest reads its content block by block. So that the last block is full, a one follows the
content, then zeros, and at the end the length of the content in bits.
-/

namespace Scaffold.Digest

/-- The number that bytes spell, the highest one first. -/
def natOfBytes (b : Bytes) : Nat := b.foldl (fun n x => n * 256 + x.toNat) 0

/-- The bytes of a number, the highest one first. -/
def bytesOfNat : Nat → Nat → Bytes
  | 0, _ => []
  | count + 1, n => bytesOfNat count (n / 256) ++ [n.toUInt8]

/-- How bytes spell a number. -/
inductive ByteOrder
  | highestFirst
  | lowestFirst
  deriving DecidableEq, Repr

/-- The bytes of a number in an order. -/
def ByteOrder.write (o : ByteOrder) (count n : Nat) : Bytes :=
  match o with
  | .highestFirst => bytesOfNat count n
  | .lowestFirst => (bytesOfNat count n).reverse

/-- The number that bytes spell in an order. -/
def ByteOrder.read (o : ByteOrder) (b : Bytes) : Nat :=
  match o with
  | .highestFirst => natOfBytes b
  | .lowestFirst => natOfBytes b.reverse

/-- Content that fills blocks of a size, of which the length takes an eighth. -/
def filled (o : ByteOrder) (size : Nat) (b : Bytes) : Bytes :=
  let used := (b.length + 1 + size / 8) % size
  b ++ [128] ++ List.replicate ((size - used) % size) 0 ++ o.write (size / 8) (b.length * 8)

/-- The first parts of a size, as many as are asked for. -/
def parts (size : Nat) : Nat → Bytes → List Bytes
  | 0, _ => []
  | count + 1, b => b.take size :: parts size count (b.drop size)

/-- The blocks of a content. -/
def blocks (o : ByteOrder) (size : Nat) (b : Bytes) : List Bytes :=
  let whole := filled o size b
  parts size (whole.length / size) whole

/-- The numbers of `count` bytes in a block. -/
def numbers (o : ByteOrder) (count : Nat) (block : Bytes) : Array Nat :=
  ((parts count (block.length / count) block).map o.read).toArray

end Scaffold.Digest

/-!
## Md5 — digests of 128 bits
-/

namespace Scaffold.Digest.Md5

/-- A constant for each round: the first 32 bits behind the point of the sine of its number. -/
def constants : Array Nat := #[
  0xd76aa478, 0xe8c7b756, 0x242070db, 0xc1bdceee, 0xf57c0faf, 0x4787c62a, 0xa8304613, 0xfd469501,
  0x698098d8, 0x8b44f7af, 0xffff5bb1, 0x895cd7be, 0x6b901122, 0xfd987193, 0xa679438e, 0x49b40821,
  0xf61e2562, 0xc040b340, 0x265e5a51, 0xe9b6c7aa, 0xd62f105d, 0x02441453, 0xd8a1e681, 0xe7d3fbc8,
  0x21e1cde6, 0xc33707d6, 0xf4d50d87, 0x455a14ed, 0xa9e3e905, 0xfcefa3f8, 0x676f02d9, 0x8d2a4c8a,
  0xfffa3942, 0x8771f681, 0x6d9d6122, 0xfde5380c, 0xa4beea44, 0x4bdecfa9, 0xf6bb4b60, 0xbebfbc70,
  0x289b7ec6, 0xeaa127fa, 0xd4ef3085, 0x04881d05, 0xd9d4d039, 0xe6db99e5, 0x1fa27cf8, 0xc4ac5665,
  0xf4292244, 0x432aff97, 0xab9423a7, 0xfc93a039, 0x655b59c3, 0x8f0ccc92, 0xffeff47d, 0x85845dd1,
  0x6fa87e4f, 0xfe2ce6e0, 0xa3014314, 0x4e0811a1, 0xf7537e82, 0xbd3af235, 0x2ad7d2bb, 0xeb86d391]

/-- A number in 32 bits. -/
def word (n : Nat) : Nat := n % Nat.pow 2 32

/-- A word turned to the left. -/
def turned (count n : Nat) : Nat := word (n * Nat.pow 2 count) + n / Nat.pow 2 (32 - count)

/-- How far a word is turned in a round. -/
def turn (round : Nat) : Nat :=
  let counts : List Nat := match round / 16 with
    | 0 => [7, 12, 17, 22]
    | 1 => [5, 9, 14, 20]
    | 2 => [4, 11, 16, 23]
    | _ => [6, 10, 15, 21]
  counts.getD (round % 4) 0

/-- How three words are mixed in a round, and which word of the block joins them. -/
def mixed (round b c d : Nat) : Nat × Nat :=
  let all := 0xffffffff
  match round / 16 with
  | 0 => ((b &&& c) ||| ((all - b) &&& d), round)
  | 1 => ((d &&& b) ||| ((all - d) &&& c), (5 * round + 1) % 16)
  | 2 => (b ^^^ c ^^^ d, (3 * round + 5) % 16)
  | _ => (c ^^^ (b ||| (all - d)), 7 * round % 16)

/-- A round on the four words of the state. -/
def round (words : Array Nat) (state : List Nat) (n : Nat) : List Nat :=
  match state with
  | [a, b, c, d] =>
    let (f, place) := mixed n b c d
    let total := word (a + f + constants.getD n 0 + words.getD place 0)
    [d, word (b + turned (turn n) total), b, c]
  | state => state

/-- The state behind a block. -/
def afterBlock (state : List Nat) (block : Bytes) : List Nat :=
  let mixed := (List.range 64).foldl (round (numbers .lowestFirst 4 block)) state
  (state.zip mixed).map fun (a, b) => word (a + b)

/-- The digest of a content. -/
def md5 (b : Bytes) : Bytes :=
  ((blocks .lowestFirst 64 b).foldl afterBlock
    [0x67452301, 0xefcdab89, 0x98badcfe, 0x10325476]).flatMap (ByteOrder.lowestFirst.write 4)

end Scaffold.Digest.Md5

/-!
## Sha1 — digests of 160 bits
-/

namespace Scaffold.Digest.Sha1

/-- A number in 32 bits. -/
def word (n : Nat) : Nat := n % Nat.pow 2 32

/-- A word turned to the left. -/
def turned (count n : Nat) : Nat := word (n * Nat.pow 2 count) + n / Nat.pow 2 (32 - count)

/-- The words of a block and those that are made of them, one for each round. -/
def schedule (block : Bytes) : Array Nat :=
  (List.range 64).foldl (fun words n =>
    let at_ (place : Nat) : Nat := words.getD place 0
    words.push (turned 1 (at_ (n + 13) ^^^ at_ (n + 8) ^^^ at_ (n + 2) ^^^ at_ n)))
    (numbers .highestFirst 4 block)

/-- How three words are mixed in a round, and the constant of the round. -/
def mixed (round b c d : Nat) : Nat × Nat :=
  if round < 20 then ((b &&& c) ^^^ ((0xffffffff - b) &&& d), 0x5a827999)
  else if round < 40 then (b ^^^ c ^^^ d, 0x6ed9eba1)
  else if round < 60 then ((b &&& c) ^^^ (b &&& d) ^^^ (c &&& d), 0x8f1bbcdc)
  else (b ^^^ c ^^^ d, 0xca62c1d6)

/-- A round on the five words of the state. -/
def round (state : List Nat) (n w : Nat) : List Nat :=
  match state with
  | [a, b, c, d, e] =>
    let (f, constant) := mixed n b c d
    [word (turned 5 a + f + e + constant + w), a, turned 30 b, c, d]
  | state => state

/-- The state behind a block. -/
def afterBlock (state : List Nat) (block : Bytes) : List Nat :=
  let words := schedule block
  let mixed := (List.range 80).foldl (fun state n => round state n (words.getD n 0)) state
  (state.zip mixed).map fun (a, b) => word (a + b)

/-- The digest of a content. -/
def sha1 (b : Bytes) : Bytes :=
  ((blocks .highestFirst 64 b).foldl afterBlock
    [0x67452301, 0xefcdab89, 0x98badcfe, 0x10325476, 0xc3d2e1f0]).flatMap (bytesOfNat 4)

end Scaffold.Digest.Sha1

/-!
## Sha2 — digests of 224 to 512 bits

The four digests differ in the width of their words, in the rotations that mix them, in the number
of rounds and in the state that they start with. The constants are the first bits behind the point
of roots of the first prime numbers.
-/

namespace Scaffold.Digest.Sha2

/-! ## Constants -/

/-- The first prime numbers from a number on, as many as are asked for; every prime number has one
among the next `n` numbers behind it. -/
def primesFrom : Nat → Nat → List Nat → List Nat
  | 0, _, found => found.reverse
  | fuel + 1, n, found =>
    if found.any fun p => n % p = 0 then primesFrom fuel (n + 1) found
    else primesFrom fuel (n + 1) (n :: found)

/-- The first eighty prime numbers; the last one of them is 409. -/
def primes : List Nat := primesFrom 408 2 []

/-- The largest number whose power does not exceed `n`, bit by bit. -/
def root (degree n : Nat) : Nat → Nat → Nat
  | 0, found => found
  | bits + 1, found =>
    let larger := found + Nat.pow 2 bits
    root degree n bits (if Nat.pow larger degree ≤ n then larger else found)

/-- The first 64 bits behind the point of a root of a number. -/
def fraction (degree n : Nat) : Nat :=
  root degree (n * Nat.pow 2 (64 * degree)) 72 0 % Nat.pow 2 64

/-- A constant for each round. -/
def roundConstants : Array Nat := (primes.map (fraction 3)).toArray

/-- Square roots of the first eight prime numbers. -/
def firstRoots : List Nat := (primes.take 8).map (fraction 2)

/-- Square roots of the next eight prime numbers. -/
def nextRoots : List Nat := ((primes.drop 8).take 8).map (fraction 2)

/-! ## Words -/

/-- What sets the digests apart. -/
structure Kind where
  /-- The bits of a word. -/
  width : Nat
  rounds : Nat
  /-- The rotations that mix the words of the state. -/
  large : (Nat × Nat × Nat) × (Nat × Nat × Nat)
  /-- Two rotations and a shift that mix the words of a block. -/
  small : (Nat × Nat × Nat) × (Nat × Nat × Nat)
  constants : Array Nat
  start : List Nat
  /-- The bytes of the digest. -/
  size : Nat

namespace Kind

/-- A number in the width of a word. -/
def word (k : Kind) (n : Nat) : Nat := n % Nat.pow 2 k.width

/-- A word turned to the right. -/
def turned (k : Kind) (count n : Nat) : Nat :=
  n / Nat.pow 2 count + k.word (n * Nat.pow 2 (k.width - count))

/-- Three turns of a word at once. -/
def mixed (k : Kind) (counts : Nat × Nat × Nat) (n : Nat) : Nat :=
  k.turned counts.1 n ^^^ k.turned counts.2.1 n ^^^ k.turned counts.2.2 n

/-- Two turns and a shift of a word at once. -/
def shifted (k : Kind) (counts : Nat × Nat × Nat) (n : Nat) : Nat :=
  k.turned counts.1 n ^^^ k.turned counts.2.1 n ^^^ (n / Nat.pow 2 counts.2.2)

/-- The words of a block and those that are made of them, one for each round. -/
def schedule (k : Kind) (block : Bytes) : Array Nat :=
  let given := numbers .highestFirst (k.width / 8) block
  (List.range (k.rounds - 16)).foldl (fun words n =>
    let at_ (place : Nat) : Nat := words.getD place 0
    words.push (k.word (k.shifted k.small.2 (at_ (n + 14)) + at_ (n + 9)
      + k.shifted k.small.1 (at_ (n + 1)) + at_ n))) given

/-- A round on the eight words of the state. -/
def round (k : Kind) (state : List Nat) (constant word : Nat) : List Nat :=
  match state with
  | [a, b, c, d, e, f, g, h] =>
    let all := Nat.pow 2 k.width - 1
    let choice := (e &&& f) ^^^ ((all - e) &&& g)
    let majority := (a &&& b) ^^^ (a &&& c) ^^^ (b &&& c)
    let first := h + k.mixed k.large.2 e + choice + constant + word
    let second := k.mixed k.large.1 a + majority
    [k.word (first + second), a, b, c, k.word (d + first), e, f, g]
  | state => state

/-- The state behind a block. -/
def afterBlock (k : Kind) (state : List Nat) (block : Bytes) : List Nat :=
  let words := k.schedule block
  let mixed := (List.range k.rounds).foldl (fun state n =>
    k.round state (k.constants.getD n 0) (words.getD n 0)) state
  (state.zip mixed).map fun (a, b) => k.word (a + b)

/-- The digest of a content. -/
def digest (k : Kind) (b : Bytes) : Bytes :=
  let state := (blocks .highestFirst (2 * k.width) b).foldl k.afterBlock k.start
  (state.flatMap (bytesOfNat (k.width / 8))).take k.size

end Kind

/-- Digests of 32-bit words. -/
def narrow (start : List Nat) (size : Nat) : Kind where
  width := 32
  rounds := 64
  large := ((2, 13, 22), (6, 11, 25))
  small := ((7, 18, 3), (17, 19, 10))
  constants := roundConstants.map (· / Nat.pow 2 32)
  start := start
  size := size

/-- Digests of 64-bit words. -/
def wide (start : List Nat) (size : Nat) : Kind where
  width := 64
  rounds := 80
  large := ((28, 34, 39), (14, 18, 41))
  small := ((1, 8, 7), (19, 61, 6))
  constants := roundConstants
  start := start
  size := size

/-- The digest of 224 bits. -/
def sha224 (b : Bytes) : Bytes := (narrow (nextRoots.map (· % Nat.pow 2 32)) 28).digest b

/-- The digest of 256 bits. -/
def sha256 (b : Bytes) : Bytes := (narrow (firstRoots.map (· / Nat.pow 2 32)) 32).digest b

/-- The digest of 384 bits. -/
def sha384 (b : Bytes) : Bytes := (wide nextRoots 48).digest b

/-- The digest of 512 bits. -/
def sha512 (b : Bytes) : Bytes := (wide firstRoots 64).digest b

end Scaffold.Digest.Sha2

/-!
## Sum — short sums of contents

A cyclic sum is the remainder of the content and its length as a polynomial; the other ones add
bytes up.
-/

namespace Scaffold.Digest.Sum

/-- The remainder with a further bit; the polynomial is that of the common 32-bit sum. -/
def shiftIn (n : Nat) : Nat :=
  let twice := n * 2 % Nat.pow 2 32
  if n < Nat.pow 2 31 then twice else twice ^^^ 0x04c11db7

/-- The remainder with a further byte. -/
def cyclicStep (n : Nat) (b : UInt8) : Nat :=
  (List.range 8).foldl (fun n _ => shiftIn n) (n ^^^ (b.toNat * Nat.pow 2 24))

/-- The bytes of a length, the lowest one first, without zeros behind them. -/
def lengthBytes : Nat → Nat → Bytes
  | 0, _ | _, 0 => []
  | fuel + 1, n => n.toUInt8 :: lengthBytes fuel (n / 256)

/-- The cyclic sum of a content and its length. -/
def cyclic (b : Bytes) : Nat :=
  Nat.pow 2 32 - 1 - (b ++ lengthBytes b.length b.length).foldl cyclicStep 0

/-- A sum in 16 bits that is turned before each byte. -/
def turning (b : Bytes) : Nat :=
  b.foldl (fun n x => (n / 2 + n % 2 * Nat.pow 2 15 + x.toNat) % Nat.pow 2 16) 0

/-- The sum of all bytes, folded into 16 bits. -/
def plain (b : Bytes) : Nat :=
  let all := b.foldl (fun n x => n + x.toNat) 0 % Nat.pow 2 32
  let once := all % Nat.pow 2 16 + all / Nat.pow 2 16
  once % Nat.pow 2 16 + once / Nat.pow 2 16

end Scaffold.Digest.Sum
