import KctlProbe.Sandbox.Octets

/-!
# Digests

A digest is a short number that depends on all bytes of a text. The text is filled up to whole blocks
with its length at the end, and each block stirs a state of some words. The constants of the digests
are the first bits behind the point of roots of prime numbers, and of sines.
-/

namespace KctlProbe.Sandbox.Digest

/-- The bytes of a text with a mark and its length behind it, so that they make up whole blocks. -/
def padded (blockSize lengthSize : Nat) (lowFirst : Bool) (text : Octets) : List Nat :=
  let n := text.length
  let zeros := (2 * blockSize - 1 - lengthSize - n % blockSize) % blockSize
  let length := (List.range lengthSize).map fun i => (n * 8) >>> (8 * i) % 256
  text.map Char.toNat ++ 128 :: List.replicate zeros 0 ++ (if lowFirst then length else length.reverse)

/-- The words of bytes. -/
def words (size : Nat) (lowFirst : Bool) : Nat → List Nat → List Nat → List Nat
  | 0, done, _ => done.reverse
  | _, done, [] => done.reverse
  | fuel + 1, done, bytes =>
    let part := bytes.take size
    let value := (if lowFirst then part.reverse else part).foldl (fun n b => n * 256 + b) 0
    words size lowFirst fuel (value :: done) (bytes.drop size)

/-- The hexadecimal digits of a word. -/
def wordText (size : Nat) (lowFirst : Bool) (value : Nat) : Octets :=
  let bytes := (List.range size).map fun i => (value >>> (8 * i)) % 256
  (if lowFirst then bytes else bytes.reverse).flatMap fun b =>
    let digits := Nat.toDigits 16 b
    if digits.length < 2 then '0' :: digits else digits

/-- The words of a text in blocks of sixteen. -/
def blocks (size : Nat) (lowFirst : Bool) (text : Octets) : List (List Nat) :=
  let bytes := padded (16 * size) (2 * size) lowFirst text
  let rec cut : Nat → List (List Nat) → List Nat → List (List Nat)
    | 0, done, _ => done.reverse
    | _, done, [] => done.reverse
    | fuel + 1, done, ws => cut fuel (ws.take 16 :: done) (ws.drop 16)
  cut (bytes.length + 1) [] (words size lowFirst (bytes.length + 1) [] bytes)

/-! ## Constants -/

/-- Whether a number is prime. -/
def isPrime (n : Nat) : Bool :=
  2 ≤ n && (List.range n).all fun d => d < 2 || n % d != 0

/-- The first prime numbers. -/
def primes (n : Nat) : List Nat :=
  ((List.range 410).filter isPrime).take n

/-- The greatest number below a limit whose power is at most `n`, found bit by bit. -/
def rootBits (power n : Nat) : Nat → Nat → Nat
  | 0, root => root
  | bit + 1, root =>
    let next := root + 1 <<< bit
    let size := (List.replicate power next).foldl (· * ·) 1
    rootBits power n bit (if size ≤ n then next else root)

/-- The first 64 bits behind the point of the root of a number. -/
def rootPart (power n : Nat) : Nat :=
  rootBits power (n <<< (64 * power)) 70 0 % 1 <<< 64

/-- The bits of the square roots of the first 16 primes. -/
def squareRoots : List Nat :=
  (primes 16).map (rootPart 2)

/-- The bits of the cube roots of the first 80 primes. -/
def cubeRoots : List Nat :=
  (primes 80).map (rootPart 3)

/-- The bits of the sines of the first 64 numbers. -/
def sines : List Nat :=
  [0xd76aa478, 0xe8c7b756, 0x242070db, 0xc1bdceee, 0xf57c0faf, 0x4787c62a, 0xa8304613, 0xfd469501,
    0x698098d8, 0x8b44f7af, 0xffff5bb1, 0x895cd7be, 0x6b901122, 0xfd987193, 0xa679438e, 0x49b40821,
    0xf61e2562, 0xc040b340, 0x265e5a51, 0xe9b6c7aa, 0xd62f105d, 0x02441453, 0xd8a1e681, 0xe7d3fbc8,
    0x21e1cde6, 0xc33707d6, 0xf4d50d87, 0x455a14ed, 0xa9e3e905, 0xfcefa3f8, 0x676f02d9, 0x8d2a4c8a,
    0xfffa3942, 0x8771f681, 0x6d9d6122, 0xfde5380c, 0xa4beea44, 0x4bdecfa9, 0xf6bb4b60, 0xbebfbc70,
    0x289b7ec6, 0xeaa127fa, 0xd4ef3085, 0x04881d05, 0xd9d4d039, 0xe6db99e5, 0x1fa27cf8, 0xc4ac5665,
    0xf4292244, 0x432aff97, 0xab9423a7, 0xfc93a039, 0x655b59c3, 0x8f0ccc92, 0xffeff47d, 0x85845dd1,
    0x6fa87e4f, 0xfe2ce6e0, 0xa3014314, 0x4e0811a1, 0xf7537e82, 0xbd3af235, 0x2ad7d2bb, 0xeb86d391]

/-! ## Words of 32 bits -/

/-- A word turned to the left. -/
def turnLeft (x n : UInt32) : UInt32 :=
  x <<< n ||| x >>> (32 - n)

/-- A word turned to the right. -/
def turnRight (x n : UInt32) : UInt32 :=
  x >>> n ||| x <<< (32 - n)

/-- The state of MD5 after a block. -/
def stir5 (state : List UInt32) (block : List Nat) : List UInt32 :=
  let w := (block.map UInt32.ofNat).toArray
  let step := fun ((a, b, c, d) : UInt32 × UInt32 × UInt32 × UInt32) ((k, i) : Nat × Nat) =>
    let (f, g, turns) :=
      if i < 16 then ((b &&& c) ||| ((~~~b) &&& d), i, [7, 12, 17, 22])
      else if i < 32 then ((d &&& b) ||| ((~~~d) &&& c), (5 * i + 1) % 16, [5, 9, 14, 20])
      else if i < 48 then (b ^^^ c ^^^ d, (3 * i + 5) % 16, [4, 11, 16, 23])
      else (c ^^^ (b ||| (~~~d)), (7 * i) % 16, [6, 10, 15, 21])
    let sum := f + a + UInt32.ofNat k + w.getD g 0
    (d, b + turnLeft sum (UInt32.ofNat (turns[i % 4]?.getD 0)), b, c)
  match state with
  | [a, b, c, d] =>
    let (p, q, r, s) := sines.zipIdx.foldl step (a, b, c, d)
    [a + p, b + q, c + r, d + s]
  | state => state

/-- The state of SHA-1 after a block. -/
def stir1 (state : List UInt32) (block : List Nat) : List UInt32 :=
  let first := (block.map UInt32.ofNat).toArray
  let w := (List.range 64).foldl (fun (w : Array UInt32) i =>
    let back := fun (k : Nat) => w.getD (i + 16 - k) 0
    w.push (turnLeft (back 3 ^^^ back 8 ^^^ back 14 ^^^ back 16) 1)) first
  let step := fun ((a, b, c, d, e) : UInt32 × UInt32 × UInt32 × UInt32 × UInt32) (i : Nat) =>
    let (f, k) :=
      if i < 20 then ((b &&& c) ||| ((~~~b) &&& d), 0x5A827999)
      else if i < 40 then (b ^^^ c ^^^ d, 0x6ED9EBA1)
      else if i < 60 then ((b &&& c) ||| (b &&& d) ||| (c &&& d), 0x8F1BBCDC)
      else (b ^^^ c ^^^ d, 0xCA62C1D6)
    (turnLeft a 5 + f + e + k + w.getD i 0, a, turnLeft b 30, c, d)
  match state with
  | [a, b, c, d, e] =>
    let (p, q, r, s, t) := (List.range 80).foldl step (a, b, c, d, e)
    [a + p, b + q, c + r, d + s, e + t]
  | state => state

/-! ## Words of either size -/

/-- How the words of the second family of SHA are turned and shifted. -/
structure Stirring where
  /-- The number of bits of a word. -/
  bits : Nat
  /-- The constants, one for each round. -/
  constants : Array Nat
  /-- Three turns for each of the two sums over the state. -/
  sums : (Nat × Nat × Nat) × (Nat × Nat × Nat)
  /-- Two turns and a shift for each of the two sums over the block. -/
  spreads : (Nat × Nat × Nat) × (Nat × Nat × Nat)

namespace Stirring

/-- A word turned to the right. -/
def turn (s : Stirring) (x n : Nat) : Nat :=
  x >>> n ||| (x <<< (s.bits - n)) % 1 <<< s.bits

/-- The sum of words. -/
def add (s : Stirring) (xs : List Nat) : Nat :=
  xs.foldl (· + ·) 0 % 1 <<< s.bits

/-- A word with three turns. -/
def turned (s : Stirring) (x : Nat) : Nat × Nat × Nat → Nat
  | (a, b, c) => s.turn x a ^^^ s.turn x b ^^^ s.turn x c

/-- A word with two turns and a shift. -/
def spread (s : Stirring) (x : Nat) : Nat × Nat × Nat → Nat
  | (a, b, c) => s.turn x a ^^^ s.turn x b ^^^ x >>> c

/-- The words of all rounds that the words of a block give. -/
def schedule (s : Stirring) (block : List Nat) : Array Nat :=
  (List.range (s.constants.size - 16)).foldl (fun (w : Array Nat) i =>
    let back := fun (k : Nat) => w.getD (i + 16 - k) 0
    w.push (s.add [s.spread (back 2) s.spreads.2, back 7, s.spread (back 15) s.spreads.1, back 16]))
    block.toArray

/-- A round: the eight words of the state after a word of the schedule. -/
def round (s : Stirring) (w : Array Nat) (state : List Nat) (i : Nat) : List Nat :=
  match state with
  | [a, b, c, d, e, f, g, h] =>
    let all := 1 <<< s.bits - 1
    let choice := (e &&& f) ^^^ ((all ^^^ e) &&& g)
    let majority := (a &&& b) ^^^ (a &&& c) ^^^ (b &&& c)
    let first := s.add [h, s.turned e s.sums.2, choice, s.constants.getD i 0, w.getD i 0]
    [s.add [first, s.turned a s.sums.1, majority], a, b, c, s.add [d, first], e, f, g]
  | state => state

/-- The state after a block. -/
def stir (s : Stirring) (state block : List Nat) : List Nat :=
  let w := s.schedule block
  let after := (List.range s.constants.size).foldl (s.round w) state
  (state.zip after).map fun (x, y) => s.add [x, y]

end Stirring

/-- The second family of SHA with words of 32 bits. -/
def stirring32 : Stirring :=
  { bits := 32, constants := ((cubeRoots.take 64).map (· >>> 32)).toArray
    sums := ((2, 13, 22), (6, 11, 25)), spreads := ((7, 18, 3), (17, 19, 10)) }

/-- The second family of SHA with words of 64 bits. -/
def stirring64 : Stirring :=
  { bits := 64, constants := cubeRoots.toArray
    sums := ((28, 34, 39), (14, 18, 41)), spreads := ((1, 8, 7), (19, 61, 6)) }

/-- The words with which MD5 and SHA-1 start. -/
def firstWords : List UInt32 := [0x67452301, 0xEFCDAB89, 0x98BADCFE, 0x10325476, 0xC3D2E1F0]

/-- The MD5 digest of a text. -/
def md5 (text : Octets) : Octets :=
  ((blocks 4 true text).foldl stir5 (firstWords.take 4)).flatMap fun w => wordText 4 true w.toNat

/-- The SHA-1 digest of a text. -/
def sha1 (text : Octets) : Octets :=
  ((blocks 4 false text).foldl stir1 firstWords).flatMap fun w => wordText 4 false w.toNat

/-- A digest of the second family of SHA with words of 32 bits: so many of them from a start. -/
def short (count : Nat) (start : List Nat) (text : Octets) : Octets :=
  (((blocks 4 false text).foldl stirring32.stir start).take count).flatMap (wordText 4 false)

/-- A digest of the second family of SHA with words of 64 bits: so many of them from a start. -/
def long (count : Nat) (start : List Nat) (text : Octets) : Octets :=
  (((blocks 8 false text).foldl stirring64.stir start).take count).flatMap (wordText 8 false)

/-- The SHA-256 digest of a text. -/
def sha256 : Octets → Octets := short 8 ((squareRoots.take 8).map (· >>> 32))

/-- The SHA-224 digest of a text. -/
def sha224 : Octets → Octets := short 7 ((squareRoots.drop 8).map (· % 1 <<< 32))

/-- The SHA-512 digest of a text. -/
def sha512 : Octets → Octets := long 8 (squareRoots.take 8)

/-- The SHA-384 digest of a text. -/
def sha384 : Octets → Octets := long 6 (squareRoots.drop 8)

end KctlProbe.Sandbox.Digest
