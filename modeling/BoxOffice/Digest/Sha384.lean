/-!
# SHA-384

The digest of 48 bytes by which a text is known again. Bytes are taken in blocks of 128, padded with
one set bit, zeros and the length. The constants are the first 64 bits behind the point of square
and cube roots of primes.
-/

namespace BoxOffice.Digest

/-- The greatest number below `start + 2 ^ bits` whose power of some degree is at most `n`, where
that of `start` is. -/
def rootFrom (degree n : Nat) : (bits start : Nat) → Nat
  | 0, start => start
  | bits + 1, start =>
    let next := start + Nat.pow 2 bits
    rootFrom degree n bits (if Nat.pow next degree ≤ n then next else start)

/-- The first 64 bits behind the point of a root. -/
def rootBits (degree n : Nat) : UInt64 :=
  .ofNat (rootFrom degree (n * Nat.pow 2 (64 * degree)) 72 0)

/-- A number with no divisor but one and itself. -/
def isPrime (n : Nat) : Bool :=
  2 ≤ n && (List.range n).all fun d => d < 2 || n % d != 0

/-- The first eighty primes. -/
def primes : List Nat :=
  (List.range 410).filter isPrime

/-- One constant for each round. -/
def roundConstants : List UInt64 :=
  primes.map (rootBits 3)

/-- The eight words that a digest is made of. -/
structure Words where
  a : UInt64
  b : UInt64
  c : UInt64
  d : UInt64
  e : UInt64
  f : UInt64
  g : UInt64
  h : UInt64

namespace Words

/-- The words in order. -/
def toList (w : Words) : List UInt64 :=
  [w.a, w.b, w.c, w.d, w.e, w.f, w.g, w.h]

/-- The words before the first block: from the square roots of the ninth to the sixteenth prime. -/
def initial : Words where
  a := rootBits 2 23
  b := rootBits 2 29
  c := rootBits 2 31
  d := rootBits 2 37
  e := rootBits 2 41
  f := rootBits 2 43
  g := rootBits 2 47
  h := rootBits 2 53

instance : Add Words where
  add v w :=
    { a := v.a + w.a, b := v.b + w.b, c := v.c + w.c, d := v.d + w.d,
      e := v.e + w.e, f := v.f + w.f, g := v.g + w.g, h := v.h + w.h }

end Words

/-- A word turned to the right. -/
def rotate (x : UInt64) (n : UInt64) : UInt64 :=
  (x >>> n) ||| (x <<< (64 - n))

/-- One round, with a word of the schedule and a constant. -/
def round (w : Words) (word constant : UInt64) : Words :=
  let sum := rotate w.e 14 ^^^ rotate w.e 18 ^^^ rotate w.e 41
  let choice := (w.e &&& w.f) ^^^ (~~~w.e &&& w.g)
  let first := w.h + sum + choice + constant + word
  let turned := rotate w.a 28 ^^^ rotate w.a 34 ^^^ rotate w.a 39
  let majority := (w.a &&& w.b) ^^^ (w.a &&& w.c) ^^^ (w.b &&& w.c)
  { a := first + (turned + majority), b := w.a, c := w.b, d := w.c,
    e := w.d + first, f := w.e, g := w.f, h := w.g }

/-- The schedule continued by some words; the words before are given from the last one back. -/
def schedule : (count : Nat) → List UInt64 → List UInt64
  | 0, back => back.reverse
  | count + 1, back =>
    let word (n : Nat) : UInt64 := back.getD (n - 1) 0
    let near := rotate (word 2) 19 ^^^ rotate (word 2) 61 ^^^ (word 2 >>> 6)
    let far := rotate (word 15) 1 ^^^ rotate (word 15) 8 ^^^ (word 15 >>> 7)
    schedule count ((near + word 7 + far + word 16) :: back)

/-- The words after a block of sixteen words. -/
def absorb (w : Words) (block : List UInt64) : Words :=
  w + ((schedule 64 block.reverse).zip roundConstants).foldl (fun w (word, k) => round w word k) w

/-- The number of eight bytes, the first one the greatest. -/
def wordOfBytes (bytes : List UInt8) : UInt64 :=
  bytes.foldl (fun word b => word * 256 + b.toUInt64) 0

/-- A list cut into pieces of a length; what is left over at the end is dropped. -/
def pieces {α : Type} (size : Nat) : (count : Nat) → List α → List (List α)
  | 0, _ => []
  | count + 1, as => as.take size :: pieces size count (as.drop size)

/-- The bytes of a number, the greatest first. -/
def bytesOfNat : (count n : Nat) → List UInt8
  | 0, _ => []
  | count + 1, n => UInt8.ofNat (n / Nat.pow 256 count) :: bytesOfNat count n

/-- The bytes with their padding: a multiple of 128. -/
def pad (bytes : List UInt8) : List UInt8 :=
  let zeros := (239 - bytes.length % 128) % 128
  bytes ++ 0x80 :: List.replicate zeros 0 ++ bytesOfNat 16 (8 * bytes.length)

/-- The digest of some bytes: the first six words after the last block. -/
def sha384 (bytes : List UInt8) : List UInt8 :=
  let padded := pad bytes
  let blocks := pieces 128 (padded.length / 128) padded
  let words := blocks.foldl (fun w block => absorb w ((pieces 8 16 block).map wordOfBytes))
    Words.initial
  (words.toList.take 6).flatMap fun word => bytesOfNat 8 word.toNat

end BoxOffice.Digest
