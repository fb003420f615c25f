import BeanBridge.Power

/-! A digest of 64 bytes.  The bytes are taken in blocks of 128, and each block stirs eight words.
The words at the start and the words that are stirred in are the first 64 bits behind the point
of roots of the first primes. -/

namespace BeanBridge.Sha512

/-- The primes below the number of the last one needed. -/
def primes : List Nat :=
  (List.range 410).filter fun n => 2 ≤ n && (List.range n).all fun m => m < 2 || n % m != 0

/-- The greatest number of at most `bits` bits, put behind `found`, whose power is at most `n`. -/
def root (degree n : Nat) : (bits found : Nat) → Nat
  | 0, found => found
  | bits + 1, found =>
    let next := found + 2 ^ bits
    root degree n bits (if next ^ degree ≤ n then next else found)

/-- The first 64 bits behind the point of the root of a prime. -/
def fraction (degree prime : Nat) : UInt64 := .ofNat (root degree (prime * 2 ^ (64 * degree)) 70 0)

/-- The words at the start. -/
def start : List UInt64 := (primes.take 8).map (fraction 2)

/-- The words that are stirred in. -/
def constants : List UInt64 := (primes.take 80).map (fraction 3)

/-- The word with its bits turned to the right. -/
def turn (word : UInt64) (n : UInt64) : UInt64 := (word >>> n) ||| (word <<< (64 - n))

/-- The words of big-endian bytes. -/
def words : List UInt8 → List UInt64
  | a :: b :: c :: d :: e :: f :: g :: h :: bytes =>
    [a, b, c, d, e, f, g, h].foldl (fun word byte => word <<< 8 ||| byte.toUInt64) 0 :: words bytes
  | _ => []

/-- The word behind sixteen others, the last of which comes first. -/
def nextWord (last : List UInt64) : UInt64 :=
  let word (n : Nat) : UInt64 := last.getD n 0
  let mix (a b shift word : UInt64) : UInt64 := turn word a ^^^ turn word b ^^^ word >>> shift
  mix 19 61 6 (word 1) + word 6 + mix 1 8 7 (word 14) + word 15

/-- All words that a block gives. -/
def schedule (block : List UInt64) : List UInt64 :=
  ((List.range 64).foldl (fun last _ => nextWord last :: last) block.reverse).reverse

/-- Stirs one word into eight. -/
def stir (state : List UInt64) (word : UInt64) : List UInt64 :=
  match state with
  | [a, b, c, d, e, f, g, h] =>
    let mix (x y z word : UInt64) : UInt64 := turn word x ^^^ turn word y ^^^ turn word z
    let one := h + mix 14 18 41 e + ((e &&& f) ^^^ (~~~e &&& g)) + word
    let two := mix 28 34 39 a + ((a &&& b) ^^^ (a &&& c) ^^^ (b &&& c))
    [one + two, a, b, c, d + one, e, f, g]
  | state => state

/-- Stirs a block into eight words. -/
def compress (state block : List UInt64) : List UInt64 :=
  let stirred := (List.zipWith (· + ·) (schedule block) constants).foldl stir state
  List.zipWith (· + ·) state stirred

/-- The words of a message in blocks: behind the message come a one bit, zeros and the number of its
bits. -/
def padded (message : List UInt8) : List UInt64 :=
  let zeros := 8 + (239 - message.length % 128) % 128
  words (message ++ 0x80 :: List.replicate zeros 0) ++ [.ofNat (8 * message.length)]

/-- Stirs blocks of sixteen words, at most `count`. -/
def compressAll : (count : Nat) → (state words : List UInt64) → List UInt64
  | 0, state, _ | _, state, [] => state
  | count + 1, state, words => compressAll count (compress state (words.take 16)) (words.drop 16)

/-- The digest of a message, as eight words. -/
def digest (message : List UInt8) : List UInt64 :=
  let words := padded message
  compressAll words.length start words

end BeanBridge.Sha512
