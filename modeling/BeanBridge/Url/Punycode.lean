import BeanBridge.Power

/-! Punycode: the label of a domain written in ASCII.  The ASCII characters come first, and behind
the last `-` the others, in the order of their numbers, each by the distance to the one before. -/

namespace BeanBridge.Punycode

/-- Numbers are written with digits in base 36. -/
def base : Nat := 36

/-- The digit of a number below 36: letters, then decimal digits. -/
def digit (n : Nat) : Char := if n < 26 then Char.ofNat (97 + n) else Char.ofNat (22 + n)

/-- The number that a digit stands for, in lower case. -/
def digit? (c : Char) : Option Nat :=
  if 'a' ≤ c ∧ c ≤ 'z' then some (c.toNat - 97)
  else if '0' ≤ c ∧ c ≤ '9' then some (c.toNat - 22)
  else none

/-- The least digit that does not end a number, at a place. -/
def threshold (place bias : Nat) : Nat := max 1 (min 26 (place - bias))

/-- Scales a distance down, for the bias of the next. -/
def scale (distance steps : Nat) : Nat :=
  if distance ≤ 455 then steps * base + base * distance / (distance + 38)
  else scale (distance / 35) (steps + 1)
termination_by distance
decreasing_by omega

/-- The bias after a distance, at which `count` characters are placed. -/
def adapt (distance count : Nat) (isFirst : Bool) : Nat :=
  let distance := if isFirst then distance / 700 else distance / 2
  scale (distance + distance / count) 0

/-- A number in digits. -/
def number (bias place n : Nat) : List Char :=
  let t := threshold place bias
  if n < t then [digit n]
  else digit (t + (n - t) % (base - t)) :: number bias (place + base) ((n - t) / (base - t))
termination_by n
decreasing_by
  have h : 1 ≤ threshold place bias := by unfold threshold; omega
  have := Nat.div_le_self (n - threshold place bias) (base - threshold place bias)
  omega

/-- What is known in the middle of a label. -/
structure State where
  distance : Nat := 0
  bias : Nat := 72
  /-- How many characters are placed. -/
  count : Nat
  isFirst : Bool := true
  /-- The digits, backwards. -/
  written : List Char := []

/-- Passes a character of the label while those numbered `n` are placed. -/
def State.pass (n : Nat) (state : State) (c : Char) : State :=
  if c.toNat < n then { state with distance := state.distance + 1 }
  else if c.toNat = n then
    { distance := 0
      bias := adapt state.distance (state.count + 1) state.isFirst
      count := state.count + 1
      isFirst := false
      written := (number state.bias base state.distance).reverse ++ state.written }
  else state

/-- Places the characters of the numbers given, which go up and are at least `start`. -/
def placeAll (label : List Char) : (start : Nat) → List Nat → State → State
  | _, [], state => state
  | start, n :: numbers, state =>
    let state := { state with distance := state.distance + (n - start) * (state.count + 1) }
    let state := label.foldl (State.pass n) state
    placeAll label (n + 1) numbers { state with distance := state.distance + 1 }

def isBasic (c : Char) : Bool := c.toNat < 0x80

/-- A label in ASCII. -/
def encode (label : List Char) : List Char :=
  let basic := label.filter isBasic
  let numbers := ((label.filter (!isBasic ·)).map (·.toNat)).mergeSort.eraseDups
  let state := placeAll label 0x80 numbers { count := basic.length }
  (if basic.isEmpty then [] else basic ++ ['-']) ++ state.written.reverse

/-- Distances and the weights of their digits stay below this. -/
def limit : Nat := 2 ^ 32

/-- The number at the start of the digits, and what is left of them. -/
def number? (bias : Nat) : (place weight : Nat) → List Char → Option (Nat × List Char)
  | _, _, [] => none
  | place, weight, c :: text => do
    let d ← digit? c
    let t := threshold place bias
    if d < t then some (d * weight, text)
    else
      let weight' := weight * (base - t)
      if limit ≤ weight' then none
      let (n, text) ← number? bias (place + base) weight' text
      some (d * weight + n, text)

/-- Places the characters that the digits tell of, from the one numbered `n` on. -/
def decodeTail? (fuel : Nat) (n position bias : Nat) (label text : List Char) :
    Option (List Char) :=
  match fuel, text with
  | _, [] => some label
  | 0, _ => none
  | fuel + 1, text => do
    let (distance, text) ← number? bias base 1 text
    let count := label.length + 1
    let n := n + (position + distance) / count
    let place := (position + distance) % count
    if position + distance < limit && n.isValidChar then
      decodeTail? fuel n (place + 1) (adapt distance count (position == 0))
        (label.take place ++ Char.ofNat n :: label.drop place) text
    else none

/-- The label that a text in ASCII stands for.  A mark behind no ASCII characters is none. -/
def decode? (text : List Char) : Option (List Char) :=
  let digits := (text.reverse.takeWhile (· != '-')).reverse
  let basic := (text.reverse.dropWhile (· != '-')).tail.reverse
  if text.head? = some '-' && basic.isEmpty then none
  else if basic.all isBasic then decodeTail? digits.length 0x80 0 72 basic digits
  else none

end BeanBridge.Punycode
