import BeanBridge.Unicode.Composition
import BeanBridge.Unicode.Mark

/-! The normal form of a text: characters taken apart, marks in the order of their classes, and
characters put together again where one stands for several. -/

namespace BeanBridge.Unicode

/-! Syllables of Hangul, which are made of two or three parts by a rule. -/

/-- The first of the leading parts, of the vowels, and the one before the trailing parts. -/
def firstLead : Nat := 0x1100
def firstVowel : Nat := 0x1161
def beforeTrail : Nat := 0x11a7

def firstSyllable : Nat := 0xac00

def leadCount : Nat := 19
def vowelCount : Nat := 21

/-- How many trailing parts there are, counting none as one. -/
def trailCount : Nat := 28

/-- The parts of the syllable numbered `n`. -/
def syllableParts? (n : Nat) : Option (List Char) :=
  if firstSyllable ≤ n ∧ n < firstSyllable + leadCount * vowelCount * trailCount then
    let index := n - firstSyllable
    let lead := Char.ofNat (firstLead + index / trailCount / vowelCount)
    let vowel := Char.ofNat (firstVowel + index / trailCount % vowelCount)
    let trail := index % trailCount
    some ([lead, vowel] ++ if trail = 0 then [] else [Char.ofNat (beforeTrail + trail)])
  else none

/-- The syllable of two parts, the first of which may be a syllable without a trailing part. -/
def syllable? (m n : Nat) : Option Char :=
  if firstLead ≤ m ∧ m < firstLead + leadCount ∧ firstVowel ≤ n ∧ n < firstVowel + vowelCount then
    let index := (m - firstLead) * vowelCount + (n - firstVowel)
    some (Char.ofNat (firstSyllable + index * trailCount))
  else if firstSyllable ≤ m ∧ m < firstSyllable + leadCount * vowelCount * trailCount ∧
      (m - firstSyllable) % trailCount = 0 ∧ beforeTrail < n ∧ n < beforeTrail + trailCount then
    some (Char.ofNat (m + (n - beforeTrail)))
  else none

/-! All characters. -/

/-- What a character is made of.  Composed characters are made of composed ones at most `depth`
times over. -/
def parts : (depth : Nat) → Char → List Char
  | 0, c => [c]
  | depth + 1, c =>
    match syllableParts? c.toNat with
    | some parts => parts
    | none => match composed.values? c with
      | some values => values.flatMap fun n => parts depth (Char.ofNat n)
      | none => match replaced.images? c with
        | some images => images
        | none => [c]

/-- The character composed of two. -/
def compose? (base mark : Char) : Option Char :=
  match syllable? base.toNat mark.toNat with
  | some syllable => some syllable
  | none => composedByParts[(base.toNat, mark.toNat)]?

/-- Puts a character before others, behind the marks of lower classes that it may change places
with. -/
def insertMark (c : Char) : List Char → List Char
  | [] => [c]
  | d :: text =>
    if 0 < markClass d ∧ markClass d < markClass c then d :: insertMark c text else c :: d :: text

/-- The text with its characters taken apart and its marks in order. -/
def decompose (text : List Char) : List Char := (text.flatMap (parts 4)).foldr insertMark []

/-- Puts characters together: `base` is the last one of class zero, and `marks` are those behind it
that stay as they are, backwards. -/
def composeFrom (base : Char) (marks : List Char) : List Char → List Char
  | [] => base :: marks.reverse
  | c :: text =>
    let isBlocked := marks.head?.any (markClass c ≤ markClass ·)
    match if isBlocked then none else compose? base c with
    | some composed => composeFrom composed marks text
    | none =>
      if markClass c = 0 then base :: marks.reverse ++ composeFrom c [] text
      else composeFrom base (c :: marks) text

/-- The normal form of a text. -/
def normalize (text : List Char) : List Char :=
  let text := decompose text
  let isFree (c : Char) : Bool := markClass c != 0
  match text.dropWhile isFree with
  | [] => text
  | base :: rest => text.takeWhile isFree ++ composeFrom base [] rest

end BeanBridge.Unicode
