import BeanBridge.Unicode.Direction
import BeanBridge.Unicode.Folding
import BeanBridge.Unicode.Joining
import BeanBridge.Unicode.Normal
import BeanBridge.Url.Punycode

/-! Domain names in ASCII.  A name is folded, so that names that read alike are alike; its labels
are checked one by one, and together when some are written right to left; labels with other
characters than those of ASCII are written in Punycode. -/

namespace BeanBridge.Domain

open Unicode

/-- A character that no domain name holds. -/
def isForbidden (c : Char) : Bool :=
  c.toNat ≤ 0x20 || c == '\x7f' ||
    ['%', '#', '/', ':', '<', '>', '?', '@', '[', '\\', ']', '^', '|'].elem c

/-- The characters that a text has as part of a name. -/
def fold? (text : List Char) : Option (List Char) := do
  let folded := normalize (← text.mapM Unicode.fold?).flatten
  if folded.any isForbidden then none else some folded

/-- What a label in Punycode begins with. -/
def mark : List Char := ['x', 'n', '-', '-']

/-- The most characters of a label that are read as Punycode. -/
def maxDigits : Nat := 2000

/-- The most characters of a label that are written in Punycode. -/
def maxCharacters : Nat := 1000

/-- What a folded label stands for: itself, or what it says in Punycode, which has to be folded
too. -/
def meaning? (label : List Char) : Option (List Char) :=
  if mark.isPrefixOf label then do
    let digits := label.drop mark.length
    if label.getLast? = some '-' || maxDigits < digits.length then none
    let meaning ← Punycode.decode? digits
    if fold? meaning == some meaning && !meaning.elem '.' then some meaning else none
  else some label

/-- A character that keeps letters apart or joins them, and cannot be seen. -/
def isJoiner (c : Char) : Bool := c == '\u200c' || c == '\u200d'

/-- A joiner stands behind a mark that takes a vowel away, or it keeps apart letters that would join
otherwise. -/
def joinerFits (before : List Char) (c : Char) (behind : List Char) : Bool :=
  (before.head?).any isVirama ||
    (c == '\u200c' && joins joiningLeft before && joins joiningRight behind)

/-- Every joiner of a text is in place; `before` is what comes before it, backwards. -/
def joinersFit (before : List Char) : List Char → Bool
  | [] => true
  | c :: text => (!isJoiner c || joinerFits before c text) && joinersFit (c :: before) text

/-- A label may be part of a name. -/
def isValid (label : List Char) : Bool :=
  !(label.head?).any isMark && joinersFit [] label &&
    (label.all Punycode.isBasic || label.length ≤ maxCharacters)

/-- The label has characters that are written right to left. -/
def turns (label : List Char) : Bool :=
  label.any fun c => [Direction.rightToLeft, .arabicDigit].elem (direction c)

/-- The directions of a label, without the marks at its end. -/
def directions (label : List Char) : List Direction :=
  ((label.map direction).reverse.dropWhile (· == .mark)).reverse

/-- The label reads the same among labels that are written left to right and right to left. -/
def isOrdered (label : List Char) : Bool :=
  match label with
  | [] => true
  | first :: rest =>
    let middle := directions rest
    let holds (last others : List Direction) : Bool :=
      middle.getLast?.all last.elem && middle.all fun d => last.elem d || others.elem d
    match direction first with
    | .leftToRight => holds [.leftToRight, .europeanDigit] [.neutral, .mark]
    | .rightToLeft =>
      holds [.rightToLeft, .europeanDigit, .arabicDigit] [.neutral, .mark] &&
        !(middle.elem .europeanDigit && middle.elem .arabicDigit)
    | _ => false

/-- A label in ASCII. -/
def written (label : List Char) : List Char :=
  if label.all Punycode.isBasic then label else mark ++ Punycode.encode label

def ascii? (name : List Char) : Option (List Char) := do
  let labels ← (Text.pieces (· == '.') (← fold? name)).mapM meaning?
  if labels.all isValid && (!labels.any turns || labels.all isOrdered) then
    some (List.intercalate ['.'] (labels.map written))
  else none

end BeanBridge.Domain
