import BeanBridge.BeanName.Basic
import BeanBridge.BeanName.Glob

/-! Wildcard patterns by way of regular expressions.  A pattern is translated character by character,
between anchors, and the expression is searched for in the text.  The library that compiles and
searches is given; the one that is used unless another is given knows the expressions that patterns
become, and no others. -/

namespace BeanBridge

/-- A library of regular expressions, with the text that stands in an expression for another text
as it is. -/
structure RegexLibrary where
  Expression : Type
  compile? : String → Option Expression
  finds : Expression → String → Bool
  escape : String → String

namespace Glob

/-- What a character of a pattern becomes. -/
def translateChar (library : RegexLibrary) : Char → String
  | '*' => ".*"
  | '?' => "."
  | c => library.escape (String.singleton c)

/-- The expression for a pattern, in which the dot stands for line feeds too. -/
def translate (library : RegexLibrary) (pattern : String) : String :=
  pattern.toList.foldl (fun translated c => translated ++ translateChar library c) "(?s)^" ++ "$"

/-- The expression for the pattern is found in the text; one that does not compile is not. -/
def isMatchBy (library : RegexLibrary) (pattern text : String) : Bool :=
  (library.compile? (translate library pattern)).any (library.finds · text)

end Glob

namespace RegexLibrary

/-- A part of an expression. -/
inductive Part where
  /-- From here on the dot stands for line feeds too. -/
  | dotAll
  | start
  | finish
  | any
  | anyRun
  | literal (c : Char)
  deriving DecidableEq

/-- A character that an expression takes for itself only behind a backslash. -/
def isMeta (c : Char) : Bool :=
  ['\\', '.', '+', '*', '?', '(', ')', '|', '[', ']', '{', '}', '^', '$', '#', '&', '-',
    '~'].contains c

/-- The text with a backslash before every character that needs one. -/
def quote (text : String) : String :=
  String.ofList (text.toList.flatMap fun c => if isMeta c then ['\\', c] else [c])

/-- The parts that were read, and those of the rest of the expression, if it has no others. -/
def readParts (read : List Part) : List Char → Option (List Part)
  | [] => some read.reverse
  | '(' :: '?' :: 's' :: ')' :: text => readParts (.dotAll :: read) text
  | '^' :: text => readParts (.start :: read) text
  | '$' :: text => readParts (.finish :: read) text
  | '.' :: '*' :: text => readParts (.anyRun :: read) text
  | '.' :: text => readParts (.any :: read) text
  | '\\' :: c :: text => if isMeta c then readParts (.literal c :: read) text else none
  | c :: text => if isMeta c then none else readParts (.literal c :: read) text

/-- The end of a pattern that became these parts. -/
def patternEnd? : List Part → Option (List Char)
  | [.finish] => some []
  | .anyRun :: parts => (patternEnd? parts).map ('*' :: ·)
  | .any :: parts => (patternEnd? parts).map ('?' :: ·)
  | .literal c :: parts =>
    if BeanName.isWildcard c then none else (patternEnd? parts).map (c :: ·)
  | _ => none

/-- The pattern that became these parts. -/
def pattern? : List Part → Option (List Char)
  | .dotAll :: .start :: parts => patternEnd? parts
  | _ => none

/-- What has more parts does not compile.  A compiled expression has ten mebibytes, and every part
takes 32 bytes of them or more. -/
def maxParts : Nat := 10 * 1024 * 1024 / 32

/-- The library that knows the expressions that patterns become, and searches by rows. -/
def ofPatterns : RegexLibrary where
  Expression := List Char
  compile? expression :=
    ((readParts [] expression.toList).filter (·.length ≤ maxParts)).bind pattern?
  finds pattern text := Glob.isMatch pattern text.toList
  escape := quote

end RegexLibrary

end BeanBridge
