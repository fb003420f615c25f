/-! Wildcard patterns: `*` stands for any run of characters and `?` for one.  The matcher works from
the end of the pattern: a row tells for every suffix of the text whether the rest of the pattern
matches it, and each character of the pattern turns the row behind it into its own. -/

namespace BeanBridge.Glob

/-- The entries from which some entry at or behind them is true. -/
def reach : List Bool → List Bool
  | [] => []
  | b :: row => match reach row with
    | [] => [b]
    | c :: rest => (b || c) :: c :: rest

/-- The pattern character stands for the character `d`. -/
def standsFor (c d : Char) : Bool := c == '?' || c == d

/-- For every suffix of the text, the longest first, whether the pattern matches it. -/
def row (text : List Char) : List Char → List Bool
  | [] => text.map (fun _ => false) ++ [true]
  | '*' :: pattern => reach (row text pattern)
  | c :: pattern =>
    List.zipWith (fun d behind => standsFor c d && behind) text (row text pattern).tail ++ [false]

/-- The pattern matches the whole text. -/
def isMatch (pattern text : List Char) : Bool := (row text pattern).headD false

end BeanBridge.Glob
