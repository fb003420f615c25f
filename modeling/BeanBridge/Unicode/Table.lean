import BeanBridge.Text.Hex
import BeanBridge.Text.Pieces

/-! Properties of characters, as tables of runs.  A table is written as a text: its runs in order,
each with the numbers of its first and its last character, the step between them when it is not
one, and the numbers that the table has for the first, as in `100-12e/2>101` or `bd>31+2044+32`,
all of them in hexadecimal digits. -/

namespace BeanBridge.Unicode

/-- The characters numbered `first`, `first + step`, up to `last`, and what is known of the first
one. -/
structure Run where
  first : Nat
  last : Nat
  step : Nat
  values : List Nat

namespace Run

/-- The run holds the character numbered `n`. -/
def holds (run : Run) (n : Nat) : Bool :=
  run.first ≤ n && n ≤ run.last && (n - run.first) % run.step == 0

/-- The characters that stand for the one numbered `n`.  A single one moves along the run. -/
def images (run : Run) (n : Nat) : List Nat :=
  match run.values with
  | [value] => [value + (n - run.first)]
  | values => values

/-- The run that a word spells. -/
def ofText (word : List Char) : Run :=
  let number (digits : List Char) : Nat := (Hex.number? digits).getD 0
  let (range, values) := Text.cutAt '>' word
  let (ends, step) := Text.cutAt '/' range
  let (first, last) := Text.cutAt '-' ends
  { first := number first
    last := number (last.getD first)
    step := (step.map number).getD 1
    values := match values with
      | some values => (Text.pieces (· == '+') values).map number
      | none => [] }

end Run

/-- Runs in order, none of which begins before another ends. -/
structure Table where
  runs : Array Run

namespace Table

/-- The table that a text spells. -/
def ofText (text : String) : Table :=
  let words := (text.splitOn "\n").flatMap (·.splitOn " ")
  ⟨((words.filter (!·.isEmpty)).map fun word => Run.ofText word.toList).toArray⟩

/-- How many of the runs between two places begin at `n` or before, and all those before them. -/
def countTo (table : Table) (n low high : Nat) : Nat :=
  if low < high then
    let middle := low + (high - low) / 2
    if (table.runs[middle]?).any (·.first ≤ n) then table.countTo n (middle + 1) high
    else table.countTo n low middle
  else low
termination_by high - low

/-- The run that holds the character numbered `n`. -/
def find? (table : Table) (n : Nat) : Option Run :=
  (table.runs[table.countTo n 0 table.runs.size - 1]?).filter (·.holds n)

/-- Some run holds the character. -/
def holds (table : Table) (c : Char) : Bool := (table.find? c.toNat).isSome

/-- What the table has for a run with the character. -/
def values? (table : Table) (c : Char) : Option (List Nat) :=
  (table.find? c.toNat).map (·.values)

/-- The characters that stand for `c`. -/
def images? (table : Table) (c : Char) : Option (List Char) :=
  (table.find? c.toNat).map fun run => (run.images c.toNat).map Char.ofNat

end Table

end BeanBridge.Unicode
