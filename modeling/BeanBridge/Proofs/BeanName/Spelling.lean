import BeanBridge.BeanName.Parser

/-! How bean names are spelled.  A spelling is a domain and a list of entries, each a lone star or a
clause `key=value`; a value is bare or quoted, and a quoted one is made of characters and escapes.
The parts of a spelling are kept apart by what may not stand in them, so a text has one spelling at
most. -/

namespace BeanBridge.BeanName

/-- None of the characters is in the text. -/
def Free (spoilers text : List Char) : Prop := ∀ c ∈ text, c ∉ spoilers

instance (spoilers text : List Char) : Decidable (Free spoilers text) :=
  List.decidableBAll _ text

/-- A part of a quoted value: a character, or a character behind a backslash. -/
inductive QuotedPart where
  | plain (c : Char)
  | escaped (c : Char)
  deriving DecidableEq

namespace QuotedPart

def text : QuotedPart → List Char
  | plain c => [c]
  | escaped c => ['\\', c]

def WellFormed : QuotedPart → Prop
  | plain c => c ∉ ['"', '\\', '\n']
  | escaped c => c ∈ ['"', '\\', '*', '?', 'n']

/-- A backslash makes a wildcard literal. -/
def isWildcard : QuotedPart → Bool
  | plain c => BeanName.isWildcard c
  | escaped _ => false

instance : DecidablePred WellFormed
  | plain c => inferInstanceAs (Decidable (c ∉ ['"', '\\', '\n']))
  | escaped c => inferInstanceAs (Decidable (c ∈ ['"', '\\', '*', '?', 'n']))

end QuotedPart

/-- The value of a clause. -/
inductive SpelledValue where
  | bare (text : List Char)
  | quoted (parts : List QuotedPart)
  deriving DecidableEq

namespace SpelledValue

/-- The value as written, quotes included. -/
def text : SpelledValue → List Char
  | bare text => text
  | quoted parts => '"' :: (parts.flatMap QuotedPart.text ++ ['"'])

def WellFormed : SpelledValue → Prop
  | bare text => text ≠ [] ∧ Free [',', '=', ':', '"', '\n'] text
  | quoted parts => ∀ part ∈ parts, part.WellFormed

/-- Some star or question mark in it is not escaped.  Nothing is escaped outside of quotes. -/
def hasWildcard : SpelledValue → Bool
  | bare text => text.any BeanName.isWildcard
  | quoted parts => parts.any QuotedPart.isWildcard

instance : DecidablePred WellFormed
  | bare text => inferInstanceAs (Decidable (text ≠ [] ∧ Free [',', '=', ':', '"', '\n'] text))
  | quoted parts => inferInstanceAs (Decidable (∀ part ∈ parts, part.WellFormed))

end SpelledValue

/-- An entry `key=value`. -/
structure Clause where
  key : List Char
  value : SpelledValue
  deriving DecidableEq

namespace Clause

def text (clause : Clause) : List Char := clause.key ++ '=' :: clause.value.text

structure WellFormed (clause : Clause) : Prop where
  key_ne_nil : clause.key ≠ []
  key_free : Free [',', ':', '=', '*', '?', '"', '\n'] clause.key
  value : clause.value.WellFormed

instance : DecidablePred WellFormed := fun clause =>
  decidable_of_iff (clause.key ≠ [] ∧ Free [',', ':', '=', '*', '?', '"', '\n'] clause.key ∧
    clause.value.WellFormed) ⟨fun h => ⟨h.1, h.2.1, h.2.2⟩, fun h => ⟨h.1, h.2, h.3⟩⟩

/-- The property that a clause gives. -/
def property (clause : Clause) : Property :=
  ⟨String.ofList clause.key, String.ofList clause.value.text, clause.value.hasWildcard⟩

end Clause

/-- One of the entries behind the domain. -/
inductive SpelledEntry where
  | star
  | clause (clause : Clause)
  deriving DecidableEq

namespace SpelledEntry

def text : SpelledEntry → List Char
  | star => ['*']
  | clause c => c.text

def WellFormed : SpelledEntry → Prop
  | star => True
  | clause c => c.WellFormed

instance : DecidablePred WellFormed
  | star => inferInstanceAs (Decidable True)
  | clause c => inferInstanceAs (Decidable c.WellFormed)

/-- The clauses among entries, in order. -/
def clauses : List SpelledEntry → List Clause
  | [] => []
  | star :: entries => clauses entries
  | clause c :: entries => c :: clauses entries

end SpelledEntry

/-- A bean name by its parts. -/
structure Spelling where
  domain : List Char
  entries : List SpelledEntry
  deriving DecidableEq

namespace Spelling

/-- The clauses in the order written. -/
def clauses (spelling : Spelling) : List Clause := SpelledEntry.clauses spelling.entries

def text (spelling : Spelling) : List Char :=
  spelling.domain ++ ':' :: [','].intercalate (spelling.entries.map SpelledEntry.text)

/-- The parts hold what they may, there is an entry, one star at most, and no key comes twice. -/
structure WellFormed (spelling : Spelling) : Prop where
  domain : Free [':', '\n', '=', ','] spelling.domain
  entries_ne_nil : spelling.entries ≠ []
  entries : ∀ entry ∈ spelling.entries, entry.WellFormed
  star : spelling.entries.count .star ≤ 1
  keys : (spelling.clauses.map Clause.key).Nodup

instance : DecidablePred WellFormed := fun spelling =>
  decidable_of_iff (Free [':', '\n', '=', ','] spelling.domain ∧ spelling.entries ≠ [] ∧
    (∀ entry ∈ spelling.entries, entry.WellFormed) ∧ spelling.entries.count .star ≤ 1 ∧
    (spelling.clauses.map Clause.key).Nodup)
    ⟨fun h => ⟨h.1, h.2.1, h.2.2.1, h.2.2.2.1, h.2.2.2.2⟩, fun h => ⟨h.1, h.2, h.3, h.4, h.5⟩⟩

/-- The name that is spelled. -/
def name (spelling : Spelling) : BeanName where
  domain := String.ofList spelling.domain
  properties := spelling.clauses.map Clause.property
  isOpen := spelling.entries.contains .star

/-- The text is spelled like this. -/
def Spells (spelling : Spelling) (text : String) : Prop :=
  spelling.WellFormed ∧ spelling.text = text.toList

instance (spelling : Spelling) (text : String) : Decidable (spelling.Spells text) :=
  inferInstanceAs (Decidable (_ ∧ _))

end Spelling

end BeanBridge.BeanName
