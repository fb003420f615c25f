import BeanBridge.BeanName.Basic

/-! Reading bean names.  The text splits at its first colon; the entries behind it are read one by
one, and the first flaw found ends the reading. -/

namespace BeanBridge.BeanName

/-- Why a text is no bean name. -/
inductive Flaw where
  | noDomain
  | domainCharacter
  | noEntries
  | repeatedStar
  | badEntry
  | duplicateKey
  | trailingComma
  | noEquals
  | emptyKey
  | keyCharacter
  | emptyValue
  | valueCharacter
  | badEscape
  | newlineInQuotes
  | textAfterQuote
  | unterminatedQuote
  deriving DecidableEq

/-- The flaw in words. -/
def Flaw.reason : Flaw → String
  | noDomain => "missing domain separator ':'"
  | domainCharacter => "invalid character in domain"
  | noEntries => "key properties cannot be empty"
  | repeatedStar => "repeated '*' in key list"
  | badEntry => "invalid key"
  | duplicateKey => "duplicate key"
  | trailingComma => "trailing ','"
  | noEquals => "property without '='"
  | emptyKey => "empty key"
  | keyCharacter => "invalid character in key"
  | emptyValue => "empty value"
  | valueCharacter => "invalid character in value"
  | badEscape => "invalid escape in quoted value"
  | newlineInQuotes => "newline in quoted value"
  | textAfterQuote => "text after closing quote"
  | unterminatedQuote => "unterminated quoted value"

def Flaw.message (flaw : Flaw) (text : String) : String :=
  "invalid bean name '" ++ text ++ "': " ++ flaw.reason

/-- A character that a domain cannot hold. -/
def endsDomain (c : Char) : Bool := c == '\n' || c == '=' || c == ','

/-- A character that a key cannot hold. -/
def spoilsKey (c : Char) : Bool :=
  c == ',' || c == ':' || c == '*' || c == '?' || c == '"' || c == '\n'

/-- A character that an unquoted value cannot hold. -/
def spoilsValue (c : Char) : Bool := c == '=' || c == ':' || c == '"' || c == '\n'

/-- A character that a backslash may come before. -/
def isEscapable (c : Char) : Bool :=
  c == '"' || c == '\\' || c == '*' || c == '?' || c == 'n'

/-- The text before the first `c` and the text behind it. -/
def splitAt? (c : Char) : List Char → Option (List Char × List Char)
  | [] => none
  | d :: text =>
    if d = c then some ([], text)
    else (splitAt? c text).map fun (before, after) => (d :: before, after)

/-- Nothing is left of the list of entries, or the next entry follows. -/
def atEntryEnd : List Char → Bool
  | [] => true
  | c :: _ => c == ','

/-- A value as written, whether it holds a wildcard, and the text behind it. -/
structure ReadValue where
  written : List Char
  wildcard : Bool
  rest : List Char

/-- Puts characters in front of a value. -/
def ReadValue.after (written : List Char) (wildcard : Bool) (value : ReadValue) : ReadValue :=
  ⟨written ++ value.written, wildcard || value.wildcard, value.rest⟩

/-- The rest of a quoted value, after its opening quote: up to and with the closing one. -/
def quotedTail : List Char → Except Flaw ReadValue
  | [] => .error .unterminatedQuote
  | '"' :: rest =>
    if atEntryEnd rest then .ok ⟨['"'], false, rest⟩ else .error .textAfterQuote
  | '\\' :: c :: rest =>
    if isEscapable c then (quotedTail rest).map (ReadValue.after ['\\', c] false)
    else .error .badEscape
  | c :: rest =>
    if c = '\n' then .error .newlineInQuotes
    else (quotedTail rest).map (ReadValue.after [c] (isWildcard c))

/-- The value at the start of the text, behind its equals sign. -/
def readValue : List Char → Except Flaw ReadValue
  | '"' :: text => (quotedTail text).map (ReadValue.after ['"'] false)
  | text =>
    let value := text.takeWhile (· != ',')
    if value.isEmpty then .error .emptyValue
    else if value.any spoilsValue then .error .valueCharacter
    else .ok ⟨value, value.any isWildcard, text.dropWhile (· != ',')⟩

/-- The property at the start of the text, and the text behind it. -/
def readProperty (text : List Char) : Except Flaw (Property × List Char) :=
  match splitAt? '=' text with
  | none => .error .noEquals
  | some (key, text) =>
    if key.isEmpty then .error .emptyKey
    else if key.any spoilsKey then .error .keyCharacter
    else (readValue text).map fun value =>
      (⟨String.ofList key, String.ofList value.written, value.wildcard⟩, value.rest)

theorem length_of_splitAt? {c : Char} {text before after : List Char}
    (h : splitAt? c text = some (before, after)) : after.length < text.length := by
  induction text generalizing before with
  | nil => simp [splitAt?] at h
  | cons d text ih =>
    by_cases hd : d = c
    · simp only [splitAt?, hd, if_pos, Option.some.injEq, Prod.mk.injEq] at h
      simp [← h.2]
    · simp only [splitAt?, hd, if_false, Option.map_eq_some_iff, Prod.exists,
        Prod.mk.injEq] at h
      obtain ⟨_, _, hsplit, -, rfl⟩ := h
      exact Nat.lt_succ_of_lt (ih hsplit)

/-- A successful mapped read comes from a read. -/
theorem map_ok {α β : Type} {read : Except Flaw α} {f : α → β} {b : β}
    (h : read.map f = .ok b) : ∃ a, read = .ok a ∧ f a = b := by
  cases read with
  | error e => simp [Except.map] at h
  | ok a => exact ⟨a, rfl, by simpa [Except.map] using h⟩

theorem length_of_quotedTail {text : List Char} {read : ReadValue}
    (h : quotedTail text = .ok read) : read.rest.length ≤ text.length := by
  fun_induction quotedTail text generalizing read with
  | case1 | case3 | case5 | case6 => simp at h
  | case2 rest _ =>
    simp only [Except.ok.injEq] at h
    simp [← h]
  | case4 c rest _ ih =>
    obtain ⟨tail, htail, rfl⟩ := map_ok h
    have hle := ih htail
    simp only [ReadValue.after, List.length_cons]
    omega
  | case7 c rest _ _ _ ih =>
    obtain ⟨tail, htail, rfl⟩ := map_ok h
    have hle := ih htail
    simp only [ReadValue.after, List.length_cons]
    omega

theorem length_of_readValue {text : List Char} {read : ReadValue}
    (h : readValue text = .ok read) : read.rest.length ≤ text.length := by
  unfold readValue at h
  split at h
  · next text =>
    obtain ⟨tail, htail, rfl⟩ := map_ok h
    have hle := length_of_quotedTail htail
    simp only [ReadValue.after, List.length_cons]
    omega
  · dsimp only at h
    split at h
    · simp at h
    · split at h
      · simp at h
      · simp only [Except.ok.injEq] at h
        simpa [← h] using (List.dropWhile_suffix _).length_le

theorem length_of_readProperty {text rest : List Char} {property : Property}
    (h : readProperty text = .ok (property, rest)) : rest.length < text.length := by
  unfold readProperty at h
  split at h
  · simp at h
  · next key after hsplit =>
    split at h
    · simp at h
    · split at h
      · simp at h
      · obtain ⟨read, hread, heq⟩ := map_ok h
        simp only [Prod.mk.injEq] at heq
        rw [← heq.2]
        exact Nat.lt_of_le_of_lt (length_of_readValue hread) (length_of_splitAt? hsplit)

mutual

/-- Reads the entries at the start of the text, which holds at least one, after the properties
read before. -/
def readEntries (properties : List Property) (isOpen : Bool) (text : List Char) :
    Except Flaw (List Property × Bool) :=
  match text with
  | '*' :: rest =>
    if isOpen then .error .repeatedStar
    else if atEntryEnd rest then readNext properties true rest
    else .error .badEntry
  | text =>
    match _h : readProperty text with
    | .error flaw => .error flaw
    | .ok (property, rest) =>
      if properties.any (·.key == property.key) then .error .duplicateKey
      else readNext (properties ++ [property]) isOpen rest
termination_by 2 * text.length
decreasing_by
  · simp
    omega
  · have := length_of_readProperty _h
    omega

/-- Goes on behind an entry: the next one follows a comma. -/
def readNext (properties : List Property) (isOpen : Bool) (text : List Char) :
    Except Flaw (List Property × Bool) :=
  match text with
  | [','] => .error .trailingComma
  | ',' :: rest => readEntries properties isOpen rest
  | _ => .ok (properties, isOpen)
termination_by 2 * text.length + 1

end

/-- The bean name that the text spells. -/
def parse (text : String) : Except Flaw BeanName :=
  match splitAt? ':' text.toList with
  | none => .error .noDomain
  | some (domain, entries) =>
    if domain.any endsDomain then .error .domainCharacter
    else if entries.isEmpty then .error .noEntries
    else (readEntries [] false entries).map fun (properties, isOpen) =>
      ⟨String.ofList domain, properties, isOpen⟩

end BeanBridge.BeanName
