import Mathlib.Data.List.Forall2
import BeanBridge.Proofs.MessagePack.Number

/-! The grammar of MessagePack: which bytes spell which item, containers being nested to a bounded
depth.  The reader is exact for it.  It reads what is spelled at the start of the bytes, whatever
the form, it leaves what follows the spelling, and it reads nothing else. -/

namespace BeanBridge.MessagePack

/-- Which bytes spell which item. -/
abbrev Grammar := List UInt8 → Item → Prop

/-- A number in so many bytes. -/
def SpellsNumber (width : Nat) (bytes : List UInt8) (n : Nat) : Prop :=
  bytes.length = width ∧ ofBigEndian bytes = n

/-- A size in so many bytes, and then what has that size. -/
def SpellsSized (width : Nat) (grammar : Nat → Grammar) : Grammar := fun bytes item =>
  ∃ size body, bytes = size ++ body ∧ size.length = width ∧ grammar (ofBigEndian size) body item

def SpellsBytes (item : ByteArray → Item) (count : Nat) : Grammar := fun bytes value =>
  bytes.length = count ∧ item ⟨bytes.toArray⟩ = value

/-- An entry of a map: its key and then its value. -/
def SpellsEntry (grammar : Grammar) (bytes : List UInt8) (entry : Item × Item) : Prop :=
  ∃ key value, bytes = key ++ value ∧ grammar key entry.1 ∧ grammar value entry.2

section Containers

-- The grammar of what a container holds; none where containers nest too deep.
variable (inner : Option Grammar)

def SpellsItems (count : Nat) : Grammar := fun bytes item =>
  ∃ grammar ∈ inner, ∃ parts items, bytes = parts.flatten ∧ items.length = count ∧
    List.Forall₂ grammar parts items ∧ .array items = item

def SpellsEntries (count : Nat) : Grammar := fun bytes item =>
  ∃ grammar ∈ inner, ∃ parts entries, bytes = parts.flatten ∧ entries.length = count ∧
    List.Forall₂ (SpellsEntry grammar) parts entries ∧ .map entries = item

/-- The type of an extension, and so many bytes. -/
def SpellsExtension (count : Nat) : Grammar := fun bytes item =>
  inner.isSome ∧ bytes.length = 1 + count ∧ .extension = item

/-- What follows the first byte of an item. -/
def Head.Spells : Head → Grammar
  | .whole item => fun bytes value => bytes = [] ∧ item = value
  | .number width item => fun bytes value => bytes.length = width ∧ item (ofBigEndian bytes) = value
  | .bytes count item => SpellsBytes item count
  | .sizedBytes width item => SpellsSized width (SpellsBytes item)
  | .extension count => SpellsExtension inner count
  | .sizedExtension width => SpellsSized width (SpellsExtension inner)
  | .items count => SpellsItems inner count
  | .sizedItems width => SpellsSized width (SpellsItems inner)
  | .entries count => SpellsEntries inner count
  | .sizedEntries width => SpellsSized width (SpellsEntries inner)
  | .none => fun _ _ => False

end Containers

/-- The bytes spell the item, in which containers nest at most `depth` deep. -/
def Spells : (depth : Nat) → Grammar
  | _, [], _ => False
  | 0, byte :: bytes, item => (headOf byte).Spells none bytes item
  | depth + 1, byte :: bytes, item => (headOf byte).Spells (some (Spells depth)) bytes item

/-- The bytes begin with a spelling of the item, and anything may follow it. -/
def Begins (bytes : ByteArray) (item : Item) : Prop :=
  ∃ front rest, bytes.data.toList = front ++ rest ∧ Spells maxDepth front item

/-! ### Parts of an item -/

/-- The reader reads what the relation tells of at the start of the bytes, and nothing else. -/
def Exact {α : Type} (read : List UInt8 → Option (α × List UInt8))
    (spells : List UInt8 → α → Prop) : Prop :=
  ∀ bytes value rest, read bytes = some (value, rest) ↔
    ∃ front, bytes = front ++ rest ∧ spells front value

theorem take?_eq_some_iff {n : Nat} {bytes front rest : List UInt8} :
    take? n bytes = some (front, rest) ↔ bytes = front ++ rest ∧ front.length = n := by
  constructor
  · intro h
    simp only [take?, List.splitAt_eq] at h
    split at h
    · rename_i hLength
      obtain ⟨rfl, rfl⟩ := Prod.mk.inj (Option.some.inj h)
      exact ⟨(List.take_append_drop n bytes).symm, hLength⟩
    · cases h
  · rintro ⟨rfl, hLength⟩
    exact take?_append hLength rest

/-- The bytes that are taken, brought to the item they stand for. -/
theorem exact_take?_map (n : Nat) (item : List UInt8 → Item) :
    Exact (fun bytes => (take? n bytes).map fun (front, rest) => (item front, rest))
      fun bytes value => bytes.length = n ∧ item bytes = value := by
  intro bytes value rest
  constructor
  · intro h
    obtain ⟨⟨front, tail⟩, hTake, hItem⟩ := Option.map_eq_some_iff.mp h
    obtain ⟨hValue, rfl⟩ := Prod.mk.inj hItem
    obtain ⟨hBytes, hLength⟩ := take?_eq_some_iff.mp hTake
    exact ⟨front, hBytes, hLength, hValue⟩
  · rintro ⟨front, hBytes, hLength, rfl⟩
    show Option.map _ (take? n bytes) = _
    rw [take?_eq_some_iff.mpr ⟨hBytes, hLength⟩, Option.map_some]

theorem exact_readBytes (item : ByteArray → Item) (count : Nat) :
    Exact (readBytes item count) (SpellsBytes item count) :=
  exact_take?_map count fun bytes => item ⟨bytes.toArray⟩

theorem exact_number? (width : Nat) : Exact (number? width) (SpellsNumber width) := by
  intro bytes n rest
  constructor
  · intro h
    obtain ⟨⟨front, tail⟩, hTake, hNumber⟩ := Option.map_eq_some_iff.mp h
    obtain ⟨hValue, rfl⟩ := Prod.mk.inj hNumber
    obtain ⟨hBytes, hLength⟩ := take?_eq_some_iff.mp hTake
    exact ⟨front, hBytes, hLength, hValue⟩
  · rintro ⟨front, hBytes, hLength, rfl⟩
    rw [number?, take?_eq_some_iff.mpr ⟨hBytes, hLength⟩, Option.map_some]

theorem Exact.sized {read : Nat → ItemReader} {grammar : Nat → Grammar}
    (h : ∀ count, Exact (read count) (grammar count)) (width : Nat) :
    Exact (MessagePack.sized width read) (SpellsSized width grammar) := by
  intro bytes item rest
  constructor
  · intro hRead
    obtain ⟨⟨count, tail⟩, hCount, hItem⟩ := Option.bind_eq_some_iff.mp hRead
    obtain ⟨size, rfl, hWidth, rfl⟩ := (exact_number? width bytes count tail).mp hCount
    obtain ⟨body, rfl, hBody⟩ := (h _ tail item rest).mp hItem
    exact ⟨size ++ body, (List.append_assoc ..).symm, size, body, rfl, hWidth, hBody⟩
  · rintro ⟨front, rfl, size, body, rfl, hWidth, hBody⟩
    have hCount : number? width (size ++ body ++ rest) = some (ofBigEndian size, body ++ rest) :=
      (exact_number? width _ _ _).mpr ⟨size, List.append_assoc .., hWidth, rfl⟩
    have hItem : read (ofBigEndian size) (body ++ rest) = some (item, rest) :=
      (h _ _ _ _).mpr ⟨body, rfl, hBody⟩
    exact Option.bind_eq_some_iff.mpr ⟨_, hCount, hItem⟩

/-! ### Containers -/

/-- A reader of one value, repeated so many times. -/
theorem Exact.repeated {α : Type} {read : List UInt8 → Option (α × List UInt8)}
    {spells : List UInt8 → α → Prop} (h : Exact read spells)
    {loop : Nat → List α → List UInt8 → Option (List α × List UInt8)}
    (hZero : ∀ before bytes, loop 0 before bytes = some (before.reverse, bytes))
    (hSucc : ∀ count before bytes, loop (count + 1) before bytes =
      (read bytes).bind fun (value, rest) => loop count (value :: before) rest)
    {count : Nat} {before all : List α} {bytes rest : List UInt8} :
    loop count before bytes = some (all, rest) ↔
      ∃ parts values, bytes = parts.flatten ++ rest ∧ values.length = count ∧
        List.Forall₂ spells parts values ∧ before.reverse ++ values = all := by
  induction count generalizing before bytes with
  | zero =>
    rw [hZero]
    constructor
    · intro hRead
      obtain ⟨rfl, rfl⟩ := Prod.mk.inj (Option.some.inj hRead)
      exact ⟨[], [], rfl, rfl, .nil, List.append_nil _⟩
    · rintro ⟨parts, values, rfl, hLength, hParts, rfl⟩
      obtain rfl := List.length_eq_zero_iff.mp hLength
      cases hParts
      rw [List.append_nil, List.flatten_nil, List.nil_append]
  | succ count ih =>
    rw [hSucc]
    constructor
    · intro hRead
      obtain ⟨⟨value, tail⟩, hValue, hRest⟩ := Option.bind_eq_some_iff.mp hRead
      obtain ⟨part, rfl, hPart⟩ := (h _ _ _).mp hValue
      obtain ⟨parts, values, rfl, hLength, hParts, rfl⟩ := ih.mp hRest
      refine ⟨part :: parts, value :: values, ?_, congrArg (· + 1) hLength, .cons hPart hParts, ?_⟩
      · rw [List.flatten_cons, List.append_assoc]
      · rw [List.reverse_cons, List.append_assoc, List.singleton_append]
    · rintro ⟨parts, values, rfl, hLength, hParts, rfl⟩
      obtain ⟨value, values, rfl⟩ := List.exists_cons_of_length_eq_add_one hLength
      cases hParts with
      | @cons part _ parts _ hPart hParts =>
        have hValue : read ((part :: parts).flatten ++ rest) =
            some (value, parts.flatten ++ rest) :=
          (h _ _ _).mpr ⟨part, by rw [List.flatten_cons, List.append_assoc], hPart⟩
        refine Option.bind_eq_some_iff.mpr ⟨_, hValue, ih.mpr ⟨parts, values, rfl, ?_, hParts, ?_⟩⟩
        · exact Nat.succ.inj hLength
        · rw [List.reverse_cons, List.append_assoc, List.singleton_append]

theorem Exact.items? {read : ItemReader} {grammar : Grammar} (h : Exact read grammar)
    {count : Nat} {items : List Item} {bytes rest : List UInt8} :
    MessagePack.items? read count [] bytes = some (items, rest) ↔
      ∃ parts, bytes = parts.flatten ++ rest ∧ items.length = count ∧
        List.Forall₂ grammar parts items := by
  rw [h.repeated (fun _ _ => rfl) (fun _ _ _ => rfl)]
  simp

/-- A key and the value behind it. -/
theorem Exact.entry {read : ItemReader} {grammar : Grammar} (h : Exact read grammar) :
    Exact (fun bytes => (read bytes).bind fun (key, bytes) =>
        (read bytes).map fun (value, bytes) => ((key, value), bytes))
      (SpellsEntry grammar) := by
  intro bytes entry rest
  constructor
  · intro hRead
    obtain ⟨⟨key, tail⟩, hKey, hRest⟩ := Option.bind_eq_some_iff.mp hRead
    obtain ⟨⟨value, tail'⟩, hValue, hEntry⟩ := Option.map_eq_some_iff.mp hRest
    obtain ⟨rfl, rfl⟩ := Prod.mk.inj hEntry
    obtain ⟨keyPart, rfl, hKeyPart⟩ := (h _ _ _).mp hKey
    obtain ⟨valuePart, rfl, hValuePart⟩ := (h _ _ _).mp hValue
    exact ⟨keyPart ++ valuePart, (List.append_assoc ..).symm, keyPart, valuePart, rfl, hKeyPart,
      hValuePart⟩
  · rintro ⟨_, rfl, keyPart, valuePart, rfl, hKeyPart, hValuePart⟩
    have hKey : read (keyPart ++ valuePart ++ rest) = some (entry.1, valuePart ++ rest) :=
      (h _ _ _).mpr ⟨keyPart, List.append_assoc .., hKeyPart⟩
    have hValue : read (valuePart ++ rest) = some (entry.2, rest) :=
      (h _ _ _).mpr ⟨valuePart, rfl, hValuePart⟩
    exact Option.bind_eq_some_iff.mpr ⟨_, hKey, Option.map_eq_some_iff.mpr ⟨_, hValue, rfl⟩⟩

theorem Exact.entries? {read : ItemReader} {grammar : Grammar} (h : Exact read grammar)
    {count : Nat} {entries : List (Item × Item)} {bytes rest : List UInt8} :
    MessagePack.entries? read count [] bytes = some (entries, rest) ↔
      ∃ parts, bytes = parts.flatten ++ rest ∧ entries.length = count ∧
        List.Forall₂ (SpellsEntry grammar) parts entries := by
  rw [h.entry.repeated (fun _ _ => rfl) fun count before bytes => ?_]
  · simp
  · rw [MessagePack.entries?, Option.bind_eq_bind, Option.bind_assoc]
    congr 1
    funext ⟨key, tail⟩
    show _ = ((read tail).map _).bind _
    rw [Option.bind_map]
    rfl

section Containers

variable {inner : Option ItemReader} {grammar : Option Grammar} (h : Option.Rel Exact inner grammar)
include h

theorem exact_readItems (count : Nat) :
    Exact (readItems inner count) (SpellsItems grammar count) := by
  intro bytes item rest
  cases h with
  | none => simp [readItems, SpellsItems]
  | @some read spells hRead =>
    constructor
    · intro hItem
      obtain ⟨⟨items, tail⟩, hItems, hItem⟩ := Option.map_eq_some_iff.mp hItem
      obtain ⟨rfl, rfl⟩ := Prod.mk.inj hItem
      obtain ⟨parts, rfl, hLength, hParts⟩ := hRead.items?.mp hItems
      exact ⟨parts.flatten, rfl, spells, rfl, parts, items, rfl, hLength, hParts, rfl⟩
    · rintro ⟨front, rfl, _, hSome, parts, items, rfl, hLength, hParts, rfl⟩
      obtain rfl := Option.some.inj hSome
      have hItems : MessagePack.items? read count [] (parts.flatten ++ rest) = some (items, rest) :=
        hRead.items?.mpr ⟨parts, rfl, hLength, hParts⟩
      exact Option.map_eq_some_iff.mpr ⟨_, hItems, rfl⟩

theorem exact_readEntries (count : Nat) :
    Exact (readEntries inner count) (SpellsEntries grammar count) := by
  intro bytes item rest
  cases h with
  | none => simp [readEntries, SpellsEntries]
  | @some read spells hRead =>
    constructor
    · intro hItem
      obtain ⟨⟨entries, tail⟩, hEntries, hItem⟩ := Option.map_eq_some_iff.mp hItem
      obtain ⟨rfl, rfl⟩ := Prod.mk.inj hItem
      obtain ⟨parts, rfl, hLength, hParts⟩ := hRead.entries?.mp hEntries
      exact ⟨parts.flatten, rfl, spells, rfl, parts, entries, rfl, hLength, hParts, rfl⟩
    · rintro ⟨front, rfl, _, hSome, parts, entries, rfl, hLength, hParts, rfl⟩
      obtain rfl := Option.some.inj hSome
      have hEntries :
          MessagePack.entries? read count [] (parts.flatten ++ rest) = some (entries, rest) :=
        hRead.entries?.mpr ⟨parts, rfl, hLength, hParts⟩
      exact Option.map_eq_some_iff.mpr ⟨_, hEntries, rfl⟩

theorem exact_readExtension (count : Nat) :
    Exact (readExtension inner count) (SpellsExtension grammar count) := by
  intro bytes item rest
  cases h with
  | none => simp [readExtension, SpellsExtension]
  | some _ =>
    have hTake := exact_take?_map (1 + count) (fun _ => .extension) bytes item rest
    simpa [readExtension, SpellsExtension] using hTake

/-- Whatever the first byte says, what follows is read just as it is spelled. -/
theorem Head.exact_read (head : Head) : Exact (head.read inner) (head.Spells grammar) := by
  cases head with
  | whole item =>
    intro bytes value rest
    simp only [Head.read, Head.Spells, Option.some.injEq, Prod.mk.injEq]
    constructor
    · rintro ⟨rfl, rfl⟩
      exact ⟨[], rfl, rfl, rfl⟩
    · rintro ⟨front, rfl, rfl, rfl⟩
      exact ⟨rfl, rfl⟩
  | number width item =>
    have hTake := exact_take?_map width fun bytes => item (ofBigEndian bytes)
    simpa only [Head.read, Head.Spells, number?, Option.map_map, Function.comp_def] using hTake
  | bytes count item => exact exact_readBytes item count
  | sizedBytes width item => exact .sized (exact_readBytes item) width
  | extension count => exact exact_readExtension h count
  | sizedExtension width => exact .sized (exact_readExtension h) width
  | items count => exact exact_readItems h count
  | sizedItems width => exact .sized (exact_readItems h) width
  | entries count => exact exact_readEntries h count
  | sizedEntries width => exact .sized (exact_readEntries h) width
  | none =>
    intro bytes value rest
    simp [Head.read, Head.Spells]

end Containers

/-! ### Items -/

theorem exact_head {inner : Option ItemReader} {grammar : Option Grammar}
    (h : Option.Rel Exact inner grammar) {read : ItemReader} {spells : Grammar}
    (hRead : ∀ byte bytes, read (byte :: bytes) = (headOf byte).read inner bytes)
    (hSpells : ∀ byte bytes, spells (byte :: bytes) = (headOf byte).Spells grammar bytes)
    (hNone : read [] = none) (hEmpty : ∀ item, ¬spells [] item) : Exact read spells := by
  intro bytes item rest
  cases bytes with
  | nil =>
    rw [hNone]
    constructor
    · exact nofun
    · rintro ⟨front, hBytes, hFront⟩
      obtain ⟨rfl, rfl⟩ := List.append_eq_nil_iff.mp hBytes.symm
      exact absurd hFront (hEmpty item)
  | cons byte bytes =>
    rw [hRead]
    constructor
    · intro hItem
      obtain ⟨front, rfl, hFront⟩ := ((headOf byte).exact_read h _ _ _).mp hItem
      exact ⟨byte :: front, rfl, by rwa [hSpells]⟩
    · rintro ⟨front, hBytes, hFront⟩
      cases front with
      | nil => exact absurd hFront (hEmpty item)
      | cons first front =>
        obtain ⟨rfl, rfl⟩ := List.cons.inj hBytes
        rw [hSpells] at hFront
        exact ((headOf byte).exact_read h _ _ _).mpr ⟨front, rfl, hFront⟩

/-- The reader is exact for the grammar, at every depth. -/
theorem exact_item? (depth : Nat) : Exact (item? depth) (Spells depth) := by
  induction depth with
  | zero => exact exact_head .none (fun _ _ => rfl) (fun _ _ => rfl) rfl fun _ => id
  | succ depth ih => exact exact_head (.some ih) (fun _ _ => rfl) (fun _ _ => rfl) rfl fun _ => id

/-- Bytes decode to an item exactly when they begin with a spelling of it. -/
theorem decode?_eq_some_iff {bytes : ByteArray} {item : Item} :
    decode? bytes = some item ↔ Begins bytes item := by
  constructor
  · intro h
    obtain ⟨⟨_, rest⟩, hItem, rfl⟩ := Option.map_eq_some_iff.mp h
    obtain ⟨front, hBytes, hFront⟩ := (exact_item? maxDepth _ _ _).mp hItem
    exact ⟨front, rest, hBytes, hFront⟩
  · rintro ⟨front, rest, hBytes, hFront⟩
    have hItem := (exact_item? maxDepth _ _ _).mpr ⟨front, hBytes, hFront⟩
    exact Option.map_eq_some_iff.mpr ⟨_, hItem, rfl⟩

end BeanBridge.MessagePack
