import Mathlib.Data.List.Forall2
import Mathlib.Data.List.Nodup
import Mathlib.Logic.Relation
import BeanBridge.Proofs.MessagePack.Grammar
import BeanBridge.Proofs.MessagePack.Members

/-! The layouts of items, and what a peer may do to an item without changing what it says.  In the
map of a record the entries may change places, entries that name nothing there may join them, and
a field may be left out that holds its usual value.  The fields change within in the same way. -/

namespace BeanBridge.MessagePack

/-- How the items of one kind are laid out, and the single changes that a peer may make to one. -/
structure Layout where
  fits : Item → Prop
  change : Item → Item → Prop
  keeps : ∀ {item item' : Item}, fits item → change item item' → fits item'

namespace Layout

/-- Items that are not changed. -/
def rigid (fits : Item → Prop) : Layout where
  fits := fits
  change _ _ := False
  keeps _ h := h.elim

/-- Any item, as it is. -/
def value : Layout := rigid fun _ => True

theorem fits_value (item : Item) : value.fits item := trivial

/-- The name of a variant, as a text. -/
def word : Layout := rigid fun item => ∃ name, item = .ofString name

/-- Arrays, in which one item changes at a time. -/
def list (layout : Layout) : Layout where
  fits item := ∃ items, item = .array items ∧ ∀ inner ∈ items, layout.fits inner
  change item item' := ∃ front inner inner' back, layout.change inner inner' ∧
    item = .array (front ++ inner :: back) ∧ item' = .array (front ++ inner' :: back)
  keeps := by
    rintro _ _ ⟨items, rfl, hFits⟩ ⟨front, inner, inner', back, hChange, hItems, rfl⟩
    obtain rfl := Item.array.inj hItems
    obtain ⟨hFront, hRest⟩ := List.forall_mem_append.mp hFits
    obtain ⟨hInner, hBack⟩ := List.forall_mem_cons.mp hRest
    have hRest' := List.forall_mem_cons.mpr ⟨layout.keeps hInner hChange, hBack⟩
    exact ⟨_, rfl, List.forall_mem_append.mpr ⟨hFront, hRest'⟩⟩

/-- The second item is the first, or the first with one change. -/
def Alike (layout : Layout) (item item' : Item) : Prop :=
  layout.fits item ∧ (item = item' ∨ layout.change item item')

theorem Alike.eq_of_rigid {fits : Item → Prop} {item item' : Item}
    (h : (rigid fits).Alike item item') : item = item' :=
  h.2.resolve_right id

/-- What is read of an item is read after a change, and whether or not the item was set aside. -/
def Respects {α : Type} (layout : Layout) (read : Reading → Item → Option α) : Prop :=
  ∀ reading reading' ⦃item item' value⦄, layout.Alike item item' →
    read reading item = some value → read reading' item' = some value

/-- The second payload is the first with any number of changes, in any spelling, and either may
have more bytes behind its item. -/
def Presents (layout : Layout) (payload payload' : ByteArray) : Prop :=
  ∃ item item', Begins payload item ∧ layout.fits item ∧
    Relation.ReflTransGen layout.change item item' ∧ Begins payload' item'

end Layout

/-- A field of a record. -/
structure Field where
  name : String
  layout : Layout
  /-- The values for which the field may be left out. -/
  usual : Item → Prop

namespace Field

/-- A field that may not be left out. -/
def required (name : String) (layout : Layout) : Field := ⟨name, layout, fun _ => False⟩

/-- A text, which may be left out if it is empty. -/
def text (name : String) : Field := ⟨name, .value, fun item => item.string? = some ""⟩

/-- What a field holds before and after a change of its record. -/
inductive Alike (field : Field) : Option Item → Option Item → Prop
  | absent : Alike field none none
  | present {value value' : Item} :
      field.layout.Alike value value' → Alike field (some value) (some value')
  | dropped {value : Item} : field.usual value → Alike field (some value) none

end Field

/-- The fields of a record, each under a name of its own. -/
structure Record where
  fields : List Field
  nodup : (fields.map Field.name).Nodup

namespace Record

/-- A record of one field. -/
def single (name : String) (layout : Layout) : Record :=
  ⟨[.required name layout], List.nodup_singleton name⟩

variable (record : Record)

def names : List String := record.fields.map Field.name

def Fits (members : List (String × Item)) : Prop :=
  ∀ field ∈ record.fields, ∀ value ∈ valuesAt field.name members, field.layout.fits value

/-- The single changes of a record.  A change of the first member is one of any, for the members
may change places before and after. -/
inductive Change : List (String × Item) → List (String × Item) → Prop
  | reorder {members members' : List (String × Item)} :
      members.Perm members' → Change members members'
  | add {members : List (String × Item)} {name : String} (value : Item) :
      name ∉ record.names → Change members ((name, value) :: members)
  | drop {members : List (String × Item)} {field : Field} {value : Item} :
      field ∈ record.fields → field.usual value → Change ((field.name, value) :: members) members
  | inside {members : List (String × Item)} {field : Field} {value value' : Item} :
      field ∈ record.fields → field.layout.change value value' →
      Change ((field.name, value) :: members) ((field.name, value') :: members)

variable {record} {members members' : List (String × Item)} {field field' : Field}

theorem eq_of_name_eq (h : field ∈ record.fields) (h' : field' ∈ record.fields)
    (hName : field.name = field'.name) : field = field' :=
  List.inj_on_of_nodup_map record.nodup h h' hName

theorem ne_of_notMem_names {name : String} (h : field ∈ record.fields)
    (hName : name ∉ record.names) : name ≠ field.name := by
  rintro rfl
  exact hName (List.mem_map_of_mem h)

theorem Change.keeps (h : record.Change members members') (hFits : record.Fits members) :
    record.Fits members' := by
  intro field hField value hValue
  cases h with
  | reorder hPerm => exact hFits field hField value ((valuesAt_perm hPerm).mem_iff.mpr hValue)
  | add _ hName =>
    rw [valuesAt_cons_of_ne (ne_of_notMem_names hField hName)] at hValue
    exact hFits field hField value hValue
  | drop _ _ => exact hFits field hField value (valuesAt_subset_cons _ hValue)
  | @inside members other _ _ hOther hChange =>
    by_cases hName : other.name = field.name
    · obtain rfl := eq_of_name_eq hOther hField hName
      have hAll := hFits other hField
      rw [valuesAt_cons_self] at hAll hValue
      rcases List.mem_cons.mp hValue with rfl | hValue
      · exact other.layout.keeps (hAll _ List.mem_cons_self) hChange
      · exact hAll value (List.mem_cons_of_mem _ hValue)
    · rw [valuesAt_cons_of_ne hName] at hValue
      exact hFits field hField value (valuesAt_subset_cons _ hValue)

/-- The record as a map from the names to the values, among which other entries may stand. -/
def layout (record : Record) : Layout where
  fits item := ∃ members, item = .ofFields members ∧ record.Fits members
  change item item' := ∃ members members', record.Change members members' ∧
    item = .ofFields members ∧ item' = .ofFields members'
  keeps := by
    rintro _ _ ⟨members, rfl, hFits⟩ ⟨_, members', hChange, hItem, rfl⟩
    obtain rfl := Item.ofFields_injective hItem
    exact ⟨members', rfl, hChange.keeps hFits⟩

/-- Members fit a record of fields that may hold anything. -/
theorem fits_of_values (h : ∀ field ∈ record.fields, field.layout = .value)
    (members : List (String × Item)) : record.Fits members := by
  intro field hField value _
  rw [h field hField]
  exact Layout.fits_value value

/-- A record of all its fields in their order fits when each of them does. -/
theorem fits_ofFields (hNames : members.map Prod.fst = record.names)
    (h : List.Forall₂ (fun field value => field.layout.fits value) record.fields
      (members.map Prod.snd)) :
    record.layout.fits (.ofFields members) := by
  refine ⟨members, rfl, fun field hField value hValue => ?_⟩
  obtain ⟨member, hMember, rfl⟩ := List.mem_map.mp hValue
  obtain ⟨hMember, hName⟩ := List.mem_filter.mp hMember
  obtain ⟨position, hPosition⟩ := List.mem_iff_getElem?.mp hMember
  have hAt : record.names[position]? = some field.name := by
    rw [← hNames, List.getElem?_map, hPosition, Option.map_some, eq_of_beq hName]
  rw [names, List.getElem?_map] at hAt
  obtain ⟨other, hOther, hSame⟩ := Option.map_eq_some_iff.mp hAt
  obtain rfl := eq_of_name_eq (List.mem_of_getElem? hOther) hField hSame
  have hValueAt : (members.map Prod.snd)[position]? = some member.2 := by
    rw [List.getElem?_map, hPosition, Option.map_some]
  have hZip : (other, member.2) ∈ record.fields.zip (members.map Prod.snd) :=
    List.mem_of_getElem? (List.getElem?_zip_eq_some.mpr ⟨hOther, hValueAt⟩)
  exact (List.forall₂_iff_zip.mp h).2 hZip

end Record

/-- The members name a variant under the key, once and as a text, for which the table has the
record. -/
structure NamesVariant (tagKey : String) (table : List (String × Record)) (tag : String)
    (record : Record) (members : List (String × Item)) : Prop where
  lookup : table.lookup tag = some record
  values : valuesAt tagKey members = [.ofString tag]

namespace NamesVariant

variable {tagKey tag tag' : String} {table : List (String × Record)} {record record' : Record}
  {members : List (String × Item)}

theorem mem (h : NamesVariant tagKey table tag record members) : (tag, record) ∈ table := by
  obtain ⟨before, after, rfl, -⟩ := List.lookup_eq_some_iff.mp h.lookup
  simp

theorem unique (h : NamesVariant tagKey table tag record members)
    (h' : NamesVariant tagKey table tag' record' members) : record = record' := by
  have hTag := Item.ofString_injective (List.singleton_inj.mp (h.values.symm.trans h'.values))
  subst hTag
  exact Option.some.inj (h.lookup.symm.trans h'.lookup)

end NamesVariant

/-- A map that names its variant under one key.  The other entries are those of the record that
the table has for the variant; their changes leave the variant as it is. -/
def Layout.tagged (tagKey : String) (table : List (String × Record)) : Layout where
  fits item := ∃ tag record members, NamesVariant tagKey table tag record members ∧
    record.Fits members ∧ item = .ofFields members
  change item item' := ∃ tag record members members',
    NamesVariant tagKey table tag record members ∧
    NamesVariant tagKey table tag record members' ∧ record.Change members members' ∧
    item = .ofFields members ∧ item' = .ofFields members'
  keeps := by
    rintro _ _ ⟨_, _, members, hNames, hFits, rfl⟩
      ⟨tag, record, _, members', hNames', hKept, hChange, hItem, rfl⟩
    obtain rfl := Item.ofFields_injective hItem
    obtain rfl := hNames.unique hNames'
    exact ⟨tag, _, members', hKept, hChange.keeps hFits, rfl⟩

/-- A map with the name of a variant under one key and its content, if any, under another. -/
def Layout.adjacent (tagKey contentKey : String) (table : List (String × Layout)) : Layout :=
  .tagged tagKey (table.map fun variant => (variant.1, .single contentKey variant.2))

theorem Layout.lookup_single {contentKey tag : String} (table : List (String × Layout)) :
    (table.map fun variant => (variant.1, Record.single contentKey variant.2)).lookup tag =
      (table.lookup tag).map (.single contentKey) := by
  induction table with
  | nil => rfl
  | cons variant table ih =>
    rw [List.map_cons, List.lookup_cons, List.lookup_cons, ih]
    split <;> rfl

/-! ### What a change leaves of the values -/

/-- A field that may not be left out holds something before a change just when it does after. -/
theorem Field.Alike.rel {name : String} {layout : Layout} {value value' : Option Item}
    (h : (required name layout).Alike value value') : Option.Rel layout.Alike value value' := by
  cases h with
  | absent => exact .none
  | present hAlike => exact .some hAlike
  | dropped hUsual => exact hUsual.elim

namespace Record

variable {record : Record} {members members' : List (String × Item)}

/-- A field that is there at most once stays so, and its value stays, changes or is left out. -/
def Match (record : Record) (members members' : List (String × Item)) : Prop :=
  ∀ field ∈ record.fields, ∀ value : Option Item, valuesAt field.name members = value.toList →
    ∃ value' : Option Item, valuesAt field.name members' = value'.toList ∧ field.Alike value value'

theorem Fits.alike {field : Field} {value : Option Item} (h : record.Fits members)
    (hField : field ∈ record.fields) (hValue : valuesAt field.name members = value.toList) :
    field.Alike value value := by
  cases value with
  | none => exact .absent
  | some value => exact .present ⟨h field hField value (hValue ▸ List.mem_cons_self), .inl rfl⟩

theorem Fits.match (h : record.Fits members) : record.Match members members :=
  fun _ hField value hValue => ⟨value, hValue, h.alike hField hValue⟩

theorem Change.match (h : record.Change members members') (hFits : record.Fits members) :
    record.Match members members' := by
  intro field hField value hValue
  have hSame := hFits.alike hField hValue
  cases h with
  | reorder hPerm =>
    refine ⟨value, ?_, hSame⟩
    have hValues := hValue ▸ valuesAt_perm hPerm
    cases value with
    | none => exact hValues.nil_eq.symm
    | some value => exact hValues.singleton_eq.symm
  | add _ hName =>
    refine ⟨value, ?_, hSame⟩
    rwa [valuesAt_cons_of_ne (ne_of_notMem_names hField hName)]
  | @drop _ other held hOther hUsual =>
    by_cases hName : other.name = field.name
    · obtain rfl := eq_of_name_eq hOther hField hName
      rw [valuesAt_cons_self] at hValue
      cases value with
      | none => nomatch hValue
      | some value =>
        obtain ⟨rfl, hNone⟩ := List.cons.inj hValue
        exact ⟨none, hNone, .dropped hUsual⟩
    · rw [valuesAt_cons_of_ne hName] at hValue
      exact ⟨value, hValue, hSame⟩
  | @inside _ other held held' hOther hChange =>
    by_cases hName : other.name = field.name
    · obtain rfl := eq_of_name_eq hOther hField hName
      have hHeld := hFits other hField
      rw [valuesAt_cons_self] at hValue hHeld
      cases value with
      | none => nomatch hValue
      | some value =>
        obtain ⟨rfl, hNone⟩ := List.cons.inj hValue
        refine ⟨some held', ?_, .present ⟨hHeld _ List.mem_cons_self, .inr hChange⟩⟩
        rw [valuesAt_cons_self, hNone]
        rfl
    · rw [valuesAt_cons_of_ne hName] at hValue
      refine ⟨value, ?_, hSame⟩
      rwa [valuesAt_cons_of_ne hName]

theorem exists_of_alike {item item' : Item} (h : record.layout.Alike item item') :
    ∃ members members', item = .ofFields members ∧ item' = .ofFields members' ∧
      record.Match members members' := by
  obtain ⟨⟨members, rfl, hFits⟩, rfl | ⟨_, members', hChange, hItem, rfl⟩⟩ := h
  · exact ⟨members, members, rfl, rfl, hFits.match⟩
  · obtain rfl := Item.ofFields_injective hItem
    exact ⟨members, members', rfl, rfl, hChange.match hFits⟩

end Record

/-- Items that are alike name the same variant, and the other members are those of its record. -/
theorem Layout.exists_of_tagged_alike {tagKey : String} {table : List (String × Record)}
    {item item' : Item} (h : (tagged tagKey table).Alike item item') :
    ∃ tag record members members', NamesVariant tagKey table tag record members ∧
      NamesVariant tagKey table tag record members' ∧ record.Match members members' ∧
      item = .ofFields members ∧ item' = .ofFields members' := by
  obtain ⟨⟨tag, record, members, hNames, hFits, rfl⟩,
    rfl | ⟨tag', record', _, members', hNames', hKept, hChange, hItem, rfl⟩⟩ := h
  · exact ⟨tag, record, members, members, hNames, hNames, hFits.match, rfl, rfl⟩
  · obtain rfl := Item.ofFields_injective hItem
    obtain rfl := hNames.unique hNames'
    exact ⟨tag', _, members, members', hNames', hKept, hChange.match hFits, rfl, rfl⟩

/-! ### Fields that are read -/

section

variable {α : Type}

theorem Layout.respects_rigid {fits : Item → Prop} {read : Reading → Item → Option α}
    (h : ∀ {item}, fits item → ∀ reading reading', read reading item = read reading' item) :
    (rigid fits).Respects read := by
  intro reading reading' item item' value hAlike hRead
  rw [← hAlike.eq_of_rigid]
  exact (h hAlike.1 reading' reading).trans hRead

theorem Layout.respects_value (read : Item → Option α) : value.Respects fun _ => read :=
  respects_rigid fun _ _ _ => rfl

theorem Layout.Respects.bind {layout : Layout} {read : Reading → Item → Option α}
    (h : layout.Respects read) (reading reading' : Reading) {held held' : Option Item} {value : α}
    (hHeld : Option.Rel layout.Alike held held') (hValue : held.bind (read reading) = some value) :
    held'.bind (read reading') = some value := by
  cases hHeld with
  | none => nomatch hValue
  | some hAlike => exact h reading reading' hAlike hValue

end

namespace Record

variable {record : Record} {members members' : List (String × Item)} {found found' : Fields}

/-- What is held by the fields of a record that are read before and after a change. -/
def Agree (record : Record) (found found' : Fields) : Prop :=
  ∀ ⦃position : Nat⦄ ⦃field : Field⦄, record.fields[position]? = some field →
    field.Alike (found.get? position) (found'.get? position)

theorem Match.fields? {reading : Reading} (h : record.Match members members')
    (hFound : (Item.ofFields members).fields? reading record.names = some found)
    (reading' : Reading) :
    ∃ found', (Item.ofFields members').fields? reading' record.names = some found' ∧
      record.Agree found found' := by
  have hHolds : found.Holds record.names members := Fields.holds_of_ofEntries? record.nodup hFound
  -- What each field holds afterwards, told by the members.
  have hAfter {position : Nat} {field : Field} (hField : record.fields[position]? = some field) :
      ∃ value' : Option Item, valuesAt field.name members' = value'.toList ∧
        field.Alike (found.get? position) value' :=
    h field (List.mem_of_getElem? hField) _
      (hHolds (by rw [names, List.getElem?_map, hField, Option.map_some]))
  have hOnce : ∀ name ∈ record.names, (valuesAt name members').length ≤ 1 := by
    intro name hName
    obtain ⟨field, hField, rfl⟩ := List.mem_map.mp hName
    obtain ⟨position, hPosition⟩ := List.mem_iff_getElem?.mp hField
    obtain ⟨value', hValue', -⟩ := hAfter hPosition
    rw [hValue']
    exact Option.length_toList_le
  obtain ⟨found', hFound'⟩ := Fields.exists_ofEntries? reading' record.nodup hOnce
  have hHolds' : found'.Holds record.names members' :=
    Fields.holds_of_ofEntries? record.nodup hFound'
  refine ⟨found', hFound', fun position field hField => ?_⟩
  obtain ⟨value', hValue', hAlike⟩ := hAfter hField
  have hGet := hHolds' (show record.names[position]? = some field.name by
    rw [names, List.getElem?_map, hField, Option.map_some])
  have hSame := congrArg List.head? (hGet.symm.trans hValue')
  rw [Option.head?_toList, Option.head?_toList] at hSame
  rwa [hSame]

/-- The fields of a record are read after a change, too. -/
theorem fields?_of_alike {reading : Reading} {item item' : Item}
    (h : record.layout.Alike item item')
    (hFound : item.fields? reading record.names = some found) (reading' : Reading) :
    ∃ found', item'.fields? reading' record.names = some found' ∧ record.Agree found found' := by
  obtain ⟨members, members', rfl, rfl, hMatch⟩ := exists_of_alike h
  exact hMatch.fields? hFound reading'

section Agree

variable {α : Type} {position : Nat} {name : String} (h : record.Agree found found')
include h

theorem Agree.required {read : Reading → Item → Option α} {layout : Layout} {value : α}
    (reading reading' : Reading) (hField : record.fields[position]? = some (.required name layout))
    (hRead : layout.Respects read) (hValue : found.required position (read reading) = some value) :
    found'.required position (read reading') = some value :=
  hRead.bind reading reading' (h hField).rel hValue

theorem Agree.withDefault {read : Reading → Item → Option α} {field : Field} {usual value : α}
    (reading reading' : Reading) (hField : record.fields[position]? = some field)
    (hRead : field.layout.Respects read)
    (hUsual : ∀ reading item, field.usual item → read reading item = some usual)
    (hValue : found.withDefault position usual (read reading) = some value) :
    found'.withDefault position usual (read reading') = some value := by
  have hAlike := h hField
  rw [Fields.withDefault] at hValue ⊢
  generalize found.get? position = before at hAlike hValue
  generalize found'.get? position = after at hAlike ⊢
  cases hAlike with
  | absent => exact hValue
  | present hPresent => exact hRead reading reading' hPresent hValue
  | dropped hItem => exact (hUsual _ _ hItem).symm.trans hValue

/-- `Agree.required` for a value that is read in one way only. -/
theorem Agree.requiredValue {read : Item → Option α} {value : α}
    (hField : record.fields[position]? = some (.required name .value))
    (hValue : found.required position read = some value) :
    found'.required position read = some value :=
  h.required .direct .direct hField (Layout.respects_value read) hValue

theorem Agree.text {value : String} (hField : record.fields[position]? = some (.text name))
    (hValue : found.withDefault position "" Item.string? = some value) :
    found'.withDefault position "" Item.string? = some value :=
  h.withDefault .direct .direct hField (Layout.respects_value _) (fun _ _ hEmpty => hEmpty) hValue

end Agree

end Record

/-! ### Readers that respect a layout -/

/-- What is written presents itself, changed any number of times and with bytes behind it. -/
theorem Layout.presents_encode {layout : Layout} {item item' : Item}
    (h : item.Canonical maxDepth) (hSize : item.encode.size < 2 ^ 32)
    (h' : item'.Canonical maxDepth) (hSize' : item'.encode.size < 2 ^ 32)
    (hFits : layout.fits item) (hRun : Relation.ReflTransGen layout.change item item')
    (rest : ByteArray) : layout.Presents item.encode (item'.encode ++ rest) := by
  have hDecode := decode?_encode h hSize .empty
  rw [ByteArray.append_empty] at hDecode
  have hDecode' := decode?_encode h' hSize' rest
  exact ⟨item, item', decode?_eq_some_iff.mp hDecode, hFits, hRun,
    decode?_eq_some_iff.mp hDecode'⟩

namespace Layout

variable {α : Type} {layout : Layout}

theorem forall₂_of_list_alike {item item' : Item} (h : layout.list.Alike item item') :
    ∃ items items', item = .array items ∧ item' = .array items' ∧
      List.Forall₂ layout.Alike items items' := by
  have hSame {items : List Item} (hFits : ∀ inner ∈ items, layout.fits inner) :
      List.Forall₂ layout.Alike items items :=
    List.forall₂_same.mpr fun inner hInner => ⟨hFits inner hInner, .inl rfl⟩
  obtain ⟨⟨items, rfl, hFits⟩, rfl | ⟨front, inner, inner', back, hChange, hItems, rfl⟩⟩ := h
  · exact ⟨items, items, rfl, rfl, hSame hFits⟩
  · obtain rfl := Item.array.inj hItems
    obtain ⟨hFront, hRest⟩ := List.forall_mem_append.mp hFits
    obtain ⟨hInner, hBack⟩ := List.forall_mem_cons.mp hRest
    exact ⟨_, _, rfl, rfl,
      List.rel_append (hSame hFront) (.cons ⟨hInner, .inr hChange⟩ (hSame hBack))⟩

theorem Respects.list {read : Reading → Item → Option α} (h : layout.Respects read) :
    layout.list.Respects fun reading item => item.list? reading (read reading) := by
  intro reading reading' item item' values hAlike hRead
  obtain ⟨items, items', rfl, rfl, hItems⟩ := forall₂_of_list_alike hAlike
  have hMap : items.mapM (read reading) = some values := by
    cases reading <;> exact hRead
  have hMap' : items'.mapM (read reading') = some values := by
    clear hAlike hRead
    induction hItems generalizing values with
    | nil => exact hMap
    | cons hInner _ ih =>
      simp only [List.mapM_cons, Option.bind_eq_bind, Option.bind_eq_some_iff] at hMap ⊢
      obtain ⟨value, hValue, rest, hRest, hValues⟩ := hMap
      exact ⟨value, h reading reading' hInner hValue, rest, ih hRest, hValues⟩
  cases reading' <;> exact hMap'

/-- What is read of an item is read after any number of changes. -/
theorem Respects.run {read : Reading → Item → Option α} (h : layout.Respects read)
    {reading : Reading} {item item' : Item} {value : α}
    (hRun : Relation.ReflTransGen layout.change item item') (hFits : layout.fits item)
    (hRead : read reading item = some value) : read reading item' = some value := by
  have hBoth : layout.fits item' ∧ read reading item' = some value := by
    induction hRun with
    | refl => exact ⟨hFits, hRead⟩
    | tail _ hChange ih =>
      exact ⟨layout.keeps ih.1 hChange, h reading reading ⟨ih.1, .inr hChange⟩ ih.2⟩
  exact hBoth.2

theorem Respects.decode? {read : Reading → Item → Option α} (h : layout.Respects read)
    (reading : Reading) {payload payload' : ByteArray} {value : α}
    (hPresents : layout.Presents payload payload')
    (hDecode : (MessagePack.decode? payload).bind (read reading) = some value) :
    (MessagePack.decode? payload').bind (read reading) = some value := by
  obtain ⟨item, item', hBegins, hFits, hRun, hBegins'⟩ := hPresents
  rw [decode?_eq_some_iff.mpr hBegins, Option.bind_some] at hDecode
  rw [decode?_eq_some_iff.mpr hBegins', Option.bind_some]
  exact h.run hRun hFits hDecode

end Layout

end BeanBridge.MessagePack
