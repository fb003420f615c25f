import BeanBridge.Proofs.Protocol.Layouts

/-! Decoding respects the layouts of requests, responses and settings.  What is read of a payload
is read of it however a peer presents it: whether content comes before or after the name of its
variant, with entries that are not known here, without fields that hold their usual values, and
with more bytes behind it. -/

namespace BeanBridge

open MessagePack

/-! ### Variants and what they hold -/

section Variants

variable {reading : Reading} {item item' : Item}

/-- The entry of a table for the name of a variant is in the place of that name. -/
theorem getElem?_of_mem_table {β : Type _} {table : List (String × β)} {variants : List String}
    {tag : String} {entry : β} {position : Nat} (hTable : table.map Prod.fst = variants)
    (hNodup : variants.Nodup) (hTag : variants[position]? = some tag)
    (hEntry : (tag, entry) ∈ table) : table[position]? = some (tag, entry) := by
  subst hTable
  obtain ⟨found, hFound⟩ := List.mem_iff_getElem?.mp hEntry
  have hFoundTag : (table.map Prod.fst)[found]? = some tag := by
    rw [List.getElem?_map, hFound, Option.map_some]
  have hLt := (List.getElem?_eq_some_iff.mp hFoundTag).1
  obtain rfl := (List.getElem?_inj hLt hNodup).mp (hFoundTag.trans hTag.symm)
  exact hFound

theorem tagged?_ofFields_eq_some_iff {tagKey contentKey : String} {variants : List String}
    {members : List (String × Item)} {variant : Nat} {content : Option Item} :
    tagged? tagKey contentKey variants (.ofFields members) = some (variant, content, reading) ↔
      ∃ found, (Item.ofFields members).fields? .direct [tagKey, contentKey] = some found ∧
        found.required 0 (·.plainVariant? variants .direct) = some variant ∧
        found.get? 1 = content ∧
        (if comesFirst [tagKey, contentKey] 1
            (members.map fun member => (Item.ofString member.1, member.2)) then Reading.aside
          else .direct) = reading := by
  simp [tagged?, Item.ofFields, Item.fields?, Option.bind_eq_some_iff]

/-- A variant is found after a change, too, with content that is alike; only whether the content
is set aside may differ. -/
theorem tagged?_of_alike {tagKey contentKey : String} {table : List (String × Layout)}
    {variants : List String} (hTable : table.map Prod.fst = variants) (hVariants : variants.Nodup)
    (hKeys : [tagKey, contentKey].Nodup)
    (hAlike : (Layout.adjacent tagKey contentKey table).Alike item item')
    {variant : Nat} {content : Option Item}
    (hTagged : tagged? tagKey contentKey variants item = some (variant, content, reading)) :
    ∃ tag layout content' reading', table[variant]? = some (tag, layout) ∧
      tagged? tagKey contentKey variants item' = some (variant, content', reading') ∧
      Option.Rel layout.Alike content content' := by
  obtain ⟨_, record, members, members', hNames, hNames', hMatch, rfl, rfl⟩ :=
    Layout.exists_of_tagged_alike hAlike
  obtain ⟨⟨tag, layout⟩, hLayout, hEntry⟩ := List.mem_map.mp hNames.mem
  obtain ⟨rfl, rfl⟩ : tag = _ ∧ .single contentKey layout = record := Prod.mk.inj hEntry
  obtain ⟨found, hFound, hVariant, rfl, -⟩ := tagged?_ofFields_eq_some_iff.mp hTagged
  -- The tag is one more field of the record.
  let envelope : Record := ⟨[.required tagKey .word, .required contentKey layout], hKeys⟩
  have hEnvelope : envelope.Match members members' := by
    intro field hField value hValue
    rcases List.mem_cons.mp hField with rfl | hField
    · have hSome : value = some (.ofString tag) := by
        have hHead := congrArg List.head? (hValue.symm.trans hNames.values)
        rwa [Option.head?_toList] at hHead
      subst hSome
      exact ⟨some (.ofString tag), hNames'.values, .present ⟨⟨tag, rfl⟩, .inl rfl⟩⟩
    · exact hMatch field hField value hValue
  obtain ⟨found', hFound', hAgree⟩ := hEnvelope.fields? hFound .direct
  have hPosition : variants[variant]? = some tag := by
    have hHolds := Fields.holds_of_ofEntries? hKeys hFound (show _[0]? = some tagKey from rfl)
    have hGet := congrArg List.head? (hHolds.symm.trans hNames.values)
    rw [Option.head?_toList] at hGet
    rw [Fields.required, hGet] at hVariant
    exact Item.getElem?_of_variant?_ofString hVariants hVariant
  have hWord : Layout.word.Respects fun _ => (·.plainVariant? variants .direct) :=
    Layout.respects_rigid fun _ _ _ => rfl
  refine ⟨tag, layout, found'.get? 1, _, getElem?_of_mem_table hTable hVariants hPosition hLayout,
    tagged?_ofFields_eq_some_iff.mpr ⟨found', hFound', ?_, rfl, rfl⟩, ?_⟩
  · have hField : envelope.fields[0]? = some (.required tagKey .word) := rfl
    exact hAgree.required .direct .direct hField hWord hVariant
  · exact (hAgree (show envelope.fields[1]? = some (.required contentKey layout) from rfl)).rel

/-- A variant among the members is found after a change, too, and the other members match. -/
theorem inlineTagged?_of_alike {table : List (String × Record)} {variants : List String}
    (hTable : table.map Prod.fst = variants) (hVariants : variants.Nodup)
    (hKeys : ∀ variant ∈ table, "type" ∉ variant.2.names)
    (hAlike : (Layout.tagged "type" table).Alike item item') {variant : Nat} {rest : Item}
    (hTagged : inlineTagged? reading variants item = some (variant, rest)) (reading' : Reading) :
    ∃ tag record rest', table[variant]? = some (tag, record) ∧
      inlineTagged? reading' variants item' = some (variant, rest') ∧
      ∀ found, rest.fields? .aside record.names = some found →
        ∃ found', rest'.fields? .aside record.names = some found' ∧ record.Agree found found' := by
  obtain ⟨tag, record, members, members', hNames, hNames', hMatch, rfl, rfl⟩ :=
    Layout.exists_of_tagged_alike hAlike
  rw [ReplyError.inlineTagged?_ofFields hNames.values] at hTagged
  obtain ⟨_, hVariant, hRest⟩ := Option.map_eq_some_iff.mp hTagged
  obtain ⟨rfl, rfl⟩ := Prod.mk.inj hRest
  have hPosition := Item.getElem?_of_variant?_ofString hVariants hVariant
  have hOthers : record.Match (ReplyError.besidesType members)
      (ReplyError.besidesType members') := by
    intro field hField
    have hNe : "type" ≠ field.name := by
      intro hEq
      exact hKeys _ hNames.mem (hEq ▸ List.mem_map_of_mem hField)
    rw [ReplyError.besidesType, ReplyError.besidesType, valuesAt_filter_ne hNe,
      valuesAt_filter_ne hNe]
    exact hMatch field hField
  refine ⟨tag, record, .ofFields (ReplyError.besidesType members'),
    getElem?_of_mem_table hTable hVariants hPosition hNames.mem, ?_, ?_⟩
  · rw [ReplyError.inlineTagged?_ofFields hNames'.values,
      Item.variant?_ofString hVariants hPosition, Option.map_some]
  · exact fun found hFound => hOthers.fields? hFound .aside

end Variants

section Content

variable {content content' : Option Item}

/-- Content that is not changed is what it was. -/
theorem eq_of_rel_value (h : Option.Rel Layout.value.Alike content content') :
    content = content' := by
  cases h with
  | none => rfl
  | some hAlike => rw [hAlike.eq_of_rigid]

theorem parameters?_of_alike {record : Record} {reading : Reading} {found : Fields}
    (h : Option.Rel record.layout.Alike content content')
    (hFound : parameters? reading record.names content = some found) (reading' : Reading) :
    ∃ found', parameters? reading' record.names content' = some found' ∧
      record.Agree found found' := by
  cases h with
  | none => nomatch hFound
  | some hAlike =>
    obtain ⟨members, members', rfl, rfl, hMatch⟩ := Record.exists_of_alike hAlike
    exact hMatch.fields? hFound reading'

end Content

/-! ### Settings -/

namespace Config

/-- What is read of a field that may be left out. -/
def heldOr {φ α : Type} (usual : α) (read : φ → Option α) : Option φ → Option α
  | none => some usual
  | some field => read field

theorem ofFields_eq {φ : Type} (reader : Reader φ) (field? : Nat → Option φ) :
    ofFields reader field? = (do
      some {
        url := ← heldOr "" reader.text? (field? 0)
        host := ← heldOr "" reader.text? (field? 1)
        port := ← heldOr 0 (fun field => reader.whole? field >>= port?) (field? 2)
        path := ← heldOr "" reader.text? (field? 3)
        user := ← heldOr "" reader.text? (field? 4)
        password := ← heldOr "" reader.text? (field? 5)
        keyStore := ← heldOr "" reader.text? (field? 6)
        keyStorePassword := ← heldOr "" reader.text? (field? 7)
        trustStore := ← heldOr "" reader.text? (field? 8)
        trustStorePassword := ← heldOr "" reader.text? (field? 9)
        isRemote := ← heldOr false reader.flag? (field? 10)
        isStandalone := ← heldOr false reader.flag? (field? 11)
        useTls := ← heldOr false reader.flag? (field? 12)
        requestTimeout := ← heldOr 0 (fun field => reader.whole? field >>= int64?) (field? 13)
        verbose := ← heldOr false reader.flag? (field? 14)
        recordsStats := ← heldOr false reader.flag? (field? 15)
        statsCapacity := ← heldOr 0 (fun field => reader.whole? field >>= int64?) (field? 16) }) :=
  rfl

theorem heldOr_of_alike {α : Type} {name : String} {usualItem : Item → Prop} {usual : α}
    {read : Item → Option α} {held held' : Option Item}
    (h : Field.Alike ⟨name, .value, usualItem⟩ held held')
    (hUsual : ∀ item, usualItem item → read item = some usual) :
    heldOr usual read held = heldOr usual read held' := by
  cases h with
  | absent => rfl
  | present hAlike => rw [hAlike.eq_of_rigid]
  | dropped hItem => exact hUsual _ hItem

/-- Settings are the same whatever way their fields are laid out. -/
theorem ofFields_of_agree {found found' : Fields} (h : record.Agree found found') :
    ofFields itemReader found.get? = ofFields itemReader found'.get? := by
  have hText (position : Nat) {name : String}
      (hField : record.fields[position]? = some (.text name)) :
      heldOr "" itemReader.text? (found.get? position) =
        heldOr "" itemReader.text? (found'.get? position) :=
    heldOr_of_alike (h hField) fun _ => id
  have hFlag (position : Nat) {name : String}
      (hField : record.fields[position]? = some (flagField name)) :
      heldOr false itemReader.flag? (found.get? position) =
        heldOr false itemReader.flag? (found'.get? position) :=
    heldOr_of_alike (h hField) fun _ => id
  have hNumber {α : Type} {zero : α} {read : Int → Option α} (hZero : read 0 = some zero)
      (position : Nat) {name : String}
      (hField : record.fields[position]? = some (numberField name)) :
      heldOr zero (fun field => itemReader.whole? field >>= read) (found.get? position) =
        heldOr zero (fun field => itemReader.whole? field >>= read) (found'.get? position) := by
    refine heldOr_of_alike (h hField) fun item hItem => ?_
    show item.whole? >>= read = some zero
    rw [hItem, Option.bind_eq_bind, Option.bind_some, hZero]
  have hPort : port? 0 = some 0 := rfl
  have hWhole : int64? 0 = some 0 := rfl
  rw [ofFields_eq, ofFields_eq, hText 0 rfl, hText 1 rfl, hNumber hPort 2 rfl, hText 3 rfl,
    hText 4 rfl, hText 5 rfl, hText 6 rfl, hText 7 rfl, hText 8 rfl, hText 9 rfl, hFlag 10 rfl,
    hFlag 11 rfl, hFlag 12 rfl, hNumber hWhole 13 rfl, hFlag 14 rfl, hFlag 15 rfl,
    hNumber hWhole 16 rfl]

theorem respects_layout : layout.Respects ofItem? := by
  intro reading reading' item item' config hAlike hRead
  obtain ⟨found, hFound, hConfig⟩ := Option.bind_eq_some_iff.mp hRead
  obtain ⟨found', hFound', hAgree⟩ := Record.fields?_of_alike hAlike hFound reading'
  rw [ofFields_of_agree hAgree] at hConfig
  exact Option.bind_eq_some_iff.mpr ⟨found', hFound', hConfig⟩

end Config

/-! ### Requests -/

namespace Request

section

variable {record : Record} {found found' : Fields} {position : Nat}
  (h : record.Agree found found')
include h

theorem timeoutField_of_agree {value : Option Int64}
    (hField : record.fields[position]? = some timeout)
    (hValue : timeoutField found position = some value) :
    timeoutField found' position = some value := by
  refine h.withDefault .direct .direct hField (Layout.respects_value _) ?_ hValue
  rintro _ _ rfl
  rfl

theorem attributesField_of_agree {reading : Reading} {names : List String}
    (hField : record.fields[position]? = some attributes)
    (hNames : attributesField reading found position = some names) (reading' : Reading) :
    attributesField reading' found' position = some names := by
  refine h.withDefault reading reading' hField (Layout.respects_value _).list ?_ hNames
  rintro reading _ rfl
  cases reading <;> rfl

end

theorem respects_layout : layout.Respects fun _ => ofItem? := by
  intro _ _ item item' request hAlike hRead
  obtain ⟨⟨variant, content, reading⟩, hTagged, hContent⟩ := Option.bind_eq_some_iff.mp hRead
  obtain ⟨tag, layout, content', reading', hLayout, hTagged', hAlike⟩ :=
    tagged?_of_alike (show contents.map Prod.fst = methods from rfl) nodup_methods (by decide)
      hAlike hTagged
  refine Option.bind_eq_some_iff.mpr ⟨_, hTagged', ?_⟩
  match variant, hLayout with
  | 0, hLayout | 1, hLayout | 3, hLayout | 9, hLayout =>
    cases hLayout
    obtain rfl := eq_of_rel_value hAlike
    exact hContent
  | 2, hLayout =>
    cases hLayout
    simp only [Option.bind_eq_bind, Option.bind_eq_some_iff] at hContent ⊢
    obtain ⟨found, hFound, config, hConfig, timeout, hTimeout, hRequest⟩ := hContent
    obtain ⟨found', hFound', hAgree⟩ := parameters?_of_alike hAlike hFound reading'
    exact ⟨found', hFound', config,
      hAgree.required reading reading' rfl Config.respects_layout hConfig, timeout,
      timeoutField_of_agree hAgree rfl hTimeout, hRequest⟩
  | 4, hLayout =>
    cases hLayout
    simp only [Option.bind_eq_bind, Option.bind_eq_some_iff] at hContent ⊢
    obtain ⟨found, hFound, pattern, hPattern, timeout, hTimeout, hRequest⟩ := hContent
    obtain ⟨found', hFound', hAgree⟩ := parameters?_of_alike hAlike hFound reading'
    exact ⟨found', hFound', pattern, hAgree.requiredValue rfl hPattern, timeout,
      timeoutField_of_agree hAgree rfl hTimeout, hRequest⟩
  | 5, hLayout =>
    cases hLayout
    simp only [Option.bind_eq_bind, Option.bind_eq_some_iff] at hContent ⊢
    obtain ⟨found, hFound, bean, hBean, timeout, hTimeout, hRequest⟩ := hContent
    obtain ⟨found', hFound', hAgree⟩ := parameters?_of_alike hAlike hFound reading'
    exact ⟨found', hFound', bean, hAgree.requiredValue rfl hBean, timeout,
      timeoutField_of_agree hAgree rfl hTimeout, hRequest⟩
  | 6, hLayout =>
    cases hLayout
    simp only [Option.bind_eq_bind, Option.bind_eq_some_iff] at hContent ⊢
    obtain ⟨found, hFound, bean, hBean, name, hName, timeout, hTimeout, hRequest⟩ := hContent
    obtain ⟨found', hFound', hAgree⟩ := parameters?_of_alike hAlike hFound reading'
    exact ⟨found', hFound', bean, hAgree.requiredValue rfl hBean, name,
      hAgree.requiredValue rfl hName, timeout,
      timeoutField_of_agree hAgree rfl hTimeout, hRequest⟩
  | 7, hLayout =>
    cases hLayout
    simp only [Option.bind_eq_bind, Option.bind_eq_some_iff] at hContent ⊢
    obtain ⟨found, hFound, bean, hBean, names, hNames, timeout, hTimeout, hRequest⟩ := hContent
    obtain ⟨found', hFound', hAgree⟩ := parameters?_of_alike hAlike hFound reading'
    exact ⟨found', hFound', bean, hAgree.requiredValue rfl hBean, names,
      attributesField_of_agree hAgree rfl hNames reading', timeout,
      timeoutField_of_agree hAgree rfl hTimeout, hRequest⟩
  | 8, hLayout =>
    cases hLayout
    simp only [Option.bind_eq_bind, Option.bind_eq_some_iff] at hContent ⊢
    obtain ⟨found, hFound, pattern, hPattern, names, hNames, timeout, hTimeout, hRequest⟩ :=
      hContent
    obtain ⟨found', hFound', hAgree⟩ := parameters?_of_alike hAlike hFound reading'
    exact ⟨found', hFound', pattern, hAgree.requiredValue rfl hPattern, names,
      attributesField_of_agree hAgree rfl hNames reading', timeout,
      timeoutField_of_agree hAgree rfl hTimeout, hRequest⟩
  | n + 10, hLayout => nomatch hLayout

end Request

/-! ### Responses -/

theorem Scalar.respects_layout :
    layout.Respects fun reading => Item.nullable (ofItem? reading) := by
  refine Layout.respects_rigid fun {item} hFits reading reading' => ?_
  have hScalar : ofItem? reading item = ofItem? reading' item := by
    unfold ofItem?
    split
    · obtain ⟨name, rfl⟩ := hFits _ _ rfl
      rfl
    · rfl
  unfold Item.nullable
  split
  · rfl
  · rw [hScalar]

theorem EntryKind.respects_word : Layout.word.Respects ofItem? := by
  refine Layout.respects_rigid ?_
  rintro _ ⟨name, rfl⟩ reading reading'
  cases reading <;> cases reading' <;> rfl

namespace Entry

theorem respects_layout : layout.Respects ofItem? := by
  intro reading reading' item item' entry hAlike hRead
  simp only [ofItem?, Option.bind_eq_bind, Option.bind_eq_some_iff] at hRead ⊢
  obtain ⟨found, hFound, name, hName, kind, hKind, value, hValue, status, hStatus, hEntry⟩ := hRead
  obtain ⟨found', hFound', hAgree⟩ := Record.fields?_of_alike hAlike hFound reading'
  have hNil (reading : Reading) (item : Item) (hItem : item = .nil) :
      item.nullable (Scalar.ofItem? reading) = some none := by
    subst hItem
    rfl
  have hValue' := hAgree.withDefault reading reading' (show record.fields[2]? = some _ from rfl)
    Scalar.respects_layout hNil hValue
  exact ⟨found', hFound', name, hAgree.requiredValue rfl hName,
    kind, hAgree.required reading reading' rfl EntryKind.respects_word hKind, value, hValue',
    status, hAgree.text rfl hStatus, hEntry⟩

end Entry

namespace Stat

theorem respects_layout : layout.Respects ofItem? := by
  intro reading reading' item item' stat hAlike hRead
  simp only [ofItem?, Option.bind_eq_bind, Option.bind_eq_some_iff] at hRead ⊢
  obtain ⟨found, hFound, kind, hKind, bean, hBean, names, hNames, count, hCount, duration,
    hDuration, start, hStart, successful, hSuccessful, hStat⟩ := hRead
  obtain ⟨found', hFound', hAgree⟩ := Record.fields?_of_alike hAlike hFound reading'
  exact ⟨found', hFound', kind, hAgree.requiredValue rfl hKind,
    bean, hAgree.requiredValue rfl hBean,
    names, hAgree.required reading reading' rfl (Layout.respects_value _).list hNames,
    count, hAgree.requiredValue rfl hCount, duration, hAgree.requiredValue rfl hDuration,
    start, hAgree.requiredValue rfl hStart, successful, hAgree.requiredValue rfl hSuccessful,
    hStat⟩

end Stat

namespace ReplyError

theorem respects_layout : layout.Respects ofItem? := by
  intro reading reading' item item' error hAlike hRead
  obtain ⟨⟨variant, rest⟩, hTagged, hRest⟩ := Option.bind_eq_some_iff.mp hRead
  obtain ⟨tag, record, rest', hRecord, hTagged', hFields⟩ :=
    inlineTagged?_of_alike (show contents.map Prod.fst = _ from rfl) (by decide) (by decide)
      hAlike hTagged reading'
  refine Option.bind_eq_some_iff.mpr ⟨_, hTagged', ?_⟩
  match variant, hRecord with
  | 0, hRecord | 2, hRecord =>
    cases hRecord
    simp only [Option.bind_eq_bind, Option.bind_eq_some_iff] at hRest ⊢
    obtain ⟨found, hFound, message, hMessage, hError⟩ := hRest
    obtain ⟨found', hFound', hAgree⟩ := hFields found hFound
    exact ⟨found', hFound', message, hAgree.requiredValue rfl hMessage, hError⟩
  | 1, hRecord =>
    cases hRecord
    simp only [Option.bind_eq_bind, Option.bind_eq_some_iff] at hRest ⊢
    obtain ⟨found, hFound, message, hMessage, cause, hCause, trace, hTrace, hError⟩ := hRest
    obtain ⟨found', hFound', hAgree⟩ := hFields found hFound
    exact ⟨found', hFound', message, hAgree.requiredValue rfl hMessage,
      cause, hAgree.text rfl hCause, trace, hAgree.text rfl hTrace, hError⟩
  | n + 3, hRecord => nomatch hRecord

end ReplyError

namespace Response

theorem respects_layout : layout.Respects fun _ => ofItem? := by
  intro _ _ item item' response hAlike hRead
  obtain ⟨⟨variant, content, reading⟩, hTagged, hContent⟩ := Option.bind_eq_some_iff.mp hRead
  obtain ⟨tag, layout, content', reading', hLayout, hTagged', hAlike⟩ :=
    tagged?_of_alike (show contents.map Prod.fst = kinds from rfl) nodup_kinds (by decide)
      hAlike hTagged
  refine Option.bind_eq_some_iff.mpr ⟨_, hTagged', ?_⟩
  match variant, hLayout with
  | 0, hLayout | 1, hLayout | 2, hLayout | 3, hLayout =>
    cases hLayout
    obtain rfl := eq_of_rel_value hAlike
    exact hContent
  | 4, hLayout | 5, hLayout =>
    cases hLayout
    obtain ⟨names, hNames, rfl⟩ := Option.map_eq_some_iff.mp hContent
    have hNames' := (Layout.respects_value Item.string?).list.bind reading reading' hAlike hNames
    exact Option.map_eq_some_iff.mpr ⟨names, hNames', rfl⟩
  | 6, hLayout =>
    cases hLayout
    obtain ⟨entries, hEntries, rfl⟩ := Option.map_eq_some_iff.mp hContent
    have hEntries' := Entry.respects_layout.list.bind reading reading' hAlike hEntries
    exact Option.map_eq_some_iff.mpr ⟨entries, hEntries', rfl⟩
  | 7, hLayout =>
    cases hLayout
    obtain ⟨records, hRecords, rfl⟩ := Option.map_eq_some_iff.mp hContent
    have hRecords' := Stat.respects_layout.list.bind reading reading' hAlike hRecords
    exact Option.map_eq_some_iff.mpr ⟨records, hRecords', rfl⟩
  | 8, hLayout =>
    cases hLayout
    obtain ⟨failure, hFailure, rfl⟩ := Option.map_eq_some_iff.mp hContent
    have hFailure' := ReplyError.respects_layout.bind reading reading' hAlike hFailure
    exact Option.map_eq_some_iff.mpr ⟨failure, hFailure', rfl⟩
  | n + 9, hLayout => nomatch hLayout

end Response

/-! ### Frames -/

namespace RequestFrame

theorem respects_layout : layout.Respects fun _ => ofItem? := by
  intro _ _ item item' frame hAlike hRead
  simp only [ofItem?, Option.bind_eq_bind, Option.bind_eq_some_iff] at hRead ⊢
  obtain ⟨found, hFound, id, hId, request, hRequest, hFrame⟩ := hRead
  obtain ⟨found', hFound', hAgree⟩ := Record.fields?_of_alike hAlike hFound .direct
  exact ⟨found', hFound', id, hAgree.requiredValue rfl hId,
    request, hAgree.required .direct .direct rfl Request.respects_layout hRequest, hFrame⟩

/-- A request with its content before its name, its timeout left out and an unknown entry in its
content. -/
theorem run_rearranged (id : UInt64) (text : String) :
    Relation.ReflTransGen layout.change (toItem ⟨id, .beanNames text none⟩)
      (.ofFields [("request", .ofFields
          [("params", .ofFields [("trace", .array [.nil]), ("pattern", .ofString text)]),
            ("method", .ofString "queryMBeanNames")]),
        ("id", .ofUInt64 id)]) := by
  let record : Record := ⟨[.required "pattern" .value, Request.timeout], by decide⟩
  let pattern : String × Item := ("pattern", .ofString text)
  let method : String × Item := ("method", .ofString "queryMBeanNames")
  have hSwap : record.layout.change (.ofFields [pattern, ("timeoutMs", .nil)])
      (.ofFields [("timeoutMs", .nil), pattern]) := ⟨_, _, .reorder (.swap ..), rfl, rfl⟩
  have hDrop : record.layout.change (.ofFields [("timeoutMs", .nil), pattern])
      (.ofFields [pattern]) :=
    ⟨_, _, .drop (List.mem_cons_of_mem _ List.mem_cons_self : Request.timeout ∈ _) rfl, rfl, rfl⟩
  have hAdd : record.layout.change (.ofFields [pattern])
      (.ofFields [("trace", .array [.nil]), pattern]) :=
    ⟨_, _, .add (.array [.nil]) (by decide), rfl, rfl⟩
  have hParams : Relation.ReflTransGen Request.layout.change (Request.toItem (.beanNames text none))
      (.ofFields [("params", .ofFields [("trace", .array [.nil]), pattern]), method]) := by
    have hInside {item item' : Item} (h : record.layout.change item item') :
        Request.layout.change (.ofFields [("params", item), method])
          (.ofFields [("params", item'), method]) :=
      ⟨"queryMBeanNames", .single "params" record.layout, _, _, ⟨rfl, rfl⟩, ⟨rfl, rfl⟩,
        .inside List.mem_cons_self h, rfl, rfl⟩
    refine .head ?_ (.head (hInside hSwap) (.head (hInside hDrop) (.single (hInside hAdd))))
    exact ⟨"queryMBeanNames", .single "params" record.layout, _, _, ⟨rfl, rfl⟩, ⟨rfl, rfl⟩,
      .reorder (.swap ..), rfl, rfl⟩
  have hInside := hParams.lift
    (fun request => Item.ofFields [("request", request), ("id", .ofUInt64 id)])
    fun _ _ hChange => show layout.change _ _ from
      ⟨_, _, .inside (List.mem_cons_of_mem _ List.mem_cons_self) hChange, rfl, rfl⟩
  exact .head ⟨_, _, .reorder (.swap ..), rfl, rfl⟩ hInside

end RequestFrame

namespace ResponseFrame

theorem respects_layout : layout.Respects fun _ => ofItem? := by
  intro _ _ item item' frame hAlike hRead
  simp only [ofItem?, Option.bind_eq_bind, Option.bind_eq_some_iff] at hRead ⊢
  obtain ⟨found, hFound, id, hId, response, hResponse, hFrame⟩ := hRead
  obtain ⟨found', hFound', hAgree⟩ := Record.fields?_of_alike hAlike hFound .direct
  exact ⟨found', hFound', id, hAgree.requiredValue rfl hId,
    response, hAgree.required .direct .direct rfl Response.respects_layout hResponse, hFrame⟩

end ResponseFrame

/-- A payload that presents what another does decodes to the same, be it a request, a response or
settings. -/
theorem decode?_of_presents :
    (∀ payload payload' frame, RequestFrame.layout.Presents payload payload' →
      RequestFrame.decode? payload = some frame → RequestFrame.decode? payload' = some frame) ∧
    (∀ payload payload' frame, ResponseFrame.layout.Presents payload payload' →
      ResponseFrame.decode? payload = some frame → ResponseFrame.decode? payload' = some frame) ∧
    (∀ payload payload' config, Config.layout.Presents payload payload' →
      Config.decode? payload = some config → Config.decode? payload' = some config) := by
  refine ⟨?_, ?_, ?_⟩
  · intro payload payload' frame hPresents hDecode
    exact RequestFrame.respects_layout.decode? .direct hPresents hDecode
  · intro payload payload' frame hPresents hDecode
    exact ResponseFrame.respects_layout.decode? .direct hPresents hDecode
  · intro payload payload' config hPresents hDecode
    exact Config.respects_layout.decode? .direct hPresents hDecode

/-- A request that is rearranged, a response whose number comes last, and settings that leave out
a port of zero and say something that is not known, each with a byte behind it. -/
theorem decode?_of_presents_rearranged :
    let request : RequestFrame := ⟨1, .beanNames "*:*" none⟩
    let request' : ByteArray := (Item.ofFields [("request", .ofFields
        [("params", .ofFields [("trace", .array [.nil]), ("pattern", .ofString "*:*")]),
          ("method", .ofString "queryMBeanNames")]),
      ("id", .ofUInt64 1)]).encode ++ ⟨#[0xc1]⟩
    let response : ResponseFrame := ⟨2, .version "1"⟩
    let response' : ByteArray := (Item.ofFields
      [("response", response.response.toItem), ("id", .ofUInt64 2)]).encode ++ ⟨#[0xc1]⟩
    let config : ByteArray := (Item.ofFields [("port", .ofUInt64 0)]).encode
    let config' : ByteArray := (Item.ofFields [("mode", .nil)]).encode ++ ⟨#[0xc1]⟩
    RequestFrame.layout.Presents request.encode request' ∧
      RequestFrame.decode? request.encode = some request ∧
      RequestFrame.decode? request' = some request ∧
    ResponseFrame.layout.Presents response.encode response' ∧
      ResponseFrame.decode? response.encode = some response ∧
      ResponseFrame.decode? response' = some response ∧
    Config.layout.Presents config config' ∧
      Config.decode? config = some {} ∧ Config.decode? config' = some {} := by
  intro request request' response response' config config'
  have hRequest : RequestFrame.layout.Presents request.encode request' := by
    refine Layout.presents_encode (.ofFields ?_) (by decide +kernel) (.ofFields ?_)
      (by decide +kernel) request.fits_toItem (RequestFrame.run_rearranged 1 "*:*") _
    · simp only [List.forall_mem_cons]
      exact ⟨.ofUInt64 _, request.request.canonical_toItem, List.forall_mem_nil _⟩
    · simp only [List.forall_mem_cons]
      refine ⟨.ofFields ?_, .ofUInt64 _, List.forall_mem_nil _⟩
      simp only [List.forall_mem_cons]
      refine ⟨.ofFields ?_, .ofString _, List.forall_mem_nil _⟩
      simp only [List.forall_mem_cons]
      exact ⟨.array (List.forall_mem_singleton.mpr .nil), .ofString _, List.forall_mem_nil _⟩
  have hResponse : ResponseFrame.layout.Presents response.encode response' := by
    refine Layout.presents_encode (.ofFields ?_) (by decide +kernel) (.ofFields ?_)
      (by decide +kernel) response.fits_toItem (.single ⟨_, _, .reorder (.swap ..), rfl, rfl⟩) _
    · simp only [List.forall_mem_cons]
      exact ⟨.ofUInt64 _, response.response.canonical_toItem, List.forall_mem_nil _⟩
    · simp only [List.forall_mem_cons]
      exact ⟨response.response.canonical_toItem, .ofUInt64 _, List.forall_mem_nil _⟩
  have hConfig : Config.layout.Presents config config' := by
    refine Layout.presents_encode (.ofFields ?_) (by decide +kernel) (.ofFields ?_)
      (by decide +kernel) (Config.fits_ofFields _) ?_ _
    · exact List.forall_mem_singleton.mpr (.ofUInt64 0)
    · exact List.forall_mem_singleton.mpr .nil
    · have hZero : (Config.numberField "port").usual (.ofUInt64 0) := rfl
      have hDrop : Config.layout.change (.ofFields [("port", .ofUInt64 0)]) (.ofFields []) :=
        ⟨_, _, .drop (by simp [Config.record]) hZero, rfl, rfl⟩
      have hAdd : Config.layout.change (.ofFields []) (.ofFields [("mode", .nil)]) :=
        ⟨_, _, .add .nil (by decide), rfl, rfl⟩
      exact .head hDrop (.single hAdd)
  have hDecode : RequestFrame.decode? request.encode = some request := by decide +kernel
  have hDecode' : ResponseFrame.decode? response.encode = some response := by decide +kernel
  have hDecode'' : Config.decode? config = some {} := by decide +kernel
  exact ⟨hRequest, hDecode, decode?_of_presents.1 _ _ _ hRequest hDecode,
    hResponse, hDecode', decode?_of_presents.2.1 _ _ _ hResponse hDecode',
    hConfig, hDecode'', decode?_of_presents.2.2 _ _ _ hConfig hDecode''⟩

/-- A list that is written as empty bytes is read when the name of the variant comes first, and
not when its content does and is set aside.  A value that can be read by itself may nest too deep
for an entry, even one that would be passed over. -/
theorem decode?_limits :
    let name : String × Item := ("method", .ofString "getMBeanAttributes")
    let content : String × Item := ("params", .ofFields
      [("mbeanName", .ofString "a:b=c"), ("attributes", .binary .empty)])
    let payload (members : List (String × Item)) : ByteArray :=
      (Item.ofFields [("id", .ofUInt64 1), ("request", .ofFields members)]).encode
    let deep : List UInt8 := List.replicate 1022 0x91 ++ [0xd4, 0, 0]
    (RequestFrame.decode? (payload [name, content]) = some ⟨1, .readMany "a:b=c" [] none⟩ ∧
      RequestFrame.decode? (payload [content, name]) = none) ∧
    ((MessagePack.decode? ⟨deep.toArray⟩).isSome ∧
      Config.decode? ⟨#[0x80]⟩ = some {} ∧
      Config.decode? ⟨(0x81 :: 0xa2 :: 0x7a :: 0x7a :: deep).toArray⟩ = none) := by
  decide +kernel

end BeanBridge
