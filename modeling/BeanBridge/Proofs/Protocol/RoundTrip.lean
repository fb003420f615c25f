import BeanBridge.Proofs.Frame.Stream
import BeanBridge.Proofs.MessagePack.Members
import BeanBridge.Protocol.Decoding
import BeanBridge.Protocol.Encoding

/-! Requests, responses and settings are read back from their written form, whatever bytes follow
it.  Each kind of data is read back from its item; items are read back from their bytes. -/

namespace BeanBridge

open MessagePack

/-! ### Settings -/

namespace Config

/-- The items of the settings, in the order of the fields. -/
def items (config : Config) : List Item :=
  [.ofString config.url, .ofString config.host, .ofUInt64 config.port.toUInt64,
    .ofString config.path, .ofString config.user, .ofString config.password,
    .ofString config.keyStore, .ofString config.keyStorePassword, .ofString config.trustStore,
    .ofString config.trustStorePassword, .bool config.isRemote, .bool config.isStandalone,
    .bool config.useTls, .ofInt config.requestTimeout, .bool config.verbose,
    .bool config.recordsStats, .ofInt config.statsCapacity]

theorem toItem_eq_ofFields (config : Config) :
    config.toItem = .ofFields (fieldNames.zip config.items) := rfl

theorem nodup_fieldNames : fieldNames.Nodup := by decide

theorem length_items (config : Config) : fieldNames.length = config.items.length := rfl

theorem fields?_toItem (reading : Reading) (config : Config) :
    config.toItem.fields? reading fieldNames = some (.ofItems config.items) := by
  have hNames : (fieldNames.zip config.items).map Prod.fst = fieldNames :=
    List.map_fst_zip (length_items config).le
  have hItems : (fieldNames.zip config.items).map Prod.snd = config.items :=
    List.map_snd_zip (length_items config).ge
  rw [toItem_eq_ofFields, Item.fields?_ofFields reading hNames nodup_fieldNames, hItems]

theorem port?_toNat (n : UInt16) : port? (n.toNat : Int) = some n := by
  have hRange := n.toNat_lt
  rw [port?, if_pos (by omega), Int.toNat_natCast, UInt16.ofNat_toNat]

theorem int64?_toInt (n : Int64) : int64? n.toInt = some n := by
  rw [int64?, if_pos ⟨n.le_toInt, n.toInt_lt⟩, Int64.ofInt_toInt]

theorem ofFields_items (config : Config) :
    ofFields itemReader (config.items[·]?) = some config := by
  have hText (s : String) : itemReader.text? (.ofString s) = some s := Item.string?_ofString s
  have hFlag (b : Bool) : itemReader.flag? (.bool b) = some b := rfl
  have hInt (n : Int64) : (itemReader.whole? (.ofInt n) >>= int64?) = some n := by
    rw [show itemReader.whole? (.ofInt n) = some n.toInt from Item.whole?_ofInt n,
      Option.bind_eq_bind, Option.bind_some, int64?_toInt]
  have hPort (n : UInt16) : (itemReader.whole? (.ofUInt64 n.toUInt64) >>= port?) = some n := by
    rw [show itemReader.whole? (.ofUInt64 n.toUInt64) = some (n.toUInt64.toNat : Int) from rfl,
      UInt16.toNat_toUInt64, Option.bind_eq_bind, Option.bind_some, port?_toNat]
  simp only [ofFields, items, List.getElem?_cons_zero, List.getElem?_cons_succ, hText, hFlag, hInt,
    hPort]
  rfl

theorem ofItem?_toItem (reading : Reading) (config : Config) :
    ofItem? reading config.toItem = some config := by
  have hGet : (Fields.ofItems config.items).get? = (config.items[·]?) := by
    funext position
    exact Fields.get?_ofItems _ _
  rw [ofItem?, fields?_toItem, Option.bind_eq_bind, Option.bind_some, hGet, ofFields_items]

theorem canonical_toItem {depth : Nat} (config : Config) :
    config.toItem.Canonical (depth + 1) := by
  rw [toItem_eq_ofFields]
  refine .ofFields fun field hField => ?_
  have hItem := List.of_mem_zip hField
  have hItems : ∀ item ∈ config.items, item.Canonical depth := by
    simp [items, Item.Canonical.ofString, Item.Canonical.ofUInt64, Item.Canonical.ofInt,
      Item.Canonical.bool]
  exact hItems field.2 hItem.2

end Config

/-! ### Parts of requests and responses -/

theorem nullable_timeoutItem (timeout : Option Int64) :
    Item.nullable Item.int64? (timeoutItem timeout) = some timeout := by
  cases timeout with
  | none => rfl
  | some n =>
    have hRead := Item.int64?_ofInt n
    have hNotNil : Item.nullable Item.int64? (.ofInt n) = (Item.ofInt n).int64?.map some := by
      unfold Item.ofInt
      split <;> rfl
    rw [timeoutItem, hNotNil, hRead, Option.map_some]

theorem canonical_timeoutItem {depth : Nat} (timeout : Option Int64) :
    (timeoutItem timeout).Canonical depth := by
  cases timeout
  · exact .nil
  · exact .ofInt _

theorem timeoutField_ofItems {items : List Item} {position : Nat} {timeout : Option Int64}
    (h : items[position]? = some (timeoutItem timeout)) :
    timeoutField (.ofItems items) position = some timeout := by
  rw [timeoutField, Fields.withDefault_ofItems h, nullable_timeoutItem]

theorem list?_textsItem (reading : Reading) (texts : List String) :
    (textsItem texts).list? reading Item.string? = some texts :=
  Item.list?_map reading fun text _ => Item.string?_ofString text

theorem canonical_textsItem {depth : Nat} (texts : List String) :
    (textsItem texts).Canonical (depth + 1) :=
  .list fun text _ => .ofString text

theorem attributesField_ofItems {reading : Reading} {items : List Item} {position : Nat}
    {names : List String} (h : items[position]? = some (textsItem names)) :
    attributesField reading (.ofItems items) position = some names := by
  rw [attributesField, Fields.withDefault_ofItems h, list?_textsItem]

theorem parameters?_ofFields (reading : Reading) {fields : List (String × Item)}
    {names : List String} (hNames : fields.map Prod.fst = names) (hNodup : names.Nodup) :
    parameters? reading names (some (.ofFields fields)) =
      some (.ofItems (fields.map Prod.snd)) :=
  Item.fields?_ofFields reading hNames hNodup

/-- A variant and its content are read back, and nothing of them is set aside. -/
theorem tagged?_taggedItem {tagKey contentKey tag : String} {variants : List String}
    {position : Nat} (hKeys : [tagKey, contentKey].Nodup) (hVariants : variants.Nodup)
    (hTag : variants[position]? = some tag) (content : Option Item) :
    tagged? tagKey contentKey variants (taggedItem tagKey tag contentKey content) =
      some (position, content, .direct) := by
  have hFirst : (Item.ofString tagKey).key .direct [tagKey, contentKey] = .field 0 :=
    Item.key_ofString hKeys rfl
  have hVariant : (Item.ofString tag).plainVariant? variants .direct = some position :=
    Item.plainVariant?_ofString hVariants hTag
  cases content with
  | none =>
    have hFields := Fields.ofEntries?_map .direct [(tagKey, Item.ofString tag)] [contentKey] hKeys
    simp only [List.map_cons, List.map_nil, List.cons_append, List.nil_append] at hFields
    simp [tagged?, taggedItem, Item.ofFields, hFields, comesFirst, hFirst, hVariant]
  | some item =>
    have hFields := Fields.ofEntries?_map .direct
      [(tagKey, Item.ofString tag), (contentKey, item)] [] hKeys
    simp only [List.map_cons, List.map_nil, List.append_nil] at hFields
    simp [tagged?, taggedItem, Item.ofFields, hFields, comesFirst, hFirst, hVariant]

theorem canonical_taggedItem {depth : Nat} {tagKey contentKey tag : String} {content : Option Item}
    (h : ∀ item ∈ content, item.Canonical depth) :
    (taggedItem tagKey tag contentKey content).Canonical (depth + 1) := by
  refine .ofFields fun field hField => ?_
  rcases List.mem_cons.mp hField with rfl | hContent
  · exact .ofString tag
  · obtain ⟨item, hItem, rfl⟩ := Option.map_eq_some_iff.mp (Option.mem_toList.mp hContent)
    exact h item hItem

/-! ### Requests -/

namespace Request

theorem nodup_methods : methods.Nodup := by decide

theorem tagged?_toItem {request : Request} {position : Nat}
    (h : methods[position]? = some request.method) :
    tagged? "method" "params" methods request.toItem =
      some (position, request.parameters?, .direct) :=
  tagged?_taggedItem (by decide) nodup_methods h _

theorem ofItem?_toItem (request : Request) : ofItem? request.toItem = some request := by
  cases request with
  | ping =>
    rw [ofItem?, tagged?_toItem (show methods[0]? = some ping.method from rfl)]
    rfl
  | version =>
    rw [ofItem?, tagged?_toItem (show methods[1]? = some version.method from rfl)]
    rfl
  | connect config timeout =>
    have hFields : BeanBridge.parameters? .direct ["config", "timeoutMs"]
        (connect config timeout).parameters? =
          some (.ofItems [config.toItem, timeoutItem timeout]) :=
      parameters?_ofFields .direct rfl (by decide)
    have hTimeout : timeoutField (.ofItems [config.toItem, timeoutItem timeout]) 1 = some timeout :=
      timeoutField_ofItems rfl
    rw [ofItem?, tagged?_toItem (show methods[2]? = some (connect config timeout).method from rfl)]
    simp [hFields, Config.ofItem?_toItem, hTimeout]
  | disconnect =>
    rw [ofItem?, tagged?_toItem (show methods[3]? = some disconnect.method from rfl)]
    rfl
  | beanNames pattern timeout =>
    have hFields : BeanBridge.parameters? .direct ["pattern", "timeoutMs"]
        (beanNames pattern timeout).parameters? =
          some (.ofItems [.ofString pattern, timeoutItem timeout]) :=
      parameters?_ofFields .direct rfl (by decide)
    have hTimeout : timeoutField (.ofItems [.ofString pattern, timeoutItem timeout]) 1 =
        some timeout :=
      timeoutField_ofItems rfl
    rw [ofItem?, tagged?_toItem (show methods[4]? = some (beanNames pattern timeout).method from rfl)]
    simp [hFields, hTimeout]
  | attributeNames bean timeout =>
    have hFields : BeanBridge.parameters? .direct ["mbeanName", "timeoutMs"]
        (attributeNames bean timeout).parameters? =
          some (.ofItems [.ofString bean, timeoutItem timeout]) :=
      parameters?_ofFields .direct rfl (by decide)
    have hTimeout : timeoutField (.ofItems [.ofString bean, timeoutItem timeout]) 1 = some timeout :=
      timeoutField_ofItems rfl
    rw [ofItem?,
      tagged?_toItem (show methods[5]? = some (attributeNames bean timeout).method from rfl)]
    simp [hFields, hTimeout]
  | read bean name timeout =>
    have hFields : BeanBridge.parameters? .direct ["mbeanName", "attribute", "timeoutMs"]
        (read bean name timeout).parameters? =
          some (.ofItems [.ofString bean, .ofString name, timeoutItem timeout]) :=
      parameters?_ofFields .direct rfl (by decide)
    have hTimeout : timeoutField
        (.ofItems [.ofString bean, .ofString name, timeoutItem timeout]) 2 = some timeout :=
      timeoutField_ofItems rfl
    rw [ofItem?, tagged?_toItem (show methods[6]? = some (read bean name timeout).method from rfl)]
    simp [hFields, hTimeout]
  | readMany bean names timeout =>
    have hFields : BeanBridge.parameters? .direct ["mbeanName", "attributes", "timeoutMs"]
        (readMany bean names timeout).parameters? =
          some (.ofItems [.ofString bean, textsItem names, timeoutItem timeout]) :=
      parameters?_ofFields .direct rfl (by decide)
    have hNames : attributesField .direct
        (.ofItems [.ofString bean, textsItem names, timeoutItem timeout]) 1 = some names :=
      attributesField_ofItems rfl
    have hTimeout : timeoutField
        (.ofItems [.ofString bean, textsItem names, timeoutItem timeout]) 2 = some timeout :=
      timeoutField_ofItems rfl
    rw [ofItem?,
      tagged?_toItem (show methods[7]? = some (readMany bean names timeout).method from rfl)]
    simp [hFields, hNames, hTimeout]
  | queryMany pattern names timeout =>
    have hFields : BeanBridge.parameters? .direct ["pattern", "attributes", "timeoutMs"]
        (queryMany pattern names timeout).parameters? =
          some (.ofItems [.ofString pattern, textsItem names, timeoutItem timeout]) :=
      parameters?_ofFields .direct rfl (by decide)
    have hNames : attributesField .direct
        (.ofItems [.ofString pattern, textsItem names, timeoutItem timeout]) 1 = some names :=
      attributesField_ofItems rfl
    have hTimeout : timeoutField
        (.ofItems [.ofString pattern, textsItem names, timeoutItem timeout]) 2 = some timeout :=
      timeoutField_ofItems rfl
    rw [ofItem?,
      tagged?_toItem (show methods[8]? = some (queryMany pattern names timeout).method from rfl)]
    simp [hFields, hNames, hTimeout]
  | stats =>
    rw [ofItem?, tagged?_toItem (show methods[9]? = some stats.method from rfl)]
    rfl

theorem canonical_toItem {depth : Nat} (request : Request) :
    request.toItem.Canonical (depth + 3) := by
  refine canonical_taggedItem fun item hItem => ?_
  have hConfig (config : Config) : config.toItem.Canonical (depth + 1) := config.canonical_toItem
  cases request <;> cases hItem
  all_goals
    refine .ofFields ?_
    simp [hConfig, canonical_timeoutItem, canonical_textsItem, Item.Canonical.ofString]

end Request

/-! ### Responses -/

theorem Scalar.ofItem?_toItem (scalar : Scalar) : ofItem? .direct scalar.toItem = some scalar := by
  have hTag {position : Nat} {name : String}
      (h : ["double", "int", "string", "bool"][position]? = some name) :
      (Item.ofString name).variant? .direct ["double", "int", "string", "bool"] = some position :=
    Item.variant?_ofString (by decide) h
  cases scalar with
  | double x => simp [toItem, ofItem?, Item.ofFields, hTag (show _[0]? = some "double" from rfl)]
  | int n => simp [toItem, ofItem?, Item.ofFields, hTag (show _[1]? = some "int" from rfl)]
  | string s => simp [toItem, ofItem?, Item.ofFields, hTag (show _[2]? = some "string" from rfl)]
  | bool b => simp [toItem, ofItem?, Item.ofFields, hTag (show _[3]? = some "bool" from rfl)]

theorem Scalar.canonical_toItem {depth : Nat} (scalar : Scalar) :
    scalar.toItem.Canonical (depth + 1) := by
  cases scalar
  all_goals
    refine .ofFields ?_
    simp [Item.Canonical.double, Item.Canonical.ofInt, Item.Canonical.ofString, Item.Canonical.bool]

theorem EntryKind.ofItem?_word (kind : EntryKind) :
    ofItem? .direct (.ofString kind.word) = some kind := by
  have hTag {position : Nat} (h : words[position]? = some kind.word) :
      (Item.ofString kind.word).plainVariant? words .direct = some position :=
    Item.plainVariant?_ofString (by decide) h
  cases kind with
  | double => rw [ofItem?, hTag (show words[0]? = _ from rfl)]; rfl
  | int => rw [ofItem?, hTag (show words[1]? = _ from rfl)]; rfl
  | string => rw [ofItem?, hTag (show words[2]? = _ from rfl)]; rfl
  | bool => rw [ofItem?, hTag (show words[3]? = _ from rfl)]; rfl
  | error => rw [ofItem?, hTag (show words[4]? = _ from rfl)]; rfl

namespace Entry

/-- The item of what may be the value of an entry. -/
def valueItem : Option Scalar → Item
  | none => .nil
  | some value => value.toItem

theorem nullable_valueItem (value : Option Scalar) :
    Item.nullable (Scalar.ofItem? .direct) (valueItem value) = some value := by
  cases value with
  | none => rfl
  | some value =>
    have hNotNil : Item.nullable (Scalar.ofItem? .direct) value.toItem =
        (Scalar.ofItem? .direct value.toItem).map some := by
      cases value <;> rfl
    rw [valueItem, hNotNil, Scalar.ofItem?_toItem, Option.map_some]

theorem ofItem?_toItem (entry : Entry) : ofItem? .direct entry.toItem = some entry := by
  have hFields : entry.toItem.fields? .direct ["name", "responseType", "value", "statusMsg"] =
      some (.ofItems [.ofString entry.name, .ofString entry.kind.word, valueItem entry.value,
        .ofString entry.status]) :=
    Item.fields?_ofFields .direct rfl (by decide)
  simp [ofItem?, hFields, EntryKind.ofItem?_word, Fields.withDefault_ofItems, nullable_valueItem]

theorem canonical_toItem {depth : Nat} (entry : Entry) : entry.toItem.Canonical (depth + 2) := by
  have hValue : (valueItem entry.value).Canonical (depth + 1) := by
    cases entry.value with
    | none => exact .nil
    | some value => exact value.canonical_toItem
  refine .ofFields ?_
  simp only [List.forall_mem_cons]
  exact ⟨.ofString _, .ofString _, hValue, .ofString _, nofun⟩

end Entry

namespace Stat

/-- The items of a record, in the order of the fields. -/
def items (stat : Stat) : List Item :=
  [.ofString stat.kind, .ofString stat.bean, textsItem stat.attributes,
    .ofUInt64 stat.responseCount, .double stat.duration, .ofInt stat.start, .bool stat.successful]

theorem ofItem?_toItem (stat : Stat) : ofItem? .direct stat.toItem = some stat := by
  have hFields : stat.toItem.fields? .direct
      ["statType", "mbean", "attrs", "responseCount", "milliseconds", "startTimestamp",
        "successful"] = some (.ofItems stat.items) :=
    Item.fields?_ofFields .direct rfl (by decide)
  have hText (s : String) : (Item.ofString s).string? = some s := Item.string?_ofString s
  simp only [ofItem?, Option.bind_eq_bind, Option.bind_eq_some_iff]
  refine ⟨_, hFields, _, Fields.required_of_read rfl (hText _),
    _, Fields.required_of_read rfl (hText _), _, Fields.required_of_read rfl (list?_textsItem _ _),
    _, Fields.required_of_read rfl (Item.uint64?_ofUInt64 _),
    _, Fields.required_of_read rfl (Item.double?_double _),
    _, Fields.required_of_read rfl (Item.int64?_ofInt _),
    _, Fields.required_of_read rfl (Item.bool?_bool _), rfl⟩

theorem canonical_toItem {depth : Nat} (stat : Stat) : stat.toItem.Canonical (depth + 2) := by
  refine .ofFields ?_
  simp only [List.forall_mem_cons]
  exact ⟨.ofString _, .ofString _, canonical_textsItem _, .ofUInt64 _, .double _, .ofInt _,
    .bool _, nofun⟩

end Stat

namespace ReplyError

theorem isName_ofString (name s : String) : isName name (.ofString s) = (s == name) := by
  show ((Item.ofString s).string? == some name) = _
  rw [Item.string?_ofString, Option.some_beq_some]

/-- The members besides those of the name `type`. -/
def besidesType (members : List (String × Item)) : List (String × Item) :=
  members.filter fun member => !(member.1 == "type")

/-- The variant of an error is found among its fields, and the others are left as they are. -/
theorem inlineTagged?_ofFields {reading : Reading} {variants : List String} {tag : String}
    {members : List (String × Item)} (hTag : valuesAt "type" members = [.ofString tag]) :
    inlineTagged? reading variants (.ofFields members) =
      ((Item.ofString tag).variant? reading variants).map fun variant =>
        (variant, .ofFields (besidesType members)) := by
  obtain ⟨⟨name, held⟩, hFilter, rfl⟩ := List.map_eq_singleton_iff.mp hTag
  simp only [inlineTagged?, Item.ofFields, List.partition_eq_filter_filter, List.filter_map,
    Function.comp_def, isName_ofString, hFilter, List.map_cons, List.map_nil, besidesType]
  cases (Item.ofString tag).variant? reading variants <;> rfl

theorem inlineTagged?_tag_first {tag : String} {position : Nat} {fields : List (String × Item)}
    (hTag : ["connection", "jmx", "invalidRequest"][position]? = some tag)
    (hFields : "type" ∉ fields.map Prod.fst) :
    inlineTagged? .direct ["connection", "jmx", "invalidRequest"]
        (.ofFields (("type", .ofString tag) :: fields)) =
      some (position, .ofFields fields) := by
  have hOther : ∀ field ∈ fields, (field.1 == "type") = false := by
    intro field hField
    rw [beq_eq_false_iff_ne]
    exact fun hEq => hFields (hEq ▸ List.mem_map_of_mem hField)
  have hNone : valuesAt "type" fields = [] := by
    rw [valuesAt, List.map_eq_nil_iff, List.filter_eq_nil_iff]
    intro field hField
    rw [hOther field hField]
    exact Bool.false_ne_true
  have hAll : besidesType (("type", .ofString tag) :: fields) = fields := by
    rw [besidesType, List.filter_cons_of_neg (by simp), List.filter_eq_self]
    intro field hField
    rw [hOther field hField]
    rfl
  rw [inlineTagged?_ofFields (by rw [valuesAt_cons_self, hNone]),
    Item.variant?_ofString (by decide) hTag, Option.map_some, hAll]

theorem ofItem?_toItem (error : ReplyError) : ofItem? .direct error.toItem = some error := by
  cases error with
  | connection message =>
    have hFields : (Item.ofFields [("message", .ofString message)]).fields? .aside ["message"] =
        some (.ofItems [.ofString message]) :=
      Item.fields?_ofFields .aside rfl (by decide)
    rw [ofItem?, toItem, inlineTagged?_tag_first (show _[0]? = _ from rfl) (by simp)]
    simp [hFields]
  | jmx message cause stacktrace =>
    have hFields : (Item.ofFields [("message", .ofString message), ("causeMessage", .ofString cause),
        ("stacktrace", .ofString stacktrace)]).fields? .aside
          ["message", "causeMessage", "stacktrace"] =
        some (.ofItems [.ofString message, .ofString cause, .ofString stacktrace]) :=
      Item.fields?_ofFields .aside rfl (by decide)
    rw [ofItem?, toItem, inlineTagged?_tag_first (show _[1]? = _ from rfl) (by simp)]
    simp [hFields, Fields.withDefault_ofItems]
  | invalidRequest message =>
    have hFields : (Item.ofFields [("message", .ofString message)]).fields? .aside ["message"] =
        some (.ofItems [.ofString message]) :=
      Item.fields?_ofFields .aside rfl (by decide)
    rw [ofItem?, toItem, inlineTagged?_tag_first (show _[2]? = _ from rfl) (by simp)]
    simp [hFields]

theorem canonical_toItem {depth : Nat} (error : ReplyError) :
    error.toItem.Canonical (depth + 1) := by
  cases error
  all_goals
    refine .ofFields ?_
    simp [Item.Canonical.ofString]

end ReplyError

namespace Response

theorem nodup_kinds : kinds.Nodup := by decide

theorem tagged?_toItem {response : Response} {position : Nat}
    (h : kinds[position]? = some response.kind) :
    tagged? "kind" "body" kinds response.toItem = some (position, response.body?, .direct) :=
  tagged?_taggedItem (by decide) nodup_kinds h _

theorem ofItem?_toItem (response : Response) : ofItem? response.toItem = some response := by
  cases response with
  | pong =>
    rw [ofItem?, tagged?_toItem (show kinds[0]? = some pong.kind from rfl)]
    rfl
  | version text =>
    rw [ofItem?, tagged?_toItem (show kinds[1]? = some (version text).kind from rfl)]
    simp [body?]
  | connected =>
    rw [ofItem?, tagged?_toItem (show kinds[2]? = some connected.kind from rfl)]
    rfl
  | disconnected =>
    rw [ofItem?, tagged?_toItem (show kinds[3]? = some disconnected.kind from rfl)]
    rfl
  | beanNames names =>
    rw [ofItem?, tagged?_toItem (show kinds[4]? = some (beanNames names).kind from rfl)]
    simp [body?, list?_textsItem]
  | attributeNames names =>
    rw [ofItem?, tagged?_toItem (show kinds[5]? = some (attributeNames names).kind from rfl)]
    simp [body?, list?_textsItem]
  | attributes entries =>
    have hList : (Item.array (entries.map Entry.toItem)).list? .direct (Entry.ofItem? .direct) =
        some entries :=
      Item.list?_map .direct fun entry _ => entry.ofItem?_toItem
    rw [ofItem?, tagged?_toItem (show kinds[6]? = some (attributes entries).kind from rfl)]
    simp [body?, hList]
  | stats records =>
    have hList : (Item.array (records.map Stat.toItem)).list? .direct (Stat.ofItem? .direct) =
        some records :=
      Item.list?_map .direct fun stat _ => stat.ofItem?_toItem
    rw [ofItem?, tagged?_toItem (show kinds[7]? = some (stats records).kind from rfl)]
    simp [body?, hList]
  | error failure =>
    rw [ofItem?, tagged?_toItem (show kinds[8]? = some (error failure).kind from rfl)]
    simp [body?, ReplyError.ofItem?_toItem]

theorem canonical_toItem {depth : Nat} (response : Response) :
    response.toItem.Canonical (depth + 4) := by
  refine canonical_taggedItem fun item hItem => ?_
  cases response <;> cases hItem
  case version => exact .ofString _
  case beanNames | attributeNames => exact canonical_textsItem _
  case attributes => exact .list fun entry _ => entry.canonical_toItem
  case stats => exact .list fun stat _ => stat.canonical_toItem
  case error failure => exact failure.canonical_toItem

end Response

/-! ### The written forms -/

theorem RequestFrame.ofItem?_toItem (frame : RequestFrame) :
    ofItem? frame.toItem = some frame := by
  have hFields : frame.toItem.fields? .direct ["id", "request"] =
      some (.ofItems [.ofUInt64 frame.id, frame.request.toItem]) :=
    Item.fields?_ofFields .direct rfl (by decide)
  simp only [ofItem?, Option.bind_eq_bind, Option.bind_eq_some_iff]
  exact ⟨_, hFields, _, Fields.required_of_read rfl (Item.uint64?_ofUInt64 _),
    _, Fields.required_of_read rfl frame.request.ofItem?_toItem, rfl⟩

theorem ResponseFrame.ofItem?_toItem (frame : ResponseFrame) :
    ofItem? frame.toItem = some frame := by
  have hFields : frame.toItem.fields? .direct ["id", "response"] =
      some (.ofItems [.ofUInt64 frame.id, frame.response.toItem]) :=
    Item.fields?_ofFields .direct rfl (by decide)
  simp only [ofItem?, Option.bind_eq_bind, Option.bind_eq_some_iff]
  exact ⟨_, hFields, _, Fields.required_of_read rfl (Item.uint64?_ofUInt64 _),
    _, Fields.required_of_read rfl frame.response.ofItem?_toItem, rfl⟩

theorem RequestFrame.decode?_encode {frame : RequestFrame} (h : frame.encode.size ≤ Frame.maxSize)
    (rest : ByteArray) : decode? (frame.encode ++ rest) = some frame := by
  have hItem : frame.toItem.Canonical maxDepth := by
    refine .ofFields ?_
    simp only [List.forall_mem_cons]
    exact ⟨.ofUInt64 _, frame.request.canonical_toItem, nofun⟩
  rw [decode?, encode, MessagePack.decode?_encode hItem (h.trans_lt Frame.maxSize_lt),
    Option.bind_some, ofItem?_toItem]

theorem ResponseFrame.decode?_encode {frame : ResponseFrame}
    (h : frame.encode.size ≤ Frame.maxSize) (rest : ByteArray) :
    decode? (frame.encode ++ rest) = some frame := by
  have hItem : frame.toItem.Canonical maxDepth := by
    refine .ofFields ?_
    simp only [List.forall_mem_cons]
    exact ⟨.ofUInt64 _, frame.response.canonical_toItem, nofun⟩
  rw [decode?, encode, MessagePack.decode?_encode hItem (h.trans_lt Frame.maxSize_lt),
    Option.bind_some, ofItem?_toItem]

theorem Config.decode?_encode {config : Config} (h : config.encode.size ≤ Frame.maxSize)
    (rest : ByteArray) : decode? (config.encode ++ rest) = some config := by
  rw [decode?, encode, MessagePack.decode?_encode config.canonical_toItem
    (h.trans_lt Frame.maxSize_lt), Option.bind_some, ofItem?_toItem]

/-- Whatever fits a frame is read back from its written form, with any bytes behind it. -/
theorem wire_round_trip :
    (∀ frame : RequestFrame, frame.encode.size ≤ Frame.maxSize →
      ∀ rest, RequestFrame.decode? (frame.encode ++ rest) = some frame) ∧
    (∀ frame : ResponseFrame, frame.encode.size ≤ Frame.maxSize →
      ∀ rest, ResponseFrame.decode? (frame.encode ++ rest) = some frame) ∧
    (∀ config : Config, config.encode.size ≤ Frame.maxSize →
      ∀ rest, Config.decode? (config.encode ++ rest) = some config) :=
  ⟨fun _ h => RequestFrame.decode?_encode h, fun _ h => ResponseFrame.decode?_encode h,
    fun _ h => Config.decode?_encode h⟩

/-- The extreme numbers, an empty name, a text beyond ASCII and a double that is no number. -/
theorem wire_round_trip_extremes :
    let request : RequestFrame := ⟨0xffffffffffffffff, .queryMany "*:k=\"ü\\*\"" ["a", ""] (some (-1))⟩
    let response : ResponseFrame :=
      ⟨0, .attributes [⟨"d:k=v,attr=x", .double, some (.double ⟨0x7ff8000000000001⟩), ""⟩,
        .failed "d:k=v,attr=y" "gone"]⟩
    let config : Config := { host := "localhost", port := 65535, requestTimeout := -2 ^ 63 }
    request.encode.size ≤ Frame.maxSize ∧ response.encode.size ≤ Frame.maxSize ∧
      config.encode.size ≤ Frame.maxSize ∧
      RequestFrame.decode? (request.encode ++ ⟨#[0xc1]⟩) = some request ∧
      ResponseFrame.decode? (response.encode ++ ⟨#[0xc1]⟩) = some response ∧
      Config.decode? (config.encode ++ ⟨#[0xc1]⟩) = some config := by
  intro request response config
  have hRequest : request.encode.size ≤ Frame.maxSize := by decide +kernel
  have hResponse : response.encode.size ≤ Frame.maxSize := by decide +kernel
  have hConfig : config.encode.size ≤ Frame.maxSize := by decide +kernel
  exact ⟨hRequest, hResponse, hConfig, wire_round_trip.1 request hRequest _,
    wire_round_trip.2.1 response hResponse _, wire_round_trip.2.2 config hConfig _⟩

end BeanBridge
