import BeanBridge.Proofs.MessagePack.Layout
import BeanBridge.Proofs.Protocol.RoundTrip

/-! The layouts of settings, requests and responses: which of their entries are fields, what a field
may be left out for, and where variants are named.  What is written fits them. -/

namespace BeanBridge

open MessagePack

/-! ### Written variants -/

theorem fits_textsItem (texts : List String) : (Layout.list .value).fits (textsItem texts) :=
  ⟨_, rfl, fun item _ => Layout.fits_value item⟩

theorem fits_taggedItem {tagKey contentKey tag : String} {table : List (String × Layout)}
    {layout : Layout} {content : Option Item} (hKeys : contentKey ≠ tagKey)
    (hTable : table.lookup tag = some layout) (h : ∀ item ∈ content, layout.fits item) :
    (Layout.adjacent tagKey contentKey table).fits (taggedItem tagKey tag contentKey content) := by
  refine ⟨tag, .single contentKey layout, _, ⟨?_, ?_⟩, ?_, rfl⟩
  · rw [Layout.lookup_single, hTable, Option.map_some]
  · cases content with
    | none => simp
    | some item => simp [valuesAt_cons_of_ne hKeys]
  · intro field hField value hValue
    obtain rfl := List.mem_singleton.mp hField
    rw [Field.required, valuesAt_cons_of_ne hKeys.symm] at hValue
    cases content with
    | none => nomatch hValue
    | some item =>
      simp at hValue
      exact hValue ▸ h item rfl

/-! ### Settings -/

namespace Config

def numberField (name : String) : Field := ⟨name, .value, fun item => item.whole? = some 0⟩

def flagField (name : String) : Field := ⟨name, .value, fun item => item.bool? = some false⟩

/-- The settings as a record.  Every field may be left out. -/
def record : Record where
  fields :=
    [.text "connectionURL", .text "hostname", numberField "port", .text "uriPath",
      .text "username", .text "password", .text "keyStore",
      .text "keyStorePassword", .text "trustStore", .text "trustStorePassword",
      flagField "isRemote", flagField "isJBossStandaloneMode", flagField "useSSL",
      numberField "requestTimeoutMs", flagField "verbose", flagField "enableInternalStats",
      numberField "maxInternalStatsSize"]
  nodup := by decide

def layout : Layout := record.layout

/-- The settings fit whatever their fields hold. -/
theorem fits_ofFields (members : List (String × Item)) : layout.fits (.ofFields members) := by
  refine ⟨members, rfl, Record.fits_of_values ?_ members⟩
  simp [record, Field.text, numberField, flagField]

theorem fits_toItem (config : Config) : layout.fits config.toItem := by
  rw [toItem_eq_ofFields]
  exact fits_ofFields _

end Config

/-! ### Requests -/

namespace Request

/-- The timeout, which is nil unless it is given. -/
def timeout : Field := ⟨"timeoutMs", .value, (· = .nil)⟩

/-- The names of attributes, which are none unless they are given. -/
def attributes : Field := ⟨"attributes", .list .value, (· = .array [])⟩

/-- A request by the names of its variants, with the layouts of what they hold. -/
def contents : List (String × Layout) :=
  [("ping", .value),
    ("getClientVersion", .value),
    ("connect", Record.layout ⟨[.required "config" Config.layout, timeout], by decide⟩),
    ("disconnect", .value),
    ("queryMBeanNames", Record.layout ⟨[.required "pattern" .value, timeout], by decide⟩),
    ("getMBeanAttributeNames", Record.layout ⟨[.required "mbeanName" .value, timeout], by decide⟩),
    ("getMBeanAttribute", Record.layout
      ⟨[.required "mbeanName" .value, .required "attribute" .value, timeout], by decide⟩),
    ("getMBeanAttributes", Record.layout
      ⟨[.required "mbeanName" .value, attributes, timeout], by decide⟩),
    ("queryMBeanAttributes", Record.layout
      ⟨[.required "pattern" .value, attributes, timeout], by decide⟩),
    ("getInternalStats", .value)]

def layout : Layout := .adjacent "method" "params" contents

theorem fits_toItem (request : Request) : layout.fits request.toItem := by
  -- The fields of a request with their layouts, in their order.
  have hFields {tag : String} {record : Record} {members : List (String × Item)}
      (hTable : contents.lookup tag = some record.layout)
      (hNames : members.map Prod.fst = record.names)
      (h : List.Forall₂ (fun field value => field.layout.fits value) record.fields
        (members.map Prod.snd)) :
      layout.fits (taggedItem "method" tag "params" (some (.ofFields members))) := by
    refine fits_taggedItem (by decide) hTable fun item hItem => ?_
    obtain rfl := Option.some.inj hItem
    exact Record.fits_ofFields hNames h
  cases request with
  | ping | version | disconnect | stats => exact fits_taggedItem (by decide) rfl nofun
  | connect config timeout =>
    exact hFields rfl rfl (.cons config.fits_toItem (.cons trivial .nil))
  | beanNames | attributeNames => exact hFields rfl rfl (.cons trivial (.cons trivial .nil))
  | read => exact hFields rfl rfl (.cons trivial (.cons trivial (.cons trivial .nil)))
  | readMany _ names | queryMany _ names =>
    exact hFields rfl rfl (.cons trivial (.cons (fits_textsItem names) (.cons trivial .nil)))

end Request

/-! ### Responses -/

/-- A map from the name of the kind, if it is a map of one entry. -/
def Scalar.layout : Layout :=
  .rigid fun item => ∀ tag value, item = .map [(tag, value)] → ∃ name, tag = .ofString name

namespace Entry

def record : Record where
  fields := [.required "name" .value, .required "responseType" .word,
    ⟨"value", Scalar.layout, (· = .nil)⟩, .text "statusMsg"]
  nodup := by decide

def layout : Layout := record.layout

theorem fits_toItem (entry : Entry) : layout.fits entry.toItem := by
  have hValue : Scalar.layout.fits (valueItem entry.value) := by
    intro tag value hItem
    obtain ⟨_, _, scalar, _⟩ := entry
    cases scalar with
    | none => nomatch hItem
    | some scalar =>
      cases scalar <;> cases hItem <;> exact ⟨_, rfl⟩
  exact Record.fits_ofFields rfl
    (.cons trivial (.cons ⟨entry.kind.word, rfl⟩ (.cons hValue (.cons trivial .nil))))

end Entry

namespace Stat

def record : Record where
  fields := [.required "statType" .value, .required "mbean" .value,
    .required "attrs" (.list .value), .required "responseCount" .value,
    .required "milliseconds" .value, .required "startTimestamp" .value,
    .required "successful" .value]
  nodup := by decide

def layout : Layout := record.layout

theorem fits_toItem (stat : Stat) : layout.fits stat.toItem := by
  refine Record.fits_ofFields rfl ?_
  simp [record, Field.required, Layout.fits_value, fits_textsItem]

end Stat

namespace ReplyError

/-- The kinds of errors with what they say. -/
def contents : List (String × Record) :=
  [("connection", .single "message" .value),
    ("jmx", ⟨[.required "message" .value, .text "causeMessage", .text "stacktrace"], by decide⟩),
    ("invalidRequest", .single "message" .value)]

def layout : Layout := .tagged "type" contents

theorem fits_toItem (error : ReplyError) : layout.fits error.toItem := by
  have hMessage : ∀ field ∈ (Record.single "message" .value).fields, field.layout = .value :=
    List.forall_mem_singleton.mpr rfl
  cases error with
  | connection => exact ⟨"connection", _, _, ⟨rfl, rfl⟩, Record.fits_of_values hMessage _, rfl⟩
  | jmx =>
    refine ⟨"jmx", _, _, ⟨rfl, rfl⟩, Record.fits_of_values ?_ _, rfl⟩
    simp [Field.required, Field.text]
  | invalidRequest =>
    exact ⟨"invalidRequest", _, _, ⟨rfl, rfl⟩, Record.fits_of_values hMessage _, rfl⟩

end ReplyError

namespace Response

/-- The kinds of responses, with the layouts of what they hold. -/
def contents : List (String × Layout) :=
  [("pong", .value), ("version", .value), ("connected", .value), ("disconnected", .value),
    ("mbeanNames", .list .value), ("attributeNames", .list .value),
    ("attributes", .list Entry.layout), ("internalStats", .list Stat.layout),
    ("error", ReplyError.layout)]

def layout : Layout := .adjacent "kind" "body" contents

theorem fits_toItem (response : Response) : layout.fits response.toItem := by
  have hBody {tag : String} {layout : Layout} {body : Item}
      (hTable : contents.lookup tag = some layout) (h : layout.fits body) :
      Response.layout.fits (taggedItem "kind" tag "body" (some body)) := by
    refine fits_taggedItem (by decide) hTable fun item hItem => ?_
    exact Option.some.inj hItem ▸ h
  cases response with
  | pong | connected | disconnected => exact fits_taggedItem (by decide) rfl nofun
  | version => exact hBody rfl trivial
  | beanNames names | attributeNames names => exact hBody rfl (fits_textsItem names)
  | attributes entries =>
    refine hBody rfl ⟨_, rfl, fun item hItem => ?_⟩
    obtain ⟨entry, -, rfl⟩ := List.mem_map.mp hItem
    exact entry.fits_toItem
  | stats records =>
    refine hBody rfl ⟨_, rfl, fun item hItem => ?_⟩
    obtain ⟨stat, -, rfl⟩ := List.mem_map.mp hItem
    exact stat.fits_toItem
  | error failure => exact hBody rfl failure.fits_toItem

end Response

/-! ### Frames -/

namespace RequestFrame

def record : Record where
  fields := [.required "id" .value, .required "request" Request.layout]
  nodup := by decide

def layout : Layout := record.layout

theorem fits_toItem (frame : RequestFrame) : layout.fits frame.toItem :=
  Record.fits_ofFields rfl (.cons trivial (.cons frame.request.fits_toItem .nil))

end RequestFrame

namespace ResponseFrame

def record : Record where
  fields := [.required "id" .value, .required "response" Response.layout]
  nodup := by decide

def layout : Layout := record.layout

theorem fits_toItem (frame : ResponseFrame) : layout.fits frame.toItem :=
  Record.fits_ofFields rfl (.cons trivial (.cons frame.response.fits_toItem .nil))

end ResponseFrame

end BeanBridge
