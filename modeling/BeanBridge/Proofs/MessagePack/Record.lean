import BeanBridge.MessagePack.Fields
import BeanBridge.Proofs.MessagePack.RoundTrip

/-! Records as they are written: a map from the names of all fields to their values, in the order of
the fields.  Such a map is read as if it were the array of the values. -/

namespace BeanBridge.MessagePack

@[simp] theorem Item.string?_ofString (s : String) : (ofString s).string? = some s := by
  have hValid : s.toUTF8.IsValidUTF8 := s.isValidUTF8
  show String.fromUTF8? s.toUTF8 = some s
  rw [String.fromUTF8?, dif_pos hValid]
  rfl

@[simp] theorem Item.bool?_bool (b : Bool) : (bool b).bool? = some b := rfl

@[simp] theorem Item.double?_double (x : Double) : (double x).double? = some x := rfl

theorem Item.whole?_ofUInt64 (n : UInt64) : (ofUInt64 n).whole? = some (n.toNat : Int) := rfl

theorem Item.whole?_ofInt (n : Int64) : (ofInt n).whole? = some n.toInt := by
  have hHigh := n.toInt_lt
  unfold ofInt
  split
  · rfl
  · have hNat : ((UInt64.ofInt n.toInt).toNat : Int) = n.toInt := by
      rw [UInt64.ofInt, UInt64.toNat_ofNat']
      omega
    rw [whole?_ofUInt64, hNat]

@[simp] theorem Item.uint64?_ofUInt64 (n : UInt64) : (ofUInt64 n).uint64? = some n := by
  have hRange := n.toNat_lt
  rw [uint64?, whole?_ofUInt64, Option.bind_some, if_pos (by omega), Int.toNat_natCast,
    UInt64.ofNat_toNat]

@[simp] theorem Item.int64?_ofInt (n : Int64) : (ofInt n).int64? = some n := by
  rw [int64?, whole?_ofInt, Option.bind_some, if_pos ⟨n.le_toInt, n.toInt_lt⟩, Int64.ofInt_toInt]

/-- A name stands for the field that bears it. -/
theorem Item.key_ofString {reading : Reading} {names : List String} {position : Nat}
    {name : String} (hNodup : names.Nodup) (h : names[position]? = some name) :
    (ofString name).key reading names = .field position := by
  have hFind : names.findIdx? (· == name) = some position := by
    obtain ⟨hLt, rfl⟩ := List.getElem?_eq_some_iff.mp h
    rw [List.findIdx?_eq_some_iff_getElem]
    refine ⟨hLt, beq_self_eq_true _, fun j hj hEq => ?_⟩
    exact List.pairwise_iff_getElem.mp hNodup j position (by omega) hLt hj (eq_of_beq hEq)
  show (ofString name).nameIn names = _
  rw [nameIn, string?_ofString, Option.bind_some, hFind]

theorem Item.variant?_ofString {reading : Reading} {names : List String} {position : Nat}
    {name : String} (hNodup : names.Nodup) (h : names[position]? = some name) :
    (ofString name).variant? reading names = some position := by
  rw [variant?, key_ofString hNodup h]

theorem Item.plainVariant?_ofString {reading : Reading} {names : List String} {position : Nat}
    {name : String} (hNodup : names.Nodup) (h : names[position]? = some name) :
    (ofString name).plainVariant? names reading = some position := by
  cases reading
  · exact variant?_ofString hNodup h
  · exact variant?_ofString hNodup h

namespace Fields

@[simp] theorem get?_ofItems (items : List Item) (position : Nat) :
    (ofItems items).get? position = items[position]? := by
  have hLookup (start : Nat) :
      ((items.zipIdx start).map Prod.swap).lookup (start + position) = items[position]? := by
    induction items generalizing start position with
    | nil => rfl
    | cons item items ih =>
      rw [List.zipIdx_cons, List.map_cons, Prod.swap_prod_mk, List.lookup_cons]
      cases position with
      | zero => simp
      | succ position =>
        have hNe : (start + (position + 1) == start) = false := by simp
        have hNext := ih position (start + 1)
        rw [Nat.add_assoc, Nat.add_comm 1 position] at hNext
        rw [hNe, List.getElem?_cons_succ, hNext]
  have h := hLookup 0
  rwa [Nat.zero_add] at h

@[simp] theorem required_ofItems {α : Type} (items : List Item) (position : Nat)
    (read : Item → Option α) :
    (ofItems items).required position read = items[position]?.bind read := by
  rw [required, get?_ofItems]

theorem required_of_read {α : Type} {items : List Item} {position : Nat} {item : Item} {value : α}
    {read : Item → Option α} (hItem : items[position]? = some item)
    (hRead : read item = some value) :
    (ofItems items).required position read = some value := by
  rw [required_ofItems, hItem, Option.bind_some, hRead]

theorem withDefault_ofItems {α : Type} {items : List Item} {position : Nat} {item : Item}
    (h : items[position]? = some item) (usual : α) (read : Item → Option α) :
    (ofItems items).withDefault position usual read = read item := by
  rw [withDefault, get?_ofItems, h]

/-- The fields from `start` on hold nothing for an earlier position. -/
theorem lookup_zipIdx_eq_none {items : List Item} {start position : Nat} (h : position < start) :
    ((items.zipIdx start).map Prod.swap).lookup position = none := by
  induction items generalizing start with
  | nil => rfl
  | cons item items ih =>
    have hNe : (position == start) = false := beq_false_of_ne (by omega)
    rw [List.zipIdx_cons, List.map_cons, Prod.swap_prod_mk, List.lookup_cons, hNe, ih (by omega)]

theorem ofEntries?_drop (reading : Reading) (before after : List String)
    (fields : List (String × Item)) (hNodup : (before ++ fields.map Prod.fst ++ after).Nodup) :
    ofEntries? reading (before ++ fields.map Prod.fst ++ after)
        (fields.map fun field => (Item.ofString field.1, field.2)) =
      some ⟨((fields.map Prod.snd).zipIdx before.length).map Prod.swap⟩ := by
  -- The names are the same for all entries, so the induction moves them one by one to `before`.
  induction fields generalizing before with
  | nil => rfl
  | cons field fields ih =>
    obtain ⟨name, value⟩ := field
    have hNames : before ++ (name :: fields.map Prod.fst) =
        (before ++ [name]) ++ fields.map Prod.fst := by simp
    rw [List.map_cons, hNames] at hNodup ⊢
    have hKey : (Item.ofString name).key reading
        (before ++ [name] ++ fields.map Prod.fst ++ after) = .field before.length :=
      Item.key_ofString hNodup (by simp)
    rw [List.map_cons, ofEntries?, ih (before ++ [name]) hNodup]
    simp only [Option.bind_eq_bind, Option.bind_some, hKey]
    rw [insert?, get?, lookup_zipIdx_eq_none (by simp)]
    simp

/-- The record of all fields in order is read as the array of their values. -/
theorem ofEntries?_map (reading : Reading) (fields : List (String × Item)) (after : List String)
    (hNodup : (fields.map Prod.fst ++ after).Nodup) :
    ofEntries? reading (fields.map Prod.fst ++ after)
        (fields.map fun field => (Item.ofString field.1, field.2)) =
      some (ofItems (fields.map Prod.snd)) :=
  ofEntries?_drop reading [] after fields hNodup

end Fields

/-- `Fields.ofEntries?_map` for the item of a record. -/
theorem Item.fields?_ofFields (reading : Reading) {fields : List (String × Item)}
    {names : List String} (hNames : fields.map Prod.fst = names) (hNodup : names.Nodup) :
    (ofFields fields).fields? reading names = some (.ofItems (fields.map Prod.snd)) := by
  subst hNames
  have h := Fields.ofEntries?_map reading fields [] (by rwa [List.append_nil])
  rwa [List.append_nil] at h

/-- A list is read back when each of its items is. -/
theorem Item.list?_map {α : Type} {read : Item → Option α} {write : α → Item} {values : List α}
    (reading : Reading) (h : ∀ value ∈ values, read (write value) = some value) :
    (array (values.map write)).list? reading read = some values := by
  have hItems : (array (values.map write)).array? reading = some (values.map write) := by
    cases reading <;> rfl
  have hRead : (values.map write).mapM read = some values := by
    clear hItems
    induction values with
    | nil => rfl
    | cons value values ih =>
      rw [List.map_cons, List.mapM_cons, h value List.mem_cons_self,
        ih fun value hMem => h value (List.mem_cons_of_mem _ hMem)]
      rfl
  rw [list?, hItems, Option.bind_some, hRead]

namespace Item.Canonical

variable {depth : Nat}

theorem ofString (s : String) : (Item.ofString s).Canonical depth := .text _

theorem ofUInt64 (n : UInt64) : (Item.ofUInt64 n).Canonical depth := .unsigned n

theorem ofInt (n : Int64) : (Item.ofInt n).Canonical depth := by
  unfold Item.ofInt
  split
  · rename_i hNegative
    exact .signed hNegative
  · exact .unsigned _

theorem ofFields {fields : List (String × Item)}
    (h : ∀ field ∈ fields, field.2.Canonical depth) :
    (Item.ofFields fields).Canonical (depth + 1) := by
  refine .map ?_ ?_
  · intro entry hEntry
    obtain ⟨field, -, rfl⟩ := List.mem_map.mp hEntry
    exact ofString field.1
  · intro entry hEntry
    obtain ⟨field, hField, rfl⟩ := List.mem_map.mp hEntry
    exact h field hField

/-- A list of items of one kind. -/
theorem list {α : Type} {write : α → Item} {values : List α}
    (h : ∀ value ∈ values, (write value).Canonical depth) :
    (Item.array (values.map write)).Canonical (depth + 1) := by
  refine .array fun item hItem => ?_
  obtain ⟨value, hValue, rfl⟩ := List.mem_map.mp hItem
  exact h value hValue

end Item.Canonical

end BeanBridge.MessagePack
