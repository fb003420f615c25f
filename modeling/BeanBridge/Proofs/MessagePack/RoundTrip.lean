import BeanBridge.Proofs.MessagePack.Number

/-! Reading an item back from its bytes.  `Canonical` are the items that the writer's choice of
forms loses nothing of; each of them is read back from its bytes, with what follows them left over,
as long as it fits 32-bit sizes. -/

namespace BeanBridge.MessagePack

/-- An item of which nothing is lost when it is written: unsigned numbers are as wide as they have
to be and signed ones negative, and containers nest at most `depth` deep. -/
inductive Item.Canonical : (depth : Nat) → Item → Prop
  | nil {depth : Nat} : Canonical depth .nil
  | bool {depth : Nat} (b : Bool) : Canonical depth (.bool b)
  | unsigned {depth : Nat} (n : UInt64) : Canonical depth (.unsigned n (.least n))
  | signed {depth : Nat} {n : Int64} : n.toInt < 0 → Canonical depth (.signed n)
  | double {depth : Nat} (x : Double) : Canonical depth (.double x)
  | text {depth : Nat} (bytes : ByteArray) : Canonical depth (.text bytes)
  | array {depth : Nat} {items : List Item} :
      (∀ item ∈ items, Canonical depth item) → Canonical (depth + 1) (.array items)
  | map {depth : Nat} {entries : List (Item × Item)} :
      (∀ entry ∈ entries, Canonical depth entry.1) →
      (∀ entry ∈ entries, Canonical depth entry.2) → Canonical (depth + 1) (.map entries)

/-! ### What the first byte leads to -/

section Heads

variable {depth width count : Nat} {byte : UInt8}

theorem item?_flat {head : Head} {read : ItemReader} (h : headOf byte = head)
    (hFlat : ∀ inner, head.read inner = read) (bytes : List UInt8) :
    item? depth (byte :: bytes) = read bytes := by
  cases depth with
  | zero => rw [← hFlat none, ← h]; rfl
  | succ depth => rw [← hFlat (some (item? depth)), ← h]; rfl

theorem item?_nested {head : Head} (h : headOf byte = head) (bytes : List UInt8) :
    item? (depth + 1) (byte :: bytes) = head.read (some (item? depth)) bytes := by
  rw [← h]
  rfl

theorem item?_whole {item : Item} (h : headOf byte = .whole item) (bytes : List UInt8) :
    item? depth (byte :: bytes) = some (item, bytes) := item?_flat h (fun _ => rfl) bytes

theorem item?_number {item : Nat → Item} (h : headOf byte = .number width item)
    (bytes : List UInt8) :
    item? depth (byte :: bytes) = (number? width bytes).map fun (n, rest) => (item n, rest) :=
  item?_flat h (fun _ => rfl) bytes

theorem item?_bytes {item : ByteArray → Item} (h : headOf byte = .bytes count item)
    (bytes : List UInt8) :
    item? depth (byte :: bytes) =
      (take? count bytes).map fun (front, rest) => (item ⟨front.toArray⟩, rest) :=
  item?_flat h (fun _ => rfl) bytes

theorem item?_sizedBytes {item : ByteArray → Item} (h : headOf byte = .sizedBytes width item)
    (bytes : List UInt8) :
    item? depth (byte :: bytes) = (number? width bytes).bind fun (count, bytes) =>
      (take? count bytes).map fun (front, rest) => (item ⟨front.toArray⟩, rest) :=
  item?_flat h (fun _ => rfl) bytes

theorem item?_items (h : headOf byte = .items count) (bytes : List UInt8) :
    item? (depth + 1) (byte :: bytes) =
      (items? (item? depth) count [] bytes).map fun (items, rest) => (.array items, rest) :=
  item?_nested h bytes

theorem item?_sizedItems (h : headOf byte = .sizedItems width) (bytes : List UInt8) :
    item? (depth + 1) (byte :: bytes) = (number? width bytes).bind fun (count, bytes) =>
      (items? (item? depth) count [] bytes).map fun (items, rest) => (.array items, rest) :=
  item?_nested h bytes

theorem item?_entries (h : headOf byte = .entries count) (bytes : List UInt8) :
    item? (depth + 1) (byte :: bytes) =
      (entries? (item? depth) count [] bytes).map fun (entries, rest) => (.map entries, rest) :=
  item?_nested h bytes

theorem item?_sizedEntries (h : headOf byte = .sizedEntries width) (bytes : List UInt8) :
    item? (depth + 1) (byte :: bytes) = (number? width bytes).bind fun (count, bytes) =>
      (entries? (item? depth) count [] bytes).map fun (entries, rest) => (.map entries, rest) :=
  item?_nested h bytes

end Heads

theorem toNat_ofNat {n : Nat} (h : n < 2 ^ 8) : (UInt8.ofNat n).toNat = n := by
  rw [UInt8.toNat_ofNat', Nat.mod_eq_of_lt h]

theorem headOf_small {n : Nat} (h : n < 2 ^ 7) :
    headOf (.ofNat n) = .whole (.unsigned (.ofNat n) .one) := by
  simp only [headOf, toNat_ofNat (show n < 2 ^ 8 by omega)]
  rw [if_pos (by omega)]

theorem headOf_map {n : Nat} (h : n < 16) : headOf (.ofNat (0x80 + n)) = .entries n := by
  simp only [headOf, toNat_ofNat (show 0x80 + n < 2 ^ 8 by omega)]
  rw [if_neg (by omega), if_pos (by omega), Nat.add_sub_cancel_left]

theorem headOf_array {n : Nat} (h : n < 16) : headOf (.ofNat (0x90 + n)) = .items n := by
  simp only [headOf, toNat_ofNat (show 0x90 + n < 2 ^ 8 by omega)]
  rw [if_neg (by omega), if_neg (by omega), if_pos (by omega), Nat.add_sub_cancel_left]

theorem headOf_text {n : Nat} (h : n < 32) : headOf (.ofNat (0xa0 + n)) = .bytes n .text := by
  simp only [headOf, toNat_ofNat (show 0xa0 + n < 2 ^ 8 by omega)]
  rw [if_neg (by omega), if_neg (by omega), if_neg (by omega), if_pos (by omega),
    Nat.add_sub_cancel_left]

theorem headOf_negative {n : Nat} (hLow : 0xe0 ≤ n) (hHigh : n < 2 ^ 8) :
    headOf (.ofNat n) = .whole (.signed (toSigned 1 n)) := by
  simp only [headOf, toNat_ofNat hHigh]
  rw [if_neg (by omega), if_neg (by omega), if_neg (by omega), if_neg (by omega), if_pos hLow]

/-! ### Numbers and sizes -/

theorem item?_unsigned (depth : Nat) (n : UInt64) (rest : List UInt8) :
    item? depth (unsignedBytes n.toNat ++ rest) = some (.unsigned n (.least n), rest) := by
  have hRange := n.toNat_lt
  have hBack : UInt64.ofNat n.toNat = n := UInt64.ofNat_toNat
  unfold unsignedBytes Width.least
  split
  · rename_i hFixed
    rw [List.singleton_append, item?_whole (headOf_small hFixed), hBack, if_pos (by omega)]
  split
  · rename_i hOne
    rw [List.cons_append, item?_number rfl, number?_bigEndian (by omega)]
    simp only [Option.map_some, hBack]
  split
  · rename_i hTwo
    rw [List.cons_append, item?_number rfl, number?_bigEndian (by omega)]
    simp only [Option.map_some, hBack]
  split
  · rename_i hFour
    rw [List.cons_append, item?_number rfl, number?_bigEndian (by omega)]
    simp only [Option.map_some, hBack]
  · rw [List.cons_append, item?_number rfl, number?_bigEndian (by omega)]
    simp only [Option.map_some, hBack]

theorem item?_signed (depth : Nat) {n : Int64} (hNegative : n.toInt < 0) (rest : List UInt8) :
    item? depth (signedBytes n.toInt ++ rest) = some (.signed n, rest) := by
  have hLow : -2 ^ 63 ≤ n.toInt := n.le_toInt
  unfold signedBytes
  rw [if_neg (by omega)]
  split
  · rename_i hFixed
    rw [List.singleton_append, item?_whole (headOf_negative (by omega) (by omega)),
      toSigned_complement 1 (by omega) (by omega) hNegative]
  split
  · rename_i hOne
    rw [List.cons_append, item?_number rfl, number?_bigEndian (by omega)]
    simp only [Option.map_some]
    rw [toSigned_complement 1 (by omega) (by omega) hNegative]
  split
  · rename_i hTwo
    rw [List.cons_append, item?_number rfl, number?_bigEndian (by omega)]
    simp only [Option.map_some]
    rw [toSigned_complement 2 (by omega) (by omega) hNegative]
  split
  · rename_i hFour
    rw [List.cons_append, item?_number rfl, number?_bigEndian (by omega)]
    simp only [Option.map_some]
    rw [toSigned_complement 4 (by omega) (by omega) hNegative]
  · rw [List.cons_append, item?_number rfl, number?_bigEndian (by omega)]
    simp only [Option.map_some]
    rw [toSigned_complement 8 (by omega) (by omega) hNegative]

/-- A size is read back from whichever form it is written in, when `read` says what is read behind
a size. -/
theorem item?_sizeHead {depth limit fixed n : Nat} {form8 : Option UInt8} {form16 form32 : UInt8}
    (read : Nat → ItemReader)
    (hFixed : n < limit → ∀ bytes, item? depth (.ofNat (fixed + n) :: bytes) = read n bytes)
    (h8 : ∀ form, form8 = some form → ∀ bytes, item? depth (form :: bytes) =
      (number? 1 bytes).bind fun (n, rest) => read n rest)
    (h16 : ∀ bytes, item? depth (form16 :: bytes) =
      (number? 2 bytes).bind fun (n, rest) => read n rest)
    (h32 : ∀ bytes, item? depth (form32 :: bytes) =
      (number? 4 bytes).bind fun (n, rest) => read n rest)
    (hSize : n < 2 ^ 32) (bytes : List UInt8) :
    item? depth (sizeHead limit fixed form8 form16 form32 n ++ bytes) = read n bytes := by
  have hLong : item? depth (sizeHead.long form16 form32 n ++ bytes) = read n bytes := by
    unfold sizeHead.long
    split
    · rename_i hTwo
      rw [List.cons_append, h16, number?_bigEndian (by omega), Option.bind_some]
    · rw [List.cons_append, h32, number?_bigEndian (by omega), Option.bind_some]
  unfold sizeHead
  split
  · rename_i hSmall
    rw [List.singleton_append, hFixed hSmall]
  · split
    · rename_i form
      split
      · rename_i hOne
        rw [List.cons_append, h8 form rfl, number?_bigEndian (by omega), Option.bind_some]
      · exact hLong
    · exact hLong

section Sizes

variable {depth n : Nat} (h : n < 2 ^ 32) (bytes : List UInt8)
include h

theorem item?_textHead :
    item? depth (textHead n ++ bytes) =
      (take? n bytes).map fun (front, rest) => (.text ⟨front.toArray⟩, rest) := by
  unfold textHead
  refine item?_sizeHead
    (fun n bytes => (take? n bytes).map fun (front, rest) => (.text ⟨front.toArray⟩, rest))
    (fun hSmall => item?_bytes (headOf_text hSmall)) ?_ ?_ ?_ h bytes
  · rintro form hForm
    obtain rfl := Option.some.inj hForm
    exact item?_sizedBytes rfl
  · exact item?_sizedBytes rfl
  · exact item?_sizedBytes rfl

theorem item?_arrayHead :
    item? (depth + 1) (arrayHead n ++ bytes) =
      (items? (item? depth) n [] bytes).map fun (items, rest) => (.array items, rest) := by
  unfold arrayHead
  refine item?_sizeHead
    (fun n bytes => (items? (item? depth) n [] bytes).map fun (items, rest) => (.array items, rest))
    (fun hSmall => item?_items (headOf_array hSmall)) ?_ ?_ ?_ h bytes
  · simp
  · exact item?_sizedItems rfl
  · exact item?_sizedItems rfl

theorem item?_mapHead :
    item? (depth + 1) (mapHead n ++ bytes) =
      (entries? (item? depth) n [] bytes).map fun (entries, rest) => (.map entries, rest) := by
  unfold mapHead
  refine item?_sizeHead
    (fun n bytes =>
      (entries? (item? depth) n [] bytes).map fun (entries, rest) => (.map entries, rest))
    (fun hSmall => item?_entries (headOf_map hSmall)) ?_ ?_ ?_ h bytes
  · simp
  · exact item?_sizedEntries rfl
  · exact item?_sizedEntries rfl

end Sizes

/-! ### How long the written form is -/

theorem length_sizeHead_pos (limit fixed n : Nat) (form8 : Option UInt8) (form16 form32 : UInt8) :
    0 < (sizeHead limit fixed form8 form16 form32 n).length := by
  have hLong : 0 < (sizeHead.long form16 form32 n).length := by
    unfold sizeHead.long
    split <;> simp
  unfold sizeHead
  split
  · simp
  · split
    · split
      · simp
      · exact hLong
    · exact hLong

theorem length_unsignedBytes_pos (n : Nat) : 0 < (unsignedBytes n).length := by
  unfold unsignedBytes
  repeat' split
  all_goals simp

theorem length_signedBytes_pos (n : Int) : 0 < (signedBytes n).length := by
  unfold signedBytes
  split
  · exact length_unsignedBytes_pos _
  repeat' split
  all_goals simp

@[simp] theorem size_ofList (bytes : List UInt8) : (ofList bytes).size = bytes.length := by
  rw [ofList, ByteArray.size, List.size_toArray]

/-- No item is written in no bytes. -/
theorem Item.size_encode_pos (item : Item) : 0 < item.encode.size := by
  have hHead := length_sizeHead_pos
  cases item <;> rw [Item.encode] <;> try rw [ByteArray.size_append]
  all_goals rw [size_ofList]
  case nil | bool | single | double | extension => simp
  case unsigned n _ => exact length_unsignedBytes_pos _
  case signed n => exact length_signedBytes_pos _
  case text | binary | array | map => exact Nat.add_pos_left (hHead ..) _

theorem length_le_size_encodeItems (items : List Item) :
    items.length ≤ (encodeItems items).size := by
  induction items with
  | nil => exact Nat.zero_le _
  | cons item items ih =>
    have hItem := item.size_encode_pos
    rw [encodeItems, ByteArray.size_append, List.length_cons]
    omega

theorem length_le_size_encodeEntries (entries : List (Item × Item)) :
    entries.length ≤ (encodeEntries entries).size := by
  induction entries with
  | nil => exact Nat.zero_le _
  | cons entry entries ih =>
    have hKey := entry.1.size_encode_pos
    rw [encodeEntries, ByteArray.size_append, ByteArray.size_append, List.length_cons]
    omega

theorem size_encode_le_of_mem {item : Item} {items : List Item} (h : item ∈ items) :
    item.encode.size ≤ (encodeItems items).size := by
  induction h with
  | head items =>
    rw [encodeItems, ByteArray.size_append]
    omega
  | tail _ _ ih =>
    rw [encodeItems, ByteArray.size_append]
    omega

theorem size_encode_le_of_mem_entries {entry : Item × Item} {entries : List (Item × Item)}
    (h : entry ∈ entries) :
    entry.1.encode.size ≤ (encodeEntries entries).size ∧
      entry.2.encode.size ≤ (encodeEntries entries).size := by
  induction h with
  | head entries =>
    rw [encodeEntries, ByteArray.size_append, ByteArray.size_append]
    omega
  | tail _ _ ih =>
    rw [encodeEntries, ByteArray.size_append, ByteArray.size_append]
    omega

/-! ### Reading back -/

theorem items?_encodeItems {read : ItemReader} (items : List Item)
    (h : ∀ item ∈ items, ∀ rest, read (item.encode.data.toList ++ rest) = some (item, rest))
    (before : List Item) (rest : List UInt8) :
    items? read items.length before ((encodeItems items).data.toList ++ rest) =
      some (before.reverse ++ items, rest) := by
  induction items generalizing before with
  | nil => simp [items?, encodeItems]
  | cons item items ih =>
    have hItem := h item List.mem_cons_self
    have hItems := ih (fun item hMem => h item (List.mem_cons_of_mem _ hMem)) (item :: before)
    rw [encodeItems, ByteArray.toList_data_append, List.append_assoc, List.length_cons, items?,
      hItem, Option.bind_eq_bind, Option.bind_some]
    dsimp only
    rw [hItems]
    simp

theorem entries?_encodeEntries {read : ItemReader} (entries : List (Item × Item))
    (hKeys : ∀ entry ∈ entries, ∀ rest,
      read (entry.1.encode.data.toList ++ rest) = some (entry.1, rest))
    (hValues : ∀ entry ∈ entries, ∀ rest,
      read (entry.2.encode.data.toList ++ rest) = some (entry.2, rest))
    (before : List (Item × Item)) (rest : List UInt8) :
    entries? read entries.length before ((encodeEntries entries).data.toList ++ rest) =
      some (before.reverse ++ entries, rest) := by
  induction entries generalizing before with
  | nil => simp [entries?, encodeEntries]
  | cons entry entries ih =>
    have hKey := hKeys entry List.mem_cons_self
    have hValue := hValues entry List.mem_cons_self
    have hEntries := ih (fun entry hMem => hKeys entry (List.mem_cons_of_mem _ hMem))
      (fun entry hMem => hValues entry (List.mem_cons_of_mem _ hMem)) (entry :: before)
    rw [encodeEntries, ByteArray.toList_data_append, ByteArray.toList_data_append,
      List.append_assoc, List.append_assoc, List.length_cons, entries?, hKey,
      Option.bind_eq_bind, Option.bind_some]
    dsimp only
    rw [hValue, Option.bind_some]
    dsimp only
    rw [hEntries]
    simp

/-- A canonical item is read back from its bytes, and what follows them is left. -/
theorem item?_encode {depth : Nat} {item : Item} (h : item.Canonical depth)
    (hSize : item.encode.size < 2 ^ 32) (rest : List UInt8) :
    item? depth (item.encode.data.toList ++ rest) = some (item, rest) := by
  induction h generalizing rest with
  | nil => rw [Item.encode, toList_ofList, List.singleton_append, item?_whole rfl]
  | bool b =>
    rw [Item.encode, toList_ofList, List.singleton_append]
    cases b
    · exact item?_whole rfl _
    · exact item?_whole rfl _
  | unsigned n => rw [Item.encode, toList_ofList, item?_unsigned]
  | signed hNegative => rw [Item.encode, toList_ofList, item?_signed _ hNegative]
  | double x =>
    have hRange := x.bits.toNat_lt
    rw [Item.encode, toList_ofList, List.cons_append, item?_number rfl,
      number?_bigEndian (by omega)]
    simp
  | text bytes =>
    rw [Item.encode, ByteArray.size_append] at hSize
    rw [Item.encode, ByteArray.toList_data_append, toList_ofList, List.append_assoc,
      item?_textHead (by omega), take?_append (by simp)]
    simp
  | @array depth items hItems ih =>
    rw [Item.encode, ByteArray.size_append] at hSize
    have hLength := length_le_size_encodeItems items
    rw [Item.encode, ByteArray.toList_data_append, toList_ofList, List.append_assoc,
      item?_arrayHead (by omega), items?_encodeItems]
    · simp
    · intro item hMem
      have hLe := size_encode_le_of_mem hMem
      exact ih item hMem (by omega)
  | @map depth entries hKeys hValues ihKeys ihValues =>
    rw [Item.encode, ByteArray.size_append] at hSize
    have hLength := length_le_size_encodeEntries entries
    rw [Item.encode, ByteArray.toList_data_append, toList_ofList, List.append_assoc,
      item?_mapHead (by omega), entries?_encodeEntries]
    · simp
    · intro entry hMem
      have hLe := size_encode_le_of_mem_entries hMem
      exact ihKeys entry hMem (by omega)
    · intro entry hMem
      have hLe := size_encode_le_of_mem_entries hMem
      exact ihValues entry hMem (by omega)

/-- Bytes that begin with a canonical item decode to it. -/
theorem decode?_encode {item : Item} (h : item.Canonical maxDepth)
    (hSize : item.encode.size < 2 ^ 32) (rest : ByteArray) :
    decode? (item.encode ++ rest) = some item := by
  rw [decode?, ByteArray.toList_data_append, item?_encode h hSize, Option.map_some]

end BeanBridge.MessagePack
