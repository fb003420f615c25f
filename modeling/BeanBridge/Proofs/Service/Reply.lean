import BeanBridge.Proofs.Protocol.RoundTrip
import BeanBridge.Service.Server

/-! The payloads of answers.  An answer that is too long for a frame gives way to a notice, and the
notice is short, so every answer is sent, under the number of its request. -/

namespace BeanBridge

namespace MessagePack

theorem length_sizeHead_le (limit fixed n : Nat) (form8 : Option UInt8) (form16 form32 : UInt8) :
    (sizeHead limit fixed form8 form16 form32 n).length ≤ 5 := by
  have hLong : (sizeHead.long form16 form32 n).length ≤ 5 := by
    unfold sizeHead.long
    split <;> exact Nat.le_of_ble_eq_true rfl
  unfold sizeHead
  split
  · exact Nat.le_of_ble_eq_true rfl
  · cases form8 with
    | none => exact hLong
    | some form =>
      show (if n < 2 ^ 8 then form :: bigEndian 1 n else sizeHead.long form16 form32 n).length ≤ 5
      split
      · exact Nat.le_of_ble_eq_true rfl
      · exact hLong

theorem length_unsignedBytes_le (n : Nat) : (unsignedBytes n).length ≤ 9 := by
  unfold unsignedBytes
  repeat' split
  all_goals exact Nat.le_of_ble_eq_true rfl

theorem Item.size_encode_ofUInt64_le (n : UInt64) : (Item.ofUInt64 n).encode.size ≤ 9 := by
  show (ofList (unsignedBytes n.toNat)).size ≤ 9
  rw [size_ofList]
  exact length_unsignedBytes_le n.toNat

theorem Item.size_encode_ofString (s : String) :
    (Item.ofString s).encode.size = (textHead s.utf8ByteSize).length + s.utf8ByteSize := by
  show (ofList (textHead s.utf8ByteSize) ++ s.toUTF8).size = _
  rw [ByteArray.size_append, size_ofList]
  rfl

theorem Item.size_encode_ofString_le (s : String) :
    (Item.ofString s).encode.size ≤ 5 + s.utf8ByteSize := by
  have hHead : (textHead s.utf8ByteSize).length ≤ 5 := length_sizeHead_le ..
  rw [size_encode_ofString]
  omega

/-- How long names are when they are written. -/
def namesSize (names : List String) : Nat := (names.map fun name => 5 + name.utf8ByteSize).sum

theorem size_encodeEntries_ofFields_le (fields : List (String × Item)) :
    (encodeEntries (fields.map fun field => (Item.ofString field.1, field.2))).size ≤
      namesSize (fields.map Prod.fst) + (fields.map fun field => field.2.encode.size).sum := by
  induction fields with
  | nil => exact Nat.le_refl 0
  | cons field fields ih =>
    have hName := Item.size_encode_ofString_le field.1
    rw [List.map_cons, encodeEntries, ByteArray.size_append, ByteArray.size_append, List.map_cons,
      List.map_cons, List.sum_cons]
    simp only [namesSize, List.map_cons, List.sum_cons] at ih ⊢
    omega

/-- The length of a record by the lengths of its names and values. -/
theorem Item.size_encode_ofFields_le (fields : List (String × Item)) :
    (Item.ofFields fields).encode.size ≤
      5 + namesSize (fields.map Prod.fst) + (fields.map fun field => field.2.encode.size).sum := by
  have hHead (n : Nat) : (mapHead n).length ≤ 5 := length_sizeHead_le ..
  have hEntries := size_encodeEntries_ofFields_le fields
  have hLength := hHead (fields.map fun field => (Item.ofString field.1, field.2)).length
  show (Item.map (fields.map fun field => (Item.ofString field.1, field.2))).encode.size ≤ _
  rw [Item.encode, ByteArray.size_append, size_ofList]
  omega

theorem size_encodeEntries_le {entries : List (Item × Item)} {entry : Item × Item}
    (h : entry ∈ entries) : entry.2.encode.size ≤ (encodeEntries entries).size := by
  induction h with
  | head =>
    rw [encodeEntries, ByteArray.size_append, ByteArray.size_append]
    omega
  | tail _ _ ih =>
    rw [encodeEntries, ByteArray.size_append]
    omega

/-- A record is as long as any of its values. -/
theorem Item.size_encode_le_ofFields {fields : List (String × Item)} {name : String} {item : Item}
    (h : (name, item) ∈ fields) : item.encode.size ≤ (Item.ofFields fields).encode.size := by
  have hEntry : (Item.ofString name, item) ∈
      fields.map fun field => (Item.ofString field.1, field.2) := List.mem_map_of_mem h
  have hEntries : item.encode.size ≤ _ := size_encodeEntries_le hEntry
  show _ ≤ (Item.map (fields.map fun field => (Item.ofString field.1, field.2))).encode.size
  rw [Item.encode, ByteArray.size_append]
  omega

end MessagePack

theorem utf8ByteSize_ofList_le (letters : List Char) :
    (String.ofList letters).utf8ByteSize ≤ 4 * letters.length := by
  show (String.ofList letters).toByteArray.size ≤ _
  rw [String.toByteArray_ofList]
  induction letters with
  | nil => exact Nat.le_refl 0
  | cons letter letters ih =>
    have hLetter : [letter].utf8Encode.size ≤ 4 := by
      simpa [List.utf8Encode] using letter.utf8Size_le_four
    rw [List.utf8Encode_cons, ByteArray.size_append, List.length_cons]
    omega

theorem length_le_utf8ByteSize (text : String) : text.toList.length ≤ text.utf8ByteSize := by
  show _ ≤ text.toByteArray.size
  rw [← String.utf8Encode_toList]
  induction text.toList with
  | nil => exact Nat.le_refl 0
  | cons letter letters ih =>
    have hLetter : 0 < [letter].utf8Encode.size := by
      simpa [List.utf8Encode] using letter.utf8Size_pos
    rw [List.utf8Encode_cons, ByteArray.size_append, List.length_cons]
    omega

theorem utf8ByteSize_replicate (n : Nat) :
    (String.ofList (List.replicate n 'a')).utf8ByteSize = n := by
  show (String.ofList (List.replicate n 'a')).toByteArray.size = n
  rw [String.toByteArray_ofList]
  induction n with
  | zero => rfl
  | succ n ih =>
    rw [List.replicate_succ, List.utf8Encode_cons, ByteArray.size_append, ih, Nat.add_comm]
    rfl

theorem utf8ByteSize_toString_le {n : Nat} (h : n < 2 ^ 64) : (toString n).utf8ByteSize ≤ 80 := by
  have hDigits : (Nat.toDigits 10 n).length ≤ 20 :=
    (Nat.length_toDigits_le_iff (by decide) (by decide)).mpr (by omega)
  have hBytes := utf8ByteSize_ofList_le (Nat.toDigits 10 n)
  rw [Nat.toString_eq_ofList_toDigits]
  omega

namespace Server

open MessagePack

theorem size_encode_jmx_le (message : String) :
    (ReplyError.jmx message "" "").toItem.encode.size ≤ 128 + message.utf8ByteSize := by
  have hNames : namesSize ["type", "message", "causeMessage", "stacktrace"] = 53 := by decide
  have hType := Item.size_encode_ofString_le "jmx"
  have hEmpty := Item.size_encode_ofString_le ""
  have hMessage := Item.size_encode_ofString_le message
  have hFields := Item.size_encode_ofFields_le [("type", .ofString "jmx"),
    ("message", .ofString message), ("causeMessage", .ofString ""), ("stacktrace", .ofString "")]
  have hJmx : "jmx".utf8ByteSize = 3 := by decide
  have hNothing : "".utf8ByteSize = 0 := by decide
  simp only [List.map, hNames, List.sum_cons, List.sum_nil] at hFields
  refine Nat.le_trans hFields ?_
  omega

theorem size_encode_invalidRequest_le (message : String) :
    (ReplyError.invalidRequest message).toItem.encode.size ≤ 128 + message.utf8ByteSize := by
  have hNames : namesSize ["type", "message"] = 21 := by decide
  have hType := Item.size_encode_ofString_le "invalidRequest"
  have hMessage := Item.size_encode_ofString_le message
  have hFields := Item.size_encode_ofFields_le [("type", .ofString "invalidRequest"),
    ("message", .ofString message)]
  have hInvalid : "invalidRequest".utf8ByteSize = 14 := by decide
  simp only [List.map, hNames, List.sum_cons, List.sum_nil] at hFields
  refine Nat.le_trans hFields ?_
  omega

/-- A complaint is written in full. -/
theorem utf8ByteSize_le_size_encode_invalidRequest (id : UInt64) (message : String) :
    message.utf8ByteSize ≤ (ResponseFrame.encode ⟨id, .error (.invalidRequest message)⟩).size :=
  calc message.utf8ByteSize
    _ ≤ (Item.ofString message).encode.size := by
      rw [Item.size_encode_ofString]
      omega
    _ ≤ (ReplyError.invalidRequest message).toItem.encode.size :=
      Item.size_encode_le_ofFields (.tail _ (.head _))
    _ ≤ (Response.error (.invalidRequest message)).toItem.encode.size :=
      Item.size_encode_le_ofFields (.tail _ (.head _))
    _ ≤ (ResponseFrame.encode ⟨id, .error (.invalidRequest message)⟩).size :=
      Item.size_encode_le_ofFields (.tail _ (.head _))

theorem size_encode_error_le (id : UInt64) (error : ReplyError) :
    (ResponseFrame.encode ⟨id, .error error⟩).size ≤ 128 + error.toItem.encode.size := by
  have hOuter : namesSize ["id", "response"] = 20 := by decide
  have hInner : namesSize ["kind", "body"] = 18 := by decide
  have hError : "error".utf8ByteSize = 5 := by decide
  have hId := Item.size_encode_ofUInt64_le id
  have hKind := Item.size_encode_ofString_le "error"
  have hResponse := Item.size_encode_ofFields_le
    [("kind", .ofString "error"), ("body", error.toItem)]
  have hFrame := Item.size_encode_ofFields_le
    [("id", .ofUInt64 id), ("response", (Response.error error).toItem)]
  simp only [List.map, hOuter, hInner, List.sum_cons, List.sum_nil] at hResponse hFrame
  have hBody : (Response.error error).toItem.encode.size ≤ 64 + error.toItem.encode.size := by
    refine Nat.le_trans hResponse ?_
    omega
  refine Nat.le_trans hFrame ?_
  omega

/-- The notice in place of a long answer is short. -/
theorem size_encode_oversizeResponse_le (id : UInt64) {size : Nat} (h : size < 2 ^ 64) :
    (ResponseFrame.encode ⟨id, oversizeResponse size⟩).size ≤ Frame.maxSize := by
  have hDigits := utf8ByteSize_toString_le h
  have hLimit : (toString Frame.maxSize).utf8ByteSize = 8 := by decide
  have hBefore : "response exceeds maximum frame size: ".utf8ByteSize = 37 := by decide
  have hBetween : " > ".utf8ByteSize = 3 := by decide
  have hBehind : " bytes".utf8ByteSize = 6 := by decide
  have hMessage := size_encode_jmx_le ("response exceeds maximum frame size: " ++ toString size ++
    " > " ++ toString Frame.maxSize ++ " bytes")
  rw [String.utf8ByteSize_append, String.utf8ByteSize_append, String.utf8ByteSize_append,
    String.utf8ByteSize_append, hBefore, hBetween, hBehind, hLimit] at hMessage
  have hShort : 512 ≤ Frame.maxSize := by decide
  refine Nat.le_trans (size_encode_error_le id _) ?_
  omega

/-- What is told in place of a response: the response itself, if it fits a frame. -/
def told (frame : ResponseFrame) : Response :=
  if frame.encode.size ≤ Frame.maxSize then frame.response
  else oversizeResponse frame.encode.size

theorem replyPayload_eq (frame : ResponseFrame) :
    replyPayload frame = ResponseFrame.encode ⟨frame.id, told frame⟩ := by
  by_cases hFits : frame.encode.size ≤ Frame.maxSize
  · simp only [replyPayload, told, if_pos hFits]
  · simp only [replyPayload, told, if_neg hFits]

/-- Every answer fits a frame. -/
theorem size_replyPayload_le {frame : ResponseFrame} (h : frame.encode.size < 2 ^ 64) :
    (replyPayload frame).size ≤ Frame.maxSize := by
  by_cases hFits : frame.encode.size ≤ Frame.maxSize
  · simp only [replyPayload, if_pos hFits]
    exact hFits
  · simp only [replyPayload, if_neg hFits]
    exact size_encode_oversizeResponse_le frame.id h

/-- Every answer is read as what is told under the number of the request. -/
theorem decode?_replyPayload {frame : ResponseFrame} (h : frame.encode.size < 2 ^ 64) :
    ResponseFrame.decode? (replyPayload frame) = some ⟨frame.id, told frame⟩ := by
  have hFits := size_replyPayload_le h
  rw [replyPayload_eq] at hFits ⊢
  have hRead := ResponseFrame.decode?_encode hFits .empty
  rwa [ByteArray.append_empty] at hRead

/-- A response that is too long is told as another, for the notice is never too long. -/
theorem told_eq_iff {frame : ResponseFrame} (h : frame.encode.size < 2 ^ 64) :
    told frame = frame.response ↔ frame.encode.size ≤ Frame.maxSize := by
  constructor
  · intro hTold
    by_contra hLong
    -- Else the response would be the notice of its own length, and that fits.
    have hNotice : frame.response = oversizeResponse frame.encode.size := by
      rw [← hTold, told, if_neg hLong]
    have hShort := size_encode_oversizeResponse_le frame.id h
    rw [← hNotice] at hShort
    exact hLong hShort
  · intro hFits
    rw [told, if_pos hFits]

/-- Whatever the response, its answer is taken as a frame and read under the number of the request.
It is read as the response if and only if that fits a frame, and else as an error that tells how
long it would have been. -/
theorem long_reply_gives_way_to_notice (frame : ResponseFrame) (h : frame.encode.size < 2 ^ 64) :
    let payload := replyPayload frame
    payload.size ≤ Frame.maxSize ∧
    Frame.encode payload = .ok (Frame.header payload.size ++ payload) ∧
    ∃ read, ResponseFrame.decode? payload = some read ∧ read.id = frame.id ∧
      (read = frame ↔ frame.encode.size ≤ Frame.maxSize) ∧
      (Frame.maxSize < frame.encode.size → read.response = .error (.jmx
        ("response exceeds maximum frame size: " ++ toString frame.encode.size ++ " > " ++
          toString Frame.maxSize ++ " bytes") "" "")) := by
  intro payload
  have hFits : payload.size ≤ Frame.maxSize := size_replyPayload_le h
  have hTold : (⟨frame.id, told frame⟩ : ResponseFrame) = frame ↔ told frame = frame.response := by
    obtain ⟨id, response⟩ := frame
    simp
  refine ⟨hFits, if_pos hFits, ⟨frame.id, told frame⟩, decode?_replyPayload h, rfl,
    hTold.trans (told_eq_iff h), fun hLong => ?_⟩
  show told frame = _
  rw [told, if_neg (Nat.not_le.mpr hLong)]
  rfl

/-- An error whose message alone is too long for a frame. -/
theorem long_reply_gives_way_to_notice_of_message :
    let message := String.ofList (List.replicate (Frame.maxSize + 1) 'a')
    let frame : ResponseFrame := ⟨7, .error (.jmx message "" "")⟩
    frame.encode.size < 2 ^ 64 ∧ Frame.maxSize < frame.encode.size ∧
      ∃ read, ResponseFrame.decode? (replyPayload frame) = some read ∧ read.id = 7 ∧
        read ≠ frame := by
  intro message frame
  have hMessage : message.utf8ByteSize = Frame.maxSize + 1 := utf8ByteSize_replicate _
  have hUpper : frame.encode.size < 2 ^ 64 := by
    have hFrame : frame.encode.size ≤ _ := size_encode_error_le 7 (.jmx message "" "")
    have hError := size_encode_jmx_le message
    have hLimit : 256 + Frame.maxSize + 1 < 2 ^ 64 := by decide
    omega
  have hLower : Frame.maxSize < frame.encode.size :=
    calc Frame.maxSize
      _ < (Item.ofString message).encode.size := by
        rw [Item.size_encode_ofString]
        omega
      _ ≤ (ReplyError.jmx message "" "").toItem.encode.size :=
        Item.size_encode_le_ofFields (.tail _ (.head _))
      _ ≤ frame.response.toItem.encode.size :=
        Item.size_encode_le_ofFields (.tail _ (.head _))
      _ ≤ frame.encode.size :=
        Item.size_encode_le_ofFields (.tail _ (.head _))
  obtain ⟨-, -, read, hRead, hId, hSame, -⟩ := long_reply_gives_way_to_notice frame hUpper
  exact ⟨hUpper, hLower, read, hRead, hId, fun hEq => Nat.not_le.mpr hLower (hSame.mp hEq)⟩

end Server

end BeanBridge
