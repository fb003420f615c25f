import BeanBridge.Frame.Decoder

/-! Frames taken from a stream of frames.  Whatever the pieces are in which the stream arrives, a
decoder takes the payloads in order and holds back what is not complete. -/

namespace BeanBridge.Frame

/-- The bytes of pieces, one behind the other. -/
def joined (pieces : List ByteArray) : ByteArray := pieces.foldr (· ++ ·) .empty

/-- The frames of payloads, one behind the other. -/
def stream (payloads : List ByteArray) : ByteArray := joined (payloads.map sent)

@[simp] theorem joined_nil : joined [] = .empty := rfl

@[simp] theorem joined_cons (piece : ByteArray) (pieces : List ByteArray) :
    joined (piece :: pieces) = piece ++ joined pieces := rfl

@[simp] theorem stream_nil : stream [] = .empty := rfl

@[simp] theorem stream_cons (payload : ByteArray) (payloads : List ByteArray) :
    stream (payload :: payloads) = sent payload ++ stream payloads := rfl

theorem stream_append (first second : List ByteArray) :
    stream (first ++ second) = stream first ++ stream second := by
  induction first with
  | nil => exact ByteArray.empty_append.symm
  | cons payload payloads ih =>
    rw [List.cons_append, stream_cons, stream_cons, ih, ByteArray.append_assoc]

/-- No payload that fits a frame has a size of more than 32 bits. -/
theorem maxSize_lt : maxSize < 2 ^ 32 := by decide

theorem encode_eq_ok {payload : ByteArray} (h : payload.size ≤ maxSize) :
    encode payload = .ok (header payload.size ++ payload) := if_pos h

theorem sent_eq {payload : ByteArray} (h : payload.size ≤ maxSize) :
    sent payload = header payload.size ++ payload := by
  rw [sent, encode_eq_ok h]

@[simp] theorem size_header (n : Nat) : (header n).size = 4 := rfl

theorem size_sent {payload : ByteArray} (h : payload.size ≤ maxSize) :
    (sent payload).size = 4 + payload.size := by
  rw [sent_eq h, ByteArray.size_append, size_header]

/-- Bytes cut in two are the two parts together. -/
theorem extract_append_extract {bytes : ByteArray} {size : Nat} (h : size ≤ bytes.size) :
    bytes.extract 0 size ++ bytes.extract size bytes.size = bytes := by
  rw [← ByteArray.extract_eq_extract_append_extract size (Nat.zero_le size) h,
    ByteArray.extract_zero_size]

theorem eq_empty_of_append_eq_empty {a b : ByteArray} (h : a ++ b = .empty) :
    a = .empty ∧ b = .empty := by
  have hSize := congrArg ByteArray.size h
  rw [ByteArray.size_append, ByteArray.size_empty] at hSize
  exact ⟨ByteArray.size_eq_zero_iff.mp (by omega), ByteArray.size_eq_zero_iff.mp (by omega)⟩

/-- Two ways to cut the same bytes in two, the first part of one being no longer than that of the
other. -/
theorem exists_append_of_append_eq {a b c d : ByteArray} (h : a ++ b = c ++ d)
    (hSize : c.size ≤ a.size) : ∃ more, a = c ++ more ∧ more ++ b = d := by
  obtain ⟨front, more, rfl, hFront⟩ : ∃ front more, a = front ++ more ∧ front.size = c.size := by
    refine ⟨a.extract 0 c.size, a.extract c.size a.size, (extract_append_extract hSize).symm, ?_⟩
    rw [ByteArray.size_extract]
    omega
  rw [ByteArray.append_assoc, ByteArray.append_eq_append_iff_of_size_eq_left hFront] at h
  exact ⟨more, by rw [h.1], h.2⟩

theorem getElem?_append_left {a b : ByteArray} {i : Nat} (h : i < a.size) :
    (a ++ b)[i]? = a[i]? := by
  have hBoth : i < (a ++ b).size := by
    rw [ByteArray.size_append]
    omega
  rw [getElem?_pos a i h, getElem?_pos (a ++ b) i hBoth, ByteArray.getElem_append_left h]

namespace Decoder

theorem length?_header {n : Nat} (h : n < 2 ^ 32) (more : ByteArray) :
    length? (header n ++ more) = some n := by
  have hByte {i : Nat} (hi : i < 4) : (header n ++ more)[i]? = (header n)[i]? :=
    getElem?_append_left hi
  rw [length?, hByte (show 0 < 4 by omega), hByte (show 1 < 4 by omega),
    hByte (show 2 < 4 by omega), hByte (show 3 < 4 by omega)]
  show some ((((UInt8.ofNat (n / 2 ^ 24)).toNat * 2 ^ 8 + (UInt8.ofNat (n / 2 ^ 16)).toNat) *
    2 ^ 8 + (UInt8.ofNat (n / 2 ^ 8)).toNat) * 2 ^ 8 + (UInt8.ofNat n).toNat) = some n
  simp only [UInt8.toNat_ofNat']
  congr 1
  omega

theorem length?_eq_none {buffer : ByteArray} (h : buffer.size < 4) : length? buffer = none := by
  have hLast : buffer[3]? = none := getElem?_neg buffer 3 (by omega)
  rw [length?, hLast]
  split
  · rename_i hSome
    nomatch hSome
  · rfl

/-- What has arrived and is not taken yet, with the header of a payload that is announced. -/
def unread (decoder : Decoder) : ByteArray :=
  match decoder.announced with
  | none => decoder.buffer
  | some length => header length ++ decoder.buffer

/-- What is announced fits a frame. -/
def Sound (decoder : Decoder) : Prop := ∀ length ∈ decoder.announced, length ≤ maxSize

/-- Nothing can be taken before more arrives. -/
def Settled (decoder : Decoder) : Prop := decoder.next = (.incomplete, decoder)

theorem sound_none (buffer : ByteArray) : Sound ⟨none, buffer⟩ := nofun

theorem sound_start : ({} : Decoder).Sound := nofun

theorem settled_start : ({} : Decoder).Settled := rfl

theorem Sound.push {decoder : Decoder} (h : decoder.Sound) (chunk : ByteArray) :
    (decoder.push chunk).Sound := h

theorem unread_push (decoder : Decoder) (chunk : ByteArray) :
    (decoder.push chunk).unread = decoder.unread ++ chunk := by
  obtain ⟨_ | length, buffer⟩ := decoder
  · rfl
  · exact ByteArray.append_assoc.symm

theorem size_unread_le (decoder : Decoder) : decoder.unread.size ≤ decoder.buffer.size + 4 := by
  obtain ⟨_ | length, buffer⟩ := decoder
  · exact Nat.le_add_right _ _
  · have hBoth : (header length ++ buffer).size = 4 + buffer.size := by
      rw [ByteArray.size_append, size_header]
    exact Nat.le_of_eq (hBoth.trans (Nat.add_comm _ _))

theorem takePayload_append (payload more : ByteArray) :
    takePayload payload.size (payload ++ more) = (.payload payload, ⟨none, more⟩) := by
  have hEnough : ¬(payload ++ more).size < payload.size := by
    rw [ByteArray.size_append]
    omega
  rw [takePayload, if_neg hEnough, ByteArray.extract_append_eq_left rfl,
    ByteArray.extract_append_eq_right rfl ByteArray.size_append]

theorem takePayload_short {length : Nat} {buffer : ByteArray} (h : buffer.size < length) :
    takePayload length buffer = (.incomplete, ⟨some length, buffer⟩) := if_pos h

/-- A header that is complete is read before anything else. -/
theorem next_header {length : Nat} (h : length < 2 ^ 32) (more : ByteArray) :
    next ⟨none, header length ++ more⟩ =
      if maxSize < length then (.failed .frameTooBig, ⟨none, header length ++ more⟩)
      else takePayload length more := by
  have hMore : (header length ++ more).extract 4 (header length ++ more).size = more :=
    ByteArray.extract_append_eq_right rfl ByteArray.size_append
  simp only [next, length?_header h, hMore]

theorem next_short {buffer : ByteArray} (h : buffer.size < 4) : Settled ⟨none, buffer⟩ := by
  rw [Settled, next, length?_eq_none h]

/-- A decoder that has seen a whole header is the one that has announced it or is about to. -/
theorem next_of_unread {decoder : Decoder} {length : Nat} {more : ByteArray}
    (hSound : decoder.Sound) (hLength : length ≤ maxSize)
    (hUnread : decoder.unread = header length ++ more) :
    decoder.next = takePayload length more := by
  have hLow := Nat.lt_of_le_of_lt hLength maxSize_lt
  obtain ⟨_ | announced, buffer⟩ := decoder
  · obtain rfl : buffer = header length ++ more := hUnread
    rw [next_header hLow, if_neg (Nat.not_lt.mpr hLength)]
  · have hSame : header announced ++ buffer = header length ++ more := hUnread
    have hAnnounced : announced < 2 ^ 32 :=
      Nat.lt_of_le_of_lt (hSound announced rfl) maxSize_lt
    have hBoth := congrArg length? hSame
    rw [length?_header hAnnounced, length?_header hLow, Option.some.injEq] at hBoth
    obtain rfl : buffer = more :=
      ((ByteArray.append_eq_append_iff_of_size_eq_left (size_header announced)).mp hSame).2
    rw [hBoth]
    rfl

/-- The next payload is taken as soon as its frame is there. -/
theorem next_frame {decoder : Decoder} {payload more : ByteArray} (hSound : decoder.Sound)
    (hFits : payload.size ≤ maxSize) (hUnread : decoder.unread = sent payload ++ more) :
    decoder.next = (.payload payload, ⟨none, more⟩) := by
  rw [sent_eq hFits, ByteArray.append_assoc] at hUnread
  rw [next_of_unread hSound hFits hUnread, takePayload_append]

/-- Until then nothing is lost. -/
theorem next_partial {decoder : Decoder} {payload rest tail : ByteArray} (hSound : decoder.Sound)
    (hFits : payload.size ≤ maxSize) (hUnread : decoder.unread ++ rest = sent payload ++ tail)
    (hShort : decoder.unread.size < (sent payload).size) :
    ∃ after, decoder.next = (.incomplete, after) ∧ after.Sound ∧ after.unread = decoder.unread := by
  rw [sent_eq hFits, ByteArray.append_assoc] at hUnread
  rw [size_sent hFits] at hShort
  by_cases hHeader : 4 ≤ decoder.unread.size
  · obtain ⟨more, hMore, -⟩ := exists_append_of_append_eq hUnread hHeader
    have hSize : more.size < payload.size := by
      rw [hMore, ByteArray.size_append, size_header] at hShort
      omega
    refine ⟨⟨some payload.size, more⟩, ?_, ?_, hMore.symm⟩
    · rw [next_of_unread hSound hFits hMore, takePayload_short hSize]
    · rintro length ⟨⟩
      exact hFits
  · obtain ⟨_ | announced, buffer⟩ := decoder
    · exact ⟨_, next_short (Nat.not_le.mp hHeader), hSound, rfl⟩
    · refine absurd ?_ hHeader
      rw [unread, ByteArray.size_append, size_header]
      omega

/-- Whoever has found nothing to take finds nothing when asked again. -/
theorem settled_of_next {decoder after : Decoder} (h : decoder.next = (.incomplete, after)) :
    after.Settled := by
  have hPayload (length : Nat) (buffer : ByteArray)
      (h : takePayload length buffer = (.incomplete, after)) : after.Settled := by
    rw [takePayload] at h
    split at h
    · rename_i hShort
      obtain rfl : ⟨some length, buffer⟩ = after := congrArg Prod.snd h
      exact takePayload_short hShort
    · nomatch h
  obtain ⟨_ | length, buffer⟩ := decoder
  · simp only [next] at h
    split at h
    · rename_i hNone
      obtain rfl : ⟨none, buffer⟩ = after := congrArg Prod.snd h
      simp only [Settled, next, hNone]
    · split at h
      · nomatch h
      · exact hPayload _ _ h
  · exact hPayload _ _ h

theorem size_stream_cons_le {payload : ByteArray} (h : payload.size ≤ maxSize) (more : ByteArray) :
    4 + more.size ≤ (sent payload ++ more).size := by
  rw [ByteArray.size_append, size_sent h]
  omega

theorem takeUpTo_payload {decoder after : Decoder} {payload : ByteArray}
    (h : decoder.next = (.payload payload, after)) (count : Nat) :
    decoder.takeUpTo (count + 1) =
      (payload :: (after.takeUpTo count).1, (after.takeUpTo count).2) := by
  rw [takeUpTo, h]

/-- What is taken from a part of a stream of frames is a part of the payloads; either a frame is cut
off, or all payloads are taken and what follows them is next. -/
theorem takeUpTo_stream {rest tail : ByteArray} {payloads : List ByteArray}
    (hFits : ∀ payload ∈ payloads, payload.size ≤ maxSize) {decoder : Decoder}
    (hSound : decoder.Sound) (hBytes : decoder.unread ++ rest = stream payloads ++ tail)
    {count : Nat} (hCount : decoder.unread.size < 4 * count) :
    ∃ taken left after, payloads = taken ++ left ∧ after.Sound ∧
      after.unread ++ rest = stream left ++ tail ∧
      (decoder.takeUpTo count = (taken, none, after) ∧ after.Settled ∨
        left = [] ∧ ∃ fewer, after.unread.size < 4 * fewer ∧
          decoder.takeUpTo count =
            (taken ++ (after.takeUpTo fewer).1, (after.takeUpTo fewer).2)) := by
  induction payloads generalizing decoder count with
  | nil => exact ⟨[], [], decoder, rfl, hSound, hBytes, .inr ⟨rfl, count, hCount, rfl⟩⟩
  | cons payload payloads ih =>
    obtain ⟨hHead, hTail⟩ := List.forall_mem_cons.mp hFits
    rw [stream_cons, ByteArray.append_assoc] at hBytes
    obtain ⟨count, rfl⟩ : ∃ less, count = less + 1 := ⟨count - 1, by omega⟩
    by_cases hWhole : (sent payload).size ≤ decoder.unread.size
    · obtain ⟨more, hMore, hRest⟩ := exists_append_of_append_eq hBytes hWhole
      have hFewer : more.size < 4 * count := by
        have hSize := size_stream_cons_le hHead more
        rw [← hMore] at hSize
        omega
      obtain ⟨taken, left, after, rfl, hAfter, hLeft, hTaken⟩ :=
        ih hTail (sound_none more) hRest hFewer
      refine ⟨payload :: taken, left, after, rfl, hAfter, hLeft, ?_⟩
      rw [takeUpTo_payload (next_frame hSound hHead hMore)]
      rcases hTaken with ⟨hTaken, hSettled⟩ | ⟨hEnd, fewer, hFewer, hTaken⟩
      · exact .inl ⟨by rw [hTaken], hSettled⟩
      · exact .inr ⟨hEnd, fewer, hFewer, by rw [hTaken, List.cons_append]⟩
    · obtain ⟨after, hNext, hAfter, hSame⟩ :=
        next_partial hSound hHead hBytes (Nat.not_le.mp hWhole)
      refine ⟨[], payload :: payloads, after, rfl, hAfter, ?_, .inl ⟨?_, settled_of_next hNext⟩⟩
      · rw [hSame, hBytes, stream_cons, ByteArray.append_assoc]
      · rw [takeUpTo, hNext]

/-- What follows the last frame of a stream, and what is wrong with it: nothing, or a header that
announces too much. -/
inductive Ending : ByteArray → Option StreamError → Prop where
  | clean : Ending .empty none
  | oversize {length : Nat} (hHigh : maxSize < length) (hLow : length < 2 ^ 32)
      (more : ByteArray) : Ending (header length ++ more) (some .frameTooBig)

theorem unread_eq_empty {decoder : Decoder} (h : decoder.unread = .empty) : decoder = {} := by
  obtain ⟨_ | length, buffer⟩ := decoder
  · exact congrArg (Decoder.mk none) h
  · have hSize := congrArg ByteArray.size h
    simp [unread] at hSize

/-- A header that announces too much has not been taken. -/
theorem announced_of_oversize {decoder : Decoder} {length : Nat} {rest more : ByteArray}
    (hSound : decoder.Sound) (hHigh : maxSize < length) (hLow : length < 2 ^ 32)
    (hBytes : decoder.unread ++ rest = header length ++ more) : decoder.announced = none := by
  obtain ⟨_ | announced, buffer⟩ := decoder
  · rfl
  · have hBoth : header announced ++ (buffer ++ rest) = header length ++ more := by
      rw [← hBytes, ← ByteArray.append_assoc]
      rfl
    have hFits : announced ≤ maxSize := hSound announced rfl
    have hSame := congrArg length? hBoth
    rw [length?_header (by omega), length?_header hLow, Option.some.injEq] at hSame
    omega

/-- At the end of the frames either more has to arrive or the fault shows. -/
theorem takeUpTo_ending {rest tail : ByteArray} {error : Option StreamError}
    (hEnding : Ending tail error) {decoder : Decoder} (hSound : decoder.Sound)
    (hBytes : decoder.unread ++ rest = tail) (count : Nat) :
    decoder.Settled ∧ decoder.takeUpTo (count + 1) = ([], none, decoder) ∨
      decoder.takeUpTo (count + 1) = ([], error, decoder) ∧ error ≠ none := by
  cases hEnding with
  | clean =>
    obtain rfl := unread_eq_empty (eq_empty_of_append_eq_empty hBytes).1
    exact .inl ⟨rfl, rfl⟩
  | @oversize length hHigh hLow more =>
    have hNone := announced_of_oversize hSound hHigh hLow hBytes
    obtain ⟨announced, buffer⟩ := decoder
    obtain rfl : announced = none := hNone
    by_cases hHeader : 4 ≤ buffer.size
    · obtain ⟨more, rfl, -⟩ := exists_append_of_append_eq hBytes hHeader
      have hNext := next_header hLow more
      rw [if_pos hHigh] at hNext
      exact .inr ⟨by rw [takeUpTo, hNext], nofun⟩
    · have hSettled := next_short (Nat.not_le.mp hHeader)
      exact .inl ⟨hSettled, by rw [takeUpTo, hSettled]⟩

theorem size_unread_lt (decoder : Decoder) :
    decoder.unread.size < 4 * (decoder.buffer.size + 2) := by
  have hSize := size_unread_le decoder
  omega

/-- One pass over a stream of frames, whatever follows them. -/
theorem takeAll_prefix {rest tail : ByteArray} {payloads : List ByteArray}
    (hFits : ∀ payload ∈ payloads, payload.size ≤ maxSize) {decoder : Decoder}
    (hSound : decoder.Sound) (hBytes : decoder.unread ++ rest = stream payloads ++ tail) :
    (∃ taken left after, payloads = taken ++ left ∧ decoder.takeAll = (taken, none, after) ∧
        after.Settled ∧ after.Sound ∧ after.unread ++ rest = stream left ++ tail) ∨
      ∃ more error after, decoder.takeAll = (payloads ++ more, error, after) := by
  obtain ⟨taken, left, after, rfl, hAfter, hLeft, hTaken⟩ :=
    takeUpTo_stream hFits hSound hBytes decoder.size_unread_lt
  rcases hTaken with ⟨hTaken, hSettled⟩ | ⟨rfl, fewer, -, hTaken⟩
  · exact .inl ⟨taken, left, after, rfl, hTaken, hSettled, hAfter, hLeft⟩
  · refine .inr ⟨(after.takeUpTo fewer).1, (after.takeUpTo fewer).2.1, (after.takeUpTo fewer).2.2, ?_⟩
    rw [takeAll, hTaken, List.append_nil]

/-- One pass over a stream of frames that ends well or with a fault: the payloads that are there are
taken in order, and the fault shows only behind the last of them. -/
theorem takeAll_stream {rest tail : ByteArray} {payloads : List ByteArray}
    {error : Option StreamError} (hEnding : Ending tail error)
    (hFits : ∀ payload ∈ payloads, payload.size ≤ maxSize) {decoder : Decoder}
    (hSound : decoder.Sound) (hBytes : decoder.unread ++ rest = stream payloads ++ tail) :
    ∃ taken left after, payloads = taken ++ left ∧
      (decoder.takeAll = (taken, none, after) ∧ after.Settled ∧ after.Sound ∧
          after.unread ++ rest = stream left ++ tail ∨
        decoder.takeAll = (taken, error, after) ∧ error ≠ none ∧ left = []) := by
  obtain ⟨taken, left, after, rfl, hAfter, hLeft, hTaken⟩ :=
    takeUpTo_stream hFits hSound hBytes decoder.size_unread_lt
  refine ⟨taken, left, after, rfl, ?_⟩
  rcases hTaken with ⟨hTaken, hSettled⟩ | ⟨rfl, fewer, hFewer, hTaken⟩
  · exact .inl ⟨hTaken, hSettled, hAfter, hLeft⟩
  · obtain ⟨fewer, rfl⟩ : ∃ less, fewer = less + 1 := ⟨fewer - 1, by omega⟩
    have hTail : after.unread ++ rest = tail := by
      rw [hLeft, stream_nil, ByteArray.empty_append]
    rw [takeAll, hTaken]
    rcases takeUpTo_ending hEnding hAfter hTail fewer with ⟨hSettled, hNone⟩ | ⟨hError, hSome⟩
    · rw [hNone, List.append_nil]
      exact .inl ⟨rfl, hSettled, hAfter, hLeft⟩
    · rw [hError, List.append_nil]
      exact .inr ⟨rfl, hSome, rfl⟩

/-- A decoder that waits while nothing is to arrive any more has taken all frames. -/
theorem eq_nil_of_settled {tail : ByteArray} {payloads : List ByteArray}
    (hFits : ∀ payload ∈ payloads, payload.size ≤ maxSize) {decoder : Decoder}
    (hSound : decoder.Sound) (hSettled : decoder.Settled)
    (hBytes : decoder.unread = stream payloads ++ tail) : payloads = [] := by
  cases payloads with
  | nil => rfl
  | cons payload payloads =>
    obtain ⟨hHead, -⟩ := List.forall_mem_cons.mp hFits
    rw [stream_cons, ByteArray.append_assoc] at hBytes
    rw [Settled, next_frame hSound hHead hBytes] at hSettled
    nomatch hSettled

/-- The stream has then ended well. -/
theorem finish_of_settled {tail : ByteArray} {error : Option StreamError}
    (hEnding : Ending tail error) {decoder : Decoder} (hSound : decoder.Sound)
    (hSettled : decoder.Settled) (hBytes : decoder.unread = tail) :
    error = none ∧ decoder.finish = (none, decoder) := by
  cases hEnding with
  | clean =>
    obtain rfl := unread_eq_empty hBytes
    exact ⟨rfl, rfl⟩
  | @oversize length hHigh hLow more =>
    have hNone : decoder.announced = none :=
      announced_of_oversize hSound hHigh hLow (ByteArray.append_empty.trans hBytes)
    obtain ⟨announced, buffer⟩ := decoder
    obtain rfl : announced = none := hNone
    obtain rfl : buffer = header length ++ more := hBytes
    rw [Settled, next_header hLow, if_pos hHigh] at hSettled
    nomatch hSettled

end Decoder

end BeanBridge.Frame
