import Mathlib.Tactic.IntervalCases
import BeanBridge.Proofs.Frame.Stream

/-! What a decoder offers, whatever has arrived.  A payload that is taken is the front of what was
unread, and nothing else is taken; so all bytes are accounted for by frames and what is unread. -/

namespace BeanBridge.Frame

/-- The payload that is offered, if one is. -/
def Next.taken : Next → List ByteArray
  | payload bytes => [bytes]
  | incomplete | failed _ => []

/-- A header consists of the bytes of the length. -/
theorem header_of_bytes (a b c d : UInt8) :
    header (((a.toNat * 2 ^ 8 + b.toNat) * 2 ^ 8 + c.toNat) * 2 ^ 8 + d.toNat) = ⟨#[a, b, c, d]⟩ := by
  have ha := a.toNat_lt
  have hb := b.toNat_lt
  have hc := c.toNat_lt
  have hd := d.toNat_lt
  have hByte (n : Nat) (byte : UInt8) (h : n % 2 ^ 8 = byte.toNat) : UInt8.ofNat n = byte :=
    UInt8.toNat_inj.mp (UInt8.toNat_ofNat'.trans h)
  rw [header, hByte _ a (by omega), hByte _ b (by omega), hByte _ c (by omega),
    hByte _ d (by omega)]

namespace Decoder

/-- A buffer that shows a length starts with the header of it. -/
theorem eq_header_append {buffer : ByteArray} {n : Nat} (h : length? buffer = some n) :
    buffer = header n ++ buffer.extract 4 buffer.size := by
  rw [length?] at h
  split at h
  · rename_i a b c d ha hb hc hd
    obtain ⟨hSize, rfl⟩ := getElem?_eq_some_iff.mp hd
    obtain ⟨_, rfl⟩ := getElem?_eq_some_iff.mp ha
    obtain ⟨_, rfl⟩ := getElem?_eq_some_iff.mp hb
    obtain ⟨_, rfl⟩ := getElem?_eq_some_iff.mp hc
    have hFront : header n = buffer.extract 0 4 := by
      rw [← Option.some.inj h, header_of_bytes]
      refine ByteArray.ext_getElem ?_ ?_
      · rw [ByteArray.size_extract]
        show 4 = _
        omega
      · intro i hi hi'
        have hLow : i < 4 := hi
        rw [ByteArray.getElem_extract]
        simp only [Nat.zero_add]
        interval_cases i <;> rfl
    rw [hFront, extract_append_extract hSize]
  · cases h

/-- What is taken is the front of what is unread. -/
theorem takePayload_spec {length : Nat} (hFits : length ≤ maxSize) {buffer : ByteArray}
    {offer : Next} {after : Decoder} (h : takePayload length buffer = (offer, after)) :
    after.Sound ∧ (∀ payload ∈ offer.taken, payload.size ≤ maxSize) ∧
      header length ++ buffer = stream offer.taken ++ after.unread := by
  rw [takePayload] at h
  split at h
  · obtain ⟨rfl, rfl⟩ := Prod.mk.inj h
    refine ⟨?_, List.forall_mem_nil _, ByteArray.empty_append.symm⟩
    rintro announced ⟨⟩
    exact hFits
  · rename_i hEnough
    obtain ⟨rfl, rfl⟩ := Prod.mk.inj h
    have hSize : (buffer.extract 0 length).size = length := by
      rw [ByteArray.size_extract]
      omega
    have hWhole := extract_append_extract (Nat.not_lt.mp hEnough)
    refine ⟨sound_none _, ?_, ?_⟩
    · intro payload hPayload
      obtain rfl := List.mem_singleton.mp hPayload
      exact hSize.trans_le hFits
    · show header length ++ buffer = (sent (buffer.extract 0 length) ++ .empty) ++
        buffer.extract length buffer.size
      rw [sent_eq (hSize.trans_le hFits), hSize, ByteArray.append_empty, ByteArray.append_assoc,
        hWhole]

/-- Whatever has arrived, what a decoder offers is the front of what is unread, and the rest stays. -/
theorem next_spec {decoder after : Decoder} {offer : Next} (hSound : decoder.Sound)
    (h : decoder.next = (offer, after)) :
    after.Sound ∧ (∀ payload ∈ offer.taken, payload.size ≤ maxSize) ∧
      decoder.unread = stream offer.taken ++ after.unread := by
  obtain ⟨_ | length, buffer⟩ := decoder
  · simp only [next] at h
    split at h
    · obtain ⟨rfl, rfl⟩ := Prod.mk.inj h
      exact ⟨hSound, List.forall_mem_nil _, ByteArray.empty_append.symm⟩
    · rename_i length hLength
      split at h
      · obtain ⟨rfl, rfl⟩ := Prod.mk.inj h
        exact ⟨hSound, List.forall_mem_nil _, ByteArray.empty_append.symm⟩
      · rename_i hFits
        have hTaken := takePayload_spec (Nat.not_lt.mp hFits) h
        rwa [← eq_header_append hLength] at hTaken
  · exact takePayload_spec (hSound length rfl) h

/-- The same when no more will arrive. -/
theorem finish_spec {decoder after : Decoder} {offer : Option Next} (hSound : decoder.Sound)
    (h : decoder.finish = (offer, after)) :
    after.Sound ∧ (∀ payload ∈ offer.elim [] Next.taken, payload.size ≤ maxSize) ∧
      decoder.unread = stream (offer.elim [] Next.taken) ++ after.unread := by
  rw [finish] at h
  split at h
  · rename_i decoder hNext
    have hSpec := next_spec hSound hNext
    split at h
    · obtain ⟨rfl, rfl⟩ := Prod.mk.inj h
      exact hSpec
    · obtain ⟨rfl, rfl⟩ := Prod.mk.inj h
      exact hSpec
  · rename_i next decoder hOther hNext
    obtain ⟨rfl, rfl⟩ := Prod.mk.inj h
    exact next_spec hSound hNext

end Decoder

end BeanBridge.Frame
