import BeanBridge.Frame.Basic

/-! Taking frames from a stream that arrives in pieces. -/

namespace BeanBridge.Frame

/-- What has arrived and is not taken yet. -/
structure Decoder where
  /-- The length in a header that is taken while its payload is not. -/
  announced : Option Nat := none
  buffer : ByteArray := .empty

/-- What a decoder has to offer. -/
inductive Next where
  | payload (bytes : ByteArray)
  /-- The next frame is not complete. -/
  | incomplete
  | failed (error : StreamError)

namespace Decoder

/-- Adds what has arrived. -/
def push (decoder : Decoder) (chunk : ByteArray) : Decoder :=
  { decoder with buffer := decoder.buffer ++ chunk }

/-- The number in the first four bytes, if they are there. -/
def length? (buffer : ByteArray) : Option Nat :=
  match buffer[0]?, buffer[1]?, buffer[2]?, buffer[3]? with
  | some a, some b, some c, some d =>
    some (((a.toNat * 2 ^ 8 + b.toNat) * 2 ^ 8 + c.toNat) * 2 ^ 8 + d.toNat)
  | _, _, _, _ => none

/-- Takes the payload of an announced length, once all of it is there. -/
def takePayload (length : Nat) (buffer : ByteArray) : Next × Decoder :=
  if buffer.size < length then (.incomplete, ⟨some length, buffer⟩)
  else (.payload (buffer.extract 0 length), ⟨none, buffer.extract length buffer.size⟩)

/-- Takes the next payload.  A header that announces too much stays where it is. -/
def next (decoder : Decoder) : Next × Decoder :=
  match decoder.announced with
  | some length => takePayload length decoder.buffer
  | none => match length? decoder.buffer with
    | none => (.incomplete, decoder)
    | some length =>
      if maxSize < length then (.failed .frameTooBig, decoder)
      else takePayload length (decoder.buffer.extract 4 decoder.buffer.size)

/-- Takes at most so many payloads. -/
def takeUpTo : (count : Nat) → Decoder → List ByteArray × Option StreamError × Decoder
  | 0, decoder => ([], none, decoder)
  | count + 1, decoder => match decoder.next with
    | (.incomplete, decoder) => ([], none, decoder)
    | (.failed error, decoder) => ([], some error, decoder)
    | (.payload bytes, decoder) =>
      let (payloads, error, decoder) := takeUpTo count decoder
      (bytes :: payloads, error, decoder)

/-- Takes all payloads that are there, up to an error.  Every payload but one takes its header from
the buffer, so there are fewer than the buffer has bytes, and one or two. -/
def takeAll (decoder : Decoder) : List ByteArray × Option StreamError × Decoder :=
  decoder.takeUpTo (decoder.buffer.size + 2)

/-- What the decoder offers when no more will arrive: none at the end of a frame. -/
def finish (decoder : Decoder) : Option Next × Decoder :=
  match decoder.next with
  | (.incomplete, decoder) =>
    if decoder.buffer.size = 0 then (none, decoder) else (some (.failed .leftover), decoder)
  | (next, decoder) => (some next, decoder)

end Decoder

end BeanBridge.Frame
