import BeanBridge.Power

/-! Frames: a payload behind its length, four bytes with the highest first. -/

namespace BeanBridge

/-- What can be wrong with a frame or with the stream that carries it. -/
inductive StreamError where
  /-- The payload is longer than a frame may hold. -/
  | frameTooBig
  /-- The stream ended inside a frame. -/
  | leftover
  /-- The other end is gone. -/
  | brokenPipe
  deriving DecidableEq

/-- The error in words. -/
def StreamError.message : StreamError → String
  | frameTooBig => "frame size too big"
  | leftover => "bytes remaining on stream"
  | brokenPipe => "broken pipe"

namespace Frame

/-- The longest payload. -/
def maxSize : Nat := 16 * 1024 * 1024

/-- The four bytes before a payload of a length. -/
def header (length : Nat) : ByteArray :=
  ⟨#[.ofNat (length / 2 ^ 24), .ofNat (length / 2 ^ 16), .ofNat (length / 2 ^ 8), .ofNat length]⟩

def encode (payload : ByteArray) : Except StreamError ByteArray :=
  if payload.size ≤ maxSize then .ok (header payload.size ++ payload) else .error .frameTooBig

/-- What is sent for a payload: its frame, or nothing if it is too long. -/
def sent (payload : ByteArray) : ByteArray :=
  match encode payload with
  | .ok frame => frame
  | .error _ => .empty

end Frame

end BeanBridge
