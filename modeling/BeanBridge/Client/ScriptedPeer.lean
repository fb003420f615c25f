import BeanBridge.Client.Basic

/-! The other end of a stream that follows a script: for every request it reads it does what the
script says next, and behind the end of the script it closes the stream. -/

namespace BeanBridge

/-- What is done about a request. -/
inductive PeerScript.Effect where
  /-- Answers with a response, under the number given or the number of the request. -/
  | respond (response : Response) (id : Option UInt64)
  /-- Sends a payload in a frame. -/
  | payload (bytes : ByteArray)
  /-- Sends bytes as they are. -/
  | raw (bytes : ByteArray)
  /-- Closes the stream. -/
  | hangUp

/-- A step of the script: what is done, and how many milliseconds later. -/
structure PeerScript.Step where
  delay : Nat := 0
  effect : PeerScript.Effect

/-- The other end of a stream, with the rest of its script. -/
structure PeerScript where
  steps : List PeerScript.Step
  decoder : Frame.Decoder := {}
  /-- The payloads that have arrived and are not read yet. -/
  arrived : List ByteArray := []
  /-- The payloads that were read, the latest first. -/
  seen : List ByteArray := []
  isClosed : Bool := false

namespace PeerScript

/-- The bytes that are sent about a request; none when the stream is closed. -/
def Effect.bytes? (request : ByteArray) : Effect → Option ByteArray
  | respond response id =>
    let number := (RequestFrame.decode? request).map (·.id)
    some (Frame.sent (ResponseFrame.encode ⟨(id.or number).getD 0, response⟩))
  | payload bytes => some (Frame.sent bytes)
  | raw bytes => some bytes
  | hangUp => none

/-- What arrives next, when at most so many requests are read for it: whatever has to be sent about
requests, or the end of the stream. -/
def next : (requests : Nat) → Timed PeerScript ByteArray
  | 0 => do
    Timed.pause Peer.patience
    return .empty
  | requests + 1 => do
    let peer ← Action.get
    match peer.isClosed, peer.steps, peer.arrived with
    | true, _, _ => return .empty
    | false, [], _ =>
      Action.modify ({ · with isClosed := true })
      return .empty
    | false, _ :: _, [] =>
      Timed.pause Peer.patience
      return .empty
    | false, step :: steps, request :: arrived =>
      Action.modify fun peer => { peer with steps, arrived, seen := request :: peer.seen }
      if step.delay ≠ 0 then Timed.pause step.delay
      match step.effect.bytes? request with
      | none =>
        Action.modify ({ · with isClosed := true })
        return .empty
      | some bytes =>
        if steps.isEmpty then Action.modify ({ · with isClosed := true })
        if bytes.size = 0 then next requests else return bytes

/-- Takes bytes, unless the stream is closed. -/
def take (bytes : ByteArray) : Timed PeerScript (Except StreamError Nat) := do
  if (← Action.get).isClosed then return .error .brokenPipe
  else
    Action.modify fun peer =>
      let (payloads, _, decoder) := (peer.decoder.push bytes).takeAll
      { peer with decoder, arrived := peer.arrived ++ payloads }
    return .ok bytes.size

/-- The end of the stream that follows the script. -/
def peer : Peer PeerScript
  | .write bytes => take bytes
  | .read => do
    let state ← Action.get
    return .ok (← next (state.arrived.length + 1))

/-- The requests that were read, and those that are read when nobody waits for an answer any more.
-/
def requests (peer : PeerScript) : List ByteArray :=
  let isOpen := fun step : Step => match step.effect with
    | .hangUp => false
    | _ => true
  let unread := if peer.isClosed then [] else
    peer.arrived.take ((peer.steps.takeWhile isOpen).length + 1) |>.take peer.steps.length
  peer.seen.reverse ++ unread

end PeerScript

end BeanBridge
