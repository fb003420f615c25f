import BeanBridge.Frame.Decoder
import BeanBridge.Protocol.Decoding
import BeanBridge.Protocol.Encoding
import BeanBridge.Service.Handler

/-! The service over a stream: every frame that arrives is answered by one frame, in order, until
the stream ends, the session is closed on request, the stream fails, or the service is shut down. -/

namespace BeanBridge

/-- Why the service ended. -/
inductive Stop where
  | endOfInput
  | disconnected
  | shutdown
  | failed (error : StreamError)
  deriving DecidableEq

/-- A handler, and the part of a frame that has arrived. -/
structure Server (κ : Type) where
  handler : Handler κ
  decoder : Frame.Decoder := {}
  /-- What is said of a payload that is no request. -/
  complaint : ByteArray → String := fun _ => decodeComplaint
  /-- The number of payloads that are still looked at before the shutdown, if there is one. -/
  quota : Option Nat := none

namespace Server

variable {κ : Type}

/-- The response in place of one that is too long for a frame. -/
def oversizeResponse (size : Nat) : Response :=
  .error (.jmx ("response exceeds maximum frame size: " ++ toString size ++ " > " ++
    toString Frame.maxSize ++ " bytes") "" "")

/-- The payload of an answer.  One that is too long gives way to the notice that it is. -/
def replyPayload (reply : ResponseFrame) : ByteArray :=
  let payload := reply.encode
  if payload.size ≤ Frame.maxSize then payload
  else ResponseFrame.encode { reply with response := oversizeResponse payload.size }

/-- Answers a payload: the answer's own payload, and what comes after it. -/
def answer (complaint : ByteArray → String) (connector : Connector κ) (payload : ByteArray) :
    Timed (Handler κ) (ByteArray × Flow) := do
  match RequestFrame.decode? payload with
  | none =>
    return (replyPayload ⟨0, .error (.invalidRequest (complaint payload))⟩, .carryOn)
  | some frame =>
    let response ← Handler.answer connector frame.request
    return (replyPayload ⟨frame.id, response⟩, Handler.flow frame.request)

/-- What is left of a number of payloads after so many of them. -/
def left (quota : Option Nat) (taken : Nat) : Option Nat := quota.map (· - taken)

/-- Answers payloads up to the one that ends the service, or up to the shutdown; tells why the
service ends, if it does.  The shutdown is seen before each payload. -/
def answerAll (complaint : ByteArray → String) (connector : Connector κ) :
    Option Nat → List ByteArray → Timed (Handler κ) (List ByteArray × Option Stop)
  | some 0, _ => return ([], some .shutdown)
  | _, [] => return ([], none)
  | quota, payload :: payloads => do
    let (reply, flow) ← answer complaint connector payload
    match flow with
    | .stop => return ([reply], some .disconnected)
    | .carryOn =>
      let (replies, stop) ← answerAll complaint connector (left quota 1) payloads
      return (reply :: replies, stop)

/-- What is done with the handler. -/
def onHandler {α : Type} (act : Timed (Handler κ) α) : Timed (Server κ) α :=
  act.focus Server.handler fun handler server => { server with handler }

/-- Answers what has arrived: the payloads of the answers, and why the service ends, if it does. -/
def feed (connector : Connector κ) (chunk : ByteArray) :
    Timed (Server κ) (List ByteArray × Option Stop) := do
  let server ← Action.get
  let (payloads, error, decoder) := (server.decoder.push chunk).takeAll
  Action.modify ({ · with decoder, quota := left server.quota payloads.length })
  let (replies, stop) ← onHandler (answerAll server.complaint connector server.quota payloads)
  return (replies, stop.or (error.map .failed))

/-- Why the service ends when the stream does. -/
def endOfInput (server : Server κ) : Stop :=
  if server.quota = some 0 then .shutdown
  else match server.decoder.finish.1 with
    | some (.failed error) => .failed error
    | _ => .endOfInput

/-- Serves what arrives in pieces, and then the end of the stream. -/
def run (connector : Connector κ) : List ByteArray → Timed (Server κ) (List ByteArray × Stop)
  | [] => do return ([], (← Action.get).endOfInput)
  | chunk :: chunks => do
    let (replies, stop) ← feed connector chunk
    match stop with
    | some stop => return (replies, stop)
    | none =>
      let (later, stop) ← run connector chunks
      return (replies ++ later, stop)

/-- The time passes. -/
def tick (milliseconds : Nat) (server : Server κ) : Server κ :=
  { server with handler := server.handler.tick milliseconds }

end Server

end BeanBridge
