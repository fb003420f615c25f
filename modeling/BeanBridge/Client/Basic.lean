import BeanBridge.Client.Error
import BeanBridge.Frame.Decoder
import BeanBridge.Protocol.Decoding
import BeanBridge.Protocol.Encoding
import BeanBridge.Timed

/-! The client of a bridge at the other end of a stream.  Calls are made one after another: a
request is written, and the next frame that arrives has to answer it.  A call that ends in any other
way leaves the stream out of step, and no further call is made. -/

namespace BeanBridge

/-- What is asked of a stream. -/
inductive StreamQuestion where
  /-- To take bytes. -/
  | write (bytes : ByteArray)
  /-- For bytes that have arrived, or the end of the stream. -/
  | read

/-- What a stream replies: how many of the bytes it took, at least one; or what has arrived, nothing
at the end. -/
abbrev StreamQuestion.Reply : StreamQuestion → Type
  | write _ => Except StreamError Nat
  | read => Except StreamError ByteArray

/-- The other end of a stream, with a state of its own and in its own time. -/
abbrev Peer (π : Type) : Type := (question : StreamQuestion) → Timed π question.Reply

/-- How many milliseconds a stream stays open on which nothing is asked and nothing is said. -/
def Peer.patience : Nat := 2 ^ 64

structure Client where
  /-- The number of the next request. -/
  nextId : UInt64 := 1
  /-- The timeout that requests carry, in milliseconds. -/
  callTimeout : Option Int64 := none
  /-- How many milliseconds an answer may take. -/
  responseTimeout : Option Nat := none
  /-- The stream is out of step. -/
  isBroken : Bool := false
  decoder : Frame.Decoder := {}
  /-- What the stream has not taken yet. -/
  unsent : ByteArray := .empty

namespace Client

/-- What is done by a client over a stream. -/
abbrev Act (α : Type) : Type := Action Client StreamQuestion.Reply α

/-- Calls can be made. -/
def isUsable (client : Client) : Bool := !client.isBroken

/-- Writes what is not sent yet, in at most so many pieces. -/
def flush : (pieces : Nat) → Act (Except ClientError Unit)
  | 0 => return .ok ()
  | pieces + 1 => do
    let client ← Action.get
    if client.unsent.size = 0 then return .ok ()
    else
      let reply : Except StreamError Nat ← Action.ask (StreamQuestion.write client.unsent)
      match reply with
      | .error error => return .error (.io error)
      | .ok taken =>
        Action.modify fun client =>
          { client with unsent := client.unsent.extract (max taken 1) client.unsent.size }
        flush pieces

/-- How much may be left unsent when a frame is added to it. -/
def unsentLimit : Nat := 8 * 1024

/-- Writes what is left of earlier frames, if that is much. -/
def makeRoom : Act (Except ClientError Unit) := do
  let client ← Action.get
  if unsentLimit ≤ client.unsent.size then flush client.unsent.size else return .ok ()

/-- Writes a frame. -/
def send (payload : ByteArray) : Act (Except ClientError Unit) := do
  match ← makeRoom with
  | .error error => return .error error
  | .ok () => match Frame.encode payload with
    | .error error => return .error (.io error)
    | .ok frame =>
      Action.modify fun client => { client with unsent := client.unsent ++ frame }
      flush (← Action.get).unsent.size

/-- The next payload, after at most so many reads. -/
def receive : (reads : Nat) → Act (Except ClientError ByteArray)
  | 0 => return .error .closed
  | reads + 1 => do
    let (next, decoder) := (← Action.get).decoder.next
    Action.modify ({ · with decoder })
    match next with
    | .payload payload => return .ok payload
    | .failed error => return .error (.io error)
    | .incomplete =>
      let reply : Except StreamError ByteArray ← Action.ask StreamQuestion.read
      match reply with
      | .error error => return .error (.io error)
      | .ok chunk =>
        if chunk.size = 0 then
          let (next, decoder) := (← Action.get).decoder.finish
          Action.modify ({ · with decoder })
          match next with
          | some (.payload payload) => return .ok payload
          | some (.failed error) => return .error (.io error)
          | _ => return .error .closed
        else
          Action.modify fun client => { client with decoder := client.decoder.push chunk }
          receive reads

/-- More reads than a frame can take: each brings at least one of its bytes. -/
def enoughReads : Nat := Frame.maxSize + 5

/-- Sends a request and waits for the next frame. -/
def exchange (frame : RequestFrame) : Act (Except ClientError ResponseFrame) := do
  match ← send frame.encode with
  | .error error => return .error error
  | .ok () => match ← receive enoughReads with
    | .error error => return .error error
    | .ok payload => match ResponseFrame.decode? payload with
      | none => return .error .codec
      | some frame => return .ok frame

/-- The client after it has taken the number of a request. -/
def begin (client : Client) : Client := { client with nextId := client.nextId + 1 }

/-- The result of a call from what the exchange came to, and the client after it. -/
def conclude (client : Client) (id : UInt64) :
    Except ClientError ResponseFrame → Except ClientError Response × Client
  | .error error => (.error error, { client with isBroken := true })
  | .ok frame =>
    if frame.id ≠ id then
      (.error (.idMismatch id frame.id), { client with isBroken := true })
    else match frame.response with
      | .error error => (.error (.ofReply error), client)
      | response => (.ok response, client)

variable {π α : Type}

/-- What is done by the client while the other end stays as it is. -/
def onClient (change : Client → α × Client) : Timed (Client × π) α :=
  fun whole => .done ((change whole.1).2, whole.2) (change whole.1).1

/-- The exchange, given up when the answer takes too long. -/
def exchangeInTime (peer : Peer π) (limit : Option Nat) (frame : RequestFrame) :
    Timed (Client × π) (Except ClientError ResponseFrame) :=
  match limit with
  | none => (exchange frame).servedBy peer
  | some limit => do
    match ← ((exchange frame).servedBy peer).within limit with
    | some result => return result
    | none => return .error (.timeout (limit * 10 ^ 6))

/-- Sends a request and waits for its answer. -/
def call (peer : Peer π) (request : Request) :
    Timed (Client × π) (Except ClientError Response) := do
  let (client, _) ← Action.get
  if client.isBroken then return .error .closed
  else
    let id := client.nextId
    onClient fun client => ((), client.begin)
    let result ← exchangeInTime peer client.responseTimeout ⟨id, request⟩
    onClient fun client => client.conclude id result

end Client

end BeanBridge
