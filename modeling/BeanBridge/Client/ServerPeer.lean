import BeanBridge.Client.Basic
import BeanBridge.Service.Server

/-! The service at the other end of a stream.  It works on what has arrived also while nobody waits
for it. -/

namespace BeanBridge

/-- What the service makes of what has arrived: the payloads of its answers, and why it ends, if it
does. -/
abbrev Served : Type := List ByteArray × Option Stop

/-- The service at the other end of a stream. -/
structure ServerPeer (κ : Type) where
  server : Server κ
  /-- What has arrived and is not taken yet. -/
  inbox : ByteArray := .empty
  /-- What is written and not read yet. -/
  outbox : ByteArray := .empty
  /-- Work in hand: the milliseconds until it goes on, and how it does. -/
  working : Option (Nat × (Unit → Server κ → Dialogue (Server κ) Wait.Reply Served)) := none
  stop : Option Stop := none
  /-- The sizes of the next pieces in which bytes are carried; then all that are there at once. -/
  cuts : List Nat := []

namespace ServerPeer

variable {κ : Type}

/-- How many of so many bytes are carried at once: at least one, if there is any. -/
def portion (size : Nat) (peer : ServerPeer κ) : Nat :=
  match peer.cuts with
  | [] => size
  | cut :: _ => min (max cut 1) size

/-- Does work to its end.  What is left of it at a wait is kept. -/
def work : Dialogue (Server κ) Wait.Reply Served → Timed (ServerPeer κ) Served
  | .done server served => fun peer => .done { peer with server, working := none } served
  | .ask server wait resume => fun peer =>
    .ask { peer with server, working := some (wait.milliseconds, resume) } wait
      fun _ peer => work (resume () peer.server) peer

/-- Writes the answers. -/
def deliver (served : Served) (peer : ServerPeer κ) : ServerPeer κ :=
  { peer with
    outbox := served.1.foldl (· ++ Frame.sent ·) peer.outbox
    stop := served.2 }

/-- Goes on with the work in hand, or begins with what has arrived. -/
def proceed (connector : Connector κ) : Timed (ServerPeer κ) Served := do
  let peer ← Action.get
  match peer.working with
  | some (remaining, resume) =>
    Timed.pause remaining
    work (resume () (← Action.get).server)
  | none =>
    let size := peer.portion peer.inbox.size
    Action.modify fun peer =>
      { peer with inbox := peer.inbox.extract size peer.inbox.size, cuts := peer.cuts.tail }
    work (Server.feed connector (peer.inbox.extract 0 size) peer.server)

/-- Serves what has arrived, in at most so many steps, up to the first answers or the end of the
service. -/
def serve (connector : Connector κ) : (steps : Nat) → Timed (ServerPeer κ) Served
  | 0 => return ([], none)
  | steps + 1 => do
    let peer ← Action.get
    if peer.working.isNone && peer.inbox.size = 0 then return ([], none)
    else
      let served ← proceed connector
      if served.1.isEmpty && served.2.isNone then serve connector steps else return served

/-- More steps than are left: each but one takes at least one byte. -/
def enoughSteps (peer : ServerPeer κ) : Nat := peer.inbox.size + 2

/-- Hands over what was written, as much of it as is carried at once. -/
def handOver : Timed (ServerPeer κ) ByteArray := do
  let peer ← Action.get
  let size := peer.portion peer.outbox.size
  Action.modify fun peer =>
    { peer with outbox := peer.outbox.extract size peer.outbox.size, cuts := peer.cuts.tail }
  return peer.outbox.extract 0 size

/-- What arrives next: what was written, or the end of the stream. -/
def next (connector : Connector κ) : Timed (ServerPeer κ) ByteArray := do
  let peer ← Action.get
  if peer.outbox.size = 0 && peer.stop.isNone then
    let served ← serve connector peer.enoughSteps
    if served.1.isEmpty && served.2.isNone then Timed.pause Peer.patience
    else Action.modify (deliver served)
  handOver

/-- Takes bytes, unless the service has ended. -/
def take (bytes : ByteArray) : Timed (ServerPeer κ) (Except StreamError Nat) := do
  let peer ← Action.get
  if peer.stop.isSome then return .error .brokenPipe
  else
    let size := peer.portion bytes.size
    Action.modify fun peer =>
      { peer with inbox := peer.inbox ++ bytes.extract 0 size, cuts := peer.cuts.tail }
    return .ok size

/-- The end of the stream at which the service is. -/
def peer (connector : Connector κ) : Peer (ServerPeer κ)
  | .write bytes => take bytes
  | .read => do return .ok (← next connector)

/-- How the service ends once the other end is gone: an answer it has still to write cannot be
written. -/
def finish (connector : Connector κ) : Timed (ServerPeer κ) Stop := do
  let peer ← Action.get
  match peer.stop with
  | some stop => return stop
  | none =>
    let (replies, stop) ← serve connector peer.enoughSteps
    if replies.isEmpty then return stop.getD (← Action.get).server.endOfInput
    else return .failed .brokenPipe

/-- The time passes. -/
def tick (milliseconds : Nat) (peer : ServerPeer κ) : ServerPeer κ :=
  { peer with
    server := peer.server.tick milliseconds
    working := peer.working.map fun (remaining, resume) => (remaining - milliseconds, resume) }

end ServerPeer

end BeanBridge
