import BeanBridge.Client.Calls
import BeanBridge.Files.Basic

/-! The bridge as a process of its own, with a client at its streams. -/

namespace BeanBridge

/-- The failure to start a program. -/
def ClientError.notStarted (program : String) (fault : Files.Fault) : ClientError :=
  .process ("failed to start " ++ program ++ ": " ++ fault.message)

/-- The failure of a process that gives no sign of life. -/
def ClientError.unresponsive (error : ClientError) : ClientError :=
  .process ("could not establish communication with bridge process: " ++ error.message)

namespace Client

variable {π : Type}

/-- How long a process may take to give a sign of life, in milliseconds. -/
def startTimeout : Nat := 10000

/-- Waits for the first sign of life of a process. -/
def greet (peer : Peer π) : Timed (Client × π) (Except ClientError Unit) := do
  Action.modify fun (client, inner) => ({ client with responseTimeout := some startTimeout }, inner)
  let result ← ping peer
  Action.modify fun (client, inner) => ({ client with responseTimeout := none }, inner)
  return result.mapError .unresponsive

/-- Asks the process to end, unless nothing can be asked any more. -/
def close (peer : Peer π) : Timed (Client × π) (Except ClientError Unit) := do
  if (← Action.get).1.isUsable then disconnect peer else return .ok ()

end Client

end BeanBridge
