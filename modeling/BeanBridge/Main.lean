import BeanBridge.Program.Basic

/-! The command line.  This process has no way to stores and to the web, so every agent is out of
reach. -/

open BeanBridge

/-- What is carried over from one piece of input to the next. -/
abbrev Serving : Type := Server (Agent.State Unit)

/-- Writes what an answer is sent in. -/
def writeFrames (output : IO.FS.Stream) (payloads : List ByteArray) : IO Unit := do
  for payload in payloads do
    output.write (Frame.sent payload)
  output.flush

/-- Serves the input, piece by piece, and tells how the program ends. -/
partial def serveInput (connector : Connector (Agent.State Unit)) (input output : IO.FS.Stream)
    (server : Serving) : IO Program.Ending := do
  let chunk ← input.read 65536
  if chunk.isEmpty then
    let stop := server.endOfInput
    return ((Program.finish connector stop server).run Server.tick).1
  let ((payloads, stop), server) := (Server.feed connector chunk server).run Server.tick
  writeFrames output payloads
  match stop with
  | some stop => return ((Program.finish connector stop server).run Server.tick).1
  | none => serveInput connector input output server

/-- The variables of the environment that the settings know. -/
def settingVariables : IO (List (String × String)) := do
  let names := ["JMXLINK_AGENT_URL", "JMXLINK_AGENT_TIMEOUT_MS", "JMXLINK_LOG_LEVEL",
    "JMXLINK_LOG_JSON"]
  names.filterMapM fun name => do return (← IO.getEnv name).map (name, ·)

def main (arguments : List String) : IO UInt32 := do
  let output ← IO.getStdout
  let given ← settingVariables
  let ending ← match Settings.parse arguments (given.lookup ·) with
    | .error refusal => pure (Program.Ending.ofRefusal refusal)
    | .ok settings =>
      let connector := Agent.connector settings.agent {} Http.Transport.cutOff
      serveInput connector (← IO.getStdin) output (Program.fresh { carrier := () })
  output.putStr ending.output
  output.flush
  if let some failure := ending.failure then (← IO.getStderr).putStrLn failure
  return ending.code.toUInt32
