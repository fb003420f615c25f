import BeanBridge.Program.Settings
import BeanBridge.Service.Server

/-! The program: it reads its settings, serves what arrives at its input, and ends with a code. -/

namespace BeanBridge.Program

/-- What is said when the version is asked for. -/
def versionText : String := "jmxlink " ++ Fetcher.version ++ "\n"

/-- What is said when help is asked for. -/
def helpText : String :=
  String.join (List.map (· ++ "\n")
    ["JMX query bridge speaking length-prefixed MessagePack on stdin/stdout",
      "",
      "Usage: jmxlink [OPTIONS]",
      "",
      "Options:",
      "      --agent-url <URL>        Agent used as a proxy for service:jmx: targets",
      "      --agent-timeout-ms <MS>  HTTP timeout for agent calls, in milliseconds",
      "      --log-level <LEVEL>      Log filter",
      "      --log-json               Log JSON lines to stderr",
      "  -h, --help                   Print help",
      "  -V, --version                Print version"])

/-- How the program ends. -/
structure Ending where
  code : UInt8 := 0
  /-- The text that it writes to its output. -/
  output : String := ""
  /-- The line about a failure. -/
  failure : Option String := none
  deriving DecidableEq

/-- The end when there are no settings to serve with. -/
def Ending.ofRefusal : Settings.Refusal → Ending
  | .usage =>
    { code := 1, failure := some "error: the arguments cannot be used, for help try '--help'" }
  | .help => { output := helpText }
  | .version => { output := versionText }

/-- The end after the service. -/
def Ending.ofStop : Stop → Ending
  | .failed error =>
    { code := 1
      failure := some ("Error: request loop failed: transport error: " ++ error.message ++ ": " ++
        error.message) }
  | .endOfInput | .disconnected | .shutdown => {}

variable {κ : Type}

/-- A server that nothing has reached yet. -/
def fresh (inner : κ) : Server κ := { handler := .start inner }

/-- Closes the session that may be open when the service ends. -/
def finish (connector : Connector κ) (stop : Stop) : Timed (Server κ) Ending := do
  Server.onHandler (Handler.shutdown connector)
  return .ofStop stop

/-- Serves what arrives in pieces up to the end of the input: the payloads of the answers, and how
the program ends. -/
def serve (connector : Connector κ) (input : List ByteArray) :
    Timed (Server κ) (List ByteArray × Ending) := do
  let (replies, stop) ← Server.run connector input
  return (replies, ← finish connector stop)

end BeanBridge.Program
