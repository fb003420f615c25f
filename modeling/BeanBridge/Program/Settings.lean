import BeanBridge.Agent.Connector

/-! The settings of the program, from its arguments and from the environment.  Arguments are carried
out one by one, so the first that is wrong or asks for information decides.  Variables of the
environment are looked at afterwards, each only where no argument spoke. -/

namespace BeanBridge

structure Settings where
  agent : Agent.Settings := {}
  /-- What is written to the log. -/
  logLevel : String := "info"
  /-- The log is written as lines of JSON. -/
  logsJson : Bool := false

namespace Settings

/-- The log is as it is without any settings. -/
def isDefaultLogging (settings : Settings) : Bool :=
  settings.logLevel == "info" && !settings.logsJson

/-- Why the program does not serve. -/
inductive Refusal where
  /-- An argument or a variable is wrong. -/
  | usage
  | help
  | version
  deriving DecidableEq

/-- An option with a value. -/
inductive Key where
  | agentUrl
  | agentTimeout
  | logLevel
  deriving DecidableEq

/-- The options spelled out. -/
structure Given where
  agentUrl : Option Url := none
  agentTimeout : Option UInt64 := none
  logLevel : Option String := none
  logsJson : Option Bool := none

/-- Decimal digits after an optional plus sign, as a number of 64 bits. -/
def number? (text : String) : Option UInt64 :=
  let digits := match text.toList with
    | '+' :: digits => digits
    | digits => digits
  if digits.isEmpty then none
  else (Host.digits? 10 digits).bind fun n => if n < 2 ^ 64 then some (.ofNat n) else none

/-- The truth value that `true` or `false` spells. -/
def flag? (text : String) : Option Bool :=
  match text with
  | "true" => some true
  | "false" => some false
  | _ => none

/-- An option is given once at most. -/
def once {α : Type} (old new : Option α) : Except Refusal (Option α) :=
  if old.isSome || new.isNone then .error .usage else .ok new

/-- Gives an option a value. -/
def Given.put (given : Given) (key : Key) (value : String) : Except Refusal Given :=
  match key with
  | .agentUrl => do
    return { given with agentUrl := ← once given.agentUrl (Url.parse value).toOption }
  | .agentTimeout => do
    return { given with agentTimeout := ← once given.agentTimeout (number? value) }
  | .logLevel => do return { given with logLevel := ← once given.logLevel (some value) }

/-- Sets the flag. -/
def Given.setFlag (given : Given) : Except Refusal Given := do
  return { given with logsJson := ← once given.logsJson (some true) }

/-- The option that a name stands for. -/
def Key.ofName? (name : String) : Option Key :=
  match name with
  | "--agent-url" => some agentUrl
  | "--agent-timeout-ms" => some agentTimeout
  | "--log-level" => some logLevel
  | _ => none

/-- What an argument says. -/
inductive Argument where
  /-- An option, with its value if that stands behind an equals sign. -/
  | option (key : Key) (value : Option String)
  | logsJson
  | help
  | version
  /-- Only values that are no options follow. -/
  | ending
  | unknown

/-- What an argument says.  Short letters may be run together, and the first decides. -/
def Argument.ofText (text : String) : Argument :=
  match text.toList with
  | ['-', '-'] => ending
  | '-' :: '-' :: _ =>
    let (name, value) := Text.cutAt '=' text.toList
    match Key.ofName? (String.ofList name) with
    | some key => option key (value.map String.ofList)
    | none => match text with
      | "--log-json" => logsJson
      | "--help" => help
      | "--version" => version
      | _ => unknown
  | '-' :: 'h' :: _ => help
  | '-' :: 'V' :: _ => version
  | _ => unknown

/-- The argument can be the value of the option before it. -/
def isValue (text : String) : Bool := !text.startsWith "-" || text == "-"

/-- Carries out arguments. -/
def Given.read : List String → Given → Except Refusal Given
  | [], given => .ok given
  | text :: texts, given =>
    match Argument.ofText text with
    | .option key (some value) => do read texts (← given.put key value)
    | .option key none =>
      match texts with
      | value :: texts =>
        if isValue value then do read texts (← given.put key value) else .error .usage
      | [] => .error .usage
    | .logsJson => do read texts (← given.setFlag)
    | .help => .error .help
    | .version => .error .version
    | .ending => if texts.isEmpty then .ok given else .error .usage
    | .unknown => .error .usage

/-- What was spelled out, or else what a variable says, if it is there. -/
def orVariable {α : Type} (given : Option α) (inEnvironment? : Option String)
    (read? : String → Option α) : Except Refusal (Option α) :=
  match given, inEnvironment? with
  | some value, _ => .ok (some value)
  | none, none => .ok none
  | none, some text => match read? text with
    | some value => .ok (some value)
    | none => .error .usage

/-- The settings in the arguments and the environment. -/
def parse (arguments : List String) (inEnvironment? : String → Option String) :
    Except Refusal Settings := do
  let given ← Given.read arguments {}
  let agentUrl ← orVariable given.agentUrl (inEnvironment? "JMXLINK_AGENT_URL") fun text =>
    (Url.parse text).toOption
  let timeout ← orVariable given.agentTimeout (inEnvironment? "JMXLINK_AGENT_TIMEOUT_MS") number?
  let logLevel ← orVariable given.logLevel (inEnvironment? "JMXLINK_LOG_LEVEL") some
  let logsJson ← orVariable given.logsJson (inEnvironment? "JMXLINK_LOG_JSON") flag?
  let usual : Settings := {}
  return {
    agent := ⟨agentUrl, timeout.getD usual.agent.timeout⟩
    logLevel := logLevel.getD usual.logLevel
    logsJson := logsJson.getD usual.logsJson }

end Settings

end BeanBridge
