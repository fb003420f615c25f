import BeanBridge.Client.Basic

/-! The calls of a client, each with the kind of answer that fits it. -/

namespace BeanBridge.Client

variable {π α : Type} (peer : Peer π)

/-- Makes a call whose answer `select` has to find fitting. -/
def callFor (request : Request) (select : Response → Option α) :
    Timed (Client × π) (Except ClientError α) := do
  match ← call peer request with
  | .error error => return .error error
  | .ok response => match select response with
    | some value => return .ok value
    | none => return .error (.unexpectedResponse request.method response.kind)

/-- Makes a call that carries the timeout of the client. -/
def callInTime (request : Option Int64 → Request) (select : Response → Option α) :
    Timed (Client × π) (Except ClientError α) := do
  let (client, _) ← Action.get
  callFor peer (request client.callTimeout) select

/-- Makes sure that the bridge answers. -/
def ping : Timed (Client × π) (Except ClientError Unit) :=
  callFor peer .ping fun
    | .pong => some ()
    | _ => none

/-- The version of the bridge. -/
def version : Timed (Client × π) (Except ClientError String) :=
  callFor peer .version fun
    | .version text => some text
    | _ => none

/-- Opens the session of the bridge. -/
def connect (config : Config) : Timed (Client × π) (Except ClientError Unit) :=
  callInTime peer (.connect config) fun
    | .connected => some ()
    | _ => none

/-- Closes the session of the bridge, which ends the service; no further call is made. -/
def disconnect : Timed (Client × π) (Except ClientError Unit) := do
  let result ← call peer .disconnect
  onClient fun client => ((), { client with isBroken := true })
  return match result with
    | .error error => .error error
    | .ok .disconnected => .ok ()
    | .ok response => .error (.unexpectedResponse Request.disconnect.method response.kind)

/-- The names of the beans that a pattern selects. -/
def beanNames (pattern : String) : Timed (Client × π) (Except ClientError (List String)) :=
  callInTime peer (.beanNames pattern) fun
    | .beanNames names => some names
    | _ => none

def attributeNames (bean : String) : Timed (Client × π) (Except ClientError (List String)) :=
  callInTime peer (.attributeNames bean) fun
    | .attributeNames names => some names
    | _ => none

/-- The entries in an answer. -/
def entries? : Response → Option (List Entry)
  | .attributes entries => some entries
  | _ => none

/-- One attribute of a bean. -/
def read (bean name : String) : Timed (Client × π) (Except ClientError (List Entry)) :=
  callInTime peer (.read bean name) entries?

/-- Several attributes of a bean. -/
def readMany (bean : String) (names : List String) :
    Timed (Client × π) (Except ClientError (List Entry)) :=
  callInTime peer (.readMany bean names) entries?

/-- Attributes of every bean that a pattern selects. -/
def queryMany (pattern : String) (names : List String) :
    Timed (Client × π) (Except ClientError (List Entry)) :=
  callInTime peer (.queryMany pattern names) entries?

/-- The calls that the bridge has recorded. -/
def stats : Timed (Client × π) (Except ClientError (List Stat)) :=
  callFor peer .stats fun
    | .stats records => some records
    | _ => none

end BeanBridge.Client
