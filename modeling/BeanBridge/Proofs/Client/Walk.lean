import BeanBridge.Client.Walk
import BeanBridge.Proofs.Client.Refinement
import BeanBridge.Proofs.Service.AtEase

/-! The walk of a client against the query of the service.  The walk asks for the beans, then for the
attributes of each bean, then for each attribute; the query is one request.  Both read the same rows
of the table, and a name that was sent as text is read as the name it was. -/

namespace BeanBridge

open BeanBridge.Frame

/-! ### Findings and entries -/

namespace Finding

/-- Something could not be read. -/
def isFailed : Finding → Bool
  | failed _ => true
  | collected _ => false

/-- The findings hold the entries that hold a value, and a failure for every other entry. -/
structure Match (findings : List Finding) (entries : List Entry) : Prop where
  valid : findings.filterMap valid? = entries.filter (!·.isError)
  failed : findings.countP isFailed = entries.countP (·.isError)

theorem Match.append {findings findings' : List Finding} {entries entries' : List Entry}
    (h : Match findings entries) (h' : Match findings' entries') :
    Match (findings ++ findings') (entries ++ entries') := by
  constructor
  · rw [List.filterMap_append, List.filter_append, h.valid, h'.valid]
  · rw [List.countP_append, List.countP_append, h.failed, h'.failed]

end Finding

namespace Client

/-! ### Calls while the session is open -/

/-- What the handler answers. -/
def responseTo (library : RegexLibrary) (handler : Handler Memory) (request : Request) : Response :=
  ((Handler.answer (Memory.connector library) request handler).run Handler.tick).1

/-- The requests, numbered from this number on, fit in frames, and so do the answers. -/
def Fits (library : RegexLibrary) (handler : Handler Memory) : UInt64 → List Request → Prop
  | _, [] => True
  | id, request :: requests =>
    (RequestFrame.encode ⟨id, request⟩).size ≤ maxSize ∧
      (ResponseFrame.encode ⟨id, responseTo library handler request⟩).size ≤ maxSize ∧
      Fits library handler (id + 1) requests

/-- What a call for one kind of answer returns. -/
def taken {α : Type} (request : Request) (select : Response → Option α) (response : Response) :
    Except ClientError α :=
  match outcome response with
  | .error error => .error error
  | .ok response => match select response with
    | some value => .ok value
    | none => .error (.unexpectedResponse request.method response.kind)

section

variable {α : Type} {library : RegexLibrary} {memory : Memory} {handler : Handler Memory}
  {timeout : Option Int64} {more : List Request} {whole : Client × ServerPeer Memory}

end

end Client

end BeanBridge
