import BeanBridge.Client.Calls
import BeanBridge.Text.Quoted

/-! The walk over all attributes of all beans that a pattern selects, with a call for each
attribute. What fails for one bean or attribute is noted, and the walk goes on. -/

namespace BeanBridge

/-- What the walk found. -/
inductive Finding where
  | collected (entry : Entry)
  /-- A bean or an attribute could not be read. -/
  | failed (status : String)
  deriving DecidableEq

/-- The entry that was found, if it holds a value. -/
def Finding.valid? : Finding → Option Entry
  | collected entry => if entry.isError then none else some entry
  | failed _ => none

namespace Client

variable {π : Type} (peer : Peer π)

def failureNote (place message cause stacktrace : String) : String :=
  "error while querying mBean " ++ place ++ ", error message: " ++ message ++ ", error cause: " ++
    cause ++ ", stacktrace: " ++ Text.quoted stacktrace

/-- The findings in the attributes named. -/
def walkAttributes (bean : String) :
    List String → Timed (Client × π) (Except ClientError (List Finding))
  | [] => return .ok []
  | name :: names => do
    match ← read peer bean name with
    | .ok entries =>
      return (← walkAttributes bean names).map (entries.map Finding.collected ++ ·)
    | .error (.jmx message cause stacktrace) =>
      let place := "'" ++ bean ++ "', attribute: '" ++ name ++ "'"
      return (← walkAttributes bean names).map
        (.failed (failureNote place message cause stacktrace) :: ·)
    | .error error => return .error error

/-- The findings in the beans named. -/
def walkBeans : List String → Timed (Client × π) (Except ClientError (List Finding))
  | [] => return .ok []
  | bean :: beans => do
    match ← attributeNames peer bean with
    | .ok names => match ← walkAttributes peer bean names with
      | .ok findings => return (← walkBeans beans).map (findings ++ ·)
      | .error error => return .error error
    | .error (.jmx message cause stacktrace) =>
      let place := "name: '" ++ bean ++ "'"
      return (← walkBeans beans).map (.failed (failureNote place message cause stacktrace) :: ·)
    | .error error => return .error error

/-- The findings in the beans that a pattern selects. -/
def walk (pattern : String) : Timed (Client × π) (Except ClientError (List Finding)) := do
  match ← beanNames peer pattern with
  | .ok beans => walkBeans peer beans
  | .error error => return .error error

end Client

end BeanBridge
