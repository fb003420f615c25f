import BeanBridge.Session.Operations
import BeanBridge.Value.Collecting

/-! Reading of attributes onto entries that were collected before.  One list takes up the entries of
one attribute after another, and what is in it when the session is lost stays there. -/

namespace BeanBridge.Session

/-- Appends the entries of an attribute, read by itself. -/
def fetchOnto (bean : BeanName) (name : String) (out : List Entry) :
    Act (Except Failure Unit × List Entry) := do
  let result ← call .readingAttribute fun session => Action.ask (Call.read session bean name)
  return match settled (.attributeRefused name bean) result with
    | .error failure => (.error failure, out)
    | .ok value =>
      let (verdict, out) := value.flattenOnto (qualifiedName bean name) out
      (verdict.mapError fun reason => (Fault.unusable reason).failure, out)

/-- Appends the entries of attributes, each read by itself. -/
def fetchEachOnto (bean : BeanName) :
    List String → List Entry → Act (Except Failure Unit × List Entry)
  | [], out => return (.ok (), out)
  | name :: names, out => do
    match ← fetchOnto bean name out with
    | (.ok (), out) => fetchEachOnto bean names out
    | (.error (.connection message), out) => return (.error (.connection message), out)
    | (.error failure, out) =>
      fetchEachOnto bean names (out ++
        [.failed (qualifiedName bean name) (statusText "can't get attribute" failure)])

/-- Appends the entries of values that were read together.  What is left are the names that were
not among them. -/
def valuesOnto (bean : BeanName) :
    List (String × Value) → List String → List Entry → List String × List Entry
  | [], names, out => (names, out)
  | (name, value) :: values, names, out =>
    match value.flattenOnto (qualifiedName bean name) out with
    | (.ok (), out) => valuesOnto bean values (names.erase name) out
    | (.error reason, out) =>
      valuesOnto bean values (names.erase name) (out ++
        [.failed (qualifiedName bean name)
          (statusText "can't parse attribute" (Fault.unusable reason).failure)])

/-- Appends the entries of attributes that are known by name, read together if the endpoint allows
it. -/
def readNamedOnto (bean : BeanName) (names : List String) (out : List Entry) :
    Act (Except Failure Unit × List Entry) := do
  let result ← recorded "getAttributes" bean.text names countBatch
    (attempt fun session => Action.ask (Call.readMany session bean names))
  match ← givingUp .readingAttributes result with
  | .error failure => return (.error failure, out)
  | .ok (.ok values) =>
    let (missing, out) := valuesOnto bean values names out
    return (.ok (), out ++ missing.map (missingEntry bean))
  | .ok (.error _) => fetchEachOnto bean names out

/-- Appends the entries of attributes of a bean, of all that can be read if none is named. -/
def readManyOnto (bean : BeanName) (names : List String) (out : List Entry) :
    Act (Except Failure Unit × List Entry) := do
  if names.isEmpty then
    match ← attributeNames bean with
    | .error failure => return (.error failure, out)
    | .ok names => readNamedOnto bean names out
  else readNamedOnto bean names out

end BeanBridge.Session
