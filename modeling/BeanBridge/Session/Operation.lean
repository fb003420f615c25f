import BeanBridge.Session.Operations

/-! Operations: what can be done in a session, as data. -/

namespace BeanBridge

/-- Something to be done in a session. -/
inductive Operation where
  | connect (config : Config)
  | disconnect
  | beanNames (pattern : BeanName)
  | attributeNames (bean : BeanName)
  | read (bean : BeanName) (name : String)
  | readMany (bean : BeanName) (names : List String)
  | queryMany (pattern : BeanName) (names : List String)
  deriving DecidableEq

/-- Does the operation. -/
def Operation.act : Operation → Session.Act (Except Failure Response)
  | connect config => do return (← Session.connect config).map fun _ => .connected
  | disconnect => do return (← Session.disconnect).map fun _ => .disconnected
  | beanNames pattern => do return (← Session.beanNames pattern).map .beanNames
  | attributeNames bean => do return (← Session.attributeNames bean).map .attributeNames
  | read bean name => do return (← Session.read bean name).map .attributes
  | readMany bean names => do
    let collected ← Session.readMany bean names
    return match collected.failure with
      | some failure => .error failure
      | none => .ok (.attributes collected.entries)
  | queryMany pattern names => do return (← Session.queryMany pattern names).map .attributes

end BeanBridge
