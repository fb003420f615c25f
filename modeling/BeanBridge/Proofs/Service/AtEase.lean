import BeanBridge.Proofs.Session.Query
import BeanBridge.Service.Handler

/-! What the handler of requests answers while its session is open with an endpoint in memory where
nothing is set up to break it.  It answers at once, within every deadline, and can be asked again. -/

namespace BeanBridge

namespace Handler

variable {library : RegexLibrary} {memory : Memory} {pattern bean : BeanName} {row : Memory.Bean}
  {text : String}

/-- The session is open with this endpoint, and nothing is set up to break it. -/
structure AtEase (memory : Memory) (handler : Handler Memory) : Prop where
  endpoint : handler.endpoint.2 = memory
  session : ∃ handle, Session.AtEase handler.endpoint.1.connection memory handle

end Handler

end BeanBridge
