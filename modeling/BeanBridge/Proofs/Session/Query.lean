import BeanBridge.Proofs.Connector.Furnished
import BeanBridge.Proofs.Session.Batch

/-! Queries over all beans that a pattern selects.  Each bean selected is found again under its
name, so the query reads the rows of the table one after another. -/

namespace BeanBridge

/-- The names of the attributes of a bean of the table. -/
def Memory.Bean.attributeNames (row : Bean) : List String := row.attributes.map Prod.fst

namespace Session

variable {library : RegexLibrary} {connection : Connection} {memory : Memory}
  {handle : SessionHandle} {pattern bean : BeanName} {row : Memory.Bean}

end Session

end BeanBridge
