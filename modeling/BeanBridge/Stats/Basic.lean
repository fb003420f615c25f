import BeanBridge.Double.Fixed
import BeanBridge.Double.Rounding

/-! Records of the calls made to an endpoint. -/

namespace BeanBridge

/-- The record of one call. -/
structure Stat where
  /-- What kind of call it was. -/
  kind : String
  /-- The bean or pattern of the call. -/
  bean : String := ""
  /-- The attributes asked for. -/
  attributes : List String := []
  /-- How many values came back. -/
  responseCount : UInt64 := 0
  /-- How long the call took, in milliseconds. -/
  duration : Double := .zero
  /-- When the call began, in milliseconds since 1970. -/
  start : Int64 := 0
  successful : Bool := false
  deriving DecidableEq

/-- The record on one line. -/
def Stat.display (stat : Stat) : String :=
  "StatType: '" ++ stat.kind ++ "', MBean: '" ++ stat.bean ++ "', Attributes: '[" ++
    ",".intercalate stat.attributes ++ "]', TotalObjCount: " ++
    toString stat.responseCount.toNat ++ ", StartTimeMs: " ++ toString stat.start.toInt ++
    ", Duration: " ++ stat.duration.fixed 3 ++ "ms, Successful: " ++
    (if stat.successful then "true" else "false")

end BeanBridge
