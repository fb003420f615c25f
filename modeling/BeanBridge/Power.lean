/-! Powers of numbers are the ones of the core library, whatever others are in scope. -/

namespace BeanBridge

@[default_instance 30000]
instance (priority := 2000) natPower : Pow Nat Nat := instPowNat

@[default_instance 20000]
instance (priority := 2000) intPower : Pow Int Nat := instPowNat

end BeanBridge
