/-! Arithmetic modulo a number. -/

namespace BeanBridge.Residue

/-- The power of `base` modulo `m`. -/
def power (m base exponent : Nat) : Nat :=
  if exponent = 0 then 1 % m
  else
    let half := power m (base * base % m) (exponent / 2)
    if exponent % 2 = 0 then half else base * half % m
termination_by exponent
decreasing_by omega

/-- The number that gives one when multiplied with `n`, modulo a prime. -/
def inverse (prime n : Nat) : Nat := power prime n (prime - 2)

/-- `a - b` modulo `m`, for numbers below `m`. -/
def sub (m a b : Nat) : Nat := (a + m - b) % m

end BeanBridge.Residue
