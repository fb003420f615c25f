import BeanBridge.Power

/-! Numbers and bytes in hexadecimal digits. -/

namespace BeanBridge.Hex

/-- The number that a digit stands for, in either case. -/
def digit? (c : Char) : Option Nat :=
  if '0' ≤ c ∧ c ≤ '9' then some (c.toNat - 48)
  else if 'a' ≤ c ∧ c ≤ 'f' then some (c.toNat - 87)
  else if 'A' ≤ c ∧ c ≤ 'F' then some (c.toNat - 55)
  else none

/-- The digit of a number below 16, in upper case. -/
def upperDigit (n : Nat) : Char := (Nat.digitChar n).toUpper

/-- The number that digits stand for. -/
def number? (digits : List Char) : Option Nat :=
  digits.foldlM (fun n c => do return n * 16 + (← digit? c)) 0

/-- So many digits of a number, in lower case, the least of them last. -/
def text (width n : Nat) : String :=
  String.ofList ((List.range width).map fun i => Nat.digitChar (n / 16 ^ (width - 1 - i) % 16))

/-- The two digits of each byte. -/
def ofBytes (bytes : ByteArray) : String :=
  String.join (bytes.toList.map fun byte => text 2 byte.toNat)

/-- The bytes of pairs of digits. -/
def bytes? : List Char → Option (List UInt8)
  | [] => some []
  | [_] => none
  | high :: low :: digits => do
    let byte ← number? [high, low]
    let bytes ← bytes? digits
    return .ofNat byte :: bytes

end BeanBridge.Hex
