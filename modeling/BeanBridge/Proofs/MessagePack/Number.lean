import Mathlib.Tactic.Ring
import BeanBridge.MessagePack.Reader
import BeanBridge.MessagePack.Writer

/-! Numbers in bytes, highest first: reading so many bytes gives back the number they were written
for, unsigned or signed. -/

namespace BeanBridge.MessagePack

@[simp] theorem toList_ofList (bytes : List UInt8) : (ofList bytes).data.toList = bytes := rfl

@[simp] theorem length_bigEndian (width n : Nat) : (bigEndian width n).length = width := by
  induction width with
  | zero => rfl
  | succ width ih => rw [bigEndian, List.length_cons, ih]

/-- Going on from `high` with the bytes of `n` appends the last digits of `n` to `high`. -/
theorem foldl_bigEndian (width n high : Nat) :
    (bigEndian width n).foldl (fun n byte => n * 2 ^ 8 + byte.toNat) high =
      high * 2 ^ (8 * width) + n % 2 ^ (8 * width) := by
  induction width generalizing high with
  | zero => simp [bigEndian, Nat.mod_one]
  | succ width ih =>
    have hSplit : n % 2 ^ (8 * (width + 1)) =
        n % 2 ^ (8 * width) + 2 ^ (8 * width) * (n / 2 ^ (8 * width) % 2 ^ 8) := by
      rw [Nat.mul_succ, Nat.pow_add, Nat.mod_mul]
    rw [bigEndian, List.foldl_cons, ih, UInt8.toNat_ofNat', hSplit]
    ring

theorem ofBigEndian_bigEndian {width n : Nat} (h : n < 2 ^ (8 * width)) :
    ofBigEndian (bigEndian width n) = n := by
  rw [ofBigEndian, foldl_bigEndian, Nat.zero_mul, Nat.zero_add, Nat.mod_eq_of_lt h]

theorem take?_append {n : Nat} {front : List UInt8} (h : front.length = n) (rest : List UInt8) :
    take? n (front ++ rest) = some (front, rest) := by
  subst h
  simp [take?, List.splitAt_eq]

theorem number?_bigEndian {width n : Nat} (h : n < 2 ^ (8 * width)) (rest : List UInt8) :
    number? width (bigEndian width n ++ rest) = some (n, rest) := by
  rw [number?, take?_append (length_bigEndian width n), Option.map_some]
  simp only [ofBigEndian_bigEndian h]

/-- A negative number is written as its complement, and read back as itself. -/
theorem toSigned_complement (width : Nat) {n : Int64} (hWidth : 0 < width)
    (hLow : -2 ^ (8 * width - 1) ≤ n.toInt) (hNegative : n.toInt < 0) :
    toSigned width (n.toInt + 2 ^ (8 * width)).toNat = n := by
  have hHalf : (2 : Int) ^ (8 * width) = 2 * 2 ^ (8 * width - 1) := by
    rw [← Int.pow_succ', show 8 * width - 1 + 1 = 8 * width by omega]
  have hNat : ((n.toInt + 2 ^ (8 * width)).toNat : Int) = n.toInt + 2 ^ (8 * width) :=
    Int.toNat_of_nonneg (by omega)
  have hHigh : ¬(n.toInt + 2 ^ (8 * width)).toNat < 2 ^ (8 * width - 1) := by
    intro h
    have : ((n.toInt + 2 ^ (8 * width)).toNat : Int) < 2 ^ (8 * width - 1) := by exact_mod_cast h
    omega
  rw [toSigned, if_neg hHigh, hNat, Int.add_sub_cancel, Int64.ofInt_toInt]

end BeanBridge.MessagePack
