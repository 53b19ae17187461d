import Mathlib.Algebra.Order.Ring.Int

/-!
# Unsigned arithmetic that reports overflow

The results that an unsigned integer type of a given width can hold; `none`
where the type has no such value, and where a shift is not below the width.  The
saturating sum stays at the largest value instead.
-/

namespace Valqeron
namespace Foundation

def checkedAdd (width a b : Nat) : Option Nat :=
  if a + b < 2 ^ width then some (a + b) else none

def checkedMul (width a b : Nat) : Option Nat :=
  if a * b < 2 ^ width then some (a * b) else none

def checkedSub (a b : Nat) : Option Nat :=
  if b <= a then some (a - b) else none

def checkedShiftRight {w : Nat} (bits : BitVec w) (amount : Nat) :
    Option (BitVec w) :=
  if amount < w then some (bits >>> amount) else none

theorem checkedAdd_of_lt {width a b : Nat} (h : a + b < 2 ^ width) :
    checkedAdd width a b = some (a + b) := if_pos h

theorem checkedMul_of_lt {width a b : Nat} (h : a * b < 2 ^ width) :
    checkedMul width a b = some (a * b) := if_pos h

theorem checkedSub_of_le {a b : Nat} (h : b <= a) :
    checkedSub a b = some (a - b) := if_pos h

theorem checkedShiftRight_of_lt {w amount : Nat} {bits : BitVec w}
    (h : amount < w) : checkedShiftRight bits amount = some (bits >>> amount) :=
  if_pos h

def saturatingAdd (a b : UInt32) : UInt32 :=
  if a.toNat + b.toNat < 2 ^ 32 then a + b else UInt32.ofNat (2 ^ 32 - 1)

theorem toNat_saturatingAdd {a b : UInt32} (h : a.toNat + b.toNat < 2 ^ 32) :
    (saturatingAdd a b).toNat = a.toNat + b.toNat := by
  unfold saturatingAdd
  rw [if_pos h, UInt32.toNat_add, Nat.mod_eq_of_lt h]

end Foundation
end Valqeron
