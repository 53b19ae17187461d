import Mathlib.Algebra.Order.Ring.Int
import Mathlib.Data.Fin.Basic
import Mathlib.Data.List.Lex

/-!
# Digits of a fixed width

A number as its digits in some base, the most significant one first.  Reading
the digits back gives the number, and the lexicographic order of the digits is
the order of the numbers.
-/

namespace Valqeron
namespace Foundation

variable {base : Nat}

def bigEndian (base : Nat) [NeZero base] : Nat -> Nat -> List (Fin base)
  | 0, _ => []
  | width + 1, n =>
      Fin.ofNat base (n / base ^ width) ::
        bigEndian base width (n % base ^ width)

def fromBigEndian : List (Fin base) -> Nat
  | [] => 0
  | d :: rest => d.val * base ^ rest.length + fromBigEndian rest

theorem fromBigEndian_cons (d : Fin base) (rest : List (Fin base)) :
    fromBigEndian (d :: rest) =
      d.val * base ^ rest.length + fromBigEndian rest := rfl

theorem leading_lt {width n : Nat} (h : n < base ^ (width + 1)) :
    n / base ^ width < base := by
  apply Nat.div_lt_of_lt_mul
  rw [← Nat.pow_succ]
  exact h

theorem fromBigEndian_lt (ds : List (Fin base)) :
    fromBigEndian ds < base ^ ds.length := by
  induction ds with
  | nil => exact Nat.one_pos
  | cons d rest ih =>
      have hd := d.isLt
      calc fromBigEndian (d :: rest)
          < d.val * base ^ rest.length + base ^ rest.length :=
            Nat.add_lt_add_left ih _
        _ = (d.val + 1) * base ^ rest.length := (Nat.succ_mul _ _).symm
        _ <= base * base ^ rest.length := Nat.mul_le_mul_right _ hd
        _ = base ^ (d :: rest).length := by
            rw [List.length_cons, Nat.pow_succ, Nat.mul_comm]

variable [NeZero base]

@[simp] theorem length_bigEndian (width n : Nat) :
    (bigEndian base width n).length = width := by
  induction width generalizing n with
  | zero => rfl
  | succ width ih => simp [bigEndian, ih]

theorem pow_base_pos (width : Nat) : 0 < base ^ width :=
  Nat.pow_pos (Nat.pos_of_neZero base)

theorem fromBigEndian_bigEndian {width n : Nat} (h : n < base ^ width) :
    fromBigEndian (bigEndian base width n) = n := by
  induction width generalizing n with
  | zero => exact (Nat.lt_one_iff.mp h).symm
  | succ width ih =>
      have hrest := ih (Nat.mod_lt n (pow_base_pos width))
      unfold bigEndian fromBigEndian
      rw [hrest, length_bigEndian, Fin.val_ofNat, Nat.mod_eq_of_lt (leading_lt h),
        Nat.div_add_mod']

theorem bigEndian_fromBigEndian (ds : List (Fin base)) :
    bigEndian base ds.length (fromBigEndian ds) = ds := by
  induction ds with
  | nil => rfl
  | cons d rest ih =>
      have hlt := fromBigEndian_lt rest
      have hfirst :
          fromBigEndian (d :: rest) / base ^ rest.length = d.val := by
        rw [fromBigEndian_cons, Nat.mul_comm,
          Nat.mul_add_div (pow_base_pos _), Nat.div_eq_of_lt hlt, Nat.add_zero]
      have hrest :
          fromBigEndian (d :: rest) % base ^ rest.length =
            fromBigEndian rest := by
        rw [fromBigEndian_cons, Nat.mul_comm, Nat.mul_add_mod,
          Nat.mod_eq_of_lt hlt]
      rw [List.length_cons, bigEndian, hfirst, hrest, ih, Fin.ofNat_val_eq_self]

theorem bigEndian_lt_iff {width m n : Nat} (hm : m < base ^ width)
    (hn : n < base ^ width) :
    bigEndian base width m < bigEndian base width n <-> m < n := by
  induction width generalizing m n with
  | zero =>
      have hzero := Nat.lt_one_iff.mp hm
      have hzero' := Nat.lt_one_iff.mp hn
      simp [bigEndian, hzero, hzero']
  | succ width ih =>
      have hpos : 0 < base ^ width := pow_base_pos width
      have hmod := Nat.div_add_mod' m (base ^ width)
      have hmod' := Nat.div_add_mod' n (base ^ width)
      unfold bigEndian
      rw [List.cons_lt_cons_iff, ih (Nat.mod_lt m hpos) (Nat.mod_lt n hpos),
        Fin.lt_def, Fin.ext_iff, Fin.val_ofNat, Fin.val_ofNat,
        Nat.mod_eq_of_lt (leading_lt hm), Nat.mod_eq_of_lt (leading_lt hn)]
      constructor
      · intro h
        rcases h with hfirst | ⟨hfirst, hrest⟩
        · exact Nat.lt_of_div_lt_div hfirst
        · rw [← hmod, ← hmod', hfirst]
          exact Nat.add_lt_add_left hrest _
      · intro hlt
        rcases Nat.lt_or_eq_of_le (Nat.div_le_div_right hlt.le) with
          hfirst | hfirst
        · exact Or.inl hfirst
        · right
          refine ⟨hfirst, ?_⟩
          rw [← hmod, ← hmod', hfirst] at hlt
          exact Nat.lt_of_add_lt_add_left hlt

end Foundation
end Valqeron
