import Mathlib.Algebra.Order.Ring.Int
import Mathlib.Data.Nat.Bits
import Mathlib.Data.Nat.ModEq

/-!
# The Luhn sum

Every second decimal digit, counted from the right, is doubled and replaced by
the sum of its digits; the weighted digits are added up.  Modulo ten the sum
tells every replacement of one digit, and every exchange of two neighbours but
the one of a zero and a nine.
-/

namespace Valqeron
namespace Foundation
namespace Luhn

/-- A digit, or the sum of the digits of its double. -/
def weigh (double : Bool) (d : Nat) : Nat :=
  if double then
    if 9 < d * 2 then d * 2 - 9 else d * 2
  else
    d

/-- The sum of the digits, of which the last one is doubled when asked for. -/
def sum (double : Bool) : List Nat -> Nat
  | [] => 0
  | d :: rest => weigh (xor double rest.length.bodd) d + sum double rest

theorem sum_append (double : Bool) (l r : List Nat) :
    sum double (l ++ r) = sum (xor double r.length.bodd) l + sum double r := by
  induction l with
  | nil =>
      show sum double r = 0 + sum double r
      rw [Nat.zero_add]
  | cons d rest ih =>
      have hdouble :
          xor double (rest ++ r).length.bodd =
            xor (xor double r.length.bodd) rest.length.bodd := by
        rw [List.length_append, Nat.bodd_add, Bool.xor_assoc,
          Bool.xor_comm rest.length.bodd]
      show weigh (xor double (rest ++ r).length.bodd) d +
        sum double (rest ++ r) = _
      rw [hdouble, ih, ← Nat.add_assoc]
      rfl

theorem sum_singleton (double : Bool) (d : Nat) :
    sum double [d] = weigh double d := by
  show weigh (xor double false) d + 0 = _
  rw [Bool.xor_false, Nat.add_zero]

/-!
## The check digit
-/

def checkDigit (digits : List Nat) : Nat := (10 - sum true digits % 10) % 10

theorem checkDigit_eq_iff (digits : List Nat) {d : Nat} (hd : d < 10) :
    checkDigit digits = d <-> sum false (digits ++ [d]) % 10 = 0 := by
  have hone : [d].length.bodd = true := Nat.bodd_one
  have hsum : sum false (digits ++ [d]) = sum true digits + d := by
    rw [sum_append, sum_singleton, hone]
    rfl
  have hlt : sum true digits % 10 < 10 := Nat.mod_lt _ (by decide)
  rw [hsum]
  unfold checkDigit
  omega

/-!
## What the sum tells
-/

theorem weigh_injective {double : Bool} {a b : Nat} (ha : a < 10) (hb : b < 10)
    (h : weigh double a ≡ weigh double b [MOD 10]) : a = b := by
  unfold Nat.ModEq weigh at h
  cases double with
  | false =>
      simp only [Bool.false_eq_true, if_false] at h
      omega
  | true =>
      simp only [if_true] at h
      split at h
      · split at h
        · omega
        · omega
      · split at h
        · omega
        · omega

/-- The sum of two digits grows by the digit that is doubled. -/
theorem weigh_exchange_iff {double : Bool} {a b : Nat} (ha : a < 10)
    (hb : b < 10) (hne : a ≠ b) :
    (weigh (!double) b + weigh double a ≡ weigh (!double) a + weigh double b
        [MOD 10]) <->
      (a = 0 ∧ b = 9) ∨ (a = 9 ∧ b = 0) := by
  unfold Nat.ModEq weigh
  cases double with
  | false =>
      simp only [Bool.not_false, if_true, Bool.false_eq_true, if_false]
      split
      · split
        · omega
        · omega
      · split
        · omega
        · omega
  | true =>
      simp only [Bool.not_true, if_true, Bool.false_eq_true, if_false]
      split
      · split
        · omega
        · omega
      · split
        · omega
        · omega

theorem sum_replace_modEq {double : Bool} {before after : List Nat} {a b : Nat}
    (ha : a < 10) (hb : b < 10)
    (h : sum double (before ++ a :: after) ≡ sum double (before ++ b :: after)
      [MOD 10]) : a = b := by
  rw [sum_append, sum_append] at h
  have hafter : weigh (xor double after.length.bodd) a + sum double after ≡
      weigh (xor double after.length.bodd) b + sum double after [MOD 10] :=
    Nat.ModEq.add_left_cancel' _ h
  exact weigh_injective ha hb (Nat.ModEq.add_right_cancel' _ hafter)

theorem sum_exchange_modEq_iff {double : Bool} {before after : List Nat}
    {a b : Nat} (ha : a < 10) (hb : b < 10) (hne : a ≠ b) :
    (sum double (before ++ b :: a :: after) ≡
        sum double (before ++ a :: b :: after) [MOD 10]) <->
      (a = 0 ∧ b = 9) ∨ (a = 9 ∧ b = 0) := by
  have hpair : forall x y, sum double (before ++ x :: y :: after) =
      sum (xor double after.length.bodd) before +
        (weigh (!(xor double after.length.bodd)) x +
          weigh (xor double after.length.bodd) y) + sum double after := by
    intro x y
    have hlength : (x :: y :: after).length.bodd = after.length.bodd := by
      simp only [List.length_cons, Nat.bodd_succ, Bool.not_not]
    have hnext : xor double (y :: after).length.bodd =
        !(xor double after.length.bodd) := by
      rw [List.length_cons, Nat.bodd_succ, Bool.xor_not]
    rw [sum_append, hlength]
    show _ + (weigh (xor double (y :: after).length.bodd) x +
      (weigh (xor double after.length.bodd) y + sum double after)) = _
    rw [hnext, Nat.add_assoc, Nat.add_assoc]
  rw [hpair b a, hpair a b, ← weigh_exchange_iff ha hb hne]
  constructor
  · intro h
    exact Nat.ModEq.add_left_cancel' _ (Nat.ModEq.add_right_cancel' _ h)
  · intro h
    exact (h.add_left _).add_right _

end Luhn
end Foundation
end Valqeron
