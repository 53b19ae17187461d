import Mathlib.Algebra.Order.Ring.Int
import Mathlib.Data.Int.ModEq
import Mathlib.Data.Nat.Digits.Defs
import Mathlib.Data.Vector.Basic

/-!
# Numerals whose symbols stand for several digits

A text whose symbols are spelled with one or more digits each, read as one
number.  Reading it symbol by symbol and keeping only the remainder gives the
remainder of the whole number, and an exchange of two neighbours is seen in that
remainder exactly when it is seen in the two symbols alone.
-/

namespace Valqeron
namespace Foundation

def numeral (base : Nat) (digits : List Nat) : Nat :=
  Nat.ofDigits base digits.reverse

theorem numeral_append (base : Nat) (l r : List Nat) :
    numeral base (l ++ r) = numeral base l * base ^ r.length + numeral base r := by
  unfold numeral
  rw [List.reverse_append, Nat.ofDigits_append, List.length_reverse,
    Nat.mul_comm, Nat.add_comm]

/-!
## The remainder of a spelled text
-/

section Spelling

variable {α : Type} (base : Nat) (spell : α -> List Nat)

def spelledNumber (text : List α) : Nat := numeral base (text.flatMap spell)

theorem spelledNumber_append (l r : List α) :
    spelledNumber base spell (l ++ r) =
      spelledNumber base spell l * base ^ (r.flatMap spell).length +
        spelledNumber base spell r := by
  unfold spelledNumber
  rw [List.flatMap_append, numeral_append]

/-- Read the symbols one after the other and keep the remainder by `m`. -/
def foldResidue (m : Nat) : Nat -> List α -> Nat
  | rem, [] => rem
  | rem, a :: rest =>
      foldResidue m
        ((rem * base ^ (spell a).length + numeral base (spell a)) % m) rest

theorem foldResidue_modEq (m rem : Nat) (text : List α) :
    foldResidue base spell m rem text ≡
      rem * base ^ (text.flatMap spell).length + spelledNumber base spell text
        [MOD m] := by
  induction text generalizing rem with
  | nil =>
      show rem ≡ rem * base ^ 0 + 0 [MOD m]
      rw [Nat.pow_zero, Nat.mul_one, Nat.add_zero]
  | cons a rest ih =>
      have hfirst :
          (rem * base ^ (spell a).length + numeral base (spell a)) % m ≡
            rem * base ^ (spell a).length + numeral base (spell a) [MOD m] :=
        Nat.mod_modEq _ m
      have hlength :
          ((a :: rest).flatMap spell).length =
            (spell a).length + (rest.flatMap spell).length := by
        rw [List.flatMap_cons, List.length_append]
      have hnumber :
          spelledNumber base spell (a :: rest) =
            numeral base (spell a) * base ^ (rest.flatMap spell).length +
              spelledNumber base spell rest := by
        unfold spelledNumber
        rw [List.flatMap_cons, numeral_append]
      have hread := (ih _).trans ((hfirst.mul_right _).add_right _)
      rw [hlength, hnumber, Nat.pow_add, ← Nat.mul_assoc, ← Nat.add_assoc,
        ← Nat.add_mul]
      exact hread

theorem foldResidue_lt {m rem : Nat} (h : rem < m) (text : List α) :
    foldResidue base spell m rem text < m := by
  induction text generalizing rem with
  | nil => exact h
  | cons a rest ih => exact ih (Nat.mod_lt _ (Nat.zero_lt_of_lt h))

theorem foldResidue_zero {m : Nat} (hm : 0 < m) (text : List α) :
    foldResidue base spell m 0 text = spelledNumber base spell text % m := by
  have hmod := foldResidue_modEq base spell m 0 text
  rw [Nat.zero_mul, Nat.zero_add] at hmod
  have hlt := foldResidue_lt base spell hm text
  calc foldResidue base spell m 0 text
      = foldResidue base spell m 0 text % m := (Nat.mod_eq_of_lt hlt).symm
    _ = spelledNumber base spell text % m := hmod

end Spelling

/-!
## Exchange of neighbours
-/

def swapAdjacent {α : Type} : Nat -> List α -> List α
  | 0, a :: b :: rest => b :: a :: rest
  | i + 1, a :: rest => a :: swapAdjacent i rest
  | _, text => text

@[simp] theorem length_swapAdjacent {α : Type} (i : Nat) (text : List α) :
    (swapAdjacent i text).length = text.length := by
  fun_induction swapAdjacent i text with
  | case1 a b rest => rfl
  | case2 i a rest ih => rw [List.length_cons, List.length_cons, ih]
  | case3 => rfl

theorem swapAdjacent_append {α : Type} (before : List α) (a b : α)
    (after : List α) :
    swapAdjacent before.length (before ++ a :: b :: after) =
      before ++ b :: a :: after := by
  induction before with
  | nil => rfl
  | cons c before ih =>
      show c :: swapAdjacent before.length (before ++ a :: b :: after) = _
      rw [ih]
      rfl

theorem swapAdjacent_perm {α : Type} (i : Nat) (text : List α) :
    (swapAdjacent i text).Perm text := by
  fun_induction swapAdjacent i text with
  | case1 a b rest => exact List.Perm.swap a b rest
  | case2 i a rest ih => exact ih.cons a
  | case3 => exact List.Perm.refl _

theorem getElem?_swapAdjacent_of_lt {α : Type} {i j : Nat} (h : i + 1 < j)
    (text : List α) : (swapAdjacent i text)[j]? = text[j]? := by
  fun_induction swapAdjacent i text generalizing j with
  | case1 a b rest =>
      rcases j with _ | _ | j
      · cases h
      · exact absurd h (Nat.lt_irrefl 1)
      · rfl
  | case2 i a rest ih =>
      cases j with
      | zero => cases h
      | succ j => exact ih (Nat.succ_lt_succ_iff.mp h)
  | case3 => rfl

theorem exists_neighbours {α : Type} {text : List α} {i : Nat} {a b : α}
    (ha : text[i]? = some a) (hb : text[i + 1]? = some b) :
    exists before after,
      before.length = i ∧ text = before ++ a :: b :: after := by
  rcases List.getElem?_eq_some_iff.mp ha with ⟨hi, rfl⟩
  rcases List.getElem?_eq_some_iff.mp hb with ⟨hi', rfl⟩
  refine ⟨text.take i, text.drop (i + 2), ?_, ?_⟩
  · exact List.length_take_of_le hi.le
  · calc text = text.take i ++ text.drop i := (List.take_append_drop i text).symm
      _ = text.take i ++ text[i] :: text[i + 1] :: text.drop (i + 2) := by
          rw [List.drop_eq_getElem_cons hi, List.drop_eq_getElem_cons hi']

def swapped {α : Type} {n : Nat} (text : List.Vector α n) (i : Nat) :
    List.Vector α n :=
  ⟨swapAdjacent i text.toList, by
    rw [length_swapAdjacent]
    exact text.toList_length⟩

theorem exists_swapped {α : Type} {n : Nat} {text : List.Vector α n} {i : Nat}
    {a b : α} (ha : text.toList[i]? = some a)
    (hb : text.toList[i + 1]? = some b) :
    exists before after, before.length = i ∧
      text.toList = before ++ a :: b :: after ∧
      (swapped text i).toList = before ++ b :: a :: after := by
  rcases exists_neighbours ha hb with ⟨before, after, rfl, hsplit⟩
  refine ⟨before, after, rfl, hsplit, ?_⟩
  show swapAdjacent before.length text.toList = _
  rw [hsplit, swapAdjacent_append]

section Exchange

variable {α : Type} {base m : Nat} (spell : α -> List Nat)

/--
When the base has no factor in common with the modulus, what stands before and
after the two symbols does not matter.
-/
theorem spelledNumber_swap_modEq_iff (hcoprime : Nat.Coprime m base)
    (before : List α) (a b : α) (after : List α) :
    (spelledNumber base spell (before ++ b :: a :: after) ≡
        spelledNumber base spell (before ++ a :: b :: after) [MOD m]) <->
      (spelledNumber base spell [b, a] ≡ spelledNumber base spell [a, b]
        [MOD m]) := by
  have hsplit : forall x y : α,
      spelledNumber base spell (before ++ x :: y :: after) =
        (spelledNumber base spell before *
            base ^ ((spell x).length + (spell y).length) +
          spelledNumber base spell [x, y]) *
            base ^ (after.flatMap spell).length +
          spelledNumber base spell after := by
    intro x y
    have hlength :
        ([x, y].flatMap spell).length = (spell x).length + (spell y).length := by
      rw [List.flatMap_cons, List.flatMap_singleton, List.length_append]
    show spelledNumber base spell (before ++ ([x, y] ++ after)) = _
    rw [← List.append_assoc, spelledNumber_append, spelledNumber_append,
      hlength]
  have hgcd : Nat.gcd m (base ^ (after.flatMap spell).length) = 1 :=
    Nat.Coprime.pow_right _ hcoprime
  rw [hsplit b a, hsplit a b, Nat.add_comm (spell b).length]
  constructor
  · intro h
    have hpair := Nat.ModEq.cancel_right_of_coprime hgcd
      (Nat.ModEq.add_right_cancel' _ h)
    exact Nat.ModEq.add_left_cancel' _ hpair
  · intro h
    exact ((h.add_left _).mul_right _).add_right _

theorem spelledNumber_pair_modEq_iff (hbase : 0 < base) (a b : α) :
    (spelledNumber base spell [b, a] ≡ spelledNumber base spell [a, b]
        [MOD m]) <->
      (numeral base (spell b) * (base ^ (spell a).length - 1) ≡
        numeral base (spell a) * (base ^ (spell b).length - 1) [MOD m]) := by
  have hpair : forall x y : α,
      spelledNumber base spell [x, y] =
        (numeral base (spell x) + numeral base (spell y)) +
          numeral base (spell x) * (base ^ (spell y).length - 1) := by
    intro x y
    have hplaces : 1 + (base ^ (spell y).length - 1) = base ^ (spell y).length :=
      Nat.add_sub_cancel' (Nat.pow_pos hbase)
    calc spelledNumber base spell [x, y]
        = numeral base (spell x) * base ^ (spell y).length +
            numeral base (spell y) := by
          unfold spelledNumber
          rw [List.flatMap_cons, List.flatMap_singleton, numeral_append]
      _ = numeral base (spell x) * (1 + (base ^ (spell y).length - 1)) +
            numeral base (spell y) := by rw [hplaces]
      _ = _ := by rw [Nat.mul_add, Nat.mul_one, Nat.add_right_comm]
  rw [hpair b a, hpair a b, Nat.add_comm (numeral base (spell b))]
  constructor
  · intro h
    exact Nat.ModEq.add_left_cancel' _ h
  · intro h
    exact h.add_left _

end Exchange

/-!
## Replacement of one symbol
-/

theorem exists_around {α : Type} {n : Nat} (text : List.Vector α n) (i : Fin n)
    (b : α) :
    exists before after, text.toList = before ++ text.get i :: after ∧
      (text.set i b).toList = before ++ b :: after := by
  have hi : i.val < text.toList.length := by
    rw [text.toList_length]
    exact i.isLt
  refine ⟨text.toList.take i, text.toList.drop (i + 1), ?_, ?_⟩
  · have hget : text.get i = text.toList[i.val] := rfl
    rw [hget, ← List.drop_eq_getElem_cons hi, List.take_append_drop]
  · rw [List.Vector.toList_set]
    exact List.set_eq_take_append_cons_drop.trans (if_pos hi)

/--
A symbol that is replaced by one with as many digits is seen in the remainder
exactly when the two symbols differ by the modulus.
-/
theorem spelledNumber_replace_modEq_iff {α : Type} {base m : Nat}
    (spell : α -> List Nat) (hcoprime : Nat.Coprime m base) (before : List α)
    {a b : α} (after : List α) (hlength : (spell b).length = (spell a).length) :
    (spelledNumber base spell (before ++ b :: after) ≡
        spelledNumber base spell (before ++ a :: after) [MOD m]) <->
      (numeral base (spell b) ≡ numeral base (spell a) [MOD m]) := by
  have hsplit : forall x : α,
      spelledNumber base spell (before ++ x :: after) =
        (spelledNumber base spell before * base ^ (spell x).length +
          numeral base (spell x)) * base ^ (after.flatMap spell).length +
          spelledNumber base spell after := by
    intro x
    have hone : spelledNumber base spell [x] = numeral base (spell x) := by
      unfold spelledNumber
      rw [List.flatMap_singleton]
    show spelledNumber base spell (before ++ ([x] ++ after)) = _
    rw [← List.append_assoc, spelledNumber_append, spelledNumber_append, hone,
      List.flatMap_singleton]
  have hgcd : Nat.gcd m (base ^ (after.flatMap spell).length) = 1 :=
    Nat.Coprime.pow_right _ hcoprime
  rw [hsplit b, hsplit a, hlength]
  constructor
  · intro h
    have hsymbol := Nat.ModEq.cancel_right_of_coprime hgcd
      (Nat.ModEq.add_right_cancel' _ h)
    exact Nat.ModEq.add_left_cancel' _ hsymbol
  · intro h
    exact ((h.add_left _).mul_right _).add_right _

end Foundation
end Valqeron
