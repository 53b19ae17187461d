import Mathlib.Algebra.Order.Ring.Int
import Mathlib.Data.List.Nodup
import Mathlib.Data.List.Perm.Subperm
import Mathlib.Data.List.Range
import Mathlib.Logic.Function.Iterate
import Mathlib.Order.Nat

/-!
# Chains that end

A function that is applied over and over on a finite set of values.  It comes to
rest from every value exactly when no cycle is longer than one, and it comes to
rest in fewer steps than there are values.
-/

namespace Valqeron
namespace Foundation
namespace Chains

variable {value : Type} (next : value -> value)

def AtRest (x : value) : Prop := next x = x

def Ends (x : value) : Prop := exists n, AtRest next (next^[n] x)

def Returns (x : value) : Prop := exists n, 0 < n ∧ next^[n] x = x

variable {next} {x : value}

theorem returns_of_eq {i j : Nat} (hij : i < j)
    (h : next^[i] x = next^[j] x) : Returns next (next^[i] x) := by
  refine ⟨j - i, Nat.sub_pos_of_lt hij, ?_⟩
  rw [← Function.iterate_add_apply, Nat.sub_add_cancel hij.le]
  exact h.symm

theorem AtRest.iterate (h : AtRest next x) (n : Nat) : next^[n] x = x :=
  Function.iterate_fixed h n

theorem iterate_of_rest {m n : Nat} (h : AtRest next (next^[m] x))
    (hmn : m <= n) : next^[n] x = next^[m] x := by
  calc next^[n] x = next^[n - m] (next^[m] x) := by
        rw [← Function.iterate_add_apply, Nat.sub_add_cancel hmn]
    _ = next^[m] x := h.iterate (n - m)

theorem Ends.iterate (h : Ends next x) (i : Nat) : Ends next (next^[i] x) := by
  rcases h with ⟨m, hrest⟩
  refine ⟨m, ?_⟩
  rw [← Function.iterate_add_apply, iterate_of_rest hrest (Nat.le_add_right m i)]
  exact hrest

theorem atRest_of_returns (hreturns : Returns next x) (hends : Ends next x) :
    AtRest next x := by
  rcases hreturns with ⟨n, hn, hback⟩
  rcases hends with ⟨m, hrest⟩
  have hround : next^[n * m] x = x := by
    rw [Function.iterate_mul]
    exact Function.iterate_fixed hback m
  have hlong : m <= n * m := Nat.le_mul_of_pos_left m hn
  rw [← iterate_of_rest hrest hlong, hround] at hrest
  exact hrest

/-!
## Finitely many values
-/

section Finite

variable {values : List value}

theorem exists_repeat {n : Nat} (hmem : forall i, i < n -> next^[i] x ∈ values)
    (hn : values.length < n) :
    exists i j, i < j ∧ j < n ∧ next^[i] x = next^[j] x := by
  by_contra hnone
  have hnodup : ((List.range n).map (fun i => next^[i] x)).Nodup := by
    apply List.Nodup.map_on _ List.nodup_range
    intro i hi j hj hsame
    rcases Nat.lt_trichotomy i j with hlt | heq | hgt
    · exact absurd ⟨i, j, hlt, List.mem_range.mp hj, hsame⟩ hnone
    · exact heq
    · exact absurd ⟨j, i, hgt, List.mem_range.mp hi, hsame.symm⟩ hnone
  have hsubset : (List.range n).map (fun i => next^[i] x) ⊆ values := by
    intro y hy
    rcases List.mem_map.mp hy with ⟨i, hi, rfl⟩
    exact hmem i (List.mem_range.mp hi)
  have hlength := (hnodup.subperm hsubset).length_le
  rw [List.length_map, List.length_range] at hlength
  exact Nat.not_le_of_lt hn hlength

/-- A chain that ends does so in fewer steps than there are values. -/
theorem Ends.exists_lt (hmem : forall n, next^[n] x ∈ values)
    (h : Ends next x) :
    exists n, n < values.length ∧ AtRest next (next^[n] x) := by
  classical
  refine ⟨Nat.find h, ?_, Nat.find_spec h⟩
  by_contra hlong
  rcases exists_repeat (n := Nat.find h + 1) (fun i _ => hmem i)
      (Nat.lt_succ_of_le (Nat.le_of_not_lt hlong)) with
    ⟨i, j, hij, hj, hsame⟩
  have hrest := atRest_of_returns (returns_of_eq hij hsame) (h.iterate i)
  exact Nat.find_min h (Nat.lt_of_lt_of_le hij (Nat.le_of_lt_succ hj)) hrest

/-- Without a cycle that moves, every chain ends. -/
theorem ends_of_noCycle (hmem : forall n, next^[n] x ∈ values)
    (h : forall y, y ∈ values -> Returns next y -> AtRest next y) :
    Ends next x := by
  rcases exists_repeat (n := values.length + 1) (fun i _ => hmem i)
    (Nat.lt_succ_self _) with ⟨i, j, hij, _, hsame⟩
  exact ⟨i, h _ (hmem i) (returns_of_eq hij hsame)⟩

end Finite

end Chains
end Foundation
end Valqeron
