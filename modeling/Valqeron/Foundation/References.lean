import Mathlib.Algebra.Order.Ring.Int
import Mathlib.Logic.Function.Basic

/-!
# References between entries

A table in which every entry may refer to one other entry.  Entries come after
what they refer to and go before it; then every chain of references ends.
-/

namespace Valqeron
namespace Foundation

variable {node : Type}

/-- `none` where there is no entry, otherwise the reference of the entry. -/
abbrev References (node : Type) := node -> Option (Option node)

namespace References

/-- Every reference leads to an entry that is there and stands lower. -/
def Grounded (refs : References node) : Prop :=
  exists rank : node -> Nat, forall x y, refs x = some (some y) ->
    (refs y).isSome = true ∧ rank y < rank x

def chain (refs : References node) (x : node) : Nat -> Option node
  | 0 => some x
  | n + 1 => (chain refs x n).bind (fun y => (refs y).join)

theorem grounded_empty : Grounded (fun _ : node => none) :=
  ⟨fun _ => 0, by simp⟩

theorem Grounded.target_isSome {refs : References node} (h : Grounded refs)
    {x y : node} (hxy : refs x = some (some y)) : (refs y).isSome = true := by
  rcases h with ⟨rank, hrank⟩
  exact (hrank x y hxy).left

/-- No chain is longer than the rank of its start. -/
theorem Grounded.chain_ends {refs : References node} (h : Grounded refs)
    (x : node) : exists n, chain refs x n = none := by
  rcases h with ⟨rank, hrank⟩
  have hdescent : forall n y, chain refs x n = some y ->
      rank y + n <= rank x := by
    intro n
    induction n with
    | zero =>
        intro y hy
        cases hy
        exact Nat.le_refl _
    | succ n ih =>
        intro z hz
        rcases Option.bind_eq_some_iff.mp hz with ⟨y, hy, hyz⟩
        have hbefore := ih y hy
        have hstep := (hrank y z (Option.join_eq_some_iff.mp hyz)).right
        omega
  refine ⟨rank x + 1, ?_⟩
  rw [Option.eq_none_iff_forall_ne_some]
  intro y hy
  have := hdescent (rank x + 1) y hy
  omega

theorem Grounded.insert [DecidableEq node] {refs : References node}
    (h : Grounded refs) {x : node} {target : Option node}
    (hfree : refs x = none)
    (htarget : forall y, target = some y -> (refs y).isSome = true) :
    Grounded (Function.update refs x (some target)) := by
  rcases h with ⟨rank, hrank⟩
  have hother : forall y, (refs y).isSome = true -> y ≠ x := by
    intro y hy heq
    rw [heq, hfree] at hy
    cases hy
  refine ⟨Function.update rank x ((target.map rank).getD 0 + 1), ?_⟩
  intro y z hyz
  rcases eq_or_ne y x with heq | hne
  · subst heq
    rw [Function.update_self, Option.some.injEq] at hyz
    have hz := htarget z hyz
    have hzy := hother z hz
    rw [Function.update_of_ne hzy, Function.update_of_ne hzy,
      Function.update_self, hyz]
    exact ⟨hz, Nat.lt_succ_self _⟩
  · rw [Function.update_of_ne hne] at hyz
    rcases hrank y z hyz with ⟨hz, hlt⟩
    have hzx := hother z hz
    rw [Function.update_of_ne hzx, Function.update_of_ne hzx,
      Function.update_of_ne hne]
    exact ⟨hz, hlt⟩

theorem Grounded.erase [DecidableEq node] {refs : References node}
    (h : Grounded refs) {x : node}
    (hfree : forall y, y ≠ x -> refs y ≠ some (some x)) :
    Grounded (Function.update refs x none) := by
  rcases h with ⟨rank, hrank⟩
  refine ⟨rank, ?_⟩
  intro y z hyz
  rcases eq_or_ne y x with heq | hne
  · rw [heq, Function.update_self] at hyz
    cases hyz
  · rw [Function.update_of_ne hne] at hyz
    have hzx : z ≠ x := by
      intro heq
      rw [heq] at hyz
      exact hfree y hne hyz
    rw [Function.update_of_ne hzx]
    exact hrank y z hyz

end References

end Foundation
end Valqeron
