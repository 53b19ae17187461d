import Mathlib.Algebra.Order.Ring.Int
import Mathlib.Data.List.Nodup
import Mathlib.Logic.Function.Basic

/-!
# Grouping the rows of a second list under those of a first

The second list is grouped by a key in one pass, and every row of the first list
takes its group out of the map.  Grouping keeps the order within a group, and a
stable sort that agrees with that order does not disturb it.
-/

namespace Valqeron
namespace Foundation

variable {key row a : Type} [DecidableEq key]

def groupBy (keyOf : a -> key) (l : List a) : key -> List a :=
  l.foldl
    (fun grouped x =>
      Function.update grouped (keyOf x) (grouped (keyOf x) ++ [x]))
    (fun _ => [])

def takeGroups (keyOf : row -> key) :
    (key -> List a) -> List row -> List (row × List a)
  | _, [] => []
  | grouped, r :: rest =>
      (r, grouped (keyOf r)) ::
        takeGroups keyOf (Function.update grouped (keyOf r) []) rest

theorem foldl_group_apply (keyOf : a -> key) (l : List a)
    (grouped : key -> List a) (k : key) :
    l.foldl
      (fun grouped x =>
        Function.update grouped (keyOf x) (grouped (keyOf x) ++ [x]))
      grouped k =
    grouped k ++ l.filter (fun x => keyOf x == k) := by
  induction l generalizing grouped with
  | nil => simp
  | cons x rest ih =>
      rw [List.foldl_cons, ih]
      by_cases hk : keyOf x = k
      · subst hk
        rw [Function.update_self, List.filter_cons_of_pos (by simp),
          List.append_assoc]
        rfl
      · rw [Function.update_of_ne (Ne.symm hk),
          List.filter_cons_of_neg (by simpa using hk)]

theorem groupBy_apply (keyOf : a -> key) (l : List a) (k : key) :
    groupBy keyOf l k = l.filter (fun x => keyOf x == k) := by
  unfold groupBy
  rw [foldl_group_apply, List.nil_append]

theorem takeGroups_eq_map (keyOf : row -> key) (grouped : key -> List a)
    {rows : List row} (h : (rows.map keyOf).Nodup) :
    takeGroups keyOf grouped rows =
      rows.map (fun r => (r, grouped (keyOf r))) := by
  induction rows generalizing grouped with
  | nil => rfl
  | cons r rest ih =>
      rw [List.map_cons, List.nodup_cons] at h
      unfold takeGroups
      rw [ih _ h.right, List.map_cons]
      congr 1
      apply List.map_congr_left
      intro r' hr'
      have hne : keyOf r' ≠ keyOf r := by
        intro heq
        apply h.left
        rw [← heq]
        exact List.mem_map_of_mem hr'
      rw [Function.update_of_ne hne]

/-- Sorting does not change a part of the list that is sorted already. -/
theorem filter_mergeSort {le : a -> a -> Bool}
    (htrans : forall x y z, le x y -> le y z -> le x z)
    (htotal : forall x y, le x y || le y x) {p : a -> Bool} {l : List a}
    (h : (l.filter p).Pairwise (fun x y => le x y)) :
    (l.mergeSort le).filter p = l.filter p := by
  have hsub : List.Sublist (l.filter p) (l.mergeSort le) :=
    List.sublist_mergeSort htrans htotal h List.filter_sublist
  have hfilter : List.Sublist ((l.filter p).filter p)
      ((l.mergeSort le).filter p) :=
    hsub.filter p
  rw [List.filter_filter, show (fun x => p x && p x) = p by
    funext x
    exact Bool.and_self (p x)] at hfilter
  have hlength : (l.filter p).length = ((l.mergeSort le).filter p).length :=
    ((List.mergeSort_perm l le).filter p).length_eq.symm
  exact (hfilter.eq_of_length hlength).symm

end Foundation
end Valqeron
