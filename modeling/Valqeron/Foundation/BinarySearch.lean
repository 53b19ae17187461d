import Mathlib.Algebra.Order.Ring.Int
import Mathlib.Data.List.Lex
import Mathlib.Data.List.Sort
import Mathlib.Order.Defs.LinearOrder

/-!
# Binary search in a list that is sorted by a key

Rows are sorted by a key, a repeated key shows in two neighbours, and a table
without a repeated key is searched by halving.  The search finds a row exactly
when the table has one with the key, and it finds the place of that row.
-/

namespace Valqeron
namespace Foundation

variable {row key : Type} [LinearOrder key]

def StrictlySorted (keyOf : row -> key) (rows : List row) : Prop :=
  rows.Pairwise (fun a b => keyOf a < keyOf b)

instance (keyOf : row -> key) (rows : List row) :
    Decidable (StrictlySorted keyOf rows) :=
  inferInstanceAs (Decidable (rows.Pairwise (fun a b => keyOf a < keyOf b)))

/-- `slice::sort_by_key`: rows with one key stay in their order. -/
def sortByKey (keyOf : row -> key) (rows : List row) : List row :=
  rows.insertionSort (fun a b => keyOf a <= keyOf b)

def repeatedKey (keyOf : row -> key) : List row -> Option row
  | a :: b :: rest =>
      if keyOf a = keyOf b then some a else repeatedKey keyOf (b :: rest)
  | _ => none

/--
The halving loop of a search: the `size` places from `base` on are left, and
each turn drops the lower or the upper half of them.
-/
def narrow (keyOf : row -> key) (rows : List row) (target : key) :
    (turns base size : Nat) -> Nat
  | 0, base, _ => base
  | turns + 1, base, size =>
      if 1 < size then
        let half := size / 2
        let mid := base + half
        if (rows[mid]?).any (fun r => target < keyOf r) then
          narrow keyOf rows target turns base (size - half)
        else
          narrow keyOf rows target turns mid (size - half)
      else
        base

/-- `slice::binary_search_by_key`, without the place of a missing key. -/
def binarySearchByKey (keyOf : row -> key) (rows : List row) (target : key) :
    Option Nat :=
  let base := narrow keyOf rows target rows.length 0 rows.length
  if (rows[base]?).any (fun r => keyOf r = target) then some base else none

def lookupByKey (keyOf : row -> key) (rows : List row) (target : key) :
    Option row :=
  (binarySearchByKey keyOf rows target).bind (fun index => rows[index]?)

def checkedLookup (keyOf : row -> key) (rows : List row) (target : key) :
    Option (Option row) :=
  match binarySearchByKey keyOf rows target with
  | none => some none
  | some index => (rows[index]?).map some

variable {keyOf : row -> key} {rows : List row} {target : key}

/-!
## Sorting
-/

theorem mem_sortByKey {r : row} : r ∈ sortByKey keyOf rows <-> r ∈ rows :=
  List.mem_insertionSort (fun a b => keyOf a <= keyOf b)

theorem length_sortByKey : (sortByKey keyOf rows).length = rows.length :=
  List.length_insertionSort (fun a b => keyOf a <= keyOf b) rows

theorem sortByKey_pairwise :
    (sortByKey keyOf rows).Pairwise (fun a b => keyOf a <= keyOf b) := by
  have : Std.Total (fun a b : row => keyOf a <= keyOf b) :=
    ⟨fun a b => le_total (keyOf a) (keyOf b)⟩
  have : IsTrans row (fun a b => keyOf a <= keyOf b) :=
    ⟨fun _ _ _ => le_trans⟩
  exact List.pairwise_insertionSort (fun a b => keyOf a <= keyOf b) rows

theorem strictlySorted_of_repeatedKey
    (hsorted : rows.Pairwise (fun a b => keyOf a <= keyOf b))
    (h : repeatedKey keyOf rows = none) : StrictlySorted keyOf rows := by
  unfold StrictlySorted
  induction rows with
  | nil => exact List.Pairwise.nil
  | cons a rest ih =>
      rw [List.pairwise_cons] at hsorted ⊢
      cases rest with
      | nil => exact ⟨nofun, List.Pairwise.nil⟩
      | cons b rest =>
          unfold repeatedKey at h
          split at h
          · cases h
          · rename_i hne
            have hrest := ih hsorted.right h
            have hab : keyOf a < keyOf b :=
              lt_of_le_of_ne (hsorted.left b List.mem_cons_self) hne
            refine ⟨?_, hrest⟩
            intro c hc
            rcases List.mem_cons.mp hc with rfl | hc
            · exact hab
            · exact lt_trans hab ((List.pairwise_cons.mp hrest).left c hc)

theorem repeatedKey_eq_none (h : (rows.map keyOf).Nodup) :
    repeatedKey keyOf rows = none := by
  fun_induction repeatedKey keyOf rows with
  | case1 a b rest hsame =>
      have hne := (List.nodup_cons.mp h).left
      rw [hsame] at hne
      exact absurd List.mem_cons_self hne
  | case2 a b rest hne ih => exact ih (List.nodup_cons.mp h).right
  | case3 => rfl

theorem StrictlySorted.nodup (h : StrictlySorted keyOf rows) :
    (rows.map keyOf).Nodup :=
  List.pairwise_map.mpr (h.imp (fun hlt => hlt.ne))

theorem sortByKey_perm : (sortByKey keyOf rows).Perm rows :=
  List.perm_insertionSort (fun a b => keyOf a <= keyOf b) rows

/-!
## Searching
-/

theorem keyOf_lt_of_lt (h : StrictlySorted keyOf rows) {i j : Nat} {a b : row}
    (hi : rows[i]? = some a) (hj : rows[j]? = some b) (hij : i < j) :
    keyOf a < keyOf b := by
  rcases List.getElem?_eq_some_iff.mp hi with ⟨hilt, rfl⟩
  rcases List.getElem?_eq_some_iff.mp hj with ⟨hjlt, rfl⟩
  exact List.pairwise_iff_getElem.mp h i j hilt hjlt hij

theorem index_unique (h : StrictlySorted keyOf rows) {i j : Nat} {a b : row}
    (hi : rows[i]? = some a) (hj : rows[j]? = some b)
    (hkey : keyOf a = keyOf b) : i = j := by
  rcases Nat.lt_trichotomy i j with hlt | heq | hgt
  · exact absurd hkey (keyOf_lt_of_lt h hi hj hlt).ne
  · exact heq
  · exact absurd hkey (keyOf_lt_of_lt h hj hi hgt).ne'

theorem row_unique (h : StrictlySorted keyOf rows) {a b : row} (ha : a ∈ rows)
    (hb : b ∈ rows) (hkey : keyOf a = keyOf b) : a = b := by
  rcases List.getElem?_of_mem ha with ⟨i, hi⟩
  rcases List.getElem?_of_mem hb with ⟨j, hj⟩
  have hij := index_unique h hi hj hkey
  subst hij
  exact Option.some.inj (hi.symm.trans hj)

theorem any_above_iff (h : StrictlySorted keyOf rows) {i j : Nat} {r : row}
    (hi : rows[i]? = some r) (hkey : keyOf r = target) (hj : j < rows.length) :
    (rows[j]?).any (fun a => target < keyOf a) = true <-> i < j := by
  have hget := List.getElem?_eq_getElem hj
  rw [hget, Option.any_some, decide_eq_true_eq, ← hkey]
  constructor
  · intro hlt
    by_contra hge
    rcases Nat.lt_or_eq_of_le (Nat.le_of_not_lt hge) with hji | heq
    · exact lt_asymm hlt (keyOf_lt_of_lt h hget hi hji)
    · subst heq
      rw [hget] at hi
      cases hi
      exact lt_irrefl _ hlt
  · intro hij
    exact keyOf_lt_of_lt h hi hget hij

/-- The place behind which the rows are above stays among those that are left. -/
theorem narrow_eq {i : Nat}
    (habove : forall j, j < rows.length ->
      ((rows[j]?).any (fun a => target < keyOf a) = true <-> i < j))
    {turns base size : Nat} (hturns : size <= turns + 1)
    (hsize : base + size <= rows.length) (hlow : base <= i)
    (hhigh : i < base + size) :
    narrow keyOf rows target turns base size = i := by
  induction turns generalizing base size with
  | zero =>
      show base = i
      omega
  | succ turns ih =>
      unfold narrow
      split
      · rename_i hmore
        have hmid := habove (base + size / 2) (by omega)
        simp only
        split
        · rename_i hany
          have hlt := hmid.mp hany
          exact ih (by omega) (by omega) hlow (by omega)
        · rename_i hany
          have hge := mt hmid.mpr hany
          exact ih (by omega) (by omega) (by omega) (by omega)
      · omega

/-- The search ends at the place behind which the rows are above. -/
theorem binarySearchByKey_of_above {i : Nat} {r : row} (hr : rows[i]? = some r)
    (hkey : keyOf r = target)
    (habove : forall j, j < rows.length ->
      ((rows[j]?).any (fun a => target < keyOf a) = true <-> i < j)) :
    binarySearchByKey keyOf rows target = some i := by
  have hlt := (List.getElem?_eq_some_iff.mp hr).choose
  have hplace : narrow keyOf rows target rows.length 0 rows.length = i :=
    narrow_eq habove (Nat.le_succ _) (Nat.zero_add _).le (Nat.zero_le i)
      (by omega)
  unfold binarySearchByKey
  simp only
  rw [hplace, hr, Option.any_some, if_pos (decide_eq_true hkey)]

theorem binarySearchByKey_ok {i : Nat}
    (h : binarySearchByKey keyOf rows target = some i) :
    exists r, rows[i]? = some r ∧ keyOf r = target := by
  unfold binarySearchByKey at h
  simp only at h
  split at h
  · rename_i hany
    cases h
    rcases (Option.any_eq_true _ _).mp hany with ⟨r, hr, hkey⟩
    exact ⟨r, hr, of_decide_eq_true hkey⟩
  · cases h

theorem checkedLookup_eq :
    checkedLookup keyOf rows target = some (lookupByKey keyOf rows target) := by
  unfold checkedLookup lookupByKey
  cases h : binarySearchByKey keyOf rows target with
  | none => rfl
  | some index =>
      rcases binarySearchByKey_ok h with ⟨r, hr, _⟩
      simp only [Option.bind_some]
      rw [hr]
      rfl

theorem binarySearchByKey_eq_some_iff (h : StrictlySorted keyOf rows)
    {i : Nat} :
    binarySearchByKey keyOf rows target = some i <->
      exists r, rows[i]? = some r ∧ keyOf r = target := by
  refine ⟨binarySearchByKey_ok, ?_⟩
  intro hgiven
  rcases hgiven with ⟨r, hr, hkey⟩
  exact binarySearchByKey_of_above hr hkey (fun j => any_above_iff h hr hkey)

theorem lookupByKey_eq_some_iff (h : StrictlySorted keyOf rows) {r : row} :
    lookupByKey keyOf rows target = some r <-> r ∈ rows ∧ keyOf r = target := by
  unfold lookupByKey
  rw [Option.bind_eq_some_iff]
  constructor
  · intro hgiven
    rcases hgiven with ⟨i, hi, hr⟩
    rcases (binarySearchByKey_eq_some_iff h).mp hi with ⟨r', hr', hkey⟩
    rw [hr] at hr'
    cases hr'
    exact ⟨List.mem_of_getElem? hr, hkey⟩
  · intro hgiven
    rcases hgiven with ⟨hmem, hkey⟩
    rcases List.getElem?_of_mem hmem with ⟨i, hi⟩
    exact ⟨i, (binarySearchByKey_eq_some_iff h).mpr ⟨r, hi, hkey⟩, hi⟩

/-!
## Repeated keys

Rows that were sorted by a key may still have one key; then the search finds the
last of them, and this is the last of them before the sorting.
-/

theorem any_above_of_last {before after : List row} {r : row}
    (hsorted : (before ++ r :: after).Pairwise
      (fun a b => keyOf a <= keyOf b))
    (hafter : forall a, a ∈ after -> keyOf a ≠ keyOf r) {j : Nat}
    (hj : j < (before ++ r :: after).length) :
    ((before ++ r :: after)[j]?).any (fun a => keyOf r < keyOf a) = true <->
      before.length < j := by
  rcases List.pairwise_append.mp hsorted with ⟨_, hrest, hbefore⟩
  rcases Nat.lt_or_ge j before.length with hlt | hge
  · rw [List.getElem?_append_left hlt, List.getElem?_eq_getElem hlt,
      Option.any_some, decide_eq_true_eq]
    exact iff_of_false
      (not_lt_of_ge (hbefore _ (List.getElem_mem hlt) r List.mem_cons_self))
      (Nat.not_lt.mpr hlt.le)
  · rw [List.getElem?_append_right hge]
    cases hplace : j - before.length with
    | zero =>
        have hend : j <= before.length := Nat.sub_eq_zero_iff_le.mp hplace
        rw [List.getElem?_cons_zero, Option.any_some, decide_eq_true_eq]
        exact iff_of_false (lt_irrefl _) (Nat.not_lt.mpr hend)
    | succ k =>
        have hlt : before.length < j :=
          Nat.lt_of_sub_pos (hplace ▸ Nat.succ_pos k)
        have hk : k < after.length := by
          rw [List.length_append, List.length_cons] at hj
          omega
        have hmem := List.getElem_mem hk
        rw [List.getElem?_cons_succ, List.getElem?_eq_getElem hk,
          Option.any_some, decide_eq_true_eq]
        exact iff_of_true (lt_of_le_of_ne
          ((List.pairwise_cons.mp hrest).left _ hmem) (hafter _ hmem).symm) hlt

theorem lookupByKey_of_last {before after : List row} {r : row}
    (hsorted : (before ++ r :: after).Pairwise
      (fun a b => keyOf a <= keyOf b))
    (hafter : forall a, a ∈ after -> keyOf a ≠ keyOf r) :
    lookupByKey keyOf (before ++ r :: after) (keyOf r) = some r := by
  have hr : (before ++ r :: after)[before.length]? = some r := by
    rw [List.getElem?_append_right le_rfl, Nat.sub_self]
    rfl
  unfold lookupByKey
  rw [binarySearchByKey_of_above hr rfl
    (fun j hj => any_above_of_last hsorted hafter hj)]
  exact hr

theorem lookupByKey_eq_getLast?
    (hsorted : rows.Pairwise (fun a b => keyOf a <= keyOf b)) :
    lookupByKey keyOf rows target =
      (rows.filter (fun r => keyOf r = target)).getLast? := by
  rw [List.getLast?_filter]
  cases hfind : rows.reverse.find? (fun r => keyOf r = target) with
  | none =>
      cases hlookup : lookupByKey keyOf rows target with
      | none => rfl
      | some r =>
          rcases Option.bind_eq_some_iff.mp hlookup with ⟨i, hi, hr⟩
          rcases binarySearchByKey_ok hi with ⟨r', hr', hkey⟩
          have hmem := List.mem_reverse.mpr (List.mem_of_getElem? hr')
          exact absurd (decide_eq_true hkey)
            (List.find?_eq_none.mp hfind r' hmem)
  | some r =>
      rcases List.find?_eq_some_iff_append.mp hfind with
        ⟨hkey, after, before, hrows, hafter⟩
      have hforward : rows = before.reverse ++ r :: after.reverse := by
        rw [← List.reverse_reverse rows, hrows, List.reverse_append,
          List.reverse_cons, List.append_assoc]
        rfl
      have htarget := of_decide_eq_true hkey
      rw [← htarget, hforward]
      rw [hforward] at hsorted
      apply lookupByKey_of_last hsorted
      intro a ha heq
      have hnone := hafter a (List.mem_reverse.mp ha)
      simp [heq, htarget] at hnone

theorem filter_sortByKey :
    (sortByKey keyOf rows).filter (fun r => keyOf r = target) =
      rows.filter (fun r => keyOf r = target) := by
  have hequal : (rows.filter (fun r => keyOf r = target)).Pairwise
      (fun a b => keyOf a <= keyOf b) := by
    apply List.pairwise_of_forall_mem_list
    intro a ha b hb
    have hkeyA := of_decide_eq_true (List.mem_filter.mp ha).right
    have hkeyB := of_decide_eq_true (List.mem_filter.mp hb).right
    rw [hkeyA, hkeyB]
  have hsublist := (List.sublist_insertionSort hequal
    List.filter_sublist).filter (fun r => decide (keyOf r = target))
  rw [List.filter_filter] at hsublist
  simp only [Bool.and_self] at hsublist
  exact (hsublist.eq_of_length
    ((sortByKey_perm.filter _).length_eq).symm).symm

theorem lookupByKey_sortByKey :
    lookupByKey keyOf (sortByKey keyOf rows) target =
      (rows.filter (fun r => keyOf r = target)).getLast? := by
  rw [lookupByKey_eq_getLast? sortByKey_pairwise, filter_sortByKey]

theorem lookupByKey_eq_find? (h : StrictlySorted keyOf rows) :
    lookupByKey keyOf rows target =
      rows.find? (fun r => keyOf r = target) := by
  cases hfind : rows.find? (fun r => keyOf r = target) with
  | none =>
      cases hlookup : lookupByKey keyOf rows target with
      | none => rfl
      | some r =>
          rcases (lookupByKey_eq_some_iff h).mp hlookup with ⟨hmem, hkey⟩
          exact absurd (decide_eq_true hkey) (List.find?_eq_none.mp hfind r hmem)
  | some r =>
      have hkey := List.find?_some hfind
      exact (lookupByKey_eq_some_iff h).mpr
        ⟨List.mem_of_find?_eq_some hfind, of_decide_eq_true hkey⟩

end Foundation
end Valqeron
