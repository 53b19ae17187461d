import Mathlib.Algebra.Order.Ring.Int
import Mathlib.Data.List.Basic
import Mathlib.Order.Basic
import Mathlib.Order.Defs.LinearOrder

/-!
# Tables that are sorted by their key

The rows of a table in the order of a primary key, which carries the proof that
no two rows share a key.  Reading in key order and reading one page behind a
cursor are then operations on the list of rows.
-/

namespace Valqeron
namespace Foundation

variable {key row : Type} [LinearOrder key]

def KeysSorted (rows : List (key × row)) : Prop :=
  rows.Pairwise (fun a b => a.1 < b.1)

structure SortedTable (key row : Type) [LinearOrder key] where
  rows : List (key × row)
  sorted : KeysSorted rows
deriving DecidableEq

/-!
## Operations on sorted lists of rows
-/

def lookup (k : key) : List (key × row) -> Option row
  | [] => none
  | (k', r) :: rest => if k' = k then some r else lookup k rest

def insertRow (k : key) (r : row) : List (key × row) -> List (key × row)
  | [] => [(k, r)]
  | (k', r') :: rest =>
      if k < k' then
        (k, r) :: (k', r') :: rest
      else if k = k' then
        (k, r) :: rest
      else
        (k', r') :: insertRow k r rest

def eraseRow (k : key) (rows : List (key × row)) : List (key × row) :=
  rows.filter (fun entry => decide (entry.1 ≠ k))

theorem mem_insertRow {k : key} {r : row} {rows : List (key × row)}
    {entry : key × row} (h : entry ∈ insertRow k r rows) :
    entry = (k, r) ∨ entry ∈ rows := by
  induction rows with
  | nil =>
      left
      simpa [insertRow] using h
  | cons first rest ih =>
      rcases first with ⟨k', r'⟩
      unfold insertRow at h
      split at h
      · rcases List.mem_cons.mp h with hnew | hold
        · exact Or.inl hnew
        · exact Or.inr hold
      · split at h
        · rcases List.mem_cons.mp h with hnew | hold
          · exact Or.inl hnew
          · exact Or.inr (List.mem_cons_of_mem _ hold)
        · rcases List.mem_cons.mp h with hfirst | hrest
          · exact Or.inr (hfirst ▸ List.mem_cons_self)
          · rcases ih hrest with hnew | hold
            · exact Or.inl hnew
            · exact Or.inr (List.mem_cons_of_mem _ hold)

theorem insertRow_sorted (k : key) (r : row) {rows : List (key × row)}
    (h : KeysSorted rows) : KeysSorted (insertRow k r rows) := by
  unfold KeysSorted at h ⊢
  induction rows with
  | nil => simp [insertRow]
  | cons first rest ih =>
      rcases first with ⟨k', r'⟩
      rw [List.pairwise_cons] at h
      unfold insertRow
      split
      · rename_i hlt
        rw [List.pairwise_cons, List.pairwise_cons]
        refine ⟨?_, h.left, h.right⟩
        intro entry hmem
        rcases List.mem_cons.mp hmem with hfirst | hrest
        · rw [hfirst]
          exact hlt
        · exact lt_trans hlt (h.left entry hrest)
      · split
        · rename_i heq
          subst heq
          rw [List.pairwise_cons]
          exact ⟨h.left, h.right⟩
        · rename_i hnlt hne
          rw [List.pairwise_cons]
          refine ⟨?_, ih h.right⟩
          intro entry hmem
          rcases mem_insertRow hmem with hnew | hold
          · rw [hnew]
            exact lt_of_le_of_ne (le_of_not_gt hnlt) (Ne.symm hne)
          · exact h.left entry hold

theorem lookup_insertRow_self (k : key) (r : row) (rows : List (key × row)) :
    lookup k (insertRow k r rows) = some r := by
  induction rows with
  | nil => simp [insertRow, lookup]
  | cons first rest ih =>
      rcases first with ⟨k', r'⟩
      unfold insertRow
      split
      · simp [lookup]
      · split
        · simp [lookup]
        · rename_i hne
          simp [lookup, Ne.symm hne, ih]

theorem lookup_insertRow_of_ne {k j : key} (hne : j ≠ k) (r : row)
    (rows : List (key × row)) :
    lookup j (insertRow k r rows) = lookup j rows := by
  induction rows with
  | nil => simp [insertRow, lookup, Ne.symm hne]
  | cons first rest ih =>
      rcases first with ⟨k', r'⟩
      unfold insertRow
      split
      · simp [lookup, Ne.symm hne]
      · split
        · rename_i heq
          subst heq
          simp [lookup, Ne.symm hne]
        · by_cases hk : k' = j
          · simp [lookup, hk]
          · simp [lookup, hk, ih]

theorem lookup_eq_some_iff_mem {rows : List (key × row)}
    (h : KeysSorted rows) (k : key) (r : row) :
    lookup k rows = some r <-> (k, r) ∈ rows := by
  unfold KeysSorted at h
  induction rows with
  | nil => simp [lookup]
  | cons first rest ih =>
      rcases first with ⟨k', r'⟩
      rw [List.pairwise_cons] at h
      by_cases hk : k' = k
      · subst k'
        simp only [lookup, if_true, Option.some.injEq, List.mem_cons,
          Prod.mk.injEq, true_and]
        constructor
        · intro hr
          exact Or.inl hr.symm
        · intro hmem
          rcases hmem with hr | hrest
          · exact hr.symm
          · exact absurd (h.left _ hrest) (lt_irrefl k)
      · simp only [lookup, hk, if_false, ih h.right, List.mem_cons,
          Prod.mk.injEq, Ne.symm hk, false_and, false_or]

namespace SortedTable

def empty : SortedTable key row where
  rows := []
  sorted := List.Pairwise.nil

def find? (t : SortedTable key row) (k : key) : Option row := lookup k t.rows

def insert (t : SortedTable key row) (k : key) (r : row) :
    SortedTable key row where
  rows := insertRow k r t.rows
  sorted := insertRow_sorted k r t.sorted

def erase (t : SortedTable key row) (k : key) : SortedTable key row where
  rows := eraseRow k t.rows
  sorted := t.sorted.filter _

def after (t : SortedTable key row) (cursor : Option key) :
    List (key × row) :=
  match cursor with
  | none => t.rows
  | some k => t.rows.filter (fun entry => decide (k < entry.1))

def page (t : SortedTable key row) (cursor : Option key) (limit : Nat) :
    List (key × row) :=
  (t.after cursor).take limit

theorem find?_eq_some_iff (t : SortedTable key row) (k : key) (r : row) :
    t.find? k = some r <-> (k, r) ∈ t.rows :=
  lookup_eq_some_iff_mem t.sorted k r

theorem any_eq_true {t : SortedTable key row} {p : key -> row -> Bool} :
    t.rows.any (fun entry => p entry.1 entry.2) = true <->
      exists k r, t.find? k = some r ∧ p k r = true := by
  rw [List.any_eq_true]
  constructor
  · intro h
    rcases h with ⟨⟨k, r⟩, hmem, hp⟩
    exact ⟨k, r, (t.find?_eq_some_iff k r).mpr hmem, hp⟩
  · intro h
    rcases h with ⟨k, r, hfind, hp⟩
    exact ⟨(k, r), (t.find?_eq_some_iff k r).mp hfind, hp⟩

@[simp] theorem find?_insert_self (t : SortedTable key row) (k : key)
    (r : row) : (t.insert k r).find? k = some r :=
  lookup_insertRow_self k r t.rows

theorem find?_insert_of_ne (t : SortedTable key row) {k j : key}
    (hne : j ≠ k) (r : row) : (t.insert k r).find? j = t.find? j :=
  lookup_insertRow_of_ne hne r t.rows

@[simp] theorem find?_erase_self (t : SortedTable key row) (k : key) :
    (t.erase k).find? k = none := by
  rw [Option.eq_none_iff_forall_ne_some]
  intro r hr
  rw [find?_eq_some_iff] at hr
  simp [erase, eraseRow] at hr

theorem find?_erase_of_ne (t : SortedTable key row) {k j : key}
    (hne : j ≠ k) : (t.erase k).find? j = t.find? j := by
  apply Option.ext
  intro r
  rw [find?_eq_some_iff, find?_eq_some_iff]
  simp [erase, eraseRow, hne]

/-!
## Pages

A row is on a page exactly when it lies behind the cursor and at most `limit`
rows lie behind the cursor up to and including it.
-/

theorem mem_after (t : SortedTable key row) (cursor : Option key)
    (entry : key × row) :
    entry ∈ t.after cursor <->
      entry ∈ t.rows ∧ forall k, cursor = some k -> k < entry.1 := by
  cases cursor with
  | none => simp [after]
  | some k => simp [after]

theorem after_sorted (t : SortedTable key row) (cursor : Option key) :
    KeysSorted (t.after cursor) := by
  cases cursor with
  | none => exact t.sorted
  | some k => exact t.sorted.filter _

/-- How many rows lie behind the cursor up to a key. -/
def rank (t : SortedTable key row) (cursor : Option key) (k : key) : Nat :=
  (t.after cursor).countP (fun entry => decide (entry.1 <= k))

theorem mem_take_iff_countP {rows : List (key × row)} (h : KeysSorted rows)
    (limit : Nat) {entry : key × row} (hmem : entry ∈ rows) :
    entry ∈ rows.take limit <->
      rows.countP (fun e => decide (e.1 <= entry.1)) <= limit := by
  unfold KeysSorted at h
  induction rows generalizing limit with
  | nil => cases hmem
  | cons first rest ih =>
      rw [List.pairwise_cons] at h
      cases limit with
      | zero =>
          constructor
          · intro hin
            simp at hin
          · intro hcount
            have hnone := List.countP_eq_zero.mp (Nat.le_zero.mp hcount)
            have hself := hnone entry hmem
            simp at hself
      | succ limit =>
          rw [List.take_succ_cons, List.mem_cons, List.countP_cons]
          rcases List.mem_cons.mp hmem with hfirst | hrest
          · subst hfirst
            have hzero : rest.countP (fun e => decide (e.1 <= entry.1)) = 0 := by
              rw [List.countP_eq_zero]
              intro e he
              simpa using h.left e he
            simp [hzero]
          · have hlt := h.left entry hrest
            have hne : entry ≠ first := by
              intro heq
              rw [heq] at hlt
              exact lt_irrefl _ hlt
            simp only [hne, false_or, le_of_lt hlt, decide_true, if_true,
              Nat.add_le_add_iff_right]
            exact ih h.right limit hrest

theorem mem_page (t : SortedTable key row) (cursor : Option key)
    (limit : Nat) (entry : key × row) :
    entry ∈ t.page cursor limit <->
      entry ∈ t.after cursor ∧ t.rank cursor entry.1 <= limit := by
  constructor
  · intro hin
    have hmem : entry ∈ t.after cursor := List.mem_of_mem_take hin
    exact ⟨hmem,
      (mem_take_iff_countP (t.after_sorted cursor) limit hmem).mp hin⟩
  · intro h
    exact (mem_take_iff_countP (t.after_sorted cursor) limit h.left).mpr
      h.right

end SortedTable

end Foundation
end Valqeron
