import Mathlib.Algebra.Order.Ring.Int
import Mathlib.Logic.Function.Basic
import Valqeron.Foundation.Keyset
import Valqeron.Foundation.VersionedRow

/-!
# Versioned stores

A store with optimistic concurrency control, as its clients think of it: a partial
function from keys to values with versions.  A change names the version that it has
seen; what a value must satisfy to be stored is a parameter of the operation.  A
sorted table implements such a store when its rows encode the values.
-/

namespace Valqeron
namespace Foundation

/-- Each value with the number of the write that stored it. -/
abbrev VersionedStore (key value : Type) : Type := key -> Option (value × Nat)

inductive StoreAnswer where
  | done
  | missing
  | mismatch (actual : Nat)
  | refused
deriving DecidableEq, Repr

namespace VersionedStore

variable {key value : Type} [DecidableEq key]

open Classical in
noncomputable def insert (s : VersionedStore key value) (k : key) (v : value)
    (allowed : Prop) : VersionedStore key value × StoreAnswer :=
  if s k = none ∧ allowed then
    (Function.update s k (some (v, 1)), .done)
  else
    (s, .refused)

open Classical in
noncomputable def modify (s : VersionedStore key value) (k : key)
    (expected : Nat) (change : value -> value) (allowed : value -> Prop) :
    VersionedStore key value × StoreAnswer :=
  match s k with
  | none => (s, .missing)
  | some (v, n) =>
      if n = expected then
        if allowed (change v) then
          (Function.update s k (some (change v, n + 1)), .done)
        else
          (s, .refused)
      else
        (s, .mismatch n)

open Classical in
noncomputable def remove (s : VersionedStore key value) (k : key)
    (expected : Nat) (allowed : Prop) :
    VersionedStore key value × StoreAnswer :=
  match s k with
  | none => (s, .missing)
  | some (_, n) =>
      if n = expected then
        if allowed then
          (Function.update s k none, .done)
        else
          (s, .refused)
      else
        (s, .mismatch n)

theorem insert_of_allowed {s : VersionedStore key value} {k : key} {v : value}
    {allowed : Prop} (hfree : s k = none) (h : allowed) :
    s.insert k v allowed = (Function.update s k (some (v, 1)), .done) :=
  if_pos ⟨hfree, h⟩

theorem insert_of_refused {s : VersionedStore key value} {k : key} {v : value}
    {allowed : Prop} (h : ¬ (s k = none ∧ allowed)) :
    s.insert k v allowed = (s, .refused) :=
  if_neg h

theorem modify_of_some {s : VersionedStore key value} {k : key} {v : value}
    {n : Nat} (h : s k = some (v, n)) (change : value -> value)
    (allowed : value -> Prop) :
    (allowed (change v) ->
      s.modify k n change allowed =
        (Function.update s k (some (change v, n + 1)), .done)) ∧
    (¬ allowed (change v) ->
      s.modify k n change allowed = (s, .refused)) := by
  unfold modify
  rw [h]
  simp only [if_true]
  exact ⟨fun hallowed => if_pos hallowed, fun hrefused => if_neg hrefused⟩

theorem remove_of_some {s : VersionedStore key value} {k : key} {v : value}
    {n : Nat} (h : s k = some (v, n)) (allowed : Prop) :
    (allowed -> s.remove k n allowed = (Function.update s k none, .done)) ∧
    (¬ allowed -> s.remove k n allowed = (s, .refused)) := by
  unfold remove
  rw [h]
  simp only [if_true]
  exact ⟨fun hallowed => if_pos hallowed, fun hrefused => if_neg hrefused⟩

theorem modify_of_stale {s : VersionedStore key value} {k : key}
    {expected : Nat} {change : value -> value} {allowed : value -> Prop}
    (h : forall v, s k ≠ some (v, expected)) :
    s.modify k expected change allowed =
      (s, ((s k).elim .missing (fun e => .mismatch e.2))) := by
  unfold modify
  cases hk : s k with
  | none => rfl
  | some e =>
      rcases e with ⟨v, n⟩
      have hne : n ≠ expected := by
        intro heq
        exact h v (by rw [hk, heq])
      simp only
      rw [if_neg hne]
      rfl

theorem remove_of_stale {s : VersionedStore key value} {k : key}
    {expected : Nat} {allowed : Prop}
    (h : forall v, s k ≠ some (v, expected)) :
    s.remove k expected allowed =
      (s, ((s k).elim .missing (fun e => .mismatch e.2))) := by
  unfold remove
  cases hk : s k with
  | none => rfl
  | some e =>
      rcases e with ⟨v, n⟩
      have hne : n ≠ expected := by
        intro heq
        exact h v (by rw [hk, heq])
      simp only
      rw [if_neg hne]
      rfl

/-!
What all values of a store satisfy stays so when the values that are stored satisfy
it as well.
-/

def Holds (P : key -> value -> Prop) (s : VersionedStore key value) : Prop :=
  forall k v n, s k = some (v, n) -> P k v

section Holds

variable {P : key -> value -> Prop} {s : VersionedStore key value}

theorem Holds.update (h : s.Holds P) {k : key} {v : value} (n : Nat)
    (hv : P k v) : Holds P (Function.update s k (some (v, n))) := by
  intro j u m hj
  rcases eq_or_ne j k with heq | hne
  · subst heq
    rw [Function.update_self] at hj
    cases hj
    exact hv
  · rw [Function.update_of_ne hne] at hj
    exact h j u m hj

theorem Holds.erase (h : s.Holds P) (k : key) :
    Holds P (Function.update s k none) := by
  intro j u m hj
  rcases eq_or_ne j k with heq | hne
  · subst heq
    rw [Function.update_self] at hj
    cases hj
  · rw [Function.update_of_ne hne] at hj
    exact h j u m hj

theorem Holds.insert (h : s.Holds P) (k : key) (v : value) {allowed : Prop}
    (hv : allowed -> P k v) : (s.insert k v allowed).1.Holds P := by
  unfold VersionedStore.insert
  split
  · rename_i hboth
    exact h.update 1 (hv hboth.right)
  · exact h

theorem Holds.modify (h : s.Holds P) (k : key) (expected : Nat)
    {change : value -> value} {allowed : value -> Prop}
    (hchange : forall v, P k v -> allowed (change v) -> P k (change v)) :
    (s.modify k expected change allowed).1.Holds P := by
  by_cases hthere : exists v, s k = some (v, expected)
  · rcases hthere with ⟨v, hv⟩
    rcases modify_of_some hv change allowed with ⟨hallowed, hrefused⟩
    by_cases hok : allowed (change v)
    · rw [hallowed hok]
      exact h.update (expected + 1) (hchange v (h k v expected hv) hok)
    · rw [hrefused hok]
      exact h
  · rw [modify_of_stale (fun v hv => hthere ⟨v, hv⟩)]
    exact h

theorem Holds.remove (h : s.Holds P) (k : key) (expected : Nat)
    (allowed : Prop) : (s.remove k expected allowed).1.Holds P := by
  by_cases hthere : exists v, s k = some (v, expected)
  · rcases hthere with ⟨v, hv⟩
    rcases remove_of_some hv allowed with ⟨hallowed, hrefused⟩
    by_cases hok : allowed
    · rw [hallowed hok]
      exact h.erase k
    · rw [hrefused hok]
      exact h
  · rw [remove_of_stale (fun v hv => hthere ⟨v, hv⟩)]
    exact h

end Holds

/--
The entries are those behind the cursor in the order of their keys, cut off at
`limit`.
-/
structure IsPage [LT key] (s : VersionedStore key value) (after : Option key)
    (limit : Nat) (entries : List (key × value × Nat)) : Prop where
  increasing : entries.Pairwise (fun a b => a.1 < b.1)
  stored : forall e, e ∈ entries -> s e.1 = some e.2
  behind : forall e, e ∈ entries -> forall k, after = some k -> k < e.1
  short : entries.length <= limit
  /-- What is left out lies behind a full page. -/
  complete : forall k v, s k = some v ->
    (forall c, after = some c -> c < k) ->
      (k, v) ∈ entries ∨
        entries.length = limit ∧ forall e, e ∈ entries -> e.1 < k

end VersionedStore

/-!
## Tables that implement a store
-/

/-- The rows of the table are those of the values, under the same keys. -/
def Encodes {key value row : Type} [LinearOrder key]
    (encode : value -> Nat -> row) (t : SortedTable key row)
    (s : VersionedStore key value) : Prop :=
  forall k, t.find? k = (s k).map (fun e => encode e.1 e.2)

namespace Encodes

variable {key value row : Type} [LinearOrder key]
variable {encode : value -> Nat -> row} {t : SortedTable key row}
variable {s : VersionedStore key value}

theorem empty : Encodes encode (.empty : SortedTable key row)
    (fun _ => (none : Option (value × Nat))) := fun _ => rfl

theorem isSome (h : Encodes encode t s) (k : key) :
    (t.find? k).isSome = (s k).isSome := by
  rw [h k, Option.isSome_map]

theorem eq_none_iff (h : Encodes encode t s) (k : key) :
    t.find? k = none <-> s k = none := by
  rw [h k, Option.map_eq_none_iff]

theorem rowAt_of_some (h : Encodes encode t s) {version : row -> Nat}
    (hversion : forall v n, version (encode v n) = n) {k : key} {v : value}
    {n : Nat} (hk : s k = some (v, n)) :
    t.rowAt version k n = some (encode v n) := by
  rw [SortedTable.rowAt_eq_some, h k, hk]
  exact ⟨rfl, hversion v n⟩

theorem rowAt_eq_none (h : Encodes encode t s) {version : row -> Nat}
    (hversion : forall v n, version (encode v n) = n) {k : key}
    {expected : Nat} (hstale : forall v, s k ≠ some (v, expected)) :
    t.rowAt version k expected = none := by
  rw [SortedTable.rowAt_eq_none, h k]
  cases hk : s k with
  | none => simp
  | some e =>
      intro heq
      have hn : e.2 = expected := by
        rw [Option.map_some, Option.map_some, hversion] at heq
        exact Option.some.inj heq
      apply hstale e.1
      rw [hk, ← hn]

theorem any_eq_false (h : Encodes encode t s) {p : key -> row -> Bool} :
    t.rows.any (fun entry => p entry.1 entry.2) = false <->
      forall k v n, s k = some (v, n) -> p k (encode v n) = false := by
  rw [← Bool.not_eq_true, SortedTable.any_eq_true]
  constructor
  · intro hnone k v n hk
    rw [← Bool.not_eq_true]
    intro hp
    apply hnone
    refine ⟨k, encode v n, ?_, hp⟩
    rw [h k, hk]
    rfl
  · intro hvalues hsome
    rcases hsome with ⟨k, r, hrow, hp⟩
    rw [h k] at hrow
    rcases Option.map_eq_some_iff.mp hrow with ⟨⟨v, n⟩, hk, hencoded⟩
    rw [← hencoded, hvalues k v n hk] at hp
    cases hp

theorem insert (h : Encodes encode t s) (k : key) (v : value) (n : Nat) :
    Encodes encode (t.insert k (encode v n))
      (Function.update s k (some (v, n))) := by
  intro j
  rcases eq_or_ne j k with heq | hne
  · subst heq
    rw [SortedTable.find?_insert_self, Function.update_self]
    rfl
  · rw [SortedTable.find?_insert_of_ne t hne, Function.update_of_ne hne]
    exact h j

theorem erase (h : Encodes encode t s) (k : key) :
    Encodes encode (t.erase k) (Function.update s k none) := by
  intro j
  rcases eq_or_ne j k with heq | hne
  · subst heq
    rw [SortedTable.find?_erase_self, Function.update_self]
    rfl
  · rw [SortedTable.find?_erase_of_ne t hne, Function.update_of_ne hne]
    exact h j

theorem exists_entries (h : Encodes encode t s) {rows : List (key × row)}
    (hrows : forall e, e ∈ rows -> e ∈ t.rows) :
    exists entries : List (key × value × Nat),
      rows = entries.map (fun e => (e.1, encode e.2.1 e.2.2)) ∧
        forall e, e ∈ entries -> s e.1 = some e.2 := by
  induction rows with
  | nil => exact ⟨[], rfl, fun e he => absurd he List.not_mem_nil⟩
  | cons first rest ih =>
      rcases ih (fun e he => hrows e (List.mem_cons_of_mem first he)) with
        ⟨entries, hrest, hstored⟩
      have hfirst := (SortedTable.find?_eq_some_iff t first.1 first.2).mpr
        (hrows first List.mem_cons_self)
      rw [h first.1] at hfirst
      rcases Option.map_eq_some_iff.mp hfirst with ⟨v, hv, hencoded⟩
      refine ⟨(first.1, v) :: entries, ?_, ?_⟩
      · rw [List.map_cons, ← hrest, hencoded]
      · intro e he
        rcases List.mem_cons.mp he with heq | hlater
        · rw [heq]
          exact hv
        · exact hstored e hlater

theorem page (h : Encodes encode t s) (after : Option key) (limit : Nat) :
    exists entries : List (key × value × Nat),
      t.page after limit =
          entries.map (fun e => (e.1, encode e.2.1 e.2.2)) ∧
        s.IsPage after limit entries := by
  have hpage : forall e, e ∈ t.page after limit ->
      e ∈ t.rows ∧ forall k, after = some k -> k < e.1 := by
    intro e he
    exact (t.mem_after after e).mp (List.mem_of_mem_take he)
  rcases h.exists_entries (fun e he => (hpage e he).left) with
    ⟨entries, hrows, hstored⟩
  have hlength : entries.length = min limit (t.after after).length := by
    have hsame := congrArg List.length hrows
    rw [List.length_map] at hsame
    rw [← hsame]
    exact List.length_take
  have hmem : forall e, e ∈ entries ->
      (e.1, encode e.2.1 e.2.2) ∈ t.page after limit := by
    intro e he
    rw [hrows]
    exact List.mem_map_of_mem he
  refine ⟨entries, hrows, ?_, hstored, ?_, ?_, ?_⟩
  · have hsorted := t.pageKeys_increasing after limit
    unfold SortedTable.pageKeys at hsorted
    rw [hrows, List.map_map, List.pairwise_map] at hsorted
    exact hsorted
  · intro e he k hk
    exact (hpage _ (hmem e he)).right k hk
  · omega
  · intro k v hv hbehind
    have hrow : (k, encode v.1 v.2) ∈ t.rows := by
      rw [← SortedTable.find?_eq_some_iff, h k, hv]
      rfl
    have hafter : (k, encode v.1 v.2) ∈ t.after after :=
      (t.mem_after after _).mpr ⟨hrow, hbehind⟩
    by_cases hin : (k, encode v.1 v.2) ∈ t.page after limit
    · left
      rw [hrows] at hin
      rcases List.mem_map.mp hin with ⟨e, he, heq⟩
      have hkey : e.1 = k := (Prod.mk.inj heq).left
      have hvalue := hstored e he
      rw [hkey, hv] at hvalue
      have hentry : e = (k, v) := Prod.ext hkey (Option.some.inj hvalue).symm
      rw [← hentry]
      exact he
    · right
      have hsorted := t.after_sorted after
      unfold KeysSorted at hsorted
      rw [← List.take_append_drop limit (t.after after)] at hafter hsorted
      have hlater := (List.mem_append.mp hafter).resolve_left hin
      have hdropped := List.length_pos_of_mem hlater
      rw [List.length_drop] at hdropped
      refine ⟨by omega, ?_⟩
      intro e he
      exact (List.pairwise_append.mp hsorted).right.right _ (hmem e he) _ hlater

end Encodes

end Foundation
end Valqeron
