import Mathlib.Algebra.Order.Ring.Int
import Mathlib.Data.Option.Defs
import Valqeron.Foundation.Decoding
import Valqeron.Foundation.SortedTable

/-!
# Keyset pagination

A client walks a sorted table page by page.  Every page asks for the rows behind
the last key of the page before it, in the table as it is by then; the walk ends
with an empty page.  The keys of the walk are increasing, and no key that is there
all the time is left out, whatever happens to the other rows in between.
-/

namespace Valqeron
namespace Foundation

variable {key row store cursor response name : Type} [LinearOrder key]

def SortedTable.pageKeys (t : SortedTable key row) (k : Option key)
    (limit : Nat) : List key :=
  (t.page k limit).map Prod.fst

namespace SortedTable

theorem pageKeys_increasing (t : SortedTable key row) (k : Option key)
    (limit : Nat) : (t.pageKeys k limit).Pairwise (fun a b => a < b) := by
  unfold pageKeys page
  rw [List.pairwise_map]
  exact (t.after_sorted k).sublist (List.take_sublist limit _)

theorem lt_of_mem_pageKeys {t : SortedTable key row} {k : Option key}
    {limit : Nat} {a c : key} (h : a ∈ t.pageKeys k limit)
    (hk : k = some c) : c < a := by
  rcases List.mem_map.mp h with ⟨entry, hmem, ha⟩
  rw [← ha]
  have hafter := (t.mem_after k entry).mp (List.mem_of_mem_take hmem)
  exact hafter.right c hk

theorem le_last_of_mem_pageKeys {t : SortedTable key row} {k : Option key}
    {limit : Nat} {a last : key}
    (hlast : (t.pageKeys k limit).getLast? = some last)
    (h : a ∈ t.pageKeys k limit) : a <= last := by
  have hincreasing := t.pageKeys_increasing k limit
  rcases List.getLast?_eq_some_iff.mp hlast with ⟨before, hkeys⟩
  rw [hkeys] at h hincreasing
  rcases List.mem_append.mp h with hbefore | hself
  · exact le_of_lt ((List.pairwise_append.mp hincreasing).right.right a
      hbefore last List.mem_cons_self)
  · exact le_of_eq (List.mem_singleton.mp hself)

theorem mem_pageKeys_or_behind {t : SortedTable key row} {k : Option key}
    {limit : Nat} {a last : key} {r : row} (hrow : (a, r) ∈ t.rows)
    (hbehind : forall c, k = some c -> c < a)
    (hlast : (t.pageKeys k limit).getLast? = some last) :
    a ∈ t.pageKeys k limit ∨ last < a := by
  have hafter : (a, r) ∈ t.after k := (t.mem_after k (a, r)).mpr
    ⟨hrow, hbehind⟩
  have hsorted := t.after_sorted k
  unfold KeysSorted at hsorted
  rw [← List.take_append_drop limit (t.after k)] at hafter hsorted
  rcases List.mem_append.mp hafter with hpage | hrest
  · exact Or.inl (List.mem_map.mpr ⟨_, hpage, rfl⟩)
  · right
    rcases List.mem_map.mp (List.mem_of_getLast? hlast) with
      ⟨entry, hmem, heq⟩
    rw [← heq]
    exact (List.pairwise_append.mp hsorted).right.right entry hmem _ hrest

theorem pageKeys_ne_nil {t : SortedTable key row} {k : Option key}
    {limit : Nat} {a : key} {r : row} (hlimit : 0 < limit)
    (hrow : (a, r) ∈ t.rows) (hbehind : forall c, k = some c -> c < a) :
    t.pageKeys k limit ≠ [] := by
  have hafter : (a, r) ∈ t.after k := (t.mem_after k (a, r)).mpr
    ⟨hrow, hbehind⟩
  unfold pageKeys page
  intro hnil
  rw [List.map_eq_nil_iff, List.take_eq_nil_iff] at hnil
  rcases hnil with hzero | hempty
  · omega
  · rw [hempty] at hafter
    cases hafter

theorem after_eq_page_append {t : SortedTable key row} {k : Option key}
    {limit : Nat} {last : key}
    (hlast : (t.pageKeys k limit).getLast? = some last) :
    t.after k = t.page k limit ++ t.after (some last) := by
  have hbehind : t.after (some last) =
      (t.after k).filter (fun entry => decide (last < entry.1)) := by
    cases k with
    | none => rfl
    | some c =>
        have hc := lt_of_mem_pageKeys (List.mem_of_getLast? hlast) rfl
        unfold after
        simp only [List.filter_filter]
        apply List.filter_congr
        intro entry _
        by_cases hlt : last < entry.1
        · simp [hlt, lt_trans hc hlt]
        · simp [hlt]
  have hsorted := t.after_sorted k
  unfold KeysSorted at hsorted
  rw [← List.take_append_drop limit (t.after k), List.pairwise_append]
    at hsorted
  have hpage : (t.page k limit).filter
      (fun entry => decide (last < entry.1)) = [] := by
    rw [List.filter_eq_nil_iff]
    intro entry hentry hlt
    exact absurd (of_decide_eq_true hlt) (not_lt_of_ge
      (le_last_of_mem_pageKeys hlast (List.mem_map_of_mem hentry)))
  have hrest : ((t.after k).drop limit).filter
      (fun entry => decide (last < entry.1)) = (t.after k).drop limit := by
    rw [List.filter_eq_self]
    intro entry hentry
    rcases List.mem_map.mp (List.mem_of_getLast? hlast) with
      ⟨lastRow, hmem, heq⟩
    rw [← heq]
    exact decide_eq_true (hsorted.right.right lastRow hmem entry hentry)
  have hsplit : t.page k limit ++ (t.after k).drop limit = t.after k :=
    List.take_append_drop limit _
  have hfilter : (t.after k).filter (fun entry => decide (last < entry.1)) =
      (t.after k).drop limit := by
    conv_lhs => rw [← hsplit]
    rw [List.filter_append, hpage, hrest, List.nil_append]
  rw [hbehind, hfilter, hsplit]

theorem page_eq_nil_iff {t : SortedTable key row} {k : Option key}
    {limit : Nat} (hlimit : 0 < limit) :
    (t.pageKeys k limit).getLast? = none <-> t.after k = [] := by
  unfold pageKeys page
  rw [List.getLast?_eq_none_iff, List.map_eq_nil_iff, List.take_eq_nil_iff]
  constructor
  · intro h
    rcases h with hzero | hempty
    · omega
    · exact hempty
  · exact Or.inr

end SortedTable

/-!
## What a walk shows
-/

/--
Increasing keys behind a cursor, among them every key behind the cursor that is in
all of the tables.
-/
structure WalkKeys (tables : List (SortedTable key row)) (k : Option key)
    (keys : List key) : Prop where
  increasing : keys.Pairwise (fun a b => a < b)
  behind : forall a, a ∈ keys -> forall c, k = some c -> c < a
  complete : forall a, (forall c, k = some c -> c < a) ->
    (forall t, t ∈ tables -> exists r, t.find? a = some r) -> a ∈ keys

namespace WalkKeys

theorem of_emptyPage {t : SortedTable key row} {k : Option key} {limit : Nat}
    (hlimit : 0 < limit) (hempty : t.pageKeys k limit = []) :
    WalkKeys [t] k [] where
  increasing := List.Pairwise.nil
  behind := fun a ha => by cases ha
  complete := by
    intro a hbehind hpresent
    rcases hpresent t List.mem_cons_self with ⟨r, hrow⟩
    rw [SortedTable.find?_eq_some_iff] at hrow
    exact absurd hempty (SortedTable.pageKeys_ne_nil hlimit hrow hbehind)

theorem page_append {t : SortedTable key row}
    {tables : List (SortedTable key row)} {k : Option key} {limit : Nat}
    {last : key} {keys : List key}
    (hlast : (t.pageKeys k limit).getLast? = some last)
    (h : WalkKeys tables (some last) keys) :
    WalkKeys (t :: tables) k (t.pageKeys k limit ++ keys) where
  increasing := by
    rw [List.pairwise_append]
    refine ⟨t.pageKeys_increasing k limit, h.increasing, ?_⟩
    intro a ha b hb
    exact lt_of_le_of_lt (SortedTable.le_last_of_mem_pageKeys hlast ha)
      (h.behind b hb last rfl)
  behind := by
    intro a ha c hc
    rcases List.mem_append.mp ha with hpage | hlater
    · exact SortedTable.lt_of_mem_pageKeys hpage hc
    · have hmem := List.mem_of_getLast? hlast
      exact lt_trans (SortedTable.lt_of_mem_pageKeys hmem hc)
        (h.behind a hlater last rfl)
  complete := by
    intro a hbehind hpresent
    rcases hpresent t List.mem_cons_self with ⟨r, hrow⟩
    rw [SortedTable.find?_eq_some_iff] at hrow
    rcases SortedTable.mem_pageKeys_or_behind hrow hbehind hlast with
      hpage | hafter
    · exact List.mem_append_left _ hpage
    · apply List.mem_append_right
      apply h.complete a
      · intro c hc
        cases hc
        exact hafter
      · intro t' ht'
        exact hpresent t' (List.mem_cons_of_mem _ ht')

end WalkKeys

/-!
## Walks
-/

/--
The requests of a walk, each with the store that it finds and the page size that
it asks for, and the responses; `next` is the cursor for the page behind one, and
there is none behind an empty page.
-/
inductive PagedWalk (serve : store -> Option cursor -> Nat -> Option response)
    (next : response -> Option cursor) :
    Option cursor -> List (store × Nat) -> List response -> Prop where
  | last {c : Option cursor} {d : store} {limit : Nat} {r : response}
      (hserve : serve d c limit = some r) (hnext : next r = none) :
      PagedWalk serve next c [(d, limit)] [r]
  | more {c : Option cursor} {c' : cursor} {d : store} {limit : Nat}
      {r : response} {calls : List (store × Nat)} {rest : List response}
      (hserve : serve d c limit = some r) (hnext : next r = some c')
      (hrest : PagedWalk serve next (some c') calls rest) :
      PagedWalk serve next c ((d, limit) :: calls) (r :: rest)

/--
What a walk shows are the keys behind the cursor that it starts from, in the tables
that its requests find.
-/
theorem PagedWalk.walkKeys
    {serve : store -> Option cursor -> Nat -> Option response}
    {next : response -> Option cursor} (table : store -> SortedTable key row)
    (names : cursor -> key -> Prop) (clamp : Nat -> Nat)
    (ids : response -> List name) (id_ : key -> name)
    (hclamp : forall limit, 0 < clamp limit)
    (hserve : forall {d c k limit r}, Option.Rel names c k ->
      serve d c limit = some r ->
        ids r = ((table d).pageKeys k (clamp limit)).map id_ ∧
          Option.Rel names (next r)
            ((table d).pageKeys k (clamp limit)).getLast?)
    {c : Option cursor} {k : Option key} {calls : List (store × Nat)}
    {rs : List response} (hstart : Option.Rel names c k)
    (hwalk : PagedWalk serve next c calls rs) :
    exists keys : List key, rs.flatMap ids = keys.map id_ ∧
      WalkKeys (calls.map (fun call => table call.1)) k keys := by
  induction hwalk generalizing k with
  | @last c d limit r hpage hnext =>
      rcases hserve hstart hpage with ⟨hids, hlast⟩
      rw [hnext] at hlast
      generalize hl : ((table d).pageKeys k (clamp limit)).getLast? = named
        at hlast
      cases hlast with
      | none =>
          have hempty := List.getLast?_eq_none_iff.mp hl
          refine ⟨[], ?_, WalkKeys.of_emptyPage (hclamp limit) hempty⟩
          rw [List.flatMap_singleton, hids, hempty]
  | @more c c' d limit r calls rest hpage hnext hrest ih =>
      rcases hserve hstart hpage with ⟨hids, hlast⟩
      rw [hnext] at hlast
      generalize hl : ((table d).pageKeys k (clamp limit)).getLast? = named
        at hlast
      cases hlast with
      | some hnames =>
          rcases ih (.some hnames) with ⟨keys, hall, hkeys⟩
          refine ⟨(table d).pageKeys k (clamp limit) ++ keys, ?_,
            hkeys.page_append hl⟩
          rw [List.flatMap_cons, List.map_append, hids, hall]

/--
Where nobody writes, the pages of decoded rows put together are the decoding of all
rows behind the cursor, and there are such pages whenever all of them decode.
-/
theorem pagedWalk_iff {error value : Type} {t : SortedTable key row}
    {decode : key × row -> Except error value}
    {d : store} {limit : Nat} (hlimit : 0 < limit) (keyOf : cursor -> key)
    (serve : store -> Option cursor -> Nat -> Option (List value))
    (next : List value -> Option cursor)
    (hserve : forall {c values}, serve d c limit = some values <->
      (t.page (c.map keyOf) limit).mapM decode = .ok values)
    (hnext : forall {c values}, serve d c limit = some values ->
      (next values).map keyOf = (t.pageKeys (c.map keyOf) limit).getLast?)
    {c : Option cursor} {all : List value} :
    (exists calls pages, (forall call, call ∈ calls -> call = (d, limit)) ∧
        PagedWalk serve next c calls pages ∧ pages.flatten = all) <->
      (t.after (c.map keyOf)).mapM decode = .ok all := by
  constructor
  · intro h
    rcases h with ⟨calls, pages, hcalls, hwalk, rfl⟩
    induction hwalk with
    | @last c d' limit' r hpage hend =>
        cases hcalls _ List.mem_cons_self
        have hkeys := hnext hpage
        rw [hend] at hkeys
        have hempty := (SortedTable.page_eq_nil_iff hlimit).mp hkeys.symm
        have hvalues := hserve.mp hpage
        unfold SortedTable.page at hvalues
        rw [hempty, List.take_nil] at hvalues
        rw [hempty]
        cases hvalues
        rfl
    | @more c c' d' limit' r calls rest hpage hend _ ih =>
        cases hcalls _ List.mem_cons_self
        have hkeys := hnext hpage
        rw [hend] at hkeys
        rw [SortedTable.after_eq_page_append hkeys.symm, List.flatten_cons]
        exact mapM_append_eq_ok.mpr ⟨r, rest.flatten, hserve.mp hpage,
          ih (fun call hcall => hcalls call (List.mem_cons_of_mem _ hcall)),
          rfl⟩
  · generalize hn : (t.after (c.map keyOf)).length = n
    induction n using Nat.strongRecOn generalizing c all with
    | ind n ih =>
        intro hall
        cases hlast : (t.pageKeys (c.map keyOf) limit).getLast? with
        | none =>
            have hempty := (SortedTable.page_eq_nil_iff hlimit).mp hlast
            rw [hempty] at hall
            cases hall
            have hpage : serve d c limit = some [] := by
              rw [hserve]
              unfold SortedTable.page
              rw [hempty, List.take_nil]
              rfl
            have hend : next [] = none := by
              rw [← Option.map_eq_none_iff, hnext hpage, hlast]
            refine ⟨[(d, limit)], [[]], ?_, .last hpage hend, rfl⟩
            intro call hcall
            exact List.mem_singleton.mp hcall
        | some last =>
            rw [SortedTable.after_eq_page_append hlast] at hall
            rcases mapM_append_eq_ok.mp hall with
              ⟨first, second, hfirst, hsecond, rfl⟩
            have hpage := hserve.mpr hfirst
            have hkey := hnext hpage
            rw [hlast] at hkey
            rcases Option.map_eq_some_iff.mp hkey with ⟨c', hc', rfl⟩
            have hshorter : (t.after ((some c').map keyOf)).length < n := by
              have hnonempty : 0 < (t.page (c.map keyOf) limit).length := by
                have hmem := List.length_pos_of_mem (List.mem_of_getLast? hlast)
                unfold SortedTable.pageKeys at hmem
                rwa [List.length_map] at hmem
              rw [← hn, SortedTable.after_eq_page_append hlast,
                List.length_append]
              exact Nat.lt_add_of_pos_left hnonempty
            rcases ih _ hshorter rfl hsecond with
              ⟨calls, pages, hcalls, hwalk, rfl⟩
            refine ⟨(d, limit) :: calls, first :: pages, ?_,
              .more hpage hc' hwalk, rfl⟩
            intro call hcall
            rcases List.mem_cons.mp hcall with heq | hrest
            · exact heq
            · exact hcalls call hrest

end Foundation
end Valqeron
