import Valqeron.Sqlite.IssuerRepository

/-!
# Eager reads under concurrent commits

An eager read sends two statements, each of which sees what is committed when it
starts.  What other connections commit in between is whatever lies between the
two snapshots, so nothing is assumed about how they are related.

The second statement of a page read evaluates the page again.  An issuer that the
first statement has returned gets the securities that are committed for it unless
so many issuers have come in before it that it has left the page.
-/

namespace Valqeron
namespace Sqlite

open Foundation
open Domain

/-- The committed database as the statements of a reader find it, one by one. -/
abbrev Snapshots := Nat -> Db

def Snapshots.ofPair (first second : Db) : Snapshots
  | 0 => first
  | _ + 1 => second

/-- A reader connection: every statement runs on a snapshot of its own. -/
def Command.onSnapshots (w : Snapshots) :
    (c : Command) -> Snapshots × Response c
  | .takeGuard _ => (w, ())
  | .dropGuard _ => (w, ())
  | .query _ q => (fun n => w (n + 1), .ok (q.eval (w 0)))
  | .execute _ =>
      (fun n => w (n + 1),
        .error (.other "attempt to write a readonly database"))

inductive EagerRead where
  | findById (id : IssuerId)
  | listAll
  | listPaged (after : Option IssuerId) (limit : Nat)
deriving DecidableEq, Repr

namespace EagerRead

def program : EagerRead ->
    SqlProgram (Except StorageFault (List StoredIssuer))
  | findById id => do
      let found ← SqliteIssuerRepository.findById id .eager
      pure (found.map Option.toList)
  | listAll => SqliteIssuerRepository.listAll .eager
  | listPaged after limit =>
      SqliteIssuerRepository.listPaged after limit .eager

def returned (first second : Db) (read : EagerRead) :
    Except StorageFault (List StoredIssuer) :=
  (read.program.run Command.onSnapshots (Snapshots.ofPair first second)).2

/--
Every issuer that was among the first `limit` ones behind the cursor, still exists
and owns a security is still among the first `limit` ones behind the cursor.
-/
def PageKept (first second : Db) : EagerRead -> Prop
  | findById _ => True
  | listAll => True
  | listPaged after limit =>
      let cursor := after.map IssuerId.uuid
      forall id, first.issuers.find? id ≠ none ->
        (forall k, cursor = some k -> k < id) ->
        first.issuers.rank cursor id <= limit ->
        second.issuers.find? id ≠ none -> second.securitiesOf id ≠ [] ->
        second.issuers.rank cursor id <= limit

end EagerRead

/--
If the issuer exists in the database, it comes with exactly the securities that
the database has for it, in the order of their ids.
-/
def CarriesCommitted (d : Db) (i : StoredIssuer) : Prop :=
  d.issuers.find? i.id ≠ none ->
    i.securities = .loaded (d.securitiesOf i.id)

/-!
## The securities of one issuer
-/

theorem mem_securitiesOf {d : Db} {issuer : Uuid} {s : SecurityEntry} :
    s ∈ d.securitiesOf issuer <->
      d.securities.find? s.1 = some s.2 ∧ s.2.issuerId = issuer := by
  unfold Db.securitiesOf
  rw [List.mem_filter, SortedTable.find?_eq_some_iff, beq_iff_eq]

theorem securitiesOf_sorted (d : Db) (issuer : Uuid) :
    KeysSorted (d.securitiesOf issuer) :=
  d.securities.sorted.filter _

theorem securityOrder_trans (a b c : SecurityEntry)
    (hab : securityOrder a b = true) (hbc : securityOrder b c = true) :
    securityOrder a c = true := by
  unfold securityOrder at hab hbc ⊢
  rw [decide_eq_true_eq] at hab hbc ⊢
  rcases hab with hab | ⟨hab, hkeyab⟩
  · left
    rcases hbc with hbc | ⟨hbc, _⟩
    · exact lt_trans hab hbc
    · exact hbc ▸ hab
  · rcases hbc with hbc | ⟨hbc, hkeybc⟩
    · exact Or.inl (hab ▸ hbc)
    · exact Or.inr ⟨hab.trans hbc, le_trans hkeyab hkeybc⟩

theorem securityOrder_total (a b : SecurityEntry) :
    (securityOrder a b || securityOrder b a) = true := by
  unfold securityOrder
  rw [Bool.or_eq_true, decide_eq_true_eq, decide_eq_true_eq]
  rcases lt_trichotomy a.2.issuerId b.2.issuerId with hlt | heq | hgt
  · exact Or.inl (Or.inl hlt)
  · rcases le_total a.1 b.1 with hle | hge
    · exact Or.inl (Or.inr ⟨heq, hle⟩)
    · exact Or.inr (Or.inr ⟨heq.symm, hge⟩)
  · exact Or.inr (Or.inl hgt)

theorem securitiesOf_ordered (d : Db) (issuer : Uuid) :
    (d.securitiesOf issuer).Pairwise (fun a b => securityOrder a b) := by
  apply List.Pairwise.imp_of_mem _ (securitiesOf_sorted d issuer)
  intro a b ha hb hlt
  unfold securityOrder
  rw [decide_eq_true_eq]
  right
  rw [(mem_securitiesOf.mp ha).right, (mem_securitiesOf.mp hb).right]
  exact ⟨rfl, le_of_lt hlt⟩

theorem groupBy_securitiesForAllIssuers (d : Db) (issuer : Uuid) :
    groupBy (fun s => s.2.issuerId) d.securitiesForAllIssuers issuer =
      d.securitiesOf issuer := by
  rw [groupBy_apply]
  exact filter_mergeSort securityOrder_trans securityOrder_total
    (securitiesOf_ordered d issuer)

theorem groupBy_securitiesForIssuerPage (d : Db) (cursor : Option Uuid)
    (limit : Nat) (issuer : Uuid) :
    groupBy (fun s => s.2.issuerId) (d.securitiesForIssuerPage cursor limit)
      issuer =
      if issuer ∈ (d.issuers.page cursor limit).map Prod.fst then
        d.securitiesOf issuer
      else
        [] := by
  rw [groupBy_apply]
  let page := (d.issuers.page cursor limit).map Prod.fst
  have hselected :
      (d.securities.rows.filter (fun s => page.contains s.2.issuerId)).filter
        (fun s => s.2.issuerId == issuer) =
      if issuer ∈ page then d.securitiesOf issuer else [] := by
    rw [List.filter_filter]
    split
    · rename_i hpage
      apply List.filter_congr
      intro s _
      by_cases hs : s.2.issuerId = issuer
      · simp [hs, hpage]
      · simp [hs]
    · rename_i hpage
      rw [List.filter_eq_nil_iff]
      intro s _ hs
      rw [Bool.and_eq_true, beq_iff_eq, List.contains_iff_mem] at hs
      exact hpage (hs.left ▸ hs.right)
  rw [← hselected]
  apply filter_mergeSort securityOrder_trans securityOrder_total
  rw [hselected]
  split
  · exact securitiesOf_ordered d issuer
  · exact List.Pairwise.nil

theorem mem_page_keys {t : SortedTable Uuid IssuerRecord}
    {cursor : Option Uuid} {limit : Nat} {id : Uuid}
    (hexists : t.find? id ≠ none)
    (hafter : forall k, cursor = some k -> k < id) :
    id ∈ (t.page cursor limit).map Prod.fst <-> t.rank cursor id <= limit := by
  rcases Option.ne_none_iff_exists'.mp hexists with ⟨r, hr⟩
  have hrow : (id, r) ∈ t.after cursor := by
    rw [SortedTable.mem_after]
    exact ⟨(t.find?_eq_some_iff id r).mp hr, hafter⟩
  constructor
  · intro hmem
    rcases List.mem_map.mp hmem with ⟨entry, hentry, hid⟩
    rw [← hid]
    exact ((t.mem_page cursor limit entry).mp hentry).right
  · intro hrank
    apply List.mem_map.mpr
    exact ⟨(id, r), (t.mem_page cursor limit (id, r)).mpr ⟨hrow, hrank⟩, rfl⟩

/-!
## What the reads return
-/

theorem keys_nodup {rows : List IssuerEntry} (h : KeysSorted rows) :
    (rows.map Prod.fst).Nodup := by
  unfold List.Nodup
  rw [List.pairwise_map]
  apply List.Pairwise.imp _ h
  intro a b hlt
  exact ne_of_lt hlt

theorem hydrateRows_eq {rows : List IssuerEntry} (h : KeysSorted rows)
    (securities : List SecurityEntry) :
    hydrateRows rows securities =
      rows.map (fun row =>
        reconstituteWith row
          (groupBy (fun s => s.2.issuerId) securities row.1)) := by
  unfold hydrateRows
  simp only
  rw [takeGroups_eq_map Prod.fst _ (keys_nodup h), List.map_map]
  rfl

namespace EagerRead

theorem returned_findById (first second : Db) (id : IssuerId) :
    (findById id).returned first second =
      .ok ((first.issuers.find? id.uuid).map (fun r =>
        reconstituteWith (id.uuid, r)
          (second.securitiesOf id.uuid))).toList := by
  let row := (first.issuers.find? id.uuid).map (fun r => (id.uuid, r))
  have hrun : (SqliteIssuerRepository.findById id .eager).run
      Command.onSnapshots (Snapshots.ofPair first second) =
      (SqliteIssuerRepository.hydrateOne id .eager (.ok row)).run
        Command.onSnapshots (fun _ => second) :=
    run_withGuard_of_free (fun _ _ => rfl) (fun _ _ => rfl) _ _ _
  unfold returned program
  rw [Program.run_bind, hrun]
  cases hrow : first.issuers.find? id.uuid with
  | none => simp only [row, hrow]; rfl
  | some r => simp only [row, hrow]; rfl

theorem returned_listAll (first second : Db) :
    listAll.returned first second =
      .ok (first.issuers.rows.map (fun row =>
        reconstituteWith row (second.securitiesOf row.1))) := by
  have hrun : listAll.returned first second =
      .ok (hydrateRows first.issuers.rows
        second.securitiesForAllIssuers) := rfl
  rw [hrun, hydrateRows_eq first.issuers.sorted]
  simp only [groupBy_securitiesForAllIssuers]

theorem returned_listPaged (first second : Db) (after : Option IssuerId)
    (limit : Nat) :
    (listPaged after limit).returned first second =
      .ok ((first.issuers.page (after.map IssuerId.uuid) limit).map
        (fun row =>
          reconstituteWith row
            (if row.1 ∈ (second.issuers.page (after.map IssuerId.uuid)
                limit).map Prod.fst then
              second.securitiesOf row.1
            else
              []))) := by
  have hrun : (listPaged after limit).returned first second =
      .ok (hydrateRows
        (first.issuers.page (after.map IssuerId.uuid) limit)
        (second.securitiesForIssuerPage (after.map IssuerId.uuid)
          limit)) := rfl
  have hsorted :
      KeysSorted (first.issuers.page (after.map IssuerId.uuid) limit) :=
    (first.issuers.after_sorted (after.map IssuerId.uuid)).take
  rw [hrun, hydrateRows_eq hsorted]
  simp only [groupBy_securitiesForIssuerPage]

end EagerRead

/-!
## Agreement with the second snapshot
-/

theorem findById_carries (first second : Db) (id : IssuerId)
    (i : StoredIssuer)
    (h : i ∈ ((first.issuers.find? id.uuid).map (fun r =>
      reconstituteWith (id.uuid, r)
        (second.securitiesOf id.uuid))).toList) :
    CarriesCommitted second i := by
  intro _
  rw [Option.mem_toList, Option.map_eq_some_iff] at h
  rcases h with ⟨r, _, hi⟩
  rw [← hi]
  rfl

theorem listAll_carries (first second : Db) (i : StoredIssuer)
    (h : i ∈ first.issuers.rows.map (fun row =>
      reconstituteWith row (second.securitiesOf row.1))) :
    CarriesCommitted second i := by
  intro _
  rcases List.mem_map.mp h with ⟨row, _, hi⟩
  rw [← hi]
  rfl

/-- What the page join gives an issuer, compared with what it owns. -/
theorem pageSecurities_eq_iff {second : Db} {cursor : Option Uuid}
    {limit : Nat} {id : Uuid} (hexists : second.issuers.find? id ≠ none)
    (hafter : forall k, cursor = some k -> k < id) :
    (if id ∈ (second.issuers.page cursor limit).map Prod.fst then
      second.securitiesOf id else []) = second.securitiesOf id <->
    (second.securitiesOf id ≠ [] ->
      second.issuers.rank cursor id <= limit) := by
  simp only [mem_page_keys hexists hafter]
  split
  · rename_i hrank
    constructor
    · intro _ _
      exact hrank
    · intro _
      rfl
  · rename_i hrank
    constructor
    · intro hnil howned
      exact absurd hnil.symm howned
    · intro hkept
      by_contra hne
      exact hrank (hkept (Ne.symm hne))

theorem listPaged_carries_iff (first second : Db) (after : Option IssuerId)
    (limit : Nat) :
    (forall i, i ∈ (first.issuers.page (after.map IssuerId.uuid) limit).map
        (fun row =>
          reconstituteWith row
            (if row.1 ∈ (second.issuers.page (after.map IssuerId.uuid)
                limit).map Prod.fst then
              second.securitiesOf row.1
            else
              [])) ->
      CarriesCommitted second i) <->
    (EagerRead.listPaged after limit).PageKept first second := by
  constructor
  · intro hall id hfirst hafter hrank hexists
    rcases List.mem_map.mp ((mem_page_keys hfirst hafter).mpr hrank) with
      ⟨row, hrow, hid⟩
    subst hid
    have hcarries := hall _ (List.mem_map_of_mem hrow) hexists
    exact (pageSecurities_eq_iff hexists hafter).mp
      (Loading.loaded.inj hcarries)
  · intro hkept i hi
    rcases List.mem_map.mp hi with ⟨row, hrow, heq⟩
    subst heq
    intro hexists
    rcases (first.issuers.mem_page _ limit row).mp hrow with ⟨hin, hrank⟩
    rcases (first.issuers.mem_after _ row).mp hin with ⟨hmem, hafter⟩
    have hfirst : first.issuers.find? row.1 ≠ none := by
      rw [(first.issuers.find?_eq_some_iff row.1 row.2).mpr hmem]
      exact Option.some_ne_none row.2
    show Loading.loaded _ = Loading.loaded _
    congr 1
    exact (pageSecurities_eq_iff hexists hafter).mpr
      (hkept row.1 hfirst hafter hrank hexists)

/--
Whatever is committed between the two statements, every issuer that is returned
and still exists carries its committed securities, for a page exactly when no
issuer with securities has been pushed off the page.
-/
theorem eagerRead_carries_iff (first second : Db) (read : EagerRead) :
    exists issuers, read.returned first second = .ok issuers ∧
      ((forall i, i ∈ issuers -> CarriesCommitted second i) <->
        read.PageKept first second) := by
  cases read with
  | findById id =>
      refine ⟨_, EagerRead.returned_findById first second id, ?_⟩
      exact iff_of_true (findById_carries first second id) trivial
  | listAll =>
      refine ⟨_, EagerRead.returned_listAll first second, ?_⟩
      exact iff_of_true (listAll_carries first second) trivial
  | listPaged after limit =>
      refine ⟨_, EagerRead.returned_listPaged first second after limit, ?_⟩
      exact listPaged_carries_iff first second after limit

/-!
## An issuer that is pushed off its page
-/

def bareColumns : IssuerRecord where
  name := none
  status := "ACTIVE"
  createdAt := "1970-01-01T00:00:00.000000Z"
  version := 1
  cnpj := none
  lei := none
  countryCode := none

def oneIssuer : Db where
  issuers := SortedTable.empty.insert 2 bareColumns
  securities := SortedTable.empty.insert 7
    { issuerId := 2
      name := none
      kind := "COMMON_SHARE"
      status := "ACTIVE"
      createdAt := "1970-01-01T00:00:00.000000Z"
      version := 1
      isin := none
      cfi := none
      underlyingSecurityId := none
      drRatioReceipts := none
      drRatioUnderlying := none }

def twoIssuers : Db :=
  ((Statement.insertIssuer 1 bareColumns.name bareColumns.status
    bareColumns.createdAt bareColumns.cnpj bareColumns.lei
    bareColumns.countryCode).apply oneIssuer).1

/-- A page of one issuer comes back loaded and empty. -/
theorem pushedOffPage_loaded_empty :
    exists i, (EagerRead.listPaged none 1).returned oneIssuer twoIssuers =
        .ok [i] ∧
      i.securities = .loaded [] ∧
      oneIssuer.securitiesOf i.id ≠ [] ∧
      twoIssuers.securitiesOf i.id ≠ [] ∧
      ¬ CarriesCommitted twoIssuers i := by
  let i : StoredIssuer := reconstituteWith (2, bareColumns) []
  have hexists : twoIssuers.issuers.find? i.id ≠ none := by decide +kernel
  have howned : twoIssuers.securitiesOf i.id ≠ [] := by decide +kernel
  refine ⟨i, ?_, rfl, by decide +kernel, howned, ?_⟩
  · rw [EagerRead.returned_listPaged]
    decide +kernel
  · intro hcarries
    apply howned
    exact (Loading.loaded.inj (hcarries hexists)).symm

end Sqlite
end Valqeron
