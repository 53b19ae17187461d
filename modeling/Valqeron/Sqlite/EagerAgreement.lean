import Valqeron.Foundation.Keyset
import Valqeron.Sqlite.HydratedReads
import Valqeron.Sqlite.SecurityRules

/-!
# Eager reads without other writers

While nobody writes, all issuers read at once, the pages put together and the
issuers read one by one are the same issuers, each with its own securities, and
they are the issuers of the lazy reads.
-/

namespace Valqeron
namespace Sqlite

open Foundation
open Domain
open HydratedReads

def nextCursor (page : List (Versioned HydratedIssuer)) : Option IssuerId :=
  page.getLast?.map (fun v => v.data.issuer.id)

/-- Pages of one size from the first to the empty one behind the last issuer. -/
def EagerPages (d : Db) (limit : Nat)
    (pages : List (List (Versioned HydratedIssuer))) : Prop :=
  exists calls, (forall call, call ∈ calls -> call = (d, limit)) ∧
    PagedWalk
      (fun d after limit => (returned d (listPaged after limit .eager)).toOption)
      nextCursor none calls pages

def withoutSecurities (v : Versioned HydratedIssuer) :
    Versioned HydratedIssuer :=
  { v with data := { v.data with securities := .notLoaded } }

/-- Every security of the issuer, and no other one, in the order of the ids. -/
structure OwnSecurities (d : Db) (id : IssuerId) (securities : List Security) :
    Prop where
  increasing : (securities.map (fun s => s.id.uuid)).Pairwise
    (fun a b => a < b)
  own : forall s, s ∈ securities -> exists r version,
    d.securities.find? s.id.uuid = some r ∧ r.issuerId = id.uuid ∧
      SecurityRow.fromRow (s.id.uuid, r) = .ok { data := s, version := version }
  complete : forall key r, d.securities.find? key = some r ->
    r.issuerId = id.uuid -> exists s, s ∈ securities ∧ s.id.uuid = key

structure EagerReadsAgree (d : Db) (limit : Nat) : Prop where
  pages : forall issuers, returned d (listAll .eager) = .ok issuers <->
    exists pages, EagerPages d limit pages ∧ pages.flatten = issuers
  single : forall issuers, returned d (listAll .eager) = .ok issuers <->
    (d.issuers.rows.map Prod.fst).mapM
        (fun id => returned d (findById { uuid := id } .eager)) =
      .ok (issuers.map some)
  lazily : forall issuers, returned d (listAll .eager) = .ok issuers ->
    returned d (listAll .lazy) = .ok (issuers.map withoutSecurities) ∧
      forall v, v ∈ issuers ->
        returned d (findById v.data.issuer.id .lazy) =
          .ok (some (withoutSecurities v))
  owned : forall issuers, returned d (listAll .eager) = .ok issuers ->
    forall v, v ∈ issuers -> exists securities,
      v.data.securities = .loaded securities ∧
        OwnSecurities d v.data.issuer.id securities

/-!
## One stored issuer
-/

theorem hydrate_lazy_of_eager {d : Db} {row : IssuerEntry}
    {v : Versioned HydratedIssuer}
    (h : (d.stored .eager row).hydrate = .ok v) :
    v.data.issuer.id.uuid = row.1 ∧
      (d.stored .lazy row).hydrate = .ok (withoutSecurities v) := by
  rcases hydrate_loaded_eq_ok.mp h with ⟨snapshot, decoded, hrow, _, rfl⟩
  have hkeeps := keeps_of_fromRow hrow
  refine ⟨hkeeps.left, ?_⟩
  rw [hydrate_stored, hrow]
  show Except.ok _ = Except.ok _
  unfold withoutSecurities reconstituteRowWith reconstituteRow
    HydratedIssuer.reconstitute
  rw [hkeeps.right]

theorem ownSecurities_of_hydrate {d : Db} {row : IssuerEntry}
    {v : Versioned HydratedIssuer}
    (h : (d.stored .eager row).hydrate = .ok v) :
    exists securities, v.data.securities = .loaded securities ∧
      OwnSecurities d v.data.issuer.id securities := by
  rcases hydrate_loaded_eq_ok.mp h with ⟨snapshot, decoded, hrow, hown, rfl⟩
  have hid : snapshot.data.issuer.id.uuid = row.1 := (keeps_of_fromRow hrow).left
  refine ⟨decoded.map Versioned.data, rfl, ?_, ?_, ?_⟩
  · have hkeys : decoded.map (fun s => s.data.id.uuid) =
        (d.securitiesOf row.1).map Prod.fst :=
      map_of_mapM (fun h => (keeps_of_securityRow h).left) hown
    rw [List.map_map]
    change (decoded.map (fun s => s.data.id.uuid)).Pairwise _
    rw [hkeys, List.pairwise_map]
    exact securitiesOf_sorted d row.1
  · intro s hs
    rcases List.mem_map.mp hs with ⟨w, hw, rfl⟩
    rcases mem_of_mapM hown hw with ⟨entry, hentry, hdecode⟩
    rcases mem_securitiesOf.mp hentry with ⟨hfind, hissuer⟩
    have hkey := (keeps_of_securityRow hdecode).left
    refine ⟨entry.2, w.version, ?_, ?_, ?_⟩
    · rw [hkey, hfind]
    · exact hissuer.trans hid.symm
    · rw [hkey]
      exact hdecode
  · intro key r hfind hissuer
    have hentry : (key, r) ∈ d.securitiesOf row.1 :=
      mem_securitiesOf.mpr ⟨hfind, hissuer.trans hid⟩
    rcases value_of_mem_mapM hown hentry with ⟨w, hw, hdecode⟩
    exact ⟨w.data, List.mem_map_of_mem hw, (keeps_of_securityRow hdecode).left⟩

/-!
## All reads
-/

theorem returned_findById_of_mem {d : Db} {row : IssuerEntry}
    (h : row ∈ d.issuers.rows) (mode : LoadMode) :
    returned d (findById { uuid := row.1 } mode) =
      ((d.stored mode row).hydrate.map some).mapError backend := by
  rw [returned_findById, (d.issuers.find?_eq_some_iff row.1 row.2).mpr h]

theorem eagerPages_iff {d : Db} {limit : Nat} (hlimit : 0 < limit)
    {issuers : List (Versioned HydratedIssuer)} :
    (exists pages, EagerPages d limit pages ∧ pages.flatten = issuers) <->
      d.issuers.rows.mapM (fun row => (d.stored .eager row).hydrate) =
        .ok issuers := by
  let serve : Db -> Option IssuerId -> Nat ->
      Option (List (Versioned HydratedIssuer)) :=
    fun d after limit => (returned d (listPaged after limit .eager)).toOption
  have hserve : forall {c values}, serve d c limit = some values <->
      (d.issuers.page (c.map IssuerId.uuid) limit).mapM
        (fun row => (d.stored .eager row).hydrate) = .ok values := by
    intro c values
    rw [← returned_listPaged]
    unfold serve
    cases returned d (listPaged c limit .eager) with
    | error e => simp [Except.toOption]
    | ok page => simp [Except.toOption]
  have hnext : forall {c values}, serve d c limit = some values ->
      (nextCursor values).map IssuerId.uuid =
        (d.issuers.pageKeys (c.map IssuerId.uuid) limit).getLast? := by
    intro c values h
    have hkeys : values.map (fun v => v.data.issuer.id.uuid) =
        d.issuers.pageKeys (c.map IssuerId.uuid) limit :=
      map_of_mapM (fun h => (hydrate_lazy_of_eager h).left) (hserve.mp h)
    unfold nextCursor
    rw [← hkeys, List.getLast?_map, Option.map_map]
    rfl
  have hwalk : _ <-> (d.issuers.after none).mapM
      (fun row => (d.stored .eager row).hydrate) = .ok issuers :=
    pagedWalk_iff hlimit IssuerId.uuid serve nextCursor hserve hnext (c := none)
  constructor
  · intro hgiven
    rcases hgiven with ⟨pages, ⟨calls, hcalls, hpages⟩, hflatten⟩
    exact hwalk.mp ⟨calls, pages, hcalls, hpages, hflatten⟩
  · intro h
    rcases hwalk.mpr h with ⟨calls, pages, hcalls, hpages, hflatten⟩
    exact ⟨pages, ⟨calls, hcalls, hpages⟩, hflatten⟩

theorem findEach_iff {d : Db} {issuers : List (Versioned HydratedIssuer)} :
    (d.issuers.rows.map Prod.fst).mapM
        (fun id => returned d (findById { uuid := id } .eager)) =
      .ok (issuers.map some) <->
      d.issuers.rows.mapM (fun row => (d.stored .eager row).hydrate) =
        .ok issuers := by
  have heach : (d.issuers.rows.map Prod.fst).mapM
      (fun id => returned d (findById { uuid := id } .eager)) =
        d.issuers.rows.mapM (fun row =>
          ((d.stored .eager row).hydrate.map some).mapError backend) := by
    rw [List.mapM_map]
    apply mapM_congr
    intro row hrow
    exact returned_findById_of_mem hrow .eager
  rw [heach, mapM_eq_ok_iff, mapM_eq_ok_iff, List.forall₂_map_right_iff]
  constructor
  · intro h
    apply h.imp
    intro row v hv
    cases hrow : (d.stored .eager row).hydrate with
    | error e =>
        rw [hrow] at hv
        cases hv
    | ok u =>
        rw [hrow] at hv
        cases hv
        rfl
  · intro h
    apply h.imp
    intro row v hv
    rw [hv]
    rfl

/--
Without other writers all eager reads return the same issuers, however they are
paged: each has its own securities and is otherwise what the lazy read returns.
-/
theorem eagerReads_agree {d : Db} (hissuers : d.IssuersExist) {limit : Nat}
    (hlimit : 0 < limit) : EagerReadsAgree d limit where
  pages := by
    intro issuers
    rw [returned_listAll hissuers]
    exact (eagerPages_iff hlimit).symm
  single := by
    intro issuers
    rw [returned_listAll hissuers]
    exact findEach_iff.symm
  lazily := by
    intro issuers h
    rw [returned_listAll hissuers] at h
    constructor
    · rw [returned_listAll hissuers, mapM_eq_ok_iff,
        List.forall₂_map_right_iff]
      exact (mapM_eq_ok_iff.mp h).imp
        (fun _ _ hv => (hydrate_lazy_of_eager hv).right)
    · intro v hv
      rcases mem_of_mapM h hv with ⟨row, hrow, hhydrate⟩
      rcases hydrate_lazy_of_eager hhydrate with ⟨hid, hlazy⟩
      have hfind := returned_findById_of_mem hrow .lazy
      rw [hlazy, ← hid] at hfind
      exact hfind
  owned := by
    intro issuers h v hv
    rw [returned_listAll hissuers] at h
    rcases mem_of_mapM h hv with ⟨row, _, hhydrate⟩
    exact ownSecurities_of_hydrate hhydrate

/-- Three issuers: the first has one share, the second none, the third two. -/
def shareCalls : List RepositoryCall :=
  let issuer (uuid : Uuid) : RepositoryCall :=
    .insertIssuer { plainRecordIssuer with id := { uuid := uuid } }
  let share (uuid owner : Uuid) : RepositoryCall :=
    .insertSecurity
      { farFutureShare with
        id := { uuid := uuid }
        issuerId := { uuid := owner }
        createdAt := plainRecordIssuer.createdAt }
  [issuer 3, issuer 1, issuer 2, share 12 3, share 11 1, share 10 3]

theorem eagerReads_agree_share :
    (runCalls Db.empty shareCalls).securities.rows.map
        (fun s => (s.1, s.2.issuerId)) = [(10, 3), (11, 1), (12, 3)] ∧
      EagerReadsAgree (runCalls Db.empty shareCalls) 2 :=
  ⟨by decide +kernel,
    eagerReads_agree (runCalls_linked shareCalls Db.empty_linked).issuers
      Nat.two_pos⟩

end Sqlite
end Valqeron
