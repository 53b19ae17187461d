import Valqeron.Sqlite.HydratedReads
import Valqeron.Sqlite.SecurityRules

/-!
# Rows read back after their insertion

What an accepted insertion of an issuer or a security does to the later reads of
the row and of the whole table.
-/

namespace Valqeron
namespace Sqlite

open Foundation
open Domain
open HydratedReads (returned)

inductive NewRow where
  | issuer (value : Issuer)
  | security (value : Security)

def Succeeds {error value : Type} (r : Except error value) : Prop :=
  exists v, r = .ok v

def returnedSecurities {value : Type} (d : Db)
    (read : SecurityProgram (Except StorageFault value)) :
    Except StorageFault value :=
  (read.run SecurityCommand.onDb d).2

/-- The lists of whole tables that could be read before can still be read. -/
structure ListsKept (d d' : Db) : Prop where
  issuers : forall mode, Succeeds (returned d (HydratedReads.listAll mode)) ->
    Succeeds (returned d' (HydratedReads.listAll mode))
  securities :
    Succeeds (returnedSecurities d SqliteSecurityRepository.listAll) ->
      Succeeds (returnedSecurities d' SqliteSecurityRepository.listAll)

/-- A new issuer has no securities, which only an eager read looks for. -/
def noSecurities : LoadMode -> Loading (List Security)
  | .lazy => .notLoaded
  | .eager => .loaded []

namespace NewRow

def createdAt : NewRow -> DateTime
  | .issuer value => value.createdAt
  | .security value => value.createdAt

def Accepted : NewRow -> Prop
  | .issuer value => value.Accepted
  | .security value => value.Accepted

def insertion : NewRow -> RepositoryCall
  | .issuer value => .insertIssuer value
  | .security value => .insertSecurity value

def InsertedInto (d : Db) (row : NewRow) : Prop :=
  (row.insertion.perform d).2 = false

instance (d : Db) (row : NewRow) : Decidable (row.InsertedInto d) :=
  inferInstanceAs (Decidable (_ = false))

/-- The value is found, with its time up to the milliseconds. -/
def Found (d : Db) : NewRow -> Prop
  | .issuer value => forall mode,
      returned d (HydratedReads.findById value.id mode) =
        .ok (some
          { data :=
              { issuer :=
                  { value with
                    createdAt := truncateToMillis value.createdAt }
                securities := noSecurities mode }
            version := 1 })
  | .security value =>
      returnedSecurities d (SqliteSecurityRepository.findById value.id) =
        .ok (some
          { data :=
              { value with createdAt := truncateToMillis value.createdAt }
            version := 1 })

structure RoundTrips (d : Db) (row : NewRow) : Prop where
  found : row.Found (row.insertion.run d)
  listed : ListsKept d (row.insertion.run d)

end NewRow

/-!
## Tables that can be read
-/

theorem hydrate_succeeds_iff {d : Db} {mode : LoadMode} {row : IssuerEntry} :
    Succeeds (d.stored mode row).hydrate <->
      Succeeds (IssuerRow.fromRow row) ∧
        (mode = .eager -> forall s, s ∈ d.securitiesOf row.1 ->
          Succeeds (SecurityRow.fromRow s)) := by
  cases mode with
  | lazy =>
      unfold Db.stored Succeeds
      simp only [hydrate_lazy]
      cases IssuerRow.fromRow row with
      | error e => simp [Except.map]
      | ok snapshot => simp [Except.map]
  | eager =>
      constructor
      · intro h
        rcases h with ⟨v, hv⟩
        rcases hydrate_loaded_eq_ok.mp hv with ⟨snapshot, own, hrow, hown, _⟩
        exact ⟨⟨snapshot, hrow⟩, fun _ => exists_mapM_iff.mp ⟨own, hown⟩⟩
      · intro h
        rcases h with ⟨⟨snapshot, hrow⟩, hown⟩
        rcases exists_mapM_iff.mpr (hown rfl) with ⟨own, hown⟩
        exact ⟨_, hydrate_loaded_eq_ok.mpr ⟨snapshot, own, hrow, hown, rfl⟩⟩

theorem listAll_succeeds_iff {d : Db} (h : d.IssuersExist) {mode : LoadMode} :
    Succeeds (returned d (HydratedReads.listAll mode)) <->
      forall row, row ∈ d.issuers.rows ->
        Succeeds (d.stored mode row).hydrate := by
  unfold Succeeds
  rw [← exists_mapM_iff]
  exact exists_congr (fun _ => HydratedReads.returned_listAll h)

theorem securities_succeed_iff {d : Db} :
    Succeeds (returnedSecurities d SqliteSecurityRepository.listAll) <->
      forall s, s ∈ d.securities.rows -> Succeeds (SecurityRow.fromRow s) := by
  unfold Succeeds returnedSecurities SqliteSecurityRepository.listAll
  rw [SqliteSecurityRepository.run_readWith, ← exists_mapM_iff]
  exact exists_congr (fun _ => mapError_eq_ok)

theorem returned_findSecurity (d : Db) (id : SecurityId) :
    returnedSecurities d (SqliteSecurityRepository.findById id) =
      (SqliteSecurityRepository.fromRowOpt
        ((d.securities.find? id.uuid).map (fun r => (id.uuid, r)))).mapError
          backend :=
  congrArg Prod.snd (SqliteSecurityRepository.run_readWith
    (.securityById id.uuid) SqliteSecurityRepository.fromRowOpt d)

/-!
## Insertions
-/

theorem exec_insertSecurityStatement_ok {security : Security} {d d' : Db}
    {n : Nat} (h : (insertSecurityStatement security).exec d = .ok (d', n)) :
    d.securities.find? security.id.uuid = none ∧
      d' = d.storeSecurity security.id.uuid (recordOf security 1) := by
  have heffect := (insertSecurityStatement security).exec_effect d
  rw [h] at heffect
  cases heffect with
  | missed v hversion _ => cases hversion
  | inserted r hrow hfree _ _ =>
      cases hrow
      exact ⟨hfree, rfl⟩
  | updated v set r hversion _ _ _ => cases hversion
  | erased v r hversion _ _ => cases hversion

theorem run_insertIssuer_of_inserted {d : Db} {issuer : Issuer}
    (h : (NewRow.issuer issuer).InsertedInto d) :
    d.issuers.find? issuer.id.uuid = none ∧
      (RepositoryCall.insertIssuer issuer).run d =
        d.storeIssuer issuer.id.uuid (issuerRecordOf issuer 1) := by
  change (reported ((SqliteIssuerRepository.insert issuer).run Command.onDb
    d)).2 = false at h
  change _ ∧ (reported ((SqliteIssuerRepository.insert issuer).run
    Command.onDb d)).1 = _
  rw [run_insert] at h ⊢
  cases hexec : (insertStatement issuer).exec d with
  | error e =>
      rw [Statement.apply_error hexec] at h
      cases h
  | ok result =>
      rcases result with ⟨d', n⟩
      rw [Statement.apply_ok hexec]
      exact exec_insertStatement_ok hexec

theorem run_insertSecurity_of_inserted {d : Db} {security : Security}
    (h : (NewRow.security security).InsertedInto d) :
    d.securities.find? security.id.uuid = none ∧
      (RepositoryCall.insertSecurity security).run d =
        d.storeSecurity security.id.uuid (recordOf security 1) := by
  change (reported ((SqliteSecurityRepository.insert security).run
    SecurityCommand.onDb d)).2 = false at h
  change _ ∧ (reported ((SqliteSecurityRepository.insert security).run
    SecurityCommand.onDb d)).1 = _
  rw [SqliteSecurityRepository.run_insert] at h ⊢
  cases hexec : (insertSecurityStatement security).exec d with
  | error e =>
      rw [SecurityStatement.apply_error hexec] at h
      cases h
  | ok result =>
      rcases result with ⟨d', n⟩
      rw [SecurityStatement.apply_ok hexec]
      exact exec_insertSecurityStatement_ok hexec

/-!
## A new issuer
-/

section NewIssuer

variable {d : Db} {issuer : Issuer}

theorem securitiesOf_new (hlinked : d.Linked)
    (hfree : d.issuers.find? issuer.id.uuid = none) (r : IssuerRecord) :
    (d.storeIssuer issuer.id.uuid r).securitiesOf issuer.id.uuid = [] := by
  unfold Db.storeIssuer Db.securitiesOf
  rw [List.filter_eq_nil_iff]
  intro s hs howner
  have hexists := hlinked.issuers s.1 s.2
    ((d.securities.find?_eq_some_iff s.1 s.2).mpr hs)
  rw [beq_iff_eq.mp howner, hfree] at hexists
  cases hexists

theorem hydrate_new (hlinked : d.Linked)
    (hfree : d.issuers.find? issuer.id.uuid = none)
    (hyear : FourDigitYear issuer.createdAt)
    (hplaced : WellPlaced issuer.createdAt) (mode : LoadMode) :
    ((d.storeIssuer issuer.id.uuid (issuerRecordOf issuer 1)).stored mode
        (issuer.id.uuid, issuerRecordOf issuer 1)).hydrate =
      .ok
        { data :=
            { issuer :=
                { issuer with
                  createdAt := truncateToMillis issuer.createdAt }
              securities := noSecurities mode }
          version := 1 } := by
  have hrow := fromRow_issuerRecordOf hyear hplaced
    (show 1 < 2 ^ 32 by decide)
  rw [hydrate_stored, hrow, securitiesOf_new hlinked hfree]
  cases mode with
  | lazy => rfl
  | eager => rfl

theorem parse_of_found
    (hrow : d.issuers.find? issuer.id.uuid = some (issuerRecordOf issuer 1))
    (h : (NewRow.issuer issuer).Found d) :
    parseFromRfc3339 (canonicalTimestamp issuer.createdAt) =
      some (truncateToMillis issuer.createdAt) := by
  have hlazy := h .lazy
  rw [HydratedReads.returned_findById, hrow] at hlazy
  have hhydrate := mapError_eq_ok.mp hlazy
  unfold Db.stored at hhydrate
  simp only [hydrate_lazy] at hhydrate
  cases hread : IssuerRow.fromRow (issuer.id.uuid, issuerRecordOf issuer 1) with
  | error e =>
      rw [hread] at hhydrate
      cases hhydrate
  | ok snapshot =>
      rw [hread] at hhydrate
      have hparse := (parse_of_fromRow hread).left
      have hissuer := congrArg (fun v => v.map (fun u => u.data.issuer.createdAt))
        (Except.ok.inj hhydrate)
      have hsame : snapshot.data.issuer.createdAt =
          truncateToMillis issuer.createdAt := Option.some.inj hissuer
      rw [← hsame]
      exact hparse

theorem issuer_roundTrips_iff (hlinked : d.Linked)
    (h : (NewRow.issuer issuer).InsertedInto d) :
    (NewRow.issuer issuer).RoundTrips d <->
      FourDigitYear issuer.createdAt ∧ WellPlaced issuer.createdAt := by
  rcases run_insertIssuer_of_inserted h with ⟨hfree, hrun⟩
  have hstored : (d.storeIssuer issuer.id.uuid (issuerRecordOf issuer 1)).issuers.find?
      issuer.id.uuid = some (issuerRecordOf issuer 1) :=
    SortedTable.find?_insert_self _ _ _
  constructor
  · intro hround
    rw [← parse_canonicalTimestamp_iff]
    have hfound : (NewRow.issuer issuer).Found
        ((RepositoryCall.insertIssuer issuer).run d) := hround.found
    rw [hrun] at hfound
    exact parse_of_found hstored hfound
  · intro h
    rcases h with ⟨hyear, hplaced⟩
    have hnew := hydrate_new hlinked hfree hyear hplaced
    have hlinked' : (d.storeIssuer issuer.id.uuid
        (issuerRecordOf issuer 1)).Linked := by
      rw [← hrun]
      exact (RepositoryCall.insertIssuer issuer).run_linked hlinked
    constructor
    · change (NewRow.issuer issuer).Found
        ((RepositoryCall.insertIssuer issuer).run d)
      rw [hrun]
      intro mode
      rw [HydratedReads.returned_findById, hstored]
      simp only
      rw [hnew mode]
      rfl
    · change ListsKept d ((RepositoryCall.insertIssuer issuer).run d)
      rw [hrun]
      constructor
      · intro mode hbefore
        rw [listAll_succeeds_iff hlinked.issuers] at hbefore
        rw [listAll_succeeds_iff hlinked'.issuers]
        intro row hrow
        rcases mem_insertRow hrow with hnewRow | hold
        · rw [hnewRow]
          exact ⟨_, hnew mode⟩
        · have hreads := hydrate_succeeds_iff.mp (hbefore row hold)
          exact hydrate_succeeds_iff.mpr hreads
      · intro hbefore
        rw [securities_succeed_iff] at hbefore ⊢
        exact hbefore

end NewIssuer

/-!
## A new security
-/

section NewSecurity

variable {d : Db} {security : Security}

theorem securityRow_of_store {r : SecurityRecord} {s : SecurityEntry}
    (h : s ∈ (d.storeSecurity security.id.uuid r).securities.rows) :
    s = (security.id.uuid, r) ∨ s ∈ d.securities.rows :=
  mem_insertRow h

/-- A stored security is found as its row is read. -/
theorem found_iff_of_storeSecurity {v : Versioned Security} :
    returnedSecurities
        (d.storeSecurity security.id.uuid (recordOf security 1))
        (SqliteSecurityRepository.findById security.id) = .ok (some v) <->
      SecurityRow.fromRow (security.id.uuid, recordOf security 1) = .ok v := by
  rw [returned_findSecurity, mapError_eq_ok]
  unfold Db.storeSecurity SqliteSecurityRepository.fromRowOpt
  simp only [SortedTable.find?_insert_self, Option.map_some]
  cases SecurityRow.fromRow (security.id.uuid, recordOf security 1) with
  | error e => simp [Except.map]
  | ok w => simp [Except.map]

theorem listsKept_of_storeSecurity {v : Versioned Security}
    (hlinked : d.Linked)
    (hlinked' : (d.storeSecurity security.id.uuid
      (recordOf security 1)).Linked)
    (hread : SecurityRow.fromRow (security.id.uuid, recordOf security 1) =
      .ok v) :
    ListsKept d (d.storeSecurity security.id.uuid (recordOf security 1)) := by
  constructor
  · intro mode hbefore
    rw [listAll_succeeds_iff hlinked.issuers] at hbefore
    rw [listAll_succeeds_iff hlinked'.issuers]
    intro row hrow
    rcases hydrate_succeeds_iff.mp (hbefore row hrow) with ⟨hissuer, hown⟩
    refine hydrate_succeeds_iff.mpr ⟨hissuer, ?_⟩
    intro hmode s hs
    rcases List.mem_filter.mp hs with ⟨hmem, howner⟩
    rcases securityRow_of_store hmem with hnew | hold
    · rw [hnew]
      exact ⟨v, hread⟩
    · exact hown hmode s (List.mem_filter.mpr ⟨hold, howner⟩)
  · intro hbefore
    rw [securities_succeed_iff] at hbefore ⊢
    intro s hs
    rcases securityRow_of_store hs with hnew | hold
    · rw [hnew]
      exact ⟨v, hread⟩
    · exact hbefore s hold

theorem security_roundTrips_iff (hlinked : d.Linked)
    (h : (NewRow.security security).InsertedInto d) :
    (NewRow.security security).RoundTrips d <->
      FourDigitYear security.createdAt ∧ WellPlaced security.createdAt := by
  rcases run_insertSecurity_of_inserted h with ⟨hfree, hrun⟩
  constructor
  · intro hround
    have hread := hround.found
    change returnedSecurities ((RepositoryCall.insertSecurity security).run d)
      (SqliteSecurityRepository.findById security.id) = _ at hread
    rw [hrun, found_iff_of_storeSecurity] at hread
    rw [← parse_canonicalTimestamp_iff]
    exact (parse_of_securityRow hread).left
  · intro hcondition
    have hparse := (parse_canonicalTimestamp_iff security.createdAt).mpr
      hcondition
    have hread := fromRow_recordOf_of_parse security hparse
      (show 1 < 2 ^ 32 by decide)
    have hlinked' : (d.storeSecurity security.id.uuid
        (recordOf security 1)).Linked := by
      rw [← hrun]
      exact (RepositoryCall.insertSecurity security).run_linked hlinked
    constructor
    · change returnedSecurities
        ((RepositoryCall.insertSecurity security).run d)
          (SqliteSecurityRepository.findById security.id) = _
      rw [hrun, found_iff_of_storeSecurity]
      exact hread
    · change ListsKept d ((RepositoryCall.insertSecurity security).run d)
      rw [hrun]
      exact listsKept_of_storeSecurity hlinked hlinked' hread

end NewSecurity

/--
In every state that writes can lead to, an insertion that succeeds can be read back
and keeps the lists readable exactly when the year of the creation time has four
digits and a leap second, if it is one, is the last second of its minute.
-/
theorem insertion_roundTrips_iff (calls : List RepositoryCall) (row : NewRow)
    (h : row.InsertedInto (runCalls Db.empty calls)) :
    row.RoundTrips (runCalls Db.empty calls) <->
      FourDigitYear row.createdAt ∧ WellPlaced row.createdAt := by
  have hlinked := runCalls_linked calls Db.empty_linked
  cases row with
  | issuer value => exact issuer_roundTrips_iff hlinked h
  | security value => exact security_roundTrips_iff hlinked h

theorem insertion_roundTrips_plain :
    (NewRow.issuer plainRecordIssuer).RoundTrips (runCalls Db.empty []) :=
  (insertion_roundTrips_iff [] (.issuer plainRecordIssuer)
    (by decide +kernel)).mpr (by decide +kernel)

/-- An issuer of the year 10000 is stored, and then cannot be read. -/
def farFutureIssuer : Issuer :=
  { plainRecordIssuer with createdAt := farFutureShare.createdAt }

theorem farFutureIssuer_accepted : farFutureIssuer.Accepted :=
  ⟨farFutureIssuer.id, farFutureIssuer.createdAt, IssuerBuilder.new, rfl⟩

theorem farFutureIssuer_notRead :
    ¬ forall (calls : List RepositoryCall) (row : NewRow), row.Accepted ->
      row.InsertedInto (runCalls Db.empty calls) ->
        row.RoundTrips (runCalls Db.empty calls) := by
  intro h
  have hround := h [] (.issuer farFutureIssuer) farFutureIssuer_accepted
    (by decide +kernel)
  have hparse := parse_of_found (by decide +kernel) hround.found
  revert hparse
  decide +kernel

end Sqlite
end Valqeron
