import Valqeron.Sqlite.SecurityRepository

/-!
# Version-guarded writes, whatever the table

What the repositories leave and report on a version-guarded write depends on what
its statement does and on the version that is stored, not on the table.
-/

namespace Valqeron
namespace Sqlite

open Foundation
open Domain

def issuerVersionAt (id : Uuid) (d : Db) : Option Nat :=
  (d.issuers.find? id).map IssuerRecord.version

def securityVersionAt (id : Uuid) (d : Db) : Option Nat :=
  (d.securities.find? id).map SecurityRecord.version

/-- What the caller finds afterwards, by the result of the statement. -/
def guardedResult (versionAt : Db -> Option Nat) (v : Nat) (d : Db) :
    Except SqlError (Db × Nat) -> Db × Except StorageFault WriteOutcome
  | .error e => (d, .error (backend e))
  | .ok (d', 0) => (d', (zeroRowsOutcome v (versionAt d')).mapError backend)
  | .ok (d', _ + 1) => (d', .ok .applied)

theorem run_issuerWrite (s : Statement) (id : Uuid) (v : Nat) (d : Db) :
    (guardedWrite s id v).run Command.onDb d =
      guardedResult (issuerVersionAt id) v d (s.exec d) := by
  rw [run_guardedWrite]
  unfold guardedOutcome Statement.apply
  cases s.exec d with
  | error e => rfl
  | ok result =>
      rcases result with ⟨d', n⟩
      cases n with
      | zero => rfl
      | succ n => rfl

theorem run_securityWrite (s : SecurityStatement) (id : Uuid) (v : Nat)
    (d : Db) :
    (SqliteSecurityRepository.guardedWrite s id v).run SecurityCommand.onDb d =
      guardedResult (securityVersionAt id) v d (s.exec d) := by
  rw [SqliteSecurityRepository.run_guardedWrite]
  unfold SecurityStatement.apply
  cases s.exec d with
  | error e => rfl
  | ok result =>
      rcases result with ⟨d', n⟩
      cases n with
      | zero => rfl
      | succ n => rfl

theorem zeroRowsOutcome_error {v : Nat} {actual : Option Nat} {e : SqlError}
    (h : zeroRowsOutcome v actual = .error e) :
    e = .integralValueOutOfRange "version" := by
  unfold zeroRowsOutcome at h
  split at h
  · cases h
  · split at h
    · cases h
    · cases h
      rfl

/-- A fault comes from the statement, or from a version that is out of range. -/
theorem guardedResult_error {versionAt : Db -> Option Nat} {v : Nat} {d : Db}
    {result : Except SqlError (Db × Nat)} {e : SqlError}
    (h : (guardedResult versionAt v d result).2 = .error (backend e)) :
    result = .error e ∨ e = .integralValueOutOfRange "version" := by
  cases result with
  | error e' =>
      cases h
      exact Or.inl rfl
  | ok written =>
      rcases written with ⟨d', n⟩
      cases n with
      | succ n => cases h
      | zero =>
          right
          rcases mapError_eq_error.mp h with ⟨e', houtcome, hbackend⟩
          cases hbackend
          exact zeroRowsOutcome_error houtcome

theorem guardedResult_writeRow {record : Type} {found : Option record}
    {conflict : record -> Option SqlError} {store : record -> Db}
    (versionAt : Db -> Option Nat) (v : Nat) (d : Db) :
    (guardedResult versionAt v d (writeRow d found conflict store)).1 = d ∨
      exists r, found = some r ∧
        (guardedResult versionAt v d
          (writeRow d found conflict store)).1 = store r := by
  cases found with
  | none => exact Or.inl rfl
  | some r =>
      cases hconflict : conflict r with
      | some e =>
          rw [writeRow_of_conflict rfl hconflict]
          exact Or.inl rfl
      | none =>
          rw [writeRow_of_free rfl hconflict]
          exact Or.inr ⟨r, rfl, rfl⟩

/-!
## The statement takes the row from one version to the next
-/

/-- A statement changes nothing and finds no row of the version, or takes it on. -/
def MissesOrTakes (versionAt : Db -> Option Nat) (v : Nat) (next : Option Nat)
    (d d' : Db) (n : Nat) : Prop :=
  (n = 0 ∧ d' = d ∧ versionAt d ≠ some v) ∨
    (n = 1 ∧ versionAt d = some v ∧ versionAt d' = next)

theorem missesOrTakes_of_writeRow {record : Type} {d d' : Db} {n : Nat}
    {t : Db -> SortedTable Uuid record} {version : record -> Nat}
    {id : Uuid} {v : Nat} {next : Option Nat}
    {conflict : record -> Option SqlError} {store : record -> Db}
    (hnext : forall r, version r = v ->
      ((t (store r)).find? id).map version = next)
    (h : writeRow d ((t d).rowAt version id v) conflict store =
      .ok (d', n)) :
    MissesOrTakes (fun d => ((t d).find? id).map version) v next d d' n := by
  rcases writeRow_eq_ok h with ⟨hnone, hsame, hn⟩ | ⟨r, hrow, _, hstored, hn⟩
  · exact Or.inl ⟨hn, hsame, SortedTable.rowAt_eq_none.mp hnone⟩
  · refine Or.inr ⟨hn, SortedTable.map_version_of_rowAt hrow, ?_⟩
    rw [hstored]
    exact hnext r (SortedTable.rowAt_eq_some.mp hrow).right

theorem Db.updateIssuerWhere_version {d d' : Db} {id : Uuid} {v n : Nat}
    {set : IssuerRecord -> IssuerRecord}
    (h : d.updateIssuerWhere id v set = .ok (d', n)) :
    MissesOrTakes (issuerVersionAt id) v (some (v + 1)) d d' n := by
  rw [Db.updateIssuerWhere_eq] at h
  refine missesOrTakes_of_writeRow (t := Db.issuers) ?_ h
  intro r hversion
  unfold Db.storeIssuer
  rw [SortedTable.find?_insert_self, Option.map_some, hversion]

theorem deleteStatement_version {d d' : Db} {id : IssuerId} {v n : Nat}
    (h : (deleteStatement id v).exec d = .ok (d', n)) :
    MissesOrTakes (issuerVersionAt id.uuid) v none d d' n := by
  unfold deleteStatement at h
  rw [Statement.exec_deleteIssuer] at h
  refine missesOrTakes_of_writeRow (t := Db.issuers) ?_ h
  intro r _
  rw [SortedTable.find?_erase_self, Option.map_none]

theorem Db.updateSecurityWhere_version {d d' : Db} {id : Uuid} {v n : Nat}
    {set : SecurityRecord -> SecurityRecord}
    (h : d.updateSecurityWhere id v set = .ok (d', n)) :
    MissesOrTakes (securityVersionAt id) v (some (v + 1)) d d' n := by
  rw [Db.updateSecurityWhere_eq] at h
  refine missesOrTakes_of_writeRow (t := Db.securities) ?_ h
  intro r hversion
  unfold Db.storeSecurity
  rw [SortedTable.find?_insert_self, Option.map_some, hversion]

theorem deleteSecurityStatement_version {d d' : Db} {id : SecurityId}
    {v n : Nat} (h : (deleteSecurityStatement id v).exec d = .ok (d', n)) :
    MissesOrTakes (securityVersionAt id.uuid) v none d d' n := by
  unfold deleteSecurityStatement at h
  rw [SecurityStatement.exec_deleteSecurity] at h
  refine missesOrTakes_of_writeRow (t := Db.securities) ?_ h
  intro r _
  rw [SortedTable.find?_erase_self, Option.map_none]

end Sqlite
end Valqeron
