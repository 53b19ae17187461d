import Valqeron.Domain.Issuer
import Valqeron.Foundation.Grouping
import Valqeron.Foundation.Program
import Valqeron.Sqlite.Database
import Valqeron.Sqlite.Row
import Valqeron.Sqlite.Schema

/-!
# The SQLite issuer repository

Every operation is a program over the statements it sends and the guards it
takes, so that the same operation can be run on a live handle, inside a dry run,
or statement by statement among the operations of other clients.  Rows are
returned as the statements give them.
-/

namespace Valqeron
namespace Sqlite

open Foundation
open Domain
open Identifiers

inductive ConnectionRole where
  | writer
  | reader
deriving DecidableEq, Repr

inductive Command where
  /-- `Db::read` or `Db::write`. -/
  | takeGuard (role : ConnectionRole)
  /-- The guard goes out of scope. -/
  | dropGuard (role : ConnectionRole)
  | query (role : ConnectionRole) (q : Query)
  | execute (s : Statement)
deriving DecidableEq, Repr

def Response : Command -> Type
  | .takeGuard _ => Unit
  | .dropGuard _ => Unit
  | .query _ q => Except SqlError q.Answer
  | .execute _ => Except SqlError Nat

abbrev SqlProgram := Program Command Response

def Command.failWith (e : SqlError) : (c : Command) -> Response c
  | .takeGuard _ => ()
  | .dropGuard _ => ()
  | .query _ _ => .error e
  | .execute _ => .error e

/-- A statement as a function on the whole database; a failed one changes nothing. -/
def Statement.apply (s : Statement) (d : Db) : Db × Except SqlError Nat :=
  match s.exec d with
  | .ok (d', n) => (d', .ok n)
  | .error e => (d, .error e)

theorem Statement.apply_error {s : Statement} {d : Db} {e : SqlError}
    (h : s.exec d = .error e) : s.apply d = (d, .error e) := by
  unfold Statement.apply
  rw [h]

theorem Statement.apply_ok {s : Statement} {d d' : Db} {n : Nat}
    (h : s.exec d = .ok (d', n)) : s.apply d = (d', .ok n) := by
  unfold Statement.apply
  rw [h]

/-- A command on the committed database. -/
def Command.onDb (d : Db) : (c : Command) -> Db × Response c
  | .takeGuard _ => (d, ())
  | .dropGuard _ => (d, ())
  | .query _ q => (d, .ok (q.eval d))
  | .execute s => s.apply d

def Command.onStore (handle : DbHandle) (s : TxnStore Db) :
    (c : Command) -> TxnStore Db × Response c
  | .takeGuard _ => (s, ())
  | .dropGuard _ => (s, ())
  | .query .reader q =>
      let r := handle.query s (fun d => q.eval d)
      (r.1, .ok r.2)
  | .query .writer q => (s.query, .ok (q.eval s.view))
  | .execute statement =>
      match handle.execute s statement.apply with
      | some r => r
      | none => (s, .error .busy)

/-!
## Write-path helpers
-/

/-- What `backend` makes of a database error. -/
structure StorageFault where
  source : SqlError
deriving DecidableEq, Repr

def backend (e : SqlError) : StorageFault := { source := e }

def busyMaxAttempts : Nat := 5

def isBusyOrLocked : SqlError -> Bool
  | .busy => true
  | .locked => true
  | _ => false

/-- `op`, and after it up to `more` attempts while it is busy or locked. -/
def retryBusy {value : Type} (op : SqlProgram (Except SqlError value)) :
    Nat -> SqlProgram (Except SqlError value)
  | 0 => op
  | more + 1 => do
      let r ← op
      match r with
      | .error e =>
          if isBusyOrLocked e then
            retryBusy op more
          else
            pure (.error e)
      | .ok v => pure (.ok v)

def withBusyRetry {value : Type} (op : SqlProgram (Except SqlError value)) :
    SqlProgram (Except SqlError value) :=
  retryBusy op (busyMaxAttempts - 1)

def withGuard {value : Type} (role : ConnectionRole)
    (body : SqlProgram value) : SqlProgram value := do
  let _ ← Program.perform (Command.takeGuard role)
  let v ← body
  let _ ← Program.perform (Command.dropGuard role)
  pure v

def query (role : ConnectionRole) (q : Query) :
    SqlProgram (Except SqlError q.Answer) :=
  Program.perform (Command.query role q)

def execute (s : Statement) : SqlProgram (Except SqlError Nat) :=
  Program.perform (Command.execute s)

/-- What a write that affected no row reports, by the version that is stored. -/
def zeroRowsOutcome (expectedVersion : Nat) :
    Option Nat -> Except SqlError WriteOutcome
  | none => .ok .missing
  | some actual =>
      if actual < 2 ^ 32 then
        .ok (.versionMismatch expectedVersion actual)
      else
        .error (.integralValueOutOfRange "version")

/-- Tells a stale version from a missing row by reading the version again. -/
def writeOutcome (id : Uuid) (expectedVersion : Nat) :
    SqlProgram (Except SqlError WriteOutcome) := do
  let actual ← query .writer (.issuerVersion id)
  match actual with
  | .error e => pure (.error e)
  | .ok actual => pure (zeroRowsOutcome expectedVersion actual)

def guardedWrite (s : Statement) (id : Uuid) (expectedVersion : Nat) :
    SqlProgram (Except StorageFault WriteOutcome) := do
  let r ← withBusyRetry (withGuard .writer (do
    let affected ← execute s
    match affected with
    | .error e => pure (.error e)
    | .ok 0 => writeOutcome id expectedVersion
    | .ok _ => pure (.ok .applied)))
  pure (r.mapError backend)

/-!
## The statements of an issuer
-/

def insertStatement (issuer : Issuer) : Statement :=
  .insertIssuer issuer.id.uuid (issuer.name.map IssuerName.asStr)
    issuer.status.asStr (canonicalTimestamp issuer.createdAt)
    (issuer.cnpj.map Cnpj.asStr) (issuer.lei.map Lei.asStr)
    (issuer.countryCode.map CountryCode.asStr)

def patchStatement (id : IssuerId) (expectedVersion : Nat)
    (patch : IssuerPatch) : Statement :=
  .patchIssuer id.uuid (patch.name.map IssuerName.asStr)
    (patch.status.map IssuerStatus.asStr) (patch.cnpj.map Cnpj.asStr)
    (patch.lei.map Lei.asStr) (patch.countryCode.map CountryCode.asStr)
    expectedVersion

def updateStatement (issuer : Issuer) (expectedVersion : Nat) : Statement :=
  .updateIssuer issuer.id.uuid (issuer.name.map IssuerName.asStr)
    issuer.status.asStr (issuer.cnpj.map Cnpj.asStr)
    (issuer.lei.map Lei.asStr) (issuer.countryCode.map CountryCode.asStr)
    expectedVersion

def deleteStatement (id : IssuerId) (expectedVersion : Nat) : Statement :=
  .deleteIssuer id.uuid expectedVersion

/-!
## The repository
-/

structure StoredIssuer where
  id : Uuid
  columns : IssuerRecord
  securities : Loading (List SecurityEntry)
deriving DecidableEq, Repr

def reconstituteLazy (row : IssuerEntry) : StoredIssuer :=
  { id := row.1, columns := row.2, securities := .notLoaded }

def reconstituteWith (row : IssuerEntry) (securities : List SecurityEntry) :
    StoredIssuer :=
  { id := row.1, columns := row.2, securities := .loaded securities }

/-- Attaches one batched securities result to many issuer rows. -/
def hydrateRows (rows : List IssuerEntry) (securities : List SecurityEntry) :
    List StoredIssuer :=
  let grouped := groupBy (fun s => s.2.issuerId) securities
  (takeGroups Prod.fst grouped rows).map (fun taken =>
    reconstituteWith taken.1 taken.2)

/-- An eager list read: the issuers first, then one query for all securities. -/
def listWith (rowsQuery : SqlProgram (Except SqlError (List IssuerEntry)))
    (securitiesQuery : SqlProgram (Except SqlError (List SecurityEntry)))
    (mode : LoadMode) :
    SqlProgram (Except StorageFault (List StoredIssuer)) :=
  withGuard .reader (do
    let rows ← rowsQuery
    match rows, mode with
    | .error e, _ => pure (.error (backend e))
    | .ok rows, .lazy => pure (.ok (rows.map reconstituteLazy))
    | .ok rows, .eager =>
        let securities ← securitiesQuery
        match securities with
        | .error e => pure (.error (backend e))
        | .ok securities => pure (.ok (hydrateRows rows securities)))

namespace SqliteIssuerRepository

/-- What `find_by_id` makes of the row, if there is one. -/
def hydrateOne (id : IssuerId) (mode : LoadMode) :
    Except SqlError (Option IssuerEntry) ->
      SqlProgram (Except StorageFault (Option StoredIssuer))
  | .error e => pure (.error (backend e))
  | .ok none => pure (.ok none)
  | .ok (some row) =>
      match mode with
      | .lazy => pure (.ok (some (reconstituteLazy row)))
      | .eager => do
          let securities ← query .reader (.securitiesByIssuer id.uuid)
          match securities with
          | .error e => pure (.error (backend e))
          | .ok securities =>
              pure (.ok (some (reconstituteWith row securities)))

def findById (id : IssuerId) (mode : LoadMode) :
    SqlProgram (Except StorageFault (Option StoredIssuer)) :=
  withGuard .reader (do
    let row ← query .reader (.issuerById id.uuid)
    hydrateOne id mode row)

def listAll (mode : LoadMode) :
    SqlProgram (Except StorageFault (List StoredIssuer)) :=
  listWith (query .reader .issuers) (query .reader .securitiesForAllIssuers)
    mode

def listPaged (after : Option IssuerId) (limit : Nat) (mode : LoadMode) :
    SqlProgram (Except StorageFault (List StoredIssuer)) :=
  let cursor := after.map IssuerId.uuid
  listWith (query .reader (.issuerPage cursor limit))
    (query .reader (.securitiesForIssuerPage cursor limit)) mode

def readOne (q : Query) : SqlProgram (Except StorageFault q.Answer) :=
  withGuard .reader (do
    let r ← query .reader q
    pure (r.mapError backend))

def exists_ (id : IssuerId) : SqlProgram (Except StorageFault Bool) :=
  readOne (.issuerExists id.uuid)

def existsByCnpj (cnpj : Cnpj) : SqlProgram (Except StorageFault Bool) :=
  readOne (.issuerExistsByCnpj cnpj.asStr)

def existsByLei (lei : Lei) : SqlProgram (Except StorageFault Bool) :=
  readOne (.issuerExistsByLei lei.asStr)

def insert (issuer : Issuer) : SqlProgram (Except StorageFault Unit) := do
  let r ← withBusyRetry (withGuard .writer (execute (insertStatement issuer)))
  pure ((r.map (fun _ => ())).mapError backend)

def applyPatch (id : IssuerId) (expectedVersion : Nat)
    (patch : IssuerPatch) : SqlProgram (Except StorageFault WriteOutcome) :=
  guardedWrite (patchStatement id expectedVersion patch) id.uuid
    expectedVersion

def update (issuer : Issuer) (expectedVersion : Nat) :
    SqlProgram (Except StorageFault WriteOutcome) :=
  guardedWrite (updateStatement issuer expectedVersion) issuer.id.uuid
    expectedVersion

def delete (id : IssuerId) (expectedVersion : Nat) :
    SqlProgram (Except StorageFault WriteOutcome) :=
  guardedWrite (deleteStatement id expectedVersion) id.uuid expectedVersion

end SqliteIssuerRepository

def sqliteIssuerRepository :
    IssuerRepository SqlProgram StorageFault StoredIssuer where
  findById := SqliteIssuerRepository.findById
  listAll := SqliteIssuerRepository.listAll
  listPaged := SqliteIssuerRepository.listPaged
  exists_ := SqliteIssuerRepository.exists_
  existsByCnpj := SqliteIssuerRepository.existsByCnpj
  existsByLei := SqliteIssuerRepository.existsByLei
  insert := SqliteIssuerRepository.insert
  applyPatch := SqliteIssuerRepository.applyPatch
  update := SqliteIssuerRepository.update
  delete := SqliteIssuerRepository.delete

/--
A property of rows that holds of all rows before a statement holds after it when it holds of
the row that the statement stores.
-/
theorem Statement.apply_rows {s : Statement} {d : Db}
    {P : IssuerRecord -> Prop}
    (hold : forall id r, d.issuers.find? id = some r -> P r)
    (hinserted : forall r, s.inserted = some r ->
      rowConflict d.issuers s.target r = none -> P r)
    (hupdated : forall set r r', s.assigned = some set ->
      d.issuers.find? s.target = some r ->
      r' = { set r with version := r.version + 1 } ->
      s.expectedVersion = some r.version ->
      rowConflict d.issuers s.target r' = none -> P r')
    (id : Uuid) (r : IssuerRecord)
    (h : (s.apply d).1.issuers.find? id = some r) : P r := by
  have heffect := s.exec_effect d
  unfold Statement.apply at h
  cases hexec : s.exec d with
  | error e =>
      rw [hexec] at h
      exact hold id r h
  | ok result =>
      rw [hexec] at h heffect
      cases heffect with
      | missed v hversion hnone => exact hold id r h
      | inserted r' hrow hfree hok =>
          rcases Db.find?_storeIssuer h with ⟨_, hr⟩ | hbefore
          · rw [hr]
            exact hinserted r' hrow hok
          · exact hold id r hbefore
      | updated v set r' hversion hset hrow hok =>
          rcases Db.find?_storeIssuer h with ⟨_, hr⟩ | hbefore
          · rw [hr]
            rcases Db.issuerAt_eq_some.mp hrow with ⟨hfind, hv⟩
            exact hupdated set r' _ hset hfind rfl (hv ▸ hversion) hok
          · exact hold id r hbefore
      | erased v r' hversion hrow =>
          exact hold id r (Db.find?_eraseIssuer h)

/-!
## Runs on a database that nobody else writes

No statement finds such a database busy, so every operation is over after its
first attempt, and what it does to the database is what its statement does.
-/

def SqlError.isConstraint : SqlError -> Bool
  | .check _ => true
  | .primaryKey _ => true
  | .unique _ => true
  | .foreignKey => true
  | _ => false

theorem SqlError.not_busy_of_isConstraint {e : SqlError}
    (h : e.isConstraint = true) : isBusyOrLocked e = false := by
  cases e with
  | busy => cases h
  | locked => cases h
  | _ => rfl

theorem IssuerRecord.failedCheck_isConstraint {r : IssuerRecord}
    {e : SqlError} (h : r.failedCheck = some e) : e.isConstraint = true := by
  unfold IssuerRecord.failedCheck at h
  split at h
  · cases h
    rfl
  · split at h
    · cases h
      rfl
    · split at h
      · cases h
        rfl
      · cases h

theorem uniqueConflict_isConstraint {t : SortedTable Uuid IssuerRecord}
    {id : Uuid} {r : IssuerRecord} {e : SqlError}
    (h : uniqueConflict t id r = some e) : e.isConstraint = true := by
  unfold uniqueConflict at h
  split at h
  · cases h
    rfl
  · split at h
    · cases h
      rfl
    · cases h

theorem insertConflict_isConstraint {t : SortedTable Uuid IssuerRecord}
    {id : Uuid} {r : IssuerRecord} {e : SqlError}
    (h : insertConflict t id r = some e) : e.isConstraint = true := by
  unfold insertConflict at h
  split at h
  · cases h
    rfl
  · split at h
    · cases h
      rfl
    · split at h
      · cases h
        rfl
      · cases h

theorem rowConflict_isConstraint {t : SortedTable Uuid IssuerRecord}
    {id : Uuid} {r : IssuerRecord} {e : SqlError}
    (h : rowConflict t id r = some e) : e.isConstraint = true := by
  unfold rowConflict at h
  cases hcheck : r.failedCheck with
  | some e' =>
      rw [hcheck] at h
      cases h
      exact IssuerRecord.failedCheck_isConstraint hcheck
  | none =>
      rw [hcheck] at h
      exact uniqueConflict_isConstraint h

theorem Db.updateIssuerWhere_isConstraint {d : Db} {id : Uuid}
    {expectedVersion : Nat} {set : IssuerRecord -> IssuerRecord}
    {e : SqlError} (h : d.updateIssuerWhere id expectedVersion set = .error e) :
    e.isConstraint = true := by
  rw [Db.updateIssuerWhere_eq] at h
  rcases writeRow_eq_error h with ⟨r, _, hconflict⟩
  exact rowConflict_isConstraint hconflict

theorem Statement.exec_isConstraint {s : Statement} {d : Db} {e : SqlError}
    (h : s.exec d = .error e) : e.isConstraint = true := by
  cases s with
  | insertIssuer id name status createdAt cnpj lei countryCode =>
      unfold Statement.exec at h
      simp only at h
      split at h
      · rename_i hcheck
        cases h
        exact IssuerRecord.failedCheck_isConstraint hcheck
      · split at h
        · rename_i hconflict
          cases h
          exact insertConflict_isConstraint hconflict
        · cases h
  | patchIssuer id name status cnpj lei countryCode expectedVersion =>
      exact Db.updateIssuerWhere_isConstraint h
  | updateIssuer id name status cnpj lei countryCode expectedVersion =>
      exact Db.updateIssuerWhere_isConstraint h
  | deleteIssuer id expectedVersion =>
      unfold Statement.exec at h
      simp only at h
      split at h
      · cases h
      · split at h
        · cases h
          rfl
        · cases h

theorem Statement.exec_not_busy {s : Statement} {d : Db} {e : SqlError}
    (h : s.exec d = .error e) : isBusyOrLocked e = false :=
  SqlError.not_busy_of_isConstraint (s.exec_isConstraint h)

theorem mapError_eq_ok {fault fault' value : Type} {f : fault -> fault'}
    {r : Except fault value} {v : value} :
    r.mapError f = .ok v <-> r = .ok v := by
  cases r with
  | error e => simp [Except.mapError]
  | ok v' => simp [Except.mapError]

theorem mapError_eq_error {fault fault' value : Type} {f : fault -> fault'}
    {r : Except fault value} {e' : fault'} :
    r.mapError f = .error e' <-> exists e, r = .error e ∧ f e = e' := by
  cases r with
  | error e => simp [Except.mapError]
  | ok v => simp [Except.mapError]

section Runs

variable {value : Type}

theorem retryBusy_eq_retryWhile (op : SqlProgram (Except SqlError value))
    (more : Nat) :
    retryBusy op more =
      Program.retryWhile (fun r =>
        match r with
        | .error e => isBusyOrLocked e
        | .ok _ => false) op more := by
  induction more with
  | zero => rfl
  | succ more ih =>
      unfold retryBusy Program.retryWhile
      rw [← ih]
      congr 1
      funext r
      cases r with
      | error e => rfl
      | ok v => rfl

theorem run_retryBusy {world : Type}
    {handle : world -> (c : Command) -> world × Response c} {w : world}
    {op : SqlProgram (Except SqlError value)}
    (h : forall e, (op.run handle w).2 = .error e ->
      isBusyOrLocked e = false) (more : Nat) :
    (retryBusy op more).run handle w = op.run handle w := by
  rw [retryBusy_eq_retryWhile]
  apply Program.run_retryWhile
  cases hresult : (op.run handle w).2 with
  | error e => exact h e hresult
  | ok v => rfl

theorem run_withGuard_of_free {world : Type}
    {handle : world -> (c : Command) -> world × Response c}
    (htake : forall w role, (handle w (.takeGuard role)).1 = w)
    (hdrop : forall w role, (handle w (.dropGuard role)).1 = w) (w : world)
    (role : ConnectionRole) (body : SqlProgram value) :
    (withGuard role body).run handle w = body.run handle w :=
  Program.run_bracket (fun w => htake w role) (fun w => hdrop w role) w body

@[simp] theorem run_withGuard (d : Db) (role : ConnectionRole)
    (body : SqlProgram value) :
    (withGuard role body).run Command.onDb d = body.run Command.onDb d :=
  run_withGuard_of_free (fun _ _ => rfl) (fun _ _ => rfl) d role body

@[simp] theorem run_execute (d : Db) (s : Statement) :
    (execute s).run Command.onDb d = s.apply d := rfl

theorem Statement.apply_eq_error {s : Statement} {d : Db} {e : SqlError}
    (h : (s.apply d).2 = .error e) : s.exec d = .error e := by
  unfold Statement.apply at h
  split at h
  · cases h
  · rename_i hexec
    cases h
    exact hexec

/-- What a version-guarded write reports on a database of its own. -/
def guardedOutcome (s : Statement) (id : Uuid) (expectedVersion : Nat)
    (d : Db) : Except SqlError WriteOutcome :=
  match s.apply d with
  | (_, .error e) => .error e
  | (d', .ok 0) =>
      zeroRowsOutcome expectedVersion
        ((d'.issuers.find? id).map IssuerRecord.version)
  | (_, .ok _) => .ok .applied

theorem zeroRowsOutcome_not_busy {expectedVersion : Nat}
    {actual : Option Nat} {e : SqlError}
    (h : zeroRowsOutcome expectedVersion actual = .error e) :
    isBusyOrLocked e = false := by
  unfold zeroRowsOutcome at h
  split at h
  · cases h
  · split at h
    · cases h
    · cases h
      rfl

theorem zeroRowsOutcome_ne_applied (expectedVersion : Nat)
    (actual : Option Nat) :
    zeroRowsOutcome expectedVersion actual ≠ .ok .applied := by
  unfold zeroRowsOutcome
  split
  · simp
  · split
    · simp
    · simp

theorem run_writeOutcome (d : Db) (id : Uuid) (expectedVersion : Nat) :
    (writeOutcome id expectedVersion).run Command.onDb d =
      (d, zeroRowsOutcome expectedVersion
        ((d.issuers.find? id).map IssuerRecord.version)) := rfl

theorem run_guardedWrite (s : Statement) (id : Uuid) (expectedVersion : Nat)
    (d : Db) :
    (guardedWrite s id expectedVersion).run Command.onDb d =
      ((s.apply d).1,
        (guardedOutcome s id expectedVersion d).mapError backend) := by
  have hattempt : (withGuard .writer (do
      let affected ← execute s
      match affected with
      | .error e => pure (.error e)
      | .ok 0 => writeOutcome id expectedVersion
      | .ok _ => pure (.ok .applied))).run Command.onDb d =
        ((s.apply d).1, guardedOutcome s id expectedVersion d) := by
    rw [run_withGuard, Program.run_bind, run_execute]
    unfold guardedOutcome
    rcases s.apply d with ⟨d', affected⟩
    cases affected with
    | error e => rfl
    | ok n =>
        cases n with
        | zero => exact run_writeOutcome d' id expectedVersion
        | succ n => rfl
  unfold guardedWrite withBusyRetry
  rw [Program.run_bind, run_retryBusy, hattempt]
  · rfl
  · intro e he
    rw [hattempt] at he
    unfold guardedOutcome at he
    split at he
    · rename_i happly
      cases he
      apply Statement.exec_not_busy
      apply Statement.apply_eq_error
      rw [happly]
    · exact zeroRowsOutcome_not_busy he
    · cases he

theorem run_insert (issuer : Issuer) (d : Db) :
    (SqliteIssuerRepository.insert issuer).run Command.onDb d =
      (((insertStatement issuer).apply d).1,
        ((((insertStatement issuer).apply d).2).map (fun _ => ())).mapError
          backend) := by
  unfold SqliteIssuerRepository.insert withBusyRetry
  rw [Program.run_bind, run_retryBusy, run_withGuard, run_execute]
  · rfl
  · intro e he
    rw [run_withGuard, run_execute] at he
    exact Statement.exec_not_busy (Statement.apply_eq_error he)

end Runs

end Sqlite
end Valqeron
