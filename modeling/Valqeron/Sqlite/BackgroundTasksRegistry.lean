import Valqeron.Domain.BackgroundTask
import Valqeron.Sqlite.Columns
import Valqeron.Sqlite.IssuerRepository

/-!
# The SQLite registry of background tasks

The repository only reads; the rows are written by others.  Nothing in the table
keeps an identifier from having another length than sixteen bytes.
-/

namespace Valqeron
namespace Sqlite

open Foundation
open Domain

structure BackgroundTaskRecord where
  name : String
  createdAt : String
  lastUpdatedAt : String
  version : Int
deriving DecidableEq, Repr

abbrev BackgroundTaskEntry := Blob × BackgroundTaskRecord

abbrev BackgroundTaskTable := SortedTable Blob BackgroundTaskRecord

def columnBackgroundTaskName (raw : String) :
    Except SqlError BackgroundTaskName :=
  conversionFailure BackgroundTaskNameError.message
    (BackgroundTaskName.new raw)

def BackgroundTasksRegistryRow.fromRow (row : BackgroundTaskEntry) :
    Except SqlError (Versioned BackgroundTaskSnapshot) := do
  let id ← columnUuid row.1
  let name ← columnBackgroundTaskName row.2.name
  let createdAt ← columnDatetime row.2.createdAt
  let lastUpdatedAt ← columnDatetime row.2.lastUpdatedAt
  let version ← columnU32 "version" row.2.version
  return {
    data :=
      { id := id
        name := name
        createdAt := createdAt
        lastUpdatedAt := lastUpdatedAt }
    version := version.toNat }

inductive RegistryQuery where
  | taskById (id : Blob)
  | taskPage (after : Option Blob) (limit : Nat)
deriving DecidableEq, Repr

namespace RegistryQuery

def Answer : RegistryQuery -> Type
  | taskById _ => Option BackgroundTaskEntry
  | taskPage _ _ => List BackgroundTaskEntry

def eval (t : BackgroundTaskTable) : (q : RegistryQuery) -> q.Answer
  | taskById id => (t.find? id).map (fun r => (id, r))
  | taskPage after limit => t.page after limit

end RegistryQuery

inductive RegistryCommand where
  /-- `Db::read` or `Db::write`. -/
  | takeGuard (role : ConnectionRole)
  /-- The guard goes out of scope. -/
  | dropGuard (role : ConnectionRole)
  | query (q : RegistryQuery)
deriving DecidableEq, Repr

def RegistryResponse : RegistryCommand -> Type
  | .takeGuard _ => Unit
  | .dropGuard _ => Unit
  | .query q => Except SqlError q.Answer

abbrev RegistryProgram := Program RegistryCommand RegistryResponse

def RegistryCommand.onTable (t : BackgroundTaskTable) :
    (c : RegistryCommand) -> BackgroundTaskTable × RegistryResponse c
  | .takeGuard _ => (t, ())
  | .dropGuard _ => (t, ())
  | .query q => (t, .ok (q.eval t))

def reconstituteTask (row : Versioned BackgroundTaskSnapshot) :
    Versioned BackgroundTask :=
  { data := BackgroundTask.reconstitute row.data, version := row.version }

namespace SqliteBackgroundTasksRepository

/-- One query under a reader guard, and what becomes of its rows. -/
def readWith {value : Type} (q : RegistryQuery)
    (decode : q.Answer -> Except SqlError value) :
    RegistryProgram (Except StorageFault value) :=
  Program.bracket (.takeGuard .reader) (.dropGuard .reader) (do
    let answer ← Program.perform (RegistryCommand.query q)
    match answer with
    | .error e => pure (.error (backend e))
    | .ok rows => pure ((decode rows).mapError backend))

def fromRowOpt : Option BackgroundTaskEntry ->
    Except SqlError (Option (Versioned BackgroundTaskSnapshot))
  | none => .ok none
  | some row => (BackgroundTasksRegistryRow.fromRow row).map some

def findById (id : Uuid) :
    RegistryProgram (Except StorageFault
      (Option (Versioned BackgroundTask))) :=
  readWith (.taskById id.asBytes) (fun row =>
    (fromRowOpt row).map (Option.map reconstituteTask))

def listPaged (after : Option Uuid) (limit : Nat) :
    RegistryProgram (Except StorageFault
      (List (Versioned BackgroundTask))) :=
  readWith (.taskPage (after.map Uuid.asBytes) limit) (fun rows =>
    (rows.mapM BackgroundTasksRegistryRow.fromRow).map
      (List.map reconstituteTask))

end SqliteBackgroundTasksRepository

def sqliteBackgroundTasksRepository :
    BackgroundTasksRegistryRepository RegistryProgram StorageFault where
  findById := SqliteBackgroundTasksRepository.findById
  listPaged := SqliteBackgroundTasksRepository.listPaged

theorem run_readWith (t : BackgroundTaskTable) {value : Type}
    (q : RegistryQuery) (decode : q.Answer -> Except SqlError value) :
    (SqliteBackgroundTasksRepository.readWith q decode).run
        RegistryCommand.onTable t =
      (t, (decode (q.eval t)).mapError backend) := by
  unfold SqliteBackgroundTasksRepository.readWith
  rw [Program.run_bracket (fun _ => rfl) (fun _ => rfl)]
  rfl

theorem id_of_fromRow {row : BackgroundTaskEntry}
    {v : Versioned BackgroundTaskSnapshot}
    (h : BackgroundTasksRegistryRow.fromRow row = .ok v) :
    Uuid.asBytes v.data.id = row.1 := by
  unfold BackgroundTasksRegistryRow.fromRow at h
  rcases bind_eq_ok.mp h with ⟨id, hid, h⟩
  rcases bind_eq_ok.mp h with ⟨name, _, h⟩
  rcases bind_eq_ok.mp h with ⟨createdAt, _, h⟩
  rcases bind_eq_ok.mp h with ⟨lastUpdatedAt, _, h⟩
  rcases bind_eq_ok.mp h with ⟨version, _, h⟩
  cases h
  exact columnUuid_eq_ok hid

end Sqlite
end Valqeron
