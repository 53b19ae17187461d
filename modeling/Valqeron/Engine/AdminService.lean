import Valqeron.Engine.IssuerService
import Valqeron.Foundation.Keyset
import Valqeron.Sqlite.BackgroundTasksRegistry

/-!
# The admin service

The pages of background tasks.  What a library says about its own errors is a
parameter.
-/

namespace Valqeron
namespace Engine

open Foundation
open Domain
open Sqlite

def protocolVersion : Nat := 1

structure PaginatedCursor where
  after : Option String
  limit : Nat
deriving DecidableEq, Repr, Inhabited

structure TimestampProto where
  seconds : Int
  nanos : Int
deriving DecidableEq, Repr

structure BackgroundTaskDetailProto where
  id : Blob
  name : String
  createdAt : Option TimestampProto
  lastUpdatedAt : Option TimestampProto
deriving DecidableEq, Repr

structure ListBackgroundTasksRequestProto where
  cursor : Option PaginatedCursor
deriving DecidableEq, Repr

structure ListBackgroundTasksResponseProto where
  cursor : Option PaginatedCursor
  protocolVersion : Nat
  tasks : List BackgroundTaskDetailProto
deriving DecidableEq, Repr

/-- The texts of an identifier that is not parsed and of a storage fault. -/
structure LibraryTexts where
  uuid : String -> String
  fault : StorageFault -> String

def timestampProto (dt : DateTime) : TimestampProto where
  seconds := dt.seconds
  nanos := dt.nanos.val

def convertBackgroundTaskToProto (task : BackgroundTask) :
    BackgroundTaskDetailProto where
  id := task.id.asBytes
  name := task.name.asStr
  createdAt := some (timestampProto task.createdAt)
  lastUpdatedAt := some (timestampProto task.lastUpdatedAt)

section Service

variable (text : UuidText) (texts : LibraryTexts)

def parseCursorId (raw : String) : Except Status Uuid :=
  match text.parseStr raw with
  | none =>
      .error
        { code := .invalidArgument
          message := "invalid cursor after id: " ++ texts.uuid raw }
  | some id => .ok id

/-- `parse_cursor`; the limits are those of `list`. -/
def parseCursor (cursor : Option PaginatedCursor) :
    Except Status (Option Uuid × Nat) := do
  let cursor := cursor.getD default
  let after ← cursor.after.mapM (parseCursorId text texts)
  return (after, listLimit cursor.limit)

/-- The closure of `list_background_tasks`. -/
def listBackgroundTasksProgram (after : Option Uuid) (limit : Nat) :
    RegistryProgram (Except Status (List (Versioned BackgroundTask))) := do
  let tasks ←
    Domain.listBackgroundTasks sqliteBackgroundTasksRepository after limit
  match tasks with
  | .error (.storage e) =>
      pure (.error { code := .internal, message := texts.fault e })
  | .ok tasks => pure (.ok tasks)

def nextCursor (tasks : List (Versioned BackgroundTask)) (limit : Nat) :
    Option PaginatedCursor :=
  tasks.getLast?.map (fun task =>
    { after := some (text.value task.data.id), limit := limit })

def listBackgroundTasks (t : BackgroundTaskTable)
    (req : ListBackgroundTasksRequestProto) :
    Except Status ListBackgroundTasksResponseProto := do
  let (after, limit) ← parseCursor text texts req.cursor
  let tasks ←
    ((listBackgroundTasksProgram texts after limit).run
      RegistryCommand.onTable t).2
  return {
    cursor := nextCursor text tasks limit
    protocolVersion := protocolVersion
    tasks := tasks.map (fun t => convertBackgroundTaskToProto t.data) }

theorem ids_of_listed {after : Option Uuid} {limit : Nat}
    {t : BackgroundTaskTable} {tasks : List (Versioned BackgroundTask)}
    (h : ((listBackgroundTasksProgram texts after limit).run
      RegistryCommand.onTable t).2 = .ok tasks) :
    tasks.map (fun task => task.data.id.asBytes) =
      t.pageKeys (after.map Uuid.asBytes) limit := by
  have hread : (sqliteBackgroundTasksRepository.listPaged after limit).run
      RegistryCommand.onTable t =
        (t, (((t.page (after.map Uuid.asBytes) limit).mapM
          BackgroundTasksRegistryRow.fromRow).map
            (List.map reconstituteTask)).mapError backend) :=
    run_readWith t (.taskPage (after.map Uuid.asBytes) limit) _
  unfold listBackgroundTasksProgram Domain.listBackgroundTasks at h
  rw [Program.run_bind, Program.run_bind, hread] at h
  cases hrows : (t.page (after.map Uuid.asBytes) limit).mapM
      BackgroundTasksRegistryRow.fromRow with
  | error e =>
      rw [hrows] at h
      cases h
  | ok rows =>
      rw [hrows] at h
      cases h
      have hids := map_of_mapM id_of_fromRow hrows
      rw [List.map_map]
      exact hids

def NamesTask (c : String) (k : Blob) : Prop :=
  exists id : Uuid, c = text.value id ∧ k = id.asBytes

theorem parseCursor_named {c : Option String} {k : Option Blob} {limit : Nat}
    (h : Option.Rel (NamesTask text) c k) :
    exists after : Option Uuid, after.map Uuid.asBytes = k ∧
      parseCursor text texts (some { after := c, limit := limit }) =
        .ok (after, listLimit limit) := by
  cases h with
  | none => exact ⟨none, rfl, rfl⟩
  | some hnames =>
      rcases hnames with ⟨id, hc, hk⟩
      subst hc hk
      refine ⟨some id, rfl, ?_⟩
      have hid : parseCursorId text texts (text.value id) = .ok id := by
        unfold parseCursorId
        rw [text.parseStr_value]
      show (Option.mapM (parseCursorId text texts) (some (text.value id)) >>=
        _) = _
      rw [Option.mapM_some, hid]
      rfl

/--
The tasks of an answer are a page of the table, and its cursor names the last of
them.
-/
theorem page_of_listBackgroundTasks {t : BackgroundTaskTable}
    {c : Option String} {k : Option Blob} {limit : Nat}
    {r : ListBackgroundTasksResponseProto}
    (hcursor : Option.Rel (NamesTask text) c k)
    (h : listBackgroundTasks text texts t
      { cursor := some { after := c, limit := limit } } = .ok r) :
    r.tasks.map BackgroundTaskDetailProto.id =
        t.pageKeys k (listLimit limit) ∧
      Option.Rel (NamesTask text) (r.cursor.bind PaginatedCursor.after)
        (t.pageKeys k (listLimit limit)).getLast? := by
  rcases parseCursor_named text texts hcursor with ⟨after, hkey, hparsed⟩
  unfold listBackgroundTasks at h
  rcases bind_eq_ok.mp h with ⟨parsed, hasked, h⟩
  rw [hparsed] at hasked
  cases hasked
  rcases bind_eq_ok.mp h with ⟨tasks, htasks, h⟩
  cases h
  have hids := ids_of_listed texts htasks
  rw [hkey] at hids
  rw [← hids]
  constructor
  · exact List.map_map
  · unfold nextCursor
    rw [List.getLast?_map]
    cases tasks.getLast? with
    | none => exact .none
    | some task => exact .some ⟨task.data.id, rfl, rfl⟩

end Service

end Engine
end Valqeron
