import Valqeron.EngineClient.BackgroundTasks
import Valqeron.Sqlite.StoredTimes

/-!
# Background tasks on the command line

The list of background tasks shows what is left of a stored row once the engine
has sent it and the client has read it.  The message has no version.
-/

namespace Valqeron
namespace Cli

open Foundation
open Domain
open Sqlite
open Engine
open EngineClient

structure BackgroundTaskDefinitionView where
  id : String
  name : String
  createdAt : String
  lastUpdatedAt : String
  version : Nat
deriving DecidableEq, Repr

namespace BackgroundTaskDefinitionView

variable (text : UuidText)

def new (task : BackgroundTask) (version : Nat) :
    BackgroundTaskDefinitionView where
  id := text.value task.id
  name := task.name.asStr
  createdAt := toRfc3339 task.createdAt
  lastUpdatedAt := toRfc3339 task.lastUpdatedAt
  version := version

/-- `From<&BackgroundTaskDetail>` -/
def ofDetail (value : BackgroundTaskDetail) :
    BackgroundTaskDefinitionView where
  id := text.value value.id
  name := value.name
  createdAt := toRfc3339 value.createdAt
  lastUpdatedAt := toRfc3339 value.lastUpdatedAt
  version := 1

end BackgroundTaskDefinitionView

section View

variable (text : UuidText) (texts : WireTexts) (reader : TimestampReader)

def shownTask (task : BackgroundTask) :
    Except ClientError BackgroundTaskDefinitionView :=
  (backgroundTaskFromProto texts reader (convertBackgroundTaskToProto task)).map
    (BackgroundTaskDefinitionView.ofDetail text)

/-- The view carries what is stored: id, name, both times and the version. -/
def ShowsStored (stored : Versioned BackgroundTask) : Prop :=
  shownTask text texts reader stored.data =
    .ok (BackgroundTaskDefinitionView.new text stored.data stored.version)

theorem not_leap_of_shown {ts : TimestampProto} {dt read : DateTime}
    (hplaced : WellPlaced dt) (hread : reader.read ts = some read)
    (htext : toRfc3339 read = toRfc3339 dt) : dt.nanos.val < 1000000000 := by
  have hnormal := reader.not_leap ts read hread
  rw [← writtenSecond_lt_iff hplaced, ← writtenSecond_of_toRfc3339 htext,
    writtenSecond_lt_iff (Or.inl hnormal)]
  exact hnormal

theorem showsStored_iff {stored : Versioned BackgroundTask}
    (hcreated : WellPlaced stored.data.createdAt)
    (hupdated : WellPlaced stored.data.lastUpdatedAt) :
    ShowsStored text texts reader stored <->
      stored.version = 1 ∧ stored.data.createdAt.nanos.val < 1000000000 ∧
        stored.data.lastUpdatedAt.nanos.val < 1000000000 := by
  unfold ShowsStored shownTask
  constructor
  · intro h
    cases hdetail : backgroundTaskFromProto texts reader
        (convertBackgroundTaskToProto stored.data) with
    | error e =>
        rw [hdetail] at h
        cases h
    | ok detail =>
        rw [hdetail] at h
        have hview := Except.ok.inj h
        rcases (backgroundTaskFromProto_convert texts reader stored.data).mp
          hdetail with ⟨_, _, hread, hread'⟩
        refine ⟨?_, ?_, ?_⟩
        · exact (congrArg BackgroundTaskDefinitionView.version hview).symm
        · exact not_leap_of_shown reader hcreated hread
            (congrArg BackgroundTaskDefinitionView.createdAt hview)
        · exact not_leap_of_shown reader hupdated hread'
            (congrArg BackgroundTaskDefinitionView.lastUpdatedAt hview)
  · intro h
    rcases h with ⟨hversion, hcreated, hupdated⟩
    let detail : BackgroundTaskDetail :=
      { id := stored.data.id
        name := stored.data.name.asStr
        createdAt := stored.data.createdAt
        lastUpdatedAt := stored.data.lastUpdatedAt }
    have hdetail : backgroundTaskFromProto texts reader
        (convertBackgroundTaskToProto stored.data) = .ok detail :=
      (backgroundTaskFromProto_convert texts reader stored.data).mpr
        ⟨rfl, rfl, reader.read_normal _ hcreated, reader.read_normal _ hupdated⟩
    rw [hdetail, hversion]
    rfl

theorem wellPlaced_of_fromRow {row : BackgroundTaskEntry}
    {stored : Versioned BackgroundTaskSnapshot}
    (h : BackgroundTasksRegistryRow.fromRow row = .ok stored) :
    WellPlaced stored.data.createdAt ∧
      WellPlaced stored.data.lastUpdatedAt := by
  unfold BackgroundTasksRegistryRow.fromRow at h
  rcases bind_eq_ok.mp h with ⟨id, _, h⟩
  rcases bind_eq_ok.mp h with ⟨name, _, h⟩
  rcases bind_eq_ok.mp h with ⟨createdAt, hcreated, h⟩
  rcases bind_eq_ok.mp h with ⟨lastUpdatedAt, hupdated, h⟩
  rcases bind_eq_ok.mp h with ⟨version, _, h⟩
  cases h
  exact ⟨wellPlaced_of_parse (columnDatetime_eq_ok.mp hcreated),
    wellPlaced_of_parse (columnDatetime_eq_ok.mp hupdated)⟩

/--
A stored row is shown as it is exactly when its version is one and neither of its
times is within a leap second.
-/
theorem storedRow_shown_iff (row : BackgroundTaskEntry)
    (stored : Versioned BackgroundTaskSnapshot)
    (h : BackgroundTasksRegistryRow.fromRow row = .ok stored) :
    ShowsStored text texts reader (reconstituteTask stored) <->
      stored.version = 1 ∧ stored.data.createdAt.nanos.val < 1000000000 ∧
        stored.data.lastUpdatedAt.nanos.val < 1000000000 := by
  have hplaced := wellPlaced_of_fromRow h
  exact showsStored_iff text texts reader hplaced.left hplaced.right

end View

/-- A task of 1969 that has been written twice. -/
def rewrittenRow : BackgroundTaskEntry :=
  (Uuid.asBytes 1,
    { name := "sweep"
      createdAt := "1969-12-31T23:59:58.250Z"
      lastUpdatedAt := "2024-02-29T12:00:00.000Z"
      version := 2 })

def sweepName : BackgroundTaskName where
  value := "sweep"
  trimmed := by decide
  length_pos := by decide
  length_le := by decide

def rewrittenTask : Versioned BackgroundTaskSnapshot where
  data :=
    { id := 1
      name := sweepName
      createdAt := { seconds := -2, nanos := 250000000 }
      lastUpdatedAt := { seconds := 1709208000, nanos := 0 } }
  version := 2

theorem fromRow_rewrittenRow :
    BackgroundTasksRegistryRow.fromRow rewrittenRow = .ok rewrittenTask := by
  decide +kernel

def silentTexts : WireTexts where
  uuid _ := ""
  timestamp _ := ""

theorem rewrittenRow_not_shown :
    Not (forall text texts reader row stored,
      BackgroundTasksRegistryRow.fromRow row = .ok stored ->
        ShowsStored text texts reader (reconstituteTask stored)) := by
  intro h
  have hshown := h .hyphenated silentTexts .normalizing _ _ fromRow_rewrittenRow
  have hversion := (showsStored_iff .hyphenated silentTexts .normalizing
    (wellPlaced_of_fromRow fromRow_rewrittenRow).left
    (wellPlaced_of_fromRow fromRow_rewrittenRow).right).mp hshown
  exact absurd hversion.left (by decide)

theorem storedRow_shown_rewrittenRow :
    Not (ShowsStored .hyphenated silentTexts .normalizing
      (reconstituteTask rewrittenTask)) := by
  rw [storedRow_shown_iff .hyphenated silentTexts .normalizing rewrittenRow
    rewrittenTask fromRow_rewrittenRow]
  decide

end Cli
end Valqeron
