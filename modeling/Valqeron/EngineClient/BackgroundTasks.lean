import Valqeron.Engine.AdminService

/-!
# Background tasks on the client

What the client makes of the message for a background task.  The reading of a
wire timestamp is that of the libraries, which know of no leap second.
-/

namespace Valqeron
namespace EngineClient

open Foundation
open Domain
open Engine

inductive ClientError where
  | invalidResponse (message : String)
deriving DecidableEq, Repr

structure BackgroundTaskDetail where
  id : Uuid
  name : String
  createdAt : DateTime
  lastUpdatedAt : DateTime
deriving DecidableEq, Repr

/--
`SystemTime::try_from` of a timestamp, and the time in UTC of the outcome.  A
timestamp with nanoseconds below a second names that time, and no system time
lies within a leap second.
-/
structure TimestampReader where
  read : TimestampProto -> Option DateTime
  read_normal : forall dt : DateTime, dt.nanos.val < 1000000000 ->
    read (timestampProto dt) = some dt
  not_leap : forall ts dt, read ts = some dt -> dt.nanos.val < 1000000000

namespace TimestampReader

theorem fmod_nanos (total : Int) : (total.fmod 1000000000).toNat < 1000000000 := by
  have hlt := Int.fmod_lt_of_pos total (by decide : (0 : Int) < 1000000000)
  omega

def normalizing : TimestampReader where
  read ts :=
    let total := ts.seconds * 1000000000 + ts.nanos
    some
      { seconds := total.fdiv 1000000000
        nanos := Fin.ofNat 2000000000 (total.fmod 1000000000).toNat }
  read_normal dt h := by
    have hpos : (0 : Int) <= 1000000000 := by decide
    rcases dt with ⟨seconds, nanos⟩
    have hnanos : nanos.val < 1000000000 := h
    apply congrArg some
    simp only [timestampProto, DateTime.mk.injEq,
      Int.fdiv_eq_ediv_of_nonneg _ hpos, Int.fmod_eq_emod_of_nonneg _ hpos]
    refine ⟨by omega, ?_⟩
    apply Fin.ext
    rw [Fin.val_ofNat]
    omega
  not_leap ts dt h := by
    cases h
    have hlt := fmod_nanos (ts.seconds * 1000000000 + ts.nanos)
    simp only [Fin.val_ofNat]
    omega

end TimestampReader

/-- What the libraries say about the bytes of an id and a timestamp. -/
structure WireTexts where
  uuid : Blob -> String
  timestamp : TimestampProto -> String

section Client

variable (texts : WireTexts) (reader : TimestampReader)

def readTimestamp (field : String) (ts : TimestampProto) :
    Except ClientError DateTime :=
  match reader.read ts with
  | none =>
      .error (.invalidResponse
        ("Invalid timestamp range for " ++ field ++ ": " ++ texts.timestamp ts))
  | some dt => .ok dt

def backgroundTaskFromProto (msg : BackgroundTaskDetailProto) :
    Except ClientError BackgroundTaskDetail :=
  match Uuid.fromSlice msg.id with
  | none => .error (.invalidResponse ("Malformed UUID: " ++ texts.uuid msg.id))
  | some id =>
      match msg.createdAt with
      | none => .error (.invalidResponse "Missing created_at timestamp")
      | some ts => do
          let createdAt ← readTimestamp texts reader "created_at" ts
          let lastUpdatedAt ←
            match msg.lastUpdatedAt with
            | some ts => readTimestamp texts reader "last_updated_at" ts
            | none => .ok createdAt
          return {
            id := id
            name := msg.name
            createdAt := createdAt
            lastUpdatedAt := lastUpdatedAt }

theorem readTimestamp_eq_ok_iff {field : String} {ts : TimestampProto}
    {dt : DateTime} :
    readTimestamp texts reader field ts = .ok dt <->
      reader.read ts = some dt := by
  unfold readTimestamp
  cases reader.read ts with
  | none => simp
  | some dt' => simp

theorem backgroundTaskFromProto_convert (task : BackgroundTask)
    {detail : BackgroundTaskDetail} :
    backgroundTaskFromProto texts reader (convertBackgroundTaskToProto task) =
        .ok detail <->
      detail.id = task.id ∧ detail.name = task.name.asStr ∧
        reader.read (timestampProto task.createdAt) =
          some detail.createdAt ∧
        reader.read (timestampProto task.lastUpdatedAt) =
          some detail.lastUpdatedAt := by
  unfold backgroundTaskFromProto convertBackgroundTaskToProto
  simp only [Uuid.fromSlice_asBytes]
  constructor
  · intro h
    rcases bind_eq_ok.mp h with ⟨createdAt, hcreated, h⟩
    rcases bind_eq_ok.mp h with ⟨lastUpdatedAt, hupdated, h⟩
    cases h
    exact ⟨rfl, rfl, (readTimestamp_eq_ok_iff texts reader).mp hcreated,
      (readTimestamp_eq_ok_iff texts reader).mp hupdated⟩
  · rcases detail with ⟨id, name, createdAt, lastUpdatedAt⟩
    intro h
    rcases h with ⟨rfl, rfl, hcreated, hupdated⟩
    apply bind_eq_ok.mpr
    refine ⟨createdAt, (readTimestamp_eq_ok_iff texts reader).mpr hcreated, ?_⟩
    apply bind_eq_ok.mpr
    exact ⟨lastUpdatedAt,
      (readTimestamp_eq_ok_iff texts reader).mpr hupdated, rfl⟩

end Client

end EngineClient
end Valqeron
