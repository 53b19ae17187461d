import Valqeron.Domain.UniqueIdentifier
import Valqeron.Sqlite.Schema
import Valqeron.Sqlite.Timestamp

/-!
# Columns read back

What a row decoder makes of the value of a column.
-/

namespace Valqeron
namespace Sqlite

open Domain

/-- A column that cannot be converted; the error carries the reason. -/
def conversionFailure {error value : Type} (message : error -> String)
    (r : Except error value) : Except SqlError value :=
  r.mapError (fun e => .other (message e))

def columnOpt {error value : Type} (message : error -> String)
    (parse : String -> Except error value) :
    Option String -> Except SqlError (Option value)
  | none => .ok none
  | some raw => (conversionFailure message (parse raw)).map some

def columnU32 (column : String) (n : Int) : Except SqlError UInt32 :=
  if 0 <= n ∧ n < 4294967296 then
    .ok (UInt32.ofNat n.toNat)
  else
    .error (.integralValueOutOfRange column)

def columnDatetime (raw : String) : Except SqlError DateTime :=
  match parseFromRfc3339 raw with
  | none => .error (.other "invalid RFC 3339 timestamp")
  | some dt => .ok dt

def columnUuid (bytes : Blob) : Except SqlError Uuid :=
  match Uuid.fromSlice bytes with
  | none => .error (.other "invalid length of a UUID")
  | some id => .ok id

theorem columnOpt_map {error value : Type} {message : error -> String}
    {parse : String -> Except error value} {text : value -> String}
    (h : forall v, parse (text v) = .ok v) (x : Option value) :
    columnOpt message parse (x.map text) = .ok x := by
  cases x with
  | none => rfl
  | some v =>
      simp only [Option.map_some, columnOpt, conversionFailure, h v]
      rfl

theorem columnU32_toNat (column : String) (n : UInt32) :
    columnU32 column (n.toNat : Int) = .ok n := by
  have hlt := n.toNat_lt
  unfold columnU32
  rw [if_pos (by omega)]
  simp

theorem columnU32_ofNat (column : String) {n : Nat} (h : n < 2 ^ 32) :
    columnU32 column (n : Int) = .ok (UInt32.ofNat n) := by
  unfold columnU32
  rw [if_pos (by omega)]
  simp

theorem columnDatetime_eq_error {raw : String} {e : SqlError}
    (h : columnDatetime raw = .error e) :
    parseFromRfc3339 raw = none ∧ e = .other "invalid RFC 3339 timestamp" := by
  unfold columnDatetime at h
  split at h
  · rename_i hparse
    cases h
    exact ⟨hparse, rfl⟩
  · cases h

theorem columnU32_eq_error {column : String} {n : Nat} {e : SqlError}
    (h : columnU32 column n = .error e) :
    2 ^ 32 <= n ∧ e = .integralValueOutOfRange column := by
  unfold columnU32 at h
  split at h
  · cases h
  · rename_i hrange
    cases h
    exact ⟨by omega, rfl⟩

theorem columnU32_eq_ok {column : String} {n : Int} {u : UInt32}
    (h : columnU32 column n = .ok u) : n = (u.toNat : Int) := by
  unfold columnU32 at h
  split at h
  · rename_i hrange
    cases h
    rw [UInt32.toNat_ofNat']
    omega
  · cases h

theorem columnDatetime_eq_ok {raw : String} {dt : DateTime} :
    columnDatetime raw = .ok dt <-> parseFromRfc3339 raw = some dt := by
  unfold columnDatetime
  cases parseFromRfc3339 raw with
  | none => simp
  | some dt' => simp

theorem columnUuid_eq_ok {bytes : Blob} {id : Uuid}
    (h : columnUuid bytes = .ok id) : Uuid.asBytes id = bytes := by
  unfold columnUuid at h
  split at h
  · cases h
  · rename_i hslice
    cases h
    exact Uuid.asBytes_of_fromSlice hslice

end Sqlite
end Valqeron
