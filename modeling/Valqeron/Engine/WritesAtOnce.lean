import Valqeron.Engine.IssuerWrites
import Valqeron.Foundation.OneChange

/-!
# Writes that change the tables at once

A service looks before it writes, writes with one statement, and may look again.
Whoever sees the committed tables meanwhile sees them from before the write or from
after it.
-/

namespace Valqeron
namespace Engine

open Foundation
open Domain
open Identifiers
open Sqlite

variable {value : Type}

theorem readOne_still (d : Db) (q : Query) :
    (SqliteIssuerRepository.readOne q).Still Command.onDb d := by
  unfold SqliteIssuerRepository.readOne withGuard
  exact ⟨rfl, rfl, rfl, trivial⟩

theorem isTaken_still {identifier : Type}
    {existsBy : identifier -> SqlProgram (Except StorageFault Bool)} {d : Db}
    (h : forall i, (existsBy i).Still Command.onDb d)
    (value : Option identifier) :
    (isTaken existsBy value).Still Command.onDb d := by
  cases value with
  | none => exact Program.still_done d _
  | some i => exact h i

theorem withBusyRetry_atOnce {op : SqlProgram (Except SqlError value)} {d : Db}
    (hop : op.AtOnce Command.onDb d)
    (hlast : forall e, (op.run Command.onDb d).2 = .error e ->
      isBusyOrLocked e = false) :
    (withBusyRetry op).AtOnce Command.onDb d := by
  unfold withBusyRetry
  rw [retryBusy_eq_retryWhile]
  apply Program.atOnce_retryWhile hop
  cases hresult : (op.run Command.onDb d).2 with
  | error e => exact hlast e hresult
  | ok v => rfl

theorem withGuard_atOnce {role : ConnectionRole} {body : SqlProgram value}
    {d : Db} (h : body.AtOnce Command.onDb d) :
    (withGuard role body).AtOnce Command.onDb d :=
  Program.atOnce_bracket (fun _ => rfl) (fun _ => rfl) h

theorem writeOutcome_still (d : Db) (id : Uuid) (expectedVersion : Nat) :
    (writeOutcome id expectedVersion).Still Command.onDb d :=
  ⟨rfl, trivial⟩

theorem execute_atOnce (s : Statement) (d : Db) :
    (execute s).AtOnce Command.onDb d :=
  Program.atOnce_perform d (Command.execute s)

theorem guardedWrite_atOnce (s : Statement) (id : Uuid)
    (expectedVersion : Nat) (d : Db) :
    (guardedWrite s id expectedVersion).AtOnce Command.onDb d := by
  unfold guardedWrite
  apply Program.AtOnce.bind_still
  · apply withBusyRetry_atOnce
    · apply withGuard_atOnce
      apply Program.AtOnce.bind_still (execute_atOnce s d)
      split
      · exact Program.still_done _ _
      · exact writeOutcome_still _ id expectedVersion
      · exact Program.still_done _ _
    · intro e he
      rw [run_withGuard, Program.run_bind, run_execute] at he
      split at he
      · rename_i happly
        cases he
        exact Statement.exec_not_busy (Statement.apply_eq_error happly)
      · exact zeroRowsOutcome_not_busy he
      · cases he
  · exact Program.still_done _ _

theorem insert_atOnce (issuer : Issuer) (d : Db) :
    (SqliteIssuerRepository.insert issuer).AtOnce Command.onDb d := by
  unfold SqliteIssuerRepository.insert
  apply Program.AtOnce.bind_still
  · apply withBusyRetry_atOnce
    · apply withGuard_atOnce
      exact execute_atOnce (insertStatement issuer) d
    · intro e he
      rw [run_withGuard, run_execute] at he
      exact Statement.exec_not_busy (Statement.apply_eq_error he)
  · exact Program.still_done _ _

/-- The guard of a service looks only, and leaves the change to the write. -/
theorem withDuplicateCheck_atOnce {write : SqlProgram (Except StorageFault value)}
    {d : Db} (hwrite : write.AtOnce Command.onDb d) (cnpj : Option Cnpj)
    (lei : Option Lei) :
    (withDuplicateCheck sqliteIssuerRepository cnpj lei write).AtOnce
      Command.onDb d := by
  unfold withDuplicateCheck
  apply Program.atOnce_bind_of_still
    (isTaken_still (fun c => readOne_still d _) cnpj)
  split
  · exact (Program.still_done d _).atOnce
  · exact (Program.still_done d _).atOnce
  · apply Program.atOnce_bind_of_still
      (isTaken_still (fun l => readOne_still d _) lei)
    split
    · exact (Program.still_done d _).atOnce
    · exact (Program.still_done d _).atOnce
    · exact Program.AtOnce.bind_still hwrite (Program.still_done _ _)

theorem program_atOnce (write : IssuerWrite) (d : Db) :
    write.program.AtOnce Command.onDb d := by
  cases write with
  | register issuer =>
      exact Program.AtOnce.bind_still
        (withDuplicateCheck_atOnce (insert_atOnce issuer d) _ _)
        (Program.still_done _ _)
  | patch id expectedVersion p =>
      exact Program.AtOnce.bind_still
        (withDuplicateCheck_atOnce (guardedWrite_atOnce _ _ _ d) _ _)
        (Program.still_done _ _)
  | delete id expectedVersion =>
      exact Program.AtOnce.bind_still (guardedWrite_atOnce _ _ _ d)
        (Program.still_done _ _)

end Engine
end Valqeron
