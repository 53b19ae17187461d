import Mathlib.Algebra.Order.Ring.Int
import Mathlib.Data.Option.Basic

/-!
# Transactions with savepoints

A store has a committed database that every connection reads, and one connection
that may have a transaction open.  The transaction works on its own image; other
connections see nothing of it before it commits.  Savepoints nest, and the
outermost one is the transaction itself: releasing it commits.

A statement that fails leaves the store as it was, so the operations answer
`none` and the caller keeps the old store.
-/

namespace Valqeron
namespace Foundation

variable {db answer : Type}

structure Frame (db : Type) where
  name : String
  working : Option db

structure Txn (db : Type) where
  /-- The open savepoints, innermost first. -/
  frames : List (Frame db)
  /-- The committed database at the first read or write. -/
  snapshot : Option db
  /-- Another connection has committed since the snapshot. -/
  stale : Bool
  /-- The image with the changes of the transaction; `none` before the first. -/
  working : Option db

structure TxnStore (db : Type) where
  committed : db
  txn : Option (Txn db)

namespace TxnStore

def ofCommitted (d : db) : TxnStore db := { committed := d, txn := none }

def isAutocommit (s : TxnStore db) : Bool := s.txn.isNone

def view (s : TxnStore db) : db :=
  match s.txn with
  | none => s.committed
  | some t => t.working.getD (t.snapshot.getD s.committed)

def writeLocked (s : TxnStore db) : Bool :=
  match s.txn with
  | none => false
  | some t => t.working.isSome

def savepoint (s : TxnStore db) (name : String) : TxnStore db :=
  match s.txn with
  | none =>
      { s with
        txn := some
          { frames := [{ name := name, working := none }]
            snapshot := none
            stale := false
            working := none } }
  | some t =>
      { s with
        txn := some
          { t with
            frames := { name := name, working := t.working } :: t.frames } }

/-- The innermost savepoint of a name with everything outside it. -/
def Txn.framesFrom (t : Txn db) (name : String) : List (Frame db) :=
  t.frames.dropWhile (fun frame => frame.name != name)

def rollbackTo (s : TxnStore db) (name : String) : Option (TxnStore db) :=
  match s.txn with
  | none => none
  | some t =>
      match Txn.framesFrom t name with
      | [] => none
      | frame :: rest =>
          some
            { s with
              txn := some
                { t with frames := frame :: rest, working := frame.working } }

def release (s : TxnStore db) (name : String) : Option (TxnStore db) :=
  match s.txn with
  | none => none
  | some t =>
      match Txn.framesFrom t name with
      | [] => none
      | [_] => some (ofCommitted (t.working.getD s.committed))
      | _ :: rest => some { s with txn := some { t with frames := rest } }

def rollback (s : TxnStore db) : Option (TxnStore db) :=
  match s.txn with
  | none => none
  | some _ => some (ofCommitted s.committed)

/-- A read takes the snapshot of a transaction that has none. -/
def query (s : TxnStore db) : TxnStore db :=
  match s.txn with
  | none => s
  | some t =>
      { s with
        txn := some { t with snapshot := some (t.snapshot.getD s.committed) } }

/--
A write commits at once in autocommit mode.  In a transaction it changes the
image, unless the snapshot is out of date.
-/
def exec (s : TxnStore db) (f : db -> db × answer) :
    Option (TxnStore db × answer) :=
  match s.txn with
  | none => some (ofCommitted (f s.committed).1, (f s.committed).2)
  | some t =>
      if t.working.isNone && t.stale then
        none
      else
        some
          ({ s with
              txn := some
                { t with
                  snapshot := some (t.snapshot.getD s.committed)
                  working := some (f s.view).1 } },
            (f s.view).2)

/-- Another connection commits, which the write lock excludes. -/
def commitElsewhere (s : TxnStore db) (f : db -> db) : Option (TxnStore db) :=
  if s.writeLocked then
    none
  else
    some
      { committed := f s.committed
        txn := s.txn.map (fun t =>
          { t with stale := t.stale || t.snapshot.isSome }) }

/-!
## What the operations leave alone

Only a write in autocommit mode and the release of the outermost savepoint change
the committed database.
-/

@[simp] theorem savepoint_committed (s : TxnStore db) (name : String) :
    (s.savepoint name).committed = s.committed := by
  unfold savepoint
  cases s.txn with
  | none => rfl
  | some t => rfl

@[simp] theorem query_committed (s : TxnStore db) :
    s.query.committed = s.committed := by
  unfold query
  cases s.txn with
  | none => rfl
  | some t => rfl

theorem exec_of_autocommit {s : TxnStore db} (h : s.txn = none)
    (f : db -> db × answer) :
    s.exec f = some (ofCommitted (f s.committed).1, (f s.committed).2) := by
  unfold exec
  rw [h]

theorem rollback_of_open {s : TxnStore db} {t : Txn db} (h : s.txn = some t) :
    s.rollback = some (ofCommitted s.committed) := by
  unfold rollback
  rw [h]

/-!
## A transaction with one savepoint

This is the shape in which a caller that opens a savepoint in autocommit mode,
reads, writes and never opens another one keeps the store.
-/

/-- One savepoint is open, and nothing had been changed before it. -/
def Within (s : TxnStore db) (name : String) : Prop :=
  exists t, s.txn = some t ∧ t.frames = [{ name := name, working := none }]

theorem savepoint_within {s : TxnStore db} (name : String)
    (h : s.txn = none) : (s.savepoint name).Within name := by
  unfold savepoint
  rw [h]
  exact ⟨_, rfl, rfl⟩

theorem query_within {s : TxnStore db} {name : String} (h : s.Within name) :
    s.query.Within name := by
  rcases h with ⟨t, ht, hframes⟩
  unfold query
  rw [ht]
  exact ⟨_, rfl, hframes⟩

theorem exec_within {s s' : TxnStore db} {name : String} {a : answer}
    {f : db -> db × answer} (h : s.Within name)
    (hexec : s.exec f = some (s', a)) :
    s'.Within name ∧ s'.committed = s.committed := by
  rcases h with ⟨t, ht, hframes⟩
  simp only [exec, ht] at hexec
  split at hexec
  · cases hexec
  · cases hexec
    exact ⟨⟨_, rfl, hframes⟩, rfl⟩

theorem commitElsewhere_within {s s' : TxnStore db} {name : String}
    {f : db -> db} (h : s.Within name)
    (hcommit : s.commitElsewhere f = some s') : s'.Within name := by
  rcases h with ⟨t, ht, hframes⟩
  unfold commitElsewhere at hcommit
  split at hcommit
  · cases hcommit
  · cases hcommit
    exact ⟨{ t with stale := t.stale || t.snapshot.isSome }, by simp [ht],
      hframes⟩

theorem commitElsewhere_committed {s s' : TxnStore db} {f : db -> db}
    (hcommit : s.commitElsewhere f = some s') :
    s'.committed = f s.committed := by
  unfold commitElsewhere at hcommit
  split at hcommit
  · cases hcommit
  · cases hcommit
    rfl

theorem commitElsewhere_writeLocked {s s' : TxnStore db} {f : db -> db}
    (hcommit : s.commitElsewhere f = some s') : s'.writeLocked = false := by
  unfold commitElsewhere at hcommit
  split at hcommit
  · cases hcommit
  · rename_i hfree
    cases hcommit
    cases htxn : s.txn with
    | none => simp [writeLocked]
    | some t =>
        simp only [writeLocked, htxn] at hfree
        simpa [writeLocked] using hfree

theorem commitElsewhere_txn_none {s s' : TxnStore db} {f : db -> db}
    (h : s.txn = none) (hcommit : s.commitElsewhere f = some s') :
    s'.txn = none := by
  unfold commitElsewhere at hcommit
  split at hcommit
  · cases hcommit
  · cases hcommit
    rw [h]
    rfl

theorem framesFrom_of_single {t : Txn db} {name : String}
    (h : t.frames = [{ name := name, working := none }]) :
    Txn.framesFrom t name = [{ name := name, working := none }] := by
  unfold Txn.framesFrom
  rw [h]
  simp [List.dropWhile]

theorem rollbackTo_of_within {s : TxnStore db} {name : String}
    (h : s.Within name) :
    exists s', s.rollbackTo name = some s' ∧ s'.Within name ∧
      s'.writeLocked = false ∧ s'.committed = s.committed := by
  rcases h with ⟨t, ht, hframes⟩
  unfold rollbackTo
  rw [ht]
  simp only [framesFrom_of_single hframes]
  exact ⟨_, rfl, ⟨_, rfl, rfl⟩, rfl, rfl⟩

theorem release_of_within {s : TxnStore db} {t : Txn db} {name : String}
    (ht : s.txn = some t)
    (hframes : t.frames = [{ name := name, working := none }]) :
    s.release name = some (ofCommitted (t.working.getD s.committed)) := by
  unfold release
  rw [ht]
  simp only [framesFrom_of_single hframes]

theorem release_of_unchanged {s : TxnStore db} {name : String}
    (h : s.Within name) (hclean : s.writeLocked = false) :
    s.release name = some (ofCommitted s.committed) := by
  rcases h with ⟨t, ht, hframes⟩
  rw [release_of_within ht hframes]
  unfold writeLocked at hclean
  rw [ht] at hclean
  have hworking : t.working = none := by simpa using hclean
  rw [hworking]
  rfl

end TxnStore

end Foundation
end Valqeron
