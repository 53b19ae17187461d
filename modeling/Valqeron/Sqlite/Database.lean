import Mathlib.Algebra.Order.Ring.Int
import Mathlib.Logic.Function.Basic
import Valqeron.Foundation.Savepoint
import Valqeron.Foundation.Transition

/-!
# The database handle and its dry runs

One writer connection sits behind a mutex; everybody else reads through
connections of their own.  A dry run opens a savepoint on the writer, lets a
closure work through a handle that is bound to that connection, and takes
everything back.  A panic leaves the mutex poisoned and the savepoint open; the
next caller of `lock_writer` repairs it.

What the database holds is a parameter.
-/

namespace Valqeron
namespace Sqlite

open Foundation

variable {db answer : Type}

def dryRunSavepoint : String := "valqeron_dry_run"

inductive DbHandle where
  | live
  | dryRun
deriving DecidableEq, Repr

namespace DbHandle

/-- `Db::read`: a pooled reader, or the connection of the dry run. -/
def query (handle : DbHandle) (s : TxnStore db) (f : db -> answer) :
    TxnStore db × answer :=
  match handle with
  | live => (s, f s.committed)
  | dryRun => (s.query, f s.view)

/-- `Db::write`: the writer connection, behind the mutex or borrowed. -/
def execute (_ : DbHandle) (s : TxnStore db) (f : db -> db × answer) :
    Option (TxnStore db × answer) :=
  s.exec f

end DbHandle

structure Writer (db : Type) where
  store : TxnStore db
  poisoned : Bool

/--
`lock_writer` once it has the mutex.  `rollbackOk` is whether the `ROLLBACK`
that the recovery of a poisoned mutex may issue succeeds.
-/
def lockWriter (rollbackOk : Bool) (w : Writer db) : Writer db :=
  if w.poisoned && !w.store.isAutocommit then
    if rollbackOk then
      { w with store := w.store.rollback.getD w.store }
    else
      w
  else
    w

/-- A statement whose failure is decided from outside. -/
def attempt (ok : Bool) (s : Option (TxnStore db)) : Option (TxnStore db) :=
  if ok then s else none

/-!
## Any number of threads

Between two steps of the thread that holds the mutex, other connections may read
and, unless the transaction has the write lock, other processes may commit.
-/

abbrev Thread := Nat

inductive Purpose where
  | write
  | dryRun
deriving DecidableEq, Repr

inductive WriterPhase where
  | idle
  /-- The mutex was poisoned, the connection has not been looked at. -/
  | recovering (purpose : Purpose)
  /-- `lock_writer` has returned the guard. -/
  | locked (purpose : Purpose)
  /-- Inside `with_dry_run_conn`. -/
  | closure
  /-- Before `ROLLBACK TO`. -/
  | rollingBack
  /-- Between `ROLLBACK TO` and `RELEASE`. -/
  | releasing
  /-- Before the plain `RELEASE`. -/
  | fallback
  /-- Only the drop of the guard is left. -/
  | unlocking
deriving DecidableEq, Repr

/-- What the operations other than dry runs did, in order. -/
inductive DbEvent (db : Type) where
  | wrote (f : db -> db)
  | observed (d : db)

structure Session (db : Type) where
  store : TxnStore db
  holder : Option Thread
  poisoned : Bool
  phase : Thread -> WriterPhase
  log : List (DbEvent db)

inductive SessionAction (db : Type) where
  | lock (t : Thread) (purpose : Purpose)
  | recover (t : Thread) (rollbackOk : Bool)
  | savepoint (t : Thread) (ok : Bool)
  | closureRead (t : Thread)
  | closureWrite (t : Thread) (f : db -> db)
  | closureEnds (t : Thread)
  | closurePanics (t : Thread)
  | rollbackTo (t : Thread) (ok : Bool)
  | release (t : Thread) (ok : Bool)
  | plainRelease (t : Thread) (ok : Bool)
  | statement (t : Thread) (f : db -> db)
  | statementPanics (t : Thread)
  | unlock (t : Thread)
  | readElsewhere
  | commitElsewhere (f : db -> db)

namespace Session

def start (d : db) : Session db where
  store := .ofCommitted d
  holder := none
  poisoned := false
  phase := fun _ => .idle
  log := []

def setPhase (s : Session db) (t : Thread) (phase : WriterPhase) :
    Session db :=
  { s with phase := Function.update s.phase t phase }

/-- The guard is dropped; a thread that unwinds poisons the mutex. -/
def dropGuard (s : Session db) (t : Thread) (panicking : Bool) : Session db :=
  { s.setPhase t .idle with
    holder := none
    poisoned := s.poisoned || panicking }

def withStore (s : Session db) (store : TxnStore db) : Session db :=
  { s with store := store }

def record (s : Session db) (event : DbEvent db) : Session db :=
  { s with log := s.log ++ [event] }

end Session

def sessionStep (s : Session db) : SessionAction db -> Option (Session db)
  | .lock t purpose =>
      match s.phase t, s.holder with
      | .idle, none =>
          let phase :=
            if s.poisoned then .recovering purpose else .locked purpose
          some { s.setPhase t phase with holder := some t }
      | _, _ => none
  | .recover t rollbackOk =>
      match s.phase t with
      | .recovering purpose =>
          let w := lockWriter rollbackOk
            { store := s.store, poisoned := s.poisoned }
          some ((s.withStore w.store).setPhase t (.locked purpose))
      | _ => none
  | .savepoint t ok =>
      match s.phase t with
      | .locked .dryRun =>
          if ok then
            some ((s.withStore (s.store.savepoint dryRunSavepoint)).setPhase t
              .closure)
          else
            some (s.setPhase t .unlocking)
      | _ => none
  | .closureRead t =>
      match s.phase t with
      | .closure =>
          some (s.withStore (DbHandle.dryRun.query s.store (fun d => d)).1)
      | _ => none
  | .closureWrite t f =>
      match s.phase t with
      | .closure =>
          match DbHandle.dryRun.execute s.store (fun d => (f d, ())) with
          | some (store, _) => some (s.withStore store)
          -- the statement fails with SQLITE_BUSY_SNAPSHOT
          | none => some s
      | _ => none
  | .closureEnds t =>
      match s.phase t with
      | .closure => some (s.setPhase t .rollingBack)
      | _ => none
  | .closurePanics t =>
      match s.phase t with
      | .closure => some (s.dropGuard t true)
      | _ => none
  | .rollbackTo t ok =>
      match s.phase t with
      | .rollingBack =>
          match attempt ok (s.store.rollbackTo dryRunSavepoint) with
          | some store => some ((s.withStore store).setPhase t .releasing)
          | none => some (s.setPhase t .fallback)
      | _ => none
  | .release t ok =>
      match s.phase t with
      | .releasing =>
          match attempt ok (s.store.release dryRunSavepoint) with
          | some store => some ((s.withStore store).setPhase t .unlocking)
          | none => some (s.setPhase t .fallback)
      | _ => none
  | .plainRelease t ok =>
      match s.phase t with
      | .fallback =>
          match attempt ok (s.store.release dryRunSavepoint) with
          | some store => some ((s.withStore store).setPhase t .unlocking)
          | none => some (s.setPhase t .unlocking)
      | _ => none
  | .statement t f =>
      match s.phase t with
      | .locked .write =>
          match DbHandle.live.execute s.store (fun d => (f d, ())) with
          | some (store, _) => some ((s.withStore store).record (.wrote f))
          | none => some s
      | _ => none
  | .statementPanics t =>
      match s.phase t with
      | .locked .write => some (s.dropGuard t true)
      | _ => none
  | .unlock t =>
      match s.phase t with
      | .locked .write => some (s.dropGuard t false)
      | .unlocking => some (s.dropGuard t false)
      | _ => none
  | .readElsewhere =>
      some (s.record
        (.observed (DbHandle.live.query s.store (fun d => d)).2))
  | .commitElsewhere f =>
      match s.store.commitElsewhere f with
      | some store => some ((s.withStore store).record (.wrote f))
      | none => none

/-- The `SAVEPOINT`, `ROLLBACK TO`, `RELEASE` and `ROLLBACK` statements succeed. -/
def StatementsSucceed (_ : Session db) : SessionAction db -> Prop
  | .recover _ rollbackOk => rollbackOk = true
  | .savepoint _ ok => ok = true
  | .rollbackTo _ ok => ok = true
  | .release _ ok => ok = true
  | _ => True

/-!
### What the other operations alone do
-/

def replay (d : db) : List (DbEvent db) -> db
  | [] => d
  | .wrote f :: rest => replay (f d) rest
  | .observed _ :: rest => replay d rest

/-- Every recorded read saw what the recorded writes before it produced. -/
def SawOnlyRecorded (d : db) : List (DbEvent db) -> Prop
  | [] => True
  | .wrote f :: rest => SawOnlyRecorded (f d) rest
  | .observed seen :: rest => seen = d ∧ SawOnlyRecorded d rest

theorem replay_append (d : db) (first second : List (DbEvent db)) :
    replay d (first ++ second) = replay (replay d first) second := by
  induction first generalizing d with
  | nil => rfl
  | cons event rest ih =>
      cases event with
      | wrote f => exact ih (f d)
      | observed seen => exact ih d

theorem sawOnlyRecorded_append {d : db} {first second : List (DbEvent db)}
    (hfirst : SawOnlyRecorded d first)
    (hsecond : SawOnlyRecorded (replay d first) second) :
    SawOnlyRecorded d (first ++ second) := by
  induction first generalizing d with
  | nil => exact hsecond
  | cons event rest ih =>
      cases event with
      | wrote f => exact ih hfirst hsecond
      | observed seen => exact ⟨hfirst.left, ih hfirst.right hsecond⟩

/-!
### The invariant

The state of the connection is determined by what the holder of the mutex is
about to do.  Only a panic leaves the savepoint open, and then the mutex is
poisoned.
-/

def ConnectionAt (poisoned : Bool) (store : TxnStore db) :
    WriterPhase -> Prop
  | .idle =>
      store.txn = none ∨ poisoned = true ∧ store.Within dryRunSavepoint
  | .recovering _ =>
      poisoned = true ∧ (store.txn = none ∨ store.Within dryRunSavepoint)
  | .locked _ => store.txn = none
  | .closure => store.Within dryRunSavepoint
  | .rollingBack => store.Within dryRunSavepoint
  | .releasing => store.Within dryRunSavepoint ∧ store.writeLocked = false
  | .fallback => False
  | .unlocking => store.txn = none

def Session.current (s : Session db) : WriterPhase :=
  match s.holder with
  | none => .idle
  | some t => s.phase t

structure Session.Isolated (d : db) (s : Session db) : Prop where
  alone : forall t, s.phase t ≠ .idle -> s.holder = some t
  connection : ConnectionAt s.poisoned s.store s.current
  committed : s.store.committed = replay d s.log
  reads : SawOnlyRecorded d s.log

namespace Session

theorem start_isolated (d : db) : (start d).Isolated d where
  alone := fun _ hphase => absurd rfl hphase
  connection := Or.inl rfl
  committed := rfl
  reads := trivial

theorem Isolated.current_eq {d : db} {s : Session db} (h : s.Isolated d)
    {t : Thread} {phase : WriterPhase} (hphase : s.phase t = phase)
    (hne : phase ≠ .idle) : s.current = phase := by
  have hholder : s.holder = some t := by
    apply h.alone t
    rw [hphase]
    exact hne
  unfold current
  rw [hholder]
  exact hphase

theorem Isolated.connectionOf {d : db} {s : Session db} (h : s.Isolated d)
    {t : Thread} {phase : WriterPhase} (hphase : s.phase t = phase)
    (hne : phase ≠ .idle) : ConnectionAt s.poisoned s.store phase := by
  have hconn := h.connection
  rw [h.current_eq hphase hne] at hconn
  exact hconn

theorem advance_isolated {d : db} {s : Session db} {t : Thread}
    {phase phase' : WriterPhase} {store : TxnStore db} (h : s.Isolated d)
    (hphase : s.phase t = phase) (hne : phase ≠ .idle)
    (hcommitted : store.committed = s.store.committed)
    (hconn : ConnectionAt s.poisoned store phase') :
    ((s.withStore store).setPhase t phase').Isolated d := by
  have hholder : s.holder = some t := by
    apply h.alone t
    rw [hphase]
    exact hne
  constructor
  · intro q hq
    by_cases hqt : q = t
    · subst q
      exact hholder
    · apply h.alone q
      simpa [setPhase, withStore, Function.update_of_ne hqt] using hq
  · simp only [current, setPhase, withStore, hholder, Function.update_self]
    exact hconn
  · exact hcommitted.trans h.committed
  · exact h.reads

theorem stay_isolated {d : db} {s : Session db} {t : Thread}
    {phase : WriterPhase} {store : TxnStore db} (h : s.Isolated d)
    (hphase : s.phase t = phase) (hne : phase ≠ .idle)
    (hcommitted : store.committed = s.store.committed)
    (hconn : ConnectionAt s.poisoned store phase) :
    (s.withStore store).Isolated d := by
  have hsame : (s.withStore store).setPhase t phase = s.withStore store := by
    unfold setPhase withStore
    rw [← hphase, Function.update_eq_self]
  rw [← hsame]
  exact advance_isolated h hphase hne hcommitted hconn

theorem dropGuard_isolated {d : db} {s : Session db} {t : Thread}
    {phase : WriterPhase} {panicking : Bool} (h : s.Isolated d)
    (hphase : s.phase t = phase) (hne : phase ≠ .idle)
    (hconn : ConnectionAt (s.poisoned || panicking) s.store .idle) :
    (s.dropGuard t panicking).Isolated d := by
  have hholder : s.holder = some t := by
    apply h.alone t
    rw [hphase]
    exact hne
  constructor
  · intro q hq
    exfalso
    by_cases hqt : q = t
    · subst q
      simp [dropGuard, setPhase] at hq
    · have hq' : s.phase q ≠ .idle := by
        simpa [dropGuard, setPhase, Function.update_of_ne hqt] using hq
      have hother := h.alone q hq'
      rw [hholder] at hother
      exact hqt (Option.some.inj hother).symm
  · exact hconn
  · exact h.committed
  · exact h.reads

theorem record_isolated {d : db} {s : Session db} {store : TxnStore db}
    {event : DbEvent db} (h : s.Isolated d)
    (hconn : ConnectionAt s.poisoned store s.current)
    (hcommitted : store.committed = replay s.store.committed [event])
    (hreads : SawOnlyRecorded s.store.committed [event]) :
    ((s.withStore store).record event).Isolated d where
  alone := h.alone
  connection := hconn
  committed := by
    show store.committed = replay d (s.log ++ [event])
    rw [replay_append, ← h.committed, hcommitted]
  reads := by
    show SawOnlyRecorded d (s.log ++ [event])
    apply sawOnlyRecorded_append h.reads
    rw [← h.committed]
    exact hreads

end Session

theorem connectionAt_commitElsewhere {poisoned : Bool}
    {store store' : TxnStore db} {f : db -> db} {phase : WriterPhase}
    (h : ConnectionAt poisoned store phase)
    (hcommit : store.commitElsewhere f = some store') :
    ConnectionAt poisoned store' phase := by
  have hnone : store.txn = none -> store'.txn = none :=
    fun htxn => TxnStore.commitElsewhere_txn_none htxn hcommit
  have hwithin : store.Within dryRunSavepoint ->
      store'.Within dryRunSavepoint :=
    fun hw => TxnStore.commitElsewhere_within hw hcommit
  cases phase with
  | idle =>
      rcases h with htxn | ⟨hpoisoned, hw⟩
      · exact Or.inl (hnone htxn)
      · exact Or.inr ⟨hpoisoned, hwithin hw⟩
  | recovering purpose =>
      refine ⟨h.left, ?_⟩
      rcases h.right with htxn | hw
      · exact Or.inl (hnone htxn)
      · exact Or.inr (hwithin hw)
  | locked purpose => exact hnone h
  | closure => exact hwithin h
  | rollingBack => exact hwithin h
  | releasing =>
      exact ⟨hwithin h.left, TxnStore.commitElsewhere_writeLocked hcommit⟩
  | fallback => exact h
  | unlocking => exact hnone h

/-- The recovery of a poisoned mutex leaves the connection in autocommit mode. -/
theorem lockWriter_autocommit {w : Writer db} (hpoisoned : w.poisoned = true) :
    (lockWriter true w).store.txn = none ∧
      (lockWriter true w).store.committed = w.store.committed := by
  unfold lockWriter
  cases htxn : w.store.txn with
  | none => simp [TxnStore.isAutocommit, htxn]
  | some t =>
      simp [hpoisoned, TxnStore.isAutocommit, htxn,
        TxnStore.rollback_of_open htxn, TxnStore.ofCommitted]

/-!
### The steps, one after another
-/

namespace Session

variable {d : db} {s s' : Session db} {t : Thread}

-- The equations of `sessionStep` are made once here, not by each of the lemmas below.
attribute [local simp] sessionStep

theorem lock_isolated {purpose : Purpose} (h : s.Isolated d)
    (hstep : sessionStep s (.lock t purpose) = some s') : s'.Isolated d := by
  simp only [sessionStep] at hstep
  split at hstep
  · rename_i hidle hfree
    cases hstep
    have hconn : ConnectionAt s.poisoned s.store .idle := by
      have hcurrent := h.connection
      unfold current at hcurrent
      rw [hfree] at hcurrent
      exact hcurrent
    constructor
    · intro q hq
      by_cases hqt : q = t
      · rw [hqt]
      · have hq' : s.phase q ≠ .idle := by
          simpa [setPhase, Function.update_of_ne hqt] using hq
        have hholder := h.alone q hq'
        rw [hfree] at hholder
        cases hholder
    · simp only [current, setPhase, Function.update_self]
      cases hpoisoned : s.poisoned with
      | true =>
          refine ⟨rfl, ?_⟩
          rcases hconn with htxn | ⟨_, hwithin⟩
          · exact Or.inl htxn
          · exact Or.inr hwithin
      | false =>
          rcases hconn with htxn | ⟨htrue, _⟩
          · exact htxn
          · rw [hpoisoned] at htrue
            cases htrue
    · exact h.committed
    · exact h.reads
  · cases hstep

theorem recover_isolated (h : s.Isolated d)
    (hstep : sessionStep s (.recover t true) = some s') : s'.Isolated d := by
  simp only [sessionStep] at hstep
  split at hstep
  · rename_i purpose hphase
    cases hstep
    have hconn := h.connectionOf hphase (by simp)
    have hrecovered := lockWriter_autocommit
      (w := { store := s.store, poisoned := s.poisoned }) hconn.left
    exact advance_isolated h hphase (by simp) hrecovered.right
      hrecovered.left
  · cases hstep

theorem savepoint_isolated (h : s.Isolated d)
    (hstep : sessionStep s (.savepoint t true) = some s') :
    s'.Isolated d := by
  simp only [sessionStep] at hstep
  split at hstep
  · rename_i hphase
    have hconn := h.connectionOf hphase (by simp)
    cases hstep
    exact advance_isolated h hphase (by simp) (by simp)
      (TxnStore.savepoint_within dryRunSavepoint hconn)
  · cases hstep

theorem closureRead_isolated (h : s.Isolated d)
    (hstep : sessionStep s (.closureRead t) = some s') : s'.Isolated d := by
  simp only [sessionStep] at hstep
  split at hstep
  · rename_i hphase
    have hconn := h.connectionOf hphase (by simp)
    cases hstep
    exact stay_isolated h hphase (by simp)
      (TxnStore.query_committed s.store) (TxnStore.query_within hconn)
  · cases hstep

theorem closureWrite_isolated {f : db -> db} (h : s.Isolated d)
    (hstep : sessionStep s (.closureWrite t f) = some s') :
    s'.Isolated d := by
  simp only [sessionStep] at hstep
  split at hstep
  · rename_i hphase
    have hconn := h.connectionOf hphase (by simp)
    split at hstep
    · rename_i store _ hexec
      cases hstep
      have hwithin := TxnStore.exec_within hconn hexec
      exact stay_isolated h hphase (by simp) hwithin.right hwithin.left
    · cases hstep
      exact h
  · cases hstep

theorem closureEnds_isolated (h : s.Isolated d)
    (hstep : sessionStep s (.closureEnds t) = some s') : s'.Isolated d := by
  simp only [sessionStep] at hstep
  split at hstep
  · rename_i hphase
    have hconn := h.connectionOf hphase (by simp)
    cases hstep
    exact advance_isolated h hphase (by simp) rfl hconn
  · cases hstep

/-- The savepoint stays open, under a poisoned mutex. -/
theorem closurePanics_isolated (h : s.Isolated d)
    (hstep : sessionStep s (.closurePanics t) = some s') :
    s'.Isolated d := by
  simp only [sessionStep] at hstep
  split at hstep
  · rename_i hphase
    have hconn := h.connectionOf hphase (by simp)
    cases hstep
    exact dropGuard_isolated h hphase (by simp) (Or.inr ⟨by simp, hconn⟩)
  · cases hstep

theorem rollbackTo_isolated (h : s.Isolated d)
    (hstep : sessionStep s (.rollbackTo t true) = some s') :
    s'.Isolated d := by
  simp only [sessionStep] at hstep
  split at hstep
  · rename_i hphase
    have hconn := h.connectionOf hphase (by simp)
    rcases TxnStore.rollbackTo_of_within hconn with
      ⟨store, hrollback, hwithin, hclean, hcommitted⟩
    simp only [attempt, hrollback, if_true] at hstep
    cases hstep
    exact advance_isolated h hphase (by simp) hcommitted ⟨hwithin, hclean⟩
  · cases hstep

theorem release_isolated (h : s.Isolated d)
    (hstep : sessionStep s (.release t true) = some s') : s'.Isolated d := by
  simp only [sessionStep] at hstep
  split at hstep
  · rename_i hphase
    have hconn := h.connectionOf hphase (by simp)
    have hrelease := TxnStore.release_of_unchanged hconn.left hconn.right
    simp only [attempt, hrelease, if_true] at hstep
    cases hstep
    exact advance_isolated h hphase (by simp) rfl rfl
  · cases hstep

/-- The fallback is not reached. -/
theorem plainRelease_isolated {ok : Bool} (h : s.Isolated d)
    (hstep : sessionStep s (.plainRelease t ok) = some s') :
    s'.Isolated d := by
  simp only [sessionStep] at hstep
  split at hstep
  · rename_i hphase
    exact (h.connectionOf hphase (by simp)).elim
  · cases hstep

theorem statement_isolated {f : db -> db} (h : s.Isolated d)
    (hstep : sessionStep s (.statement t f) = some s') : s'.Isolated d := by
  simp only [sessionStep] at hstep
  split at hstep
  · rename_i hphase
    have hconn := h.connectionOf hphase (by simp)
    have hexec := TxnStore.exec_of_autocommit hconn (fun d => (f d, ()))
    simp only [DbHandle.execute, hexec] at hstep
    cases hstep
    refine record_isolated h ?_ rfl trivial
    rw [h.current_eq hphase (by simp)]
    rfl
  · cases hstep

theorem statementPanics_isolated (h : s.Isolated d)
    (hstep : sessionStep s (.statementPanics t) = some s') :
    s'.Isolated d := by
  simp only [sessionStep] at hstep
  split at hstep
  · rename_i hphase
    have hconn := h.connectionOf hphase (by simp)
    cases hstep
    exact dropGuard_isolated h hphase (by simp) (Or.inl hconn)
  · cases hstep

theorem unlock_isolated (h : s.Isolated d)
    (hstep : sessionStep s (.unlock t) = some s') : s'.Isolated d := by
  simp only [sessionStep] at hstep
  split at hstep
  · rename_i hphase
    have hconn := h.connectionOf hphase (by simp)
    cases hstep
    exact dropGuard_isolated h hphase (by simp) (Or.inl hconn)
  · rename_i hphase
    have hconn := h.connectionOf hphase (by simp)
    cases hstep
    exact dropGuard_isolated h hphase (by simp) (Or.inl hconn)
  · cases hstep

theorem readElsewhere_isolated (h : s.Isolated d)
    (hstep : sessionStep s .readElsewhere = some s') : s'.Isolated d := by
  simp only [sessionStep] at hstep
  cases hstep
  exact record_isolated h h.connection rfl ⟨rfl, trivial⟩

theorem commitElsewhere_isolated {f : db -> db} (h : s.Isolated d)
    (hstep : sessionStep s (.commitElsewhere f) = some s') :
    s'.Isolated d := by
  simp only [sessionStep] at hstep
  split at hstep
  · rename_i store hcommit
    cases hstep
    exact record_isolated h
      (connectionAt_commitElsewhere h.connection hcommit)
      (TxnStore.commitElsewhere_committed hcommit) trivial
  · cases hstep

end Session

theorem sessionStep_isolated {d : db} {s s' : Session db}
    {a : SessionAction db} (h : s.Isolated d)
    (hcond : StatementsSucceed s a) (hstep : sessionStep s a = some s') :
    s'.Isolated d := by
  cases a with
  | lock t purpose => exact Session.lock_isolated h hstep
  | recover t rollbackOk =>
      have hok : rollbackOk = true := hcond
      subst rollbackOk
      exact Session.recover_isolated h hstep
  | savepoint t ok =>
      have hok : ok = true := hcond
      subst ok
      exact Session.savepoint_isolated h hstep
  | closureRead t => exact Session.closureRead_isolated h hstep
  | closureWrite t f => exact Session.closureWrite_isolated h hstep
  | closureEnds t => exact Session.closureEnds_isolated h hstep
  | closurePanics t => exact Session.closurePanics_isolated h hstep
  | rollbackTo t ok =>
      have hok : ok = true := hcond
      subst ok
      exact Session.rollbackTo_isolated h hstep
  | release t ok =>
      have hok : ok = true := hcond
      subst ok
      exact Session.release_isolated h hstep
  | plainRelease t ok => exact Session.plainRelease_isolated h hstep
  | statement t f => exact Session.statement_isolated h hstep
  | statementPanics t => exact Session.statementPanics_isolated h hstep
  | unlock t => exact Session.unlock_isolated h hstep
  | readElsewhere => exact Session.readElsewhere_isolated h hstep
  | commitElsewhere f => exact Session.commitElsewhere_isolated h hstep

/--
Dry runs change nothing that anybody else can see: the committed database is the
one that the other operations alone produce, every read on another connection
saw a state of that history, and whoever gets the writer connection from
`lock_writer` finds it in autocommit mode.
-/
theorem dryRun_isolated {d : db} {s : Session db}
    {acts : List (SessionAction db)}
    (hmeet : StepsMeet sessionStep StatementsSucceed (.start d) acts)
    (hrun : runFrom sessionStep (.start d) acts = some s) :
    s.store.committed = replay d s.log ∧ SawOnlyRecorded d s.log ∧
      forall t purpose, s.phase t = .locked purpose ->
        s.store.isAutocommit = true := by
  have hisolated : s.Isolated d :=
    runFrom_invariant_of_stepsMeet (Session.Isolated d)
      (fun h hcond hstep => sessionStep_isolated h hcond hstep)
      (Session.start_isolated d) hmeet hrun
  refine ⟨hisolated.committed, hisolated.reads, ?_⟩
  intro t purpose hphase
  have hconn : s.store.txn = none := hisolated.connectionOf hphase (by simp)
  unfold TxnStore.isAutocommit
  rw [hconn]
  rfl

/-- A dry run panics after a write, a reader looks, and a writer comes next. -/
def panickedRun : List (SessionAction Nat) :=
  [.lock 0 .dryRun, .savepoint 0 true, .closureRead 0,
    .closureWrite 0 (fun n => n + 7), .readElsewhere, .closurePanics 0,
    .lock 1 .write, .recover 1 true]

theorem dryRun_isolated_panickedRun :
    exists s : Session Nat,
      runFrom sessionStep (.start 0) panickedRun = some s ∧
        s.store.committed = replay 0 s.log ∧ SawOnlyRecorded 0 s.log ∧
        forall t purpose, s.phase t = .locked purpose ->
          s.store.isAutocommit = true := by
  have hrun : exists s : Session Nat,
      runFrom sessionStep (.start 0) panickedRun = some s := ⟨_, rfl⟩
  rcases hrun with ⟨s, hrun⟩
  refine ⟨s, hrun, dryRun_isolated ?_ hrun⟩
  simp [panickedRun, StepsMeet, StatementsSucceed]

end Sqlite
end Valqeron
