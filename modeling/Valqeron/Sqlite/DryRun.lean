import Valqeron.Sqlite.Database

/-!
# The cleanup of a dry run

`dry_run` ends with one batch of two statements and, when the batch fails, with a
plain `RELEASE`.  Each of the three statements may fail.  This module follows one
dry run from `lock_writer` to the drop of the guard and asks for which outcomes
nothing of it survives.
-/

namespace Valqeron
namespace Sqlite

open Foundation

variable {db : Type}

/-- A statement of the closure, sent through the handle of the dry run. -/
inductive DryRunOp (db : Type) where
  | read
  | write (f : db -> db)

/-- What a closure does with its handle, and whether it unwinds in the end. -/
structure DryRunClosure (db : Type) where
  ops : List (DryRunOp db)
  panics : Bool

/-- Which of the cleanup statements succeed. -/
structure CleanupOutcome where
  rollbackTo : Bool
  release : Bool
  plainRelease : Bool
deriving DecidableEq, Repr

namespace DryRunOp

def run (op : DryRunOp db) (s : TxnStore db) : TxnStore db :=
  match op with
  | read => (DbHandle.dryRun.query s (fun d => d)).1
  | write f =>
      match DbHandle.dryRun.execute s (fun d => (f d, ())) with
      | some (s', _) => s'
      | none => s

def apply (op : DryRunOp db) (d : db) : db :=
  match op with
  | read => d
  | write f => f d

end DryRunOp

namespace DryRunClosure

def run (f : DryRunClosure db) (s : TxnStore db) : TxnStore db :=
  f.ops.foldl (fun s op => op.run s) s

def apply (f : DryRunClosure db) (d : db) : db :=
  f.ops.foldl (fun d op => op.apply d) d

/-- The closure without its statements. -/
def silent (f : DryRunClosure db) : DryRunClosure db := { f with ops := [] }

end DryRunClosure

/-- What `dry_run` does once its closure has returned. -/
def cleanup (c : CleanupOutcome) (s : TxnStore db) : TxnStore db :=
  let plainRelease (s : TxnStore db) : TxnStore db :=
    (attempt c.plainRelease (s.release dryRunSavepoint)).getD s
  match attempt c.rollbackTo (s.rollbackTo dryRunSavepoint) with
  | none => plainRelease s
  | some rolledBack =>
      match attempt c.release (rolledBack.release dryRunSavepoint) with
      | none => plainRelease rolledBack
      | some released => released

/-- `dry_run` on the writer connection, up to the drop of its guard. -/
def dryRun (w : Writer db) (f : DryRunClosure db) (c : CleanupOutcome) :
    Writer db :=
  let locked := lockWriter true w
  let s := f.run (locked.store.savepoint dryRunSavepoint)
  if f.panics then
    { store := s, poisoned := true }
  else
    { locked with store := cleanup c s }

inductive WriterOp (db : Type) where
  | write (f : db -> db)
  | dryRun (f : DryRunClosure db) (c : CleanupOutcome)

namespace WriterOp

def run (w : Writer db) (op : WriterOp db) : Writer db :=
  match op with
  | write f =>
      let locked := lockWriter true w
      match DbHandle.live.execute locked.store (fun d => (f d, ())) with
      | some (store, _) => { locked with store := store }
      | none => locked
  | dryRun f c => Sqlite.dryRun w f c

end WriterOp

def runWriterOps (w : Writer db) (ops : List (WriterOp db)) : Writer db :=
  ops.foldl WriterOp.run w

def Writer.ofCommitted (d : db) (poisoned : Bool) : Writer db :=
  { store := .ofCommitted d, poisoned := poisoned }

/--
No write of the closure is ever committed: now and after any later operations,
the committed database is the one that the closure without its statements leaves.
-/
def NeverCommitted (w : Writer db) (f : DryRunClosure db)
    (c : CleanupOutcome) : Prop :=
  forall later,
    (runWriterOps (dryRun w f c) later).store.committed =
      (runWriterOps (dryRun w f.silent c) later).store.committed

/--
A dry run that returns leaves the connection outside any transaction, and the
next write is committed.
-/
def LeavesAutocommit (w : Writer db) (f : DryRunClosure db)
    (c : CleanupOutcome) : Prop :=
  f.panics = false ->
    (dryRun w f c).store.isAutocommit = true ∧
      forall g, ((WriterOp.write g).run (dryRun w f c)).store.committed =
        g (dryRun w f c).store.committed

/--
The closure unwinds, or its changes are rolled back and one `RELEASE` succeeds,
or only the plain `RELEASE` succeeds and there is nothing to commit.
-/
def CleanupSuffices (d : db) (f : DryRunClosure db)
    (c : CleanupOutcome) : Prop :=
  f.panics = true ∨
    c.rollbackTo = true ∧ (c.release = true ∨ c.plainRelease = true) ∨
    c.rollbackTo = false ∧ c.plainRelease = true ∧ f.apply d = d

/-!
## Inside the savepoint

While the closure runs, nobody else commits, so the image of the transaction is
the closure's own work on the committed database.
-/

structure InDryRun (d image : db) (s : TxnStore db) : Prop where
  committed : s.committed = d
  txn : exists t, s.txn = some t ∧
    t.frames = [{ name := dryRunSavepoint, working := none }] ∧
    t.stale = false ∧ t.snapshot.getD d = d ∧ t.working.getD d = image

theorem InDryRun.within {d image : db} {s : TxnStore db}
    (h : InDryRun d image s) : s.Within dryRunSavepoint := by
  rcases h.txn with ⟨t, ht, hframes, _⟩
  exact ⟨t, ht, hframes⟩

theorem InDryRun.view_eq {d image : db} {s : TxnStore db}
    (h : InDryRun d image s) : s.view = image := by
  rcases h.txn with ⟨t, ht, _, _, hsnapshot, hworking⟩
  unfold TxnStore.view
  rw [ht]
  simp only [h.committed, hsnapshot]
  exact hworking

theorem savepoint_inDryRun (d : db) :
    InDryRun d d
      ((TxnStore.ofCommitted d).savepoint dryRunSavepoint) where
  committed := rfl
  txn := ⟨_, rfl, rfl, rfl, rfl, rfl⟩

theorem query_inDryRun {d image : db} {s : TxnStore db}
    (h : InDryRun d image s) : InDryRun d image s.query := by
  rcases h.txn with ⟨t, ht, hframes, hstale, hsnapshot, hworking⟩
  constructor
  · rw [TxnStore.query_committed, h.committed]
  · refine ⟨{ t with snapshot := some (t.snapshot.getD s.committed) }, ?_,
      hframes, hstale, ?_, hworking⟩
    · simp [TxnStore.query, ht]
    · simpa [h.committed] using hsnapshot

theorem exec_inDryRun {answer : Type} {d image : db} {s : TxnStore db}
    (h : InDryRun d image s) (f : db -> db × answer) :
    exists s', s.exec f = some (s', (f image).2) ∧
      InDryRun d (f image).1 s' := by
  rcases h.txn with ⟨t, ht, hframes, hstale, hsnapshot, hworking⟩
  rw [← h.view_eq]
  refine ⟨{ s with
    txn := some
      { t with
        snapshot := some (t.snapshot.getD s.committed)
        working := some (f s.view).1 } }, ?_, ?_⟩
  · simp [TxnStore.exec, ht, hstale]
  · constructor
    · exact h.committed
    · refine ⟨_, rfl, hframes, hstale, ?_, rfl⟩
      simpa [h.committed] using hsnapshot

theorem dryRunOp_inDryRun {d image : db} {s : TxnStore db}
    (op : DryRunOp db) (h : InDryRun d image s) :
    InDryRun d (op.apply image) (op.run s) := by
  cases op with
  | read => exact query_inDryRun h
  | write f =>
      rcases exec_inDryRun h (fun d => (f d, ())) with ⟨s', hexec, hin⟩
      simp only [DryRunOp.run, DbHandle.execute, hexec]
      exact hin

theorem foldl_inDryRun {d image : db} {s : TxnStore db}
    (ops : List (DryRunOp db)) (h : InDryRun d image s) :
    InDryRun d (ops.foldl (fun d op => op.apply d) image)
      (ops.foldl (fun s op => op.run s) s) := by
  induction ops generalizing image s with
  | nil => exact h
  | cons op rest ih => exact ih (dryRunOp_inDryRun op h)

theorem closure_inDryRun (d : db) (f : DryRunClosure db) :
    InDryRun d (f.apply d)
      (f.run ((TxnStore.ofCommitted d).savepoint dryRunSavepoint)) :=
  foldl_inDryRun f.ops (savepoint_inDryRun d)

theorem release_inDryRun {d image : db} {s : TxnStore db}
    (h : InDryRun d image s) :
    s.release dryRunSavepoint = some (.ofCommitted image) := by
  rcases h.txn with ⟨t, ht, hframes, _, _, hworking⟩
  rw [TxnStore.release_of_within ht hframes, h.committed, hworking]

/-!
## The outcomes of the cleanup
-/

theorem cleanup_of_rollback {d image : db} {s : TxnStore db}
    {c : CleanupOutcome} (h : InDryRun d image s)
    (hrollback : c.rollbackTo = true)
    (hrelease : c.release = true ∨ c.plainRelease = true) :
    cleanup c s = .ofCommitted d := by
  rcases TxnStore.rollbackTo_of_within h.within with
    ⟨s', hs', hwithin, hclean, hcommitted⟩
  have hreleased := TxnStore.release_of_unchanged hwithin hclean
  rw [hcommitted, h.committed] at hreleased
  unfold cleanup attempt
  simp only [hrollback, hs', hreleased, if_true]
  rcases hrelease with hrelease | hrelease
  · simp [hrelease]
  · cases c.release <;> simp [hrelease]

theorem cleanup_of_plainRelease {d image : db} {s : TxnStore db}
    {c : CleanupOutcome} (h : InDryRun d image s)
    (hrollback : c.rollbackTo = false) (hrelease : c.plainRelease = true) :
    cleanup c s = .ofCommitted image := by
  simp [cleanup, attempt, hrollback, hrelease, release_inDryRun h]

/-- When no `RELEASE` succeeds the transaction stays open. -/
theorem cleanup_of_stuck {d image : db} {s : TxnStore db}
    {c : CleanupOutcome} (h : InDryRun d image s)
    (hstuck : c.plainRelease = false ∧
      (c.rollbackTo = false ∨ c.release = false)) :
    (cleanup c s).isAutocommit = false := by
  have hopen : forall {u : TxnStore db}, u.Within dryRunSavepoint ->
      u.isAutocommit = false := by
    intro u hu
    rcases hu with ⟨t, ht, _⟩
    simp [TxnStore.isAutocommit, ht]
  rcases hstuck with ⟨hplain, hrest⟩
  cases hrollback : c.rollbackTo with
  | false =>
      simpa [cleanup, attempt, hrollback, hplain] using hopen h.within
  | true =>
      have hrelease : c.release = false := by
        rcases hrest with hfalse | hfalse
        · rw [hrollback] at hfalse
          cases hfalse
        · exact hfalse
      rcases TxnStore.rollbackTo_of_within h.within with
        ⟨s', hs', hwithin, _, _⟩
      simpa [cleanup, attempt, hrollback, hplain, hrelease, hs'] using
        hopen hwithin

theorem lockWriter_ofCommitted (d : db) (poisoned : Bool) :
    lockWriter true (Writer.ofCommitted d poisoned) =
      Writer.ofCommitted d poisoned := by
  simp [lockWriter, Writer.ofCommitted, TxnStore.ofCommitted,
    TxnStore.isAutocommit]

theorem dryRun_of_returns {d : db} {poisoned : Bool} {f : DryRunClosure db}
    (c : CleanupOutcome) (hreturns : f.panics = false) :
    dryRun (Writer.ofCommitted d poisoned) f c =
      { store := cleanup c
          (f.run ((TxnStore.ofCommitted d).savepoint dryRunSavepoint))
        poisoned := poisoned } := by
  unfold dryRun
  rw [lockWriter_ofCommitted, hreturns]
  rfl

/-- The next caller of `lock_writer` discards what an unwound closure left. -/
theorem lockWriter_dryRun_of_panics (d : db) (poisoned : Bool)
    {f : DryRunClosure db} (c : CleanupOutcome) (hpanics : f.panics = true) :
    (dryRun (Writer.ofCommitted d poisoned) f c).store.committed = d ∧
      lockWriter true (dryRun (Writer.ofCommitted d poisoned) f c) =
        Writer.ofCommitted d true := by
  have hin := closure_inDryRun d f
  rcases hin.txn with ⟨t, ht, _⟩
  unfold dryRun
  rw [lockWriter_ofCommitted, hpanics]
  constructor
  · exact hin.committed
  · have hopen : (f.run ((TxnStore.ofCommitted d).savepoint
        dryRunSavepoint)).isAutocommit = false := by
      simp [TxnStore.isAutocommit, ht]
    simp only [if_true, lockWriter, Writer.ofCommitted] at hopen ⊢
    simp [hopen, TxnStore.rollback_of_open ht, hin.committed]

theorem writerOp_run_lockWriter (w : Writer db) (op : WriterOp db) :
    op.run (lockWriter true w) = op.run w := by
  have hidem : lockWriter true (lockWriter true w) = lockWriter true w := by
    cases hpoisoned : w.poisoned with
    | false => simp [lockWriter, hpoisoned]
    | true =>
        have hauto := (lockWriter_autocommit hpoisoned).left
        generalize lockWriter true w = v at hauto
        simp [lockWriter, TxnStore.isAutocommit, hauto]
  cases op with
  | write f => simp only [WriterOp.run, hidem]
  | dryRun f c => simp only [WriterOp.run, dryRun, hidem]

theorem runWriterOps_committed_eq {w w' : Writer db}
    (hcommitted : w.store.committed = w'.store.committed)
    (hlocked : lockWriter true w = lockWriter true w')
    (later : List (WriterOp db)) :
    (runWriterOps w later).store.committed =
      (runWriterOps w' later).store.committed := by
  cases later with
  | nil => exact hcommitted
  | cons op rest =>
      unfold runWriterOps
      rw [List.foldl_cons, List.foldl_cons, ← writerOp_run_lockWriter w op,
        hlocked, writerOp_run_lockWriter]

theorem write_of_autocommit {w : Writer db} (h : w.store.txn = none)
    (g : db -> db) :
    ((WriterOp.write g).run w).store.committed = g w.store.committed := by
  have hlocked : lockWriter true w = w := by
    simp [lockWriter, TxnStore.isAutocommit, h]
  simp [WriterOp.run, hlocked, DbHandle.execute,
    TxnStore.exec_of_autocommit h, TxnStore.ofCommitted]

/-!
## When a dry run is fail-safe
-/

/-- An unwound dry run is repaired before the connection is used again. -/
theorem neverCommitted_of_panics {d : db} {poisoned : Bool}
    {f : DryRunClosure db} (c : CleanupOutcome) (hpanics : f.panics = true) :
    NeverCommitted (.ofCommitted d poisoned) f c := by
  have hwith := lockWriter_dryRun_of_panics d poisoned c hpanics
  have hwithout := lockWriter_dryRun_of_panics d poisoned (f := f.silent) c
    hpanics
  intro later
  apply runWriterOps_committed_eq
  · rw [hwith.left, hwithout.left]
  · rw [hwith.right, hwithout.right]

theorem neverCommitted_of_eq {w : Writer db} {f : DryRunClosure db}
    {c : CleanupOutcome} (h : dryRun w f c = dryRun w f.silent c) :
    NeverCommitted w f c := by
  intro later
  rw [h]

theorem leavesAutocommit_of_eq {w : Writer db} {f : DryRunClosure db}
    {c : CleanupOutcome} (h : f.panics = false -> (dryRun w f c).store.txn = none) :
    LeavesAutocommit w f c := by
  intro hreturns
  have hnone := h hreturns
  refine ⟨?_, write_of_autocommit hnone⟩
  simp [TxnStore.isAutocommit, hnone]

theorem dryRun_of_suffices {d : db} (poisoned : Bool) {f : DryRunClosure db}
    {c : CleanupOutcome} (hreturns : f.panics = false)
    (h : CleanupSuffices d f c) :
    dryRun (.ofCommitted d poisoned) f c = .ofCommitted d poisoned := by
  have hin := closure_inDryRun d f
  rw [dryRun_of_returns c hreturns]
  rcases h with hpanics | ⟨hrollback, hrelease⟩ | ⟨hrollback, hplain, hsame⟩
  · rw [hreturns] at hpanics
    cases hpanics
  · rw [cleanup_of_rollback hin hrollback hrelease]
    rfl
  · rw [cleanup_of_plainRelease hin hrollback hplain, hsame]
    rfl

theorem cleanupSuffices_silent {d : db} {f : DryRunClosure db}
    {c : CleanupOutcome} (h : CleanupSuffices d f c) :
    CleanupSuffices d f.silent c := by
  rcases h with hpanics | hrolledBack | ⟨hrollback, hplain, _⟩
  · exact Or.inl hpanics
  · exact Or.inr (Or.inl hrolledBack)
  · exact Or.inr (Or.inr ⟨hrollback, hplain, rfl⟩)

theorem failSafe_of_suffices {d : db} {poisoned : Bool}
    {f : DryRunClosure db} {c : CleanupOutcome} (h : CleanupSuffices d f c) :
    NeverCommitted (.ofCommitted d poisoned) f c ∧
      LeavesAutocommit (.ofCommitted d poisoned) f c := by
  cases hpanics : f.panics with
  | true =>
      refine ⟨neverCommitted_of_panics c hpanics, ?_⟩
      intro hreturns
      rw [hpanics] at hreturns
      cases hreturns
  | false =>
      have hwith := dryRun_of_suffices poisoned hpanics h
      have hwithout := dryRun_of_suffices poisoned
        (f := f.silent) hpanics (cleanupSuffices_silent h)
      constructor
      · exact neverCommitted_of_eq (hwith.trans hwithout.symm)
      · apply leavesAutocommit_of_eq
        intro _
        rw [hwith]
        rfl

theorem suffices_of_failSafe {d : db} {poisoned : Bool}
    {f : DryRunClosure db} {c : CleanupOutcome}
    (hnever : NeverCommitted (.ofCommitted d poisoned) f c)
    (hleaves : LeavesAutocommit (.ofCommitted d poisoned) f c) :
    CleanupSuffices d f c := by
  cases hpanics : f.panics with
  | true => exact Or.inl hpanics
  | false =>
      have hin := closure_inDryRun d f
      have hauto := (hleaves hpanics).left
      rw [dryRun_of_returns c hpanics] at hauto
      have hnotStuck : ¬ (c.plainRelease = false ∧
          (c.rollbackTo = false ∨ c.release = false)) := by
        intro hstuck
        rw [cleanup_of_stuck hin hstuck] at hauto
        cases hauto
      cases hrollback : c.rollbackTo with
      | true =>
          refine Or.inr (Or.inl ⟨hrollback, ?_⟩)
          cases hplain : c.plainRelease with
          | true => exact Or.inr rfl
          | false =>
              left
              by_contra hrelease
              exact hnotStuck ⟨hplain, Or.inr (by simpa using hrelease)⟩
      | false =>
          have hplain : c.plainRelease = true := by
            by_contra hplain
            exact hnotStuck ⟨by simpa using hplain, Or.inl hrollback⟩
          refine Or.inr (Or.inr ⟨hrollback, hplain, ?_⟩)
          have hnow := hnever []
          have hwithout := closure_inDryRun d f.silent
          simp only [runWriterOps, List.foldl_nil] at hnow
          rw [dryRun_of_returns c hpanics,
            dryRun_of_returns (f := f.silent) c hpanics,
            cleanup_of_plainRelease hin hrollback hplain,
            cleanup_of_plainRelease hwithout hrollback hplain] at hnow
          exact hnow

/--
For every closure and every outcome of the cleanup statements: nothing of the
dry run is ever committed and the connection is left usable exactly when the
closure unwinds, or its changes were rolled back and a `RELEASE` succeeded, or a
plain `RELEASE` succeeded and there was nothing to roll back.
-/
theorem dryRun_failSafe_iff (d : db) (poisoned : Bool)
    (f : DryRunClosure db) (c : CleanupOutcome) :
    NeverCommitted (.ofCommitted d poisoned) f c ∧
        LeavesAutocommit (.ofCommitted d poisoned) f c <->
      CleanupSuffices d f c := by
  constructor
  · intro h
    exact suffices_of_failSafe h.left h.right
  · exact failSafe_of_suffices

/--
`ROLLBACK TO` fails and the plain `RELEASE` succeeds: the write of the closure is
committed.
-/
theorem dryRun_commits_on_fallback :
    ¬ forall (db : Type) (d : db) (poisoned : Bool) (f : DryRunClosure db)
        (c : CleanupOutcome),
      NeverCommitted (.ofCommitted d poisoned) f c ∧
        LeavesAutocommit (.ofCommitted d poisoned) f c := by
  intro h
  have hnever := (h Nat 0 false
    { ops := [.write (fun n => n + 1)], panics := false }
    { rollbackTo := false, release := true, plainRelease := true }).left []
  have hwrong : (1 : Nat) = 0 := hnever
  cases hwrong

end Sqlite
end Valqeron
