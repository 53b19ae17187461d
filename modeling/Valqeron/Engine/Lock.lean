import Mathlib.Algebra.Order.Ring.Int
import Mathlib.Data.Set.Finite.Basic
import Mathlib.Data.Set.Finite.Lattice
import Mathlib.Logic.Function.Basic
import Valqeron.Foundation.Transition
import Valqeron.Foundation.Utf8

/-!
# The single-instance engine lock

`EngineLock::acquire` opens or creates the lock file, takes an advisory lock on
the opened file and records the pid; `Drop` unlinks the path and then releases
the lock.  The advisory lock belongs to the inode that was opened, while the
exclusion that is wanted is about the path.

Every caller of `acquire` is a process of its own here.  The steps of different
processes interleave freely, and a process may die between any two of them.
-/

namespace Valqeron
namespace Engine

open Foundation

abbrev Pid := Nat
abbrev Inode := Nat

inductive EngineError where
  | alreadyRunning (dbPath pid : String)
  | io (message : String)
deriving DecidableEq, Repr

/-- How far a process has come in `acquire` and in `Drop`. -/
inductive LockPhase where
  | idle
  /-- The lock file is open, `try_lock` has not run. -/
  | opened (inode : Inode)
  /-- `try_lock` succeeded, the pid is not recorded yet. -/
  | locked (inode : Inode)
  /-- `acquire` returned `Ok`. -/
  | held (inode : Inode)
  /-- `Drop` has run `remove_file`, the descriptor is still locked. -/
  | unlinked (inode : Inode)
  /-- `acquire` returned an error and closed its descriptor. -/
  | failed (error : EngineError)
  /-- `Drop` has finished, or the process is gone. -/
  | released
deriving DecidableEq, Repr

/-- The lock path of one database together with all processes that use it. -/
structure LockFs where
  /-- The inode that the lock path names. -/
  linked : Option Inode
  nextInode : Inode
  /-- The process whose descriptor holds the advisory lock of an inode. -/
  lockOwner : Inode -> Option Pid
  contents : Inode -> String
  phase : Pid -> LockPhase

/-- One step of one process; the `Fails` variants carry the error text of the OS. -/
inductive LockAction where
  | openFile (p : Pid)
  | openFails (p : Pid) (e : String)
  | tryLock (p : Pid)
  | tryLockFails (p : Pid) (e : String)
  | writePid (p : Pid)
  | writePidFails (p : Pid) (left e : String)
  | removeFile (p : Pid)
  | removeFileFails (p : Pid)
  | unlock (p : Pid)
  | kill (p : Pid)
deriving DecidableEq, Repr

namespace LockFs

def setPhase (w : LockFs) (p : Pid) (ph : LockPhase) : LockFs :=
  { w with phase := Function.update w.phase p ph }

/-- The kernel closes the descriptors of `p`, which gives up its advisory lock. -/
def closeFile (w : LockFs) (p : Pid) : LockFs :=
  { w with
    lockOwner := fun i => if w.lockOwner i = some p then none else w.lockOwner i }

/-- An error return of `acquire` drops the local `file`. -/
def fail (w : LockFs) (p : Pid) (e : EngineError) : LockFs :=
  (w.closeFile p).setPhase p (.failed e)

/-- `read_lock_pid` reads whatever the path names at that moment. -/
def readLockPid (w : LockFs) : Option String :=
  match w.linked with
  | none => none
  | some i =>
      let pid := trimText (w.contents i)
      if pid.isEmpty then none else some pid

end LockFs

/-- One step of `acquire` or `Drop` as the code orders them. -/
def lockStep (dbPath lockPath : String) (w : LockFs) : LockAction -> Option LockFs
  | .openFile p =>
      match w.phase p, w.linked with
      | .idle, some i => some (w.setPhase p (.opened i))
      | .idle, none =>
          some
            { w.setPhase p (.opened w.nextInode) with
              linked := some w.nextInode
              nextInode := w.nextInode + 1
              contents := Function.update w.contents w.nextInode "" }
      | _, _ => none
  | .openFails p e =>
      match w.phase p with
      | .idle => some (w.fail p (.io s!"opening lock file {lockPath}: {e}"))
      | _ => none
  | .tryLock p =>
      match w.phase p with
      | .opened i =>
          match w.lockOwner i with
          | none =>
              some
                { w.setPhase p (.locked i) with
                  lockOwner := Function.update w.lockOwner i (some p) }
          | some _ =>
              let pid := w.readLockPid.getD "unknown"
              some (w.fail p (.alreadyRunning dbPath pid))
      | _ => none
  | .tryLockFails p e =>
      match w.phase p with
      | .opened _ => some (w.fail p (.io s!"locking {lockPath}: {e}"))
      | _ => none
  | .writePid p =>
      match w.phase p with
      | .locked i =>
          some
            { w.setPhase p (.held i) with
              contents := Function.update w.contents i (toString p) }
      | _ => none
  | .writePidFails p left e =>
      match w.phase p with
      | .locked i =>
          some
            { w.fail p (.io s!"writing pid to {lockPath}: {e}") with
              contents := Function.update w.contents i left }
      | _ => none
  | .removeFile p =>
      match w.phase p with
      | .held i => some { w.setPhase p (.unlinked i) with linked := none }
      | _ => none
  | .removeFileFails p =>
      match w.phase p with
      | .held i => some (w.setPhase p (.unlinked i))
      | _ => none
  | .unlock p =>
      match w.phase p with
      | .unlinked _ => some ((w.closeFile p).setPhase p .released)
      | _ => none
  | .kill p => some ((w.closeFile p).setPhase p .released)

/--
Before any process starts: the path may name a file that an earlier engine left
behind, and nobody holds a lock.
-/
structure LockFs.Start (w : LockFs) : Prop where
  idle : forall p, w.phase p = .idle
  free : forall i, w.lockOwner i = none
  fresh : forall i, w.linked = some i -> i < w.nextInode

/-- `acquire` has returned `Ok` to `p`, whose `Drop` has not finished. -/
def Holds (w : LockFs) (p : Pid) : Prop :=
  exists i, w.phase p = .held i ∨ w.phase p = .unlinked i

def MutualExclusion (w : LockFs) : Prop :=
  forall p q, Holds w p -> Holds w q -> p = q

def LockPhase.Owns (ph : LockPhase) (i : Inode) : Prop :=
  ph = .locked i ∨ ph = .held i ∨ ph = .unlinked i

def LockPhase.HasOpen (ph : LockPhase) (i : Inode) : Prop :=
  ph = .opened i ∨ ph.Owns i

/--
The check that `acquire` does not make: a `try_lock` that is about to succeed is
on the inode that the path still names, and nobody is between its `remove_file`
and its unlock.
-/
def LocksLinkedInode (w : LockFs) : LockAction -> Prop
  | .tryLock p =>
      forall i, w.phase p = .opened i -> w.lockOwner i = none ->
        w.linked = some i ∧ forall q j, w.phase q ≠ .unlinked j
  | _ => True

/-!
## What one step can do

Every action is one of five moves.  The invariants below are proved from this
list and do not unfold the step function again.
-/

inductive LockMove (w : LockFs) : LockAction -> LockFs -> Prop where
  | opens {w' : LockFs} {a : LockAction} (p : Pid) (i : Inode)
      (hidle : w.phase p = .idle)
      (hphase : w'.phase = Function.update w.phase p (.opened i))
      (howner : w'.lockOwner = w.lockOwner)
      (hlinked : w'.linked = some i)
      (hfresh : (w.linked = some i ∧ w'.nextInode = w.nextInode) ∨
        (w.linked = none ∧ i = w.nextInode ∧ w'.nextInode = w.nextInode + 1)) :
      LockMove w a w'
  | locks {w' : LockFs} (p : Pid) (i : Inode)
      (hopened : w.phase p = .opened i)
      (hfree : w.lockOwner i = none)
      (hphase : w'.phase = Function.update w.phase p (.locked i))
      (howner : w'.lockOwner = Function.update w.lockOwner i (some p))
      (hlinked : w'.linked = w.linked)
      (hnext : w'.nextInode = w.nextInode) :
      LockMove w (.tryLock p) w'
  | returns {w' : LockFs} {a : LockAction} (p : Pid) (i : Inode)
      (hlocked : w.phase p = .locked i)
      (hphase : w'.phase = Function.update w.phase p (.held i))
      (howner : w'.lockOwner = w.lockOwner)
      (hlinked : w'.linked = w.linked)
      (hnext : w'.nextInode = w.nextInode) :
      LockMove w a w'
  | unlinks {w' : LockFs} {a : LockAction} (p : Pid) (i : Inode)
      (hheld : w.phase p = .held i)
      (hphase : w'.phase = Function.update w.phase p (.unlinked i))
      (howner : w'.lockOwner = w.lockOwner)
      (hlinked : w'.linked = none ∨ w'.linked = w.linked)
      (hnext : w'.nextInode = w.nextInode) :
      LockMove w a w'
  | closes {w' : LockFs} {a : LockAction} (p : Pid) (ph : LockPhase)
      (hended : ph = .released ∨ exists e, ph = .failed e)
      (hphase : w'.phase = Function.update w.phase p ph)
      (howner : w'.lockOwner =
        fun i => if w.lockOwner i = some p then none else w.lockOwner i)
      (hlinked : w'.linked = w.linked)
      (hnext : w'.nextInode = w.nextInode) :
      LockMove w a w'

theorem lockStep_move {dbPath lockPath : String} {w w' : LockFs}
    {a : LockAction} (h : lockStep dbPath lockPath w a = some w') :
    LockMove w a w' := by
  cases a with
  | openFile p =>
      simp only [lockStep] at h
      split at h
      · rename_i i hidle hlinked
        cases h
        exact .opens p i hidle rfl rfl hlinked (Or.inl ⟨hlinked, rfl⟩)
      · rename_i hidle hlinked
        cases h
        exact .opens p w.nextInode hidle rfl rfl rfl
          (Or.inr ⟨hlinked, rfl, rfl⟩)
      · cases h
  | openFails p e =>
      simp only [lockStep] at h
      split at h
      · cases h
        exact .closes p _ (Or.inr ⟨_, rfl⟩) rfl rfl rfl rfl
      · cases h
  | tryLock p =>
      simp only [lockStep] at h
      split at h
      · rename_i i hopened
        split at h
        · rename_i hfree
          cases h
          exact .locks p i hopened hfree rfl rfl rfl rfl
        · cases h
          exact .closes p _ (Or.inr ⟨_, rfl⟩) rfl rfl rfl rfl
      · cases h
  | tryLockFails p e =>
      simp only [lockStep] at h
      split at h
      · cases h
        exact .closes p _ (Or.inr ⟨_, rfl⟩) rfl rfl rfl rfl
      · cases h
  | writePid p =>
      simp only [lockStep] at h
      split at h
      · rename_i i hlocked
        cases h
        exact .returns p i hlocked rfl rfl rfl rfl
      · cases h
  | writePidFails p left e =>
      simp only [lockStep] at h
      split at h
      · cases h
        exact .closes p _ (Or.inr ⟨_, rfl⟩) rfl rfl rfl rfl
      · cases h
  | removeFile p =>
      simp only [lockStep] at h
      split at h
      · rename_i i hheld
        cases h
        exact .unlinks p i hheld rfl rfl (Or.inl rfl) rfl
      · cases h
  | removeFileFails p =>
      simp only [lockStep] at h
      split at h
      · rename_i i hheld
        cases h
        exact .unlinks p i hheld rfl rfl (Or.inr rfl) rfl
      · cases h
  | unlock p =>
      simp only [lockStep] at h
      split at h
      · cases h
        exact .closes p _ (Or.inl rfl) rfl rfl rfl rfl
      · cases h
  | kill p =>
      simp only [lockStep] at h
      cases h
      exact .closes p _ (Or.inl rfl) rfl rfl rfl rfl

/-!
## Bookkeeping invariants

They hold in every run: the kernel's owner table agrees with the phases, every
inode in use has been allocated, and only finitely many processes have started.
-/

structure LockFs.Consistent (w : LockFs) : Prop where
  owner_iff : forall i p, w.lockOwner i = some p <-> (w.phase p).Owns i
  linked_lt : forall i, w.linked = some i -> i < w.nextInode
  open_lt : forall p i, (w.phase p).HasOpen i -> i < w.nextInode
  started : {p | w.phase p ≠ .idle}.Finite

theorem LockFs.Start.consistent {w : LockFs} (h : w.Start) : w.Consistent where
  owner_iff := by
    intro i p
    simp [h.free i, h.idle p, LockPhase.Owns]
  linked_lt := h.fresh
  open_lt := by
    intro p i hopen
    simp [h.idle p, LockPhase.HasOpen, LockPhase.Owns] at hopen
  started := by
    simp [h.idle]

theorem started_update {phase : Pid -> LockPhase} (p : Pid) (ph : LockPhase)
    (h : {q | phase q ≠ .idle}.Finite) :
    {q | Function.update phase p ph q ≠ .idle}.Finite := by
  apply (h.insert p).subset
  intro q hq
  by_cases hqp : q = p
  · exact Or.inl hqp
  · right
    simpa [Function.update_of_ne hqp] using hq

theorem owner_iff_update {w : LockFs} {p : Pid} {ph : LockPhase}
    (h : w.Consistent) (hsame : forall i, ph.Owns i <-> (w.phase p).Owns i)
    (i : Inode) (q : Pid) :
    w.lockOwner i = some q <-> (Function.update w.phase p ph q).Owns i := by
  rw [h.owner_iff i q]
  by_cases hqp : q = p
  · subst q
    rw [Function.update_self]
    exact (hsame i).symm
  · rw [Function.update_of_ne hqp]

theorem open_lt_update {w : LockFs} {p : Pid} {ph : LockPhase} {n : Inode}
    (h : w.Consistent) (hn : w.nextInode <= n)
    (hph : forall i, ph.HasOpen i -> i < n) (q : Pid) (i : Inode)
    (hopen : (Function.update w.phase p ph q).HasOpen i) : i < n := by
  by_cases hqp : q = p
  · subst q
    rw [Function.update_self] at hopen
    exact hph i hopen
  · rw [Function.update_of_ne hqp] at hopen
    exact Nat.lt_of_lt_of_le (h.open_lt q i hopen) hn

theorem consistent_of_kept {w w' : LockFs} {p : Pid} {ph : LockPhase}
    (h : w.Consistent) (howns : forall i, ph.Owns i <-> (w.phase p).Owns i)
    (hopen : forall i, ph.HasOpen i -> (w.phase p).HasOpen i)
    (hphase : w'.phase = Function.update w.phase p ph)
    (howner : w'.lockOwner = w.lockOwner)
    (hlinked : w'.linked = none ∨ w'.linked = w.linked)
    (hnext : w'.nextInode = w.nextInode) : w'.Consistent := by
  constructor
  · intro j q
    rw [howner, hphase]
    exact owner_iff_update h howns j q
  · intro j hj
    rcases hlinked with hnone | hsame
    · rw [hnone] at hj
      cases hj
    · rw [hnext]
      rw [hsame] at hj
      exact h.linked_lt j hj
  · rw [hphase, hnext]
    refine open_lt_update h (Nat.le_refl _) ?_
    intro j hj
    exact h.open_lt p j (hopen j hj)
  · rw [hphase]
    exact started_update p _ h.started

theorem owner_iff_grant {w : LockFs} {p : Pid} {i : Inode}
    (h : w.Consistent) (hopened : w.phase p = .opened i)
    (hfree : w.lockOwner i = none) (j : Inode) (q : Pid) :
    Function.update w.lockOwner i (some p) j = some q <->
      (Function.update w.phase p (.locked i) q).Owns j := by
  by_cases hji : j = i
  · subst j
    rw [Function.update_self]
    by_cases hqp : q = p
    · subst q
      simp [LockPhase.Owns]
    · have hnot : ¬ (w.phase q).Owns i := by
        rw [← h.owner_iff i q, hfree]
        simp
      simp [Function.update_of_ne hqp, hnot, Ne.symm hqp]
  · rw [Function.update_of_ne hji, h.owner_iff j q]
    by_cases hqp : q = p
    · subst q
      simp [hopened, LockPhase.Owns, Ne.symm hji]
    · rw [Function.update_of_ne hqp]

theorem owner_iff_close {w : LockFs} {p : Pid} {ph : LockPhase}
    (h : w.Consistent) (hnothing : forall j, ¬ ph.HasOpen j) (j : Inode)
    (q : Pid) :
    (if w.lockOwner j = some p then none else w.lockOwner j) = some q <->
      (Function.update w.phase p ph q).Owns j := by
  by_cases hqp : q = p
  · subst q
    rw [Function.update_self]
    have hnot : ¬ ph.Owns j := fun hj => hnothing j (Or.inr hj)
    by_cases hown : w.lockOwner j = some p
    · simp [hown, hnot]
    · simp [hown, hnot]
  · rw [Function.update_of_ne hqp, ← h.owner_iff j q]
    by_cases hown : w.lockOwner j = some p
    · simp [hown, Ne.symm hqp]
    · simp [hown]

theorem consistent_of_move {w w' : LockFs} {a : LockAction}
    (h : w.Consistent) (hmove : LockMove w a w') : w'.Consistent := by
  cases hmove with
  | opens p i hidle hphase howner hlinked hfresh =>
      have hle : w.nextInode <= w'.nextInode := by
        rcases hfresh with ⟨_, hnext⟩ | ⟨_, _, hnext⟩
        · exact Nat.le_of_eq hnext.symm
        · rw [hnext]
          exact Nat.le_succ _
      have hi : i < w'.nextInode := by
        rcases hfresh with ⟨hold, hnext⟩ | ⟨_, hnew, hnext⟩
        · rw [hnext]
          exact h.linked_lt i hold
        · rw [hnext, hnew]
          exact Nat.lt_succ_self _
      constructor
      · intro j q
        rw [howner, hphase]
        exact owner_iff_update h
          (by simp [hidle, LockPhase.Owns]) j q
      · intro j hj
        rw [hlinked] at hj
        cases hj
        exact hi
      · rw [hphase]
        refine open_lt_update h hle ?_
        intro j hj
        have hji : j = i := by
          simpa [LockPhase.HasOpen, LockPhase.Owns, eq_comm] using hj
        rw [hji]
        exact hi
      · rw [hphase]
        exact started_update p _ h.started
  | locks p i hopened hfree hphase howner hlinked hnext =>
      have hi : i < w.nextInode := h.open_lt p i (Or.inl hopened)
      constructor
      · intro j q
        rw [howner, hphase]
        exact owner_iff_grant h hopened hfree j q
      · intro j hj
        rw [hlinked] at hj
        rw [hnext]
        exact h.linked_lt j hj
      · rw [hphase, hnext]
        refine open_lt_update h (Nat.le_refl _) ?_
        intro j hj
        have hji : j = i := by
          simpa [LockPhase.HasOpen, LockPhase.Owns, eq_comm] using hj
        rw [hji]
        exact hi
      · rw [hphase]
        exact started_update p _ h.started
  | returns p i hlocked hphase howner hlinked hnext =>
      refine consistent_of_kept h ?_ ?_ hphase howner (Or.inr hlinked) hnext
      · simp [hlocked, LockPhase.Owns]
      · simp [hlocked, LockPhase.HasOpen, LockPhase.Owns]
  | unlinks p i hheld hphase howner hlinked hnext =>
      refine consistent_of_kept h ?_ ?_ hphase howner hlinked hnext
      · simp [hheld, LockPhase.Owns]
      · simp [hheld, LockPhase.HasOpen, LockPhase.Owns]
  | closes p ph hended hphase howner hlinked hnext =>
      have hnothing : forall j, ¬ ph.HasOpen j := by
        intro j
        rcases hended with hreleased | ⟨e, hfailed⟩
        · simp [hreleased, LockPhase.HasOpen, LockPhase.Owns]
        · simp [hfailed, LockPhase.HasOpen, LockPhase.Owns]
      constructor
      · intro j q
        rw [howner, hphase]
        exact owner_iff_close h hnothing j q
      · rw [hlinked, hnext]
        exact h.linked_lt
      · rw [hphase, hnext]
        refine open_lt_update h (Nat.le_refl _) ?_
        intro j hj
        exact absurd hj (hnothing j)
      · rw [hphase]
        exact started_update p _ h.started

/-!
## Exclusion

When every `try_lock` that succeeds is on the linked inode, the process that has
the lock and has not begun to drop it sits on the inode that the path names.
-/

structure LockFs.Exclusive (w : LockFs) : Prop where
  consistent : w.Consistent
  linked_of_active : forall p i,
    w.phase p = .locked i ∨ w.phase p = .held i -> w.linked = some i
  unique : forall p q i j,
    (w.phase p).Owns i -> (w.phase q).Owns j -> p = q

theorem LockFs.Start.exclusive {w : LockFs} (h : w.Start) : w.Exclusive where
  consistent := h.consistent
  linked_of_active := by
    intro p i hp
    simp [h.idle p] at hp
  unique := by
    intro p q i j hp hq
    simp [h.idle p, LockPhase.Owns] at hp

theorem owns_of_active {ph : LockPhase} {i : Inode}
    (h : ph = .locked i ∨ ph = .held i) : ph.Owns i := by
  rcases h with hlocked | hheld
  · exact Or.inl hlocked
  · exact Or.inr (Or.inl hheld)

theorem unique_update {w : LockFs} {p : Pid} {ph : LockPhase}
    (h : w.Exclusive)
    (hsub : forall i, ph.Owns i -> exists j, (w.phase p).Owns j)
    (q r : Pid) (i j : Inode)
    (hq : (Function.update w.phase p ph q).Owns i)
    (hr : (Function.update w.phase p ph r).Owns j) : q = r := by
  have hback : forall s k, (Function.update w.phase p ph s).Owns k ->
      exists k', (w.phase s).Owns k' := by
    intro s k hs
    by_cases hsp : s = p
    · subst s
      rw [Function.update_self] at hs
      exact hsub k hs
    · rw [Function.update_of_ne hsp] at hs
      exact ⟨k, hs⟩
  rcases hback q i hq with ⟨i', hq'⟩
  rcases hback r j hr with ⟨j', hr'⟩
  exact h.unique q r i' j' hq' hr'

theorem linked_update {w w' : LockFs} {p : Pid} {ph : LockPhase}
    (hphase : w'.phase = Function.update w.phase p ph)
    (hself : forall i, ph = .locked i ∨ ph = .held i -> w'.linked = some i)
    (hother : forall q i, q ≠ p ->
      w.phase q = .locked i ∨ w.phase q = .held i -> w'.linked = some i)
    (q : Pid) (i : Inode) (hq : w'.phase q = .locked i ∨ w'.phase q = .held i) :
    w'.linked = some i := by
  rw [hphase] at hq
  by_cases hqp : q = p
  · subst q
    rw [Function.update_self] at hq
    exact hself i hq
  · rw [Function.update_of_ne hqp] at hq
    exact hother q i hqp hq

theorem alone_of_free {w : LockFs} (h : w.Exclusive) {i : Inode}
    (hpath : w.linked = some i) (hfree : w.lockOwner i = none)
    (hquiet : forall q j, w.phase q ≠ .unlinked j) (q : Pid) (j : Inode) :
    ¬ (w.phase q).Owns j := by
  intro hq
  have hown := (h.consistent.owner_iff j q).mpr hq
  have hactive : w.phase q = .locked j ∨ w.phase q = .held j := by
    rcases hq with hlocked | hheld | hunlinked
    · exact Or.inl hlocked
    · exact Or.inr hheld
    · exact absurd hunlinked (hquiet q j)
  have hj := h.linked_of_active q j hactive
  rw [hpath] at hj
  cases hj
  rw [hfree] at hown
  cases hown

theorem exclusive_of_move {w w' : LockFs} {a : LockAction}
    (h : w.Exclusive) (hcond : LocksLinkedInode w a)
    (hmove : LockMove w a w') : w'.Exclusive := by
  have hcons : w'.Consistent := consistent_of_move h.consistent hmove
  cases hmove with
  | opens p i hidle hphase howner hlinked hfresh =>
      refine ⟨hcons, linked_update hphase (by simp) ?_, ?_⟩
      · intro q j _ hq
        have hold := h.linked_of_active q j hq
        rcases hfresh with ⟨hsame, _⟩ | ⟨hnone, _, _⟩
        · rw [hlinked, ← hold, hsame]
        · rw [hnone] at hold
          cases hold
      · rw [hphase]
        exact unique_update h (by simp [LockPhase.Owns])
  | locks p i hopened hfree hphase howner hlinked hnext =>
      rcases hcond i hopened hfree with ⟨hpath, hquiet⟩
      have halone := alone_of_free h hpath hfree hquiet
      have hmine : forall q j, (w'.phase q).Owns j -> q = p := by
        intro q j hq
        by_contra hqp
        rw [hphase, Function.update_of_ne hqp] at hq
        exact halone q j hq
      refine ⟨hcons, linked_update hphase ?_ ?_, ?_⟩
      · intro j hself
        rcases hself with hlocked | hheld
        · cases hlocked
          rw [hlinked, hpath]
        · cases hheld
      · intro q j _ hq
        exact absurd (owns_of_active hq) (halone q j)
      · intro q r j k hq hr
        rw [hmine q j hq, hmine r k hr]
  | returns p i hlocked hphase howner hlinked hnext =>
      refine ⟨hcons, linked_update hphase ?_ ?_, ?_⟩
      · intro j hself
        rcases hself with hsame | hheld
        · cases hsame
        · cases hheld
          rw [hlinked]
          exact h.linked_of_active p i (Or.inl hlocked)
      · intro q j _ hq
        rw [hlinked]
        exact h.linked_of_active q j hq
      · rw [hphase]
        exact unique_update h (by simp [hlocked, LockPhase.Owns])
  | unlinks p i hheld hphase howner hlinked hnext =>
      have hp : (w.phase p).Owns i := Or.inr (Or.inl hheld)
      refine ⟨hcons, linked_update hphase (by simp) ?_, ?_⟩
      · intro q j hqp hq
        exact absurd (h.unique q p j i (owns_of_active hq) hp) hqp
      · rw [hphase]
        exact unique_update h (by simp [hheld, LockPhase.Owns])
  | closes p ph hended hphase howner hlinked hnext =>
      have hnothing : forall j, ¬ ph.Owns j := by
        intro j
        rcases hended with hreleased | ⟨e, hfailed⟩
        · simp [hreleased, LockPhase.Owns]
        · simp [hfailed, LockPhase.Owns]
      refine ⟨hcons, linked_update hphase ?_ ?_, ?_⟩
      · intro j hself
        exact absurd (owns_of_active hself) (hnothing j)
      · intro q j _ hq
        rw [hlinked]
        exact h.linked_of_active q j hq
      · rw [hphase]
        refine unique_update h ?_
        intro j hj
        exact absurd hj (hnothing j)

theorem LockFs.Exclusive.mutualExclusion {w : LockFs} (h : w.Exclusive) :
    MutualExclusion w := by
  intro p q hp hq
  rcases hp with ⟨i, hp⟩
  rcases hq with ⟨j, hq⟩
  exact h.unique p q i j (Or.inr hp) (Or.inr hq)

/--
Two processes never hold the engine lock together in a run in which every
`try_lock` that succeeds is on the inode that the path still names.
-/
theorem engineLock_mutualExclusion {dbPath lockPath : String}
    {w w' : LockFs} {acts : List LockAction} (hstart : w.Start)
    (hmeet : StepsMeet (lockStep dbPath lockPath) LocksLinkedInode w acts)
    (hrun : runFrom (lockStep dbPath lockPath) w acts = some w') :
    MutualExclusion w' :=
  (runFrom_invariant_of_stepsMeet LockFs.Exclusive
    (fun h hcond hstep => exclusive_of_move h hcond (lockStep_move hstep))
    hstart.exclusive hmeet hrun).mutualExclusion

def LockFs.empty : LockFs where
  linked := none
  nextInode := 0
  lockOwner := fun _ => none
  contents := fun _ => ""
  phase := fun _ => .idle

theorem LockFs.empty_start : LockFs.empty.Start where
  idle := fun _ => rfl
  free := fun _ => rfl
  fresh := by
    intro i hi
    cases hi

theorem engineLock_mutualExclusion_reacquired :
    exists w,
      runFrom (lockStep "v.db" "v.db.lock") LockFs.empty
        [.openFile 1, .tryLock 1, .writePid 1, .removeFile 1, .unlock 1,
          .openFile 2, .tryLock 2, .writePid 2] = some w ∧
        MutualExclusion w := by
  have hrun : exists w,
      runFrom (lockStep "v.db" "v.db.lock") LockFs.empty
        [.openFile 1, .tryLock 1, .writePid 1, .removeFile 1, .unlock 1,
          .openFile 2, .tryLock 2, .writePid 2] = some w := ⟨_, rfl⟩
  rcases hrun with ⟨w, hrun⟩
  refine ⟨w, hrun, engineLock_mutualExclusion LockFs.empty_start ?_ hrun⟩
  simp [StepsMeet, lockStep, LocksLinkedInode, LockFs.empty, LockFs.setPhase,
    LockFs.closeFile]
  constructor
  · intro q j
    by_cases hq : q = 1 <;> simp [hq]
  · intro q j
    by_cases hq : q = 2
    · simp [hq]
    · by_cases hq' : q = 1 <;> simp [hq, hq']

/--
A starter that opened the file before the holder unlinked it locks the unlinked
inode, and the next starter locks a fresh one: both then run.
-/
theorem engineLock_two_holders :
    ¬ forall (dbPath lockPath : String) (w w' : LockFs)
        (acts : List LockAction),
      w.Start -> runFrom (lockStep dbPath lockPath) w acts = some w' ->
        MutualExclusion w' := by
  intro h
  have hboth := h "v.db" "v.db.lock" LockFs.empty _
    [.openFile 1, .tryLock 1, .writePid 1, .openFile 2, .removeFile 1,
      .unlock 1, .tryLock 2, .writePid 2, .openFile 3, .tryLock 3,
      .writePid 3] LockFs.empty_start rfl
  have hpair : (2 : Pid) = 3 :=
    hboth 2 3 ⟨0, Or.inl rfl⟩ ⟨1, Or.inl rfl⟩
  cases hpair

/-!
## The condition is the exact one

A `try_lock` that breaks the condition is not harmless: from the state it leads
to, a few more steps give two holders.
-/

theorem exists_idle {w : LockFs} (h : w.Consistent) (p : Pid) :
    exists r, r ≠ p ∧ w.phase r = .idle := by
  rcases (h.started.insert p).exists_notMem with ⟨r, hr⟩
  refine ⟨r, ?_, ?_⟩
  · intro hrp
    exact hr (Or.inl hrp)
  · by_contra hphase
    exact hr (Or.inr hphase)

theorem not_mutualExclusion_of_two {w : LockFs} {p q : Pid} (hpq : p ≠ q)
    (hp : Holds w p) (hq : Holds w q) : ¬ MutualExclusion w := by
  intro h
  exact hpq (h p q hp hq)

theorem acquire_of_free (dbPath lockPath : String) {w : LockFs} {p : Pid}
    {i : Inode} (hopened : w.phase p = .opened i)
    (hfree : w.lockOwner i = none) :
    exists w',
      runFrom (lockStep dbPath lockPath) w [.tryLock p, .writePid p] =
          some w' ∧
        w'.phase = Function.update w.phase p (.held i) ∧
        w'.lockOwner = Function.update w.lockOwner i (some p) ∧
        w'.linked = w.linked ∧ w'.nextInode = w.nextInode := by
  refine
    ⟨{ w with
        phase := Function.update w.phase p (.held i)
        lockOwner := Function.update w.lockOwner i (some p)
        contents := Function.update w.contents i (toString p) },
      ?_, rfl, rfl, rfl, rfl⟩
  simp [runFrom, lockStep, hopened, hfree, LockFs.setPhase]

theorem writePid_of_locked (dbPath lockPath : String) {w : LockFs} {q : Pid}
    {j : Inode} (hlocked : w.phase q = .locked j) :
    exists w', lockStep dbPath lockPath w (.writePid q) = some w' ∧
      w'.phase = Function.update w.phase q (.held j) := by
  refine
    ⟨{ w.setPhase q (.held j) with
        contents := Function.update w.contents j (toString q) }, ?_, rfl⟩
  simp only [lockStep, hlocked]

theorem openFile_of_idle (dbPath lockPath : String) {w : LockFs} {r : Pid}
    (hidle : w.phase r = .idle) :
    exists w' j,
      lockStep dbPath lockPath w (.openFile r) = some w' ∧
        w'.phase = Function.update w.phase r (.opened j) ∧
        w'.lockOwner = w.lockOwner ∧
        (w.linked = some j ∨ w.linked = none ∧ j = w.nextInode) := by
  cases hlinked : w.linked with
  | none =>
      refine
        ⟨{ w.setPhase r (.opened w.nextInode) with
            linked := some w.nextInode
            nextInode := w.nextInode + 1
            contents := Function.update w.contents w.nextInode "" },
          w.nextInode, ?_, rfl, rfl, Or.inr ⟨rfl, rfl⟩⟩
      simp only [lockStep, hidle, hlinked]
  | some j =>
      refine ⟨w.setPhase r (.opened j), j, ?_, rfl, rfl, Or.inl rfl⟩
      simp only [lockStep, hidle, hlinked]

/--
After `p` has locked an inode that the path no longer names, either somebody
already owns the linked inode, or a new starter can come to own it.
-/
theorem staleLock_reaches_two_holders {dbPath lockPath : String}
    {w : LockFs} {p : Pid} (h : w.Consistent)
    (hstale : ¬ LocksLinkedInode w (.tryLock p)) :
    exists acts w',
      runFrom (lockStep dbPath lockPath) w (.tryLock p :: acts) = some w' ∧
        ¬ MutualExclusion w' := by
  simp only [LocksLinkedInode, not_forall] at hstale
  rcases hstale with ⟨i, hopened, hfree, hbad⟩
  rcases acquire_of_free dbPath lockPath
    hopened hfree with ⟨w₂, hacquire, hphase₂, howner₂, hlinked₂, hnext₂⟩
  have hp₂ : Holds w₂ p := ⟨i, Or.inl (by rw [hphase₂]; simp)⟩
  have hkeep : forall q, q ≠ p -> w₂.phase q = w.phase q := by
    intro q hqp
    rw [hphase₂, Function.update_of_ne hqp]
  by_cases hdropping : exists q j, w.phase q = .unlinked j
  · rcases hdropping with ⟨q, j, hq⟩
    have hqp : q ≠ p := by
      intro hqp
      rw [hqp, hopened] at hq
      cases hq
    have hq₂ : Holds w₂ q := ⟨j, Or.inr (by rw [hkeep q hqp, hq])⟩
    exact ⟨[.writePid p], w₂, hacquire,
      not_mutualExclusion_of_two hqp hq₂ hp₂⟩
  · have hmoved : w.linked ≠ some i := by
      intro hlinked
      apply hbad
      refine ⟨hlinked, ?_⟩
      intro q j hq
      exact hdropping ⟨q, j, hq⟩
    rcases exists_idle h p with ⟨r, hrp, hidle⟩
    have hidle₂ : w₂.phase r = .idle := by rw [hkeep r hrp, hidle]
    rcases openFile_of_idle dbPath lockPath hidle₂
      with ⟨w₃, j, hopen, hphase₃, howner₃, htarget⟩
    have hji : j ≠ i := by
      intro hji
      rcases htarget with hsome | ⟨_, hfresh⟩
      · apply hmoved
        rw [← hlinked₂, hsome, hji]
      · have hlt := h.open_lt p i (Or.inl hopened)
        rw [← hji, hfresh, hnext₂] at hlt
        exact Nat.lt_irrefl _ hlt
    have hp₃ : w₃.phase p = .held i := by
      rw [hphase₃, Function.update_of_ne (Ne.symm hrp), hphase₂]
      simp
    have howner : w₃.lockOwner j = w.lockOwner j := by
      rw [howner₃, howner₂, Function.update_of_ne hji]
    cases hj : w.lockOwner j with
    | none =>
        have hr₃ : w₃.phase r = .opened j := by
          rw [hphase₃]
          simp
        rw [hj] at howner
        rcases acquire_of_free dbPath lockPath
          hr₃ howner with ⟨w₄, hsecond, hphase₄, _⟩
        refine ⟨.writePid p :: .openFile r :: [.tryLock r, .writePid r], w₄,
          ?_, not_mutualExclusion_of_two (Ne.symm hrp)
            ⟨i, Or.inl ?_⟩ ⟨j, Or.inl ?_⟩⟩
        · have hrest := runFrom_cons_of_step [.tryLock r, .writePid r] hopen
          exact runFrom_append hacquire (hrest.trans hsecond)
        · rw [hphase₄, Function.update_of_ne (Ne.symm hrp), hp₃]
        · rw [hphase₄]
          simp
    | some q =>
        have howns : (w.phase q).Owns j := (h.owner_iff j q).mp hj
        have hqp : q ≠ p := by
          intro hqp
          rw [hqp, hopened] at howns
          simp [LockPhase.Owns] at howns
        rcases howns with hlocked | hheld | hunlinked
        · have hq₂ : w₂.phase q = .locked j := by rw [hkeep q hqp, hlocked]
          rcases writePid_of_locked dbPath lockPath
            hq₂ with ⟨w₄, hwrite, hphase₄⟩
          refine ⟨[.writePid p, .writePid q], w₄, ?_,
            not_mutualExclusion_of_two (Ne.symm hqp)
              ⟨i, Or.inl ?_⟩ ⟨j, Or.inl ?_⟩⟩
          · exact runFrom_append hacquire (runFrom_cons_of_step [] hwrite)
          · rw [hphase₄, Function.update_of_ne (Ne.symm hqp), hphase₂]
            simp
          · rw [hphase₄]
            simp
        · exact ⟨[.writePid p], w₂, hacquire,
            not_mutualExclusion_of_two hqp
              ⟨j, Or.inl (by rw [hkeep q hqp, hheld])⟩ hp₂⟩
        · exact absurd ⟨q, j, hunlinked⟩ hdropping

end Engine
end Valqeron
