import Mathlib.Algebra.Order.Ring.Int
import Mathlib.Logic.Function.Basic
import Valqeron.Foundation.Transition
import Valqeron.Engine.Lock

/-!
# Boot, serve and the order of the drops

Every phase of the boot sequence is a struct that owns the lock, and from
`open_database` on also the storage facade.  Which of the two goes first when a
phase fails is decided by Rust's drop rules, and in `serve` by the order of its
statements and by whoever still holds a clone of the engine.

The lock itself is taken here as the exclusive lock that it is meant to be.
-/

namespace Valqeron
namespace Engine

open Foundation

/-- A value of the main thread whose drop matters. -/
inductive Owned where
  | config
  | lock
  | storage
  | listener
  | runtime
  /-- The connections of an engine, or of an unfinished `open_with_config`. -/
  | connections
deriving DecidableEq, Repr

/-- Struct fields drop in the order of their declaration. -/
def dropStruct (fields : List Owned) : List Owned := fields

/-- Locals drop in the reverse order of their declaration. -/
def dropLocals (locals : List Owned) : List Owned := locals.reverse

/-!
## The phase structs, with their fields in declaration order
-/

def lockedFields : List Owned := [.config, .lock]

def socketReadyFields : List Owned := [.config, .lock]

def databaseOpenFields : List Owned := [.config, .lock, .storage]

def boundFields : List Owned := [.config, .lock, .storage, .listener]

def valqeronEngineFields : List Owned :=
  [.config, .lock, .storage, .listener, .runtime]

/-- The locals of `serve` once `listener` has been moved into `run_loop`. -/
def serveLocals : List Owned := [.config, .lock, .storage, .runtime]

attribute [simp] dropStruct dropLocals lockedFields socketReadyFields
  databaseOpenFields boundFields valqeronEngineFields serveLocals

inductive BootPoint where
  | bootstrap
  | locked
  | socketReady
  /-- Inside `AsyncStorage::open`. -/
  | opening
  | databaseOpen
  | bound
  | built
  /-- Inside `runtime.block_on(run_loop(..))`. -/
  | serving
  /-- `run_loop` has returned, the runtime is still up. -/
  | drained
  /-- `shutdown_timeout` has returned. -/
  | stopped
  /-- Inside or behind the match on `storage.into_engine()`. -/
  | reclaimed
  /-- Only the drops of a return or of an unwinding are left. -/
  | returning
  | ended
deriving DecidableEq, Repr

structure Process where
  point : BootPoint
  /-- The values in scope, in the order in which leaving the scope drops them. -/
  owned : List Owned
  /-- The drops that the main thread is performing. -/
  leaving : List Owned
  /-- Open SQLite connections of this process, the writer and the readers. -/
  connections : Nat
  /-- Clones of the facade outside the main thread's own locals. -/
  clones : Nat
  /-- Storage closures on the blocking pool, each with its `Arc` of the engine. -/
  closures : Nat
  /-- A pool thread or task that dropped the last `Arc` is closing the database. -/
  closing : Bool
  result : Option (Except EngineError Unit)

inductive BootAction where
  | prepareSocket
  | prepareSocketFails (e : EngineError)
  | openConnection
  | openDatabase
  | openDatabaseFails (e : EngineError)
  | bindSocket
  | bindSocketFails (e : EngineError)
  | buildRuntime
  | buildRuntimeFails (e : EngineError)
  | serve
  | cloneStorage
  | dropClone
  | spawnClosure
  | endClosure
  | closeConnection
  | runLoopReturns (r : Except EngineError Unit)
  | runLoopPanics
  | shutdownTimeout
  | intoEngine
  | dropLock
  | dropNext
  | exit
  | kill

namespace Process

def start : Process where
  point := .bootstrap
  owned := []
  leaving := []
  connections := 0
  clones := 0
  closures := 0
  closing := false
  result := none

def HoldsLock (e : Process) : Prop := .lock ∈ e.leaving ++ e.owned

instance (e : Process) : Decidable e.HoldsLock :=
  inferInstanceAs (Decidable (_ ∈ _))

/-- `?` on an error: the phase struct `self` is dropped, field by field. -/
def fail (e : Process) (fields : List Owned) (err : EngineError) : Process :=
  { e with
    point := .returning
    owned := []
    leaving := dropStruct fields
    result := some (.error err) }

/-- The number of `Arc`s of the engine once the main thread gave up one of its own. -/
def otherArcs (e : Process) (rest : List Owned) : Nat :=
  (rest ++ e.owned).count .storage + e.clones + e.closures

/-- A clone or a closure goes away; the last one takes the database with it. -/
def dropArc (e : Process) : Process :=
  if e.otherArcs e.leaving = 0 then { e with closing := true } else e

def dropNext (e : Process) : Option Process :=
  match e.leaving with
  | [] => none
  | .storage :: rest =>
      if e.otherArcs rest = 0 then
        some { e with leaving := .connections :: rest }
      else
        some { e with leaving := rest }
  | .connections :: rest =>
      if e.connections = 0 then
        some { e with leaving := rest }
      else
        some { e with connections := e.connections - 1 }
  | .runtime :: rest =>
      -- dropping the runtime waits for its tasks and for its blocking pool
      if e.clones = 0 ∧ e.closures = 0 ∧ e.closing = false then
        some { e with leaving := rest }
      else
        none
  | .config :: rest => some { e with leaving := rest }
  | .listener :: rest => some { e with leaving := rest }
  | .lock :: rest => some { e with leaving := rest }

end Process

/-- One step of an engine process that has the lock. -/
def bootStep (readerPoolSize : Nat) (e : Process) :
    BootAction -> Option Process
  | .prepareSocket =>
      match e.point with
      | .locked =>
          some
            { e with
              point := .socketReady
              owned := dropStruct socketReadyFields }
      | _ => none
  | .prepareSocketFails err =>
      match e.point with
      | .locked => some (e.fail lockedFields err)
      | _ => none
  | .openConnection =>
      match e.point with
      | .socketReady => some { e with point := .opening, connections := 1 }
      | .opening =>
          if e.connections < readerPoolSize + 1 then
            some { e with connections := e.connections + 1 }
          else
            none
      | _ => none
  | .openDatabase =>
      match e.point with
      | .opening =>
          if e.connections = readerPoolSize + 1 then
            some
              { e with
                point := .databaseOpen
                owned := dropStruct databaseOpenFields }
          else
            none
      | _ => none
  | .openDatabaseFails err =>
      match e.point with
      | .socketReady => some (e.fail socketReadyFields err)
      | .opening =>
          -- the locals of `open_with_config` go before `self`
          some (e.fail (.connections :: socketReadyFields) err)
      | _ => none
  | .bindSocket =>
      match e.point with
      | .databaseOpen =>
          some { e with point := .bound, owned := dropStruct boundFields }
      | _ => none
  | .bindSocketFails err =>
      match e.point with
      | .databaseOpen => some (e.fail databaseOpenFields err)
      | _ => none
  | .buildRuntime =>
      match e.point with
      | .bound =>
          some
            { e with
              point := .built
              owned := dropStruct valqeronEngineFields }
      | _ => none
  | .buildRuntimeFails err =>
      match e.point with
      | .bound => some (e.fail boundFields err)
      | _ => none
  | .serve =>
      match e.point with
      | .built =>
          some
            { e with
              point := .serving
              owned := dropLocals serveLocals
              clones := e.clones + 1 }
      | _ => none
  | .cloneStorage =>
      if 0 < e.clones then some { e with clones := e.clones + 1 } else none
  | .dropClone =>
      if 0 < e.clones then
        some { e with clones := e.clones - 1 }.dropArc
      else
        none
  | .spawnClosure =>
      if 0 < e.clones ∧ .runtime ∈ e.owned then
        some { e with closures := e.closures + 1 }
      else
        none
  | .endClosure =>
      if 0 < e.closures then
        some { e with closures := e.closures - 1 }.dropArc
      else
        none
  | .closeConnection =>
      if e.closing = true then
        some
          { e with
            connections := e.connections - 1
            closing := 1 < e.connections }
      else
        none
  | .runLoopReturns r =>
      match e.point with
      | .serving =>
          if 0 < e.clones then
            some
              { e with
                point := .drained
                clones := e.clones - 1
                result := some r }
          else
            none
      | _ => none
  | .runLoopPanics =>
      match e.point with
      | .serving =>
          if 0 < e.clones then
            some
              { e with
                point := .returning
                owned := []
                leaving := dropLocals serveLocals
                clones := e.clones - 1 }
          else
            none
      | _ => none
  | .shutdownTimeout =>
      match e.point with
      | .drained =>
          some
            { e with
              point := .stopped
              owned := e.owned.erase .runtime }
      | _ => none
  | .intoEngine =>
      match e.point with
      | .stopped =>
          let rest := e.owned.erase .storage
          let e' := { e with point := .reclaimed, owned := rest }
          -- `Ok(engine)` is dropped in its arm, `Err(_still_shared)` with it
          if e'.otherArcs [] = 0 then
            some { e' with leaving := [.connections] }
          else
            some { e' with leaving := [.storage] }
      | _ => none
  | .dropLock =>
      match e.point, e.leaving with
      | .reclaimed, [] =>
          some
            { e with
              point := .returning
              owned := []
              leaving := .lock :: e.owned.erase .lock }
      | _, _ => none
  | .dropNext => e.dropNext
  | .exit =>
      match e.point, e.leaving with
      | .returning, [] =>
          some { Process.start with point := .ended, result := e.result }
      | _, _ => none
  | .kill =>
      if e.point = .bootstrap then
        none
      else
        some { Process.start with point := .ended, result := e.result }

/-!
## Several processes on one database
-/

/-- All engine processes that are ever started, and the owner of the lock. -/
structure Fleet where
  process : Pid -> Process
  lockOwner : Option Pid

inductive FleetAction where
  | acquireLock (p : Pid)
  | step (p : Pid) (a : BootAction)

def Fleet.start : Fleet where
  process := fun _ => .start
  lockOwner := none

/-- The owner gives the lock up when its process no longer holds it. -/
def Fleet.update (w : Fleet) (p : Pid) (e : Process) : Fleet where
  process := Function.update w.process p e
  lockOwner :=
    if w.lockOwner = some p ∧ ¬ e.HoldsLock then none else w.lockOwner

def fleetStep (readerPoolSize : Nat) (w : Fleet) : FleetAction -> Option Fleet
  | .acquireLock p =>
      match (w.process p).point, w.lockOwner with
      | .bootstrap, none =>
          some
            { process := Function.update w.process p
                { w.process p with
                  point := .locked
                  owned := dropStruct lockedFields }
              lockOwner := some p }
      | _, _ => none
  | .step p a =>
      match bootStep readerPoolSize (w.process p) a with
      | none => none
      | some e => some (w.update p e)

def LockOutlivesDatabase (w : Fleet) : Prop :=
  forall p, (w.process p).connections ≠ 0 -> w.lockOwner = some p

def SingleOpener (w : Fleet) : Prop :=
  forall p q, (w.process p).connections ≠ 0 ->
    (w.process q).connections ≠ 0 -> p = q

/--
No phase fails between the opening of the database and `serve`, and a lock is
dropped only when no clone and no closure still holds the engine.
-/
def ReleasesClosed (e : Process) : BootAction -> Prop
  | .bindSocketFails _ => e.point ≠ .databaseOpen
  | .buildRuntimeFails _ => e.point ≠ .bound
  | .dropNext =>
      e.leaving.head? = some .lock ->
        e.clones = 0 ∧ e.closures = 0 ∧ e.closing = false
  | _ => True

def FleetReleasesClosed (w : Fleet) : FleetAction -> Prop
  | .acquireLock _ => True
  | .step p a => ReleasesClosed (w.process p) a

instance (e : Process) (a : BootAction) : Decidable (ReleasesClosed e a) := by
  cases a <;> unfold ReleasesClosed <;> infer_instance

instance (w : Fleet) (a : FleetAction) : Decidable (FleetReleasesClosed w a) := by
  cases a <;> unfold FleetReleasesClosed <;> infer_instance

/-!
## What holds at each point

`Shape` lists what the main thread owns, in drop order.  Once `serve` runs, or a
phase has failed, nothing that keeps the database open comes after the lock.
-/

def LockLast : List Owned -> Prop
  | [] => True
  | .lock :: rest => .lock ∉ rest ∧ .storage ∉ rest ∧ .connections ∉ rest
  | _ :: rest => LockLast rest

theorem lockLast_cons {x : Owned} {rest : List Owned} (hx : x ≠ .lock) :
    LockLast (x :: rest) <-> LockLast rest := by
  cases x with
  | lock => exact absurd rfl hx
  | config => rfl
  | storage => rfl
  | listener => rfl
  | runtime => rfl
  | connections => rfl

theorem lockLast_of_notMem {l : List Owned} (h : .lock ∉ l) : LockLast l := by
  induction l with
  | nil => trivial
  | cons x rest ih =>
      rw [List.mem_cons, not_or] at h
      exact (lockLast_cons (Ne.symm h.left)).mpr (ih h.right)

namespace Process

def Quiet (e : Process) : Prop :=
  e.clones = 0 ∧ e.closures = 0 ∧ e.closing = false

def HasEngine (e : Process) : Prop :=
  .storage ∈ e.leaving ++ e.owned ∨ .connections ∈ e.leaving ∨ ¬ e.Quiet

def Shape (e : Process) : Prop :=
  match e.point with
  | .bootstrap => e.leaving = [] ∧ e.owned = []
  | .locked => e.leaving = [] ∧ e.owned = lockedFields
  | .socketReady => e.leaving = [] ∧ e.owned = socketReadyFields
  | .opening => e.leaving = [] ∧ e.owned = socketReadyFields
  | .databaseOpen => e.leaving = [] ∧ e.owned = databaseOpenFields
  | .bound => e.leaving = [] ∧ e.owned = boundFields
  | .built => e.leaving = [] ∧ e.owned = valqeronEngineFields
  | .serving => e.leaving = [] ∧ e.owned = dropLocals serveLocals
  | .drained => e.leaving = [] ∧ e.owned = dropLocals serveLocals
  | .stopped => e.leaving = [] ∧ e.owned = [.storage, .lock, .config]
  | .reclaimed =>
      (e.leaving = [.connections] ∨ e.leaving = [.storage] ∨ e.leaving = []) ∧
        e.owned = [.lock, .config]
  | .returning => e.owned = [] ∧ LockLast e.leaving
  | .ended => e.leaving = [] ∧ e.owned = []

structure Ordered (e : Process) : Prop where
  shape : e.Shape
  guarded : e.HoldsLock ∨ e.connections = 0 ∧ e.Quiet
  owner : e.connections ≠ 0 -> e.point = .opening ∨ e.HasEngine

theorem start_ordered : Process.start.Ordered := by
  constructor <;> simp [start, Shape, Quiet]

theorem ended_ordered (r : Option (Except EngineError Unit)) :
    Ordered { Process.start with point := .ended, result := r } := by
  constructor <;> simp [start, Shape, Quiet]

theorem fail_ordered {e : Process} {fields : List Owned} (err : EngineError)
    (hlast : LockLast fields) (hlock : .lock ∈ fields)
    (hconn : e.connections ≠ 0 -> ¬ e.Quiet ∨ .connections ∈ fields) :
    (e.fail fields err).Ordered := by
  constructor
  · exact ⟨rfl, hlast⟩
  · left
    simpa [HoldsLock, fail] using hlock
  · intro hne
    right
    rcases hconn hne with hbusy | hmem
    · exact Or.inr (Or.inr hbusy)
    · exact Or.inr (Or.inl hmem)

/-!
### The drops
-/

theorem otherArcs_eq_zero {e : Process} {rest : List Owned} :
    e.otherArcs rest = 0 <->
      .storage ∉ rest ++ e.owned ∧ e.clones = 0 ∧ e.closures = 0 := by
  simp only [otherArcs, Nat.add_eq_zero_iff, List.count_eq_zero, and_assoc]

/-- The main thread drops values in two places only. -/
theorem shape_of_leaving {e : Process} {x : Owned} {rest : List Owned}
    (h : e.Shape) (hleaving : e.leaving = x :: rest) :
    (e.point = .reclaimed ∧ e.owned = [.lock, .config] ∧ rest = [] ∧
        (x = .connections ∨ x = .storage)) ∨
      (e.point = .returning ∧ e.owned = [] ∧ LockLast (x :: rest)) := by
  simp only [Shape, hleaving] at h
  split at h
  case h_11 hpoint =>
    left
    simp_all
    tauto
  case h_12 hpoint =>
    right
    exact ⟨hpoint, h⟩
  all_goals simp at h

theorem shape_leave {e : Process} {x : Owned} {rest next : List Owned}
    (h : e.Shape) (hleaving : e.leaving = x :: rest) (hlock : x ≠ .lock)
    (hnext : next = rest ∨ next = .connections :: rest) :
    Shape { e with leaving := next } := by
  rcases shape_of_leaving h hleaving with
    ⟨hpoint, howned, hrest, _⟩ | ⟨hpoint, howned, hlast⟩
  · simp only [Shape, hpoint]
    refine ⟨?_, howned⟩
    rcases hnext with hnext | hnext
    · simp [hnext, hrest]
    · simp [hnext, hrest]
  · simp only [Shape, hpoint]
    rw [lockLast_cons hlock] at hlast
    refine ⟨howned, ?_⟩
    rcases hnext with hnext | hnext
    · rw [hnext]
      exact hlast
    · rw [hnext, lockLast_cons (by simp)]
      exact hlast

theorem leave_ordered {e : Process} {x : Owned} {rest : List Owned}
    (h : e.Ordered) (hleaving : e.leaving = x :: rest) (hlock : x ≠ .lock)
    (hstorage : x = .storage -> e.otherArcs rest ≠ 0)
    (hconn : x = .connections -> e.connections = 0) :
    Ordered { e with leaving := rest } := by
  constructor
  · exact shape_leave h.shape hleaving hlock (Or.inl rfl)
  · rcases h.guarded with hheld | hclosed
    · left
      simpa [HoldsLock, hleaving, Ne.symm hlock] using hheld
    · exact Or.inr hclosed
  · intro hne
    rcases h.owner hne with hopening | hengine
    · exact Or.inl hopening
    · right
      rcases hengine with hmem | hmem | hbusy
      · by_cases hx : x = .storage
        · have harcs := hstorage hx
          rw [Ne, otherArcs_eq_zero] at harcs
          by_cases hrest : .storage ∈ rest ++ e.owned
          · exact Or.inl hrest
          · refine Or.inr (Or.inr ?_)
            intro hquiet
            exact harcs ⟨hrest, hquiet.left, hquiet.right.left⟩
        · left
          simpa [hleaving, Ne.symm hx] using hmem
      · by_cases hx : x = .connections
        · exact absurd (hconn hx) hne
        · right
          left
          simpa [hleaving, Ne.symm hx] using hmem
      · exact Or.inr (Or.inr hbusy)

theorem reclaim_ordered {e : Process} {rest : List Owned}
    (h : e.Ordered) (hleaving : e.leaving = .storage :: rest) :
    Ordered { e with leaving := .connections :: rest } := by
  constructor
  · exact shape_leave h.shape hleaving (by simp) (Or.inr rfl)
  · rcases h.guarded with hheld | hclosed
    · left
      simpa [HoldsLock, hleaving] using hheld
    · exact Or.inr hclosed
  · intro _
    exact Or.inr (Or.inr (Or.inl (by simp)))

theorem leave_lock_ordered {e : Process} {rest : List Owned}
    (h : e.Ordered) (hleaving : e.leaving = .lock :: rest)
    (hquiet : e.Quiet) :
    Ordered { e with leaving := rest } := by
  rcases shape_of_leaving h.shape hleaving with
    ⟨_, _, _, hx⟩ | ⟨hreturning, howned, hnolock, hnostorage, hnoconn⟩
  · simp at hx
  have hclosed : e.connections = 0 := by
    by_contra hne
    rcases h.owner hne with hopening | hmem | hmem | hbusy
    · rw [hreturning] at hopening
      cases hopening
    · simp [hleaving, howned, hnostorage] at hmem
    · simp [hleaving, hnoconn] at hmem
    · exact hbusy hquiet
  constructor
  · simp only [Shape, hreturning]
    exact ⟨howned, lockLast_of_notMem hnolock⟩
  · exact Or.inr ⟨hclosed, hquiet⟩
  · intro hne
    exact absurd hclosed hne

theorem dropNext_ordered {e e' : Process} (h : e.Ordered)
    (hcond : ReleasesClosed e .dropNext) (hstep : e.dropNext = some e') :
    e'.Ordered := by
  unfold dropNext at hstep
  split at hstep
  · cases hstep
  · rename_i rest hleaving
    split at hstep
    · cases hstep
      exact reclaim_ordered h hleaving
    · rename_i harcs
      cases hstep
      exact leave_ordered h hleaving (by simp) (fun _ => harcs) (by simp)
  · rename_i rest hleaving
    split at hstep
    · rename_i hzero
      cases hstep
      exact leave_ordered h hleaving (by simp) (by simp) (fun _ => hzero)
    · rename_i hopen
      cases hstep
      refine ⟨h.shape, ?_, ?_⟩
      · rcases h.guarded with hheld | hclosed
        · exact Or.inl hheld
        · exact absurd hclosed.left hopen
      · intro _
        exact Or.inr (Or.inr (Or.inl (by simp [hleaving])))
  · rename_i rest hleaving
    split at hstep
    · cases hstep
      exact leave_ordered h hleaving (by simp) (by simp) (by simp)
    · cases hstep
  · rename_i rest hleaving
    cases hstep
    exact leave_ordered h hleaving (by simp) (by simp) (by simp)
  · rename_i rest hleaving
    cases hstep
    exact leave_ordered h hleaving (by simp) (by simp) (by simp)
  · rename_i rest hleaving
    cases hstep
    exact leave_lock_ordered h hleaving (hcond (by simp [hleaving]))

/-!
### The other threads
-/

theorem thread_ordered {e e' : Process} (h : e.Ordered)
    (hbusy : ¬ (e.connections = 0 ∧ e.Quiet)) (hpoint : e'.point = e.point)
    (howned : e'.owned = e.owned) (hleaving : e'.leaving = e.leaving)
    (howner : e'.connections ≠ 0 -> e'.HasEngine) : e'.Ordered := by
  constructor
  · simpa only [Shape, hpoint, howned, hleaving] using h.shape
  · left
    rcases h.guarded with hheld | hclosed
    · simpa only [HoldsLock, howned, hleaving] using hheld
    · exact absurd hclosed hbusy
  · intro hne
    exact Or.inr (howner hne)

theorem dropArc_hasEngine (e : Process) : e.dropArc.HasEngine := by
  unfold dropArc
  split
  · right
    right
    simp [Quiet]
  · rename_i harcs
    rw [otherArcs_eq_zero] at harcs
    by_cases hmem : .storage ∈ e.leaving ++ e.owned
    · exact Or.inl hmem
    · refine Or.inr (Or.inr ?_)
      intro hquiet
      exact harcs ⟨hmem, hquiet.left, hquiet.right.left⟩

theorem dropArc_ordered {e e' : Process} (h : e.Ordered)
    (hbusy : ¬ e.Quiet) (hpoint : e'.point = e.point)
    (howned : e'.owned = e.owned) (hleaving : e'.leaving = e.leaving) :
    e'.dropArc.Ordered := by
  refine thread_ordered h (fun hclosed => hbusy hclosed.right) ?_ ?_ ?_
    (fun _ => dropArc_hasEngine e')
  · rw [← hpoint]
    unfold dropArc
    split <;> rfl
  · rw [← howned]
    unfold dropArc
    split <;> rfl
  · rw [← hleaving]
    unfold dropArc
    split <;> rfl

end Process

/-!
### One step of a process
-/

namespace Process

theorem phase_ordered {e e' : Process} (h : e.Ordered) (hshape : e'.Shape)
    (hlock : e'.HoldsLock) (hpoint : e.point ≠ .opening)
    (hconn : e'.connections = e.connections)
    (hengine : e.HasEngine -> e'.HasEngine) : e'.Ordered := by
  refine ⟨hshape, Or.inl hlock, ?_⟩
  intro hne
  rw [hconn] at hne
  rcases h.owner hne with hopening | howner
  · exact absurd hopening hpoint
  · exact Or.inr (hengine howner)

theorem engine_ordered {e : Process} (hshape : e.Shape) (hlock : e.HoldsLock)
    (hengine : e.HasEngine) : e.Ordered :=
  ⟨hshape, Or.inl hlock, fun _ => Or.inr hengine⟩

theorem owner_ordered {e : Process} (hshape : e.Shape)
    (hlock : .lock ∈ e.owned) (hstorage : .storage ∈ e.owned) : e.Ordered :=
  engine_ordered hshape (List.mem_append_right _ hlock)
    (Or.inl (List.mem_append_right _ hstorage))

/-!
### The boot phases
-/

variable {e e' : Process} {readerPoolSize : Nat}

-- The equations of `bootStep` are made once here, not by each of the lemmas below.
attribute [local simp] bootStep

theorem prepareSocket_ordered (h : e.Ordered)
    (hstep : bootStep readerPoolSize e .prepareSocket = some e') :
    e'.Ordered := by
  have hshape := h.shape
  simp only [bootStep] at hstep
  split at hstep
  · rename_i hpoint
    cases hstep
    simp only [Shape, hpoint] at hshape
    refine phase_ordered h ⟨hshape.left, rfl⟩ ?_ (by simp [hpoint]) rfl ?_
    · simp [HoldsLock]
    · simp [HasEngine, Quiet, hshape.left, hshape.right]
  · cases hstep

theorem openConnection_ordered (h : e.Ordered)
    (hstep : bootStep readerPoolSize e .openConnection = some e') :
    e'.Ordered := by
  have hshape := h.shape
  simp only [bootStep] at hstep
  split at hstep
  · rename_i hpoint
    cases hstep
    simp only [Shape, hpoint] at hshape
    refine ⟨hshape, Or.inl ?_, fun _ => Or.inl rfl⟩
    simp [HoldsLock, hshape.left, hshape.right]
  · rename_i hpoint
    simp only [Shape, hpoint] at hshape
    split at hstep
    · cases hstep
      refine ⟨?_, Or.inl ?_, fun _ => Or.inl hpoint⟩
      · simpa only [Shape, hpoint] using hshape
      · simp [HoldsLock, hshape.left, hshape.right]
    · cases hstep
  · cases hstep

theorem openDatabase_ordered (h : e.Ordered)
    (hstep : bootStep readerPoolSize e .openDatabase = some e') :
    e'.Ordered := by
  have hshape := h.shape
  simp only [bootStep] at hstep
  split at hstep
  · rename_i hpoint
    simp only [Shape, hpoint] at hshape
    split at hstep
    · cases hstep
      exact owner_ordered ⟨hshape.left, rfl⟩ (by simp) (by simp)
    · cases hstep
  · cases hstep

theorem bindSocket_ordered (h : e.Ordered)
    (hstep : bootStep readerPoolSize e .bindSocket = some e') :
    e'.Ordered := by
  have hshape := h.shape
  simp only [bootStep] at hstep
  split at hstep
  · rename_i hpoint
    cases hstep
    simp only [Shape, hpoint] at hshape
    exact owner_ordered ⟨hshape.left, rfl⟩ (by simp) (by simp)
  · cases hstep

theorem buildRuntime_ordered (h : e.Ordered)
    (hstep : bootStep readerPoolSize e .buildRuntime = some e') :
    e'.Ordered := by
  have hshape := h.shape
  simp only [bootStep] at hstep
  split at hstep
  · rename_i hpoint
    cases hstep
    simp only [Shape, hpoint] at hshape
    exact owner_ordered ⟨hshape.left, rfl⟩ (by simp) (by simp)
  · cases hstep

theorem serve_ordered (h : e.Ordered)
    (hstep : bootStep readerPoolSize e .serve = some e') : e'.Ordered := by
  have hshape := h.shape
  simp only [bootStep] at hstep
  split at hstep
  · rename_i hpoint
    cases hstep
    simp only [Shape, hpoint] at hshape
    exact owner_ordered ⟨hshape.left, rfl⟩ (by simp) (by simp)
  · cases hstep

/-!
### The phases that fail
-/

theorem fail_locked_ordered (h : e.Ordered) (err : EngineError)
    (hshape : e.leaving = [] ∧ e.owned = lockedFields)
    (hpoint : e.point ≠ .opening) : (e.fail lockedFields err).Ordered := by
  refine fail_ordered err (by simp [LockLast]) (by simp) ?_
  intro hne
  left
  simpa [HasEngine, hshape.left, hshape.right, hpoint] using h.owner hne

theorem prepareSocketFails_ordered (h : e.Ordered) {err : EngineError}
    (hstep : bootStep readerPoolSize e (.prepareSocketFails err) = some e') :
    e'.Ordered := by
  have hshape := h.shape
  simp only [bootStep] at hstep
  split at hstep
  · rename_i hpoint
    cases hstep
    simp only [Shape, hpoint] at hshape
    exact fail_locked_ordered h err hshape (by simp [hpoint])
  · cases hstep

theorem openDatabaseFails_ordered (h : e.Ordered) {err : EngineError}
    (hstep : bootStep readerPoolSize e (.openDatabaseFails err) = some e') :
    e'.Ordered := by
  have hshape := h.shape
  simp only [bootStep] at hstep
  split at hstep
  · rename_i hpoint
    cases hstep
    simp only [Shape, hpoint] at hshape
    exact fail_locked_ordered h err hshape (by simp [hpoint])
  · cases hstep
    exact fail_ordered err (by simp [LockLast]) (by simp)
      (fun _ => Or.inr (by simp))
  · cases hstep

/-!
### Clones and closures
-/

theorem newArc_ordered (h : e.Ordered) (hclones : 0 < e.clones)
    (hpoint : e'.point = e.point) (howned : e'.owned = e.owned)
    (hleaving : e'.leaving = e.leaving) (hbusy : ¬ e'.Quiet) :
    e'.Ordered := by
  refine thread_ordered h ?_ hpoint howned hleaving
    (fun _ => Or.inr (Or.inr hbusy))
  intro hclosed
  exact Nat.lt_irrefl 0 (hclosed.right.left ▸ hclones)

theorem cloneStorage_ordered (h : e.Ordered)
    (hstep : bootStep readerPoolSize e .cloneStorage = some e') :
    e'.Ordered := by
  simp only [bootStep] at hstep
  split at hstep
  · rename_i hclones
    cases hstep
    exact newArc_ordered h hclones rfl rfl rfl (by simp [Quiet])
  · cases hstep

theorem spawnClosure_ordered (h : e.Ordered)
    (hstep : bootStep readerPoolSize e .spawnClosure = some e') :
    e'.Ordered := by
  simp only [bootStep] at hstep
  split at hstep
  · rename_i hspawns
    cases hstep
    exact newArc_ordered h hspawns.left rfl rfl rfl (by simp [Quiet])
  · cases hstep

theorem dropClone_ordered (h : e.Ordered)
    (hstep : bootStep readerPoolSize e .dropClone = some e') :
    e'.Ordered := by
  simp only [bootStep] at hstep
  split at hstep
  · rename_i hclones
    cases hstep
    refine dropArc_ordered h ?_ rfl rfl rfl
    intro hquiet
    exact Nat.lt_irrefl 0 (hquiet.left ▸ hclones)
  · cases hstep

theorem endClosure_ordered (h : e.Ordered)
    (hstep : bootStep readerPoolSize e .endClosure = some e') :
    e'.Ordered := by
  simp only [bootStep] at hstep
  split at hstep
  · rename_i hclosures
    cases hstep
    refine dropArc_ordered h ?_ rfl rfl rfl
    intro hquiet
    exact Nat.lt_irrefl 0 (hquiet.right.left ▸ hclosures)
  · cases hstep

theorem closeConnection_ordered (h : e.Ordered)
    (hstep : bootStep readerPoolSize e .closeConnection = some e') :
    e'.Ordered := by
  simp only [bootStep] at hstep
  split at hstep
  · rename_i hclosing
    cases hstep
    refine thread_ordered h ?_ rfl rfl rfl ?_
    · intro hclosed
      simp [Quiet, hclosing] at hclosed
    · intro hne
      refine Or.inr (Or.inr ?_)
      intro hquiet
      have hdone : ¬ 1 < e.connections := by simpa using hquiet.right.right
      have hleft : e.connections - 1 ≠ 0 := hne
      omega
  · cases hstep

/-!
### The end of `run_loop` and the teardown
-/

theorem runLoopReturns_ordered (h : e.Ordered) {r : Except EngineError Unit}
    (hstep : bootStep readerPoolSize e (.runLoopReturns r) = some e') :
    e'.Ordered := by
  have hshape := h.shape
  simp only [bootStep] at hstep
  split at hstep
  · rename_i hpoint
    simp only [Shape, hpoint] at hshape
    split at hstep
    · cases hstep
      refine owner_ordered hshape ?_ ?_
      · simp [hshape.right]
      · simp [hshape.right]
    · cases hstep
  · cases hstep

/-- The unwinding drops the facade before the lock. -/
theorem runLoopPanics_ordered
    (hstep : bootStep readerPoolSize e .runLoopPanics = some e') :
    e'.Ordered := by
  simp only [bootStep] at hstep
  split at hstep
  · split at hstep
    · cases hstep
      refine engine_ordered ⟨rfl, ?_⟩ ?_ (Or.inl ?_)
      · simp [LockLast]
      · simp [HoldsLock]
      · simp
    · cases hstep
  · cases hstep

theorem shutdownTimeout_ordered (h : e.Ordered)
    (hstep : bootStep readerPoolSize e .shutdownTimeout = some e') :
    e'.Ordered := by
  have hshape := h.shape
  simp only [bootStep] at hstep
  split at hstep
  · rename_i hpoint
    cases hstep
    simp only [Shape, hpoint] at hshape
    have hrest : e.owned.erase .runtime = [.storage, .lock, .config] := by
      rw [hshape.right]
      rfl
    refine owner_ordered ⟨hshape.left, hrest⟩ ?_ ?_
    · simp [hrest]
    · simp [hrest]
  · cases hstep

theorem intoEngine_ordered (h : e.Ordered)
    (hstep : bootStep readerPoolSize e .intoEngine = some e') :
    e'.Ordered := by
  have hshape := h.shape
  simp only [bootStep] at hstep
  split at hstep
  · rename_i hpoint
    simp only [Shape, hpoint] at hshape
    have hrest : e.owned.erase .storage = [.lock, .config] := by
      rw [hshape.right]
      rfl
    split at hstep
    · cases hstep
      refine engine_ordered ⟨Or.inl rfl, hrest⟩ ?_ (Or.inr (Or.inl ?_))
      · simp [HoldsLock, hrest]
      · simp
    · cases hstep
      refine engine_ordered ⟨Or.inr (Or.inl rfl), hrest⟩ ?_ (Or.inl ?_)
      · simp [HoldsLock, hrest]
      · simp
  · cases hstep

theorem dropLock_ordered (h : e.Ordered)
    (hstep : bootStep readerPoolSize e .dropLock = some e') : e'.Ordered := by
  have hshape := h.shape
  simp only [bootStep] at hstep
  split at hstep
  · rename_i hpoint hleaving
    cases hstep
    simp only [Shape, hpoint] at hshape
    have hrest : e.owned.erase .lock = [.config] := by
      rw [hshape.right]
      rfl
    refine phase_ordered h ⟨rfl, ?_⟩ ?_ (by simp [hpoint]) rfl ?_
    · simp [LockLast, hrest]
    · simp [HoldsLock]
    · simp [HasEngine, Quiet, hleaving, hshape.right]
  · cases hstep

end Process

theorem bootStep_ordered {readerPoolSize : Nat} {e e' : Process}
    {a : BootAction} (h : e.Ordered) (hcond : ReleasesClosed e a)
    (hstep : bootStep readerPoolSize e a = some e') : e'.Ordered := by
  cases a with
  | prepareSocket => exact Process.prepareSocket_ordered h hstep
  | prepareSocketFails err => exact Process.prepareSocketFails_ordered h hstep
  | openConnection => exact Process.openConnection_ordered h hstep
  | openDatabase => exact Process.openDatabase_ordered h hstep
  | openDatabaseFails err => exact Process.openDatabaseFails_ordered h hstep
  | bindSocket => exact Process.bindSocket_ordered h hstep
  | bindSocketFails err =>
      simp only [bootStep] at hstep
      split at hstep
      · rename_i hpoint
        exact absurd hpoint hcond
      · cases hstep
  | buildRuntime => exact Process.buildRuntime_ordered h hstep
  | buildRuntimeFails err =>
      simp only [bootStep] at hstep
      split at hstep
      · rename_i hpoint
        exact absurd hpoint hcond
      · cases hstep
  | serve => exact Process.serve_ordered h hstep
  | cloneStorage => exact Process.cloneStorage_ordered h hstep
  | dropClone => exact Process.dropClone_ordered h hstep
  | spawnClosure => exact Process.spawnClosure_ordered h hstep
  | endClosure => exact Process.endClosure_ordered h hstep
  | closeConnection => exact Process.closeConnection_ordered h hstep
  | runLoopReturns r => exact Process.runLoopReturns_ordered h hstep
  | runLoopPanics => exact Process.runLoopPanics_ordered hstep
  | shutdownTimeout => exact Process.shutdownTimeout_ordered h hstep
  | intoEngine => exact Process.intoEngine_ordered h hstep
  | dropLock => exact Process.dropLock_ordered h hstep
  | dropNext => exact Process.dropNext_ordered h hcond hstep
  | exit =>
      simp only [bootStep] at hstep
      split at hstep
      · cases hstep
        exact Process.ended_ordered e.result
      · cases hstep
  | kill =>
      simp only [bootStep] at hstep
      split at hstep
      · cases hstep
      · cases hstep
        exact Process.ended_ordered e.result

/-!
## The fleet

A process only loses the lock by a step of its own and gains it by acquiring it.
-/

theorem Process.holdsLock_of_point {e : Process} (h : e.Shape)
    (hpoint : e.point ≠ .bootstrap ∧ e.point ≠ .returning ∧ e.point ≠ .ended) :
    e.HoldsLock := by
  unfold Process.Shape at h
  unfold Process.HoldsLock
  split at h
  case h_11 =>
    rw [h.right]
    simp
  all_goals simp_all

theorem Process.dropNext_holdsLock {e e' : Process}
    (hstep : e.dropNext = some e') (hlock : e'.HoldsLock) : e.HoldsLock := by
  unfold Process.HoldsLock at hlock ⊢
  unfold Process.dropNext at hstep
  split at hstep
  · cases hstep
  · rename_i hleaving
    split at hstep
    · cases hstep
      simpa [hleaving] using hlock
    · cases hstep
      simpa [hleaving] using hlock
  · rename_i hleaving
    split at hstep
    · cases hstep
      simpa [hleaving] using hlock
    · cases hstep
      exact hlock
  · rename_i hleaving
    split at hstep
    · cases hstep
      simpa [hleaving] using hlock
    · cases hstep
  · rename_i hleaving
    cases hstep
    simpa [hleaving] using hlock
  · rename_i hleaving
    cases hstep
    simpa [hleaving] using hlock
  · rename_i hleaving
    simp [hleaving]

theorem Process.dropArc_holdsLock {e : Process} :
    e.dropArc.HoldsLock <-> e.HoldsLock := by
  unfold Process.dropArc
  split
  · rfl
  · rfl

theorem bootStep_holdsLock {readerPoolSize : Nat} {e e' : Process}
    {a : BootAction} (h : e.Shape)
    (hstep : bootStep readerPoolSize e a = some e') (hlock : e'.HoldsLock) :
    e.HoldsLock := by
  by_cases hpoint :
      e.point ≠ .bootstrap ∧ e.point ≠ .returning ∧ e.point ≠ .ended
  · exact Process.holdsLock_of_point h hpoint
  · have hrest : e.point = .bootstrap ∨ e.point = .returning ∨
        e.point = .ended := by tauto
    cases a with
    | dropNext => exact Process.dropNext_holdsLock hstep hlock
    | cloneStorage =>
        simp only [bootStep] at hstep
        split at hstep
        · cases hstep
          exact hlock
        · cases hstep
    | dropClone =>
        simp only [bootStep] at hstep
        split at hstep
        · cases hstep
          have hbefore := Process.dropArc_holdsLock.mp hlock
          exact hbefore
        · cases hstep
    | spawnClosure =>
        simp only [bootStep] at hstep
        split at hstep
        · cases hstep
          exact hlock
        · cases hstep
    | endClosure =>
        simp only [bootStep] at hstep
        split at hstep
        · cases hstep
          have hbefore := Process.dropArc_holdsLock.mp hlock
          exact hbefore
        · cases hstep
    | closeConnection =>
        simp only [bootStep] at hstep
        split at hstep
        · cases hstep
          exact hlock
        · cases hstep
    | exit =>
        simp only [bootStep] at hstep
        split at hstep
        · cases hstep
          simp [Process.HoldsLock, Process.start] at hlock
        · cases hstep
    | kill =>
        simp only [bootStep] at hstep
        split at hstep
        · cases hstep
        · cases hstep
          simp [Process.HoldsLock, Process.start] at hlock
    | _ => rcases hrest with hp | hp | hp <;> simp [bootStep, hp] at hstep

structure Fleet.Ordered (w : Fleet) : Prop where
  process : forall p, (w.process p).Ordered
  owner : forall p, (w.process p).HoldsLock -> w.lockOwner = some p

theorem Fleet.start_ordered : Fleet.start.Ordered where
  process := fun _ => Process.start_ordered
  owner := by
    intro p hlock
    simp [Fleet.start, Process.HoldsLock, Process.start] at hlock

theorem acquireLock_ordered {e : Process} (h : e.Ordered)
    (hpoint : e.point = .bootstrap) :
    Process.Ordered
      { e with point := .locked, owned := dropStruct lockedFields } := by
  have hshape := h.shape
  simp only [Process.Shape, hpoint] at hshape
  refine Process.phase_ordered h ⟨hshape.left, rfl⟩ ?_ (by simp [hpoint]) rfl ?_
  · simp [Process.HoldsLock]
  · simp [Process.HasEngine, Process.Quiet, hshape.left, hshape.right]

theorem fleetStep_ordered {readerPoolSize : Nat} {w w' : Fleet}
    {a : FleetAction} (h : w.Ordered) (hcond : FleetReleasesClosed w a)
    (hstep : fleetStep readerPoolSize w a = some w') : w'.Ordered := by
  cases a with
  | acquireLock p =>
      simp only [fleetStep] at hstep
      split at hstep
      · rename_i hpoint hfree
        cases hstep
        constructor
        · intro q
          by_cases hqp : q = p
          · subst q
            simp only [Function.update_self]
            exact acquireLock_ordered (h.process p) hpoint
          · simp only [Function.update_of_ne hqp]
            exact h.process q
        · intro q hlock
          by_cases hqp : q = p
          · rw [hqp]
          · simp only [Function.update_of_ne hqp] at hlock
            have howner := h.owner q hlock
            rw [hfree] at howner
            cases howner
      · cases hstep
  | step p a =>
      simp only [fleetStep] at hstep
      split at hstep
      · cases hstep
      · rename_i e he
        cases hstep
        constructor
        · intro q
          by_cases hqp : q = p
          · subst q
            simp only [Fleet.update, Function.update_self]
            exact bootStep_ordered (h.process p) hcond he
          · simp only [Fleet.update, Function.update_of_ne hqp]
            exact h.process q
        · intro q hlock
          by_cases hqp : q = p
          · subst q
            simp only [Fleet.update, Function.update_self] at hlock ⊢
            have hbefore := bootStep_holdsLock (h.process p).shape he hlock
            simp [hlock, h.owner p hbefore]
          · simp only [Fleet.update, Function.update_of_ne hqp] at hlock ⊢
            have howner := h.owner q hlock
            simp [howner, hqp]

theorem Fleet.Ordered.lockOutlivesDatabase {w : Fleet} (h : w.Ordered) :
    LockOutlivesDatabase w := by
  intro p hopen
  rcases (h.process p).guarded with hlock | hclosed
  · exact h.owner p hlock
  · exact absurd hclosed.left hopen

theorem LockOutlivesDatabase.singleOpener {w : Fleet}
    (h : LockOutlivesDatabase w) : SingleOpener w := by
  intro p q hp hq
  have howner := h p hp
  rw [h q hq] at howner
  exact (Option.some.inj howner).symm

/--
In a run in which no phase fails between `open_database` and `serve`, and no
lock is dropped under a closure or a clone that still holds the engine, the lock
outlives the database and no two processes have the database open together.
-/
theorem engineLock_outlives_database {readerPoolSize : Nat} {w : Fleet}
    {acts : List FleetAction}
    (hmeet : StepsMeet (fleetStep readerPoolSize) FleetReleasesClosed
      Fleet.start acts)
    (hrun : runFrom (fleetStep readerPoolSize) Fleet.start acts = some w) :
    LockOutlivesDatabase w ∧ SingleOpener w := by
  have hordered : w.Ordered :=
    runFrom_invariant_of_stepsMeet Fleet.Ordered
      (fun h hcond hstep => fleetStep_ordered h hcond hstep)
      Fleet.start_ordered hmeet hrun
  have houtlives := hordered.lockOutlivesDatabase
  exact ⟨houtlives, houtlives.singleOpener⟩

/-- A boot, one request, a graceful shutdown, and the lock is free again. -/
def cleanRun (p : Pid) : List FleetAction :=
  FleetAction.acquireLock p ::
    [BootAction.prepareSocket, .openConnection, .openConnection, .openDatabase,
      .bindSocket, .buildRuntime, .serve, .spawnClosure, .endClosure,
      .runLoopReturns (.ok ()), .shutdownTimeout, .intoEngine, .dropNext,
      .dropNext, .dropNext, .dropLock, .dropNext].map (FleetAction.step p)

theorem engineLock_outlives_database_cleanRun :
    exists w,
      runFrom (fleetStep 1) Fleet.start (cleanRun 0) = some w ∧
        LockOutlivesDatabase w ∧ SingleOpener w := by
  have hrun : exists w,
      runFrom (fleetStep 1) Fleet.start (cleanRun 0) = some w := ⟨_, rfl⟩
  rcases hrun with ⟨w, hrun⟩
  refine ⟨w, hrun, engineLock_outlives_database ?_ hrun⟩
  decide

/-- The first process fails to bind its socket, the second one boots at once. -/
def bindFailureRun : List FleetAction :=
  (FleetAction.acquireLock 0 ::
    [BootAction.prepareSocket, .openConnection, .openConnection, .openDatabase,
      .bindSocketFails (.io "binding socket"), .dropNext, .dropNext].map
      (FleetAction.step 0)) ++
  (FleetAction.acquireLock 1 ::
    [BootAction.prepareSocket, .openConnection].map (FleetAction.step 1))

theorem engineLock_released_before_database :
    ¬ forall (readerPoolSize : Nat) (w : Fleet) (acts : List FleetAction),
      runFrom (fleetStep readerPoolSize) Fleet.start acts = some w ->
        LockOutlivesDatabase w ∧ SingleOpener w := by
  intro h
  have hboth := (h 1 _ bindFailureRun rfl).right 0 1
  have hpair : (0 : Pid) = 1 := hboth (by decide) (by decide)
  cases hpair

/-!
## The condition is the exact one

A step that breaks the condition under an open database leads to a state in which
the database is still open and the lock is gone.
-/

theorem fail_releases_early {readerPoolSize : Nat} {e : Process}
    {rest : List Owned} (err : EngineError) (hopen : e.connections ≠ 0)
    (hrest : .lock ∉ rest) :
    exists e', runFrom (bootStep readerPoolSize)
        (e.fail (.config :: .lock :: rest) err) [.dropNext, .dropNext] =
          some e' ∧
      e'.connections ≠ 0 ∧ ¬ e'.HoldsLock := by
  refine ⟨{ e.fail (.config :: .lock :: rest) err with leaving := rest },
    rfl, hopen, ?_⟩
  simpa [Process.HoldsLock, Process.fail] using hrest

theorem earlyRelease_leaves_open {readerPoolSize : Nat} {e e' : Process}
    {a : BootAction} (h : e.Ordered) (hopen : e.connections ≠ 0)
    (hbad : ¬ ReleasesClosed e a)
    (hstep : bootStep readerPoolSize e a = some e') :
    exists acts e'', runFrom (bootStep readerPoolSize) e' acts = some e'' ∧
      e''.connections ≠ 0 ∧ ¬ e''.HoldsLock := by
  cases a with
  | bindSocketFails err =>
      simp only [bootStep] at hstep
      split at hstep
      · cases hstep
        exact ⟨_, fail_releases_early err hopen (by simp)⟩
      · cases hstep
  | buildRuntimeFails err =>
      simp only [bootStep] at hstep
      split at hstep
      · cases hstep
        exact ⟨_, fail_releases_early err hopen (by simp)⟩
      · cases hstep
  | dropNext =>
      simp only [ReleasesClosed, Classical.not_imp] at hbad
      simp only [bootStep, Process.dropNext] at hstep
      cases hleaving : e.leaving with
      | nil => simp [hleaving] at hbad
      | cons x rest =>
          have hx : x = .lock := by simpa [hleaving] using hbad.left
          subst x
          rw [hleaving] at hstep
          cases hstep
          rcases Process.shape_of_leaving h.shape hleaving with
            ⟨_, _, _, hx⟩ | ⟨_, howned, hnolock, _⟩
          · simp at hx
          · refine ⟨[], _, rfl, hopen, ?_⟩
            simp [Process.HoldsLock, howned, hnolock]
  | _ => exact absurd trivial hbad

end Engine
end Valqeron
