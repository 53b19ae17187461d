import Mathlib.Algebra.Order.Ring.Int
import Mathlib.Logic.Function.Basic
import Valqeron.Foundation.Transition

/-!
# The asynchronous storage facade

`AsyncStorage` admits read, write and maintenance calls through two semaphores,
runs their closures on the blocking pool, and is closed, drained and taken apart
at shutdown.  What a closure does to the engine is a parameter: one step of a
closure either leads to the rest of the closure or to the value it returns.

The steps of all callers, of the pool threads and of the shutdown interleave
freely.  A caller may give up at any point; its closure then runs on.
-/

namespace Valqeron
namespace Engine

open Foundation

inductive StorageCallError where
  | overloaded
  | shuttingDown
  | taskFailed (message : String)
deriving DecidableEq, Repr

inductive Operation where
  | read
  | write
  | maintenance
deriving DecidableEq, Repr

inductive Lane where
  | read
  | write
deriving DecidableEq, Repr

def Operation.lane : Operation -> Lane
  | .read => .read
  | .write => .write
  | .maintenance => .write

def writeSlots : Nat := 1

structure Semaphore where
  available : Nat
  closed : Bool
deriving DecidableEq, Repr

namespace Semaphore

def new (permits : Nat) : Semaphore := { available := permits, closed := false }

def close (s : Semaphore) : Semaphore := { s with closed := true }

def take (s : Semaphore) : Semaphore := { s with available := s.available - 1 }

def release (s : Semaphore) : Semaphore :=
  { s with available := s.available + 1 }

end Semaphore

/-- How far a call has come; `f` is what is left of its closure. -/
inductive CallPhase (closure result : Type) where
  /-- Waiting for a permit in `acquire_slot`. -/
  | queued (f : closure)
  /-- A permit is the caller's, who has not spawned the closure. -/
  | granted (f : closure)
  /-- The closure owns the permit and an `Arc`, and waits for a pool thread. -/
  | spawned (f : closure)
  | running (f : closure)
  /-- The body is over, by a return or by a panic. -/
  | finishing (r : Except String result)
  /-- The local permit is dropped, the captured `Arc` is not. -/
  | permitDropped (r : Except String result)
  | returned (r : Except String result)
  | rejected (e : StorageCallError)
  | cancelled

structure Call (closure result : Type) where
  operation : Operation
  phase : CallPhase closure result
  /-- The caller still awaits the answer. -/
  attached : Bool

structure AsyncStorage (world closure result : Type) where
  engine : world
  permits : Lane -> Semaphore
  maxPermits : Lane -> Nat
  /-- The number of `AsyncStorage` values, each with an `Arc` of the engine. -/
  clones : Nat
  calls : List (Call closure result)
  /-- The first of the two loads that `in_flight` makes inside `wait_idle`. -/
  poll : Option Nat
  /-- `wait_idle` has returned `true`. -/
  idle : Bool

/-- A step of one call, by its caller or by the thread that runs its closure. -/
inductive CallAction where
  | grant
  | timeout
  | refuse
  | spawn
  | cancel
  | start
  | exec
  | dropUnstarted (message : String)
  | dropPermit
  | dropEngine
deriving DecidableEq, Repr

inductive StorageAction (closure : Type) where
  | submit (operation : Operation) (f : closure)
  | call (i : Nat) (a : CallAction)
  | cloneStorage
  | dropClone
  | close (lane : Lane)
  | pollReads
  | pollWrites

variable {world closure result : Type}

namespace CallPhase

def holdsPermit : CallPhase closure result -> Bool
  | granted _ => true
  | spawned _ => true
  | running _ => true
  | finishing _ => true
  | _ => false

def holdsEngine : CallPhase closure result -> Bool
  | spawned _ => true
  | running _ => true
  | finishing _ => true
  | permitDropped _ => true
  | _ => false

end CallPhase

namespace Call

def answer (c : Call closure result) :
    Option (Except StorageCallError result) :=
  match c.phase with
  | .rejected e => some (.error e)
  | .returned (.ok r) => some (.ok r)
  | .returned (.error message) => some (.error (.taskFailed message))
  | _ => none

def Executing (c : Call closure result) : Prop :=
  exists f, c.phase = .running f

def lane (c : Call closure result) : Lane := c.operation.lane

end Call

namespace AsyncStorage

def new (engine : world) (readerPoolSize : Nat) :
    AsyncStorage world closure result :=
  let maxPermits : Lane -> Nat
    | .read => readerPoolSize
    | .write => writeSlots
  { engine := engine
    permits := fun lane => Semaphore.new (maxPermits lane)
    maxPermits := maxPermits
    clones := 1
    calls := []
    poll := none
    idle := false }

/-- The permits of a lane that are out, as `in_flight` computes them. -/
def inFlightOf (s : AsyncStorage world closure result) (lane : Lane) : Nat :=
  s.maxPermits lane - (s.permits lane).available

def strongCount (s : AsyncStorage world closure result) : Nat :=
  s.clones + s.calls.countP (fun c => c.phase.holdsEngine)

/-- `Arc::try_unwrap` on the engine, for the facade that is given up. -/
def intoEngine (s : AsyncStorage world closure result) :
    Except (AsyncStorage world closure result) world :=
  if s.strongCount = 1 then .ok s.engine else .error s

def Closed (s : AsyncStorage world closure result) : Prop :=
  forall lane, (s.permits lane).closed = true

end AsyncStorage

/--
One step of a call on the engine and on the semaphore of its lane.  `body` runs a
closure for one step and answers `none` when the closure has to wait.
-/
def callStep
    (body : world -> closure ->
      Option (world × (closure ⊕ Except String result)))
    (engine : world) (permits : Semaphore) (c : Call closure result) :
    CallAction -> Option (world × Semaphore × Call closure result)
  | .grant =>
      match c.phase with
      | .queued f =>
          if permits.closed = false ∧ 0 < permits.available then
            some (engine, permits.take, { c with phase := .granted f })
          else
            none
      | _ => none
  | .timeout =>
      match c.phase with
      | .queued _ =>
          some (engine, permits, { c with phase := .rejected .overloaded })
      | .granted _ =>
          -- assigned to a waiter that has not come to see it
          some
            (engine, permits.release, { c with phase := .rejected .overloaded })
      | _ => none
  | .refuse =>
      if permits.closed = true then
        match c.phase with
        | .queued _ =>
            some (engine, permits, { c with phase := .rejected .shuttingDown })
        | .granted _ =>
            some
              (engine, permits.release,
                { c with phase := .rejected .shuttingDown })
        | _ => none
      else
        none
  | .spawn =>
      match c.phase with
      | .granted f => some (engine, permits, { c with phase := .spawned f })
      | _ => none
  | .cancel =>
      match c.phase with
      | .queued _ =>
          some (engine, permits,
            { c with phase := .cancelled, attached := false })
      | .granted _ =>
          some (engine, permits.release,
            { c with phase := .cancelled, attached := false })
      | _ => some (engine, permits, { c with attached := false })
  | .start =>
      match c.phase with
      | .spawned f => some (engine, permits, { c with phase := .running f })
      | _ => none
  | .exec =>
      match c.phase with
      | .running f =>
          match body engine f with
          | none => none
          | some (engine', .inl f') =>
              some (engine', permits, { c with phase := .running f' })
          | some (engine', .inr r) =>
              some (engine', permits, { c with phase := .finishing r })
      | _ => none
  | .dropUnstarted message =>
      match c.phase with
      | .spawned _ =>
          -- the captured permit goes before the captured `Arc`
          some (engine, permits.release,
            { c with phase := .permitDropped (.error message) })
      | _ => none
  | .dropPermit =>
      match c.phase with
      | .finishing r =>
          some (engine, permits.release, { c with phase := .permitDropped r })
      | _ => none
  | .dropEngine =>
      match c.phase with
      | .permitDropped r =>
          some (engine, permits, { c with phase := .returned r })
      | _ => none

def storageStep
    (body : world -> closure ->
      Option (world × (closure ⊕ Except String result)))
    (s : AsyncStorage world closure result) :
    StorageAction closure -> Option (AsyncStorage world closure result)
  | .submit operation f =>
      if 0 < s.clones then
        some
          { s with
            calls := s.calls ++
              [{ operation := operation, phase := .queued f, attached := true }] }
      else
        none
  | .call i a =>
      match s.calls[i]? with
      | none => none
      | some c =>
          match callStep body s.engine (s.permits c.lane) c a with
          | none => none
          | some (engine, permits, c') =>
              some
                { s with
                  engine := engine
                  permits := Function.update s.permits c.lane permits
                  calls := s.calls.set i c' }
  | .cloneStorage =>
      if 0 < s.clones then some { s with clones := s.clones + 1 } else none
  | .dropClone =>
      if 0 < s.clones then some { s with clones := s.clones - 1 } else none
  | .close lane =>
      -- `close` takes the read lane first
      if 0 < s.clones ∧
          (lane = .write -> (s.permits .read).closed = true) then
        some
          { s with
            permits := Function.update s.permits lane (s.permits lane).close }
      else
        none
  | .pollReads =>
      if 0 < s.clones ∧ (s.permits .read).closed = true ∧
          (s.permits .write).closed = true then
        some { s with poll := some (s.inFlightOf .read) }
      else
        none
  | .pollWrites =>
      match s.poll with
      | some reads =>
          some
            { s with
              poll := none
              idle := s.idle || reads + s.inFlightOf .write = 0 }
      | none => none

/-!
## Accounting

A permit is either available or held by exactly one call of its lane, whatever
the callers and the pool threads do.
-/

def AsyncStorage.holders (s : AsyncStorage world closure result)
    (lane : Lane) : Nat :=
  s.calls.countP (fun c => decide (c.lane = lane) && c.phase.holdsPermit)

theorem callStep_permits
    {body : world -> closure ->
      Option (world × (closure ⊕ Except String result))}
    {engine engine' : world} {permits permits' : Semaphore}
    {c c' : Call closure result} {a : CallAction}
    (hstep : callStep body engine permits c a = some (engine', permits', c')) :
    c'.lane = c.lane ∧ permits'.closed = permits.closed ∧
      permits'.available + c'.phase.holdsPermit.toNat =
        permits.available + c.phase.holdsPermit.toNat ∧
      (permits.closed = true -> c'.phase.holdsPermit = true ->
        c.phase.holdsPermit = true) := by
  cases a with
  | grant =>
      simp only [callStep] at hstep
      split at hstep
      · rename_i f hphase
        split at hstep
        · rename_i hfree
          cases hstep
          refine ⟨rfl, rfl, ?_, ?_⟩
          · have := hfree.right
            simp [Semaphore.take, CallPhase.holdsPermit, hphase]
            omega
          · intro hclosed
            rw [hfree.left] at hclosed
            cases hclosed
        · cases hstep
      · cases hstep
  | exec =>
      simp only [callStep] at hstep
      split at hstep
      · rename_i f hphase
        split at hstep
        · cases hstep
        · cases hstep
          simp [Call.lane, CallPhase.holdsPermit, hphase]
        · cases hstep
          simp [Call.lane, CallPhase.holdsPermit, hphase]
      · cases hstep
  | timeout =>
      simp only [callStep] at hstep
      split at hstep
      · rename_i hphase
        cases hstep
        simp [Call.lane, CallPhase.holdsPermit, hphase]
      · rename_i hphase
        cases hstep
        simp [Call.lane, CallPhase.holdsPermit, Semaphore.release, hphase]
      · cases hstep
  | refuse =>
      simp only [callStep] at hstep
      split at hstep
      · split at hstep
        · rename_i hphase
          cases hstep
          simp [Call.lane, CallPhase.holdsPermit, hphase]
        · rename_i hphase
          cases hstep
          simp [Call.lane, CallPhase.holdsPermit, Semaphore.release, hphase]
        · cases hstep
      · cases hstep
  | cancel =>
      simp only [callStep] at hstep
      split at hstep
      · rename_i hphase
        cases hstep
        simp [Call.lane, CallPhase.holdsPermit, hphase]
      · rename_i hphase
        cases hstep
        simp [Call.lane, CallPhase.holdsPermit, Semaphore.release, hphase]
      · cases hstep
        simp [Call.lane]
  | _ =>
      simp only [callStep] at hstep
      split at hstep
      · rename_i hphase
        cases hstep
        simp [Call.lane, CallPhase.holdsPermit, Semaphore.release, hphase]
      · cases hstep

namespace AsyncStorage

/--
The two semaphores account for their permits, and what `wait_idle` has seen of a
closed store stays true.
-/
structure Accounted (s : AsyncStorage world closure result) : Prop where
  permits : forall lane,
    (s.permits lane).available + s.holders lane = s.maxPermits lane
  polled : forall n, s.poll = some n ->
    s.Closed ∧ (n = 0 -> s.holders .read = 0)
  idle : s.idle = true -> s.Closed ∧ forall lane, s.holders lane = 0

theorem new_accounted (engine : world) (readerPoolSize : Nat) :
    Accounted (new engine readerPoolSize :
      AsyncStorage world closure result) where
  permits := by
    intro lane
    simp [new, holders, Semaphore.new]
  polled := by
    intro n hn
    cases hn
  idle := by
    intro hidle
    cases hidle

theorem Accounted.holders_eq_zero {s : AsyncStorage world closure result}
    (h : s.Accounted) {lane : Lane} (hflight : s.inFlightOf lane = 0) :
    s.holders lane = 0 := by
  have hpermits := h.permits lane
  unfold inFlightOf at hflight
  omega

theorem accounted_of_drained {s s' : AsyncStorage world closure result}
    (h : s.Accounted) (hpoll : s'.poll = s.poll) (hidle : s'.idle = s.idle)
    (hpermits : forall lane,
      (s'.permits lane).available + s'.holders lane = s'.maxPermits lane)
    (hclosed : forall lane, (s.permits lane).closed = true ->
      (s'.permits lane).closed = true ∧ s'.holders lane <= s.holders lane) :
    s'.Accounted where
  permits := hpermits
  polled := by
    intro n hn
    rw [hpoll] at hn
    rcases h.polled n hn with ⟨hbefore, hzero⟩
    refine ⟨fun lane => (hclosed lane (hbefore lane)).left, ?_⟩
    intro hn0
    have hle := (hclosed .read (hbefore .read)).right
    rw [hzero hn0] at hle
    exact Nat.le_zero.mp hle
  idle := by
    intro htrue
    rw [hidle] at htrue
    rcases h.idle htrue with ⟨hbefore, hzero⟩
    refine ⟨fun lane => (hclosed lane (hbefore lane)).left, ?_⟩
    intro lane
    have hle := (hclosed lane (hbefore lane)).right
    rw [hzero lane] at hle
    exact Nat.le_zero.mp hle

theorem Accounted.close {s : AsyncStorage world closure result}
    (h : s.Accounted) (lane : Lane) :
    Accounted
      { s with
        permits := Function.update s.permits lane (s.permits lane).close } := by
  refine accounted_of_drained h rfl rfl ?_ ?_
  · intro other
    by_cases hother : other = lane
    · subst other
      simpa [Semaphore.close, holders] using h.permits lane
    · simpa [Function.update_of_ne hother, holders] using h.permits other
  · intro other hclosed
    by_cases hother : other = lane
    · subst other
      simp [Semaphore.close, holders]
    · simp [Function.update_of_ne hother, hclosed, holders]

theorem Accounted.pollReads {s : AsyncStorage world closure result}
    (h : s.Accounted) (hread : (s.permits .read).closed = true)
    (hwrite : (s.permits .write).closed = true) :
    Accounted { s with poll := some (s.inFlightOf .read) } where
  permits := h.permits
  polled := by
    intro n hn
    constructor
    · intro lane
      cases lane with
      | read => exact hread
      | write => exact hwrite
    · intro hzero
      cases hn
      exact h.holders_eq_zero hzero
  idle := h.idle

theorem Accounted.pollWrites {s : AsyncStorage world closure result}
    (h : s.Accounted) {reads : Nat} (hpoll : s.poll = some reads) :
    Accounted
      { s with
        poll := none
        idle := s.idle || reads + s.inFlightOf .write = 0 } where
  permits := h.permits
  polled := by
    intro n hn
    cases hn
  idle := by
    intro hidle
    simp only [Bool.or_eq_true, decide_eq_true_eq] at hidle
    rcases hidle with hbefore | hnow
    · exact h.idle hbefore
    · rcases h.polled reads hpoll with ⟨hclosed, hreads⟩
      refine ⟨hclosed, ?_⟩
      intro lane
      cases lane with
      | read => exact hreads (Nat.eq_zero_of_add_eq_zero_right hnow)
      | write =>
          exact h.holders_eq_zero (Nat.eq_zero_of_add_eq_zero_left hnow)

end AsyncStorage

theorem call_holders
    {body : world -> closure ->
      Option (world × (closure ⊕ Except String result))}
    {s : AsyncStorage world closure result} {i : Nat}
    {c c' : Call closure result} {a : CallAction} {engine : world}
    {permits : Semaphore} (hcall : s.calls[i]? = some c)
    (hstep : callStep body s.engine (s.permits c.lane) c a =
      some (engine, permits, c')) (lane : Lane) :
    let s' :=
      { s with
        engine := engine
        permits := Function.update s.permits c.lane permits
        calls := s.calls.set i c' }
    (s'.permits lane).available + s'.holders lane =
        (s.permits lane).available + s.holders lane ∧
      ((s.permits lane).closed = true ->
        (s'.permits lane).closed = true ∧ s'.holders lane <= s.holders lane) := by
  rcases callStep_permits hstep with ⟨hlane, hclosed, havail, hdrain⟩
  have hcount := countP_set_of_getElem?
    (p := fun c => decide (c.lane = lane) && c.phase.holdsPermit) c' hcall
  simp only [hlane] at hcount
  by_cases hl : c.lane = lane
  · subst lane
    simp only [AsyncStorage.holders, Function.update_self, decide_true,
      Bool.true_and] at hcount ⊢
    constructor
    · omega
    · intro hc
      refine ⟨hclosed.trans hc, ?_⟩
      have hkeep := hdrain hc
      cases hnew : c'.phase.holdsPermit with
      | false =>
          rw [hnew] at hcount
          simp at hcount
          omega
      | true =>
          rw [hnew, hkeep hnew] at hcount
          simp at hcount
          omega
  · simp only [AsyncStorage.holders, Function.update_of_ne (Ne.symm hl)]
    simp only [hl, decide_false, Bool.false_and, Bool.toNat_false,
      Nat.add_zero] at hcount
    constructor
    · rw [hcount]
    · intro hc
      exact ⟨hc, Nat.le_of_eq hcount⟩

theorem storageStep_accounted
    {body : world -> closure ->
      Option (world × (closure ⊕ Except String result))}
    {s s' : AsyncStorage world closure result} {a : StorageAction closure}
    (h : s.Accounted) (hstep : storageStep body s a = some s') :
    s'.Accounted := by
  cases a with
  | submit operation f =>
      simp only [storageStep] at hstep
      split at hstep
      · cases hstep
        refine AsyncStorage.accounted_of_drained h rfl rfl ?_ ?_
        · intro lane
          simpa [AsyncStorage.holders, CallPhase.holdsPermit] using
            h.permits lane
        · intro lane hclosed
          refine ⟨hclosed, ?_⟩
          simp [AsyncStorage.holders, CallPhase.holdsPermit]
      · cases hstep
  | call i a =>
      simp only [storageStep] at hstep
      split at hstep
      · cases hstep
      · rename_i c hcall
        split at hstep
        · cases hstep
        · rename_i engine permits c' hcallStep
          cases hstep
          refine AsyncStorage.accounted_of_drained h rfl rfl ?_ ?_
          · intro lane
            exact (call_holders hcall hcallStep lane).left.trans
              (h.permits lane)
          · intro lane
            exact (call_holders hcall hcallStep lane).right
  | cloneStorage =>
      simp only [storageStep] at hstep
      split at hstep
      · cases hstep
        exact ⟨h.permits, h.polled, h.idle⟩
      · cases hstep
  | dropClone =>
      simp only [storageStep] at hstep
      split at hstep
      · cases hstep
        exact ⟨h.permits, h.polled, h.idle⟩
      · cases hstep
  | close lane =>
      simp only [storageStep] at hstep
      split at hstep
      · cases hstep
        exact h.close lane
      · cases hstep
  | pollReads =>
      simp only [storageStep] at hstep
      split at hstep
      · rename_i hguard
        cases hstep
        exact h.pollReads hguard.right.left hguard.right.right
      · cases hstep
  | pollWrites =>
      simp only [storageStep] at hstep
      split at hstep
      · rename_i reads hpoll
        cases hstep
        exact h.pollWrites hpoll
      · cases hstep

/-!
## Shutdown

The body of a closure runs between the grant of its permit and the drop of that
permit, so a drained store is quiet.  Taking the store apart needs more: the
captured `Arc` of the engine goes one step after the permit.
-/

theorem AsyncStorage.Accounted.quiet {s : AsyncStorage world closure result}
    (h : s.Accounted) (hidle : s.idle = true) {c : Call closure result}
    (hmem : c ∈ s.calls) : c.phase.holdsPermit = false := by
  have hzero := (h.idle hidle).right c.lane
  have hnot := List.countP_eq_zero.mp hzero c hmem
  simpa using hnot

theorem storageStep_idle
    {body : world -> closure ->
      Option (world × (closure ⊕ Except String result))}
    {s s' : AsyncStorage world closure result} {a : StorageAction closure}
    (hidle : s.idle = true) (hstep : storageStep body s a = some s') :
    s'.idle = true := by
  cases a with
  | call i a =>
      simp only [storageStep] at hstep
      split at hstep
      · cases hstep
      · split at hstep
        · cases hstep
        · cases hstep
          exact hidle
  | pollWrites =>
      simp only [storageStep] at hstep
      split at hstep
      · cases hstep
        simp [hidle]
      · cases hstep
  | _ =>
      simp only [storageStep] at hstep
      split at hstep
      · cases hstep
        exact hidle
      · cases hstep

theorem accounted_of_run
    {body : world -> closure ->
      Option (world × (closure ⊕ Except String result))}
    {engine : world} {readerPoolSize : Nat}
    {s : AsyncStorage world closure result}
    {acts : List (StorageAction closure)}
    (hrun : runFrom (storageStep body) (.new engine readerPoolSize) acts =
      some s) : s.Accounted :=
  runFrom_invariant AsyncStorage.Accounted
    (fun h hstep => storageStep_accounted h hstep)
    (AsyncStorage.new_accounted engine readerPoolSize) hrun

/--
Once `wait_idle` has returned `true` on a closed store, no storage closure
executes, then or at any later point of any run.
-/
theorem waitIdle_quiescent
    {body : world -> closure ->
      Option (world × (closure ⊕ Except String result))}
    {engine : world} {readerPoolSize : Nat}
    {s t : AsyncStorage world closure result}
    {acts later : List (StorageAction closure)}
    (hrun : runFrom (storageStep body) (.new engine readerPoolSize) acts =
      some s)
    (hidle : s.idle = true)
    (hlater : runFrom (storageStep body) s later = some t) :
    forall c, c ∈ t.calls -> ¬ c.Executing := by
  have haccounted := accounted_of_run (runFrom_append hrun hlater)
  have hstill : t.idle = true :=
    runFrom_invariant (fun u => u.idle = true)
      (fun h hstep => storageStep_idle h hstep) hidle hlater
  intro c hmem hexec
  rcases hexec with ⟨f, hphase⟩
  have hquiet := haccounted.quiet hstill hmem
  rw [hphase] at hquiet
  cases hquiet

/-- One write call from its submission to the drop of its permit, then `close`. -/
def drainedRun : List (StorageAction Unit) :=
  [.submit .write (), .call 0 .grant, .call 0 .spawn, .call 0 .start,
    .call 0 .exec, .call 0 .dropPermit, .close .read, .close .write,
    .pollReads, .pollWrites]

def returnAtOnce (engine : Nat) (_ : Unit) :
    Option (Nat × (Unit ⊕ Except String Unit)) :=
  some (engine + 1, .inr (.ok ()))

theorem waitIdle_quiescent_drainedRun :
    exists s t,
      runFrom (storageStep returnAtOnce) (.new 0 2) drainedRun = some s ∧
        s.idle = true ∧
        runFrom (storageStep returnAtOnce) s [.call 0 .dropEngine] = some t ∧
        forall c, c ∈ t.calls -> ¬ c.Executing := by
  have hboth : exists s t : AsyncStorage Nat Unit Unit,
      runFrom (storageStep returnAtOnce) (.new 0 2) drainedRun = some s ∧
        s.idle = true ∧
        runFrom (storageStep returnAtOnce) s [.call 0 .dropEngine] = some t :=
    ⟨_, _, rfl, rfl, rfl⟩
  rcases hboth with ⟨s, t, hrun, hidle, hlater⟩
  exact ⟨s, t, hrun, hidle, hlater, waitIdle_quiescent hrun hidle hlater⟩

/-!
### Taking the store apart
-/

theorem countP_holdsEngine_of_quiet {calls : List (Call closure result)}
    (hquiet : forall c, c ∈ calls -> c.phase.holdsPermit = false) :
    calls.countP (fun c => c.phase.holdsEngine) = 0 <->
      forall c, c ∈ calls -> forall r, c.phase ≠ .permitDropped r := by
  rw [List.countP_eq_zero]
  constructor
  · intro h c hmem r hphase
    have hnone := h c hmem
    rw [hphase] at hnone
    exact hnone rfl
  · intro h c hmem
    have hpermit := hquiet c hmem
    have hdropped := h c hmem
    cases hphase : c.phase with
    | permitDropped r => exact absurd hphase (hdropped r)
    | queued f => simp [CallPhase.holdsEngine]
    | granted f => simp [CallPhase.holdsEngine]
    | spawned f =>
        rw [hphase] at hpermit
        cases hpermit
    | running f =>
        rw [hphase] at hpermit
        cases hpermit
    | finishing r =>
        rw [hphase] at hpermit
        cases hpermit
    | returned r => simp [CallPhase.holdsEngine]
    | rejected e => simp [CallPhase.holdsEngine]
    | cancelled => simp [CallPhase.holdsEngine]

/--
A closed, idle store without other clones gives its engine back exactly when no
storage closure is between the drop of its permit and the drop of its `Arc`.
-/
theorem intoEngine_ok_iff
    {body : world -> closure ->
      Option (world × (closure ⊕ Except String result))}
    {engine : world} {readerPoolSize : Nat}
    {s : AsyncStorage world closure result}
    {acts : List (StorageAction closure)}
    (hrun : runFrom (storageStep body) (.new engine readerPoolSize) acts =
      some s)
    (hidle : s.idle = true) (hclones : s.clones = 1) :
    s.intoEngine = .ok s.engine <->
      forall c, c ∈ s.calls -> forall r, c.phase ≠ .permitDropped r := by
  have hquiet : forall c, c ∈ s.calls -> c.phase.holdsPermit = false :=
    fun c hmem => (accounted_of_run hrun).quiet hidle hmem
  rw [← countP_holdsEngine_of_quiet hquiet]
  unfold AsyncStorage.intoEngine AsyncStorage.strongCount
  rw [hclones]
  split
  · rename_i hone
    have hzero : s.calls.countP (fun c => c.phase.holdsEngine) = 0 := by omega
    simp [hzero]
  · rename_i hmore
    have hpos : s.calls.countP (fun c => c.phase.holdsEngine) ≠ 0 := by omega
    simp [hpos]

theorem intoEngine_ok_iff_drainedRun :
    exists s,
      runFrom (storageStep returnAtOnce) (.new 0 2)
          (drainedRun ++ [.call 0 .dropEngine]) = some s ∧
        (s.intoEngine = .ok s.engine <->
          forall c, c ∈ s.calls -> forall r, c.phase ≠ .permitDropped r) := by
  have hone : exists s : AsyncStorage Nat Unit Unit,
      runFrom (storageStep returnAtOnce) (.new 0 2)
          (drainedRun ++ [.call 0 .dropEngine]) = some s ∧
        s.idle = true ∧ s.clones = 1 := ⟨_, rfl, rfl, rfl⟩
  rcases hone with ⟨s, hrun, hidle, hclones⟩
  exact ⟨s, hrun, intoEngine_ok_iff hrun hidle hclones⟩

/-- The pool thread has dropped its permit and not yet its `Arc`. -/
theorem intoEngine_err_of_drained :
    ¬ forall (world closure result : Type)
        (body : world -> closure ->
          Option (world × (closure ⊕ Except String result)))
        (engine : world) (readerPoolSize : Nat)
        (s : AsyncStorage world closure result)
        (acts : List (StorageAction closure)),
      runFrom (storageStep body) (.new engine readerPoolSize) acts = some s ->
        s.idle = true -> s.clones = 1 -> s.intoEngine = .ok s.engine := by
  intro h
  have hshared : exists s : AsyncStorage Nat Unit Unit,
      runFrom (storageStep returnAtOnce) (.new 0 2) drainedRun = some s ∧
        s.idle = true ∧ s.clones = 1 ∧ s.intoEngine = .error s :=
    ⟨_, rfl, rfl, rfl, rfl⟩
  rcases hshared with ⟨s, hrun, hidle, hclones, herror⟩
  have hok := h Nat Unit Unit returnAtOnce 0 2 s drainedRun hrun hidle hclones
  rw [herror] at hok
  cases hok

end Engine
end Valqeron
