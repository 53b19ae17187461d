import Valqeron.Domain.BackgroundTask
import Valqeron.Foundation.Checked
import Valqeron.Foundation.Transition

/-!
# Background task lifecycle

A scheduled task carries its state in its type, so that each state has the
transitions of its own and no others.  The states together form one transition
system, whose runs are the sequences of calls that the types admit.
-/

namespace Valqeron
namespace Domain

open Foundation

structure Pending where
deriving DecidableEq, Repr

structure Running where
deriving DecidableEq, Repr

structure Success where
  output : String
deriving DecidableEq, Repr

structure Failed where
  error : String
deriving DecidableEq, Repr

structure Retrying where
  lastError : String
deriving DecidableEq, Repr

structure Cancelled where
deriving DecidableEq, Repr

structure TaskAttemptTracker where
  maxAttempts : UInt32
  currentAttempt : UInt32
deriving DecidableEq, Repr

structure ScheduledBackgroundTask (State : Type) where
  id : Uuid
  name : BackgroundTaskName
  attempts : TaskAttemptTracker
  state : State
deriving DecidableEq

namespace ScheduledBackgroundTask

def maxAttempts {S : Type} (task : ScheduledBackgroundTask S) : UInt32 :=
  task.attempts.maxAttempts

def currentAttempt {S : Type} (task : ScheduledBackgroundTask S) : UInt32 :=
  task.attempts.currentAttempt

def withState {S T : Type} (task : ScheduledBackgroundTask S) (state : T) :
    ScheduledBackgroundTask T where
  id := task.id
  name := task.name
  attempts := task.attempts
  state := state

def started {S : Type} (task : ScheduledBackgroundTask S) :
    ScheduledBackgroundTask Running where
  id := task.id
  name := task.name
  attempts :=
    { task.attempts with
      currentAttempt := saturatingAdd task.attempts.currentAttempt 1 }
  state := {}

end ScheduledBackgroundTask

def Pending.start (task : ScheduledBackgroundTask Pending) :
    ScheduledBackgroundTask Running := task.started

def Pending.cancel (task : ScheduledBackgroundTask Pending) :
    ScheduledBackgroundTask Cancelled := task.withState {}

def Running.complete (task : ScheduledBackgroundTask Running)
    (output : String) : ScheduledBackgroundTask Success :=
  task.withState { output := output }

/-- The task may be retried, or has failed for good. -/
def Running.fail (task : ScheduledBackgroundTask Running) (error : String) :
    Except (ScheduledBackgroundTask Failed) (ScheduledBackgroundTask Retrying) :=
  if task.attempts.currentAttempt < task.attempts.maxAttempts then
    .ok (task.withState { lastError := error })
  else
    .error (task.withState { error := error })

theorem Running.fail_of_lt {task : ScheduledBackgroundTask Running}
    (h : task.currentAttempt < task.maxAttempts) (error : String) :
    Running.fail task error = .ok (task.withState { lastError := error }) :=
  if_pos h

theorem Running.fail_of_not_lt {task : ScheduledBackgroundTask Running}
    (h : Not (task.currentAttempt < task.maxAttempts)) (error : String) :
    Running.fail task error = .error (task.withState { error := error }) :=
  if_neg h

def Running.cancel (task : ScheduledBackgroundTask Running) :
    ScheduledBackgroundTask Cancelled := task.withState {}

def Retrying.start (task : ScheduledBackgroundTask Retrying) :
    ScheduledBackgroundTask Running := task.started

def Retrying.cancel (task : ScheduledBackgroundTask Retrying) :
    ScheduledBackgroundTask Cancelled := task.withState {}

inductive TaskBuilderError where
  | zeroMaxAttempts
  | missingId
  | missingName
deriving DecidableEq, Repr

def TaskBuilderError.message : TaskBuilderError -> String
  | zeroMaxAttempts => "max_attempts must be at least 1"
  | missingId =>
      "Missing task id. Use `BackgroundTaskBuilder::id` to set it"
  | missingName =>
      "Missing task name. Use `BackgroundTaskBuilder::name` to set it"

/-- `BackgroundTaskBuilder`, with the values that `new` starts from. -/
structure BackgroundTaskBuilder where
  id : Option Uuid := none
  name : Option BackgroundTaskName := none
  maxAttempts : UInt32 := 1

def BackgroundTaskBuilder.build (builder : BackgroundTaskBuilder) :
    Except TaskBuilderError (ScheduledBackgroundTask Pending) :=
  if builder.maxAttempts = 0 then
    .error .zeroMaxAttempts
  else
    match builder.id with
    | none => .error .missingId
    | some id =>
        match builder.name with
        | none => .error .missingName
        | some name =>
            .ok
              { id := id
                name := name
                attempts :=
                  { maxAttempts := builder.maxAttempts
                    currentAttempt := 0 }
                state := {} }

/-!
## The states as one system
-/

inductive AnyTask where
  | pending (task : ScheduledBackgroundTask Pending)
  | running (task : ScheduledBackgroundTask Running)
  | success (task : ScheduledBackgroundTask Success)
  | failed (task : ScheduledBackgroundTask Failed)
  | retrying (task : ScheduledBackgroundTask Retrying)
  | cancelled (task : ScheduledBackgroundTask Cancelled)
deriving DecidableEq

inductive TaskCall where
  | start
  | complete (output : String)
  | fail (error : String)
  | cancel
deriving DecidableEq, Repr

namespace AnyTask

def id : AnyTask -> Uuid
  | pending t => t.id
  | running t => t.id
  | success t => t.id
  | failed t => t.id
  | retrying t => t.id
  | cancelled t => t.id

def name : AnyTask -> BackgroundTaskName
  | pending t => t.name
  | running t => t.name
  | success t => t.name
  | failed t => t.name
  | retrying t => t.name
  | cancelled t => t.name

def attempts : AnyTask -> TaskAttemptTracker
  | pending t => t.attempts
  | running t => t.attempts
  | success t => t.attempts
  | failed t => t.attempts
  | retrying t => t.attempts
  | cancelled t => t.attempts

def maxAttempts (s : AnyTask) : UInt32 := s.attempts.maxAttempts

def currentAttempt (s : AnyTask) : UInt32 := s.attempts.currentAttempt

/-- `none` where the type of the task has no such method. -/
def call : AnyTask -> TaskCall -> Option AnyTask
  | pending t, .start => some (.running (Pending.start t))
  | pending t, .cancel => some (.cancelled (Pending.cancel t))
  | running t, .complete output => some (.success (Running.complete t output))
  | running t, .fail error =>
      match Running.fail t error with
      | .ok t => some (.retrying t)
      | .error t => some (.failed t)
  | running t, .cancel => some (.cancelled (Running.cancel t))
  | retrying t, .start => some (.running (Retrying.start t))
  | retrying t, .cancel => some (.cancelled (Retrying.cancel t))
  | _, _ => none

/-!
## The attempt counter

What a state says about the counter.  A task that may be started again has an
attempt left, so the next count fits below `max_attempts` and never saturates.
-/

def AttemptsFit : AnyTask -> Prop
  | pending t => t.currentAttempt.toNat = 0 ∧ 1 <= t.maxAttempts.toNat
  | running t =>
      1 <= t.currentAttempt.toNat ∧
        t.currentAttempt.toNat <= t.maxAttempts.toNat
  | success t => t.currentAttempt.toNat <= t.maxAttempts.toNat
  | failed t => t.currentAttempt.toNat = t.maxAttempts.toNat
  | retrying t => t.currentAttempt.toNat < t.maxAttempts.toNat
  | cancelled t => t.currentAttempt.toNat <= t.maxAttempts.toNat

theorem AttemptsFit.le {s : AnyTask} (h : s.AttemptsFit) :
    s.currentAttempt.toNat <= s.maxAttempts.toNat := by
  cases s with
  | pending t =>
      have hzero : t.currentAttempt.toNat = 0 := h.left
      show t.currentAttempt.toNat <= t.maxAttempts.toNat
      rw [hzero]
      exact Nat.zero_le _
  | running t => exact h.right
  | success t => exact h
  | failed t => exact Nat.le_of_eq h
  | retrying t => exact Nat.le_of_lt h
  | cancelled t => exact h

theorem AttemptsFit.lt_of_start {s s' : AnyTask} (h : s.AttemptsFit)
    (hstart : s.call .start = some s') :
    s.currentAttempt.toNat < s.maxAttempts.toNat := by
  cases s with
  | pending t =>
      have hzero : t.currentAttempt.toNat = 0 := h.left
      show t.currentAttempt.toNat < t.maxAttempts.toNat
      rw [hzero]
      exact h.right
  | running t => cases hstart
  | success t => cases hstart
  | failed t => cases hstart
  | retrying t => exact h
  | cancelled t => cases hstart

theorem toNat_started {S : Type} (task : ScheduledBackgroundTask S)
    (h : task.currentAttempt.toNat < task.maxAttempts.toNat) :
    task.started.currentAttempt.toNat = task.currentAttempt.toNat + 1 := by
  have hmax := task.maxAttempts.toNat_lt
  have hone : (1 : UInt32).toNat = 1 := rfl
  show (saturatingAdd task.currentAttempt 1).toNat = _
  rw [toNat_saturatingAdd (by omega), hone]

def starts (calls : List TaskCall) : Nat := calls.count .start

/-- The state after these calls, of a task that was built as `task`. -/
structure Follows (task : ScheduledBackgroundTask Pending)
    (calls : List TaskCall) (s : AnyTask) : Prop where
  id_eq : s.id = task.id
  name_eq : s.name = task.name
  maxAttempts_eq : s.maxAttempts = task.maxAttempts
  counted : s.currentAttempt.toNat = starts calls
  fit : s.AttemptsFit

theorem starts_snoc_start (calls : List TaskCall) :
    starts (calls ++ [.start]) = starts calls + 1 := by
  unfold starts
  rw [List.count_append, List.count_singleton_self]

theorem starts_snoc_of_ne (calls : List TaskCall) {c : TaskCall}
    (h : c ≠ .start) : starts (calls ++ [c]) = starts calls := by
  have hcount : List.count TaskCall.start [c] = 0 :=
    List.count_eq_zero.mpr (fun hmem => h (List.mem_singleton.mp hmem).symm)
  unfold starts
  rw [List.count_append, hcount, Nat.add_zero]

theorem Follows.started {task : ScheduledBackgroundTask Pending}
    {calls : List TaskCall} {S : Type} {t : ScheduledBackgroundTask S}
    {s : AnyTask} (h : Follows task calls s) (hid : s.id = t.id)
    (hname : s.name = t.name) (hattempts : s.attempts = t.attempts)
    (hlt : s.currentAttempt.toNat < s.maxAttempts.toNat) :
    Follows task (calls ++ [.start]) (.running t.started) := by
  have hmax : t.maxAttempts = s.maxAttempts :=
    congrArg TaskAttemptTracker.maxAttempts hattempts.symm
  have hcurrent : t.currentAttempt = s.currentAttempt :=
    congrArg TaskAttemptTracker.currentAttempt hattempts.symm
  have hnext : t.started.currentAttempt.toNat = s.currentAttempt.toNat + 1 := by
    rw [← hcurrent]
    apply toNat_started
    rw [hcurrent, hmax]
    exact hlt
  refine ⟨hid.symm.trans h.id_eq, hname.symm.trans h.name_eq,
    hmax.trans h.maxAttempts_eq, ?_, ?_⟩
  · rw [starts_snoc_start, ← h.counted]
    exact hnext
  · show 1 <= t.started.currentAttempt.toNat ∧
      t.started.currentAttempt.toNat <= t.maxAttempts.toNat
    rw [hnext, hmax]
    exact ⟨Nat.le_add_left 1 _, hlt⟩

theorem Follows.kept {task : ScheduledBackgroundTask Pending}
    {calls : List TaskCall} {s s' : AnyTask} {c : TaskCall}
    (h : Follows task calls s) (hc : c ≠ .start) (hid : s'.id = s.id)
    (hname : s'.name = s.name) (hattempts : s'.attempts = s.attempts)
    (hfit : s'.AttemptsFit) : Follows task (calls ++ [c]) s' := by
  have hmax : s'.maxAttempts = s.maxAttempts :=
    congrArg TaskAttemptTracker.maxAttempts hattempts
  have hcurrent : s'.currentAttempt = s.currentAttempt :=
    congrArg TaskAttemptTracker.currentAttempt hattempts
  refine ⟨hid.trans h.id_eq, hname.trans h.name_eq,
    hmax.trans h.maxAttempts_eq, ?_, hfit⟩
  rw [starts_snoc_of_ne calls hc, hcurrent]
  exact h.counted

theorem Follows.fail {task : ScheduledBackgroundTask Pending}
    {calls : List TaskCall} {t : ScheduledBackgroundTask Running} {s' : AnyTask}
    {error : String} (h : Follows task calls (.running t))
    (hcall : call (.running t) (.fail error) = some s') :
    Follows task (calls ++ [.fail error]) s' := by
  have hfit : 1 <= t.currentAttempt.toNat ∧
      t.currentAttempt.toNat <= t.maxAttempts.toNat := h.fit
  have hne : TaskCall.fail error ≠ .start := fun heq => nomatch heq
  unfold call at hcall
  by_cases hlt : t.currentAttempt < t.maxAttempts
  · simp only [Running.fail_of_lt hlt] at hcall
    cases hcall
    exact h.kept hne rfl rfl rfl (UInt32.lt_iff_toNat_lt.mp hlt)
  · simp only [Running.fail_of_not_lt hlt] at hcall
    cases hcall
    have hge : t.maxAttempts.toNat <= t.currentAttempt.toNat :=
      Nat.not_lt.mp (fun hlt' => hlt (UInt32.lt_iff_toNat_lt.mpr hlt'))
    exact h.kept hne rfl rfl rfl (Nat.le_antisymm hfit.right hge)

theorem Follows.step {task : ScheduledBackgroundTask Pending}
    {calls : List TaskCall} {s s' : AnyTask} {c : TaskCall}
    (h : Follows task calls s) (hcall : s.call c = some s') :
    Follows task (calls ++ [c]) s' := by
  have hle := h.fit.le
  cases c with
  | start =>
      have hlt := h.fit.lt_of_start hcall
      cases s with
      | pending t =>
          cases hcall
          exact h.started rfl rfl rfl hlt
      | retrying t =>
          cases hcall
          exact h.started rfl rfl rfl hlt
      | running t => cases hcall
      | success t => cases hcall
      | failed t => cases hcall
      | cancelled t => cases hcall
  | complete output =>
      cases s with
      | running t =>
          cases hcall
          exact h.kept (fun heq => nomatch heq) rfl rfl rfl hle
      | pending t => cases hcall
      | success t => cases hcall
      | failed t => cases hcall
      | retrying t => cases hcall
      | cancelled t => cases hcall
  | fail error =>
      cases s with
      | running t => exact h.fail hcall
      | pending t => cases hcall
      | success t => cases hcall
      | failed t => cases hcall
      | retrying t => cases hcall
      | cancelled t => cases hcall
  | cancel =>
      cases s with
      | pending t =>
          cases hcall
          exact h.kept (fun heq => nomatch heq) rfl rfl rfl hle
      | running t =>
          cases hcall
          exact h.kept (fun heq => nomatch heq) rfl rfl rfl hle
      | retrying t =>
          cases hcall
          exact h.kept (fun heq => nomatch heq) rfl rfl rfl hle
      | success t => cases hcall
      | failed t => cases hcall
      | cancelled t => cases hcall

theorem follows_build {builder : BackgroundTaskBuilder}
    {task : ScheduledBackgroundTask Pending}
    (h : builder.build = .ok task) :
    Follows task [] (.pending task) ∧ builder.id = some task.id ∧
      builder.name = some task.name ∧
      task.maxAttempts = builder.maxAttempts := by
  unfold BackgroundTaskBuilder.build at h
  by_cases hzero : builder.maxAttempts = 0
  · rw [if_pos hzero] at h
    cases h
  · rw [if_neg hzero] at h
    have hpos : 1 <= builder.maxAttempts.toNat := by
      apply Nat.one_le_iff_ne_zero.mpr
      intro hnat
      exact hzero (UInt32.toNat_inj.mp hnat)
    cases hid : builder.id with
    | none =>
        rw [hid] at h
        cases h
    | some id =>
        cases hname : builder.name with
        | none =>
            rw [hid, hname] at h
            cases h
        | some name =>
            rw [hid, hname] at h
            cases h
            exact ⟨⟨rfl, rfl, rfl, rfl, rfl, hpos⟩, rfl, rfl, rfl⟩

theorem follows_run {task : ScheduledBackgroundTask Pending}
    (hbuilt : Follows task [] (.pending task)) {calls : List TaskCall}
    {s : AnyTask} (hrun : runFrom call (.pending task) calls = some s) :
    Follows task calls s := by
  have hmeet : StepsMeet call (fun _ _ => True) (.pending task) calls :=
    stepsMeet_of_forall (fun _ _ _ => trivial) _
  exact runFrom_history (Follows task) (fun h _ hcall => h.step hcall) hbuilt
    hmeet hrun

/--
After any admitted sequence of calls the task is the one that was built, has
been started as often as its counter says and at most `max_attempts` times, and
the counter fits its state; starting once more never saturates.
-/
theorem attempts_of_run (builder : BackgroundTaskBuilder)
    (task : ScheduledBackgroundTask Pending)
    (hbuild : builder.build = .ok task) (calls : List TaskCall) (s : AnyTask)
    (hrun : runFrom call (.pending task) calls = some s) :
    (builder.id = some s.id ∧ builder.name = some s.name ∧
        s.maxAttempts = builder.maxAttempts) ∧
      s.currentAttempt.toNat = calls.count .start ∧
      s.currentAttempt.toNat <= s.maxAttempts.toNat ∧
      (forall s', s.call .start = some s' ->
        s.currentAttempt.toNat + 1 < 2 ^ 32) ∧
      (forall t, s = .running t ->
        1 <= t.currentAttempt.toNat ∧
          t.currentAttempt.toNat <= t.maxAttempts.toNat) ∧
      (forall t, s = .retrying t ->
        t.currentAttempt.toNat < t.maxAttempts.toNat) ∧
      forall t, s = .failed t ->
        t.currentAttempt.toNat = t.maxAttempts.toNat := by
  rcases follows_build hbuild with ⟨hbuilt, hid, hname, hmax⟩
  have h := follows_run hbuilt hrun
  refine ⟨⟨?_, ?_, ?_⟩, h.counted, h.fit.le, ?_, ?_, ?_, ?_⟩
  · rw [hid, h.id_eq]
  · rw [hname, h.name_eq]
  · rw [h.maxAttempts_eq, hmax]
  · intro s' hstart
    have hlt := h.fit.lt_of_start hstart
    have hwidth := s.maxAttempts.toNat_lt
    omega
  · intro t hgiven
    cases hgiven
    exact h.fit
  · intro t hgiven
    cases hgiven
    exact h.fit
  · intro t hgiven
    cases hgiven
    exact h.fit

def twoAttempts : BackgroundTaskBuilder where
  id := some (7 : Uuid)
  name := some
    { value := "settle"
      trimmed := by decide
      length_pos := by decide
      length_le := by decide }
  maxAttempts := 2

theorem attempts_of_failed_twice :
    exists task s, twoAttempts.build = .ok task ∧
      runFrom call (.pending task)
        [.start, .fail "timeout", .start, .fail "refused"] = some s ∧
      s.currentAttempt.toNat = 2 := by
  refine ⟨_, _, rfl, rfl, ?_⟩
  exact (attempts_of_run twoAttempts _ rfl
    [.start, .fail "timeout", .start, .fail "refused"] _ rfl).right.left

end AnyTask

end Domain
end Valqeron
