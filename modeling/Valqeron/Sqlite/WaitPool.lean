import Mathlib.Algebra.Order.Ring.Int
import Mathlib.Data.List.Perm.Basic
import Valqeron.Foundation.Transition

/-!
# The reader pool

`WaitPool` keeps idle items in a stack under a mutex, with a condition variable for
those that find it empty.  Threads interleave at the points where they take or
release the mutex; a thread that is woken has to take the mutex again before it can
look at the stack.

A waiter is notified by `notify_one`, or it wakes of itself, be it spuriously or
because its time is over.
-/

namespace Valqeron
namespace Sqlite

open Foundation

variable {item : Type}

/-- Where a thread is; the flags say that it was notified and has not come on yet. -/
inductive PoolPc (item : Type) where
  /-- Not in a call of the pool. -/
  | outside
  /-- `take`, before the mutex. -/
  | taking
  /-- At the head of the loop of `take`, with the mutex. -/
  | popping (notified : Bool)
  /-- In `wait_for_item`, with the mutex, before the predicate is looked at. -/
  | testing (notified : Bool)
  /-- On the condition variable. -/
  | blocked
  /-- Woken, before the mutex. -/
  | waking (notified : Bool)
  /-- `put`, before the mutex. -/
  | putting (x : item)
  /-- `put`, with the mutex. -/
  | pushing (x : item)
  /-- `put`, behind the mutex and before `notify_one`. -/
  | notifying
deriving DecidableEq, Repr

/-- A thread and the items of the `PooledReader`s that it has. -/
structure PoolThread (item : Type) where
  pc : PoolPc item
  readers : List item
deriving DecidableEq, Repr

structure WaitPool (item : Type) where
  /-- The end of the `Vec` comes first. -/
  idle : List item
  threads : List (PoolThread item)
deriving DecidableEq, Repr

def WaitPool.new (items : List item) : WaitPool item where
  idle := items
  threads := []

namespace PoolPc

def holdsMutex : PoolPc item -> Bool
  | popping _ => true
  | testing _ => true
  | pushing _ => true
  | _ => false

def returning : PoolPc item -> List item
  | putting x => [x]
  | pushing x => [x]
  | _ => []

/-- A `put` that has not notified yet, or a notified waiter on its way. -/
def wakeupPending : PoolPc item -> Bool
  | notifying => true
  | waking notified => notified
  | testing notified => notified
  | popping notified => notified
  | _ => false

def isBlocked : PoolPc item -> Bool
  | blocked => true
  | _ => false

end PoolPc

/-- The items that the readers of a thread hold, one that is dropped included. -/
def PoolThread.holds (t : PoolThread item) : List item :=
  t.pc.returning ++ t.readers

def PoolThread.wakeupPending (t : PoolThread item) : Bool :=
  t.pc.wakeupPending

def PoolThread.isBlocked (t : PoolThread item) : Bool :=
  t.pc.isBlocked

inductive PoolMove where
  | take
  /-- Drops one of its readers, by a return or by unwinding. -/
  | drop (k : Nat)
  /-- Gets the mutex; behind a poisoned wait the predicate is not looked at. -/
  | lock (poisoned : Bool)
  /-- Goes on with the mutex, up to the point where it releases it. -/
  | proceed (expired : Bool)
  /-- A spurious wakeup, or the end of the wait's time. -/
  | wake
deriving DecidableEq, Repr

/-- The stack and the thread after a move; `free` says that the mutex is. -/
def PoolThread.move (idle : List item) (free : Bool) (t : PoolThread item) :
    PoolMove -> Option (List item × PoolThread item)
  | .take =>
      match t.pc with
      | .outside => some (idle, { t with pc := .taking })
      | _ => none
  | .drop k =>
      match t.pc, t.readers[k]? with
      | .outside, some x =>
          some (idle, { pc := .putting x, readers := t.readers.eraseIdx k })
      | _, _ => none
  | .lock poisoned =>
      if free then
        match t.pc with
        | .taking => some (idle, { t with pc := .popping false })
        | .waking notified =>
            if poisoned then
              some (idle, { t with pc := .popping notified })
            else
              some (idle, { t with pc := .testing notified })
        | .putting x => some (idle, { t with pc := .pushing x })
        | _ => none
      else
        none
  | .proceed expired =>
      match t.pc with
      | .popping notified =>
          match idle with
          | x :: rest =>
              some (rest, { pc := .outside, readers := x :: t.readers })
          | [] => some (idle, { t with pc := .testing notified })
      | .testing notified =>
          if !idle.isEmpty || expired then
            some (idle, { t with pc := .popping notified })
          else
            some (idle, { t with pc := .blocked })
      | .pushing x => some (x :: idle, { t with pc := .notifying })
      | _ => none
  | .wake =>
      match t.pc with
      | .blocked => some (idle, { t with pc := .waking false })
      | _ => none

inductive PoolAction where
  /-- A thread comes that has not used the pool yet. -/
  | spawn
  | move (i : Nat) (m : PoolMove)
  /-- `notify_one`, which reaches some waiter if there is one. -/
  | notify (i : Nat) (target : Option Nat)
deriving DecidableEq, Repr

namespace WaitPool

def mutexFree (s : WaitPool item) : Bool :=
  !s.threads.any (fun t => t.pc.holdsMutex)

def notified (threads : List (PoolThread item)) :
    Option Nat -> Option (List (PoolThread item))
  | none => if threads.any PoolThread.isBlocked then none else some threads
  | some j =>
      match threads[j]? with
      | none => none
      | some t =>
          match t.pc with
          | .blocked =>
              some (threads.set j { t with pc := .waking true })
          | _ => none

def step (s : WaitPool item) : PoolAction -> Option (WaitPool item)
  | .spawn =>
      some
        { s with threads := s.threads ++ [{ pc := .outside, readers := [] }] }
  | .move i m =>
      match s.threads[i]? with
      | none => none
      | some t =>
          match t.move s.idle s.mutexFree m with
          | none => none
          | some (idle, t') =>
              some { idle := idle, threads := s.threads.set i t' }
  | .notify i target =>
      match s.threads[i]? with
      | none => none
      | some t =>
          match t.pc with
          | .notifying =>
              (notified (s.threads.set i { t with pc := .outside }) target).map
                (fun threads => { s with threads := threads })
          | _ => none

end WaitPool

/-!
## What a move does

Every move keeps the items of the stack and the thread together.  A thread blocks
only when the stack is empty, and whoever adds an item owes a wakeup for it.
-/

/-- What a move leaves, whichever it is. -/
structure MoveEffect (idle idle' : List item) (t t' : PoolThread item) :
    Prop where
  items : (idle' ++ t'.holds).Perm (idle ++ t.holds)
  wakeups : idle' = [] ∨
    idle'.length + t.wakeupPending.toNat <=
        idle.length + t'.wakeupPending.toNat ∧
      (t'.isBlocked = true -> t.isBlocked = true)

theorem moveEffect_of_pc {idle : List item} {t t' : PoolThread item}
    (hholds : t'.holds = t.holds)
    (hpending : t'.wakeupPending = t.wakeupPending)
    (hblocked : t'.isBlocked = true -> t.isBlocked = true) :
    MoveEffect idle idle t t' := by
  constructor
  · rw [hholds]
  · rw [hpending]
    exact Or.inr ⟨Nat.le_refl _, hblocked⟩

theorem getElem?_cons_eraseIdx_perm {xs : List item} {k : Nat} {x : item}
    (h : xs[k]? = some x) : (x :: xs.eraseIdx k).Perm xs := by
  rcases List.getElem?_eq_some_iff.mp h with ⟨hlt, hget⟩
  rw [← hget]
  exact List.getElem_cons_eraseIdx_perm hlt

theorem PoolThread.move_effect {idle idle' : List item} {free : Bool}
    {t t' : PoolThread item} {m : PoolMove}
    (h : t.move idle free m = some (idle', t')) :
    MoveEffect idle idle' t t' := by
  rcases t with ⟨pc, readers⟩
  cases m with
  | take =>
      cases pc with
      | outside =>
          cases h
          exact moveEffect_of_pc rfl rfl id
      | _ => cases h
  | drop k =>
      unfold move at h
      simp only at h
      split at h
      · rename_i x hk
        cases h
        refine ⟨?_, Or.inr ⟨Nat.le_refl _, id⟩⟩
        exact (getElem?_cons_eraseIdx_perm hk).append_left idle
      · cases h
  | lock poisoned =>
      unfold move at h
      simp only at h
      split at h
      · cases pc with
        | taking =>
            cases h
            exact moveEffect_of_pc rfl rfl id
        | waking notified =>
            simp only at h
            split at h <;> cases h <;> exact moveEffect_of_pc rfl rfl id
        | putting x =>
            cases h
            exact moveEffect_of_pc rfl rfl id
        | _ => cases h
      · cases h
  | proceed expired =>
      cases pc with
      | popping notified =>
          unfold move at h
          cases idle with
          | nil =>
              cases h
              exact moveEffect_of_pc rfl rfl id
          | cons x rest =>
              cases h
              refine ⟨List.perm_middle, Or.inr ⟨?_, id⟩⟩
              have := Bool.toNat_le (notified)
              simpa [wakeupPending, PoolPc.wakeupPending] using this
      | testing notified =>
          unfold move at h
          simp only at h
          split at h
          · cases h
            exact moveEffect_of_pc rfl rfl id
          · rename_i hempty
            cases h
            refine ⟨List.Perm.refl _, Or.inl ?_⟩
            have hboth : idle = [] ∧ expired = false := by simpa using hempty
            exact hboth.left
      | pushing x =>
          cases h
          refine ⟨?_, Or.inr ⟨?_, id⟩⟩
          · exact List.perm_middle.symm
          · simp [wakeupPending, PoolPc.wakeupPending]
      | _ => cases h
  | wake =>
      cases pc with
      | blocked =>
          cases h
          exact moveEffect_of_pc rfl rfl (fun hno => by cases hno)
      | _ => cases h

/-!
## The invariant
-/

structure WaitPool.Conserved (initial : List item) (s : WaitPool item) :
    Prop where
  items : (s.idle ++ s.threads.flatMap PoolThread.holds).Perm initial
  wakeups : 0 < s.threads.countP PoolThread.isBlocked ->
    s.idle.length <= s.threads.countP PoolThread.wakeupPending

/-- Two parts exchange what a third one makes up for. -/
theorem perm_exchange {a a' b b' c c' : List item}
    (hfirst : (a' ++ c').Perm (a ++ c))
    (hsecond : (b' ++ c).Perm (b ++ c')) : (a' ++ b').Perm (a ++ b) := by
  rw [← List.perm_append_right_iff c]
  have hleft : (a' ++ b' ++ c).Perm (a' ++ c' ++ b) := by
    rw [List.append_assoc, List.append_assoc]
    exact (hsecond.trans List.perm_append_comm).append_left a'
  have hright : (a ++ c ++ b).Perm (a ++ b ++ c) := by
    rw [List.append_assoc, List.append_assoc]
    exact List.perm_append_comm.append_left a
  exact (hleft.trans (hfirst.append_right b)).trans hright

namespace WaitPool

variable {initial : List item} {s : WaitPool item}

theorem Conserved.new (items : List item) :
    Conserved items (WaitPool.new items) := by
  constructor
  · simp [WaitPool.new]
  · intro hblocked
    exact absurd hblocked (Nat.lt_irrefl 0)

theorem Conserved.spawn (hs : s.Conserved initial) :
    Conserved initial
      { s with threads := s.threads ++ [{ pc := .outside, readers := [] }] } := by
  constructor
  · have hnone : PoolThread.holds
        ({ pc := .outside, readers := [] } : PoolThread item) = [] := rfl
    simpa [hnone] using hs.items
  · have hblocked : PoolThread.isBlocked
        ({ pc := .outside, readers := [] } : PoolThread item) = false := rfl
    have hpending : PoolThread.wakeupPending
        ({ pc := .outside, readers := [] } : PoolThread item) = false := rfl
    simpa [hblocked, hpending] using hs.wakeups

theorem Conserved.move {i : Nat} {t t' : PoolThread item}
    {idle' : List item} (hs : s.Conserved initial)
    (hi : s.threads[i]? = some t) (heffect : MoveEffect s.idle idle' t t') :
    Conserved initial
      { idle := idle', threads := s.threads.set i t' } := by
  have hpending :=
    countP_set_of_getElem? (p := PoolThread.wakeupPending) t' hi
  have hblocked := countP_set_of_getElem? (p := PoolThread.isBlocked) t' hi
  constructor
  · exact (perm_exchange heffect.items
      (flatMap_set_perm PoolThread.holds t' hi)).trans hs.items
  · intro hsome
    simp only at hsome ⊢
    rcases heffect.wakeups with hempty | ⟨hcount, hstays⟩
    · rw [hempty]
      exact Nat.zero_le _
    · have hle : t'.isBlocked.toNat <= t.isBlocked.toNat := by
        cases h : t'.isBlocked with
        | false => exact Nat.zero_le _
        | true =>
            exact Nat.le_of_eq (congrArg Bool.toNat (hstays h).symm)
      have := hs.wakeups (by omega)
      omega

theorem notified_items {threads threads' : List (PoolThread item)}
    {target : Option Nat} (h : notified threads target = some threads') :
    (threads'.flatMap PoolThread.holds).Perm
      (threads.flatMap PoolThread.holds) := by
  cases target with
  | none =>
      unfold notified at h
      simp only at h
      split at h <;> cases h
      exact List.Perm.refl _
  | some j =>
      unfold notified at h
      simp only at h
      split at h
      · cases h
      · rename_i x hj
        split at h
        · rename_i hpc
          cases h
          have hholds : ({ x with pc := .waking true } : PoolThread item).holds =
              x.holds := by
            unfold PoolThread.holds
            rw [hpc]
            rfl
          rw [← List.perm_append_right_iff x.holds]
          have hset := flatMap_set_perm PoolThread.holds
            { x with pc := .waking true } hj
          rw [hholds] at hset
          exact hset
        · cases h

/-- Where somebody still waits, one more waiter has a wakeup pending. -/
theorem notified_wakeups {threads threads' : List (PoolThread item)}
    {target : Option Nat} (h : notified threads target = some threads')
    (hblocked : 0 < threads'.countP PoolThread.isBlocked) :
    0 < threads.countP PoolThread.isBlocked ∧
      threads'.countP PoolThread.wakeupPending =
        threads.countP PoolThread.wakeupPending + 1 := by
  cases target with
  | none =>
      unfold notified at h
      simp only at h
      split at h
      · cases h
      · rename_i hnobody
        cases h
        rcases List.countP_pos_iff.mp hblocked with ⟨x, hx, hwaits⟩
        exact absurd (List.any_eq_true.mpr ⟨x, hx, hwaits⟩) hnobody
  | some j =>
      unfold notified at h
      simp only at h
      split at h
      · cases h
      · rename_i x hj
        split at h
        · rename_i hpc
          cases h
          have hx : x.isBlocked = true ∧ x.wakeupPending = false := by
            unfold PoolThread.isBlocked PoolThread.wakeupPending
            rw [hpc]
            exact ⟨rfl, rfl⟩
          have hwaiting := countP_set_of_getElem? (p := PoolThread.isBlocked)
            { x with pc := .waking true } hj
          have hwoken := countP_set_of_getElem?
            (p := PoolThread.wakeupPending) { x with pc := .waking true } hj
          have hnew : ({ x with pc := .waking true } :
              PoolThread item).isBlocked = false ∧
            ({ x with pc := .waking true } :
              PoolThread item).wakeupPending = true := ⟨rfl, rfl⟩
          rw [hx.left, hnew.left] at hwaiting
          rw [hx.right, hnew.right] at hwoken
          simp only [Bool.toNat_true, Bool.toNat_false] at hwaiting hwoken
          omega
        · cases h

theorem Conserved.notify {i : Nat} {t : PoolThread item}
    {target : Option Nat} {threads : List (PoolThread item)}
    (hs : s.Conserved initial) (hi : s.threads[i]? = some t)
    (hpc : t.pc = .notifying)
    (hnotified : notified (s.threads.set i { t with pc := .outside }) target =
      some threads) :
    Conserved initial { s with threads := threads } := by
  have ht : t.holds = ({ t with pc := .outside } : PoolThread item).holds ∧
      t.wakeupPending = true ∧ t.isBlocked = false := by
    unfold PoolThread.holds PoolThread.wakeupPending PoolThread.isBlocked
    rw [hpc]
    exact ⟨rfl, rfl, rfl⟩
  constructor
  · have hset := flatMap_set_perm PoolThread.holds
      { t with pc := .outside } hi
    rw [← ht.left, List.perm_append_right_iff] at hset
    exact (((notified_items hnotified).trans hset).append_left s.idle).trans
      hs.items
  · intro hsome
    rcases notified_wakeups hnotified hsome with ⟨hbefore, hcount⟩
    have hblocked := countP_set_of_getElem? (p := PoolThread.isBlocked)
      { t with pc := .outside } hi
    have hpending := countP_set_of_getElem? (p := PoolThread.wakeupPending)
      { t with pc := .outside } hi
    have hnew : ({ t with pc := .outside } :
        PoolThread item).isBlocked = false ∧
      ({ t with pc := .outside } :
        PoolThread item).wakeupPending = false := ⟨rfl, rfl⟩
    rw [ht.2.2, hnew.left] at hblocked
    rw [ht.2.1, hnew.right] at hpending
    simp only [Bool.toNat_true, Bool.toNat_false] at hblocked hpending
    have := hs.wakeups (by omega)
    change s.idle.length <= threads.countP PoolThread.wakeupPending
    omega

theorem Conserved.step {s' : WaitPool item} {a : PoolAction}
    (hs : s.Conserved initial) (hstep : s.step a = some s') :
    s'.Conserved initial := by
  cases a with
  | spawn =>
      cases hstep
      exact hs.spawn
  | move i m =>
      unfold WaitPool.step at hstep
      simp only at hstep
      split at hstep
      · cases hstep
      · rename_i t hi
        split at hstep
        · cases hstep
        · rename_i idle t' hmove
          cases hstep
          exact hs.move hi (PoolThread.move_effect hmove)
  | notify i target =>
      unfold WaitPool.step at hstep
      simp only at hstep
      split at hstep
      · cases hstep
      · rename_i t hi
        split at hstep
        · rename_i hpc
          rcases Option.map_eq_some_iff.mp hstep with
            ⟨threads, hnotified, hs'⟩
          subst hs'
          exact hs.notify hi hpc hnotified
        · cases hstep

/--
In every state of every run the idle items and those of the readers are the initial
ones, so distinct items have one place each; and where a waiter is blocked beside
an idle item, a wakeup is pending.
-/
theorem conserved_of_run {initial : List item} {acts : List PoolAction}
    {s : WaitPool item}
    (hrun : runFrom WaitPool.step (WaitPool.new initial) acts = some s) :
    (s.idle ++ s.threads.flatMap PoolThread.holds).Perm initial ∧
      (initial.Nodup ->
        (s.idle ++ s.threads.flatMap PoolThread.holds).Nodup) ∧
      ((exists t, t ∈ s.threads ∧ t.isBlocked = true) -> s.idle ≠ [] ->
        exists t, t ∈ s.threads ∧ t.wakeupPending = true) := by
  have hs : s.Conserved initial :=
    runFrom_invariant (Conserved initial) (fun hs hstep => hs.step hstep)
      (Conserved.new initial) hrun
  refine ⟨hs.items, hs.items.nodup_iff.mpr, ?_⟩
  intro hblocked hidle
  have hcount := hs.wakeups (List.countP_pos_iff.mpr hblocked)
  have hpos := List.length_pos_iff.mpr hidle
  exact List.countP_pos_iff.mp (by omega)

/-- Three threads share one item: the second one waits and is notified. -/
def handedOver : List PoolAction :=
  [.spawn, .spawn, .move 0 .take, .move 0 (.lock false),
    .move 0 (.proceed false), .move 1 .take, .move 1 (.lock false),
    .move 1 (.proceed false), .move 1 (.proceed false), .move 0 (.drop 0),
    .move 0 (.lock false), .move 0 (.proceed false), .notify 0 (some 1)]

theorem conserved_of_run_handedOver :
    exists s, runFrom WaitPool.step (WaitPool.new [7]) handedOver = some s ∧
      s.idle = [7] ∧
      (s.idle ++ s.threads.flatMap PoolThread.holds).Perm [7] := by
  have hrun : runFrom WaitPool.step (WaitPool.new [7]) handedOver =
      some { idle := [7], threads := [{ pc := .outside, readers := [] },
        { pc := .waking true, readers := [] }] } := by decide
  exact ⟨_, hrun, rfl, (conserved_of_run hrun).left⟩

end WaitPool

end Sqlite
end Valqeron
