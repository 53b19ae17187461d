import Valqeron.Sqlite.GuardedWrites
import Valqeron.Sqlite.PatchDuplicates

/-!
# What a guarded write reports when statements fail

The version-guarded writes of the repositories, run where every statement may
fail as busy, as locked or for another reason, and where other writers of the
process change the database whenever the writer is free.  A trace records what
the call itself does.
-/

namespace Valqeron
namespace Sqlite

open Foundation
open Domain

/-- How the statements fare one after the other, and what others do meanwhile. -/
structure Surroundings where
  /-- The error of a statement that fails before it has an effect. -/
  fate : Nat -> Option SqlError
  /-- What others have written when the writer is taken for the nth time. -/
  others : Nat -> Db -> Db

inductive CallEvent where
  | attempt
  | failed (e : SqlError)
  | wrote (before after : Db)
  | read
  | released

def CallEvent.isAttempt : CallEvent -> Bool
  | .attempt => true
  | _ => false

structure CallWorld where
  db : Db
  statements : Nat
  guards : Nat
  trace : List CallEvent

namespace CallWorld

def start (d : Db) : CallWorld where
  db := d
  statements := 0
  guards := 0
  trace := []

variable (env : Surroundings) (w : CallWorld)

def takeGuard : CallWorld :=
  { w with
    db := env.others w.guards w.db
    guards := w.guards + 1
    trace := w.trace ++ [.attempt] }

def dropGuard : CallWorld := { w with trace := w.trace ++ [.released] }

def fail (e : SqlError) : CallWorld :=
  { w with
    statements := w.statements + 1
    trace := w.trace ++ [.failed e] }

def read {answer : Type} (eval : Db -> answer) :
    CallWorld × Except SqlError answer :=
  match env.fate w.statements with
  | some e => (w.fail e, .error e)
  | none =>
      ({ w with
          statements := w.statements + 1
          trace := w.trace ++ [.read] },
        .ok (eval w.db))

def write (apply : Db -> Db × Except SqlError Nat) :
    CallWorld × Except SqlError Nat :=
  match env.fate w.statements with
  | some e => (w.fail e, .error e)
  | none =>
      match apply w.db with
      | (_, .error e) => (w.fail e, .error e)
      | (d', .ok n) =>
          ({ w with
              db := d'
              statements := w.statements + 1
              trace := w.trace ++ [.wrote w.db d'] },
            .ok n)

end CallWorld

def Command.amid (env : Surroundings) (w : CallWorld) :
    (c : Command) -> CallWorld × Response c
  | .takeGuard _ => (w.takeGuard env, ())
  | .dropGuard _ => (w.dropGuard, ())
  | .query _ q => w.read env (fun d => q.eval d)
  | .execute s => w.write env s.apply

def SecurityCommand.amid (env : Surroundings) (w : CallWorld) :
    (c : SecurityCommand) -> CallWorld × SecurityResponse c
  | .takeGuard _ => (w.takeGuard env, ())
  | .dropGuard _ => (w.dropGuard, ())
  | .query _ q => w.read env (fun d => q.eval d)
  | .execute s => w.write env s.apply

/-!
## Version-guarded statements
-/

/-- A statement on the row that has the expected version, and on no other row. -/
structure GuardedStatement where
  apply : Db -> Db × Except SqlError Nat
  versionAt : Db -> Option Nat
  expected : Nat
  /-- The version of the row after the statement, if there is a row then. -/
  next : Option Nat
  missed : forall d d', apply d = (d', .ok 0) ->
    d' = d ∧ versionAt d ≠ some expected
  changed : forall d d' n, apply d = (d', .ok (n + 1)) ->
    versionAt d = some expected ∧ versionAt d' = next

namespace GuardedStatement

def attempt (g : GuardedStatement) (env : Surroundings) (w : CallWorld) :
    CallWorld × Except SqlError WriteOutcome :=
  match (w.takeGuard env).write env g.apply with
  | (w, .error e) => (w.dropGuard, .error e)
  | (w, .ok 0) =>
      match w.read env g.versionAt with
      | (w, .error e) => (w.dropGuard, .error e)
      | (w, .ok actual) => (w.dropGuard, zeroRowsOutcome g.expected actual)
  | (w, .ok (_ + 1)) => (w.dropGuard, .ok .applied)

/-- What an attempt leaves in the trace, by what it reports. -/
inductive AttemptTrace (g : GuardedStatement) :
    List CallEvent -> Except SqlError WriteOutcome -> Prop where
  | refused (e : SqlError) :
      AttemptTrace g [.attempt, .failed e, .released] (.error e)
  | unclassified (d : Db) (e : SqlError) :
      AttemptTrace g [.attempt, .wrote d d, .failed e, .released] (.error e)
  | classified (d : Db) (hother : g.versionAt d ≠ some g.expected) :
      AttemptTrace g [.attempt, .wrote d d, .read, .released]
        (zeroRowsOutcome g.expected (g.versionAt d))
  | applied (d d' : Db) (hbefore : g.versionAt d = some g.expected)
      (hafter : g.versionAt d' = g.next) :
      AttemptTrace g [.attempt, .wrote d d', .released] (.ok .applied)

theorem attempt_trace (g : GuardedStatement) (env : Surroundings)
    (w : CallWorld) :
    exists t, (g.attempt env w).1.trace = w.trace ++ t ∧
      AttemptTrace g t (g.attempt env w).2 := by
  unfold attempt CallWorld.write
  cases hfate : env.fate (w.takeGuard env).statements with
  | some e =>
      refine ⟨_, ?_, .refused e⟩
      simp [CallWorld.fail, CallWorld.dropGuard, CallWorld.takeGuard]
  | none =>
      rcases happly : g.apply (w.takeGuard env).db with ⟨d', affected⟩
      cases affected with
      | error e =>
          refine ⟨_, ?_, .refused e⟩
          simp [CallWorld.fail, CallWorld.dropGuard, CallWorld.takeGuard]
      | ok n =>
          cases n with
          | succ n =>
              have hchanged := g.changed _ _ _ happly
              refine ⟨_, ?_, .applied _ d' hchanged.left hchanged.right⟩
              simp [CallWorld.dropGuard, CallWorld.takeGuard]
          | zero =>
              rcases g.missed _ _ happly with ⟨rfl, hother⟩
              unfold CallWorld.read
              simp only
              cases env.fate ((w.takeGuard env).statements + 1) with
              | some e =>
                  refine ⟨_, ?_, .unclassified (w.takeGuard env).db e⟩
                  simp [CallWorld.fail, CallWorld.dropGuard,
                    CallWorld.takeGuard]
              | none =>
                  refine ⟨_, ?_, .classified _ hother⟩
                  simp [CallWorld.dropGuard, CallWorld.takeGuard]

/-!
## All attempts together
-/

/-- The traces of the attempts in order; all but the last one were busy. -/
inductive CallTrace (g : GuardedStatement) :
    Nat -> List CallEvent -> Except SqlError WriteOutcome -> Prop where
  | last {more : Nat} {t : List CallEvent}
      {r : Except SqlError WriteOutcome} (h : g.AttemptTrace t r) :
      CallTrace g more t r
  | again {more : Nat} {t rest : List CallEvent} {e : SqlError}
      {r : Except SqlError WriteOutcome} (h : g.AttemptTrace t (.error e))
      (hbusy : isBusyOrLocked e = true) (hrest : CallTrace g more rest r) :
      CallTrace g (more + 1) (t ++ rest) r

def Quiet (t : List CallEvent) : Prop :=
  forall d d', CallEvent.wrote d d' ∈ t -> d' = d

theorem Quiet.append {t t' : List CallEvent} (h : Quiet t) (h' : Quiet t') :
    Quiet (t ++ t') := by
  intro d d' hmem
  rcases List.mem_append.mp hmem with hmem | hmem
  · exact h d d' hmem
  · exact h' d d' hmem

/-- One write that takes the row from the expected version to the next one. -/
def WroteOnce (g : GuardedStatement) (t : List CallEvent) : Prop :=
  exists before d d' after, t = before ++ .wrote d d' :: after ∧
    Quiet before ∧ Quiet after ∧ g.versionAt d = some g.expected ∧
    g.versionAt d' = g.next

/-- An attempt follows another one only right after it was busy or locked. -/
def RetriesWhenBusy (t : List CallEvent) : Prop :=
  forall earlier rest, t = earlier ++ .attempt :: rest -> earlier = [] ∨
    exists before e, earlier = before ++ [.failed e, .released] ∧
      isBusyOrLocked e = true

theorem AttemptTrace.begins {g : GuardedStatement} {t : List CallEvent}
    {r : Except SqlError WriteOutcome} (h : g.AttemptTrace t r) :
    exists body, t = .attempt :: body ∧
      forall event, event ∈ body -> event.isAttempt = false := by
  cases h with
  | refused e => exact ⟨_, rfl, by simp [CallEvent.isAttempt]⟩
  | unclassified d e => exact ⟨_, rfl, by simp [CallEvent.isAttempt]⟩
  | classified d hother => exact ⟨_, rfl, by simp [CallEvent.isAttempt]⟩
  | applied d d' hbefore hafter =>
      exact ⟨_, rfl, by simp [CallEvent.isAttempt]⟩

theorem AttemptTrace.ends_busy {g : GuardedStatement} {t : List CallEvent}
    {e : SqlError} (h : g.AttemptTrace t (.error e))
    (hbusy : isBusyOrLocked e = true) :
    Quiet t ∧ exists before, t = before ++ [.failed e, .released] := by
  generalize hr : (Except.error e : Except SqlError WriteOutcome) = r at h
  cases h with
  | refused e' =>
      cases hr
      exact ⟨by simp [Quiet], [.attempt], rfl⟩
  | unclassified d e' =>
      cases hr
      exact ⟨by simp [Quiet], [.attempt, .wrote d d], rfl⟩
  | classified d hother =>
      rw [zeroRowsOutcome_not_busy hr.symm] at hbusy
      cases hbusy
  | applied d d' hbefore hafter => cases hr

theorem AttemptTrace.quiet {g : GuardedStatement} {t : List CallEvent}
    {r : Except SqlError WriteOutcome} (h : g.AttemptTrace t r)
    (hr : r ≠ .ok .applied) : Quiet t := by
  cases h with
  | refused e => simp [Quiet]
  | unclassified d e => simp [Quiet]
  | classified d hother => simp [Quiet]
  | applied d d' hbefore hafter => exact absurd rfl hr

theorem AttemptTrace.wroteOnce {g : GuardedStatement} {t : List CallEvent}
    (h : g.AttemptTrace t (.ok .applied)) : g.WroteOnce t := by
  generalize hr : (Except.ok .applied : Except SqlError WriteOutcome) = r at h
  cases h with
  | refused e => cases hr
  | unclassified d e => cases hr
  | classified d hother => exact absurd hr.symm (zeroRowsOutcome_ne_applied _ _)
  | applied d d' hbefore hafter =>
      exact ⟨[.attempt], d, d', [.released], rfl, by simp [Quiet],
        by simp [Quiet], hbefore, hafter⟩

theorem AttemptTrace.mismatch {g : GuardedStatement} {t : List CallEvent}
    {expected actual : Nat}
    (h : g.AttemptTrace t (.ok (.versionMismatch expected actual))) :
    expected = g.expected ∧ actual ≠ g.expected := by
  generalize hr :
    (Except.ok (.versionMismatch expected actual) :
      Except SqlError WriteOutcome) = r at h
  cases h with
  | refused e => cases hr
  | unclassified d e => cases hr
  | classified d hother =>
      unfold zeroRowsOutcome at hr
      cases hversion : g.versionAt d with
      | none =>
          rw [hversion] at hr
          cases hr
      | some stored =>
          rw [hversion] at hr hother
          simp only at hr
          split at hr
          · cases hr
            exact ⟨rfl, fun heq => hother (congrArg some heq)⟩
          · cases hr
  | applied d d' hbefore hafter => cases hr

theorem CallTrace.quiet {g : GuardedStatement} {more : Nat}
    {t : List CallEvent} {r : Except SqlError WriteOutcome}
    (h : g.CallTrace more t r) (hr : r ≠ .ok .applied) : Quiet t := by
  induction h with
  | last h => exact h.quiet hr
  | again h hbusy _ ih => exact (h.ends_busy hbusy).left.append (ih hr)

theorem CallTrace.wroteOnce {g : GuardedStatement} {more : Nat}
    {t : List CallEvent} {r : Except SqlError WriteOutcome}
    (h : g.CallTrace more t r) (hr : r = .ok .applied) : g.WroteOnce t := by
  induction h with
  | last h =>
      subst hr
      exact h.wroteOnce
  | again h hbusy _ ih =>
      rename_i first rest e r _
      rcases ih hr with ⟨before, d, d', after, rfl, hbefore, hrest⟩
      exact ⟨first ++ before, d, d', after, (List.append_assoc ..).symm,
        (h.ends_busy hbusy).left.append hbefore, hrest⟩

theorem CallTrace.mismatch {g : GuardedStatement} {more : Nat}
    {t : List CallEvent} {r : Except SqlError WriteOutcome}
    (h : g.CallTrace more t r) {expected actual : Nat}
    (hr : r = .ok (.versionMismatch expected actual)) :
    expected = g.expected ∧ actual ≠ g.expected := by
  induction h with
  | last h =>
      subst hr
      exact h.mismatch
  | again h hbusy _ ih => exact ih hr

theorem CallTrace.attempts_le {g : GuardedStatement} {more : Nat}
    {t : List CallEvent} {r : Except SqlError WriteOutcome}
    (h : g.CallTrace more t r) :
    t.countP CallEvent.isAttempt <= more + 1 := by
  have hone : forall {t r}, g.AttemptTrace t r ->
      t.countP CallEvent.isAttempt = 1 := by
    intro t r h
    rcases h.begins with ⟨body, rfl, hbody⟩
    have hnone : body.countP CallEvent.isAttempt = 0 := by
      rw [List.countP_eq_zero]
      intro event hevent
      rw [hbody event hevent]
      exact Bool.false_ne_true
    rw [List.countP_cons, hnone]
    rfl
  induction h with
  | last h =>
      rw [hone h]
      exact Nat.le_add_left 1 _
  | again h hbusy _ ih =>
      rw [List.countP_append, hone h, Nat.add_comm]
      exact Nat.add_le_add_right ih 1

theorem AttemptTrace.first {g : GuardedStatement} {t : List CallEvent}
    {r : Except SqlError WriteOutcome} (h : g.AttemptTrace t r)
    {earlier rest : List CallEvent} (ht : t = earlier ++ .attempt :: rest) :
    earlier = [] := by
  rcases h.begins with ⟨body, rfl, hbody⟩
  cases earlier with
  | nil => rfl
  | cons event earlier =>
      rw [List.cons_append] at ht
      injection ht with _ hbodyEq
      have hmem : CallEvent.attempt ∈ body := by
        rw [hbodyEq]
        exact List.mem_append_right _ List.mem_cons_self
      cases hbody _ hmem

theorem CallTrace.retriesWhenBusy {g : GuardedStatement} {more : Nat}
    {t : List CallEvent} {r : Except SqlError WriteOutcome}
    (h : g.CallTrace more t r) : RetriesWhenBusy t := by
  induction h with
  | last h =>
      intro earlier rest ht
      exact Or.inl (h.first ht)
  | again h hbusy _ ih =>
      rename_i first later e r _
      rcases (h.ends_busy hbusy).right with ⟨before, hfirst⟩
      intro earlier rest ht
      rcases List.append_eq_append_iff.mp ht with
        ⟨middle, hearlier, hlater⟩ | ⟨middle, hsplit, hattempt⟩
      · right
        rcases ih middle rest hlater with rfl | ⟨inner, e', rfl, he'⟩
        · rw [List.append_nil] at hearlier
          exact ⟨before, e, hearlier.trans hfirst, hbusy⟩
        · refine ⟨first ++ inner, e', ?_, he'⟩
          rw [hearlier, List.append_assoc]
      · cases middle with
        | nil =>
            rw [List.append_nil] at hsplit
            exact Or.inr ⟨before, e, hsplit.symm.trans hfirst, hbusy⟩
        | cons event middle =>
            rw [List.cons_append] at hattempt
            injection hattempt with hevent _
            subst hevent
            exact Or.inl (h.first hsplit)

def LeavesTrace (g : GuardedStatement) (more : Nat) (w : CallWorld)
    (out : CallWorld × Except SqlError WriteOutcome) : Prop :=
  exists t, out.1.trace = w.trace ++ t ∧ g.CallTrace more t out.2

/-- The retries of a program whose attempts are those of the statement. -/
theorem leavesTrace_of_retries {command : Type} {response : command -> Type}
    {handle : CallWorld -> (c : command) -> CallWorld × response c}
    {op : Program command response (Except SqlError WriteOutcome)}
    {g : GuardedStatement} {env : Surroundings}
    (hop : forall w, op.run handle w = g.attempt env w) (more : Nat)
    (w : CallWorld) :
    g.LeavesTrace more w
      ((Program.retryWhile SqliteSecurityRepository.isBusy op more).run
        handle w) := by
  refine Program.run_retryWhile_induction ?_ ?_ more w
  · intro more w _
    rcases g.attempt_trace env w with ⟨t, htrace, hattempt⟩
    rw [hop]
    exact ⟨t, htrace, .last hattempt⟩
  · intro more w out hbusy h
    rcases h with ⟨rest, hrest, hcall⟩
    rcases g.attempt_trace env w with ⟨t, htrace, hattempt⟩
    rw [hop] at hbusy hrest
    refine ⟨t ++ rest, ?_, ?_⟩
    · rw [hrest, htrace, List.append_assoc]
    · cases hresult : (g.attempt env w).2 with
      | error e =>
          rw [hresult] at hbusy hattempt
          exact .again hattempt hbusy hcall
      | ok v =>
          rw [hresult] at hbusy
          cases hbusy

/-- What a call reports, against what it did. -/
structure TellsTruth (g : GuardedStatement)
    (out : CallWorld × Except StorageFault WriteOutcome) : Prop where
  applied : out.2 = .ok .applied -> g.WroteOnce out.1.trace
  otherwise : out.2 ≠ .ok .applied -> Quiet out.1.trace
  mismatch : forall expected actual,
    out.2 = .ok (.versionMismatch expected actual) ->
      expected = g.expected ∧ actual ≠ g.expected
  retries : RetriesWhenBusy out.1.trace
  bounded : out.1.trace.countP CallEvent.isAttempt <= busyMaxAttempts

theorem tellsTruth_of_leavesTrace {g : GuardedStatement} {d : Db}
    {out : CallWorld × Except SqlError WriteOutcome}
    (h : g.LeavesTrace (busyMaxAttempts - 1) (.start d) out) :
    g.TellsTruth (out.1, out.2.mapError backend) := by
  rcases h with ⟨t, htrace, hcall⟩
  have ht : out.1.trace = t := htrace
  subst ht
  exact
    { applied := fun hr => hcall.wroteOnce (mapError_eq_ok.mp hr)
      otherwise := fun hr => hcall.quiet (fun heq => hr (mapError_eq_ok.mpr heq))
      mismatch := fun _ _ hr => hcall.mismatch (mapError_eq_ok.mp hr)
      retries := hcall.retriesWhenBusy
      bounded := hcall.attempts_le }

end GuardedStatement

/-!
## The writes of the two repositories
-/

def settled (d : Db) : Except SqlError (Db × Nat) -> Db × Except SqlError Nat
  | .ok (d', n) => (d', .ok n)
  | .error e => (d, .error e)

theorem settled_eq_ok {d d' : Db} {n : Nat}
    {result : Except SqlError (Db × Nat)}
    (h : settled d result = (d', .ok n)) : result = .ok (d', n) := by
  cases result with
  | error e => cases h
  | ok written =>
      cases h
      rfl

theorem Statement.exec_of_apply {s : Statement} {d d' : Db} {n : Nat}
    (h : s.apply d = (d', .ok n)) : s.exec d = .ok (d', n) :=
  settled_eq_ok h

theorem SecurityStatement.exec_of_apply {s : SecurityStatement} {d d' : Db}
    {n : Nat} (h : s.apply d = (d', .ok n)) : s.exec d = .ok (d', n) :=
  settled_eq_ok h

namespace GuardedStatement

def ofVersions (apply : Db -> Db × Except SqlError Nat)
    (versionAt : Db -> Option Nat) (expected : Nat) (next : Option Nat)
    (h : forall d d' n, apply d = (d', .ok n) ->
      MissesOrTakes versionAt expected next d d' n) : GuardedStatement where
  apply := apply
  versionAt := versionAt
  expected := expected
  next := next
  missed := by
    intro d d' happly
    rcases h d d' 0 happly with ⟨_, hmissed⟩ | ⟨hn, _⟩
    · exact hmissed
    · cases hn
  changed := by
    intro d d' n happly
    rcases h d d' (n + 1) happly with ⟨hn, _⟩ | ⟨_, hchanged⟩
    · cases hn
    · exact hchanged

def updateIssuer (s : Statement) (id : IssuerId) (v : Nat)
    (set : IssuerRecord -> IssuerRecord)
    (hexec : forall d, s.exec d = d.updateIssuerWhere id.uuid v set) :
    GuardedStatement :=
  ofVersions s.apply (issuerVersionAt id.uuid) v (some (v + 1))
    (fun d _ _ happly => Db.updateIssuerWhere_version
      ((hexec d).symm.trans (Statement.exec_of_apply happly)))

def deleteIssuer (id : IssuerId) (v : Nat) : GuardedStatement :=
  ofVersions (deleteStatement id v).apply (issuerVersionAt id.uuid) v none
    (fun _ _ _ happly =>
      deleteStatement_version (Statement.exec_of_apply happly))

def updateSecurity (s : SecurityStatement) (id : SecurityId) (v : Nat)
    (set : SecurityRecord -> SecurityRecord)
    (hexec : forall d, s.exec d = d.updateSecurityWhere id.uuid v set) :
    GuardedStatement :=
  ofVersions s.apply (securityVersionAt id.uuid) v (some (v + 1))
    (fun d _ _ happly => Db.updateSecurityWhere_version
      ((hexec d).symm.trans (SecurityStatement.exec_of_apply happly)))

def deleteSecurity (id : SecurityId) (v : Nat) : GuardedStatement :=
  ofVersions (deleteSecurityStatement id v).apply (securityVersionAt id.uuid) v
    none
    (fun _ _ _ happly =>
      deleteSecurityStatement_version (SecurityStatement.exec_of_apply happly))

end GuardedStatement

inductive GuardedCall where
  | patchIssuer (id : IssuerId) (expectedVersion : Nat) (patch : IssuerPatch)
  | updateIssuer (issuer : Issuer) (expectedVersion : Nat)
  | deleteIssuer (id : IssuerId) (expectedVersion : Nat)
  | patchSecurity (id : SecurityId) (expectedVersion : Nat)
      (patch : SecurityPatch)
  | updateSecurity (security : Security) (expectedVersion : Nat)
  | deleteSecurity (id : SecurityId) (expectedVersion : Nat)

namespace GuardedCall

def statement : GuardedCall -> GuardedStatement
  | patchIssuer id v patch =>
      .updateIssuer (patchStatement id v patch) id v _ (fun _ => rfl)
  | updateIssuer issuer v =>
      .updateIssuer (updateStatement issuer v) issuer.id v _ (fun _ => rfl)
  | deleteIssuer id v => .deleteIssuer id v
  | patchSecurity id v patch =>
      .updateSecurity (patchSecurityStatement id v patch) id v _
        (fun _ => rfl)
  | updateSecurity security v =>
      .updateSecurity (updateSecurityStatement security v) security.id v _
        (fun _ => rfl)
  | deleteSecurity id v => .deleteSecurity id v

/-- The repository operation, amid failing statements and other writers. -/
def run (env : Surroundings) (d : Db) :
    GuardedCall -> CallWorld × Except StorageFault WriteOutcome
  | patchIssuer id v patch =>
      (SqliteIssuerRepository.applyPatch id v patch).run (Command.amid env)
        (.start d)
  | updateIssuer issuer v =>
      (SqliteIssuerRepository.update issuer v).run (Command.amid env) (.start d)
  | deleteIssuer id v =>
      (SqliteIssuerRepository.delete id v).run (Command.amid env) (.start d)
  | patchSecurity id v patch =>
      (SqliteSecurityRepository.applyPatch id v patch).run
        (SecurityCommand.amid env) (.start d)
  | updateSecurity security v =>
      (SqliteSecurityRepository.update security v).run
        (SecurityCommand.amid env) (.start d)
  | deleteSecurity id v =>
      (SqliteSecurityRepository.delete id v).run (SecurityCommand.amid env)
        (.start d)

end GuardedCall

/-!
The attempts of both repositories are one program, over the commands of each.
-/

section Attempts

variable {command : Type} {response : command -> Type}

/-- What an attempt makes of the number of rows, and of the version it asks for. -/
structure Classifies (v : Nat)
    (stored : Program command response (Except SqlError (Option Nat)))
    (outcome : Except SqlError Nat ->
      Program command response (Except SqlError WriteOutcome))
    (report : Except SqlError (Option Nat) ->
      Program command response (Except SqlError WriteOutcome)) : Prop where
  failed : forall e, outcome (.error e) = pure (.error e)
  applied : forall n, outcome (.ok (n + 1)) = pure (.ok .applied)
  missed : outcome (.ok 0) = stored >>= report
  unread : forall e, report (.error e) = pure (.error e)
  read : forall actual, report (.ok actual) = pure (zeroRowsOutcome v actual)

theorem run_attempt
    {handle : CallWorld -> (c : command) -> CallWorld × response c}
    {env : Surroundings} {take drop : command}
    {execute : Program command response (Except SqlError Nat)}
    {stored : Program command response (Except SqlError (Option Nat))}
    {outcome : Except SqlError Nat ->
      Program command response (Except SqlError WriteOutcome)}
    {report : Except SqlError (Option Nat) ->
      Program command response (Except SqlError WriteOutcome)}
    {g : GuardedStatement} (h : Classifies g.expected stored outcome report)
    (htake : forall w, (handle w take).1 = w.takeGuard env)
    (hdrop : forall w, (handle w drop).1 = w.dropGuard)
    (hexecute : forall w, execute.run handle w = w.write env g.apply)
    (hstored : forall w, stored.run handle w = w.read env g.versionAt)
    (w : CallWorld) :
    (Program.bracket take drop (execute >>= outcome)).run handle w =
      g.attempt env w := by
  unfold GuardedStatement.attempt
  rw [Program.run_bracket_eq, htake, hdrop, Program.run_bind, hexecute]
  rcases (w.takeGuard env).write env g.apply with ⟨u, affected⟩
  cases affected with
  | error e =>
      simp only
      rw [h.failed]
      rfl
  | ok n =>
      cases n with
      | succ n =>
          simp only
          rw [h.applied]
          rfl
      | zero =>
          simp only
          rw [h.missed, Program.run_bind, hstored]
          rcases u.read env g.versionAt with ⟨u', actual⟩
          cases actual with
          | error e =>
              simp only
              rw [h.unread]
              rfl
          | ok actual =>
              simp only
              rw [h.read]
              rfl

end Attempts

theorem run_issuerAttempt {s : Statement} {id : Uuid} {v : Nat}
    {g : GuardedStatement} (happly : g.apply = s.apply)
    (hversionAt : g.versionAt = issuerVersionAt id) (hexpected : g.expected = v)
    (env : Surroundings) (w : CallWorld) :
    (withGuard .writer (do
        let affected ← execute s
        match affected with
        | .error e => pure (.error e)
        | .ok 0 => writeOutcome id v
        | .ok _ => pure (.ok .applied))).run (Command.amid env) w =
      g.attempt env w := by
  subst hexpected
  apply run_attempt (h := ⟨fun _ => rfl, fun _ => rfl, rfl, fun _ => rfl,
    fun _ => rfl⟩)
  · exact fun _ => rfl
  · exact fun _ => rfl
  · rw [happly]
    exact fun _ => rfl
  · rw [hversionAt]
    exact fun _ => rfl

theorem run_securityAttempt {s : SecurityStatement} {id : Uuid} {v : Nat}
    {g : GuardedStatement} (happly : g.apply = s.apply)
    (hversionAt : g.versionAt = securityVersionAt id)
    (hexpected : g.expected = v) (env : Surroundings) (w : CallWorld) :
    (Program.bracket (.takeGuard .writer) (.dropGuard .writer) (do
        let affected ← Program.perform (SecurityCommand.execute s)
        SqliteSecurityRepository.outcomeOf id v affected)).run
          (SecurityCommand.amid env) w =
      g.attempt env w := by
  subst hexpected
  apply run_attempt (h := ⟨fun _ => rfl, fun _ => rfl, rfl, fun _ => rfl,
    fun _ => rfl⟩)
  · exact fun _ => rfl
  · exact fun _ => rfl
  · rw [happly]
    exact fun _ => rfl
  · rw [hversionAt]
    exact fun _ => rfl

theorem retryBusy_eq_isBusy
    (op : SqlProgram (Except SqlError WriteOutcome)) (more : Nat) :
    retryBusy op more =
      Program.retryWhile SqliteSecurityRepository.isBusy op more := by
  rw [retryBusy_eq_retryWhile]
  congr 1

theorem guardedWrite_tellsTruth {s : Statement} {id : Uuid} {v : Nat}
    {g : GuardedStatement} (happly : g.apply = s.apply)
    (hversionAt : g.versionAt = issuerVersionAt id) (hexpected : g.expected = v)
    (env : Surroundings) (d : Db) :
    g.TellsTruth
      ((guardedWrite s id v).run (Command.amid env) (.start d)) := by
  unfold guardedWrite withBusyRetry
  rw [Program.run_bind, retryBusy_eq_isBusy]
  exact GuardedStatement.tellsTruth_of_leavesTrace
    (GuardedStatement.leavesTrace_of_retries
      (run_issuerAttempt happly hversionAt hexpected env) _ _)

theorem securityGuardedWrite_tellsTruth {s : SecurityStatement} {id : Uuid}
    {v : Nat} {g : GuardedStatement} (happly : g.apply = s.apply)
    (hversionAt : g.versionAt = securityVersionAt id)
    (hexpected : g.expected = v) (env : Surroundings) (d : Db) :
    g.TellsTruth
      ((SqliteSecurityRepository.guardedWrite s id v).run
        (SecurityCommand.amid env) (.start d)) := by
  unfold SqliteSecurityRepository.guardedWrite
    SqliteSecurityRepository.writeWith
  rw [Program.run_bind]
  exact GuardedStatement.tellsTruth_of_leavesTrace
    (GuardedStatement.leavesTrace_of_retries
      (run_securityAttempt happly hversionAt hexpected env) _ _)

/--
However the statements of a call fare and whatever others write between its
attempts, the call reports what it did: it reports that it was applied exactly
when it has taken the row from the expected version to the next one, or has
removed it, once.
-/
theorem guardedCall_tellsTruth (env : Surroundings) (d : Db)
    (call : GuardedCall) : call.statement.TellsTruth (call.run env d) := by
  cases call with
  | patchIssuer id v patch => exact guardedWrite_tellsTruth rfl rfl rfl env d
  | updateIssuer issuer v => exact guardedWrite_tellsTruth rfl rfl rfl env d
  | deleteIssuer id v => exact guardedWrite_tellsTruth rfl rfl rfl env d
  | patchSecurity id v patch =>
      exact securityGuardedWrite_tellsTruth rfl rfl rfl env d
  | updateSecurity security v =>
      exact securityGuardedWrite_tellsTruth rfl rfl rfl env d
  | deleteSecurity id v =>
      exact securityGuardedWrite_tellsTruth rfl rfl rfl env d

def Surroundings.quiet : Surroundings where
  fate := fun _ => none
  others := fun _ d => d

def CallEvent.leaves (versionAt : Db -> Option Nat) (v : Option Nat) :
    CallEvent -> Bool
  | .wrote _ after => versionAt after == v
  | _ => true

/-- A delete is applied, and leaves no row of the next version. -/
theorem deleteIssuer_leaves_no_version :
    ¬ forall (env : Surroundings) (d : Db) (call : GuardedCall),
      (call.run env d).2 = .ok .applied ->
      exists before after, CallEvent.wrote before after ∈
          (call.run env d).1.trace ∧
        call.statement.versionAt before = some call.statement.expected ∧
        call.statement.versionAt after =
          some (call.statement.expected + 1) := by
  intro h
  rcases h .quiet brazilianDb (.deleteIssuer brazilianIssuer.id 1)
    (by decide +kernel) with ⟨before, after, hwrote, _, hafter⟩
  have hgone : ((GuardedCall.deleteIssuer brazilianIssuer.id 1).run .quiet
      brazilianDb).1.trace.all
        (CallEvent.leaves (issuerVersionAt brazilianIssuer.id.uuid) none) =
          true := by
    decide +kernel
  have hnone : (issuerVersionAt brazilianIssuer.id.uuid after == none) = true :=
    List.all_eq_true.mp hgone _ hwrote
  have hsome : issuerVersionAt brazilianIssuer.id.uuid after = some 2 := hafter
  rw [hsome] at hnone
  cases hnone

end Sqlite
end Valqeron
