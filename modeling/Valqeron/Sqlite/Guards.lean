import Valqeron.Foundation.Transition
import Valqeron.Sqlite.BackgroundTasksRegistry
import Valqeron.Sqlite.SecurityRepository

/-!
# Who takes which guard

The repository calls as sequences of steps on the reader pool and on the writer
mutex, derived from their programs.  A call on a live handle takes one guard at a
time and gives it back before it takes the next; a call inside a dry run borrows
the connection that the dry run has locked and takes none.
-/

namespace Valqeron
namespace Sqlite

open Foundation
open Domain
open Identifiers

inductive ResourceStep where
  /-- `ReaderPool::checkout`. -/
  | takeReader
  /-- The drop of a `PooledReader`. -/
  | putReader
  /-- `lock_writer`. -/
  | lockWriter
  | unlockWriter
deriving DecidableEq, Repr

namespace DbHandle

/-- `Db::read` and `Db::write`: a dry run borrows its own connection. -/
def guardSteps (handle : DbHandle) (role : ConnectionRole) :
    List ResourceStep :=
  match handle, role with
  | live, .reader => [.takeReader]
  | live, .writer => [.lockWriter]
  | dryRun, _ => []

def releaseSteps (handle : DbHandle) (role : ConnectionRole) :
    List ResourceStep :=
  match handle, role with
  | live, .reader => [.putReader]
  | live, .writer => [.unlockWriter]
  | dryRun, _ => []

end DbHandle

def Command.resources (handle : DbHandle) : Command -> List ResourceStep
  | .takeGuard role => handle.guardSteps role
  | .dropGuard role => handle.releaseSteps role
  | .query _ _ => []
  | .execute _ => []

def SecurityCommand.resources (handle : DbHandle) :
    SecurityCommand -> List ResourceStep
  | .takeGuard role => handle.guardSteps role
  | .dropGuard role => handle.releaseSteps role
  | .query _ _ => []
  | .execute _ => []

def RegistryCommand.resources (handle : DbHandle) :
    RegistryCommand -> List ResourceStep
  | .takeGuard role => handle.guardSteps role
  | .dropGuard role => handle.releaseSteps role
  | .query _ => []

/-!
## The calls
-/

inductive RepositoryOp where
  | findIssuer (id : IssuerId) (mode : LoadMode)
  | listIssuers (mode : LoadMode)
  | listIssuersPaged (after : Option IssuerId) (limit : Nat) (mode : LoadMode)
  | issuerExists (id : IssuerId)
  | issuerExistsByCnpj (cnpj : Cnpj)
  | issuerExistsByLei (lei : Lei)
  | insertIssuer (issuer : Issuer)
  | patchIssuer (id : IssuerId) (expectedVersion : Nat) (patch : IssuerPatch)
  | updateIssuer (issuer : Issuer) (expectedVersion : Nat)
  | deleteIssuer (id : IssuerId) (expectedVersion : Nat)
  | findSecurity (id : SecurityId)
  | findSecurityByIsin (isin : Isin)
  | listSecurities
  | listSecuritiesByIssuer (issuerId : IssuerId)
  | listSecuritiesPaged (after : Option SecurityId) (limit : Nat)
  | securityExists (id : SecurityId)
  | securityExistsByIsin (isin : Isin)
  | insertSecurity (security : Security)
  | patchSecurity (id : SecurityId) (expectedVersion : Nat)
      (patch : SecurityPatch)
  | updateSecurity (security : Security) (expectedVersion : Nat)
  | deleteSecurity (id : SecurityId) (expectedVersion : Nat)
  | findBackgroundTask (id : Uuid)
  | listBackgroundTasksPaged (after : Option Uuid) (limit : Nat)
deriving DecidableEq

def RepositoryOp.role : RepositoryOp -> ConnectionRole
  | insertIssuer _ => .writer
  | patchIssuer _ _ _ => .writer
  | updateIssuer _ _ => .writer
  | deleteIssuer _ _ => .writer
  | insertSecurity _ => .writer
  | patchSecurity _ _ _ => .writer
  | updateSecurity _ _ => .writer
  | deleteSecurity _ _ => .writer
  | _ => .reader

def Takes {command : Type} {response : command -> Type} {value : Type}
    (resources : command -> List ResourceStep)
    (p : Program command response value) (steps : List ResourceStep) : Prop :=
  exists v, p.Emits resources steps v

def RepositoryOp.Steps (handle : DbHandle) :
    RepositoryOp -> List ResourceStep -> Prop
  | findIssuer id mode =>
      Takes (Command.resources handle) (SqliteIssuerRepository.findById id mode)
  | listIssuers mode =>
      Takes (Command.resources handle)
        (SqliteIssuerRepository.listAll mode)
  | listIssuersPaged after limit mode =>
      Takes (Command.resources handle)
        (SqliteIssuerRepository.listPaged after limit mode)
  | issuerExists id =>
      Takes (Command.resources handle)
        (SqliteIssuerRepository.exists_ id)
  | issuerExistsByCnpj cnpj =>
      Takes (Command.resources handle)
        (SqliteIssuerRepository.existsByCnpj cnpj)
  | issuerExistsByLei lei =>
      Takes (Command.resources handle) (SqliteIssuerRepository.existsByLei lei)
  | insertIssuer issuer =>
      Takes (Command.resources handle) (SqliteIssuerRepository.insert issuer)
  | patchIssuer id expectedVersion patch =>
      Takes (Command.resources handle)
        (SqliteIssuerRepository.applyPatch id expectedVersion patch)
  | updateIssuer issuer expectedVersion =>
      Takes (Command.resources handle)
        (SqliteIssuerRepository.update issuer expectedVersion)
  | deleteIssuer id expectedVersion =>
      Takes (Command.resources handle)
        (SqliteIssuerRepository.delete id expectedVersion)
  | findSecurity id =>
      Takes (SecurityCommand.resources handle)
        (SqliteSecurityRepository.findById id)
  | findSecurityByIsin isin =>
      Takes (SecurityCommand.resources handle)
        (SqliteSecurityRepository.findByIsin isin)
  | listSecurities =>
      Takes (SecurityCommand.resources handle)
        SqliteSecurityRepository.listAll
  | listSecuritiesByIssuer issuerId =>
      Takes (SecurityCommand.resources handle)
        (SqliteSecurityRepository.listByIssuer issuerId)
  | listSecuritiesPaged after limit =>
      Takes (SecurityCommand.resources handle)
        (SqliteSecurityRepository.listPaged after limit)
  | securityExists id =>
      Takes (SecurityCommand.resources handle)
        (SqliteSecurityRepository.exists_ id)
  | securityExistsByIsin isin =>
      Takes (SecurityCommand.resources handle)
        (SqliteSecurityRepository.existsByIsin isin)
  | insertSecurity security =>
      Takes (SecurityCommand.resources handle)
        (SqliteSecurityRepository.insert security)
  | patchSecurity id expectedVersion patch =>
      Takes (SecurityCommand.resources handle)
        (SqliteSecurityRepository.applyPatch id expectedVersion patch)
  | updateSecurity security expectedVersion =>
      Takes (SecurityCommand.resources handle)
        (SqliteSecurityRepository.update security expectedVersion)
  | deleteSecurity id expectedVersion =>
      Takes (SecurityCommand.resources handle)
        (SqliteSecurityRepository.delete id expectedVersion)
  | findBackgroundTask id =>
      Takes (RegistryCommand.resources handle)
        (SqliteBackgroundTasksRepository.findById id)
  | listBackgroundTasksPaged after limit =>
      Takes (RegistryCommand.resources handle)
        (SqliteBackgroundTasksRepository.listPaged after limit)

inductive SequenceSteps (handle : DbHandle) :
    List RepositoryOp -> List ResourceStep -> Prop where
  | nil : SequenceSteps handle [] []
  | cons {op : RepositoryOp} {ops : List RepositoryOp}
      {first rest : List ResourceStep} (hfirst : op.Steps handle first)
      (hrest : SequenceSteps handle ops rest) :
      SequenceSteps handle (op :: ops) (first ++ rest)

/-!
## One guard at a time
-/

/-- Every guard is given back before the next one is taken. -/
inductive OneAtATime : List ResourceStep -> Prop where
  | nil : OneAtATime []
  | read {rest : List ResourceStep} (h : OneAtATime rest) :
      OneAtATime (.takeReader :: .putReader :: rest)
  | write {rest : List ResourceStep} (h : OneAtATime rest) :
      OneAtATime (.lockWriter :: .unlockWriter :: rest)

theorem OneAtATime.append {first second : List ResourceStep}
    (hfirst : OneAtATime first) (hsecond : OneAtATime second) :
    OneAtATime (first ++ second) := by
  induction hfirst with
  | nil => exact hsecond
  | read _ ih => exact .read ih
  | write _ ih => exact .write ih

/-- What the steps of a call through a handle look like. -/
def DbHandle.Fits : DbHandle -> List ResourceStep -> Prop
  | .live, steps => OneAtATime steps
  | .dryRun, steps => steps = []

theorem DbHandle.Fits.append {handle : DbHandle}
    {first second : List ResourceStep} (hfirst : handle.Fits first)
    (hsecond : handle.Fits second) : handle.Fits (first ++ second) := by
  cases handle with
  | live => exact OneAtATime.append hfirst hsecond
  | dryRun =>
      have hempty : first = [] ∧ second = [] := ⟨hfirst, hsecond⟩
      rw [hempty.left, hempty.right]
      rfl

theorem DbHandle.fits_guard (handle : DbHandle) (role : ConnectionRole) :
    handle.Fits (handle.guardSteps role ++ handle.releaseSteps role) := by
  cases handle with
  | live =>
      cases role with
      | reader => exact .read .nil
      | writer => exact .write .nil
  | dryRun => rfl

/-- Turns at the guard of a role, one after the other. -/
inductive DbHandle.Turns (handle : DbHandle) (role : ConnectionRole) :
    List ResourceStep -> Prop where
  | once : Turns handle role
      (handle.guardSteps role ++ handle.releaseSteps role)
  | again {first second : List ResourceStep}
      (hfirst : Turns handle role first) (hsecond : Turns handle role second) :
      Turns handle role (first ++ second)

theorem DbHandle.Turns.fits {handle : DbHandle} {role : ConnectionRole}
    {steps : List ResourceStep} (h : handle.Turns role steps) :
    handle.Fits steps := by
  induction h with
  | once => exact handle.fits_guard role
  | again _ _ ihfirst ihsecond => exact ihfirst.append ihsecond

theorem bracket_turns {command : Type} {response : command -> Type}
    {value : Type} {resources : command -> List ResourceStep}
    {handle : DbHandle} {role : ConnectionRole} {enter leave : command}
    {body : Program command response value} {steps : List ResourceStep}
    (h : Takes resources (Program.bracket enter leave body) steps)
    (hbody : Program.Silent resources body)
    (henter : resources enter = handle.guardSteps role)
    (hleave : resources leave = handle.releaseSteps role) :
    handle.Turns role steps := by
  rcases h with ⟨v, h⟩
  rw [Program.emits_bracket hbody h, henter, hleave]
  exact .once

theorem withGuard_turns {value : Type} {handle : DbHandle}
    {role : ConnectionRole} {body : SqlProgram value}
    {steps : List ResourceStep}
    (hbody : Program.Silent (Command.resources handle) body)
    (h : Takes (Command.resources handle) (withGuard role body) steps) :
    handle.Turns role steps :=
  bracket_turns h hbody rfl rfl

theorem withBusyRetry_turns {value : Type} {handle : DbHandle}
    {body : SqlProgram (Except SqlError value)} {steps : List ResourceStep}
    (hbody : Program.Silent (Command.resources handle) body)
    (h : Takes (Command.resources handle)
      (withBusyRetry (withGuard .writer body)) steps) :
    handle.Turns .writer steps := by
  rcases h with ⟨v, h⟩
  unfold withBusyRetry at h
  rw [retryBusy_eq_retryWhile] at h
  exact Program.emits_retryWhile (handle.Turns .writer) .again
    (fun trace v hop => withGuard_turns hbody ⟨v, hop⟩) _ h

theorem Takes.of_map {command : Type} {response : command -> Type}
    {value value' : Type} {resources : command -> List ResourceStep}
    {p : Program command response value} {g : value -> value'}
    {steps : List ResourceStep}
    (h : Takes resources (p >>= fun v => pure (g v)) steps) :
    Takes resources p steps := by
  rcases h with ⟨_, h⟩
  rcases Program.emits_bind h with ⟨first, rest, v, hsplit, hfirst, hrest⟩
  rw [hsplit, hrest.left, List.append_nil]
  exact ⟨v, hfirst⟩

theorem silent_query (handle : DbHandle) (role : ConnectionRole) (q : Query) :
    Program.Silent (Command.resources handle) (query role q) :=
  Program.silent_perform rfl

theorem listWith_turns {handle : DbHandle}
    {rowsQuery : SqlProgram (Except SqlError (List IssuerEntry))}
    {securitiesQuery : SqlProgram (Except SqlError (List SecurityEntry))}
    {mode : LoadMode} {steps : List ResourceStep}
    (hrows : Program.Silent (Command.resources handle) rowsQuery)
    (hsecurities : Program.Silent (Command.resources handle) securitiesQuery)
    (h : Takes (Command.resources handle)
      (listWith rowsQuery securitiesQuery mode) steps) :
    handle.Turns .reader steps := by
  apply withGuard_turns _ h
  apply Program.silent_bind hrows
  intro rows
  cases rows with
  | error e => exact Program.silent_done _
  | ok rows =>
      cases mode with
      | lazy => exact Program.silent_done _
      | eager =>
          apply Program.silent_bind hsecurities
          intro securities
          cases securities with
          | error e => exact Program.silent_done _
          | ok securities => exact Program.silent_done _

theorem findById_turns {handle : DbHandle} {id : IssuerId} {mode : LoadMode}
    {steps : List ResourceStep}
    (h : Takes (Command.resources handle)
      (SqliteIssuerRepository.findById id mode) steps) :
    handle.Turns .reader steps := by
  apply withGuard_turns _ h
  apply Program.silent_bind (silent_query handle .reader _)
  intro row
  cases row with
  | error e => exact Program.silent_done _
  | ok row =>
      cases row with
      | none => exact Program.silent_done _
      | some row =>
          cases mode with
          | lazy => exact Program.silent_done _
          | eager =>
              apply Program.silent_bind (silent_query handle .reader _)
              intro securities
              cases securities with
              | error e => exact Program.silent_done _
              | ok securities => exact Program.silent_done _

theorem readOne_turns {handle : DbHandle} {q : Query}
    {steps : List ResourceStep}
    (h : Takes (Command.resources handle)
      (SqliteIssuerRepository.readOne q) steps) :
    handle.Turns .reader steps := by
  apply withGuard_turns _ h
  apply Program.silent_bind (silent_query handle .reader _)
  intro answer
  exact Program.silent_done _

theorem guardedWrite_turns {handle : DbHandle} {s : Statement} {id : Uuid}
    {expectedVersion : Nat} {steps : List ResourceStep}
    (h : Takes (Command.resources handle)
      (guardedWrite s id expectedVersion) steps) :
    handle.Turns .writer steps := by
  apply withBusyRetry_turns _ (Takes.of_map h)
  apply Program.silent_bind (Program.silent_perform rfl)
  intro affected
  cases affected with
  | error e => exact Program.silent_done _
  | ok n =>
      cases n with
      | zero =>
          apply Program.silent_bind (silent_query handle .writer _)
          intro actual
          cases actual with
          | error e => exact Program.silent_done _
          | ok actual => exact Program.silent_done _
      | succ n => exact Program.silent_done _

theorem readWith_turns {value : Type} {handle : DbHandle} {q : SecurityQuery}
    {decode : q.Answer -> Except SqlError value} {steps : List ResourceStep}
    (h : Takes (SecurityCommand.resources handle)
      (SqliteSecurityRepository.readWith q decode) steps) :
    handle.Turns .reader steps := by
  refine bracket_turns h ?_ rfl rfl
  apply Program.silent_bind (Program.silent_perform rfl)
  intro answer
  cases answer with
  | error e => exact Program.silent_done _
  | ok rows => exact Program.silent_done _

theorem registryReadWith_turns {value : Type} {handle : DbHandle}
    {q : RegistryQuery} {decode : q.Answer -> Except SqlError value}
    {steps : List ResourceStep}
    (h : Takes (RegistryCommand.resources handle)
      (SqliteBackgroundTasksRepository.readWith q decode) steps) :
    handle.Turns .reader steps := by
  refine bracket_turns h ?_ rfl rfl
  apply Program.silent_bind (Program.silent_perform rfl)
  intro answer
  cases answer with
  | error e => exact Program.silent_done _
  | ok rows => exact Program.silent_done _

theorem writeWith_turns {value : Type} {handle : DbHandle}
    {body : SecurityProgram (Except SqlError value)}
    {steps : List ResourceStep}
    (hbody : Program.Silent (SecurityCommand.resources handle) body)
    (h : Takes (SecurityCommand.resources handle)
      (SqliteSecurityRepository.writeWith body) steps) :
    handle.Turns .writer steps := by
  rcases Takes.of_map h with ⟨v, h⟩
  apply Program.emits_retryWhile (handle.Turns .writer) .again _ _ h
  intro trace u hattempt
  exact bracket_turns ⟨u, hattempt⟩ hbody rfl rfl

theorem securityGuardedWrite_turns {handle : DbHandle}
    {s : SecurityStatement} {id : Uuid} {expectedVersion : Nat}
    {steps : List ResourceStep}
    (h : Takes (SecurityCommand.resources handle)
      (SqliteSecurityRepository.guardedWrite s id expectedVersion) steps) :
    handle.Turns .writer steps := by
  apply writeWith_turns _ h
  apply Program.silent_bind (Program.silent_perform rfl)
  intro affected
  cases affected with
  | error e => exact Program.silent_done _
  | ok n =>
      cases n with
      | zero =>
          apply Program.silent_bind (Program.silent_perform rfl)
          intro actual
          cases actual with
          | error e => exact Program.silent_done _
          | ok actual => exact Program.silent_done _
      | succ n => exact Program.silent_done _

theorem RepositoryOp.steps_turns {handle : DbHandle} {op : RepositoryOp}
    {steps : List ResourceStep} (h : op.Steps handle steps) :
    handle.Turns op.role steps := by
  cases op with
  | findIssuer id mode => exact findById_turns h
  | listIssuers mode =>
      exact listWith_turns (silent_query handle .reader _)
        (silent_query handle .reader _) h
  | listIssuersPaged after limit mode =>
      exact listWith_turns (silent_query handle .reader _)
        (silent_query handle .reader _) h
  | issuerExists id => exact readOne_turns (q := .issuerExists id.uuid) h
  | issuerExistsByCnpj cnpj =>
      exact readOne_turns (q := .issuerExistsByCnpj cnpj.asStr) h
  | issuerExistsByLei lei =>
      exact readOne_turns (q := .issuerExistsByLei lei.asStr) h
  | insertIssuer issuer =>
      exact withBusyRetry_turns (Program.silent_perform rfl)
        (Takes.of_map h)
  | patchIssuer id expectedVersion patch => exact guardedWrite_turns h
  | updateIssuer issuer expectedVersion => exact guardedWrite_turns h
  | deleteIssuer id expectedVersion => exact guardedWrite_turns h
  | findSecurity id => exact readWith_turns h
  | findSecurityByIsin isin => exact readWith_turns h
  | listSecurities => exact readWith_turns h
  | listSecuritiesByIssuer issuerId => exact readWith_turns h
  | listSecuritiesPaged after limit => exact readWith_turns h
  | securityExists id => exact readWith_turns h
  | securityExistsByIsin isin => exact readWith_turns h
  | insertSecurity security =>
      apply writeWith_turns _ h
      apply Program.silent_bind (Program.silent_perform rfl)
      intro affected
      exact Program.silent_done _
  | patchSecurity id expectedVersion patch =>
      exact securityGuardedWrite_turns h
  | updateSecurity security expectedVersion =>
      exact securityGuardedWrite_turns h
  | deleteSecurity id expectedVersion => exact securityGuardedWrite_turns h
  | findBackgroundTask id => exact registryReadWith_turns h
  | listBackgroundTasksPaged after limit => exact registryReadWith_turns h

theorem RepositoryOp.steps_fit {handle : DbHandle} {op : RepositoryOp}
    {steps : List ResourceStep} (h : op.Steps handle steps) :
    handle.Fits steps :=
  (RepositoryOp.steps_turns h).fits

theorem SequenceSteps.fits {handle : DbHandle} {ops : List RepositoryOp}
    {steps : List ResourceStep} (h : SequenceSteps handle ops steps) :
    handle.Fits steps := by
  induction h with
  | nil =>
      cases handle with
      | live => exact .nil
      | dryRun => rfl
  | cons hfirst _ ih => exact (RepositoryOp.steps_fit hfirst).append ih

/-!
## Calls that share the pool and the mutex
-/

inductive DatabaseCall where
  | live (op : RepositoryOp)
  /-- `dry_run` with the operations of its closure. -/
  | dryRun (ops : List RepositoryOp)
  | maintenance
deriving DecidableEq

def DatabaseCall.Steps : DatabaseCall -> List ResourceStep -> Prop
  | live op, steps => op.Steps .live steps
  | dryRun ops, steps =>
      exists nested, SequenceSteps .dryRun ops nested ∧
        steps = .lockWriter :: nested ++ [.unlockWriter]
  | maintenance, steps => steps = [.lockWriter, .unlockWriter]

/-- Whatever a dry run does inside, it takes the writer and nothing else. -/
theorem DatabaseCall.dryRun_steps {ops : List RepositoryOp}
    {steps : List ResourceStep} (h : (DatabaseCall.dryRun ops).Steps steps) :
    steps = [.lockWriter, .unlockWriter] := by
  rcases h with ⟨nested, hnested, hsteps⟩
  have hempty : nested = [] := hnested.fits
  rw [hsteps, hempty]
  rfl

theorem DatabaseCall.oneAtATime {call : DatabaseCall}
    {steps : List ResourceStep} (h : call.Steps steps) : OneAtATime steps := by
  cases call with
  | live op => exact RepositoryOp.steps_fit h
  | dryRun ops =>
      rw [dryRun_steps h]
      exact .write .nil
  | maintenance =>
      have hsteps : steps = [.lockWriter, .unlockWriter] := h
      rw [hsteps]
      exact .write .nil

structure PendingCall where
  call : DatabaseCall
  steps : List ResourceStep
  possible : call.Steps steps

structure GuardState where
  idle : Nat
  /-- The call that has the writer mutex. -/
  writer : Option Nat
  /-- The steps that each call has left. -/
  calls : List (List ResourceStep)
deriving DecidableEq, Repr

def GuardState.start (readerPoolSize : Nat) (calls : List PendingCall) :
    GuardState where
  idle := readerPoolSize
  writer := none
  calls := calls.map PendingCall.steps

/-- The next step of one call; `none` while it has to wait. -/
def guardStep (s : GuardState) (i : Nat) : Option GuardState :=
  match s.calls[i]? with
  | some (.takeReader :: rest) =>
      if 0 < s.idle then
        some { s with idle := s.idle - 1, calls := s.calls.set i rest }
      else
        none
  | some (.putReader :: rest) =>
      some { s with idle := s.idle + 1, calls := s.calls.set i rest }
  | some (.lockWriter :: rest) =>
      if s.writer = none then
        some { s with writer := some i, calls := s.calls.set i rest }
      else
        none
  | some (.unlockWriter :: rest) =>
      some { s with writer := none, calls := s.calls.set i rest }
  | _ => none

inductive Remaining : List ResourceStep -> Prop where
  | free {rest : List ResourceStep} (h : OneAtATime rest) : Remaining rest
  | reading {rest : List ResourceStep} (h : OneAtATime rest) :
      Remaining (.putReader :: rest)
  | writing {rest : List ResourceStep} (h : OneAtATime rest) :
      Remaining (.unlockWriter :: rest)

def holdsReader : List ResourceStep -> Bool
  | .putReader :: _ => true
  | _ => false

def holdsWriter : List ResourceStep -> Bool
  | .unlockWriter :: _ => true
  | _ => false

/-- Every reader is idle or held; the mutex is held by the call that has it. -/
structure GuardState.Consistent (readerPoolSize : Nat) (s : GuardState) :
    Prop where
  remaining : forall (i : Nat) c, s.calls[i]? = some c -> Remaining c
  readers : s.idle + s.calls.countP holdsReader = readerPoolSize
  writer : forall (i : Nat) c, s.calls[i]? = some c ->
    (holdsWriter c = true <-> s.writer = some i)
  present : forall i : Nat, s.writer = some i ->
    exists c, s.calls[i]? = some c

theorem OneAtATime.holds_nothing {steps : List ResourceStep}
    (h : OneAtATime steps) :
    holdsReader steps = false ∧ holdsWriter steps = false := by
  cases h with
  | nil => exact ⟨rfl, rfl⟩
  | read _ => exact ⟨rfl, rfl⟩
  | write _ => exact ⟨rfl, rfl⟩

theorem Remaining.after {step : ResourceStep} {rest : List ResourceStep}
    (h : Remaining (step :: rest)) :
    Remaining rest ∧ holdsReader rest = decide (step = .takeReader) ∧
      holdsWriter rest = decide (step = .lockWriter) := by
  cases h with
  | free hone =>
      cases hone with
      | read hone => exact ⟨.reading hone, rfl, rfl⟩
      | write hone => exact ⟨.writing hone, rfl, rfl⟩
  | reading hone =>
      exact ⟨.free hone, hone.holds_nothing.left, hone.holds_nothing.right⟩
  | writing hone =>
      exact ⟨.free hone, hone.holds_nothing.left, hone.holds_nothing.right⟩

theorem GuardState.start_consistent (readerPoolSize : Nat)
    (calls : List PendingCall) :
    (GuardState.start readerPoolSize calls).Consistent readerPoolSize := by
  have hpending : forall (i : Nat) c,
      (GuardState.start readerPoolSize calls).calls[i]? = some c ->
        OneAtATime c := by
    intro i c hc
    rcases List.mem_map.mp (List.mem_of_getElem? hc) with ⟨pending, _, hp⟩
    rw [← hp]
    exact DatabaseCall.oneAtATime pending.possible
  constructor
  · intro i c hc
    exact .free (hpending i c hc)
  · have hzero : (GuardState.start readerPoolSize calls).calls.countP
        holdsReader = 0 := by
      rw [List.countP_eq_zero]
      intro c hc
      rcases List.mem_iff_getElem?.mp hc with ⟨i, hi⟩
      rw [(hpending i c hi).holds_nothing.left]
      decide
    rw [hzero]
    rfl
  · intro i c hc
    rw [(hpending i c hc).holds_nothing.right]
    constructor
    · intro h
      cases h
    · intro h
      cases h
  · intro i h
    cases h

theorem GuardState.Consistent.advance {readerPoolSize : Nat} {s : GuardState}
    (h : s.Consistent readerPoolSize) {i : Nat} {c rest : List ResourceStep}
    {idle : Nat} {writer : Option Nat} (hc : s.calls[i]? = some c)
    (hrest : Remaining rest)
    (hreaders : idle + (holdsReader rest).toNat =
      s.idle + (holdsReader c).toNat)
    (hself : holdsWriter rest = true <-> writer = some i)
    (hothers : forall j, j ≠ i -> (writer = some j <-> s.writer = some j)) :
    GuardState.Consistent readerPoolSize
      { idle := idle, writer := writer, calls := s.calls.set i rest } := by
  constructor
  · intro j d hd
    rcases getElem?_set_cases hd with ⟨_, heq⟩ | ⟨_, hbefore⟩
    · rw [heq]
      exact hrest
    · exact h.remaining j d hbefore
  · have hcount := countP_set_of_getElem? (p := holdsReader) rest hc
    have hbefore := h.readers
    simp only
    omega
  · intro j d hd
    rcases getElem?_set_cases hd with ⟨hji, heq⟩ | ⟨hji, hbefore⟩
    · rw [heq, hji]
      exact hself
    · rw [hothers j hji]
      exact h.writer j d hbefore
  · intro j hj
    rcases eq_or_ne j i with hji | hji
    · rw [hji]
      exact ⟨rest, getElem?_set_of_getElem? rest hc⟩
    · rcases h.present j ((hothers j hji).mp hj) with ⟨d, hd⟩
      exact ⟨d, (List.getElem?_set_ne (Ne.symm hji)).trans hd⟩

theorem guardStep_consistent {readerPoolSize : Nat} {s s' : GuardState}
    {i : Nat} (h : s.Consistent readerPoolSize)
    (hstep : guardStep s i = some s') : s'.Consistent readerPoolSize := by
  unfold guardStep at hstep
  split at hstep
  · rename_i rest hc
    rcases (h.remaining i _ hc).after with ⟨hrest, hreader, hwriter⟩
    split at hstep
    · rename_i hidle
      cases hstep
      apply h.advance hc hrest
      · rw [hreader]
        simp only [holdsReader, decide_true, Bool.toNat_true, Bool.toNat_false]
        omega
      · rw [hwriter]
        exact h.writer i (.takeReader :: rest) hc
      · intro j _
        exact Iff.rfl
    · cases hstep
  · rename_i rest hc
    rcases (h.remaining i _ hc).after with ⟨hrest, hreader, hwriter⟩
    cases hstep
    apply h.advance hc hrest
    · rw [hreader]
      simp [holdsReader]
    · rw [hwriter]
      exact h.writer i (.putReader :: rest) hc
    · intro j _
      exact Iff.rfl
  · rename_i rest hc
    rcases (h.remaining i _ hc).after with ⟨hrest, hreader, hwriter⟩
    split at hstep
    · rename_i hfree
      cases hstep
      apply h.advance hc hrest
      · rw [hreader]
        rfl
      · rw [hwriter]
        simp
      · intro j hji
        rw [hfree]
        simp [Ne.symm hji]
    · cases hstep
  · rename_i rest hc
    rcases (h.remaining i _ hc).after with ⟨hrest, hreader, hwriter⟩
    have howner := (h.writer i _ hc).mp rfl
    cases hstep
    apply h.advance hc hrest
    · rw [hreader]
      rfl
    · rw [hwriter]
      simp
    · intro j hji
      rw [howner]
      simp [Ne.symm hji]
  · cases hstep

theorem guardStep_of_holdsReader {s : GuardState} {i : Nat}
    {c : List ResourceStep} (hc : s.calls[i]? = some c)
    (h : holdsReader c = true) : exists s', guardStep s i = some s' := by
  unfold holdsReader at h
  split at h
  · rename_i rest
    exists { s with idle := s.idle + 1, calls := s.calls.set i rest }
    unfold guardStep
    rw [hc]
  · cases h

theorem guardStep_of_holdsWriter {s : GuardState} {i : Nat}
    {c : List ResourceStep} (hc : s.calls[i]? = some c)
    (h : holdsWriter c = true) : exists s', guardStep s i = some s' := by
  unfold holdsWriter at h
  split at h
  · rename_i rest
    exists { s with writer := none, calls := s.calls.set i rest }
    unfold guardStep
    rw [hc]
  · cases h

/-- Whoever holds a guard can give it back, and otherwise one is free. -/
theorem GuardState.Consistent.progress {readers : Nat} {s : GuardState}
    (h : s.Consistent (readers + 1)) {i : Nat} {c : List ResourceStep}
    (hc : s.calls[i]? = some c) (hne : c ≠ []) :
    exists j s', guardStep s j = some s' := by
  cases h.remaining i c hc with
  | reading hone => exact ⟨i, guardStep_of_holdsReader hc rfl⟩
  | writing hone => exact ⟨i, guardStep_of_holdsWriter hc rfl⟩
  | free hone =>
      cases hone with
      | nil => exact absurd rfl hne
      | @read rest _ =>
          by_cases hidle : 0 < s.idle
          · have hstep : guardStep s i =
                some
                  { s with
                    idle := s.idle - 1
                    calls := s.calls.set i (.putReader :: rest) } := by
              unfold guardStep
              rw [hc]
              simp only [hidle, if_true]
            exact ⟨i, _, hstep⟩
          · have hheld : 0 < s.calls.countP holdsReader := by
              have hreaders := h.readers
              omega
            rcases List.countP_pos_iff.mp hheld with ⟨d, hd, hreader⟩
            rcases List.mem_iff_getElem?.mp hd with ⟨j, hj⟩
            exact ⟨j, guardStep_of_holdsReader hj hreader⟩
      | @write rest _ =>
          cases howner : s.writer with
          | none =>
              have hstep : guardStep s i =
                  some
                    { s with
                      writer := some i
                      calls := s.calls.set i (.unlockWriter :: rest) } := by
                unfold guardStep
                rw [hc]
                simp only [howner, if_true]
              exact ⟨i, _, hstep⟩
          | some j =>
              rcases h.present j howner with ⟨d, hj⟩
              exact ⟨j, guardStep_of_holdsWriter hj
                ((h.writer j d hj).mpr howner)⟩

theorem reachable_consistent {readerPoolSize : Nat}
    {calls : List PendingCall} {acts : List Nat} {s : GuardState}
    (hrun : runFrom guardStep (.start readerPoolSize calls) acts = some s) :
    s.Consistent readerPoolSize :=
  runFrom_invariant (fun s => s.Consistent readerPoolSize)
    (fun h hstep => guardStep_consistent h hstep)
    (GuardState.start_consistent readerPoolSize calls) hrun

/--
For any number of calls and a pool of at least one reader, in every state that is
reached some call can go on while one is unfinished; nobody waits for the mutex
that it holds, and what is nested in a dry run waits for nothing.
-/
theorem noDeadlock_of_run {readers : Nat} {calls : List PendingCall}
    {acts : List Nat} {s : GuardState}
    (hrun : runFrom guardStep (.start (readers + 1) calls) acts = some s) :
    ((exists c, c ∈ s.calls ∧ c ≠ []) ->
      exists i s', guardStep s i = some s') ∧
    (forall (i : Nat) rest, s.calls[i]? = some (.lockWriter :: rest) ->
      s.writer ≠ some i) ∧
    forall ops steps, (DatabaseCall.dryRun ops).Steps steps ->
      steps = [.lockWriter, .unlockWriter] := by
  have hconsistent := reachable_consistent hrun
  refine ⟨?_, ?_, fun _ _ => DatabaseCall.dryRun_steps⟩
  · intro hunfinished
    rcases hunfinished with ⟨c, hmem, hne⟩
    rcases List.mem_iff_getElem?.mp hmem with ⟨i, hi⟩
    exact hconsistent.progress hi hne
  · intro i rest hi howner
    have hwriter := (hconsistent.writer i _ hi).mpr howner
    cases hwriter

theorem nestedOps_steps :
    SequenceSteps .dryRun [.issuerExists { uuid := 1 }, .deleteIssuer { uuid := 1 } 1]
      [] := by
  have hexists : (RepositoryOp.issuerExists { uuid := 1 }).Steps .dryRun [] :=
    ⟨.ok true, (), [], rfl, .ok true, [], rfl, (), [], rfl, rfl, rfl⟩
  have hdelete : (RepositoryOp.deleteIssuer { uuid := 1 } 1).Steps .dryRun [] :=
    ⟨.ok .applied, (), [], rfl, .ok 1, [], rfl, (), [], rfl, rfl, rfl⟩
  exact .cons hexists (.cons hdelete .nil)

/-- A dry run with nested calls, maintenance, which has to wait for it, and a read. -/
def dryRunAndMaintenance : List PendingCall :=
  [{ call := .dryRun
      [.issuerExists { uuid := 1 }, .deleteIssuer { uuid := 1 } 1]
     steps := [.lockWriter, .unlockWriter]
     possible := ⟨[], nestedOps_steps, rfl⟩ },
    { call := .maintenance
      steps := [.lockWriter, .unlockWriter]
      possible := rfl },
    { call := .live (.issuerExists { uuid := 1 })
      steps := [.takeReader, .putReader]
      possible :=
        ⟨.ok true, (), _, rfl, .ok true, _, rfl, (), [], rfl, rfl, rfl⟩ }]

theorem noDeadlock_of_run_dryRunAndMaintenance :
    exists s, runFrom guardStep (.start 1 dryRunAndMaintenance) [0] = some s ∧
      guardStep s 1 = none ∧ exists i s', guardStep s i = some s' := by
  have hrun : runFrom guardStep (.start 1 dryRunAndMaintenance) [0] =
      some
        { idle := 1
          writer := some 0
          calls := [[.unlockWriter], [.lockWriter, .unlockWriter],
            [.takeReader, .putReader]] } := rfl
  refine ⟨_, hrun, rfl, ?_⟩
  exact (noDeadlock_of_run hrun).left ⟨[.unlockWriter], by decide, by decide⟩

end Sqlite
end Valqeron
