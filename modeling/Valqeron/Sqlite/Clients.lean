import Valqeron.Foundation.Transition
import Valqeron.Sqlite.IssuerRepository

/-!
# Clients that share the issuers of a database

Any number of calls of the repository are in progress at once, each a program that
goes on by one command at a time on the committed database.  A command may also
fail with an error of the database, which then has done nothing.  A call that is
given up simply stays where it is.

Beside each call stands what it has heard so far and the row that its write has
replaced, which no step looks at.
-/

namespace Valqeron
namespace Sqlite

open Foundation
open Domain

inductive ClientOp where
  | insert (issuer : Issuer)
  | findById (id : IssuerId) (mode : LoadMode)
  | applyPatch (id : IssuerId) (expectedVersion : Nat) (patch : IssuerPatch)
  | update (issuer : Issuer) (expectedVersion : Nat)
  | delete (id : IssuerId) (expectedVersion : Nat)
deriving DecidableEq

inductive Report where
  | inserted (r : Except StorageFault Unit)
  | found (r : Except StorageFault (Option StoredIssuer))
  | written (r : Except StorageFault WriteOutcome)
deriving DecidableEq

namespace ClientOp

def program : ClientOp -> SqlProgram Report
  | insert issuer => do
      let r ← SqliteIssuerRepository.insert issuer
      pure (.inserted r)
  | findById id mode => do
      let r ← SqliteIssuerRepository.findById id mode
      pure (.found r)
  | applyPatch id expectedVersion patch => do
      let r ← SqliteIssuerRepository.applyPatch id expectedVersion patch
      pure (.written r)
  | update issuer expectedVersion => do
      let r ← SqliteIssuerRepository.update issuer expectedVersion
      pure (.written r)
  | delete id expectedVersion => do
      let r ← SqliteIssuerRepository.delete id expectedVersion
      pure (.written r)

def statement : ClientOp -> Option Statement
  | insert issuer => some (insertStatement issuer)
  | findById _ _ => none
  | applyPatch id expectedVersion patch =>
      some (patchStatement id expectedVersion patch)
  | update issuer expectedVersion =>
      some (updateStatement issuer expectedVersion)
  | delete id expectedVersion => some (deleteStatement id expectedVersion)

/-- The row and the version that a version-guarded write asks for. -/
def guardedBy : ClientOp -> Option (Uuid × Nat)
  | insert _ => none
  | findById _ _ => none
  | applyPatch id expectedVersion _ => some (id.uuid, expectedVersion)
  | update issuer expectedVersion => some (issuer.id.uuid, expectedVersion)
  | delete id expectedVersion => some (id.uuid, expectedVersion)

def insertedId : ClientOp -> Option Uuid
  | insert issuer => some issuer.id.uuid
  | _ => none

end ClientOp

structure Heard where
  /-- A statement of the call has affected a row. -/
  applied : Bool
  /-- The issuer row that the call has read. -/
  row : Option IssuerEntry
deriving DecidableEq

def Command.tookEffect : (c : Command) -> Response c -> Bool
  | .execute _, .ok (_ + 1) => true
  | _, _ => false

/-- The row that a writing command is about, as it is stored. -/
def Command.targetRow (d : Db) : Command -> Option IssuerRecord
  | .execute s => d.issuers.find? s.target
  | _ => none

namespace Heard

def nothing : Heard := { applied := false, row := none }

def rowAfter (h : Heard) : (c : Command) -> Response c -> Option IssuerEntry
  | .query _ (.issuerById _), .ok (some row) => some row
  | _, _ => h.row

def advance (h : Heard) (c : Command) (r : Response c) : Heard where
  applied := h.applied || c.tookEffect r
  row := h.rowAfter c r

end Heard

structure ClientCall where
  op : ClientOp
  /-- What is left of the call. -/
  rest : SqlProgram Report
  heard : Heard
  /-- The row that was stored when the write of the call took effect. -/
  before : Option IssuerRecord

namespace ClientCall

def start (op : ClientOp) : ClientCall where
  op := op
  rest := op.program
  heard := .nothing
  before := none

def report (c : ClientCall) : Option Report :=
  match c.rest with
  | .done r => some r
  | .call _ _ => none

/-- The call has written, and this is the row and the version it asked for. -/
def Applied (c : ClientCall) (id : Uuid) (expectedVersion : Nat) : Prop :=
  c.heard.applied = true ∧ c.op.guardedBy = some (id, expectedVersion)

def appliedTo (id : Uuid) (c : ClientCall) : Bool :=
  c.heard.applied && decide (c.op.guardedBy.map Prod.fst = some id)

end ClientCall

structure Clients where
  db : Db
  calls : List ClientCall

namespace Clients

def start : Clients where
  db := .empty
  calls := []

/-- The version-guarded writes on a row that have taken effect. -/
def appliedWrites (s : Clients) (id : Uuid) : Nat :=
  s.calls.countP (ClientCall.appliedTo id)

/-- Nobody has made a call to insert an issuer with the id of this one. -/
def FreshFor (s : Clients) (op : ClientOp) : Prop :=
  forall c, c ∈ s.calls ->
    op.insertedId = none ∨ c.op.insertedId ≠ op.insertedId

instance (s : Clients) (op : ClientOp) : Decidable (s.FreshFor op) :=
  inferInstanceAs (Decidable (forall c, c ∈ s.calls -> _))

end Clients

inductive ClientAction where
  /-- A client makes a call; the id of a new issuer is a fresh one. -/
  | submit (op : ClientOp)
  /-- The next command of a call, or the error with which it fails. -/
  | next (i : Nat) (fault : Option SqlError)
  /-- Calls that are not about issuers change the other table. -/
  | setSecurities (t : SortedTable Uuid SecurityRecord)

/-- The answer to a command on the committed database, or its failure. -/
def answerCommand (d : Db) (c : Command) :
    Option SqlError -> Db × Response c
  | none => Command.onDb d c
  | some e => (d, c.failWith e)

/-- A call after a command, with the row that the command replaced. -/
def ClientCall.hear (call : ClientCall) (d : Db) (c : Command)
    (next : Response c -> SqlProgram Report) (r : Response c) : ClientCall where
  op := call.op
  rest := next r
  heard := call.heard.advance c r
  before := if c.tookEffect r then c.targetRow d else call.before

def clientStep (s : Clients) : ClientAction -> Option Clients
  | .submit op =>
      if s.FreshFor op then
        some { s with calls := s.calls ++ [ClientCall.start op] }
      else
        none
  | .next i fault =>
      match s.calls[i]? with
      | none => none
      | some call =>
          match call.rest with
          | .done _ => none
          | .call c next =>
              let answer := answerCommand s.db c fault
              some
                { db := answer.1
                  calls := s.calls.set i
                    (call.hear s.db c next answer.2) }
  | .setSecurities t => some { s with db := { s.db with securities := t } }

/-!
## What a call does

A call sends no writing statement but its own, sends it again only as long as it
has had no effect, and reports success exactly when it has had one.  This is what
the retries and the second read of a write have to respect.
-/

namespace ClientOp

/-- Only the statement of the call may be sent, and not once it has had an effect. -/
def protocol (statement : Option Statement) :
    Protocol Command Response Heard where
  allowed h c := forall s, c = .execute s ->
    statement = some s ∧ h.applied = false
  possible c r := exists d fault, (answerCommand d c fault).2 = r
  advance := Heard.advance

def Reports : ClientOp -> Heard -> Report -> Prop
  | insert _, h, .inserted r => r = .ok () <-> h.applied = true
  | findById _ _, h, .found r =>
      forall i, r = .ok (some i) -> h.row = some (i.id, i.columns)
  | applyPatch _ _ _, h, .written r => r = .ok .applied <-> h.applied = true
  | update _ _, h, .written r => r = .ok .applied <-> h.applied = true
  | delete _ _, h, .written r => r = .ok .applied <-> h.applied = true
  | _, _, _ => False

end ClientOp

section Dialogues

variable {value : Type} {statement : Option Statement}

theorem withGuard_follows {post : Heard -> value -> Prop} {h : Heard}
    {role : ConnectionRole} {body : SqlProgram value}
    (hbody : body.Follows (ClientOp.protocol statement) post h) :
    (withGuard role body).Follows (ClientOp.protocol statement) post h := by
  have hquiet : forall (h : Heard) (r : Unit),
      h.advance (.takeGuard role) r = h ∧ h.advance (.dropGuard role) r = h := by
    intro h r
    cases h with
    | mk applied row =>
        cases applied with
        | false => exact ⟨rfl, rfl⟩
        | true => exact ⟨rfl, rfl⟩
  constructor
  · intro s hs
    cases hs
  · intro r _
    have htaken : body.Follows (ClientOp.protocol statement) post
        (h.advance (.takeGuard role) r) := by
      rw [(hquiet h r).left]
      exact hbody
    apply Program.follows_bind htaken
    intro h' v hv
    constructor
    · intro s hs
      cases hs
    · intro r' _
      show post (h'.advance (.dropGuard role) r') v
      rw [(hquiet h' r').right]
      exact hv

/-- Every attempt may start over from what the one before has left behind. -/
theorem retryBusy_follows {post : Heard -> Except SqlError value -> Prop}
    {again : Heard -> Prop} {op : SqlProgram (Except SqlError value)}
    (hop : forall h, again h ->
      op.Follows (ClientOp.protocol statement) post h)
    (herror : forall h e, post h (.error e) -> again h) (more : Nat)
    {h : Heard} (hstart : again h) :
    (retryBusy op more).Follows (ClientOp.protocol statement) post h := by
  induction more generalizing h with
  | zero => exact hop h hstart
  | succ more ih =>
      apply Program.follows_bind (hop h hstart)
      intro h' r hr
      cases r with
      | ok v => exact hr
      | error e =>
          simp only
          split
          · exact ih (herror h' e hr)
          · exact hr

theorem Heard.advance_query_applied (h : Heard) (role : ConnectionRole)
    (q : Query) (r : Except SqlError q.Answer) :
    (h.advance (.query role q) r).applied = h.applied :=
  Bool.or_false h.applied

theorem query_follows {role : ConnectionRole} {q : Query} {h : Heard}
    {post : Heard -> Except SqlError q.Answer -> Prop}
    (hpost : forall r,
      (exists d fault, (answerCommand d (.query role q) fault).2 = r) ->
        post (h.advance (.query role q) r) r) :
    (query role q).Follows (ClientOp.protocol statement) post h := by
  apply Program.follows_perform
  · intro s hs
    cases hs
  · exact hpost

theorem execute_follows {s : Statement} {h : Heard}
    (hh : h.applied = false) :
    (execute s).Follows (ClientOp.protocol (some s))
      (fun h' r => (exists n, r = .ok (n + 1)) <-> h'.applied = true) h := by
  apply Program.follows_perform
  · intro s' hs'
    cases hs'
    exact ⟨rfl, hh⟩
  · intro r _
    show _ <-> (h.applied || Command.tookEffect (.execute s) r) = true
    rw [hh, Bool.false_or]
    cases r with
    | error e => simp [Command.tookEffect]
    | ok n =>
        cases n with
        | zero => simp [Command.tookEffect]
        | succ n => simp [Command.tookEffect]

theorem writeOutcome_follows {s : Statement} {id : Uuid}
    {expectedVersion : Nat} {h : Heard} (hh : h.applied = false) :
    (writeOutcome id expectedVersion).Follows (ClientOp.protocol (some s))
      (fun h' r => r = .ok .applied <-> h'.applied = true) h := by
  have hread : (query .writer (.issuerVersion id)).Follows
      (ClientOp.protocol (some s)) (fun h' _ => h'.applied = false) h := by
    apply query_follows
    intro r _
    exact (h.advance_query_applied _ _ r).trans hh
  apply Program.follows_bind hread
  intro h' r hh'
  cases r with
  | error e => exact iff_of_false (by simp) (by simp [hh'])
  | ok actual =>
      apply iff_of_false
      · exact zeroRowsOutcome_ne_applied expectedVersion actual
      · simp [hh']

theorem guardedWrite_follows {s : Statement} {id : Uuid}
    {expectedVersion : Nat} {h : Heard} (hh : h.applied = false) :
    (guardedWrite s id expectedVersion).Follows (ClientOp.protocol (some s))
      (fun h' r => r = .ok .applied <-> h'.applied = true) h := by
  have hagain : forall (h' : Heard) (e : SqlError),
      (.error e = (.ok .applied : Except SqlError WriteOutcome) <->
        h'.applied = true) -> h'.applied = false := by
    intro h' e herror
    cases happlied : h'.applied with
    | false => rfl
    | true => cases herror.mpr happlied
  have hretried : forall op : SqlProgram (Except SqlError WriteOutcome),
      (forall h' : Heard, h'.applied = false ->
        op.Follows (ClientOp.protocol (some s))
          (fun h'' r => r = .ok .applied <-> h''.applied = true) h') ->
      (withBusyRetry op).Follows (ClientOp.protocol (some s))
        (fun h' r => r = .ok .applied <-> h'.applied = true) h := by
    intro op hop
    exact retryBusy_follows hop hagain (busyMaxAttempts - 1) hh
  unfold guardedWrite
  refine Program.follows_bind (hretried _ ?attempt) ?mapped
  case attempt =>
    intro h' hh'
    apply withGuard_follows
    apply Program.follows_bind (execute_follows hh')
    intro h'' affected haffected
    have hzero : (forall n, affected ≠ .ok (n + 1)) -> h''.applied = false := by
      intro hnone
      cases happlied : h''.applied with
      | false => rfl
      | true =>
          rcases haffected.mpr happlied with ⟨n, hn⟩
          exact absurd hn (hnone n)
    cases affected with
    | error e =>
        have hquiet := hzero (by simp)
        exact iff_of_false (by simp) (by simp [hquiet])
    | ok n =>
        cases n with
        | zero => exact writeOutcome_follows (hzero (by simp))
        | succ n => exact iff_of_true rfl (haffected.mp ⟨n, rfl⟩)
  case mapped =>
    intro h' r hr
    show r.mapError backend = .ok .applied <-> h'.applied = true
    rw [mapError_eq_ok]
    exact hr

theorem insertStatement_possible {issuer : Issuer}
    {r : Except SqlError Nat}
    (h : exists d fault,
      (answerCommand d (.execute (insertStatement issuer)) fault).2 = r) :
    (exists e, r = .error e) ∨ r = .ok 1 := by
  rcases h with ⟨d, fault, h⟩
  cases fault with
  | some e =>
      left
      exact ⟨e, h.symm⟩
  | none =>
      have heffect := (insertStatement issuer).exec_effect d
      change ((insertStatement issuer).apply d).2 = r at h
      unfold Statement.apply at h
      cases hexec : (insertStatement issuer).exec d with
      | error e =>
          rw [hexec] at h
          exact Or.inl ⟨e, h.symm⟩
      | ok result =>
          rw [hexec] at h heffect
          cases heffect with
          | missed v hversion hnone => cases hversion
          | inserted row hrow hfree hok => exact Or.inr h.symm
          | updated v set row hversion hset hrow hok => cases hversion
          | erased v row hversion hrow => cases hversion

theorem insert_follows (issuer : Issuer) {h : Heard}
    (hh : h.applied = false) :
    (SqliteIssuerRepository.insert issuer).Follows
      (ClientOp.protocol (some (insertStatement issuer)))
      (fun h' r => r = .ok () <-> h'.applied = true) h := by
  have hattempt : forall h' : Heard, h'.applied = false ->
      (withGuard .writer (execute (insertStatement issuer))).Follows
        (ClientOp.protocol (some (insertStatement issuer)))
        (fun h'' r => (exists n, r = .ok n) <-> h''.applied = true) h' := by
    intro h' hh'
    apply withGuard_follows
    apply Program.follows_perform
    · intro s hs
      cases hs
      exact ⟨rfl, hh'⟩
    · intro r hr
      show _ <-> (h'.applied || Command.tookEffect (.execute _) r) = true
      rw [hh', Bool.false_or]
      rcases insertStatement_possible hr with ⟨e, he⟩ | hone
      · rw [he]
        simp [Command.tookEffect]
      · rw [hone]
        simp [Command.tookEffect]
  have hagain : forall (h' : Heard) (e : SqlError),
      ((exists n, (.error e : Except SqlError Nat) = .ok n) <->
        h'.applied = true) -> h'.applied = false := by
    intro h' e herror
    cases happlied : h'.applied with
    | false => rfl
    | true =>
        rcases herror.mpr happlied with ⟨n, hn⟩
        cases hn
  apply Program.follows_bind
    (retryBusy_follows hattempt hagain (busyMaxAttempts - 1) hh)
  intro h' r hr
  show (r.map (fun _ => ())).mapError backend = .ok () <-> h'.applied = true
  rw [mapError_eq_ok, ← hr]
  cases r with
  | error e => simp [Except.map]
  | ok n => simp [Except.map]

theorem findById_follows (id : IssuerId) (mode : LoadMode) (h : Heard) :
    (SqliteIssuerRepository.findById id mode).Follows
      (ClientOp.protocol none)
      (fun h' r => forall i, r = .ok (some i) ->
        h'.row = some (i.id, i.columns)) h := by
  apply withGuard_follows
  have hread : (query .reader (.issuerById id.uuid)).Follows
      (ClientOp.protocol none)
      (fun h' r => forall row, r = .ok (some row) -> h'.row = some row) h := by
    apply query_follows
    intro r _ row hr
    rw [hr]
    rfl
  apply Program.follows_bind hread
  intro h' r hrow
  cases r with
  | error e =>
      intro i hi
      cases hi
  | ok found =>
      cases found with
      | none =>
          intro i hi
          cases hi
      | some row =>
          cases mode with
          | lazy =>
              intro i hi
              cases hi
              exact hrow row rfl
          | eager =>
              have hsecond : (query .reader
                  (.securitiesByIssuer id.uuid)).Follows
                  (ClientOp.protocol none)
                  (fun h'' _ => h''.row = some row) h' := by
                apply query_follows
                intro _ _
                exact hrow row rfl
              apply Program.follows_bind hsecond
              intro h'' securities hkept
              cases securities with
              | error e =>
                  intro i hi
                  cases hi
              | ok securities =>
                  intro i hi
                  cases hi
                  exact hkept

theorem ClientOp.program_follows (op : ClientOp) :
    op.program.Follows (ClientOp.protocol op.statement) op.Reports
      Heard.nothing := by
  cases op with
  | insert issuer =>
      apply Program.follows_bind (insert_follows issuer rfl)
      intro h r hr
      exact hr
  | findById id mode =>
      apply Program.follows_bind (findById_follows id mode Heard.nothing)
      intro h r hr
      exact hr
  | applyPatch id expectedVersion patch =>
      apply Program.follows_bind (guardedWrite_follows rfl)
      intro h r hr
      exact hr
  | update issuer expectedVersion =>
      apply Program.follows_bind (guardedWrite_follows rfl)
      intro h r hr
      exact hr
  | delete id expectedVersion =>
      apply Program.follows_bind (guardedWrite_follows rfl)
      intro h r hr
      exact hr

end Dialogues

end Sqlite
end Valqeron
