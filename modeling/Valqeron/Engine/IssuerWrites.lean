import Valqeron.Engine.WriteLane
import Valqeron.Sqlite.DryRun
import Valqeron.Sqlite.UniqueKeys

/-!
# Concurrent writes of issuers

The closures that the issuer service submits to the write lane, on the database
of an engine that nobody else writes.  A closure runs one statement at a time: it
asks whether the CNPJ and the LEI are taken, on connections of its own, and writes
on the writer connection.  The statements themselves succeed or fail as the schema
says.
-/

namespace Valqeron
namespace Engine

open Foundation
open Domain
open Sqlite

inductive IssuerWrite where
  | register (issuer : Issuer)
  | patch (id : IssuerId) (expectedVersion : Nat) (patch : IssuerPatch)
  | delete (id : IssuerId) (expectedVersion : Nat)

inductive WriteResult where
  | registered (r : Except (RegisterIssuerError StorageFault) Unit)
  | patched (r : Except (PatchIssuerError StorageFault) WriteOutcome)
  | deleted (r : Except StorageFault WriteOutcome)
deriving DecidableEq

def IssuerWrite.program : IssuerWrite -> SqlProgram WriteResult
  | .register issuer => do
      let r ← registerIssuer sqliteIssuerRepository issuer
      pure (.registered r)
  | .patch id expectedVersion p => do
      let r ← patchIssuer sqliteIssuerRepository id expectedVersion p
      pure (.patched r)
  | .delete id expectedVersion => do
      let r ← deleteIssuer sqliteIssuerRepository id expectedVersion
      pure (.deleted r)

structure WriteRequest where
  write : IssuerWrite
  dryRun : Bool

/-- What is left of the closure that `AsyncStorage::write` spawns. -/
inductive WriteClosure where
  | start (req : WriteRequest)
  | body (handle : DbHandle) (rest : SqlProgram WriteResult)

def CleanupOutcome.succeeds : CleanupOutcome where
  rollbackTo := true
  release := true
  plainRelease := true

/-- One step of a closure; a dry run is put between savepoint and cleanup. -/
def writeBody (s : TxnStore Db) :
    WriteClosure ->
      Option (TxnStore Db × (WriteClosure ⊕ Except String WriteResult))
  | .start req =>
      if req.dryRun then
        some
          (s.savepoint dryRunSavepoint, .inl (.body .dryRun req.write.program))
      else
        some (s, .inl (.body .live req.write.program))
  | .body handle (.call c next) =>
      let r := Command.onStore handle s c
      some (r.1, .inl (.body handle (next r.2)))
  | .body .live (.done v) => some (s, .inr (.ok v))
  | .body .dryRun (.done v) =>
      some (cleanup CleanupOutcome.succeeds s, .inr (.ok v))

/-- What a request does to a database of its own, and what it returns. -/
def WriteRequest.serve (d : Db) (req : WriteRequest) : Db × WriteResult :=
  let r := req.write.program.run Command.onDb d
  if req.dryRun then (d, r.2) else r

def Served (d : Db) (f : WriteClosure) (d' : Db)
    (r : Except String WriteResult) : Prop :=
  exists req, f = .start req ∧ d' = (req.serve d).1 ∧ r = .ok (req.serve d).2

/-- A taken CNPJ or LEI is answered as a duplicate. -/
def AnswersWrite (d : Db) : IssuerWrite -> WriteResult -> Prop
  | .register issuer, .registered r =>
      AnswersDuplicates d issuer.cnpj issuer.lei r
  | .patch _ _ patch, .patched r => AnswersDuplicates d patch.cnpj patch.lei r
  | .delete _ _, .deleted _ => True
  | _, _ => False

/-!
## A closure that runs alone
-/

theorem onStore_live (d : Db) (c : Command) :
    Command.onStore .live (.ofCommitted d) c =
      (.ofCommitted (Command.onDb d c).1, (Command.onDb d c).2) := by
  cases c with
  | takeGuard role => rfl
  | dropGuard role => rfl
  | query role q =>
      cases role with
      | writer => rfl
      | reader => rfl
  | execute s => rfl

theorem onStore_dryRun {d image : Db} {s : TxnStore Db}
    (h : InDryRun d image s) (c : Command) :
    InDryRun d (Command.onDb image c).1 (Command.onStore .dryRun s c).1 ∧
      (Command.onStore .dryRun s c).2 = (Command.onDb image c).2 := by
  cases c with
  | takeGuard role => exact ⟨h, rfl⟩
  | dropGuard role => exact ⟨h, rfl⟩
  | query role q =>
      have hanswer : (Except.ok (q.eval s.view) : Except SqlError q.Answer) =
          .ok (q.eval image) := by rw [h.view_eq]
      cases role with
      | writer => exact ⟨query_inDryRun h, hanswer⟩
      | reader => exact ⟨query_inDryRun h, hanswer⟩
  | execute statement =>
      rcases exec_inDryRun h statement.apply with ⟨s', hexec, hin⟩
      simp only [Command.onStore, DbHandle.execute, hexec]
      exact ⟨hin, rfl⟩

/-- How far the request has come on an engine that holds the database. -/
inductive Serving (d : Db) (req : WriteRequest) :
    TxnStore Db -> WriteClosure -> Prop where
  | start : Serving d req (.ofCommitted d) (.start req)
  | live (d' : Db) (rest : SqlProgram WriteResult)
      (hlive : req.dryRun = false)
      (hrest : rest.run Command.onDb d' = req.write.program.run Command.onDb d)
      (hunique : UniqueKeys d -> UniqueKeys d') :
      Serving d req (.ofCommitted d') (.body .live rest)
  | dryRun (image : Db) (s : TxnStore Db) (rest : SqlProgram WriteResult)
      (hdry : req.dryRun = true)
      (hrest : rest.run Command.onDb image =
        req.write.program.run Command.onDb d)
      (hin : InDryRun d image s) : Serving d req s (.body .dryRun rest)

theorem writeBody_serving {d : Db} {req : WriteRequest} {s s' : TxnStore Db}
    {f f' : WriteClosure} (h : Serving d req s f)
    (hbody : writeBody s f = some (s', .inl f')) : Serving d req s' f' := by
  cases h with
  | start =>
      simp only [writeBody] at hbody
      split at hbody
      · rename_i hdry
        cases hbody
        exact .dryRun d _ _ hdry rfl (savepoint_inDryRun d)
      · rename_i hlive
        cases hbody
        exact .live d _ (Bool.eq_false_of_not_eq_true hlive) rfl id
  | live d' rest hlive hrest hunique =>
      cases rest with
      | done v => cases hbody
      | call c next =>
          simp only [writeBody, onStore_live] at hbody
          cases hbody
          refine .live _ _ hlive hrest ?_
          intro hd
          exact uniqueKeys_onDb (hunique hd) c
  | dryRun image s rest hdry hrest hin =>
      cases rest with
      | done v => cases hbody
      | call c next =>
          rcases onStore_dryRun hin c with ⟨hin', hresponse⟩
          simp only [writeBody, hresponse] at hbody
          cases hbody
          exact .dryRun _ _ _ hdry hrest hin'

theorem writeBody_served {d : Db} {req : WriteRequest} {s s' : TxnStore Db}
    {f : WriteClosure} {r : Except String WriteResult}
    (h : Serving d req s f) (hbody : writeBody s f = some (s', .inr r)) :
    s' = .ofCommitted (req.serve d).1 ∧ r = .ok (req.serve d).2 := by
  cases h with
  | start =>
      simp only [writeBody] at hbody
      split at hbody
      · cases hbody
      · cases hbody
  | live d' rest hlive hrest hunique =>
      cases rest with
      | call c next => cases hbody
      | done v =>
          cases hbody
          simp only [WriteRequest.serve, hlive, ← hrest]
          exact ⟨rfl, rfl⟩
  | dryRun image s rest hdry hrest hin =>
      cases rest with
      | call c next => cases hbody
      | done v =>
          cases hbody
          simp only [WriteRequest.serve, hdry, ← hrest]
          exact ⟨cleanup_of_rollback hin rfl (Or.inl rfl), rfl⟩

/-- Whatever the request has done so far, the committed columns stay unique. -/
theorem Serving.unique {d : Db} {req : WriteRequest} {s : TxnStore Db}
    {f : WriteClosure} (h : Serving d req s f) (hd : UniqueKeys d) :
    UniqueKeys s.committed := by
  cases h with
  | start => exact hd
  | live d' rest hlive hrest hunique => exact hunique hd
  | dryRun image s rest hdry hrest hin =>
      rw [hin.committed]
      exact hd

theorem steps_serving {d : Db} {req : WriteRequest} {s : TxnStore Db}
    {f : WriteClosure}
    (h : Steps writeBody (.ofCommitted d) (.start req) s f) :
    Serving d req s f :=
  h.invariant .start (fun _ _ _ _ => writeBody_serving)

theorem finishes_served {d : Db} {req : WriteRequest} {s : TxnStore Db}
    {r : Except String WriteResult}
    (h : Finishes writeBody (.ofCommitted d) (.start req) s r) :
    s = .ofCommitted (req.serve d).1 ∧ r = .ok (req.serve d).2 := by
  rcases h with ⟨v, g, hsteps, hlast⟩
  exact writeBody_served (steps_serving hsteps) hlast

theorem program_unique {d : Db} (hd : UniqueKeys d) (write : IssuerWrite) :
    UniqueKeys (write.program.run Command.onDb d).1 := by
  have hstep : forall d c, UniqueKeys d ->
      UniqueKeys (Command.onDb d c).1 := by
    intro d c h
    exact uniqueKeys_onDb h c
  exact Program.run_invariant hstep hd write.program

theorem served_unique {d d' : Db} {f : WriteClosure}
    {r : Except String WriteResult} (hd : UniqueKeys d)
    (h : Served d f d' r) : UniqueKeys d' := by
  rcases h with ⟨req, _, hd', _⟩
  rw [hd']
  unfold WriteRequest.serve
  cases req.dryRun with
  | true => exact hd
  | false => exact program_unique hd req.write

theorem program_answers {d : Db} (hd : UniqueKeys d) (write : IssuerWrite) :
    AnswersWrite d write (write.program.run Command.onDb d).2 := by
  cases write with
  | register issuer =>
      unfold IssuerWrite.program
      rw [Program.run_bind]
      exact registerIssuer_answers _ issuer
  | patch id expectedVersion patch =>
      unfold IssuerWrite.program
      rw [Program.run_bind]
      exact patchIssuer_answers hd id expectedVersion patch
  | delete id expectedVersion =>
      unfold IssuerWrite.program
      rw [Program.run_bind]
      trivial

theorem serve_answers {d : Db} (hd : UniqueKeys d) (req : WriteRequest) :
    AnswersWrite d req.write (req.serve d).2 := by
  unfold WriteRequest.serve
  cases req.dryRun with
  | true => exact program_answers hd req.write
  | false => exact program_answers hd req.write

/-!
## Any interleaving
-/

def WriteClosure.Submitted (f : WriteClosure) : Prop :=
  exists req, f = .start req

abbrev IssuerStorage :=
  AsyncStorage (TxnStore Db) WriteClosure WriteResult

/--
The bodies of the log have run one after another and have left the database, each
with the outcome that the log says; they are the bodies that were handed to the
pool.
-/
structure SerialisedWrites (d0 : Db) (acts : List (StorageAction WriteClosure))
    (s : IssuerStorage) (log : List (Nat × Except String WriteResult))
    (d : Db) : Prop where
  serial : Serial (Finishes writeBody) (submitted acts) (.ofCommitted d0) log
    (.ofCommitted d)
  served : Serial Served (submitted acts) d0 log d
  once : (log.map Prod.fst).Nodup
  results : forall (i : Nat) (r : Except String WriteResult), (i, r) ∈ log <->
    exists c, s.calls[i]? = some c ∧ c.phase.outcome = some r
  spawned : forall i : Nat, i ∈ log.map Prod.fst -> .call i .spawn ∈ acts
  /-- When every call is settled, the order covers what was handed over. -/
  complete : (forall c, c ∈ s.calls -> c.phase.settled = true) ->
    s.engine = .ofCommitted d ∧
      forall i : Nat, .call i .spawn ∈ acts -> i ∈ log.map Prod.fst
  idle : (forall c, c ∈ s.calls -> c.phase.current = none) ->
    s.engine = .ofCommitted d
  /-- The one body that runs has the engine to itself. -/
  running : forall (i : Nat) (c : Call WriteClosure WriteResult)
    (f : WriteClosure), s.calls[i]? = some c -> c.phase.current = some f ->
    exists req, (submitted acts)[i]? = some (.start req) ∧
      Steps writeBody (.ofCommitted d) (.start req) s.engine f
  rejected : forall (i : Nat) (c : Call WriteClosure WriteResult),
    s.calls[i]? = some c ->
    (c.answer = some (.error .overloaded) ∨
      c.answer = some (.error .shuttingDown)) ->
    .call i .spawn ∉ acts ∧ i ∉ log.map Prod.fst
  unique : UniqueKeys s.engine.committed
  /-- A call answers by the database that the calls before it have left. -/
  races : forall (i : Nat) (r : Except String WriteResult), (i, r) ∈ log ->
    exists earlier u req result,
      earlier ++ [(i, r)] <+: log ∧
        Serial Served (submitted acts) d0 earlier u ∧
        (submitted acts)[i]? = some (.start req) ∧ r = .ok result ∧
        AnswersWrite u req.write result

theorem handedOver_of_outcome {closure result : Type}
    {phase : CallPhase closure result} {r : Except String result}
    (h : phase.outcome = some r) : phase.handedOver = true := by
  cases phase with
  | finishing r' => rfl
  | permitDropped r' => rfl
  | returned r' => rfl
  | _ => cases h

theorem outcome_of_settled {closure result : Type}
    {phase : CallPhase closure result} (hsettled : phase.settled = true)
    (hover : phase.handedOver = true) :
    exists r, phase.outcome = some r := by
  cases phase with
  | returned r => exact ⟨r, rfl⟩
  | rejected e => cases hover
  | cancelled => cases hover
  | _ => cases hsettled

theorem current_of_settled {closure result : Type}
    {phase : CallPhase closure result} (hsettled : phase.settled = true) :
    phase.current = none := by
  cases phase with
  | running f => cases hsettled
  | _ => rfl

theorem phase_of_rejection {closure result : Type}
    {c : Call closure result}
    (h : c.answer = some (.error .overloaded) ∨
      c.answer = some (.error .shuttingDown)) :
    c.phase.handedOver = false ∧ c.phase.outcome = none := by
  unfold Call.answer at h
  split at h
  · rename_i hphase
    rw [hphase]
    exact ⟨rfl, rfl⟩
  · simp at h
  · simp at h
  · simp at h

theorem uniqueKeys_of_serial {jobs : List WriteClosure} {d0 d : Db}
    {log : List (Nat × Except String WriteResult)} (hd : UniqueKeys d0)
    (h : Serial Served jobs d0 log d) : UniqueKeys d :=
  h.invariant hd (fun _ _ _ _ hu hserved => served_unique hu hserved)

section Runs

variable {d0 : Db} {acts : List (StorageAction WriteClosure)}
variable {s : IssuerStorage} {log : List (Nat × Except String WriteResult)}
variable {w : TxnStore Db}

/-- The serial order of the lane, with every request served in one step. -/
theorem served_of_laneSerial
    (h : LaneSerial writeBody WriteClosure.Submitted (.ofCommitted d0) acts s
      log w) :
    exists d, Serial Served (submitted acts) d0 log d ∧ w = .ofCommitted d := by
  apply h.serial.simulate (R := fun v d => v = .ofCommitted d) rfl
  intro v d f u r hf hv hfinishes
  rcases h.admitted f hf with ⟨req, hreq⟩
  subst hv hreq
  rcases finishes_served hfinishes with ⟨hu, hr⟩
  exact ⟨(req.serve d).1, ⟨req, rfl, rfl, hr⟩, hu⟩

theorem request_of_running
    (h : LaneSerial writeBody WriteClosure.Submitted (.ofCommitted d0) acts s
      log w) {i : Nat} {c : Call WriteClosure WriteResult} {f : WriteClosure}
    (hc : s.calls[i]? = some c) (hf : c.phase.current = some f) :
    exists req, (submitted acts)[i]? = some (.start req) ∧
      Steps writeBody w (.start req) s.engine f := by
  rcases h.busy i c f hc hf with ⟨f0, hjob, hsteps⟩
  rcases h.admitted f0 (List.mem_of_getElem? hjob) with ⟨req, hreq⟩
  subst hreq
  exact ⟨req, hjob, hsteps⟩

theorem logged_iff_outcome
    (h : LaneSerial writeBody WriteClosure.Submitted (.ofCommitted d0) acts s
      log w) (i : Nat) :
    i ∈ log.map Prod.fst <->
      exists c r, s.calls[i]? = some c ∧ c.phase.outcome = some r := by
  rw [List.mem_map]
  constructor
  · intro hgiven
    rcases hgiven with ⟨⟨j, r⟩, hmem, hj⟩
    subst hj
    rcases (h.outcome j r).mp hmem with ⟨c, hc, hr⟩
    exact ⟨c, r, hc, hr⟩
  · intro hgiven
    rcases hgiven with ⟨c, r, hc, hr⟩
    exact ⟨(i, r), (h.outcome i r).mpr ⟨c, hc, hr⟩, rfl⟩

/-- The committed columns are unique at every moment, also inside a closure. -/
theorem uniqueKeys_of_laneSerial {d : Db} (hd : UniqueKeys d)
    (h : LaneSerial writeBody WriteClosure.Submitted (.ofCommitted d0) acts s
      log (.ofCommitted d)) : UniqueKeys s.engine.committed := by
  rcases Classical.em (forall c, c ∈ s.calls -> c.phase.current = none) with
    hidle | hbusy
  · rw [h.idle hidle]
    exact hd
  · push Not at hbusy
    rcases hbusy with ⟨c, hmem, hcurrent⟩
    rcases Option.ne_none_iff_exists'.mp hcurrent with ⟨f, hf⟩
    rcases List.mem_iff_getElem?.mp hmem with ⟨i, hc⟩
    rcases request_of_running h hc hf with ⟨req, _, hsteps⟩
    exact (steps_serving hsteps).unique hd

theorem LaneSerial.serialisedWrites {d : Db} (hunique : UniqueKeys d0)
    (h : LaneSerial writeBody WriteClosure.Submitted (.ofCommitted d0) acts s
      log (.ofCommitted d))
    (hserved : Serial Served (submitted acts) d0 log d) :
    SerialisedWrites d0 acts s log d where
  serial := h.serial
  served := hserved
  once := h.once
  results := h.outcome
  spawned := by
    intro i hi
    rcases (logged_iff_outcome h _).mp hi with ⟨c, r, hc, hr⟩
    exact (h.handedOver i).mpr ⟨c, hc, handedOver_of_outcome hr⟩
  complete := by
    intro hsettled
    constructor
    · apply h.idle
      intro c hc
      exact current_of_settled (hsettled c hc)
    · intro i hi
      rcases (h.handedOver i).mp hi with ⟨c, hc, hover⟩
      rcases outcome_of_settled (hsettled c (List.mem_of_getElem? hc)) hover
        with ⟨r, hr⟩
      exact (logged_iff_outcome h _).mpr ⟨c, r, hc, hr⟩
  idle := h.idle
  running := by
    intro i c f hc hf
    exact request_of_running h hc hf
  rejected := by
    intro i c hc hanswer
    rcases phase_of_rejection hanswer with ⟨hover, hnone⟩
    constructor
    · intro hi
      rcases (h.handedOver i).mp hi with ⟨c', hc', hover'⟩
      rw [hc] at hc'
      cases hc'
      rw [hover] at hover'
      cases hover'
    · intro hi
      rcases (logged_iff_outcome h _).mp hi with ⟨c', r, hc', hr⟩
      rw [hc] at hc'
      cases hc'
      rw [hnone] at hr
      cases hr
  unique := uniqueKeys_of_laneSerial (uniqueKeys_of_serial hunique hserved) h
  races := by
    intro i r hmem
    rcases hserved.turn hmem with
      ⟨earlier, u, u', f, hearlier, hbefore, hjob, req, hf, _, hr⟩
    subst hf
    refine ⟨earlier, u, req, (req.serve u).2, hearlier, hbefore, hjob, hr, ?_⟩
    exact serve_answers (uniqueKeys_of_serial hunique hbefore) req

/--
However the steps of the callers and of the pool threads interleave, the closures
of the write lane have run one after another.
-/
theorem serialisedWrites_of_run {readerPoolSize : Nat}
    (hunique : UniqueKeys d0)
    (hmeet : StepsMeet (storageStep writeBody)
      (OnWriteLane WriteClosure.Submitted)
      (AsyncStorage.new (.ofCommitted d0) readerPoolSize) acts)
    (hrun : runFrom (storageStep writeBody)
      (AsyncStorage.new (.ofCommitted d0) readerPoolSize) acts = some s) :
    exists log d, SerialisedWrites d0 acts s log d := by
  rcases laneSerial_of_run hmeet hrun with ⟨log, w, h⟩
  rcases served_of_laneSerial h with ⟨d, hserved, hw⟩
  subst hw
  exact ⟨log, d, h.serialisedWrites hunique hserved⟩

end Runs

/-- `11222333000181`. -/
def contestedCnpj : Identifiers.Cnpj where
  bytes := ⟨[49, 49, 50, 50, 50, 51, 51, 51, 48, 48, 48, 49, 56, 49], rfl⟩
  valid := by decide +kernel

def contestedIssuer (uuid : Uuid) : Issuer where
  id := { uuid := uuid }
  status := .active
  createdAt := { seconds := 0, nanos := 0 }
  name := none
  cnpj := some contestedCnpj
  lei := none
  countryCode :=
    (Identifiers.CountryCode.fromStr brazilCountryCode).toOption

/-- A dry run and two registrations want one CNPJ; two more callers give up. -/
def racingWrites : List (StorageAction WriteClosure) :=
  let register (uuid : Uuid) (dryRun : Bool) : StorageAction WriteClosure :=
    .submit .write
      (.start { write := .register (contestedIssuer uuid), dryRun := dryRun })
  [register 0 true, register 1 false, register 2 false, register 3 false,
    register 4 false,
    .call 0 .grant, .call 0 .spawn, .call 0 .start, .call 3 .timeout] ++
  List.replicate 8 (.call 0 .exec) ++
  [.call 0 .dropPermit, .call 2 .grant, .call 2 .spawn, .call 2 .cancel,
    .call 2 .start, .call 0 .dropEngine] ++
  List.replicate 8 (.call 2 .exec) ++
  [.call 2 .dropPermit, .call 4 .grant, .call 4 .cancel, .call 1 .grant,
    .call 1 .spawn, .call 1 .start, .call 2 .dropEngine] ++
  List.replicate 5 (.call 1 .exec) ++
  [.call 1 .dropPermit, .call 1 .dropEngine]

theorem serialisedWrites_racingWrites :
    exists s, runFrom (storageStep writeBody)
        (AsyncStorage.new (.ofCommitted Db.empty) 2) racingWrites = some s ∧
      s.calls.map Call.answer =
        [some (.ok (.registered (.ok ()))),
          some (.ok (.registered (.error .duplicateCnpj))),
          some (.ok (.registered (.ok ()))), some (.error .overloaded),
          none] ∧
      exists log d, SerialisedWrites Db.empty racingWrites s log d := by
  have hanswers : (runFrom (storageStep writeBody)
      (AsyncStorage.new (.ofCommitted Db.empty) 2) racingWrites).map
        (fun s => s.calls.map Call.answer) =
      some [some (.ok (.registered (.ok ()))),
        some (.ok (.registered (.error .duplicateCnpj))),
        some (.ok (.registered (.ok ()))), some (.error .overloaded),
        none] := by
    decide +kernel
  rw [Option.map_eq_some_iff] at hanswers
  rcases hanswers with ⟨s, hrun, hanswers⟩
  refine ⟨s, hrun, hanswers, serialisedWrites_of_run uniqueKeys_empty ?_ hrun⟩
  apply stepsMeet_of_forall
  simp [racingWrites, OnWriteLane, WriteClosure.Submitted, Operation.lane]

end Engine
end Valqeron
