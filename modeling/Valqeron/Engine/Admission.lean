import Valqeron.Engine.IssuerWrites
import Valqeron.Sqlite.Guards

/-!
# Admission control and the reader pool

The facade with closures that run repository operations.  There are as many read
permits as pooled readers; whether a checkout can find the pool empty depends on
what the closures of the write lane do outside a dry run.
-/

namespace Valqeron
namespace Engine

open Foundation
open Domain
open Sqlite

/-- What a closure does with the engine, up to its end or its panic. -/
inductive StorageWork where
  | repositories (ops : List RepositoryOp)
  | dryRun (ops : List RepositoryOp)
  | maintenance
deriving DecidableEq

namespace StorageWork

def Steps : StorageWork -> List ResourceStep -> Prop
  | repositories ops, steps => SequenceSteps .live ops steps
  | dryRun ops, steps => (DatabaseCall.dryRun ops).Steps steps
  | maintenance, steps => DatabaseCall.maintenance.Steps steps

/-- Some operation of the work checks a reader out of the pool. -/
def checksOutReader : StorageWork -> Bool
  | repositories ops => ops.any (fun op => decide (op.role = .reader))
  | dryRun _ => false
  | maintenance => false

end StorageWork

/-- What the closures of `read`, `write` and `maintenance` are given to work on. -/
def Operation.admits : Operation -> StorageWork -> Bool
  | .read, .repositories _ => true
  | .read, _ => false
  | .write, .maintenance => false
  | .write, _ => true
  | .maintenance, _ => true

structure GuardClosure where
  work : StorageWork
  rest : List ResourceStep
  outcome : Except String Unit

structure SharedGuards where
  idle : Nat
  writerFree : Bool
deriving DecidableEq, Repr

/-- One step of a closure; `none` while it has to wait for a guard. -/
def guardBody (g : SharedGuards) (f : GuardClosure) :
    Option (SharedGuards × (GuardClosure ⊕ Except String Unit)) :=
  match f.rest with
  | [] => some (g, .inr f.outcome)
  | .takeReader :: rest =>
      if 0 < g.idle then
        some ({ g with idle := g.idle - 1 }, .inl { f with rest := rest })
      else
        none
  | .putReader :: rest =>
      some ({ g with idle := g.idle + 1 }, .inl { f with rest := rest })
  | .lockWriter :: rest =>
      if g.writerFree then
        some ({ g with writerFree := false }, .inl { f with rest := rest })
      else
        none
  | .unlockWriter :: rest =>
      some ({ g with writerFree := true }, .inl { f with rest := rest })

abbrev GuardedStorage := AsyncStorage SharedGuards GuardClosure Unit

def GuardedStorage.open (readerPoolSize : Nat) : GuardedStorage :=
  .new { idle := readerPoolSize, writerFree := true } readerPoolSize

/-- A closure is submitted with steps that its work may take. -/
def SubmitsWork : StorageAction GuardClosure -> Prop
  | .submit operation f =>
      operation.admits f.work = true ∧ f.work.Steps f.rest
  | _ => True

/-- What goes to the write lane checks no reader out of the pool. -/
def KeepsReaders : StorageAction GuardClosure -> Prop
  | .submit operation f =>
      operation.lane = .write -> f.work.checksOutReader = false
  | _ => True

/-- Whoever is about to check a reader out finds one. -/
def NeverWaits (s : GuardedStorage) : Prop :=
  forall (i : Nat) c f rest, s.calls[i]? = some c ->
    c.phase = .running f -> f.rest = .takeReader :: rest -> 0 < s.engine.idle

/-!
## What the work does to the pool
-/

def WriterOnly (steps : List ResourceStep) : Prop :=
  forall step, step ∈ steps -> step = .lockWriter ∨ step = .unlockWriter

theorem writerOnly_of_turns {steps : List ResourceStep}
    (h : DbHandle.live.Turns .writer steps) : WriterOnly steps := by
  induction h with
  | once =>
      intro step hmem
      simpa [DbHandle.guardSteps, DbHandle.releaseSteps] using hmem
  | again _ _ ihfirst ihsecond =>
      intro step hmem
      rcases List.mem_append.mp hmem with hfirst | hsecond
      · exact ihfirst step hfirst
      · exact ihsecond step hsecond

theorem takeReader_mem_of_turns {steps : List ResourceStep}
    (h : DbHandle.live.Turns .reader steps) :
    ResourceStep.takeReader ∈ steps := by
  induction h with
  | once => exact List.mem_cons_self
  | again _ _ ihfirst _ => exact List.mem_append_left _ ihfirst

/-- An operation works on a pooled reader exactly when it is a read. -/
theorem takeReader_mem_steps_iff {op : RepositoryOp}
    {steps : List ResourceStep} (h : op.Steps .live steps) :
    ResourceStep.takeReader ∈ steps <-> op.role = .reader := by
  have hturns := RepositoryOp.steps_turns h
  cases hrole : op.role with
  | reader =>
      rw [hrole] at hturns
      simp [takeReader_mem_of_turns hturns]
  | writer =>
      rw [hrole] at hturns
      constructor
      · intro hmem
        rcases writerOnly_of_turns hturns _ hmem with hbad | hbad
        · cases hbad
        · cases hbad
      · intro hbad
        cases hbad

theorem StorageWork.oneAtATime {work : StorageWork}
    {steps : List ResourceStep} (h : work.Steps steps) :
    OneAtATime steps := by
  cases work with
  | repositories ops => exact SequenceSteps.fits h
  | dryRun ops =>
      have hcall : (DatabaseCall.dryRun ops).Steps steps := h
      exact DatabaseCall.oneAtATime hcall
  | maintenance =>
      have hcall : DatabaseCall.maintenance.Steps steps := h
      exact DatabaseCall.oneAtATime hcall

theorem StorageWork.writerOnly {work : StorageWork}
    {steps : List ResourceStep} (h : work.Steps steps)
    (hkeeps : work.checksOutReader = false) : WriterOnly steps := by
  have hwriter : WriterOnly [.lockWriter, .unlockWriter] :=
    writerOnly_of_turns .once
  cases work with
  | repositories ops =>
      have hsequence : SequenceSteps .live ops steps := h
      unfold StorageWork.checksOutReader at hkeeps
      rw [List.any_eq_false] at hkeeps
      induction hsequence with
      | nil =>
          intro step hmem
          cases hmem
      | @cons op ops first rest hfirst hrest ih =>
          have hop : op.role = .writer := by
            have := hkeeps op List.mem_cons_self
            cases hrole : op.role with
            | reader => simp [hrole] at this
            | writer => rfl
          have hturns := RepositoryOp.steps_turns hfirst
          rw [hop] at hturns
          have hlater := ih hrest (fun o ho =>
            hkeeps o (List.mem_cons_of_mem op ho))
          intro step hmem
          rcases List.mem_append.mp hmem with hf | hr
          · exact writerOnly_of_turns hturns step hf
          · exact hlater step hr
  | dryRun ops =>
      rw [DatabaseCall.dryRun_steps h]
      exact hwriter
  | maintenance =>
      have hsteps : steps = [.lockWriter, .unlockWriter] := h
      rw [hsteps]
      exact hwriter

/-!
## Which writes check a reader out
-/

theorem isTaken_bind_steps {identifier value : Type} {handle : DbHandle}
    {existsBy : identifier -> SqlProgram (Except StorageFault Bool)}
    (asked : identifier -> RepositoryOp)
    (hrole : forall i, (asked i).role = .reader)
    (hasked : forall {i steps},
      Takes (Command.resources handle) (existsBy i) steps ->
        (asked i).Steps handle steps)
    {next : Except StorageFault Bool -> SqlProgram value} {reads : Prop}
    (hstop : forall answer, answer ≠ .ok false ->
      Program.Silent (Command.resources handle) (next answer))
    (hnext : forall {steps},
      Takes (Command.resources handle) (next (.ok false)) steps ->
        exists ops, SequenceSteps handle ops steps ∧
          ((StorageWork.repositories ops).checksOutReader = true <-> reads))
    {x : Option identifier} {steps : List ResourceStep}
    (h : Takes (Command.resources handle) (isTaken existsBy x >>= next)
      steps) :
    exists ops, SequenceSteps handle ops steps ∧
      ((StorageWork.repositories ops).checksOutReader = true <->
        x.isSome = true ∨ reads) := by
  cases x with
  | none =>
      rcases hnext h with ⟨ops, hops, hreads⟩
      refine ⟨ops, hops, ?_⟩
      rw [hreads]
      simp
  | some i =>
      have hread : forall ops, (StorageWork.repositories
          (asked i :: ops)).checksOutReader = true := by
        intro ops
        simp [StorageWork.checksOutReader, hrole i]
      rcases h with ⟨v, h⟩
      rcases Program.emits_bind h with ⟨first, rest, answer, hsplit, hask, h⟩
      have hfirst := hasked ⟨answer, hask⟩
      rw [hsplit]
      rcases Classical.em (answer = .ok false) with hfree | hstopped
      · rw [hfree] at h
        rcases hnext ⟨v, h⟩ with ⟨ops, hops, _⟩
        refine ⟨asked i :: ops, .cons hfirst hops, ?_⟩
        simp [hread ops]
      · rw [hstop answer hstopped rest v h]
        refine ⟨[asked i], .cons hfirst .nil, ?_⟩
        simp [hread []]

/--
A registration or a patch is a sequence of operations, of which one is a read
exactly when there is a CNPJ or a LEI.
-/
theorem withDuplicateCheck_steps {handle : DbHandle} {value : Type}
    {cnpj : Option Identifiers.Cnpj} {lei : Option Identifiers.Lei}
    {write : SqlProgram (Except StorageFault value)} (op : RepositoryOp)
    (hrole : op.role = .writer)
    (hwrite : forall {steps}, Takes (Command.resources handle) write steps ->
      op.Steps handle steps)
    {steps : List ResourceStep}
    (h : Takes (Command.resources handle)
      (withDuplicateCheck sqliteIssuerRepository cnpj lei write) steps) :
    exists ops, SequenceSteps handle ops steps ∧
      ((StorageWork.repositories ops).checksOutReader = true <->
        cnpj.isSome = true ∨ lei.isSome = true) := by
  unfold withDuplicateCheck at h
  refine isTaken_bind_steps .issuerExistsByCnpj (fun _ => rfl) (fun h => h)
    ?_ ?_ h
  · intro answer hne
    cases answer with
    | error e => exact Program.silent_done _
    | ok taken =>
        cases taken with
        | true => exact Program.silent_done _
        | false => exact absurd rfl hne
  · intro steps h
    have hlei : exists ops, SequenceSteps handle ops steps ∧
        ((StorageWork.repositories ops).checksOutReader = true <->
          lei.isSome = true ∨ False) := by
      refine isTaken_bind_steps .issuerExistsByLei (fun _ => rfl)
        (fun h => h) ?_ ?_ h
      · intro answer hne
        cases answer with
        | error e => exact Program.silent_done _
        | ok taken =>
            cases taken with
            | true => exact Program.silent_done _
            | false => exact absurd rfl hne
      · intro steps h
        refine ⟨[op], ?_, ?_⟩
        · rw [← List.append_nil steps]
          exact .cons (hwrite (Takes.of_map h)) .nil
        · simp [StorageWork.checksOutReader, hrole]
    rw [or_false] at hlei
    exact hlei

theorem registerIssuer_steps {handle : DbHandle} {issuer : Issuer}
    {steps : List ResourceStep}
    (h : Takes (Command.resources handle)
      (registerIssuer sqliteIssuerRepository issuer) steps) :
    exists ops, SequenceSteps handle ops steps ∧
      ((StorageWork.repositories ops).checksOutReader = true <->
        issuer.cnpj.isSome = true ∨ issuer.lei.isSome = true) :=
  withDuplicateCheck_steps (.insertIssuer issuer) rfl (fun h => h) h

theorem patchIssuer_steps {handle : DbHandle} {id : IssuerId}
    {expectedVersion : Nat} {patch : IssuerPatch}
    {steps : List ResourceStep}
    (h : Takes (Command.resources handle)
      (patchIssuer sqliteIssuerRepository id expectedVersion patch) steps) :
    exists ops, SequenceSteps handle ops steps ∧
      ((StorageWork.repositories ops).checksOutReader = true <->
        patch.cnpj.isSome = true ∨ patch.lei.isSome = true) :=
  withDuplicateCheck_steps (.patchIssuer id expectedVersion patch) rfl
    (fun h => h) h

/-!
## The pool and the permits

Every reader is idle or with a running closure of the read lane, which has a
permit.  A closure that is about to check a reader out has a permit and no reader.
-/

def readsNow (c : Call GuardClosure Unit) : Bool :=
  match c.phase with
  | .running f => holdsReader f.rest
  | _ => false

theorem readsNow_eq_false {c : Call GuardClosure Unit}
    (h : c.phase.current = none) : readsNow c = false := by
  unfold readsNow
  split
  · rename_i f hphase
    rw [hphase] at h
    cases h
  · rfl

theorem readsNow_of_current {c : Call GuardClosure Unit} {f : GuardClosure}
    (h : c.phase.current = some f) : readsNow c = holdsReader f.rest := by
  cases hphase : c.phase with
  | running g =>
      rw [hphase] at h
      cases h
      unfold readsNow
      rw [hphase]
  | _ =>
      rw [hphase] at h
      cases h

structure ReadersAccounted (readerPoolSize : Nat) (s : GuardedStorage) :
    Prop where
  permits : s.maxPermits .read = readerPoolSize
  readers : s.engine.idle + s.calls.countP readsNow = readerPoolSize
  pending : forall c, c ∈ s.calls -> forall f, c.phase.pending = some f ->
    OneAtATime f.rest ∧ (c.lane = .write -> WriterOnly f.rest)
  current : forall c, c ∈ s.calls -> forall f, c.phase.current = some f ->
    Remaining f.rest ∧ (c.lane = .write -> WriterOnly f.rest)

theorem open_readersAccounted (readerPoolSize : Nat) :
    ReadersAccounted readerPoolSize (GuardedStorage.open readerPoolSize) where
  permits := rfl
  readers := rfl
  pending := by
    intro c hmem
    cases hmem
  current := by
    intro c hmem
    cases hmem

theorem WriterOnly.tail {step : ResourceStep}
    {steps rest : List ResourceStep} (hsteps : steps = step :: rest)
    (h : WriterOnly steps) : WriterOnly rest := by
  intro x hx
  apply h x
  rw [hsteps]
  exact List.mem_cons_of_mem step hx

theorem guardBody_step {g g' : SharedGuards} {f f' : GuardClosure}
    (h : Remaining f.rest) (hstep : guardBody g f = some (g', .inl f')) :
    Remaining f'.rest ∧
      g'.idle + (holdsReader f'.rest).toNat =
        g.idle + (holdsReader f.rest).toNat ∧
      (WriterOnly f.rest -> WriterOnly f'.rest) := by
  unfold guardBody at hstep
  split at hstep
  · cases hstep
  · rename_i rest hrest
    rw [hrest] at h
    rcases h.after with ⟨hremaining, hreader, _⟩
    split at hstep
    · rename_i hidle
      cases hstep
      refine ⟨hremaining, ?_, WriterOnly.tail hrest⟩
      rw [hrest, hreader]
      simp only [holdsReader, decide_true, Bool.toNat_true, Bool.toNat_false]
      omega
    · cases hstep
  · rename_i rest hrest
    rw [hrest] at h
    rcases h.after with ⟨hremaining, hreader, _⟩
    cases hstep
    refine ⟨hremaining, ?_, WriterOnly.tail hrest⟩
    rw [hrest, hreader]
    simp [holdsReader]
  · rename_i rest hrest
    rw [hrest] at h
    rcases h.after with ⟨hremaining, hreader, _⟩
    split at hstep
    · cases hstep
      refine ⟨hremaining, ?_, WriterOnly.tail hrest⟩
      rw [hrest, hreader]
      rfl
    · cases hstep
  · rename_i rest hrest
    rw [hrest] at h
    rcases h.after with ⟨hremaining, hreader, _⟩
    cases hstep
    refine ⟨hremaining, ?_, WriterOnly.tail hrest⟩
    rw [hrest, hreader]
    rfl

theorem guardBody_end {g g' : SharedGuards} {f : GuardClosure}
    {r : Except String Unit} (hstep : guardBody g f = some (g', .inr r)) :
    g' = g ∧ holdsReader f.rest = false := by
  unfold guardBody at hstep
  split at hstep
  · rename_i hrest
    cases hstep
    rw [hrest]
    exact ⟨rfl, rfl⟩
  · split at hstep
    · cases hstep
    · cases hstep
  · cases hstep
  · split at hstep
    · cases hstep
    · cases hstep
  · cases hstep

theorem ReadersAccounted.advance {readerPoolSize i : Nat}
    {s : GuardedStorage} (h : ReadersAccounted readerPoolSize s)
    {c c' : Call GuardClosure Unit} {engine : SharedGuards}
    {permits : Lane -> Semaphore} (hc : s.calls[i]? = some c)
    (hlane : c'.lane = c.lane)
    (hreaders : engine.idle + (readsNow c').toNat =
      s.engine.idle + (readsNow c).toNat)
    (hpending : forall f, c'.phase.pending = some f ->
      c.phase.pending = some f)
    (hcurrent : forall f, c'.phase.current = some f ->
      Remaining f.rest ∧ (c.lane = .write -> WriterOnly f.rest)) :
    ReadersAccounted readerPoolSize (s.afterCall i engine permits c') where
  permits := h.permits
  readers := by
    have hcount := countP_set_of_getElem? (p := readsNow) c' hc
    have hbefore := h.readers
    simp only [AsyncStorage.afterCall]
    omega
  pending := by
    intro d hmem f hf
    rcases List.mem_or_eq_of_mem_set hmem with hold | heq
    · exact h.pending d hold f hf
    · rw [heq] at hf ⊢
      rw [hlane]
      exact h.pending c (List.mem_of_getElem? hc) f (hpending f hf)
  current := by
    intro d hmem f hf
    rcases List.mem_or_eq_of_mem_set hmem with hold | heq
    · exact h.current d hold f hf
    · rw [heq] at hf ⊢
      rw [hlane]
      exact hcurrent f hf

theorem callStep_dropUnstarted {g g' : SharedGuards}
    {permits permits' : Semaphore} {c c' : Call GuardClosure Unit}
    {message : String}
    (hstep : callStep guardBody g permits c (.dropUnstarted message) =
      some (g', permits', c')) :
    g' = g ∧ c'.lane = c.lane ∧ c'.phase.pending = none ∧
      c'.phase.current = none ∧ c.phase.current = none := by
  simp only [callStep] at hstep
  split at hstep
  · rename_i f hphase
    cases hstep
    simp [Call.lane, hphase]
  · cases hstep

theorem readersAccounted_call {readerPoolSize i : Nat} {s : GuardedStorage}
    (h : ReadersAccounted readerPoolSize s) {c c' : Call GuardClosure Unit}
    {a : CallAction} {engine : SharedGuards} {permits : Semaphore}
    (hc : s.calls[i]? = some c)
    (hstep : callStep guardBody s.engine (s.permits c.lane) c a =
      some (engine, permits, c')) :
    ReadersAccounted readerPoolSize
      (s.afterCall i engine (Function.update s.permits c.lane permits) c') := by
  have hmem := List.mem_of_getElem? hc
  by_cases hrun : forall message, a ≠ .dropUnstarted message
  · have hlane := (callStep_permits hstep).left
    cases callStep_effect hstep hrun with
    | quiet a c' houtcome hcurrent hpending hover hlane =>
        apply h.advance hc hlane _ hpending
        · intro f hf
          rw [hcurrent] at hf
          exact h.current c hmem f hf
        · cases hnow : c.phase.current with
          | none =>
              rw [readsNow_eq_false hnow, readsNow_eq_false
                (hcurrent.trans hnow)]
          | some f =>
              rw [readsNow_of_current hnow, readsNow_of_current
                (hcurrent.trans hnow)]
    | started f hphase =>
        have hready := h.pending c hmem f (by simp [hphase])
        apply h.advance hc hlane
        · rw [readsNow_eq_false (c := c) (by simp [hphase])]
          simp only [readsNow, hready.left.holds_nothing.left]
        · intro g hg
          cases hg
        · intro g hg
          cases hg
          exact ⟨.free hready.left, hready.right⟩
    | stepped f f' w' hphase hbody =>
        have hnow := h.current c hmem f (by simp [hphase])
        rcases guardBody_step hnow.left hbody with ⟨hrest, hidle, honly⟩
        apply h.advance hc hlane
        · rw [readsNow_of_current (c := c) (f := f) (by simp [hphase])]
          exact hidle
        · intro g hg
          cases hg
        · intro g hg
          cases hg
          exact ⟨hrest, fun hwrite => honly (hnow.right hwrite)⟩
    | finished f r w' hphase hbody =>
        rcases guardBody_end hbody with ⟨hsame, hnothing⟩
        apply h.advance hc hlane
        · rw [readsNow_of_current (c := c) (f := f) (by simp [hphase]),
            hnothing, hsame]
          rfl
        · intro g hg
          cases hg
        · intro g hg
          cases hg
  · push Not at hrun
    rcases hrun with ⟨message, ha⟩
    subst ha
    rcases callStep_dropUnstarted hstep with
      ⟨hsame, hlane, hpending, hnone, hbefore⟩
    apply h.advance hc hlane
    · rw [readsNow_eq_false hnone, readsNow_eq_false hbefore, hsame]
    · intro f hf
      rw [hpending] at hf
      cases hf
    · intro f hf
      rw [hnone] at hf
      cases hf

theorem storageStep_readersAccounted {readerPoolSize : Nat}
    {s s' : GuardedStorage} {b : StorageAction GuardClosure}
    (h : ReadersAccounted readerPoolSize s)
    (hcondition : SubmitsWork b ∧ KeepsReaders b)
    (hstep : storageStep guardBody s b = some s') :
    ReadersAccounted readerPoolSize s' := by
  cases b with
  | submit operation f =>
      simp only [storageStep] at hstep
      split at hstep
      · cases hstep
        have hone := StorageWork.oneAtATime hcondition.left.right
        have honly : operation.lane = .write -> WriterOnly f.rest :=
          fun hwrite => StorageWork.writerOnly hcondition.left.right
            (hcondition.right hwrite)
        constructor
        · exact h.permits
        · have hbefore := h.readers
          simpa [List.countP_append, readsNow] using hbefore
        · intro c hmem g hg
          rcases List.mem_append.mp hmem with hold | hnew
          · exact h.pending c hold g hg
          · cases List.mem_singleton.mp hnew
            cases hg
            exact ⟨hone, honly⟩
        · intro c hmem g hg
          rcases List.mem_append.mp hmem with hold | hnew
          · exact h.current c hold g hg
          · cases List.mem_singleton.mp hnew
            cases hg
      · cases hstep
  | call i a =>
      simp only [storageStep] at hstep
      split at hstep
      · cases hstep
      · rename_i c hc
        split at hstep
        · cases hstep
        · rename_i engine permits c' hcall
          cases hstep
          exact readersAccounted_call h hc hcall
  | pollWrites =>
      simp only [storageStep] at hstep
      split at hstep
      · cases hstep
        exact ⟨h.permits, h.readers, h.pending, h.current⟩
      · cases hstep
  | _ =>
      simp only [storageStep] at hstep
      split at hstep
      · cases hstep
        exact ⟨h.permits, h.readers, h.pending, h.current⟩
      · cases hstep

/-- The permits of the read lane leave a reader for who is about to take one. -/
theorem ReadersAccounted.neverWaits {readerPoolSize : Nat}
    {s : GuardedStorage} (h : ReadersAccounted readerPoolSize s)
    (haccounted : s.Accounted) : NeverWaits s := by
  intro i c f rest hc hphase hrest
  have hmem := List.mem_of_getElem? hc
  have hnow := h.current c hmem f (by simp [hphase])
  have hlane : forall {d g}, d ∈ s.calls -> d.phase.current = some g ->
      ¬ WriterOnly g.rest -> d.lane = .read := by
    intro d g hd hg hreads
    cases hl : d.lane with
    | read => rfl
    | write => exact absurd ((h.current d hd g hg).right hl) hreads
  have hholders : s.calls.countP readsNow + 1 <= s.holders .read := by
    apply countP_succ_le _ hmem
    · simp only [readsNow, hphase, hrest]
      rfl
    · have hread : c.lane = .read := by
        apply hlane hmem (g := f) (by simp [hphase])
        intro honly
        rcases honly .takeReader (by simp [hrest]) with hbad | hbad
        · cases hbad
        · cases hbad
      simp [hread, hphase, CallPhase.holdsPermit]
    · intro d hd hreads
      unfold readsNow at hreads
      split at hreads
      · rename_i g hg
        have hread : d.lane = .read := by
          apply hlane hd (g := g) (by simp [hg])
          intro honly
          unfold holdsReader at hreads
          split at hreads
          · rename_i tail htail
            rcases honly .putReader (by simp [htail]) with hbad | hbad
            · cases hbad
            · cases hbad
          · cases hreads
        simp [hread, hg, CallPhase.holdsPermit]
      · cases hreads
  have hpermits := haccounted.permits .read
  have hreaders := h.readers
  rw [h.permits] at hpermits
  omega

/--
In every run in which nothing that is given to the write lane checks a reader out of
the pool, no checkout ever finds the pool empty.
-/
theorem neverWaits_of_run {readerPoolSize : Nat}
    {acts : List (StorageAction GuardClosure)} {s : GuardedStorage}
    (hwork : forall b, b ∈ acts -> SubmitsWork b)
    (hkeeps : forall b, b ∈ acts -> KeepsReaders b)
    (hrun : runFrom (storageStep guardBody)
      (GuardedStorage.open readerPoolSize) acts = some s) : NeverWaits s := by
  have hmeet : StepsMeet (storageStep guardBody)
      (fun _ b => SubmitsWork b ∧ KeepsReaders b)
      (GuardedStorage.open readerPoolSize) acts :=
    stepsMeet_of_forall (fun _ b hb => ⟨hwork b hb, hkeeps b hb⟩) _
  have haccounted : ReadersAccounted readerPoolSize s :=
    runFrom_invariant_of_stepsMeet (ReadersAccounted readerPoolSize)
      (fun h hcondition hstep =>
        storageStep_readersAccounted h hcondition hstep)
      (open_readersAccounted readerPoolSize) hmeet hrun
  exact haccounted.neverWaits (accounted_of_run hrun)

def getClosure : GuardClosure where
  work := .repositories [.findIssuer { uuid := 0 } .lazy]
  rest := [.takeReader, .putReader]
  outcome := .ok ()

def registerClosure : GuardClosure where
  work := .repositories
    [.issuerExistsByCnpj contestedCnpj, .insertIssuer (contestedIssuer 1)]
  rest := [.takeReader, .putReader, .lockWriter, .unlockWriter]
  outcome := .ok ()

theorem getClosure_steps : getClosure.work.Steps getClosure.rest := by
  have hfind : (RepositoryOp.findIssuer { uuid := 0 } .lazy).Steps .live
      [.takeReader, .putReader] :=
    ⟨.ok none, (), _, rfl, .ok none, _, rfl, (), [], rfl, rfl, rfl⟩
  exact .cons hfind .nil

theorem registerClosure_steps :
    registerClosure.work.Steps registerClosure.rest := by
  have hexists : (RepositoryOp.issuerExistsByCnpj contestedCnpj).Steps .live
      [.takeReader, .putReader] :=
    ⟨.ok false, (), _, rfl, .ok false, _, rfl, (), [], rfl, rfl, rfl⟩
  have hinsert : (RepositoryOp.insertIssuer (contestedIssuer 1)).Steps .live
      [.lockWriter, .unlockWriter] :=
    ⟨.ok (), (), _, rfl, .ok 1, _, rfl, (), [], rfl, rfl, rfl⟩
  exact .cons hexists (.cons hinsert .nil)

def lookupRun : List (StorageAction GuardClosure) :=
  [.submit .read getClosure, .call 0 .grant, .call 0 .spawn, .call 0 .start]

def plainRegisterClosure : GuardClosure where
  work := .repositories
    [.insertIssuer { contestedIssuer 1 with cnpj := none }]
  rest := [.lockWriter, .unlockWriter]
  outcome := .ok ()

theorem plainRegisterClosure_steps :
    plainRegisterClosure.work.Steps plainRegisterClosure.rest := by
  have hinsert : (RepositoryOp.insertIssuer
      { contestedIssuer 1 with cnpj := none }).Steps .live
        [.lockWriter, .unlockWriter] :=
    ⟨.ok (), (), _, rfl, .ok 1, _, rfl, (), [], rfl, rfl, rfl⟩
  exact .cons hinsert .nil

/-- Two reads and a registration, which has the writer; one read has its reader. -/
def calmRun : List (StorageAction GuardClosure) :=
  lookupRun ++
    [.submit .write plainRegisterClosure, .submit .read getClosure,
      .call 0 .exec, .call 1 .grant, .call 1 .spawn, .call 1 .start,
      .call 1 .exec, .call 2 .grant, .call 2 .spawn, .call 2 .start]

theorem neverWaits_of_run_calmRun :
    exists s, runFrom (storageStep guardBody) (GuardedStorage.open 2)
        calmRun = some s ∧
      s.engine = { idle := 1, writerFree := false } ∧ NeverWaits s := by
  have hrun : exists s : GuardedStorage,
      runFrom (storageStep guardBody) (GuardedStorage.open 2) calmRun =
          some s ∧
        s.engine = { idle := 1, writerFree := false } := ⟨_, rfl, rfl⟩
  rcases hrun with ⟨s, hrun, hengine⟩
  refine ⟨s, hrun, hengine, neverWaits_of_run ?_ ?_ hrun⟩
  · simpa [calmRun, lookupRun, SubmitsWork] using
      ⟨⟨rfl, getClosure_steps⟩, ⟨rfl, plainRegisterClosure_steps⟩, rfl,
        getClosure_steps⟩
  · simp [calmRun, lookupRun, KeepsReaders, Operation.lane,
      plainRegisterClosure, StorageWork.checksOutReader, RepositoryOp.role]

/-- While the read has the only reader, a registration comes to its checkout. -/
def lookupAndRegister : List (StorageAction GuardClosure) :=
  lookupRun ++
    [.submit .write registerClosure, .call 0 .exec, .call 1 .grant,
      .call 1 .spawn, .call 1 .start]

theorem neverWaits_fails :
    ¬ forall (readerPoolSize : Nat) (acts : List (StorageAction GuardClosure))
      (s : GuardedStorage), (forall b, b ∈ acts -> SubmitsWork b) ->
        runFrom (storageStep guardBody) (GuardedStorage.open readerPoolSize)
          acts = some s -> NeverWaits s := by
  intro hall
  have hrun : exists s : GuardedStorage,
      runFrom (storageStep guardBody) (GuardedStorage.open 1)
          lookupAndRegister = some s ∧
        s.engine.idle = 0 ∧
        s.calls[1]? = some
          { operation := .write
            phase := .running registerClosure
            attached := true } := ⟨_, rfl, rfl, rfl⟩
  rcases hrun with ⟨s, hrun, hidle, hcall⟩
  have hwork : forall b, b ∈ lookupAndRegister -> SubmitsWork b := by
    simpa [lookupAndRegister, lookupRun, SubmitsWork] using
      ⟨⟨rfl, getClosure_steps⟩, rfl, registerClosure_steps⟩
  have hpos := hall 1 lookupAndRegister s hwork hrun 1 _ registerClosure
    [.putReader, .lockWriter, .unlockWriter] hcall rfl rfl
  omega

end Engine
end Valqeron
