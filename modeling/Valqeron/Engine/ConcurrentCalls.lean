import Valqeron.Engine.CatalogueReads
import Valqeron.Engine.CatalogueWrites
import Valqeron.Engine.EffectOrder
import Valqeron.Engine.WritesAtOnce

/-!
# Reads and writes at the same time

The calls of the issuer service as they meet in the storage facade: the closures of
Register, Patch and Delete on the write lane, those of Get and List on as many
threads as there are readers.  A read looks once, a write changes the committed
tables at once, so that all calls take effect one after another.
-/

namespace Valqeron
namespace Engine

open Foundation
open Domain
open Sqlite

inductive EngineClosure where
  | write (f : WriteClosure)
  | ask (r : IssuerRead)
  | read (rest : SqlProgram ReadResult)

inductive EngineResult where
  | written (v : WriteResult)
  | read (v : ReadResult)
deriving DecidableEq

/-- One step of a closure; reads are never dry runs. -/
def engineBody (text : UuidText) (s : TxnStore Db) :
    EngineClosure ->
      Option (TxnStore Db × (EngineClosure ⊕ Except String EngineResult))
  | .write f =>
      (writeBody s f).map (fun r =>
        (r.1, r.2.map .write (Except.map .written)))
  | .ask r => some (s, .inl (.read (r.program text)))
  | .read (.call c next) =>
      let r := Command.onStore .live s c
      some (r.1, .inl (.read (next r.2)))
  | .read (.done v) => some (s, .inr (.ok (.read v)))

abbrev EngineStorage :=
  AsyncStorage (TxnStore Db) EngineClosure EngineResult

/-!
## One look
-/

/-- A reader guard is taken, one question is asked, the guard is dropped. -/
def MayRead (asked : Bool) : Command -> Prop
  | .takeGuard .reader => True
  | .dropGuard .reader => True
  | .query .reader _ => asked = false
  | _ => False

def askedAfter (asked : Bool) : Command -> Bool
  | .query _ _ => true
  | _ => asked

def reading : Protocol Command Response Bool where
  allowed := MayRead
  possible := fun _ _ => True
  advance := fun asked c _ => askedAfter asked c

def HasAsked {value : Type} (asked : Bool) (_ : value) : Prop := asked = true

section Looks

variable {value other : Type}

theorem guarded_reading {q : Query}
    {f : Except SqlError q.Answer -> SqlProgram value}
    (hf : forall r, exists u, f r = pure u) :
    (withGuard .reader (query .reader q >>= f)).Follows reading HasAsked
      false := by
  unfold withGuard
  refine ⟨trivial, ?_⟩
  intro _ _
  refine ⟨rfl, ?_⟩
  intro r _
  rcases hf r with ⟨u, hu⟩
  show ((f r).bind (fun v => Program.call (.dropGuard .reader)
    (fun _ => .done v))).Follows reading HasAsked true
  rw [hu]
  exact ⟨trivial, fun _ _ => rfl⟩

theorem reading_map {p : SqlProgram value}
    (h : p.Follows reading HasAsked false) {f : value -> SqlProgram other}
    (hf : forall v, exists u, f v = pure u) :
    (p >>= f).Follows reading HasAsked false := by
  refine Program.follows_bind h ?_
  intro asked v hasked
  rcases hf v with ⟨u, hu⟩
  rw [hu]
  exact hasked

theorem getProgram_reading (text : UuidText) (id : IssuerId) :
    (getProgram text id).Follows reading HasAsked false := by
  refine reading_map (p := getIssuer sqliteIssuerRepository id .lazy) ?_ ?_
  · apply guarded_reading
    intro r
    rcases r with e | _ | row
    · exact ⟨_, rfl⟩
    · exact ⟨_, rfl⟩
    · exact ⟨_, rfl⟩
  · intro found
    rcases found with e | _ | stored
    · exact ⟨_, rfl⟩
    · exact ⟨_, rfl⟩
    · simp only
      cases stored.hydrateLazy with
      | error e => exact ⟨_, rfl⟩
      | ok versioned => exact ⟨_, rfl⟩

theorem listProgram_reading (text : UuidText) (after : Option IssuerId)
    (limit : Nat) :
    (listProgram text after limit).Follows reading HasAsked false := by
  refine reading_map
    (p := listIssuers sqliteIssuerRepository after limit .lazy) ?_ ?_
  · apply guarded_reading
    intro r
    cases r with
    | error e => exact ⟨_, rfl⟩
    | ok rows => exact ⟨_, rfl⟩
  · intro rows
    cases rows with
    | error e => exact ⟨_, rfl⟩
    | ok rows =>
        simp only
        cases rows.mapM StoredIssuer.hydrateLazy with
        | error e => exact ⟨_, rfl⟩
        | ok issuers => exact ⟨_, rfl⟩

theorem program_reading (text : UuidText) (r : IssuerRead) :
    (r.program text).Follows reading HasAsked false := by
  cases r with
  | get id =>
      exact reading_map (getProgram_reading text id) (fun _ => ⟨_, rfl⟩)
  | list after limit =>
      exact reading_map (listProgram_reading text after limit)
        (fun _ => ⟨_, rfl⟩)

theorem onStore_mayRead {asked : Bool} {c : Command} (h : MayRead asked c)
    (s : TxnStore Db) :
    Command.onStore .live s c = (s, (Command.onDb s.committed c).2) ∧
      forall d, (Command.onDb d c).1 = d := by
  cases c with
  | takeGuard role => exact ⟨rfl, fun _ => rfl⟩
  | dropGuard role => exact ⟨rfl, fun _ => rfl⟩
  | execute statement => exact h.elim
  | query role q =>
      cases role with
      | writer => exact h.elim
      | reader => exact ⟨rfl, fun _ => rfl⟩

theorem onDb_response {asked : Bool} {c : Command} (h : MayRead asked c)
    (hsame : askedAfter asked c = asked) (d d' : Db) :
    (Command.onDb d c).2 = (Command.onDb d' c).2 := by
  cases c with
  | takeGuard role => rfl
  | dropGuard role => rfl
  | execute statement => exact h.elim
  | query role q =>
      cases role with
      | writer => exact h.elim
      | reader =>
          have hasked : asked = false := h
          rw [hasked] at hsame
          cases hsame

theorem run_asked {rest : SqlProgram value}
    (h : rest.Follows reading HasAsked true) (d d' : Db) :
    (rest.run Command.onDb d).2 = (rest.run Command.onDb d').2 := by
  induction rest with
  | done v => rfl
  | call c next ih =>
      rcases h with ⟨hmay, hnext⟩
      have hstays : askedAfter true c = true := by
        cases c with
        | _ => rfl
      have hthen := (onStore_mayRead hmay (.ofCommitted d)).right
      rw [Program.run_call, Program.run_call, hthen d, hthen d',
        onDb_response hmay hstays d d']
      apply ih
      have hrest := hnext (Command.onDb d' c).2 trivial
      rw [reading] at hrest
      simp only [hstays] at hrest
      exact hrest

/-- How far a read has come, and what it is going to answer. -/
inductive Reading (p : SqlProgram value) :
    Option value -> SqlProgram value -> Prop where
  | before (rest : SqlProgram value)
      (hfollows : rest.Follows reading HasAsked false)
      (hsame : forall d,
        (rest.run Command.onDb d).2 = (p.run Command.onDb d).2) :
      Reading p none rest
  | behind (rest : SqlProgram value) (v : value)
      (hfollows : rest.Follows reading HasAsked true)
      (hv : forall d, (rest.run Command.onDb d).2 = v) :
      Reading p (some v) rest

def Looks (d : Db) (p : SqlProgram value) (d' : Db) (v : value) : Prop :=
  d' = d ∧ v = (p.run Command.onDb d).2

/-- A read looks at the tables when it asks its question. -/
theorem Reading.step {p : SqlProgram value} {told : Option value}
    {c : Command} {next : Response c -> SqlProgram value}
    (h : Reading p told (.call c next)) (d : Db) :
    (forall s : TxnStore Db, s.committed = d ->
      Command.onStore .live s c = (s, (Command.onDb d c).2)) ∧
    exists told', Acts Looks d p told d told' ∧
      Reading p told' (next (Command.onDb d c).2) := by
  cases h with
  | before _ hfollows hsame =>
      rcases hfollows with ⟨hmay, hnext⟩
      have hrest := hnext (Command.onDb d c).2 trivial
      have hthen := (onStore_mayRead hmay (.ofCommitted d)).right
      refine ⟨fun s hs => hs ▸ (onStore_mayRead hmay s).left, ?_⟩
      cases hasked : askedAfter false c with
      | false =>
          refine ⟨none, .kept, .before _ ?_ ?_⟩
          · rw [← hasked]
            exact hrest
          · intro d'
            rw [← hsame d', Program.run_call, hthen d',
              onDb_response hmay hasked d' d]
      | true =>
          have hbehind : (next (Command.onDb d c).2).Follows reading HasAsked
              true := by
            rw [← hasked]
            exact hrest
          refine ⟨some (p.run Command.onDb d).2, .now rfl ⟨rfl, rfl⟩,
            .behind _ _ hbehind ?_⟩
          intro d'
          rw [run_asked hbehind d' d, ← hsame d, Program.run_call, hthen d]
  | behind _ v hfollows hv =>
      rcases hfollows with ⟨hmay, hnext⟩
      have hthen := (onStore_mayRead hmay (.ofCommitted d)).right
      have hstays : askedAfter true c = true := by
        cases c with
        | _ => rfl
      have hrest := hnext (Command.onDb d c).2 trivial
      refine ⟨fun s hs => hs ▸ (onStore_mayRead hmay s).left, some v, .kept,
        .behind _ v ?_ ?_⟩
      · rw [← hstays]
        exact hrest
      · intro d'
        rw [← hv d', Program.run_call, hthen d', onDb_response hmay hstays d' d]

theorem Reading.stop {p : SqlProgram value} {told : Option value} {v : value}
    (h : Reading p told (.done v)) : told = some v := by
  cases h with
  | before _ hfollows _ => cases hfollows
  | behind _ u hfollows hv => rw [← hv .empty, Program.run_done]

end Looks

/-!
## The calls on the catalogue
-/

variable (text : UuidText)

/-- The result of the service that the write calls. -/
def WriteResult.IsOf : IssuerWrite -> WriteResult -> Prop
  | .register _, .registered _ => True
  | .patch _ _ _, .patched _ => True
  | .delete _ _, .deleted _ => True
  | _, _ => False

def ServedWrite (c : Catalogue) (req : WriteRequest) (c' : Catalogue)
    (v : WriteResult) : Prop :=
  v.IsOf req.write ∧ (c', v.answer) = req.onCatalogue c

/-- What a lane is given, and what is answered on the catalogue. -/
inductive ServedCall (c : Catalogue) :
    EngineClosure -> Catalogue -> Except String EngineResult -> Prop where
  | write {req : WriteRequest} {c' : Catalogue} {v : WriteResult}
      (hserved : ServedWrite c req c' v) :
      ServedCall c (.write (.start req)) c' (.ok (.written v))
  | read {r : IssuerRead} {v : ReadResult} (hanswers : AnswersRead text c r v) :
      ServedCall c (.ask r) c (.ok (.read v))

def Handed : Lane -> EngineClosure -> Prop
  | .write, f => exists req, f = .write (.start req)
  | .read, f => exists r, f = .ask r

/-!
## One write
-/

/-- A request that has not taken effect, or what it is going to answer. -/
inductive Writing (req : WriteRequest) (c : Catalogue) :
    TxnStore Db -> Option WriteResult -> WriteClosure -> Prop where
  | start {d : Db} (h : Represents d c) :
      Writing req c (.ofCommitted d) none (.start req)
  | before {d : Db} {rest : SqlProgram WriteResult} (h : Represents d c)
      (honce : rest.AtOnce Command.onDb d)
      (hserve : rest.run Command.onDb d = req.serve d) :
      Writing req c (.ofCommitted d) none (.body .live rest)
  | behind {d : Db} {rest : SqlProgram WriteResult} (h : Represents d c)
      (hstill : rest.Still Command.onDb d) :
      Writing req c (.ofCommitted d) (some (rest.run Command.onDb d).2)
        (.body .live rest)
  | dryRun {d image : Db} {s : TxnStore Db} {rest : SqlProgram WriteResult}
      (h : Represents d c) (hin : InDryRun d image s)
      (hserve : (d, (rest.run Command.onDb image).2) = req.serve d) :
      Writing req c s none (.body .dryRun rest)

section Writing

variable {req : WriteRequest} {c : Catalogue} {s s' : TxnStore Db}
variable {told : Option WriteResult} {g g' : WriteClosure}

theorem serve_isOf (d : Db) (req : WriteRequest) :
    WriteResult.IsOf req.write (req.serve d).2 := by
  rcases req with ⟨write, dryRun⟩
  have hwrite : WriteResult.IsOf write
      (write.program.run Command.onDb d).2 := by
    unfold IssuerWrite.program
    cases write with
    | _ =>
        rw [Program.run_bind]
        trivial
  unfold WriteRequest.serve
  cases dryRun with
  | _ => exact hwrite

theorem servedWrite_of_serve {d d' : Db} {v : WriteResult}
    (h : Represents d c) (hserve : (d', v) = req.serve d) :
    ServedWrite c req (req.onCatalogue c).1 v ∧
      Represents d' (req.onCatalogue c).1 := by
  have hrefines := serve_refines h req
  have hkind := serve_isOf d req
  rw [← hserve] at hrefines hkind
  refine ⟨⟨hkind, ?_⟩, hrefines.left⟩
  rw [hrefines.right]

theorem Writing.represents (h : Writing req c s told g) :
    Represents s.committed c := by
  cases h with
  | start h => exact h
  | before h _ _ => exact h
  | behind h _ => exact h
  | dryRun h hin _ =>
      rw [hin.committed]
      exact h

theorem Writing.step (h : Writing req c s told g)
    (hbody : writeBody s g = some (s', .inl g')) :
    exists c' told', Acts ServedWrite c req told c' told' ∧
      Writing req c' s' told' g' := by
  cases h with
  | @start d h =>
      simp only [writeBody] at hbody
      split at hbody
      · rename_i hdry
        cases hbody
        refine ⟨c, none, .kept, .dryRun h (savepoint_inDryRun d) ?_⟩
        rw [WriteRequest.serve, if_pos hdry]
      · rename_i hlive
        cases hbody
        refine ⟨c, none, .kept, .before h (program_atOnce req.write d) ?_⟩
        rw [WriteRequest.serve, if_neg hlive]
  | @before d rest h honce hserve =>
      cases rest with
      | done v => cases hbody
      | call command next =>
          simp only [writeBody, onStore_live] at hbody
          cases hbody
          rw [Program.run_call] at hserve
          rcases honce with ⟨hsame, hrest⟩ | hstill
          · rw [hsame] at hserve ⊢
            exact ⟨c, none, .kept, .before h hrest hserve⟩
          · have hnow := hstill.run_eq
            have hserved : ((Command.onDb d command).1, ((next
                (Command.onDb d command).2).run Command.onDb
                  (Command.onDb d command).1).2) = req.serve d := by
              rw [← hserve]
              exact Prod.ext hnow.symm rfl
            rcases servedWrite_of_serve h hserved with ⟨hanswer, hnext⟩
            exact ⟨_, _, .now rfl hanswer, .behind hnext hstill⟩
  | @behind d rest h hstill =>
      cases rest with
      | done v => cases hbody
      | call command next =>
          simp only [writeBody, onStore_live] at hbody
          cases hbody
          rcases hstill with ⟨hsame, hrest⟩
          rw [Program.run_call, hsame]
          exact ⟨c, _, .kept, .behind h hrest⟩
  | @dryRun d image s rest h hin hserve =>
      cases rest with
      | done v => cases hbody
      | call command next =>
          rcases onStore_dryRun hin command with ⟨hin', hresponse⟩
          simp only [writeBody, hresponse] at hbody
          cases hbody
          exact ⟨c, none, .kept, .dryRun h hin' hserve⟩

/-- A write that has not changed anything takes effect when it ends. -/
theorem Writing.stop {r : Except String WriteResult}
    (h : Writing req c s told g)
    (hbody : writeBody s g = some (s', .inr r)) :
    exists v c' d', r = .ok v ∧ Acts ServedWrite c req told c' (some v) ∧
      s' = .ofCommitted d' ∧ Represents d' c' := by
  cases h with
  | start h =>
      simp only [writeBody] at hbody
      split at hbody
      · cases hbody
      · cases hbody
  | @before d rest h honce hserve =>
      cases rest with
      | call command next => cases hbody
      | done v =>
          cases hbody
          rcases servedWrite_of_serve h hserve with ⟨hanswer, hnext⟩
          exact ⟨v, _, d, rfl, .now rfl hanswer, rfl, hnext⟩
  | @behind d rest h hstill =>
      cases rest with
      | call command next => cases hbody
      | done v =>
          cases hbody
          exact ⟨v, c, d, rfl, .kept, rfl, h⟩
  | @dryRun d image s rest h hin hserve =>
      cases rest with
      | call command next => cases hbody
      | done v =>
          cases hbody
          rcases servedWrite_of_serve h hserve with ⟨hanswer, hnext⟩
          exact ⟨v, _, d, rfl, .now rfl hanswer,
            cleanup_of_rollback hin rfl (Or.inl rfl), hnext⟩

end Writing

/-!
## Any interleaving
-/

theorem engineBody_write {s s' : TxnStore Db} {g : WriteClosure}
    {r : EngineClosure ⊕ Except String EngineResult}
    (h : engineBody text s (.write g) = some (s', r)) :
    exists r₁, writeBody s g = some (s', r₁) ∧
      r = r₁.map .write (Except.map .written) := by
  rcases Option.map_eq_some_iff.mp h with ⟨⟨s₁, r₁⟩, hbody, hr⟩
  cases hr
  exact ⟨r₁, hbody, rfl⟩

inductive Progress (s : TxnStore Db) (c : Catalogue) :
    Lane -> EngineClosure -> Option (Except String EngineResult) ->
      EngineClosure -> Prop where
  | write {req : WriteRequest} {told : Option WriteResult} {g : WriteClosure}
      (h : Writing req c s told g) :
      Progress s c .write (.write (.start req))
        (told.map (fun v => .ok (.written v))) (.write g)
  | ask {r : IssuerRead} : Progress s c .read (.ask r) none (.ask r)
  | read {r : IssuerRead} {told : Option ReadResult}
      {rest : SqlProgram ReadResult} (h : Reading (r.program text) told rest) :
      Progress s c .read (.ask r) (told.map (fun v => .ok (.read v)))
        (.read rest)

section Progress

variable {text : UuidText} {s s' : TxnStore Db} {c : Catalogue} {lane : Lane}
variable {f g g' : EngineClosure} {told : Option (Except String EngineResult)}

theorem Progress.step (h : Progress text s c lane f told g)
    (hshows : Represents s.committed c)
    (hbody : engineBody text s g = some (s', .inl g')) :
    exists c' told', Acts (ServedCall text) c f told c' told' ∧
      Progress text s' c' lane f told' g' ∧
        (lane = .read -> s' = s ∧ c' = c) := by
  cases h with
  | write h =>
      rcases engineBody_write text hbody with ⟨r, hwrite, hr⟩
      cases r with
      | inr r => cases hr
      | inl g₁ =>
          cases hr
          rcases h.step hwrite with ⟨c', told', hacts, hnext⟩
          refine ⟨c', _, hacts.map (fun _ _ => .write), .write hnext, ?_⟩
          intro hread
          cases hread
  | @ask r =>
      cases hbody
      exact ⟨c, none, .kept,
        .read (.before _ (program_reading text r) (fun _ => rfl)),
        fun _ => ⟨rfl, rfl⟩⟩
  | @read r told rest h =>
      cases rest with
      | done v => cases hbody
      | call command next =>
          rcases h.step s.committed with ⟨hstore, told', hacts, hnext⟩
          simp only [engineBody, hstore s rfl] at hbody
          cases hbody
          refine ⟨c, _, ?_, .read hnext, fun _ => ⟨rfl, rfl⟩⟩
          cases hacts with
          | kept => exact .kept
          | now htold hlooks =>
              rw [htold, hlooks.right]
              exact .now rfl (.read (program_answersRead text hshows r))

theorem Progress.stop {r : Except String EngineResult}
    (h : Progress text s c lane f told g)
    (hbody : engineBody text s g = some (s', .inr r)) :
    exists c', Acts (ServedCall text) c f told c' (some r) ∧
      (lane = .write -> exists d, s' = .ofCommitted d ∧ Represents d c') ∧
        (lane = .read -> s' = s ∧ c' = c) := by
  cases h with
  | write h =>
      rcases engineBody_write text hbody with ⟨r₁, hwrite, hr⟩
      cases r₁ with
      | inl g₁ => cases hr
      | inr r₁ =>
          cases hr
          rcases h.stop hwrite with ⟨v, c', d', hv, hacts, hs', hd'⟩
          subst hv
          refine ⟨c', hacts.map (fun _ _ => .write), fun _ => ⟨d', hs', hd'⟩, ?_⟩
          intro hread
          cases hread
  | ask => cases hbody
  | @read r told rest h =>
      cases rest with
      | call command next => cases hbody
      | done v =>
          cases hbody
          rw [h.stop]
          refine ⟨c, .kept, ?_, fun _ => ⟨rfl, rfl⟩⟩
          intro hwrite
          cases hwrite

end Progress

/-- The closures of the issuer service take effect at one moment each. -/
def issuerClosures : AtomicClosures (engineBody text) (ServedCall text) where
  admits := Handed
  shows := fun s c => Represents s.committed c
  rests := fun s c => exists d, s = .ofCommitted d ∧ Represents d c
  progress := fun lane s c => Progress text s c lane
  shows_of_rests := by
    intro s c h
    rcases h with ⟨d, hs, hd⟩
    rw [hs]
    exact hd
  shows_of_progress := by
    intro s c f told g h
    cases h with
    | write h => exact h.represents
  start := by
    intro lane s c f hhanded hrests
    cases lane with
    | read =>
        rcases hhanded with ⟨r, hf⟩
        subst hf
        exact .ask
    | write =>
        rcases hhanded with ⟨req, hf⟩
        rcases hrests rfl with ⟨d, hs, hd⟩
        subst hf hs
        exact .write (.start hd)
  step := fun hshows h hbody => h.step hshows hbody
  stop := fun _ h hbody => h.stop hbody
  stable := by
    intro s c s' c' f told g h
    cases h with
    | ask => exact .ask
    | read h => exact .read h

/--
However the closures of both lanes interleave, every call is answered as the
catalogue answers it at one moment while it runs, so that a call that is over
before another one begins is served before it.
-/
theorem calls_linearised {d0 : Db} {c0 : Catalogue} (h0 : Represents d0 c0)
    {readerPoolSize : Nat} {acts : List (StorageAction EngineClosure)}
    {s : EngineStorage}
    (hmeet : StepsMeet (storageStep (engineBody text)) (OnTheirLanes Handed)
      (AsyncStorage.new (.ofCommitted d0) readerPoolSize) acts)
    (hrun : runFrom (storageStep (engineBody text))
      (AsyncStorage.new (.ofCommitted d0) readerPoolSize) acts = some s) :
    exists order c, Linearised (engineBody text) (ServedCall text)
      (fun s c => Represents s.committed c) c0
      (AsyncStorage.new (.ofCommitted d0) readerPoolSize) acts s order c :=
  linearised_of_run (issuerClosures text) ⟨d0, rfl, h0⟩ hmeet hrun

/-- Two reads meet a registration: one asks before it is committed, one after. -/
def racingCalls : List (StorageAction EngineClosure) :=
  let run (i : Nat) : List (StorageAction EngineClosure) :=
    [.call i .grant, .call i .spawn, .call i .start]
  let finish (i : Nat) : List (StorageAction EngineClosure) :=
    [.call i .exec, .call i .exec, .call i .dropPermit, .call i .dropEngine]
  [.submit .write (.write (.start
      { write := .register (contestedIssuer 7), dryRun := false })),
    .submit .read (.ask (.get { uuid := 7 })),
    .submit .read (.ask (.list none 5))] ++
  run 0 ++ List.replicate 5 (.call 0 .exec) ++
  run 1 ++ List.replicate 3 (.call 1 .exec) ++ [.call 0 .exec] ++
  run 2 ++ List.replicate 3 (.call 2 .exec) ++ finish 2 ++ finish 1 ++ finish 0

def registeredProto : IssuerProto where
  id := UuidText.hyphenated.value 7
  status := "ACTIVE"
  createdAt := "1970-01-01T00:00:00+00:00"
  version := 1
  name := none
  cnpj := some "11222333000181"
  lei := none
  countryCode := some "BR"

theorem calls_linearised_racingCalls :
    exists s, runFrom (storageStep (engineBody .hyphenated))
        (AsyncStorage.new (.ofCommitted Db.empty) 2) racingCalls = some s ∧
      s.calls.map Call.answer =
        [some (.ok (.written (.registered (.ok ())))),
          some (.ok (.read (.found (.ok none)))),
          some (.ok (.read (.listed (.ok [registeredProto]))))] ∧
      exists order c, Linearised (engineBody .hyphenated)
        (ServedCall .hyphenated) (fun s c => Represents s.committed c) .empty
        (AsyncStorage.new (.ofCommitted Db.empty) 2) racingCalls s order c := by
  have hanswers : (runFrom (storageStep (engineBody .hyphenated))
      (AsyncStorage.new (.ofCommitted Db.empty) 2) racingCalls).map
        (fun s => s.calls.map Call.answer) =
      some [some (.ok (.written (.registered (.ok ())))),
        some (.ok (.read (.found (.ok none)))),
        some (.ok (.read (.listed (.ok [registeredProto]))))] := by
    decide +kernel
  rcases Option.map_eq_some_iff.mp hanswers with ⟨s, hrun, hcalls⟩
  refine ⟨s, hrun, hcalls,
    calls_linearised .hyphenated represents_empty ?_ hrun⟩
  apply stepsMeet_of_forall
  simp [racingCalls, OnTheirLanes, Handed, Operation.lane]

end Engine
end Valqeron
