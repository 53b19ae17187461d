import Valqeron.Engine.ConcurrentCalls
import Valqeron.EngineClient.IssuerSession

/-!
# Clients at the same time

Any number of clients call one engine after another over the same tables.  Their
calls run in the storage facade at the same time, and an engine may die at any
moment.  Each client is told what the catalogue tells at one moment of its call, and
what a client has been told outlives the engine.
-/

namespace Valqeron
namespace EngineClient

open Foundation
open Domain
open Identifiers
open Sqlite
open Engine

/-!
## A call in two halves
-/

section Handlers

variable (text : UuidText)

/-- What the handler of a call submits to the storage; some calls do not get there. -/
def submission (m : Moment) :
    IssuerCall -> Except Status (Operation × EngineClosure)
  | .register issuer dryRun =>
      match buildIssuerFromProto m.freshId m.now
          (issuerToRegisterRequest issuer dryRun) with
      | .error e => .error e.toStatus
      | .ok registered =>
          .ok (.write, .write (.start
            { write := .register registered.issuer, dryRun := dryRun }))
  | .get id => do
      let id ← parseIssuerIdToDomain text (text.value id.uuid)
      return (.read, .ask (.get id))
  | .list after limit => do
      let after ← (after.map (fun id => text.value id.uuid)).mapM
        (parseIssuerIdToDomain text)
      return (.read, .ask (.list after (listLimit limit)))
  | .patch id request => do
      let r ← patchRequestToDomain text (patchRequestProto text id request)
      return (.write, .write (.start
        { write := .patch r.1 r.2.1 r.2.2, dryRun := request.dryRun }))
  | .delete id request => do
      let id ← parseIssuerIdToDomain text (text.value id.uuid)
      return (.write, .write (.start
        { write := .delete id request.expectedVersion
          dryRun := request.dryRun }))

variable (detail : String) (freshId : IssuerId) (now : DateTime)

/-- What the client makes of the result of its closure, by way of the handler. -/
def received (m : Moment) :
    IssuerCall -> EngineResult -> Option (Except CallError CallReply)
  | .register issuer dryRun, .written (.registered r) =>
      (buildIssuerFromProto m.freshId m.now
        (issuerToRegisterRequest issuer dryRun)).toOption.map
        (fun registered => receiveRegistered text detail freshId now
          ((((r.mapError .register).map (fun _ =>
              convertVersionedIssuerToProto text
                { data := registered, version := 1 })).mapError
            IssuerServiceError.toStatus).map
              (fun issuer => { issuer := some issuer })))
  | .get _, .read (.found r) =>
      some (receiveFound text detail freshId now
        ((r.mapError IssuerServiceError.toStatus).map
          (fun issuer => { issuer := issuer })))
  | .list _ _, .read (.listed r) =>
      some (receiveListed text detail freshId now
        ((r.mapError IssuerServiceError.toStatus).map
          (fun issuers => { issuers := issuers })))
  | .patch _ _, .written (.patched r) =>
      some (receiveWritten detail "patch"
        ((((r.mapError .patch).map writeOutcomeToProto).mapError
          IssuerServiceError.toStatus).map
            (fun outcome => { outcome := some outcome })))
  | .delete _ _, .written (.deleted r) =>
      some (receiveWritten detail "delete"
        ((((r.mapError .delete).map writeOutcomeToProto).mapError
          IssuerServiceError.toStatus).map
            (fun outcome => { outcome := some outcome })))
  | _, _ => none

end Handlers

/-!
## What is submitted
-/

section Submissions

variable (text : UuidText) (m : Moment)

theorem submission_get (id : IssuerId) :
    submission text m (.get id) = .ok (.read, .ask (.get id)) := by
  simp only [submission, parseIssuerIdToDomain_value]
  rfl

theorem submission_list (after : Option IssuerId) (limit : Nat) :
    submission text m (.list after limit) =
      .ok (.read, .ask (.list after (listLimit limit))) := by
  simp only [submission, mapM_parse_after]
  rfl

theorem submission_delete (id : IssuerId) (request : DeleteIssuerRequest) :
    submission text m (.delete id request) =
      .ok (.write, .write (.start
        { write := .delete id request.expectedVersion
          dryRun := request.dryRun })) := by
  simp only [submission, parseIssuerIdToDomain_value]
  rfl

theorem submission_patch (id : IssuerId) {request : PatchIssuerRequest}
    (h : request.patch ≠ .empty) :
    submission text m (.patch id request) =
      .ok (.write, .write (.start
        { write := .patch id request.expectedVersion request.patch
          dryRun := request.dryRun })) := by
  simp only [submission, patchRequestToDomain_proto text id h]
  rfl

theorem submission_emptyPatch (id : IssuerId) {request : PatchIssuerRequest}
    (h : request.patch = .empty) :
    submission text m (.patch id request) = .error emptyPatchStatus := by
  rcases request with ⟨expectedVersion, patch, dryRun⟩
  subst h
  unfold submission
  simp only
  rw [patchRequestToDomain_empty text rfl rfl rfl rfl rfl]
  simp only [patchRequestProto, parseIssuerIdToDomain_value]
  rfl

theorem submission_register (issuer : Issuer) (dryRun : Bool)
    {countryCode : Option CountryCode}
    (h : IssuerBuilder.resolveCountry issuer.cnpj issuer.countryCode =
      .ok countryCode) :
    submission text m (.register issuer dryRun) =
      .ok (.write, .write (.start
        { write := .register (registeredIssuer m issuer countryCode)
          dryRun := dryRun })) := by
  simp only [submission, buildIssuerFromProto_resolved, h]
  rfl

theorem submission_foreignCnpj (issuer : Issuer) (dryRun : Bool)
    {e : IssuerBuilderError}
    (h : IssuerBuilder.resolveCountry issuer.cnpj issuer.countryCode =
      .error e) :
    submission text m (.register issuer dryRun) =
      .error { code := .invalidArgument, message := e.message } := by
  simp only [submission, buildIssuerFromProto_resolved, h]
  rfl

inductive Submits : IssuerCall -> Operation -> EngineClosure -> Prop where
  | register {issuer : Issuer} {dryRun : Bool}
      {countryCode : Option CountryCode}
      (h : IssuerBuilder.resolveCountry issuer.cnpj issuer.countryCode =
        .ok countryCode) :
      Submits (.register issuer dryRun) .write (.write (.start
        { write := .register (registeredIssuer m issuer countryCode)
          dryRun := dryRun }))
  | get {id : IssuerId} : Submits (.get id) .read (.ask (.get id))
  | list {after : Option IssuerId} {limit : Nat} :
      Submits (.list after limit) .read (.ask (.list after (listLimit limit)))
  | patch {id : IssuerId} {request : PatchIssuerRequest}
      (h : request.patch ≠ .empty) :
      Submits (.patch id request) .write (.write (.start
        { write := .patch id request.expectedVersion request.patch
          dryRun := request.dryRun }))
  | delete {id : IssuerId} {request : DeleteIssuerRequest} :
      Submits (.delete id request) .write (.write (.start
        { write := .delete id request.expectedVersion
          dryRun := request.dryRun }))

theorem submits_of_submission {call : IssuerCall} {operation : Operation}
    {f : EngineClosure} (h : submission text m call = .ok (operation, f)) :
    Submits m call operation f := by
  cases call with
  | register issuer dryRun =>
      cases hcountry : IssuerBuilder.resolveCountry issuer.cnpj
          issuer.countryCode with
      | error e =>
          rw [submission_foreignCnpj text m issuer dryRun hcountry] at h
          cases h
      | ok countryCode =>
          rw [submission_register text m issuer dryRun hcountry] at h
          cases h
          exact .register hcountry
  | get id =>
      rw [submission_get] at h
      cases h
      exact .get
  | list after limit =>
      rw [submission_list] at h
      cases h
      exact .list
  | patch id request =>
      by_cases hpatch : request.patch = .empty
      · rw [submission_emptyPatch text m id hpatch] at h
        cases h
      · rw [submission_patch text m id hpatch] at h
        cases h
        exact .patch hpatch
  | delete id request =>
      rw [submission_delete] at h
      cases h
      exact .delete

inductive Alone (d : Db) : EngineClosure -> Db -> EngineResult -> Prop where
  | write (req : WriteRequest) :
      Alone d (.write (.start req)) (req.serve d).1
        (.written (req.serve d).2)
  | ask (r : IssuerRead) :
      Alone d (.ask r) d (.read ((r.program text).run Command.onDb d).2)

variable (detail : String) (freshId : IssuerId) (now : DateTime)

theorem build_registered {issuer : Issuer} (dryRun : Bool)
    {countryCode : Option CountryCode}
    (h : IssuerBuilder.resolveCountry issuer.cnpj issuer.countryCode =
      .ok countryCode) :
    buildIssuerFromProto m.freshId m.now
        (issuerToRegisterRequest issuer dryRun) =
      .ok
        { issuer := registeredIssuer m issuer countryCode
          securities := .loaded [] } := by
  rw [buildIssuerFromProto_resolved, h]
  rfl

theorem received_register {issuer : Issuer} (dryRun : Bool)
    {countryCode : Option CountryCode}
    (h : IssuerBuilder.resolveCountry issuer.cnpj issuer.countryCode =
      .ok countryCode)
    (r : Except (RegisterIssuerError StorageFault) Unit) :
    received text detail freshId now m (.register issuer dryRun)
        (.written (.registered r)) =
      some (receiveRegistered text detail freshId now
        ((((r.mapError .register).map (fun _ =>
            convertVersionedIssuerToProto text
              { data :=
                  { issuer := registeredIssuer m issuer countryCode
                    securities := .loaded [] }
                version := 1 })).mapError
          IssuerServiceError.toStatus).map
            (fun issuer => { issuer := some issuer }))) := by
  unfold received
  simp only [build_registered m dryRun h]
  rfl

/-- The two halves of a call, with the closure between them, make up the call. -/
theorem callEngine_of_submission (d : Db) {call : IssuerCall}
    {operation : Operation} {f : EngineClosure}
    (h : submission text m call = .ok (operation, f)) :
    exists d' v, Alone text d f d' v ∧
      received text detail freshId now m call v =
        some (callEngine text detail freshId now d (m, call)).2 ∧
      (callEngine text detail freshId now d (m, call)).1 = d' := by
  cases submits_of_submission text m h with
  | @register issuer dryRun countryCode hcountry =>
      refine ⟨_, _, .write _, ?_⟩
      unfold callEngine registerReply register WriteRequest.serve
        registerProgram IssuerWrite.program
      simp only [build_registered m dryRun hcountry, Program.run_bind]
      cases (registerIssuer sqliteIssuerRepository
          (registeredIssuer m issuer countryCode)).run Command.onDb d with
      | mk d' r =>
          have hreceived := received_register text m detail freshId now dryRun
            hcountry r
          cases dryRun with
          | _ =>
              cases r with
              | _ => exact ⟨hreceived, rfl⟩
  | get =>
      refine ⟨_, _, .ask _, ?_, rfl⟩
      unfold callEngine getReply Engine.get IssuerRead.program
      simp only [parseIssuerIdToDomain_value, Program.run_bind]
      rfl
  | list =>
      refine ⟨_, _, .ask _, ?_, rfl⟩
      unfold callEngine Engine.list IssuerRead.program
      simp only [mapM_parse_after, Program.run_bind]
      rfl
  | @patch id request hpatch =>
      refine ⟨_, _, .write _, ?_⟩
      unfold callEngine patchReply
      simp only [patchRequestToDomain_proto text id hpatch]
      unfold runWrite WriteRequest.serve patchProgram IssuerWrite.program
      simp only [Program.run_bind, patchRequestProto]
      cases request.dryRun with
      | _ => exact ⟨rfl, rfl⟩
  | @delete id request =>
      refine ⟨_, _, .write _, ?_⟩
      unfold callEngine deleteReply
      simp only [parseIssuerIdToDomain_value]
      unfold runWrite WriteRequest.serve deleteProgram IssuerWrite.program
      simp only [Program.run_bind]
      cases request.dryRun with
      | _ => exact ⟨rfl, rfl⟩

theorem callEngine_of_rejected (d : Db) {call : IssuerCall} {e : Status}
    (h : submission text m call = .error e) :
    callEngine text detail freshId now d (m, call) =
      (d, .error (mapStatus e)) := by
  cases call with
  | register issuer dryRun =>
      cases hcountry : IssuerBuilder.resolveCountry issuer.cnpj
          issuer.countryCode with
      | error fault =>
          rw [submission_foreignCnpj text m issuer dryRun hcountry] at h
          cases h
          exact foreignCnpj_refines text detail freshId now m dryRun hcountry
      | ok countryCode =>
          rw [submission_register text m issuer dryRun hcountry] at h
          cases h
  | get id =>
      rw [submission_get] at h
      cases h
  | list after limit =>
      rw [submission_list] at h
      cases h
  | patch id request =>
      by_cases hpatch : request.patch = .empty
      · rw [submission_emptyPatch text m id hpatch] at h
        cases h
        exact emptyPatch_refines text detail freshId now m id hpatch
      · rw [submission_patch text m id hpatch] at h
        cases h
  | delete id request =>
      rw [submission_delete] at h
      cases h

end Submissions

/-!
## What is told
-/

section Told

variable (text : UuidText) (detail : String)
variable (freshId : IssuerId) (now : DateTime)

/-- The client of a closure is told what the catalogue tells of its call. -/
def Told (c : Catalogue) (f : EngineClosure) (c' : Catalogue)
    (r : Except String EngineResult) : Prop :=
  forall m call operation, submission text m call = .ok (operation, f) ->
    exists v reply, r = .ok v ∧
      received text detail freshId now m call v = some reply ∧
        OnCatalogue c m call reply c'

theorem received_registered {m : Moment} {issuer : Issuer} {dryRun : Bool}
    {countryCode : Option CountryCode}
    (h : IssuerBuilder.resolveCountry issuer.cnpj issuer.countryCode =
      .ok countryCode)
    (r : Except (RegisterIssuerError StorageFault) Unit) :
    received text detail freshId now m (.register issuer dryRun)
        (.written (.registered r)) =
      some (writeReply (.of .ofInsert r) (.registered
        (clientView (registeredIssuer m issuer countryCode) 1))) := by
  have hproto := clientView_arrives text freshId now
    (registeredIssuer_readable m h) 1 (.loaded [])
  rw [received_register text m detail freshId now dryRun h]
  cases r with
  | ok u =>
      show some (((issuerFromProto text freshId now _).mapError _).map _) = _
      rw [hproto]
      rfl
  | error e =>
      cases e with
      | _ => rfl

theorem told_of_written {c c' : Catalogue} {req : WriteRequest}
    {v : WriteResult} (h : ServedWrite c req c' v) :
    Told text detail freshId now c (.write (.start req)) c'
      (.ok (.written v)) := by
  rcases h with ⟨hkind, hserved⟩
  intro m call operation hsubmission
  have hfst : c' = (req.onCatalogue c).1 := congrArg Prod.fst hserved
  have hsnd : v.answer = (req.onCatalogue c).2 := congrArg Prod.snd hserved
  subst hfst
  cases submits_of_submission text m hsubmission with
  | @register issuer dryRun countryCode hcountry =>
      cases v with
      | registered r =>
          refine ⟨_, _, rfl, received_registered text detail freshId now
            hcountry r, ?_⟩
          have hreply : ServiceAnswer.of .ofInsert r = _ := hsnd
          rw [hreply]
          exact .register issuer dryRun countryCode hcountry
      | _ => exact hkind.elim
  | @patch id request hpatch =>
      cases v with
      | patched r =>
          refine ⟨_, _, rfl, rfl, ?_⟩
          have hreply : ServiceAnswer.of .ofWrite r = _ := hsnd
          rw [reply_patched (writeOutcomeToProto .applied), hreply,
            receiveWritten_reply]
          exact .patch id request hpatch
      | _ => exact hkind.elim
  | @delete id request =>
      cases v with
      | deleted r =>
          refine ⟨_, _, rfl, rfl, ?_⟩
          have hreply : ServiceAnswer.told (.ofWrite r) = _ := hsnd
          rw [reply_deleted (writeOutcomeToProto .applied), hreply,
            receiveWritten_reply]
          exact .delete id request
      | _ => exact hkind.elim

theorem told_of_read {c : Catalogue} (hreadable : c.issuers.Holds Readable)
    {asked : IssuerRead} {v : ReadResult} (h : AnswersRead text c asked v) :
    Told text detail freshId now c (.ask asked) c (.ok (.read v)) := by
  intro m call operation hsubmission
  cases submits_of_submission text m hsubmission with
  | @get id =>
      cases v with
      | found r =>
          refine ⟨_, _, rfl, rfl, ?_⟩
          rw [receiveFound_answers text detail freshId now hreadable h]
          exact .get id
      | listed r => cases h
  | @list after limit =>
      cases v with
      | found r => cases h
      | listed r =>
          rcases receiveListed_answers text detail freshId now hreadable h with
            ⟨entries, hpage, hreceived⟩
          refine ⟨_, _, rfl, rfl, ?_⟩
          rw [hreceived]
          exact .list after limit entries hpage

theorem told_of_served {c c' : Catalogue} (hreadable : c.issuers.Holds Readable)
    {f : EngineClosure} {r : Except String EngineResult} {m : Moment}
    {call : IssuerCall} {operation : Operation}
    (hsubmission : submission text m call = .ok (operation, f))
    (h : ServedCall text c f c' r) :
    Told text detail freshId now c f c' r ∧ c'.issuers.Holds Readable := by
  cases h with
  | @write req c' v hserved =>
      refine ⟨told_of_written text detail freshId now hserved, ?_⟩
      rcases hserved with ⟨_, hserved⟩
      have hfst : c' = (req.onCatalogue c).1 := congrArg Prod.fst hserved
      rw [hfst]
      apply onCatalogue_readable hreadable
      intro issuer hwrite
      cases submits_of_submission text m hsubmission with
      | register hcountry =>
          cases hwrite
          exact registeredIssuer_readable m hcountry
      | patch _ => cases hwrite
      | delete => cases hwrite
  | read hanswers =>
      exact ⟨told_of_read text detail freshId now hreadable hanswers, hreadable⟩

end Told

/-!
## One engine after another
-/

section Lives

variable (text : UuidText)

def Asked (lane : Lane) (f : EngineClosure) : Prop :=
  exists m call operation, submission text m call = .ok (operation, f) ∧
    operation.lane = lane

theorem handed_of_asked {lane : Lane} {f : EngineClosure}
    (h : Asked text lane f) : Handed lane f := by
  rcases h with ⟨m, call, operation, hsubmission, hlane⟩
  subst hlane
  cases submits_of_submission text m hsubmission with
  | register _ => exact ⟨_, rfl⟩
  | get => exact ⟨_, rfl⟩
  | list => exact ⟨_, rfl⟩
  | patch _ => exact ⟨_, rfl⟩
  | delete => exact ⟨_, rfl⟩

/-- What the clients and the pool threads do while an engine lives. -/
structure Life where
  readerPoolSize : Nat
  acts : List (StorageAction EngineClosure)

def Life.start (life : Life) (d : Db) : EngineStorage :=
  AsyncStorage.new (.ofCommitted d) life.readerPoolSize

/-- Engines that live one after another; each finds what was committed. -/
inductive Lives : Db -> List Life -> Db -> Prop where
  | nil (d : Db) : Lives d [] d
  | cons {d d' : Db} {life : Life} {lives : List Life} {s : EngineStorage}
      (hmeet : StepsMeet (storageStep (engineBody text))
        (OnTheirLanes (Asked text)) (life.start d) life.acts)
      (hrun : runFrom (storageStep (engineBody text)) (life.start d)
        life.acts = some s)
      (rest : Lives s.engine.committed lives d') : Lives d (life :: lives) d'

variable (detail : String) (freshId : IssuerId) (now : DateTime)

/-- In every life the clients are told what one catalogue tells, life after life. -/
inductive LivesTold : Db -> Catalogue -> List Life -> Db -> Catalogue -> Prop
  where
  | nil {d : Db} {c : Catalogue} : LivesTold d c [] d c
  | cons {d d' : Db} {c c₁ c' : Catalogue} {life : Life} {lives : List Life}
      {s : EngineStorage} {order : List (Nat × Except String EngineResult)}
      (hrun : runFrom (storageStep (engineBody text)) (life.start d)
        life.acts = some s)
      (htold : Linearised (engineBody text) (Told text detail freshId now)
        (fun s c => Shows s.committed c) c (life.start d) life.acts s order c₁)
      (rest : LivesTold s.engine.committed c₁ lives d' c') :
      LivesTold d c (life :: lives) d' c'

theorem told_of_life {d : Db} {c : Catalogue} (hshows : Shows d c) {life : Life}
    {s : EngineStorage}
    (hmeet : StepsMeet (storageStep (engineBody text))
      (OnTheirLanes (Asked text)) (life.start d) life.acts)
    (hrun : runFrom (storageStep (engineBody text)) (life.start d)
      life.acts = some s) :
    exists order c₁, Linearised (engineBody text)
      (Told text detail freshId now) (fun s c => Shows s.committed c) c
      (life.start d) life.acts s order c₁ := by
  have hhanded : StepsMeet (storageStep (engineBody text))
      (OnTheirLanes Handed) (life.start d) life.acts :=
    stepsMeet_mono (fun _ _ => OnTheirLanes.mono
      (fun _ _ => handed_of_asked text)) hmeet
  rcases linearised_of_run (issuerClosures text) ⟨d, rfl, hshows.left⟩ hhanded
    hrun with ⟨order, c₁, hlinearised⟩
  refine ⟨order, c₁, hlinearised.refine
    (I := fun c => c.issuers.Holds Readable) hshows.right ?_
    (fun _ _ hrepresents hreadable => ⟨hrepresents, hreadable⟩)⟩
  intro c f c' r hf hreadable hserved
  rcases submitted_admitted hmeet hrun hf with
    ⟨lane, m, call, operation, hsubmission, _⟩
  exact told_of_served text detail freshId now hreadable hsubmission hserved

/--
However the calls of the clients meet and whenever an engine dies, every client is
told what the catalogue tells at one moment of its call, and the next engine finds
the catalogue of the calls that have taken effect.
-/
theorem clients_linearised {d d' : Db} {c : Catalogue} {lives : List Life}
    (hshows : Shows d c) (h : Lives text d lives d') :
    exists c', LivesTold text detail freshId now d c lives d' c' ∧
      Shows d' c' := by
  induction h generalizing c with
  | nil d => exact ⟨c, .nil, hshows⟩
  | cons hmeet hrun rest ih =>
      rcases told_of_life text detail freshId now hshows hmeet hrun with
        ⟨order, c₁, htold⟩
      rcases ih htold.holds with ⟨c', hrest, hshows'⟩
      exact ⟨c', .cons hrun htold hrest, hshows'⟩

end Lives

/-- Killed behind the commit of a registration, before anybody is told of it. -/
def killedLife : Life where
  readerPoolSize := 2
  acts :=
    [.submit .write (.write (.start
        { write := .register (registeredIssuer newYearsMoment plainIssuer none)
          dryRun := false })),
      .call 0 .grant, .call 0 .spawn, .call 0 .start, .call 0 .exec,
      .call 0 .exec, .call 0 .exec]

def lookupLife : Life where
  readerPoolSize := 1
  acts :=
    [.submit .read (.ask (.get { uuid := 1 })), .call 0 .grant, .call 0 .spawn,
      .call 0 .start] ++
    List.replicate 5 (.call 0 .exec) ++ [.call 0 .dropPermit, .call 0 .dropEngine]

theorem killedLife_asked (s : EngineStorage) :
    StepsMeet (storageStep (engineBody .hyphenated))
      (OnTheirLanes (Asked .hyphenated)) s killedLife.acts := by
  apply stepsMeet_of_forall
  intro s a ha
  simp only [killedLife, List.mem_cons, List.not_mem_nil, or_false] at ha
  rcases ha with ha | ha | ha | ha | ha | ha | ha
  · subst ha
    exact ⟨newYearsMoment, .register plainIssuer false, .write,
      submission_register .hyphenated newYearsMoment plainIssuer false rfl, rfl⟩
  all_goals
    subst ha
    trivial

theorem lookupLife_asked (s : EngineStorage) :
    StepsMeet (storageStep (engineBody .hyphenated))
      (OnTheirLanes (Asked .hyphenated)) s lookupLife.acts := by
  apply stepsMeet_of_forall
  intro s a ha
  simp only [lookupLife, List.mem_append, List.mem_cons, List.not_mem_nil,
    or_false, List.mem_replicate] at ha
  rcases ha with ((ha | ha | ha | ha) | ⟨_, ha⟩) | ha | ha
  · subst ha
    exact ⟨newYearsMoment, .get { uuid := 1 }, .read,
      submission_get .hyphenated newYearsMoment _, rfl⟩
  all_goals
    subst ha
    trivial

theorem clients_linearised_killedLife :
    exists s₁ s₂, runFrom (storageStep (engineBody .hyphenated))
        (killedLife.start .empty) killedLife.acts = some s₁ ∧
      runFrom (storageStep (engineBody .hyphenated))
        (lookupLife.start s₁.engine.committed) lookupLife.acts = some s₂ ∧
      s₂.calls.map Call.answer =
        [some (.ok (.read (.found (.ok (some
          (convertVersionedIssuerToProto .hyphenated (engineView
            (registeredIssuer newYearsMoment plainIssuer none) 1)))))))] ∧
      exists c', LivesTold .hyphenated "" { uuid := 0 } newYearsClock .empty
          .empty [killedLife, lookupLife] s₂.engine.committed c' ∧
        Shows s₂.engine.committed c' := by
  have hanswers : ((runFrom (storageStep (engineBody .hyphenated))
      (killedLife.start .empty) killedLife.acts).bind (fun s₁ =>
        runFrom (storageStep (engineBody .hyphenated))
          (lookupLife.start s₁.engine.committed) lookupLife.acts)).map
        (fun s₂ => s₂.calls.map Call.answer) =
      some [some (.ok (.read (.found (.ok (some
        (convertVersionedIssuerToProto .hyphenated (engineView
          (registeredIssuer newYearsMoment plainIssuer none) 1)))))))] := by
    decide +kernel
  rcases Option.map_eq_some_iff.mp hanswers with ⟨s₂, hboth, hcalls⟩
  rcases Option.bind_eq_some_iff.mp hboth with ⟨s₁, hfirst, hsecond⟩
  exact ⟨s₁, s₂, hfirst, hsecond, hcalls,
    clients_linearised .hyphenated "" { uuid := 0 } newYearsClock shows_empty
      (.cons (killedLife_asked _) hfirst
        (.cons (lookupLife_asked _) hsecond (.nil _)))⟩

end EngineClient
end Valqeron
