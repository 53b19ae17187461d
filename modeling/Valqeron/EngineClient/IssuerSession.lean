import Valqeron.Engine.CatalogueReads
import Valqeron.Engine.IssuerReplies
import Valqeron.EngineClient.IssuerMapping
import Valqeron.EngineClient.WriteRequests
import Valqeron.Foundation.Answering

/-!
# Sessions of a client

A client registers, looks up, lists, patches and deletes issuers through the
messages of the engine.  What it gets to see, call by call, is what a catalogue
would show it: the texts of the wire and of the tables, the statuses and the
statements in between cannot be told from outside.
-/

namespace Valqeron
namespace EngineClient

open Foundation
open Domain
open Identifiers
open Sqlite
open Engine

/-- The cases of `ClientError` that a call on an open connection ends in. -/
inductive CallError where
  | rpc (code message : String)
  | invalidResponse (message : String)
deriving DecidableEq, Repr

structure DeleteIssuerRequest where
  expectedVersion : Nat
  dryRun : Bool
deriving DecidableEq, Repr

inductive IssuerCall where
  | register (issuer : Issuer) (dryRun : Bool)
  | get (id : IssuerId)
  | list (after : Option IssuerId) (limit : Nat)
  | patch (id : IssuerId) (request : PatchIssuerRequest)
  | delete (id : IssuerId) (request : DeleteIssuerRequest)

inductive CallReply where
  | registered (issuer : Versioned HydratedIssuer)
  | found (issuer : Option (Versioned HydratedIssuer))
  | listed (issuers : List (Versioned HydratedIssuer))
  | written (outcome : WriteOutcome)
deriving DecidableEq

/-- What the engine adds to a registration: a new id, and the clock. -/
structure Moment where
  freshId : IssuerId
  now : DateTime
  /-- The clock is in the years that the stored texts can tell. -/
  year : FourDigitYear (creationTime now)

/-!
## The calls of the client
-/

/-- The `Debug` text of a code. -/
def codeName : StatusCode -> String
  | .invalidArgument => "InvalidArgument"
  | .alreadyExists => "AlreadyExists"
  | .internal => "Internal"

def mapStatus (status : Status) : CallError :=
  .rpc (codeName status.code) status.message

/-- `detail` is what the libraries say about an id or a time. -/
def IssuerMappingError.message (detail : String) : IssuerMappingError -> String
  | invalidId => "invalid issuer id: " ++ detail
  | invalidTimestamp => "invalid created_at timestamp: " ++ detail
  | name e => e.message
  | status e => e.message
  | cnpj e => e.message
  | lei e => e.message
  | countryCode e => e.message
  | builder e => e.message
  | missingField field => "missing required field \x60" ++ field ++ "\x60"

def writeOutcomeFromProto (msg : WriteOutcomeProto) :
    Except IssuerMappingError WriteOutcome :=
  match msg.outcome with
  | some .applied => .ok .applied
  | some (.versionMismatch expected actual) =>
      .ok (.versionMismatch expected actual)
  | some .missing => .ok .missing
  | none => .error (.missingField "outcome")

section Client

variable (text : UuidText) (detail : String)
variable (freshId : IssuerId) (now : DateTime)

def invalidResponse (e : IssuerMappingError) : CallError :=
  .invalidResponse (e.message detail)

def receiveRegistered (response : Except Status IssuerResponseProto) :
    Except CallError CallReply := do
  let response ← response.mapError mapStatus
  match response.issuer with
  | none => .error (.invalidResponse "register returned no issuer")
  | some wire =>
      ((issuerFromProto text freshId now wire).mapError
        (invalidResponse detail)).map .registered

def receiveFound (response : Except Status IssuerResponseProto) :
    Except CallError CallReply := do
  let response ← response.mapError mapStatus
  match response.issuer with
  | none => .ok (.found none)
  | some wire =>
      ((issuerFromProto text freshId now wire).mapError
        (invalidResponse detail)).map (fun issuer => .found (some issuer))

def receiveListed (response : Except Status ListIssuersResponseProto) :
    Except CallError CallReply := do
  let response ← response.mapError mapStatus
  ((response.issuers.mapM (issuerFromProto text freshId now)).mapError
    (invalidResponse detail)).map .listed

/-- `operation` is the name that a reply without an outcome is reported with. -/
def receiveWritten (operation : String)
    (response : Except Status PatchIssuerResponseProto) :
    Except CallError CallReply := do
  let response ← response.mapError mapStatus
  match response.outcome with
  | none => .error (.invalidResponse (operation ++ " returned no outcome"))
  | some outcome =>
      ((writeOutcomeFromProto outcome).mapError
        (invalidResponse detail)).map .written

/-- A call of the client, served by an engine with the database. -/
def callEngine (d : Db) :
    Moment × IssuerCall -> Db × Except CallError CallReply
  | (m, .register issuer dryRun) =>
      let r := registerReply text m.freshId m.now d
        (issuerToRegisterRequest issuer dryRun)
      (r.1, receiveRegistered text detail freshId now r.2)
  | (_, .get id) =>
      (d, receiveFound text detail freshId now
        (getReply text d (text.value id.uuid)))
  | (_, .list after limit) =>
      (d, receiveListed text detail freshId now
        (Engine.list text d
          { after := after.map (fun id => text.value id.uuid)
            limit := limit }))
  | (_, .patch id request) =>
      let r := patchReply text d (patchRequestProto text id request)
      (r.1, receiveWritten detail "patch" r.2)
  | (_, .delete id request) =>
      let r := deleteReply text d
        { id := text.value id.uuid
          expectedVersion := request.expectedVersion
          dryRun := request.dryRun }
      (r.1, receiveWritten detail "delete" r.2)

end Client

/-!
## The calls on the catalogue
-/

def clientView (issuer : Issuer) (version : Nat) : Versioned HydratedIssuer :=
  { data :=
      { issuer :=
          { issuer with
            countryCode := (IssuerBuilder.resolveCountry issuer.cnpj
              issuer.countryCode).toOption.getD issuer.countryCode }
        -- the builder for new issuers says so of every issuer
        securities := .loaded [] }
    version := version }

def internalError : CallError := mapStatus internalStorageError

def lookupReply : Option (Issuer × Nat) -> Except CallError CallReply
  | none => .ok (.found none)
  | some (issuer, version) =>
      if version < 2 ^ 32 then
        .ok (.found (some (clientView issuer version)))
      else
        .error internalError

def pageReply (entries : List (Uuid × Issuer × Nat)) :
    Except CallError CallReply :=
  if entries.all (fun e => e.2.2 < 2 ^ 32) then
    .ok (.listed (entries.map (fun e => clientView e.2.1 e.2.2)))
  else
    .error internalError

def writeReply (answer : ServiceAnswer) (onInserted : CallReply) :
    Except CallError CallReply :=
  (answer.reply onInserted .written).mapError mapStatus

/-- The issuer that a registration is about, when its country can be told. -/
def registeredIssuer (m : Moment) (issuer : Issuer)
    (countryCode : Option CountryCode) : Issuer :=
  { issuer with
    id := m.freshId
    createdAt := creationTime m.now
    countryCode := countryCode }

def invalidArgument (message : String) : CallError :=
  .rpc "InvalidArgument" message

/-- The calls that a catalogue allows, with their replies. -/
inductive OnCatalogue (c : Catalogue) (m : Moment) :
    IssuerCall -> Except CallError CallReply -> Catalogue -> Prop where
  | foreignCnpj (issuer : Issuer) (dryRun : Bool) (e : IssuerBuilderError)
      (h : IssuerBuilder.resolveCountry issuer.cnpj issuer.countryCode =
        .error e) :
      OnCatalogue c m (.register issuer dryRun)
        (.error (invalidArgument e.message)) c
  | register (issuer : Issuer) (dryRun : Bool)
      (countryCode : Option CountryCode)
      (h : IssuerBuilder.resolveCountry issuer.cnpj issuer.countryCode =
        .ok countryCode) :
      OnCatalogue c m (.register issuer dryRun)
        (writeReply (WriteRequest.onCatalogue c
            { write := .register (registeredIssuer m issuer countryCode)
              dryRun := dryRun }).2
          (.registered
            (clientView (registeredIssuer m issuer countryCode) 1)))
        (WriteRequest.onCatalogue c
          { write := .register (registeredIssuer m issuer countryCode)
            dryRun := dryRun }).1
  | get (id : IssuerId) :
      OnCatalogue c m (.get id) (lookupReply (c.issuers id.uuid)) c
  | list (after : Option IssuerId) (limit : Nat)
      (entries : List (Uuid × Issuer × Nat))
      (h : c.issuers.IsPage (after.map IssuerId.uuid) (listLimit limit)
        entries) :
      OnCatalogue c m (.list after limit) (pageReply entries) c
  | emptyPatch (id : IssuerId) (request : PatchIssuerRequest)
      (h : request.patch = .empty) :
      OnCatalogue c m (.patch id request)
        (.error (mapStatus emptyPatchStatus)) c
  | patch (id : IssuerId) (request : PatchIssuerRequest)
      (h : request.patch ≠ .empty) :
      OnCatalogue c m (.patch id request)
        (writeReply (WriteRequest.onCatalogue c
            { write := .patch id request.expectedVersion request.patch
              dryRun := request.dryRun }).2 (.written .applied))
        (WriteRequest.onCatalogue c
          { write := .patch id request.expectedVersion request.patch
            dryRun := request.dryRun }).1
  | delete (id : IssuerId) (request : DeleteIssuerRequest) :
      OnCatalogue c m (.delete id request)
        (writeReply (WriteRequest.onCatalogue c
            { write := .delete id request.expectedVersion
              dryRun := request.dryRun }).2 (.written .applied))
        (WriteRequest.onCatalogue c
          { write := .delete id request.expectedVersion
            dryRun := request.dryRun }).1

/-!
## What is stored can be shown
-/

/-- What every issuer satisfies that came through the engine. -/
structure Readable (k : Uuid) (issuer : Issuer) : Prop where
  key : issuer.id.uuid = k
  year : FourDigitYear issuer.createdAt
  whole : WholeMillis issuer.createdAt
  brazil : issuer.cnpj ≠ none -> issuer.countryCode ≠ none ->
    issuer.countryCode.map CountryCode.asStr = some brazilCountryCode

theorem exists_resolved {cnpj : Option Cnpj} {countryCode : Option CountryCode}
    (h : cnpj ≠ none -> countryCode ≠ none ->
      countryCode.map CountryCode.asStr = some brazilCountryCode) :
    exists resolved,
      IssuerBuilder.resolveCountry cnpj countryCode = .ok resolved := by
  cases cnpj with
  | none => exact ⟨countryCode, rfl⟩
  | some v =>
      cases countryCode with
      | none =>
          rcases fromStr_brazil with ⟨code, hcode, _⟩
          refine ⟨some code, ?_⟩
          unfold IssuerBuilder.resolveCountry
          simp only [hcode]
      | some code =>
          have hbrazil := h (Option.some_ne_none v) (Option.some_ne_none code)
          rw [Option.map_some, Option.some_inj] at hbrazil
          refine ⟨some code, ?_⟩
          unfold IssuerBuilder.resolveCountry
          simp only [hbrazil, ne_eq, not_true_eq_false, if_false]

theorem clientView_arrives (text : UuidText) (freshId : IssuerId)
    (now : DateTime) {k : Uuid} {issuer : Issuer} (h : Readable k issuer)
    (version : Nat) (securities : Loading (List Security)) :
    issuerFromProto text freshId now (convertVersionedIssuerToProto text
        { data := { issuer := issuer, securities := securities }
          version := version }) =
      .ok (clientView issuer version) := by
  rcases exists_resolved h.brazil with ⟨resolved, hresolved⟩
  have harrives : issuerFromProto text freshId now
      (convertVersionedIssuerToProto text
        { data := { issuer := issuer, securities := securities }
          version := version }) =
      .ok
        { data :=
            { issuer := { issuer with countryCode := resolved }
              securities := .loaded [] }
          version := version } :=
    issuerFromProto_convert text freshId now h.year h.whole.wellPlaced
      hresolved
  rw [harrives]
  unfold clientView
  rw [hresolved]
  rfl

def engineView (issuer : Issuer) (version : Nat) : Versioned HydratedIssuer :=
  { data := { issuer := issuer, securities := .notLoaded }
    version := version }

theorem hydrateLazy_readable {k : Uuid} {issuer : Issuer}
    (h : Readable k issuer) (version : Nat) :
    (version < 2 ^ 32 ->
      (reconstituteLazy (k, issuerRecordOf issuer version)).hydrateLazy =
        .ok (engineView issuer version)) ∧
    (¬ version < 2 ^ 32 -> exists e,
      (reconstituteLazy (k, issuerRecordOf issuer version)).hydrateLazy =
        .error e) := by
  constructor
  · intro hversion
    have hrow := fromRow_issuerRecordOf h.year h.whole.wellPlaced hversion
    rw [h.key, h.whole.truncate] at hrow
    unfold StoredIssuer.hydrateLazy reconstituteLazy
    simp only [hrow]
    rfl
  · intro hversion
    unfold StoredIssuer.hydrateLazy reconstituteLazy
    cases hrow : IssuerRow.fromRow (k, issuerRecordOf issuer version) with
    | error e => exact ⟨backend e, rfl⟩
    | ok v => exact absurd (parse_of_fromRow hrow).right hversion

/-!
## One call
-/

section Steps

variable (text : UuidText) (detail : String)
variable (freshId : IssuerId) (now : DateTime)
variable {d : Db} {c : Catalogue}

theorem mapM_parse_after (after : Option IssuerId) :
    (after.map (fun id => text.value id.uuid)).mapM
      (parseIssuerIdToDomain text) = .ok after := by
  cases after with
  | none => rfl
  | some id =>
      rw [Option.map_some, Option.mapM_some, parseIssuerIdToDomain_value]
      rfl

theorem receiveFound_answers (hreadable : c.issuers.Holds Readable)
    {id : IssuerId} {r : Except IssuerServiceError (Option IssuerProto)}
    (h : AnswersRead text c (.get id) (.found r)) :
    receiveFound text detail freshId now
        ((r.mapError IssuerServiceError.toStatus).map
          (fun issuer => { issuer := issuer })) =
      lookupReply (c.issuers id.uuid) := by
  cases h with
  | missing hmissing =>
      rw [hmissing]
      rfl
  | @found id e hstored =>
      rcases e with ⟨issuer, version⟩
      have hissuer := hreadable id.uuid issuer version hstored
      rcases hydrateLazy_readable hissuer version with ⟨hshown, hlarge⟩
      rw [hstored]
      unfold lookupReply shownIssuer
      by_cases hversion : version < 2 ^ 32
      · have harrives := clientView_arrives text freshId now hissuer version
          .notLoaded
        simp only [hshown hversion, if_pos hversion]
        show ((issuerFromProto text freshId now _).mapError _).map _ = _
        rw [engineView, harrives]
        rfl
      · rcases hlarge hversion with ⟨e, he⟩
        simp only [he, if_neg hversion]
        rfl

theorem receiveListed_answers (hreadable : c.issuers.Holds Readable)
    {after : Option IssuerId} {limit : Nat}
    {r : Except IssuerServiceError (List IssuerProto)}
    (h : AnswersRead text c (.list after limit) (.listed r)) :
    exists entries, c.issuers.IsPage (after.map IssuerId.uuid) limit entries ∧
      receiveListed text detail freshId now
          ((r.mapError IssuerServiceError.toStatus).map
            (fun issuers => { issuers := issuers })) = pageReply entries := by
  cases h with
  | @listed after limit entries hpage =>
      refine ⟨entries, hpage, ?_⟩
      have hentry : forall e, e ∈ entries -> Readable e.1 e.2.1 := by
        intro e he
        exact hreadable e.1 e.2.1 e.2.2 (hpage.stored e he)
      unfold pageReply
      by_cases hversions : forall e, e ∈ entries -> e.2.2 < 2 ^ 32
      · have hall : entries.all (fun e => decide (e.2.2 < 2 ^ 32)) = true := by
          rw [List.all_eq_true]
          intro e he
          exact decide_eq_true (hversions e he)
        have hread : entries.mapM (fun e => shownIssuer text e.1 e.2) =
            .ok (entries.map (fun e => convertVersionedIssuerToProto text
              (engineView e.2.1 e.2.2))) := by
          rw [mapM_eq_ok_iff, List.forall₂_map_right_iff, List.forall₂_same]
          intro e he
          unfold shownIssuer
          rw [(hydrateLazy_readable (hentry e he) e.2.2).left (hversions e he)]
          rfl
        have harrive : (entries.map (fun e =>
            convertVersionedIssuerToProto text (engineView e.2.1 e.2.2))).mapM
              (issuerFromProto text freshId now) =
            .ok (entries.map (fun e => clientView e.2.1 e.2.2)) := by
          rw [mapM_eq_ok_iff, List.forall₂_map_left_iff,
            List.forall₂_map_right_iff, List.forall₂_same]
          intro e he
          exact clientView_arrives text freshId now (hentry e he) e.2.2
            .notLoaded
        rw [hread, if_pos hall]
        show ((List.mapM (issuerFromProto text freshId now) _).mapError _).map
          _ = _
        rw [harrive]
        rfl
      · push Not at hversions
        rcases hversions with ⟨e, he, hlarge⟩
        have hall : entries.all (fun e => decide (e.2.2 < 2 ^ 32)) ≠ true := by
          intro heq
          have hsmall := of_decide_eq_true (List.all_eq_true.mp heq e he)
          omega
        rw [if_neg hall]
        cases hread : entries.mapM (fun e => shownIssuer text e.1 e.2) with
        | error fault => rfl
        | ok values =>
            exfalso
            rcases exists_mapM_iff.mp ⟨values, hread⟩ e he with ⟨v, hv⟩
            rcases (hydrateLazy_readable (hentry e he) e.2.2).right
              (Nat.not_lt.mpr hlarge) with ⟨fault, hfault⟩
            unfold shownIssuer at hv
            rw [hfault] at hv
            cases hv

theorem get_refines (h : Represents d c) (hreadable : c.issuers.Holds Readable)
    (id : IssuerId) :
    receiveFound text detail freshId now
        (getReply text d (text.value id.uuid)) =
      lookupReply (c.issuers id.uuid) := by
  have hanswers := program_answersRead text h (.get id)
  unfold IssuerRead.program at hanswers
  rw [Program.run_bind] at hanswers
  have hreceived := receiveFound_answers text detail freshId now hreadable
    hanswers
  rw [← hreceived]
  unfold getReply Engine.get
  rw [parseIssuerIdToDomain_value]
  rfl

theorem list_refines (h : Represents d c)
    (hreadable : c.issuers.Holds Readable) (after : Option IssuerId)
    (limit : Nat) :
    exists entries,
      c.issuers.IsPage (after.map IssuerId.uuid) (listLimit limit) entries ∧
        receiveListed text detail freshId now (Engine.list text d
          { after := after.map (fun id => text.value id.uuid)
            limit := limit }) = pageReply entries := by
  have hanswers := program_answersRead text h (.list after (listLimit limit))
  unfold IssuerRead.program at hanswers
  rw [Program.run_bind] at hanswers
  rcases receiveListed_answers text detail freshId now hreadable hanswers with
    ⟨entries, hpage, hreceived⟩
  refine ⟨entries, hpage, ?_⟩
  rw [← hreceived]
  unfold Engine.list
  rw [mapM_parse_after]
  rfl

theorem receiveWritten_reply (operation : String) (answer : ServiceAnswer) :
    receiveWritten detail operation
        ((answer.reply (writeOutcomeToProto .applied) writeOutcomeToProto).map
          (fun outcome => { outcome := some outcome })) =
      writeReply answer (.written .applied) := by
  cases answer with
  | duplicateCnpj => rfl
  | duplicateLei => rfl
  | told a =>
      cases a with
      | inserted => rfl
      | rejected => rfl
      | outcome o => cases o <;> rfl

theorem patch_refines (h : Represents d c) (m : Moment) (id : IssuerId)
    {request : PatchIssuerRequest} (hpatch : request.patch ≠ .empty) :
    Represents (callEngine text detail freshId now d (m, .patch id request)).1
        (WriteRequest.onCatalogue c
          { write := .patch id request.expectedVersion request.patch
            dryRun := request.dryRun }).1 ∧
      (callEngine text detail freshId now d (m, .patch id request)).2 =
        writeReply (WriteRequest.onCatalogue c
          { write := .patch id request.expectedVersion request.patch
            dryRun := request.dryRun }).2 (.written .applied) := by
  rcases run_patchProgram id request.expectedVersion request.patch d
    (writeOutcomeToProto .applied) with ⟨hworld, hreply⟩
  have hwrite := runWrite_refines h request.dryRun hworld hreply
  have hreplied : patchReply text d (patchRequestProto text id request) =
      ((runWrite request.dryRun d
          (patchProgram id request.expectedVersion request.patch)).1,
        (runWrite request.dryRun d
          (patchProgram id request.expectedVersion request.patch)).2.map
            (fun outcome => { outcome := some outcome })) := by
    unfold patchReply
    rw [patchRequestToDomain_proto text id hpatch]
    rfl
  show Represents (patchReply text d (patchRequestProto text id request)).1 _ ∧
    receiveWritten detail "patch"
      (patchReply text d (patchRequestProto text id request)).2 = _
  rw [hreplied]
  refine ⟨hwrite.left, ?_⟩
  simp only [hwrite.right]
  exact receiveWritten_reply detail "patch" _

theorem delete_refines (h : Represents d c) (m : Moment) (id : IssuerId)
    (request : DeleteIssuerRequest) :
    Represents (callEngine text detail freshId now d (m, .delete id request)).1
        (WriteRequest.onCatalogue c
          { write := .delete id request.expectedVersion
            dryRun := request.dryRun }).1 ∧
      (callEngine text detail freshId now d (m, .delete id request)).2 =
        writeReply (WriteRequest.onCatalogue c
          { write := .delete id request.expectedVersion
            dryRun := request.dryRun }).2 (.written .applied) := by
  rcases run_deleteProgram id request.expectedVersion d
    (writeOutcomeToProto .applied) with ⟨hworld, hreply⟩
  have hwrite := runWrite_refines h request.dryRun hworld hreply
  have hreplied : deleteReply text d
      { id := text.value id.uuid
        expectedVersion := request.expectedVersion
        dryRun := request.dryRun } =
      ((runWrite request.dryRun d
          (deleteProgram id request.expectedVersion)).1,
        (runWrite request.dryRun d
          (deleteProgram id request.expectedVersion)).2.map
            (fun outcome => { outcome := some outcome })) := by
    unfold deleteReply
    rw [parseIssuerIdToDomain_value]
  show Represents (deleteReply text d _).1 _ ∧
    receiveWritten detail "delete" (deleteReply text d _).2 = _
  rw [hreplied]
  refine ⟨hwrite.left, ?_⟩
  simp only [hwrite.right]
  exact receiveWritten_reply detail "delete" _

theorem emptyPatch_refines (m : Moment) (id : IssuerId)
    {request : PatchIssuerRequest} (hpatch : request.patch = .empty) :
    callEngine text detail freshId now d (m, .patch id request) =
      (d, .error (mapStatus emptyPatchStatus)) := by
  rcases request with ⟨expectedVersion, patch, dryRun⟩
  subst hpatch
  have hread : patchRequestToDomain text (patchRequestProto text id
      { expectedVersion := expectedVersion
        patch := .empty
        dryRun := dryRun }) = .error emptyPatchStatus := by
    rw [patchRequestToDomain_empty text rfl rfl rfl rfl rfl]
    simp only [patchRequestProto, parseIssuerIdToDomain_value]
  unfold callEngine patchReply
  simp only [hread]
  rfl

theorem buildIssuerFromProto_resolved (m : Moment) (issuer : Issuer)
    (dryRun : Bool) :
    buildIssuerFromProto m.freshId m.now
        (issuerToRegisterRequest issuer dryRun) =
      ((IssuerBuilder.resolveCountry issuer.cnpj issuer.countryCode).mapError
        .issuerBuilder).map (fun countryCode =>
          { issuer := registeredIssuer m issuer countryCode
            securities := .loaded [] }) := by
  have hstatus : Engine.parseField .issuerStatus IssuerStatus.fromStr
      (some issuer.status.asStr) = .ok (some issuer.status) :=
    requestField_map IssuerStatus.fromStr_asStr (some issuer.status)
  unfold buildIssuerFromProto issuerToRegisterRequest
  simp only [requestField_map IssuerName.new_asStr, hstatus,
    requestField_map Cnpj.parse_asStr, requestField_map Lei.parse_asStr,
    requestField_map CountryCode.parse_asStr]
  show (IssuerBuilder.buildHydrated m.freshId m.now
    { IssuerBuilder.new with
      createdAt := some (creationTime m.now)
      name := issuer.name
      status := some issuer.status
      cnpj := issuer.cnpj
      lei := issuer.lei
      countryCode := issuer.countryCode }).mapError
        MappingError.issuerBuilder = _
  unfold IssuerBuilder.buildHydrated IssuerBuilder.build
  cases IssuerBuilder.resolveCountry issuer.cnpj issuer.countryCode with
  | error e => rfl
  | ok countryCode => rfl

theorem foreignCnpj_refines (m : Moment) {issuer : Issuer} (dryRun : Bool)
    {e : IssuerBuilderError}
    (h : IssuerBuilder.resolveCountry issuer.cnpj issuer.countryCode =
      .error e) :
    callEngine text detail freshId now d (m, .register issuer dryRun) =
      (d, .error (invalidArgument e.message)) := by
  have hbuild := buildIssuerFromProto_resolved m issuer dryRun
  rw [h] at hbuild
  unfold callEngine registerReply register
  simp only [hbuild]
  rfl

theorem registeredIssuer_readable (m : Moment) {issuer : Issuer}
    {countryCode : Option CountryCode}
    (h : IssuerBuilder.resolveCountry issuer.cnpj issuer.countryCode =
      .ok countryCode) :
    Readable m.freshId.uuid (registeredIssuer m issuer countryCode) where
  key := rfl
  year := m.year
  whole := wholeMillis_of_millis m.year
  brazil := by
    intro hcnpj _
    cases hc : issuer.cnpj with
    | none => exact absurd hc hcnpj
    | some cnpj =>
        rw [hc] at h
        exact resolveCountry_brazil h

theorem register_answer (c : Catalogue) (issuer : Issuer) (dryRun : Bool)
    (o : WriteOutcome) :
    (WriteRequest.onCatalogue c
      { write := .register issuer, dryRun := dryRun }).2 ≠
        .told (.outcome o) := by
  intro hanswer
  have hchecked : (checkedCall c issuer.cnpj issuer.lei
      (.insertIssuer issuer)).2 = .told (.outcome o) := hanswer
  unfold checkedCall at hchecked
  split at hchecked
  · cases hchecked
  · split at hchecked
    · cases hchecked
    · have htold : ServiceAnswer.told (Catalogue.insertAnswer
          (c.issuers.insert issuer.id.uuid issuer
            (c.IssuerFits issuer.id.uuid issuer)).2) = .told (.outcome o) :=
        hchecked
      revert htold
      cases (c.issuers.insert issuer.id.uuid issuer
        (c.IssuerFits issuer.id.uuid issuer)).2 with
      | _ =>
          intro htold
          cases htold

theorem register_refines (h : Represents d c) (m : Moment) {issuer : Issuer}
    (dryRun : Bool) {countryCode : Option CountryCode}
    (hcountry : IssuerBuilder.resolveCountry issuer.cnpj issuer.countryCode =
      .ok countryCode) :
    Represents
        (callEngine text detail freshId now d (m, .register issuer dryRun)).1
        (WriteRequest.onCatalogue c
          { write := .register (registeredIssuer m issuer countryCode)
            dryRun := dryRun }).1 ∧
      (callEngine text detail freshId now d (m, .register issuer dryRun)).2 =
        writeReply (WriteRequest.onCatalogue c
          { write := .register (registeredIssuer m issuer countryCode)
            dryRun := dryRun }).2
          (.registered
            (clientView (registeredIssuer m issuer countryCode) 1)) := by
  have hbuild := buildIssuerFromProto_resolved m issuer dryRun
  rw [hcountry] at hbuild
  have hreadable := registeredIssuer_readable m hcountry
  have hproto := clientView_arrives text freshId now hreadable 1 (.loaded [])
  let registered : HydratedIssuer :=
    { issuer := registeredIssuer m issuer countryCode
      securities := .loaded [] }
  let wire := convertVersionedIssuerToProto text
    { data := registered, version := 1 }
  rcases run_registerProgram text registered d (fun _ => wire) with
    ⟨hworld, hreply⟩
  have hwrite := runWrite_refines h dryRun hworld hreply
  have hcall : callEngine text detail freshId now d
      (m, .register issuer dryRun) =
        ((runWrite dryRun d (registerProgram text registered)).1,
          receiveRegistered text detail freshId now
            ((runWrite dryRun d (registerProgram text registered)).2.map
              (fun issuer => { issuer := some issuer }))) := by
    unfold callEngine registerReply register
    simp only [hbuild]
    rfl
  rw [hcall]
  refine ⟨hwrite.left, ?_⟩
  simp only [hwrite.right]
  have hnever := register_answer c (registeredIssuer m issuer countryCode)
    dryRun
  cases hanswer : (WriteRequest.onCatalogue c
      { write := .register (registeredIssuer m issuer countryCode)
        dryRun := dryRun }).2 with
  | duplicateCnpj => rfl
  | duplicateLei => rfl
  | told a =>
      cases a with
      | rejected => rfl
      | outcome o => exact absurd hanswer (hnever o)
      | inserted =>
          show ((issuerFromProto text freshId now wire).mapError _).map _ = _
          rw [hproto]
          rfl

end Steps

/-!
## Whole sessions
-/

theorem checkedCall_readable {c : Catalogue} {call : RepositoryCall}
    (h : c.issuers.Holds Readable)
    (hcall : (c.perform call).1.issuers.Holds Readable) (cnpj : Option Cnpj)
    (lei : Option Lei) :
    (checkedCall c cnpj lei call).1.issuers.Holds Readable := by
  unfold checkedCall
  split
  · exact h
  · split
    · exact h
    · exact hcall

/-- What is stored can be shown, as long as what is registered can. -/
theorem onCatalogue_readable {c : Catalogue} (h : c.issuers.Holds Readable)
    (req : WriteRequest)
    (hnew : forall issuer, req.write = .register issuer ->
      Readable issuer.id.uuid issuer) :
    (req.onCatalogue c).1.issuers.Holds Readable := by
  rcases req with ⟨write, dryRun⟩
  unfold WriteRequest.onCatalogue
  cases dryRun with
  | true => exact h
  | false =>
      cases write with
      | register issuer =>
          apply checkedCall_readable h
          exact h.insert issuer.id.uuid issuer (fun _ => hnew issuer rfl)
      | patch id v p =>
          apply checkedCall_readable h
          apply VersionedStore.Holds.modify h
          intro issuer hissuer hfits
          exact ⟨hissuer.key, hissuer.year, hissuer.whole, hfits.brazil⟩
      | delete id v => exact h.remove id.uuid v (c.IssuerFree id.uuid)

/-- The tables hold a catalogue of which every issuer can be shown. -/
def Shows (d : Db) (c : Catalogue) : Prop :=
  Represents d c ∧ c.issuers.Holds Readable

theorem call_refines (text : UuidText) (detail : String) (freshId : IssuerId)
    (now : DateTime) {d : Db} {c : Catalogue} (h : Shows d c) (m : Moment)
    (call : IssuerCall) :
    exists c', OnCatalogue c m call
        (callEngine text detail freshId now d (m, call)).2 c' ∧
      Shows (callEngine text detail freshId now d (m, call)).1 c' := by
  rcases h with ⟨hrepresents, hreadable⟩
  cases call with
  | get id =>
      refine ⟨c, ?_, hrepresents, hreadable⟩
      show OnCatalogue c m _ (receiveFound text detail freshId now _) c
      rw [get_refines text detail freshId now hrepresents hreadable id]
      exact .get id
  | list after limit =>
      rcases list_refines text detail freshId now hrepresents hreadable after
        limit with ⟨entries, hpage, hreply⟩
      refine ⟨c, ?_, hrepresents, hreadable⟩
      show OnCatalogue c m _ (receiveListed text detail freshId now _) c
      rw [hreply]
      exact .list after limit entries hpage
  | patch id request =>
      by_cases hpatch : request.patch = .empty
      · rw [emptyPatch_refines text detail freshId now m id hpatch]
        exact ⟨c, .emptyPatch id request hpatch, hrepresents, hreadable⟩
      · have hcall := patch_refines text detail freshId now hrepresents m id
          hpatch
        rw [hcall.right]
        refine ⟨_, .patch id request hpatch, hcall.left, ?_⟩
        exact onCatalogue_readable hreadable _ (fun _ hwrite => by cases hwrite)
  | delete id request =>
      have hcall := delete_refines text detail freshId now hrepresents m id
        request
      rw [hcall.right]
      refine ⟨_, .delete id request, hcall.left, ?_⟩
      exact onCatalogue_readable hreadable _ (fun _ hwrite => by cases hwrite)
  | register issuer dryRun =>
      cases hcountry : IssuerBuilder.resolveCountry issuer.cnpj
          issuer.countryCode with
      | error e =>
          rw [foreignCnpj_refines text detail freshId now m dryRun hcountry]
          exact ⟨c, .foreignCnpj issuer dryRun e hcountry, hrepresents,
            hreadable⟩
      | ok countryCode =>
          have hcall := register_refines text detail freshId now hrepresents m
            dryRun hcountry
          rw [hcall.right]
          refine ⟨_, .register issuer dryRun countryCode hcountry, hcall.left,
            onCatalogue_readable hreadable _ ?_⟩
          intro issuer' hwrite
          cases hwrite
          exact registeredIssuer_readable m hcountry

/--
Call by call a client is told what the catalogue tells, and the tables hold the
catalogue in the end, whatever ids and times the engine adds.
-/
theorem session_refines (text : UuidText) (detail : String)
    (freshId : IssuerId) (now : DateTime) {d : Db} {c : Catalogue}
    (h : Shows d c) (calls : List (Moment × IssuerCall)) :
    exists c', Answered
        (fun c call reply c' => OnCatalogue c call.1 call.2 reply c') c calls
        (answersFrom (callEngine text detail freshId now) d calls).2 c' ∧
      Shows (answersFrom (callEngine text detail freshId now) d calls).1 c' :=
  answered_of_refines (R := Shows)
    (fun _ _ call hshows =>
      call_refines text detail freshId now hshows call.1 call.2)
    calls h

theorem shows_empty : Shows .empty .empty := by
  refine ⟨represents_empty, ?_⟩
  intro k issuer n hstored
  cases hstored

def newYearsMoment : Moment where
  freshId := { uuid := 1 }
  now := newYearsClock
  year := by decide +kernel

/-- A registration, a lookup, and a deletion of a version that never was. -/
def firstSession : List (Moment × IssuerCall) :=
  [(newYearsMoment, .register plainIssuer false),
    (newYearsMoment, .get { uuid := 1 }),
    (newYearsMoment, .delete { uuid := 1 }
      { expectedVersion := 7, dryRun := false })]

theorem session_refines_firstSession :
    (answersFrom (callEngine .hyphenated "" { uuid := 0 } newYearsClock) .empty
        firstSession).2 =
      [.ok (.registered (clientView
          (registeredIssuer newYearsMoment plainIssuer none) 1)),
        .ok (.found (some (clientView
          (registeredIssuer newYearsMoment plainIssuer none) 1))),
        .ok (.written (.versionMismatch 7 1))] ∧
    exists c', Answered
        (fun c call reply c' => OnCatalogue c call.1 call.2 reply c') .empty
        firstSession
        (answersFrom (callEngine .hyphenated "" { uuid := 0 } newYearsClock)
          .empty firstSession).2 c' ∧
      Shows (answersFrom (callEngine .hyphenated "" { uuid := 0 }
        newYearsClock) .empty firstSession).1 c' :=
  ⟨by decide +kernel,
    session_refines .hyphenated "" { uuid := 0 } newYearsClock shows_empty
      firstSession⟩

end EngineClient
end Valqeron
