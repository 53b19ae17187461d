import Valqeron.Domain.UniqueIdentifier
import Valqeron.Sqlite.IssuerRow
import Valqeron.Sqlite.UniqueKeys

/-!
# The issuer service

The requests of the issuer service as the engine serves them, once they are
admitted: a request is turned into values of the domain, its closure runs on the
database, and what the closure returns is turned into a message.
-/

namespace Valqeron
namespace Engine

open Foundation
open Domain
open Identifiers
open Sqlite

/-!
## Messages
-/

structure IssuerProto where
  id : String
  status : String
  createdAt : String
  version : Nat
  name : Option String
  cnpj : Option String
  lei : Option String
  countryCode : Option String
deriving DecidableEq, Repr

structure RegisterIssuerRequestProto where
  name : Option String
  status : Option String
  cnpj : Option String
  lei : Option String
  countryCode : Option String
  dryRun : Bool
deriving DecidableEq, Repr

structure ListIssuersRequestProto where
  after : Option String
  limit : Nat
deriving DecidableEq, Repr

structure ListIssuersResponseProto where
  issuers : List IssuerProto
deriving DecidableEq, Repr

inductive StatusCode where
  | invalidArgument
  | alreadyExists
  | internal
deriving DecidableEq, Repr

structure Status where
  code : StatusCode
  message : String
deriving DecidableEq, Repr

inductive MappingError where
  | issuerName (e : IssuerNameError)
  | issuerStatus (e : IssuerStatusError)
  | cnpj (e : CnpjError)
  | lei (e : LeiError)
  | countryCode (e : CountryCodeError)
  | issuerBuilder (e : IssuerBuilderError)
deriving DecidableEq, Repr

namespace MappingError

def message : MappingError -> String
  | issuerName e => e.message
  | issuerStatus e => e.message
  | cnpj e => e.message
  | lei e => e.message
  | countryCode e => e.message
  | issuerBuilder e => e.message

def toStatus (e : MappingError) : Status :=
  { code := .invalidArgument, message := e.message }

end MappingError

inductive IssuerServiceError where
  | register (e : RegisterIssuerError StorageFault)
  | get (e : StorageFault)
  | list (e : StorageFault)
  | patch (e : PatchIssuerError StorageFault)
  | delete (e : StorageFault)
  | storage (e : StorageFault)
deriving DecidableEq

def internalStorageError : Status :=
  { code := .internal, message := "an internal storage error occurred" }

/-- The text of a fault is logged and not sent. -/
def duplicateStatus (e : DuplicateIssuerError StorageFault) : Status :=
  match e with
  | .storage _ => internalStorageError
  | e => { code := .alreadyExists, message := e.message (fun _ => "") }

def IssuerServiceError.toStatus : IssuerServiceError -> Status
  | register e => duplicateStatus e
  | patch e => duplicateStatus e
  | get _ => internalStorageError
  | list _ => internalStorageError
  | delete _ => internalStorageError
  | storage _ => internalStorageError

/-!
## Conversions
-/

def parseField {error value : Type} (wrap : error -> MappingError)
    (parse : String -> Except error value) :
    Option String -> Except MappingError (Option value)
  | none => .ok none
  | some raw => ((parse raw).mapError wrap).map some

def creationTime (now : DateTime) : DateTime :=
  (fromTimestampMillis (timestampMillis now)).getD now

/-- `build_issuer_from_proto`; `freshId` and `now` are a new id and the clock. -/
def buildIssuerFromProto (freshId : IssuerId) (now : DateTime)
    (req : RegisterIssuerRequestProto) : Except MappingError HydratedIssuer := do
  let name ← parseField .issuerName IssuerName.new req.name
  let status ← parseField .issuerStatus IssuerStatus.fromStr req.status
  let cnpj ← parseField .cnpj Cnpj.parse req.cnpj
  let lei ← parseField .lei Lei.parse req.lei
  let countryCode ← parseField .countryCode CountryCode.parse req.countryCode
  let builder : IssuerBuilder :=
    { IssuerBuilder.new with
      createdAt := some (creationTime now)
      name := name
      status := status
      cnpj := cnpj
      lei := lei
      countryCode := countryCode }
  (builder.buildHydrated freshId now).mapError .issuerBuilder

section Service

variable (text : UuidText)

def convertVersionedIssuerToProto (versioned : Versioned HydratedIssuer) :
    IssuerProto :=
  let issuer := versioned.data.issuer
  { id := text.value issuer.id.uuid
    status := issuer.status.asStr
    createdAt := toRfc3339 issuer.createdAt
    version := versioned.version
    name := issuer.name.map IssuerName.asStr
    cnpj := issuer.cnpj.map Cnpj.asStr
    lei := issuer.lei.map Lei.asStr
    countryCode := issuer.countryCode.map CountryCode.asStr }

def parseIssuerIdToDomain (raw : String) : Except Status IssuerId :=
  match text.parseStr raw with
  | none =>
      .error
        { code := .invalidArgument, message := "Invalid issuer id: " ++ raw }
  | some uuid => .ok { uuid := uuid }

/-!
## Requests
-/

def registerProgram (issuer : HydratedIssuer) :
    SqlProgram (Except IssuerServiceError IssuerProto) := do
  let registered ← registerIssuer sqliteIssuerRepository issuer.issuer
  match registered with
  | .error e => pure (.error (.register e))
  | .ok () =>
      pure (.ok (convertVersionedIssuerToProto text
        { data := issuer, version := 1 }))

/-- What a dry run does to the database is rolled back. -/
def register (freshId : IssuerId) (now : DateTime) (d : Db)
    (req : RegisterIssuerRequestProto) : Db × Except Status IssuerProto :=
  match buildIssuerFromProto freshId now req with
  | .error e => (d, .error e.toStatus)
  | .ok issuer =>
      let r := (registerProgram text issuer).run Command.onDb d
      (if req.dryRun then d else r.1,
        r.2.mapError IssuerServiceError.toStatus)

def getProgram (id : IssuerId) :
    SqlProgram (Except IssuerServiceError (Option IssuerProto)) := do
  let found ← getIssuer sqliteIssuerRepository id .lazy
  match found with
  | .error e => pure (.error (.get e))
  | .ok none => pure (.ok none)
  | .ok (some stored) =>
      match stored.hydrateLazy with
      | .error e => pure (.error (.get e))
      | .ok versioned =>
          pure (.ok (some (convertVersionedIssuerToProto text versioned)))

def get (d : Db) (id : String) : Except Status (Option IssuerProto) := do
  let id ← parseIssuerIdToDomain text id
  (((getProgram text id).run Command.onDb d).2).mapError
    IssuerServiceError.toStatus

def defaultListLimit : Nat := 50

def maxListLimit : Nat := 1000

def listLimit (limit : Nat) : Nat :=
  if limit = 0 then defaultListLimit else min limit maxListLimit

def listProgram (after : Option IssuerId) (limit : Nat) :
    SqlProgram (Except IssuerServiceError (List IssuerProto)) := do
  let rows ← listIssuers sqliteIssuerRepository after limit .lazy
  match rows with
  | .error e => pure (.error (.list e))
  | .ok rows =>
      match rows.mapM StoredIssuer.hydrateLazy with
      | .error e => pure (.error (.list e))
      | .ok issuers =>
          pure (.ok (issuers.map (convertVersionedIssuerToProto text)))

def list (d : Db) (req : ListIssuersRequestProto) :
    Except Status ListIssuersResponseProto := do
  let after ← req.after.mapM (parseIssuerIdToDomain text)
  let issuers ←
    (((listProgram text after (listLimit req.limit)).run Command.onDb d).2).mapError
      IssuerServiceError.toStatus
  return { issuers := issuers }

/-!
## What a registration answers
-/

theorem createdAt_of_build {freshId : IssuerId} {now : DateTime}
    {req : RegisterIssuerRequestProto} {issuer : HydratedIssuer}
    (h : buildIssuerFromProto freshId now req = .ok issuer) :
    issuer.issuer.createdAt = creationTime now := by
  unfold buildIssuerFromProto at h
  rcases bind_eq_ok.mp h with ⟨name, _, h⟩
  rcases bind_eq_ok.mp h with ⟨status, _, h⟩
  rcases bind_eq_ok.mp h with ⟨cnpj, _, h⟩
  rcases bind_eq_ok.mp h with ⟨lei, _, h⟩
  rcases bind_eq_ok.mp h with ⟨countryCode, _, h⟩
  unfold IssuerBuilder.buildHydrated IssuerBuilder.build at h
  simp only [IssuerBuilder.new] at h
  split at h
  · cases h
  · cases h
    rfl

theorem exec_insertStatement {issuer : Issuer} {d d' : Db} {n : Nat}
    (h : (insertStatement issuer).exec d = .ok (d', n)) :
    d'.issuers.find? issuer.id.uuid = some (issuerRecordOf issuer 1) := by
  rw [(exec_insertStatement_ok h).right]
  exact SortedTable.find?_insert_self _ _ _

theorem stored_of_registerIssuer {issuer : Issuer} {d d' : Db}
    (h : (registerIssuer sqliteIssuerRepository issuer).run Command.onDb d =
      (d', .ok ())) :
    d'.issuers.find? issuer.id.uuid = some (issuerRecordOf issuer 1) := by
  have hinsert : sqliteIssuerRepository.insert issuer =
      SqliteIssuerRepository.insert issuer := rfl
  unfold registerIssuer at h
  rw [run_withDuplicateCheck, hinsert, run_insert] at h
  split at h
  · cases h
  · split at h
    · cases h
    · cases hexec : (insertStatement issuer).exec d with
      | error e =>
          rw [Statement.apply_error hexec] at h
          cases h
      | ok result =>
          rcases result with ⟨stored, n⟩
          rw [Statement.apply_ok hexec] at h
          cases h
          exact exec_insertStatement hexec

/-- A registration that is answered with a message has stored the issuer. -/
theorem stored_of_registered {issuer : HydratedIssuer} {d d' : Db}
    {proto : IssuerProto}
    (h : (registerProgram text issuer).run Command.onDb d =
      (d', .ok proto)) :
    d'.issuers.find? issuer.issuer.id.uuid =
        some (issuerRecordOf issuer.issuer 1) ∧
      proto = convertVersionedIssuerToProto text
        { data := issuer, version := 1 } := by
  unfold registerProgram at h
  rw [Program.run_bind] at h
  cases hrun : (registerIssuer sqliteIssuerRepository issuer.issuer).run
      Command.onDb d with
  | mk after answer =>
      rw [hrun] at h
      cases answer with
      | error e => cases h
      | ok u =>
          cases h
          exact ⟨stored_of_registerIssuer hrun, rfl⟩

theorem get_of_stored {d : Db} {issuer : Issuer}
    (hstored : d.issuers.find? issuer.id.uuid =
      some (issuerRecordOf issuer 1))
    (hyear : FourDigitYear issuer.createdAt)
    (hwhole : WholeMillis issuer.createdAt) :
    get text d (text.value issuer.id.uuid) =
      .ok (some (convertVersionedIssuerToProto text
        { data := { issuer := issuer, securities := .notLoaded }
          version := 1 })) := by
  have hrow : IssuerRow.fromRow (issuer.id.uuid, issuerRecordOf issuer 1) =
      .ok
        { data := { issuer := issuer, securities := .notLoaded }
          version := 1 } := by
    rw [fromRow_issuerRecordOf hyear hwhole.wellPlaced (by decide),
      hwhole.truncate]
  have hid : parseIssuerIdToDomain text (text.value issuer.id.uuid) =
      .ok issuer.id := by
    unfold parseIssuerIdToDomain
    rw [text.parseStr_value]
  have hfind : (getIssuer sqliteIssuerRepository issuer.id .lazy).run
      Command.onDb d =
        (d, .ok (some
          { id := issuer.id.uuid
            columns := issuerRecordOf issuer 1
            securities := .notLoaded })) := by
    rw [run_getIssuer_lazy, hstored]
    rfl
  unfold get
  rw [hid]
  show Except.mapError _ ((getProgram text issuer.id).run Command.onDb d).2 = _
  unfold getProgram
  rw [Program.run_bind, hfind]
  simp only [StoredIssuer.hydrateLazy, hrow]
  rfl

/--
A registration that is accepted answers what a lookup of its identifier answers
on the database that it leaves.
-/
theorem get_registered {d d' : Db} {freshId : IssuerId} {now : DateTime}
    {req : RegisterIssuerRequestProto} {proto : IssuerProto}
    (hyear : FourDigitYear (creationTime now)) (hdry : req.dryRun = false)
    (h : register text freshId now d req = (d', .ok proto)) :
    get text d' proto.id = .ok (some proto) := by
  unfold register at h
  cases hbuild : buildIssuerFromProto freshId now req with
  | error e =>
      rw [hbuild] at h
      cases h
  | ok issuer =>
      rw [hbuild] at h
      simp only [hdry, Bool.false_eq_true, if_false] at h
      have hcreated := createdAt_of_build hbuild
      have hrun : (registerProgram text issuer).run Command.onDb d =
          (d', .ok proto) := by
        rcases Prod.mk.inj h with ⟨hafter, hanswer⟩
        apply Prod.ext hafter
        cases hr : ((registerProgram text issuer).run Command.onDb d).2 with
        | error e =>
            rw [hr] at hanswer
            cases hanswer
        | ok answer =>
            rw [hr] at hanswer
            cases hanswer
            rfl
      rcases stored_of_registered text hrun with ⟨hstored, hproto⟩
      rw [hproto]
      apply get_of_stored text hstored
      · rw [hcreated]
        exact hyear
      · rw [hcreated]
        exact wholeMillis_of_millis hyear

end Service

def petrobrasRequest : RegisterIssuerRequestProto where
  name := some "  Petrobras "
  status := none
  cnpj := some "11.222.333/0001-81"
  lei := none
  countryCode := none
  dryRun := false

/-- 2026-01-01T00:00:00.123456789Z. -/
def newYearsClock : DateTime where
  seconds := 1767225600
  nanos := 123456789

theorem get_registered_petrobras :
    exists d' proto,
      register .hyphenated { uuid := 1 } newYearsClock Db.empty
        petrobrasRequest = (d', .ok proto) ∧
      proto.createdAt = "2026-01-01T00:00:00.123+00:00" ∧
      proto.countryCode = some "BR" ∧
      get .hyphenated d' proto.id = .ok (some proto) := by
  have hanswer : (register .hyphenated { uuid := 1 } newYearsClock Db.empty
      petrobrasRequest).2 =
        .ok
          { id := "00000000-0000-0000-0000-000000000001"
            status := "ACTIVE"
            createdAt := "2026-01-01T00:00:00.123+00:00"
            version := 1
            name := some "Petrobras"
            cnpj := some "11222333000181"
            lei := none
            countryCode := some "BR" } := by
    decide +kernel
  rcases hregister : register .hyphenated { uuid := 1 } newYearsClock Db.empty
    petrobrasRequest with ⟨d', answer⟩
  rw [hregister] at hanswer
  have hanswered : answer = _ := hanswer
  subst hanswered
  exact ⟨d', _, rfl, rfl, rfl,
    get_registered .hyphenated (by decide +kernel) rfl hregister⟩

end Engine
end Valqeron
