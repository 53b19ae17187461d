import Valqeron.Engine.CatalogueWrites
import Valqeron.Engine.PagedLists
import Valqeron.Engine.PatchRequest

/-!
# Replies of the issuer service

The five handlers from message to message, once a request is admitted.  What a
handler replies is a matter of what the service says of its write, or of the rows
that the catalogue has.
-/

namespace Valqeron
namespace Engine

open Foundation
open Domain
open Identifiers
open Sqlite

/-- The arms of `write_outcome_proto::Outcome`. -/
inductive OutcomeProto where
  | applied
  | versionMismatch (expected actual : Nat)
  | missing
deriving DecidableEq, Repr

structure WriteOutcomeProto where
  outcome : Option OutcomeProto
deriving DecidableEq, Repr

structure DeleteIssuerRequestProto where
  id : String
  expectedVersion : Nat
  dryRun : Bool
deriving DecidableEq, Repr

/-- Also `GetIssuerResponseProto`, where the issuer may be absent. -/
structure IssuerResponseProto where
  issuer : Option IssuerProto
deriving DecidableEq, Repr

/-- Also `DeleteIssuerResponseProto`. -/
structure PatchIssuerResponseProto where
  outcome : Option WriteOutcomeProto
deriving DecidableEq, Repr

def writeOutcomeToProto : WriteOutcome -> WriteOutcomeProto
  | .applied => { outcome := some .applied }
  | .versionMismatch expected actual =>
      { outcome := some (.versionMismatch expected actual) }
  | .missing => { outcome := some .missing }

/-- `run_write` of an admitted request. -/
def runWrite {value : Type} (dryRun : Bool) (d : Db)
    (p : SqlProgram (Except IssuerServiceError value)) :
    Db × Except Status value :=
  let r := p.run Command.onDb d
  (if dryRun then d else r.1, r.2.mapError IssuerServiceError.toStatus)

def patchProgram (id : IssuerId) (expectedVersion : Nat) (p : IssuerPatch) :
    SqlProgram (Except IssuerServiceError WriteOutcomeProto) := do
  let res ← patchIssuer sqliteIssuerRepository id expectedVersion p
  pure ((res.mapError .patch).map writeOutcomeToProto)

def deleteProgram (id : IssuerId) (expectedVersion : Nat) :
    SqlProgram (Except IssuerServiceError WriteOutcomeProto) := do
  let res ← deleteIssuer sqliteIssuerRepository id expectedVersion
  pure ((res.mapError .delete).map writeOutcomeToProto)

section Handlers

variable (text : UuidText)

def registerReply (freshId : IssuerId) (now : DateTime) (d : Db)
    (req : RegisterIssuerRequestProto) : Db × Except Status IssuerResponseProto :=
  let r := register text freshId now d req
  (r.1, r.2.map (fun registered => { issuer := some registered }))

def getReply (d : Db) (id : String) : Except Status IssuerResponseProto :=
  (get text d id).map (fun issuer => { issuer := issuer })

def patchReply (d : Db) (req : PatchIssuerRequestProto) :
    Db × Except Status PatchIssuerResponseProto :=
  match patchRequestToDomain text req with
  | .error e => (d, .error e)
  | .ok (id, expectedVersion, p) =>
      let r := runWrite req.dryRun d (patchProgram id expectedVersion p)
      (r.1, r.2.map (fun outcome => { outcome := some outcome }))

def deleteReply (d : Db) (req : DeleteIssuerRequestProto) :
    Db × Except Status PatchIssuerResponseProto :=
  match parseIssuerIdToDomain text req.id with
  | .error e => (d, .error e)
  | .ok id =>
      let r := runWrite req.dryRun d (deleteProgram id req.expectedVersion)
      (r.1, r.2.map (fun outcome => { outcome := some outcome }))

end Handlers

/-!
## Replies to writes
-/

def alreadyExists (message : String) : Status :=
  { code := .alreadyExists, message := message }

namespace ServiceAnswer

/-- The status of a write that was not made, or what its answer is turned into. -/
def reply {value : Type} (onInserted : value)
    (onOutcome : WriteOutcome -> value) : ServiceAnswer -> Except Status value
  | duplicateCnpj =>
      .error (alreadyExists "an issuer with this CNPJ already exists")
  | duplicateLei =>
      .error (alreadyExists "an issuer with this LEI already exists")
  | told .inserted => .ok onInserted
  | told (.outcome o) => .ok (onOutcome o)
  | told .rejected => .error internalStorageError

end ServiceAnswer

theorem reply_patched {value : Type} (v : value)
    (f : WriteOutcome -> value)
    (r : Except (PatchIssuerError StorageFault) WriteOutcome) :
    ((r.mapError IssuerServiceError.patch).map f).mapError
        IssuerServiceError.toStatus =
      (ServiceAnswer.of .ofWrite r).reply v f := by
  cases r with
  | ok o => rfl
  | error e => cases e <;> rfl

theorem reply_deleted {value : Type} (v : value)
    (f : WriteOutcome -> value) (r : Except StorageFault WriteOutcome) :
    ((r.mapError IssuerServiceError.delete).map f).mapError
        IssuerServiceError.toStatus =
      (ServiceAnswer.told (.ofWrite r)).reply v f := by
  cases r <;> rfl

variable {d : Db} {c : Catalogue}

theorem runWrite_refines (h : Represents d c) {value : Type} (dryRun : Bool)
    {write : IssuerWrite} {p : SqlProgram (Except IssuerServiceError value)}
    {reply : ServiceAnswer -> Except Status value}
    (hworld : (p.run Command.onDb d).1 = (write.program.run Command.onDb d).1)
    (hreply : (p.run Command.onDb d).2.mapError IssuerServiceError.toStatus =
      reply (write.program.run Command.onDb d).2.answer) :
    Represents (runWrite dryRun d p).1
        (WriteRequest.onCatalogue c { write := write, dryRun := dryRun }).1 ∧
      (runWrite dryRun d p).2 =
        reply (WriteRequest.onCatalogue c
          { write := write, dryRun := dryRun }).2 := by
  have hserve := serve_refines h { write := write, dryRun := dryRun }
  have hanswer := (write_refines h write).right
  unfold runWrite
  simp only [hreply, hanswer, hworld]
  unfold WriteRequest.serve at hserve
  refine ⟨?_, rfl⟩
  cases dryRun with
  | true => exact hserve.left
  | false => exact hserve.left

theorem run_patchProgram (id : IssuerId) (v : Nat) (p : IssuerPatch) (d : Db)
    (o : WriteOutcomeProto) :
    ((patchProgram id v p).run Command.onDb d).1 =
        ((IssuerWrite.patch id v p).program.run Command.onDb d).1 ∧
      ((patchProgram id v p).run Command.onDb d).2.mapError
          IssuerServiceError.toStatus =
        ((IssuerWrite.patch id v p).program.run Command.onDb
          d).2.answer.reply o writeOutcomeToProto := by
  unfold patchProgram IssuerWrite.program
  rw [Program.run_bind, Program.run_bind]
  exact ⟨rfl, reply_patched o writeOutcomeToProto _⟩

theorem run_deleteProgram (id : IssuerId) (v : Nat) (d : Db)
    (o : WriteOutcomeProto) :
    ((deleteProgram id v).run Command.onDb d).1 =
        ((IssuerWrite.delete id v).program.run Command.onDb d).1 ∧
      ((deleteProgram id v).run Command.onDb d).2.mapError
          IssuerServiceError.toStatus =
        ((IssuerWrite.delete id v).program.run Command.onDb
          d).2.answer.reply o writeOutcomeToProto := by
  unfold deleteProgram IssuerWrite.program
  rw [Program.run_bind, Program.run_bind]
  exact ⟨rfl, reply_deleted o writeOutcomeToProto _⟩

theorem run_registerProgram (text : UuidText) (issuer : HydratedIssuer)
    (d : Db) (f : WriteOutcome -> IssuerProto) :
    ((registerProgram text issuer).run Command.onDb d).1 =
        ((IssuerWrite.register issuer.issuer).program.run Command.onDb d).1 ∧
      ((registerProgram text issuer).run Command.onDb d).2.mapError
          IssuerServiceError.toStatus =
        ((IssuerWrite.register issuer.issuer).program.run Command.onDb
          d).2.answer.reply (convertVersionedIssuerToProto text
            { data := issuer, version := 1 }) f := by
  unfold registerProgram IssuerWrite.program
  rw [Program.run_bind, Program.run_bind]
  cases hregister : (registerIssuer sqliteIssuerRepository issuer.issuer).run
      Command.onDb d with
  | mk d' r =>
      cases r with
      | ok u => exact ⟨rfl, rfl⟩
      | error e => cases e <;> exact ⟨rfl, rfl⟩

end Engine
end Valqeron
