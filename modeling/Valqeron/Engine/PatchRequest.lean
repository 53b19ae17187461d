import Valqeron.Engine.IssuerService

/-!
# Patch requests

The request to patch an issuer as the engine reads it.  Only a builder that has
been given a field can be built, so a patch without fields cannot come about.
-/

namespace Valqeron
namespace Engine

open Foundation
open Domain
open Identifiers
open Sqlite

structure PatchIssuerRequestProto where
  id : String
  expectedVersion : Nat
  name : Option String
  status : Option String
  cnpj : Option String
  lei : Option String
  countryCode : Option String
  dryRun : Bool
deriving DecidableEq, Repr

structure IssuerPatchBuilder where
  inner : IssuerPatch
  nonEmpty : inner ≠ .empty

structure PatchSetter (value : Type) where
  set : value -> IssuerPatch -> IssuerPatch
  nonEmpty : forall v patch, set v patch ≠ .empty

namespace PatchSetter

def name : PatchSetter IssuerName where
  set v patch := { patch with name := some v }
  nonEmpty _ _ h := nomatch congrArg IssuerPatch.name h

def status : PatchSetter IssuerStatus where
  set v patch := { patch with status := some v }
  nonEmpty _ _ h := nomatch congrArg IssuerPatch.status h

def cnpj : PatchSetter Cnpj where
  set v patch := { patch with cnpj := some v }
  nonEmpty _ _ h := nomatch congrArg IssuerPatch.cnpj h

def lei : PatchSetter Lei where
  set v patch := { patch with lei := some v }
  nonEmpty _ _ h := nomatch congrArg IssuerPatch.lei h

def countryCode : PatchSetter CountryCode where
  set v patch := { patch with countryCode := some v }
  nonEmpty _ _ h := nomatch congrArg IssuerPatch.countryCode h

end PatchSetter

/-- The patch that a builder stands for; without a builder it is empty. -/
def patchOf : Option IssuerPatchBuilder -> IssuerPatch
  | none => .empty
  | some builder => builder.inner

/-- `set_patch_field!` starts a builder where there is none. -/
def setPatchField {value : Type} (setter : PatchSetter value)
    (builder : Option IssuerPatchBuilder) (v : value) :
    Option IssuerPatchBuilder :=
  some
    { inner := setter.set v (patchOf builder)
      nonEmpty := setter.nonEmpty v (patchOf builder) }

def readPatchField {error value : Type} (wrap : error -> MappingError)
    (parse : String -> Except error value) (setter : PatchSetter value)
    (builder : Option IssuerPatchBuilder) :
    Option String -> Except Status (Option IssuerPatchBuilder)
  | none => .ok builder
  | some raw =>
      match parse raw with
      | .error e => .error (wrap e).toStatus
      | .ok v => .ok (setPatchField setter builder v)

def emptyPatchStatus : Status :=
  { code := .invalidArgument
    message := "issuer patch must contain at least one field" }

def patchRequestToDomain (text : UuidText) (req : PatchIssuerRequestProto) :
    Except Status (IssuerId × Nat × IssuerPatch) := do
  let id ← parseIssuerIdToDomain text req.id
  let builder ←
    readPatchField .issuerName IssuerName.new .name none req.name
  let builder ←
    readPatchField .issuerStatus IssuerStatus.fromStr .status builder req.status
  let builder ← readPatchField .cnpj Cnpj.parse .cnpj builder req.cnpj
  let builder ← readPatchField .lei Lei.parse .lei builder req.lei
  let builder ←
    readPatchField .countryCode CountryCode.parse .countryCode builder
      req.countryCode
  match builder with
  | none => .error emptyPatchStatus
  | some builder => .ok (id, req.expectedVersion, builder.inner)

theorem readPatchField_map {error value : Type} (wrap : error -> MappingError)
    {parse : String -> Except error value} {encode : value -> String}
    (h : forall v, parse (encode v) = .ok v) (setter : PatchSetter value)
    (builder : Option IssuerPatchBuilder) (field : Option value) :
    exists next,
      readPatchField wrap parse setter builder (field.map encode) = .ok next ∧
        patchOf next =
          field.elim (patchOf builder)
            (fun v => setter.set v (patchOf builder)) := by
  cases field with
  | none => exact ⟨builder, rfl, rfl⟩
  | some v =>
      refine ⟨setPatchField setter builder v, ?_, rfl⟩
      show (match parse (encode v) with
        | .error e => Except.error (wrap e).toStatus
        | .ok v => .ok (setPatchField setter builder v)) = _
      rw [h v]

/-- A request without a field is rejected, with a valid id and without. -/
theorem patchRequestToDomain_empty (text : UuidText)
    {req : PatchIssuerRequestProto} (hname : req.name = none)
    (hstatus : req.status = none) (hcnpj : req.cnpj = none)
    (hlei : req.lei = none) (hcode : req.countryCode = none) :
    patchRequestToDomain text req =
      match parseIssuerIdToDomain text req.id with
      | .error e => .error e
      | .ok _ => .error emptyPatchStatus := by
  unfold patchRequestToDomain
  rw [hname, hstatus, hcnpj, hlei, hcode]
  cases parseIssuerIdToDomain text req.id with
  | error e => rfl
  | ok id => rfl

end Engine
end Valqeron
