import Valqeron.Engine.PatchRequest

/-!
# Write requests of the client

The requests to register and to patch an issuer as the client encodes them, and
that the engine decodes what was meant.
-/

namespace Valqeron
namespace EngineClient

open Foundation
open Domain
open Identifiers
open Sqlite
open Engine

structure PatchIssuerRequest where
  expectedVersion : Nat
  patch : IssuerPatch
  dryRun : Bool

def patchRequestProto (text : UuidText) (id : IssuerId)
    (request : PatchIssuerRequest) : PatchIssuerRequestProto where
  id := text.value id.uuid
  expectedVersion := request.expectedVersion
  name := request.patch.name.map IssuerName.asStr
  status := request.patch.status.map IssuerStatus.asStr
  cnpj := request.patch.cnpj.map Cnpj.asStr
  lei := request.patch.lei.map Lei.asStr
  countryCode := request.patch.countryCode.map CountryCode.asStr
  dryRun := request.dryRun

def issuerToRegisterRequest (issuer : Issuer) (dryRun : Bool) :
    RegisterIssuerRequestProto where
  name := issuer.name.map IssuerName.asStr
  status := some issuer.status.asStr
  cnpj := issuer.cnpj.map Cnpj.asStr
  lei := issuer.lei.map Lei.asStr
  countryCode := issuer.countryCode.map CountryCode.asStr
  dryRun := dryRun

/-!
## Patches
-/

theorem parseIssuerIdToDomain_value (text : UuidText) (id : IssuerId) :
    parseIssuerIdToDomain text (text.value id.uuid) = .ok id := by
  unfold parseIssuerIdToDomain
  rw [text.parseStr_value]

theorem patchOf_setFields {patch : IssuerPatch}
    {named statused cnpjed leied built : Option IssuerPatchBuilder}
    (hname : patchOf named =
      patch.name.elim IssuerPatch.empty
        (fun v => PatchSetter.name.set v .empty))
    (hstatus : patchOf statused =
      patch.status.elim (patchOf named)
        (fun v => PatchSetter.status.set v (patchOf named)))
    (hcnpj : patchOf cnpjed =
      patch.cnpj.elim (patchOf statused)
        (fun v => PatchSetter.cnpj.set v (patchOf statused)))
    (hlei : patchOf leied =
      patch.lei.elim (patchOf cnpjed)
        (fun v => PatchSetter.lei.set v (patchOf cnpjed)))
    (hcode : patchOf built =
      patch.countryCode.elim (patchOf leied)
        (fun v => PatchSetter.countryCode.set v (patchOf leied))) :
    patchOf built = patch := by
  rw [hcode, hlei, hcnpj, hstatus, hname]
  rcases patch with ⟨name, status, cnpj, lei, code⟩
  cases name <;> cases status <;> cases cnpj <;> cases lei <;> cases code <;> rfl

theorem patchRequestToDomain_proto (text : UuidText) (id : IssuerId)
    {request : PatchIssuerRequest} (hpatch : request.patch ≠ .empty) :
    patchRequestToDomain text (patchRequestProto text id request) =
      .ok (id, request.expectedVersion, request.patch) := by
  rcases readPatchField_map .issuerName IssuerName.new_asStr .name
    none request.patch.name with ⟨named, hname, hpname⟩
  rcases readPatchField_map .issuerStatus IssuerStatus.fromStr_asStr
    .status named request.patch.status with ⟨statused, hstatus, hpstatus⟩
  rcases readPatchField_map .cnpj Cnpj.parse_asStr .cnpj statused
    request.patch.cnpj with ⟨cnpjed, hcnpj, hpcnpj⟩
  rcases readPatchField_map .lei Lei.parse_asStr .lei cnpjed
    request.patch.lei with ⟨leied, hlei, hplei⟩
  rcases readPatchField_map .countryCode CountryCode.parse_asStr
    .countryCode leied request.patch.countryCode with ⟨built, hcode, hpcode⟩
  have hbuilt := patchOf_setFields hpname hpstatus hpcnpj hplei hpcode
  apply bind_eq_ok.mpr
  refine ⟨id, parseIssuerIdToDomain_value text id, ?_⟩
  apply bind_eq_ok.mpr
  refine ⟨named, hname, ?_⟩
  apply bind_eq_ok.mpr
  refine ⟨statused, hstatus, ?_⟩
  apply bind_eq_ok.mpr
  refine ⟨cnpjed, hcnpj, ?_⟩
  apply bind_eq_ok.mpr
  refine ⟨leied, hlei, ?_⟩
  apply bind_eq_ok.mpr
  refine ⟨built, hcode, ?_⟩
  cases built with
  | none => exact absurd hbuilt.symm hpatch
  | some builder =>
      have hinner : builder.inner = request.patch := hbuilt
      rw [← hinner]
      rfl

/-!
## Registrations
-/

theorem requestField_map {error value : Type} {wrap : error -> MappingError}
    {parse : String -> Except error value} {encode : value -> String}
    (h : forall v, parse (encode v) = .ok v) (field : Option value) :
    Engine.parseField wrap parse (field.map encode) = .ok field := by
  cases field with
  | none => rfl
  | some v =>
      simp only [Option.map_some, Engine.parseField, h v]
      rfl

theorem buildIssuerFromProto_request (freshId : IssuerId) (now : DateTime)
    {issuer : Issuer} (h : issuer.Accepted) (dryRun : Bool) :
    buildIssuerFromProto freshId now (issuerToRegisterRequest issuer dryRun) =
      .ok
        { issuer :=
            { issuer with id := freshId, createdAt := creationTime now }
          securities := .loaded [] } := by
  have hstatus : Engine.parseField .issuerStatus IssuerStatus.fromStr
      (some issuer.status.asStr) = .ok (some issuer.status) :=
    requestField_map IssuerStatus.fromStr_asStr (some issuer.status)
  have hbuild : (IssuerBuilder.buildHydrated freshId now
      { IssuerBuilder.new with
        createdAt := some (creationTime now)
        name := issuer.name
        status := some issuer.status
        cnpj := issuer.cnpj
        lei := issuer.lei
        countryCode := issuer.countryCode }).mapError
          MappingError.issuerBuilder =
      .ok
        { issuer :=
            { issuer with id := freshId, createdAt := creationTime now }
          securities := .loaded [] } := by
    unfold IssuerBuilder.buildHydrated IssuerBuilder.build
    simp only [h.resolved]
    rfl
  unfold buildIssuerFromProto issuerToRegisterRequest
  simp only [requestField_map IssuerName.new_asStr, hstatus,
    requestField_map Cnpj.parse_asStr, requestField_map Lei.parse_asStr,
    requestField_map CountryCode.parse_asStr]
  exact hbuild

/--
A patch request and its dry-run flag arrive as they are sent, one without a field
is rejected, and a registration that the builder accepts arrives with its fields.
-/
theorem writeRequests_roundTrip (text : UuidText) :
    (forall (id : IssuerId) (request : PatchIssuerRequest),
      request.patch ≠ .empty ->
        patchRequestToDomain text (patchRequestProto text id request) =
            .ok (id, request.expectedVersion, request.patch) ∧
          (patchRequestProto text id request).dryRun = request.dryRun) ∧
    (forall req : PatchIssuerRequestProto, req.name = none ->
      req.status = none -> req.cnpj = none -> req.lei = none ->
        req.countryCode = none ->
          exists status, patchRequestToDomain text req = .error status) ∧
    forall (freshId : IssuerId) (now : DateTime) (issuer : Issuer)
      (dryRun : Bool), issuer.Accepted ->
        exists built,
          buildIssuerFromProto freshId now
              (issuerToRegisterRequest issuer dryRun) = .ok built ∧
            built.issuer.name = issuer.name ∧
            built.issuer.status = issuer.status ∧
            built.issuer.cnpj = issuer.cnpj ∧
            built.issuer.lei = issuer.lei ∧
            built.issuer.countryCode = issuer.countryCode ∧
            (issuerToRegisterRequest issuer dryRun).dryRun = dryRun := by
  refine ⟨?_, ?_, ?_⟩
  · intro id request hpatch
    exact ⟨patchRequestToDomain_proto text id hpatch, rfl⟩
  · intro req hname hstatus hcnpj hlei hcode
    rw [patchRequestToDomain_empty text hname hstatus hcnpj hlei hcode]
    cases parseIssuerIdToDomain text req.id with
    | error e => exact ⟨e, rfl⟩
    | ok id => exact ⟨emptyPatchStatus, rfl⟩
  · intro freshId now issuer dryRun haccepted
    exact ⟨_, buildIssuerFromProto_request freshId now haccepted dryRun, rfl,
      rfl, rfl, rfl, rfl, rfl⟩

def brazil : Option CountryCode :=
  (CountryCode.fromStr brazilCountryCode).toOption

def retiringRequest : PatchIssuerRequest where
  expectedVersion := 3
  patch :=
    { IssuerPatch.empty with
      status := some .retired
      countryCode := brazil }
  dryRun := true

def retiredIssuer : Issuer where
  id := { uuid := 7 }
  status := .retired
  createdAt := { seconds := 0, nanos := 0 }
  name := none
  cnpj := none
  lei := none
  countryCode := brazil

theorem writeRequests_roundTrip_retired :
    patchRequestToDomain .hyphenated
        (patchRequestProto .hyphenated { uuid := 7 } retiringRequest) =
      .ok ({ uuid := 7 }, 3, retiringRequest.patch) ∧
    exists built, buildIssuerFromProto { uuid := 9 } { seconds := 5, nanos := 0 }
        (issuerToRegisterRequest retiredIssuer true) = .ok built ∧
      built.issuer.status = .retired ∧
      built.issuer.countryCode = retiredIssuer.countryCode := by
  rcases writeRequests_roundTrip .hyphenated with ⟨hpatch, _, hregister⟩
  have hnonempty : retiringRequest.patch ≠ .empty := by decide +kernel
  have haccepted : retiredIssuer.Accepted :=
    ⟨retiredIssuer.id, retiredIssuer.createdAt,
      { IssuerBuilder.new with
        status := some .retired
        countryCode := brazil },
      by decide +kernel⟩
  refine ⟨(hpatch { uuid := 7 } retiringRequest hnonempty).left, ?_⟩
  rcases hregister { uuid := 9 } { seconds := 5, nanos := 0 } retiredIssuer true
    haccepted with ⟨built, hbuilt, _, hstatus, _, _, hcountry, _⟩
  exact ⟨built, hbuilt, hstatus, hcountry⟩

end EngineClient
end Valqeron
