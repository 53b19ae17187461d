import Valqeron.Engine.IssuerService

/-!
# Issuers on the client

What the client of the engine makes of an issuer message.  It puts the fields
through the builder for new issuers.
-/

namespace Valqeron
namespace EngineClient

open Foundation
open Domain
open Identifiers
open Sqlite
open Engine

inductive IssuerMappingError where
  | invalidId
  | invalidTimestamp
  | name (e : IssuerNameError)
  | status (e : IssuerStatusError)
  | cnpj (e : CnpjError)
  | lei (e : LeiError)
  | countryCode (e : CountryCodeError)
  | builder (e : IssuerBuilderError)
  | missingField (field : String)
deriving DecidableEq, Repr

def parseField {error value : Type} (wrap : error -> IssuerMappingError)
    (parse : String -> Except error value) :
    Option String -> Except IssuerMappingError (Option value)
  | none => .ok none
  | some raw => ((parse raw).mapError wrap).map some

def parseTimestamp (raw : String) : Except IssuerMappingError DateTime :=
  match parseFromRfc3339 raw with
  | none => .error .invalidTimestamp
  | some dt => .ok dt

section Client

variable (text : UuidText)

def parseIssuerId (raw : String) : Except IssuerMappingError IssuerId :=
  match text.parseStr raw with
  | none => .error .invalidId
  | some uuid => .ok { uuid := uuid }

variable (freshId : IssuerId) (now : DateTime)

/-- `issuer_from_proto`; the builder never comes to need `freshId` and `now`. -/
def issuerFromProto (msg : IssuerProto) :
    Except IssuerMappingError (Versioned HydratedIssuer) := do
  let id ← parseIssuerId text msg.id
  let status ← (IssuerStatus.fromStr msg.status).mapError .status
  let createdAt ← parseTimestamp msg.createdAt
  let name ← parseField .name IssuerName.new msg.name
  let cnpj ← parseField .cnpj Cnpj.parse msg.cnpj
  let lei ← parseField .lei Lei.parse msg.lei
  let countryCode ← parseField .countryCode CountryCode.parse msg.countryCode
  let builder : IssuerBuilder :=
    { id := some id
      status := some status
      createdAt := some createdAt
      name := name
      cnpj := cnpj
      lei := lei
      countryCode := countryCode }
  let issuer ← (builder.buildHydrated freshId now).mapError .builder
  return { data := issuer, version := msg.version }

theorem parseField_map {error value : Type}
    {wrap : error -> IssuerMappingError}
    {parse : String -> Except error value} {text : value -> String}
    (h : forall v, parse (text v) = .ok v) (x : Option value) :
    parseField wrap parse (x.map text) = .ok x := by
  cases x with
  | none => rfl
  | some v =>
      simp only [Option.map_some, parseField, h v]
      rfl

/--
The fields of an issuer survive the way to the client, but for the country, which
the builder fills in behind a CNPJ; the securities do not.
-/
theorem issuerFromProto_convert {stored : Versioned HydratedIssuer}
    {countryCode : Option CountryCode}
    (hyear : FourDigitYear stored.data.issuer.createdAt)
    (hplaced : WellPlaced stored.data.issuer.createdAt)
    (hcountry : IssuerBuilder.resolveCountry stored.data.issuer.cnpj
      stored.data.issuer.countryCode = .ok countryCode) :
    issuerFromProto text freshId now
        (convertVersionedIssuerToProto text stored) =
      .ok
        { data :=
            { issuer :=
                { stored.data.issuer with countryCode := countryCode }
              securities := .loaded [] }
          version := stored.version } := by
  have hid : parseIssuerId text (text.value stored.data.issuer.id.uuid) =
      .ok stored.data.issuer.id := by
    unfold parseIssuerId
    rw [text.parseStr_value]
  have hstatus : (IssuerStatus.fromStr
      stored.data.issuer.status.asStr).mapError IssuerMappingError.status =
        .ok stored.data.issuer.status := by
    rw [IssuerStatus.fromStr_asStr]
    rfl
  have htime : parseTimestamp (toRfc3339 stored.data.issuer.createdAt) =
      .ok stored.data.issuer.createdAt := by
    unfold parseTimestamp
    rw [parse_toRfc3339 hyear hplaced]
  have hbuild : (IssuerBuilder.buildHydrated freshId now
      { id := some stored.data.issuer.id
        status := some stored.data.issuer.status
        createdAt := some stored.data.issuer.createdAt
        name := stored.data.issuer.name
        cnpj := stored.data.issuer.cnpj
        lei := stored.data.issuer.lei
        countryCode := stored.data.issuer.countryCode }).mapError
          IssuerMappingError.builder =
      .ok
        { issuer := { stored.data.issuer with countryCode := countryCode }
          securities := .loaded [] } := by
    unfold IssuerBuilder.buildHydrated IssuerBuilder.build
    simp only [hcountry]
    rfl
  unfold issuerFromProto convertVersionedIssuerToProto
  simp only [hid, hstatus, htime, parseField_map IssuerName.new_asStr,
    parseField_map Cnpj.parse_asStr, parseField_map Lei.parse_asStr,
    parseField_map CountryCode.parse_asStr]
  exact congrArg (Except.map (fun issuer : HydratedIssuer =>
    ({ data := issuer, version := stored.version } :
      Versioned HydratedIssuer))) hbuild

/-- Whatever the message says, the client takes the securities for loaded. -/
theorem securities_of_issuerFromProto {msg : IssuerProto}
    {received : Versioned HydratedIssuer}
    (h : issuerFromProto text freshId now msg = .ok received) :
    received.data.securities = .loaded [] := by
  unfold issuerFromProto at h
  rcases bind_eq_ok.mp h with ⟨id, _, h⟩
  rcases bind_eq_ok.mp h with ⟨status, _, h⟩
  rcases bind_eq_ok.mp h with ⟨createdAt, _, h⟩
  rcases bind_eq_ok.mp h with ⟨name, _, h⟩
  rcases bind_eq_ok.mp h with ⟨cnpj, _, h⟩
  rcases bind_eq_ok.mp h with ⟨lei, _, h⟩
  rcases bind_eq_ok.mp h with ⟨countryCode, _, h⟩
  rcases bind_eq_ok.mp h with ⟨issuer, hbuild, h⟩
  cases h
  cases hissuer : IssuerBuilder.buildHydrated freshId now
      { id := some id
        status := some status
        createdAt := some createdAt
        name := name
        cnpj := cnpj
        lei := lei
        countryCode := countryCode } with
  | error e =>
      rw [hissuer] at hbuild
      cases hbuild
  | ok built =>
      rw [hissuer] at hbuild
      cases hbuild
      exact IssuerBuilder.securities_of_buildHydrated hissuer

/--
A stored row that the server has read without its securities arrives at the client
as it is, and not as an issuer whose securities are known.
-/
def SurvivesTheWire (row : IssuerEntry) : Prop :=
  exists stored received,
    (reconstituteLazy row).hydrateLazy = .ok stored ∧
      issuerFromProto text freshId now
        (convertVersionedIssuerToProto text stored) = .ok received ∧
      received.data.issuer = stored.data.issuer ∧
      received.version = stored.version ∧
      received.data.securities = stored.data.securities

/-- No row survives: the client always takes the securities for loaded. -/
theorem not_survivesTheWire (row : IssuerEntry) :
    ¬ SurvivesTheWire text freshId now row := by
  intro h
  rcases h with ⟨stored, received, hstored, hreceived, _, _, hsecurities⟩
  rw [(keeps_of_hydrateLazy hstored).right,
    securities_of_issuerFromProto text freshId now hreceived] at hsecurities
  cases hsecurities

end Client

/-- An active issuer of 1970-01-01 without any of the optional fields. -/
def plainIssuer : Issuer where
  id := { uuid := 1 }
  status := .active
  createdAt := { seconds := 0, nanos := 0 }
  name := none
  cnpj := none
  lei := none
  countryCode := none

/-- Every field of the plain issuer arrives, and a claim about its securities. -/
theorem plainIssuer_claimsSecurities :
    exists stored received,
      (reconstituteLazy (1, issuerRecordOf plainIssuer 1)).hydrateLazy =
          .ok stored ∧
        issuerFromProto .hyphenated { uuid := 0 } { seconds := 0, nanos := 0 }
          (convertVersionedIssuerToProto .hyphenated stored) = .ok received ∧
        received.data.issuer = stored.data.issuer ∧
        received.version = stored.version ∧
        stored.data.securities = .notLoaded ∧
        received.data.securities = .loaded [] ∧
        ¬ SurvivesTheWire .hyphenated { uuid := 0 }
          { seconds := 0, nanos := 0 } (1, issuerRecordOf plainIssuer 1) := by
  have hstored : (reconstituteLazy
      (1, issuerRecordOf plainIssuer 1)).hydrateLazy =
        .ok
          { data := { issuer := plainIssuer, securities := .notLoaded }
            version := 1 } := by
    decide +kernel
  have hreceived : issuerFromProto .hyphenated { uuid := 0 }
      { seconds := 0, nanos := 0 }
      (convertVersionedIssuerToProto .hyphenated
        { data := { issuer := plainIssuer, securities := .notLoaded }
          version := 1 }) =
        .ok
          { data := { issuer := plainIssuer, securities := .loaded [] }
            version := 1 } := by
    decide +kernel
  refine ⟨_, _, hstored, hreceived, rfl, rfl, rfl, rfl, ?_⟩
  intro h
  rcases h with ⟨stored, received, hs, hr, _, _, hsecurities⟩
  rw [hstored] at hs
  cases hs
  rw [hreceived] at hr
  cases hr
  cases hsecurities

end EngineClient
end Valqeron
