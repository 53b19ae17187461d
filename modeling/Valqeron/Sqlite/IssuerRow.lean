import Valqeron.Domain.Hydration
import Valqeron.Sqlite.Columns
import Valqeron.Sqlite.IssuerRepository

/-!
# Issuer rows read back
-/

namespace Valqeron
namespace Sqlite

open Foundation
open Domain
open Identifiers

def columnIssuerStatus (raw : String) : Except SqlError IssuerStatus :=
  conversionFailure IssuerStatusError.message (IssuerStatus.fromStr raw)

def IssuerRow.fromRow (row : IssuerEntry) :
    Except SqlError (Versioned IssuerSnapshot) := do
  let status ← columnIssuerStatus row.2.status
  let createdAt ← columnDatetime row.2.createdAt
  let name ← columnOpt IssuerNameError.message IssuerName.new row.2.name
  let cnpj ← columnOpt CnpjError.message Cnpj.parse row.2.cnpj
  let lei ← columnOpt LeiError.message Lei.new row.2.lei
  let countryCode ←
    columnOpt CountryCodeError.message CountryCode.fromStr row.2.countryCode
  let version ← columnU32 "version" row.2.version
  return {
    data :=
      { issuer :=
          { id := { uuid := row.1 }
            status := status
            createdAt := createdAt
            name := name
            cnpj := cnpj
            lei := lei
            countryCode := countryCode }
        securities := .notLoaded }
    version := version.toNat }

def reconstituteRow (row : Versioned IssuerSnapshot) :
    Versioned HydratedIssuer :=
  { data := HydratedIssuer.reconstitute row.data, version := row.version }

/-- What the read that returned the row without its securities makes of it. -/
def StoredIssuer.hydrateLazy (stored : StoredIssuer) :
    Except StorageFault (Versioned HydratedIssuer) :=
  ((IssuerRow.fromRow (stored.id, stored.columns)).map
    reconstituteRow).mapError backend

theorem keeps_of_fromRow {row : IssuerEntry} {v : Versioned IssuerSnapshot}
    (h : IssuerRow.fromRow row = .ok v) :
    v.data.issuer.id.uuid = row.1 ∧ v.data.securities = .notLoaded := by
  unfold IssuerRow.fromRow at h
  rcases bind_eq_ok.mp h with ⟨status, _, h⟩
  rcases bind_eq_ok.mp h with ⟨createdAt, _, h⟩
  rcases bind_eq_ok.mp h with ⟨name, _, h⟩
  rcases bind_eq_ok.mp h with ⟨cnpj, _, h⟩
  rcases bind_eq_ok.mp h with ⟨lei, _, h⟩
  rcases bind_eq_ok.mp h with ⟨countryCode, _, h⟩
  rcases bind_eq_ok.mp h with ⟨version, _, h⟩
  cases h
  exact ⟨rfl, rfl⟩

theorem keeps_of_hydrateLazy {stored : StoredIssuer}
    {v : Versioned HydratedIssuer} (h : stored.hydrateLazy = .ok v) :
    v.data.issuer.id.uuid = stored.id ∧ v.data.securities = .notLoaded := by
  unfold StoredIssuer.hydrateLazy at h
  cases hrow : IssuerRow.fromRow (stored.id, stored.columns) with
  | error e =>
      rw [hrow] at h
      cases h
  | ok snapshot =>
      rw [hrow] at h
      cases h
      exact keeps_of_fromRow hrow

def issuerRecordOf (issuer : Issuer) (version : Nat) : IssuerRecord where
  name := issuer.name.map IssuerName.asStr
  status := issuer.status.asStr
  createdAt := canonicalTimestamp issuer.createdAt
  version := version
  cnpj := issuer.cnpj.map Cnpj.asStr
  lei := issuer.lei.map Lei.asStr
  countryCode := issuer.countryCode.map CountryCode.asStr

theorem inserted_insertStatement (issuer : Issuer) :
    (insertStatement issuer).inserted = some (issuerRecordOf issuer 1) := rfl

theorem exec_insertStatement_ok {issuer : Issuer} {d d' : Db} {n : Nat}
    (h : (insertStatement issuer).exec d = .ok (d', n)) :
    d.issuers.find? issuer.id.uuid = none ∧
      d' = d.storeIssuer issuer.id.uuid (issuerRecordOf issuer 1) := by
  have heffect := (insertStatement issuer).exec_effect d
  rw [h] at heffect
  cases heffect with
  | missed v hversion _ => cases hversion
  | inserted r hrow hfree _ =>
      rw [inserted_insertStatement] at hrow
      cases hrow
      exact ⟨hfree, rfl⟩
  | updated v set r hversion _ _ _ => cases hversion
  | erased v r hversion _ => cases hversion

/-- Only the time and the version can keep the row of an issuer from being read. -/
theorem fromRow_issuerRecordOf_eq (issuer : Issuer) (version : Nat) :
    IssuerRow.fromRow (issuer.id.uuid, issuerRecordOf issuer version) = (do
      let createdAt ← columnDatetime (canonicalTimestamp issuer.createdAt)
      let version ← columnU32 "version" version
      return {
        data :=
          { issuer := { issuer with createdAt := createdAt }
            securities := .notLoaded }
        version := version.toNat }) := by
  have hstatus : columnIssuerStatus issuer.status.asStr =
      .ok issuer.status := by
    unfold columnIssuerStatus
    rw [IssuerStatus.fromStr_asStr]
    rfl
  have hlei : columnOpt LeiError.message Lei.new (issuer.lei.map Lei.asStr) =
      .ok issuer.lei := columnOpt_map Lei.parse_asStr issuer.lei
  have hcountry : columnOpt CountryCodeError.message CountryCode.fromStr
      (issuer.countryCode.map CountryCode.asStr) = .ok issuer.countryCode :=
    columnOpt_map CountryCode.parse_asStr issuer.countryCode
  unfold IssuerRow.fromRow issuerRecordOf
  simp only [hstatus, columnOpt_map IssuerName.new_asStr,
    columnOpt_map Cnpj.parse_asStr, hlei, hcountry]
  cases columnDatetime (canonicalTimestamp issuer.createdAt) with
  | error e => rfl
  | ok createdAt =>
      cases columnU32 "version" version with
      | error e => rfl
      | ok n => rfl

theorem fromRow_of_parse {issuer : Issuer} {version : Nat}
    {createdAt : DateTime}
    (hparse : parseFromRfc3339 (canonicalTimestamp issuer.createdAt) =
      some createdAt) (hversion : version < 2 ^ 32) :
    IssuerRow.fromRow (issuer.id.uuid, issuerRecordOf issuer version) =
      .ok
        { data :=
            { issuer := { issuer with createdAt := createdAt }
              securities := .notLoaded }
          version := version } := by
  rw [fromRow_issuerRecordOf_eq, columnDatetime_eq_ok.mpr hparse,
    columnU32_ofNat "version" hversion]
  show Except.ok _ = Except.ok _
  rw [UInt32.toNat_ofNat', Nat.mod_eq_of_lt hversion]

/--
The row of an issuer is read back, but for the digits of its time behind the
milliseconds, when its year and its version allow it.
-/
theorem fromRow_issuerRecordOf {issuer : Issuer} {version : Nat}
    (hyear : FourDigitYear issuer.createdAt)
    (hplaced : WellPlaced issuer.createdAt) (hversion : version < 2 ^ 32) :
    IssuerRow.fromRow (issuer.id.uuid, issuerRecordOf issuer version) =
      .ok
        { data :=
            { issuer :=
                { issuer with
                  createdAt := truncateToMillis issuer.createdAt }
              securities := .notLoaded }
          version := version } :=
  fromRow_of_parse ((parse_canonicalTimestamp_iff _).mpr ⟨hyear, hplaced⟩)
    hversion

theorem parse_of_fromRow {row : IssuerEntry} {v : Versioned IssuerSnapshot}
    (h : IssuerRow.fromRow row = .ok v) :
    parseFromRfc3339 row.2.createdAt = some v.data.issuer.createdAt ∧
      row.2.version < 2 ^ 32 := by
  unfold IssuerRow.fromRow at h
  rcases bind_eq_ok.mp h with ⟨status, _, h⟩
  rcases bind_eq_ok.mp h with ⟨createdAt, hcreatedAt, h⟩
  rcases bind_eq_ok.mp h with ⟨name, _, h⟩
  rcases bind_eq_ok.mp h with ⟨cnpj, _, h⟩
  rcases bind_eq_ok.mp h with ⟨lei, _, h⟩
  rcases bind_eq_ok.mp h with ⟨countryCode, _, h⟩
  rcases bind_eq_ok.mp h with ⟨version, hversion, h⟩
  cases h
  refine ⟨columnDatetime_eq_ok.mp hcreatedAt, ?_⟩
  rw [Int.ofNat_inj.mp (columnU32_eq_ok hversion)]
  exact version.toNat_lt

theorem run_getIssuer_lazy (id : IssuerId) (d : Db) :
    (getIssuer sqliteIssuerRepository id .lazy).run Command.onDb d =
      (d, .ok ((d.issuers.find? id.uuid).map (fun r =>
        reconstituteLazy (id.uuid, r)))) := by
  have hquery : (query .reader (.issuerById id.uuid)).run Command.onDb d =
      (d, .ok ((d.issuers.find? id.uuid).map (fun r => (id.uuid, r)))) := rfl
  show (withGuard .reader _).run Command.onDb d = _
  rw [run_withGuard, Program.run_bind, hquery]
  cases d.issuers.find? id.uuid with
  | none => rfl
  | some r => rfl

end Sqlite
end Valqeron
