import Valqeron.Sqlite.GuardedWrites
import Valqeron.Sqlite.RowRoundTrip

/-!
# Patching against reading, overlaying and updating

A patch sets its columns in one statement.  The alternative is to read the row, to
lay the fields of the patch over what has been read, and to update the row with the
result.
-/

namespace Valqeron
namespace Sqlite

open Foundation
open Domain

def IssuerPatch.applyTo (patch : IssuerPatch) (issuer : Issuer) : Issuer :=
  { issuer with
    name := patch.name.or issuer.name
    status := patch.status.getD issuer.status
    cnpj := patch.cnpj.or issuer.cnpj
    lei := patch.lei.or issuer.lei
    countryCode := patch.countryCode.or issuer.countryCode }

def overlayIssuer (id : IssuerId) (expectedVersion : Nat)
    (patch : IssuerPatch) : SqlProgram (Except StorageFault WriteOutcome) := do
  let stored ← HydratedReads.findById id .lazy
  match stored with
  | .error e => pure (.error e)
  | .ok none => pure (.ok .missing)
  | .ok (some stored) =>
      SqliteIssuerRepository.update
        (IssuerPatch.applyTo patch stored.data.issuer) expectedVersion

def overlaySecurity (id : SecurityId) (expectedVersion : Nat)
    (patch : SecurityPatch) :
    SecurityProgram (Except StorageFault WriteOutcome) := do
  let stored ← SqliteSecurityRepository.findById id
  match stored with
  | .error e => pure (.error e)
  | .ok none => pure (.ok .missing)
  | .ok (some stored) =>
      SqliteSecurityRepository.update
        (SecurityPatch.applyTo patch stored.data) expectedVersion

/-- The columns that a patch of an issuer leaves as they are. -/
structure IssuerPatch.Keeps (patch : IssuerPatch) (r r' : IssuerRecord) :
    Prop where
  createdAt : r'.createdAt = r.createdAt
  name : patch.name = none -> r'.name = r.name
  status : patch.status = none -> r'.status = r.status
  cnpj : patch.cnpj = none -> r'.cnpj = r.cnpj
  lei : patch.lei = none -> r'.lei = r.lei
  countryCode : patch.countryCode = none -> r'.countryCode = r.countryCode

structure SecurityPatch.Keeps (patch : SecurityPatch)
    (r r' : SecurityRecord) : Prop where
  createdAt : r'.createdAt = r.createdAt
  issuerId : r'.issuerId = r.issuerId
  kind : r'.kind = r.kind
  underlyingSecurityId : r'.underlyingSecurityId = r.underlyingSecurityId
  name : patch.name = none -> r'.name = r.name
  status : patch.status = none -> r'.status = r.status
  isin : patch.isin = none -> r'.isin = r.isin
  cfi : patch.cfi = none -> r'.cfi = r.cfi
  drRatio : patch.drRatio = none -> r'.drRatioReceipts = r.drRatioReceipts ∧
    r'.drRatioUnderlying = r.drRatioUnderlying

/-- At most the row of the key changes, and that only where it may. -/
def KeepsRow {row : Type} (keeps : row -> row -> Prop) (id : Uuid)
    (t t' : SortedTable Uuid row) : Prop :=
  (forall k, k ≠ id -> t'.find? k = t.find? k) ∧
    Option.Rel keeps (t.find? id) (t'.find? id)

inductive PatchCall where
  | issuer (id : IssuerId) (patch : IssuerPatch)
  | security (id : SecurityId) (patch : SecurityPatch)

namespace PatchCall

/-- What `apply_patch` makes of the database, and what it reports. -/
def run (d : Db) (expectedVersion : UInt32) :
    PatchCall -> Db × Except StorageFault WriteOutcome
  | .issuer id patch =>
      (SqliteIssuerRepository.applyPatch id expectedVersion.toNat patch).run
        Command.onDb d
  | .security id patch =>
      (SqliteSecurityRepository.applyPatch id expectedVersion.toNat patch).run
        SecurityCommand.onDb d

def overlay (d : Db) (expectedVersion : UInt32) :
    PatchCall -> Db × Except StorageFault WriteOutcome
  | .issuer id patch =>
      (overlayIssuer id expectedVersion.toNat patch).run Command.onDb d
  | .security id patch =>
      (overlaySecurity id expectedVersion.toNat patch).run
        SecurityCommand.onDb d

def Untouched (d d' : Db) : PatchCall -> Prop
  | .issuer id patch =>
      d'.securities = d.securities ∧
        KeepsRow (IssuerPatch.Keeps patch) id.uuid d.issuers d'.issuers
  | .security id patch =>
      d'.issuers = d.issuers ∧
        KeepsRow (SecurityPatch.Keeps patch) id.uuid d.securities
          d'.securities

structure EqualsOverlay (d : Db) (expectedVersion : UInt32)
    (call : PatchCall) : Prop where
  same : call.run d expectedVersion = call.overlay d expectedVersion
  untouched : call.Untouched d (call.run d expectedVersion).1

def storedTime (d : Db) : PatchCall -> Option String
  | .issuer id _ => (d.issuers.find? id.uuid).map IssuerRecord.createdAt
  | .security id _ =>
      (d.securities.find? id.uuid).map SecurityRecord.createdAt

/-- The row, if there is one, has been created in a year of four digits. -/
def FourDigitRow (d : Db) (call : PatchCall) : Prop :=
  forall text, call.storedTime d = some text ->
    exists dt, FourDigitYear dt ∧ text = canonicalTimestamp dt

end PatchCall

/-!
## What is stored
-/

def IssuersWritten (d : Db) : Prop :=
  forall id r, d.issuers.find? id = some r ->
    exists issuer : Issuer, issuer.id.uuid = id ∧
      r = issuerRecordOf issuer r.version

theorem issuerRecordOf_patch (id : IssuerId) (expectedVersion : Nat)
    (patch : IssuerPatch) {set : IssuerRecord -> IssuerRecord}
    (hset : (patchStatement id expectedVersion patch).assigned = some set)
    (issuer : Issuer) (version : Nat) :
    { set (issuerRecordOf issuer version) with version := version + 1 } =
      issuerRecordOf (IssuerPatch.applyTo patch issuer) (version + 1) := by
  have hstatus : (patch.status.map IssuerStatus.asStr).getD
      issuer.status.asStr = (patch.status.getD issuer.status).asStr := by
    cases patch.status <;> rfl
  cases hset
  unfold Db.coalesce issuerRecordOf IssuerPatch.applyTo
  simp only [map_or_map, hstatus]

theorem issuerRecordOf_update (issuer' : Issuer) (expectedVersion : Nat)
    {set : IssuerRecord -> IssuerRecord}
    (hset : (updateStatement issuer' expectedVersion).assigned = some set)
    (issuer : Issuer) (version : Nat) :
    { set (issuerRecordOf issuer version) with version := version + 1 } =
      issuerRecordOf { issuer' with createdAt := issuer.createdAt }
        (version + 1) := by
  cases hset
  rfl

theorem SecurityStatement.apply_issuers (s : SecurityStatement) (d : Db) :
    (s.apply d).1.issuers = d.issuers := by
  have heffect := s.exec_effect d
  unfold SecurityStatement.apply
  cases hexec : s.exec d with
  | error e => rfl
  | ok result =>
      rw [hexec] at heffect
      cases heffect with
      | missed v hversion hnone => rfl
      | inserted r hrow hfree hok hreferences => rfl
      | updated v set r hversion hset hrow hok => rfl
      | erased v r hversion hrow hfree => rfl

def IsIssuerRecord (r : IssuerRecord) : Prop :=
  exists issuer : Issuer, r = issuerRecordOf issuer r.version

theorem issuersWritten_iff {d : Db} :
    IssuersWritten d <->
      forall id r, d.issuers.find? id = some r -> IsIssuerRecord r := by
  constructor
  · intro h id r hrow
    rcases h id r hrow with ⟨issuer, _, hr⟩
    exact ⟨issuer, hr⟩
  · intro h id r hrow
    rcases h id r hrow with ⟨issuer, hr⟩
    exact ⟨{ issuer with id := { uuid := id } }, rfl, hr⟩

theorem RepositoryCall.run_issuersWritten (call : RepositoryCall) {d : Db}
    (h : IssuersWritten d) : IssuersWritten (call.run d) := by
  rcases call.run_statement d with ⟨_, s, hs, hrun⟩ | ⟨s, _, hrun⟩
  · rw [issuersWritten_iff] at h ⊢
    rw [hrun]
    intro id r hrow
    have hpatch : forall {set : IssuerRecord -> IssuerRecord} {r r'},
        (forall issuer version, exists issuer',
          { set (issuerRecordOf issuer version) with version := version + 1 } =
            issuerRecordOf issuer' (version + 1)) ->
        d.issuers.find? s.target = some r ->
        r' = { set r with version := r.version + 1 } ->
          IsIssuerRecord r' := by
      intro set r r' hset hbefore hr'
      rcases h _ r hbefore with ⟨issuer, hr⟩
      rcases hset issuer r.version with ⟨issuer', hissuer'⟩
      rw [← hr] at hissuer'
      exact ⟨issuer', hr'.trans (hissuer'.trans (by rw [hr']))⟩
    apply Statement.apply_rows h _ _ id r hrow
    · intro r' hr' _
      cases call with
      | insertIssuer issuer =>
          cases hs
          rw [inserted_insertStatement] at hr'
          cases hr'
          exact ⟨issuer, rfl⟩
      | patchIssuer id v patch => cases hs; cases hr'
      | updateIssuer issuer v => cases hs; cases hr'
      | deleteIssuer id v => cases hs; cases hr'
      | insertSecurity security => cases hs
      | patchSecurity id v patch => cases hs
      | updateSecurity security v => cases hs
      | deleteSecurity id v => cases hs
    · intro set r₀ r' hset hbefore hr' _ _
      apply hpatch _ hbefore hr'
      intro issuer version
      cases call with
      | patchIssuer id v patch =>
          cases hs
          exact ⟨_, issuerRecordOf_patch id v patch hset issuer version⟩
      | updateIssuer issuer' v =>
          cases hs
          exact ⟨_, issuerRecordOf_update issuer' v hset issuer version⟩
      | insertIssuer issuer => cases hs; cases hset
      | deleteIssuer id v => cases hs; cases hset
      | insertSecurity security => cases hs
      | patchSecurity id v patch => cases hs
      | updateSecurity security v => cases hs
      | deleteSecurity id v => cases hs
  · unfold IssuersWritten
    rw [hrun, s.apply_issuers]
    exact h

theorem runCalls_issuersWritten (calls : List RepositoryCall) :
    IssuersWritten (runCalls Db.empty calls) :=
  runCalls_invariant (P := IssuersWritten)
    (fun call _ h => call.run_issuersWritten h) calls
    (fun _ _ h => nomatch h)

theorem runCalls_securitiesWritten (calls : List RepositoryCall) :
    SecuritiesWritten (runCalls Db.empty calls) :=
  runCalls_invariant (P := SecuritiesWritten)
    (fun call _ h => call.run_written h) calls securitiesWritten_empty

/-!
## What keeps a row from being read
-/

def invalidTime : SqlError := .other "invalid RFC 3339 timestamp"

theorem timeAndVersion_error {value : Type} {text : String} {version : Nat}
    {make : DateTime -> UInt32 -> value} {e : SqlError}
    (h : (do
      let createdAt ← columnDatetime text
      let version ← columnU32 "version" version
      return make createdAt version) = Except.error e) :
    parseFromRfc3339 text = none ∧ e = invalidTime ∨
      2 ^ 32 <= version ∧ e = .integralValueOutOfRange "version" := by
  rcases bind_eq_error.mp h with htime | ⟨createdAt, _, h⟩
  · exact Or.inl (columnDatetime_eq_error htime)
  · rcases bind_eq_error.mp h with hversion | ⟨n, _, h⟩
    · exact Or.inr (columnU32_eq_error hversion)
    · cases h

/-- The time is to blame exactly where its year does not have four digits. -/
theorem timeAndVersion_ne_invalidTime {value : Type} {dt : DateTime}
    {version : Nat} {make : DateTime -> UInt32 -> value} :
    (do
      let createdAt ← columnDatetime (canonicalTimestamp dt)
      let version ← columnU32 "version" version
      return make createdAt version) ≠ Except.error invalidTime <->
      exists dt', FourDigitYear dt' ∧
        canonicalTimestamp dt = canonicalTimestamp dt' := by
  constructor
  · intro h
    refine ⟨dt, ?_, rfl⟩
    rw [← parse_canonicalTimestamp_isSome]
    cases hparse : parseFromRfc3339 (canonicalTimestamp dt) with
    | some dt' => rfl
    | none =>
        exfalso
        apply h
        apply bind_eq_error.mpr
        left
        unfold columnDatetime
        rw [hparse]
        rfl
  · intro hgiven h
    rcases hgiven with ⟨dt', hyear, hsame⟩
    rcases timeAndVersion_error h with ⟨hparse, _⟩ | ⟨_, herror⟩
    · rw [hsame] at hparse
      rw [← parse_canonicalTimestamp_isSome, hparse] at hyear
      cases hyear
    · cases herror

/-- What reading the row, overlaying and updating comes to. -/
def overlaid {row value : Type} (d : Db) (found : Option row)
    (read : row -> Except SqlError value)
    (update : value -> Db × Except StorageFault WriteOutcome) :
    Db × Except StorageFault WriteOutcome :=
  match found with
  | none => (d, .ok .missing)
  | some r =>
      match read r with
      | .error e => (d, .error (backend e))
      | .ok v => update v

/--
A patch that is an update with the overlaid value wherever the row is read, and
that fails as the reading does unless the time is to blame, differs from the
overlay exactly where the time is to blame.
-/
theorem patched_eq_overlaid_iff {row value : Type} {d : Db}
    {found : Option row} {read : row -> Except SqlError value}
    {update : value -> Db × Except StorageFault WriteOutcome}
    {patched : Db × Except StorageFault WriteOutcome}
    (hmissing : found = none -> patched = (d, .ok .missing))
    (hread : forall r v, found = some r -> read r = .ok v ->
      patched = update v)
    (hfails : forall r e, found = some r -> read r = .error e ->
      e ≠ invalidTime -> patched = (d, .error (backend e)))
    (hnever : patched.2 ≠ .error (backend invalidTime)) :
    patched = overlaid d found read update <->
      forall r, found = some r -> read r ≠ .error invalidTime := by
  constructor
  · intro hsame r hfound herror
    apply hnever
    rw [hsame]
    unfold overlaid
    rw [hfound]
    simp only [herror]
  · intro hreadable
    unfold overlaid
    cases hfound : found with
    | none => exact hmissing hfound
    | some r =>
        simp only
        cases hr : read r with
        | error e =>
            apply hfails r e hfound hr
            intro heq
            exact hreadable r hfound (hr.trans (congrArg _ heq))
        | ok v => exact hread r v hfound hr

/-- The same for a patch that is one statement on the row of the version. -/
theorem guardedPatch_eq_overlaid_iff {row value : Type} {d : Db}
    {t : SortedTable Uuid row} {version : row -> Nat} {id : Uuid} {v : UInt32}
    {versionAt : Db -> Option Nat} {read : row -> Except SqlError value}
    {update : value -> Db × Except StorageFault WriteOutcome}
    {conflict : row -> Option SqlError} {store : row -> Db}
    (hversionAt : versionAt d = (t.find? id).map version)
    (hconstraint : forall r e, conflict r = some e -> e.isConstraint = true)
    (hread : forall r u, t.find? id = some r -> read r = .ok u ->
      guardedResult versionAt v.toNat d
        (writeRow d (t.rowAt version id v.toNat) conflict store) = update u)
    (hfails : forall r e, t.find? id = some r -> read r = .error e ->
      e ≠ invalidTime ->
        2 ^ 32 <= version r ∧ e = .integralValueOutOfRange "version") :
    guardedResult versionAt v.toNat d
        (writeRow d (t.rowAt version id v.toNat) conflict store) =
        overlaid d (t.find? id) read update <->
      forall r, t.find? id = some r -> read r ≠ .error invalidTime := by
  have hmissed : (t.find? id).map version ≠ some v.toNat ->
      guardedResult versionAt v.toNat d
          (writeRow d (t.rowAt version id v.toNat) conflict store) =
        (d, (zeroRowsOutcome v.toNat ((t.find? id).map version)).mapError
          backend) := by
    intro hother
    rw [writeRow_of_none (SortedTable.rowAt_eq_none.mpr hother), ← hversionAt]
    rfl
  apply patched_eq_overlaid_iff
  case hmissing =>
    intro hnone
    rw [hmissed, hnone]
    · rfl
    · rw [hnone]
      simp
  case hread => exact hread
  case hfails =>
    -- the version is out of range, so that no expected version matches it
    intro r e hfind hfailed hne
    rcases hfails r e hfind hfailed hne with ⟨hrange, rfl⟩
    have hlt := v.toNat_lt
    rw [hmissed, hfind]
    · unfold zeroRowsOutcome
      simp only [Option.map_some]
      rw [if_neg (Nat.not_lt.mpr hrange)]
      rfl
    · rw [hfind, Option.map_some]
      intro heq
      have hversion : version r = v.toNat := Option.some.inj heq
      omega
  case hnever =>
    intro h
    rcases guardedResult_error h with hexec | hrange
    · rcases writeRow_eq_error hexec with ⟨r, _, hconflict⟩
      cases hconstraint r invalidTime hconflict
    · cases hrange

/-!
## What a patch leaves alone
-/

theorem KeepsRow.refl {row : Type} {keeps : row -> row -> Prop}
    (h : forall r, keeps r r) (id : Uuid) (t : SortedTable Uuid row) :
    KeepsRow keeps id t t := by
  refine ⟨fun _ _ => rfl, ?_⟩
  cases t.find? id with
  | none => exact .none
  | some r => exact .some (h r)

theorem KeepsRow.insert {row : Type} {keeps : row -> row -> Prop} {id : Uuid}
    {t : SortedTable Uuid row} {r r' : row} (hfind : t.find? id = some r)
    (h : keeps r r') : KeepsRow keeps id t (t.insert id r') := by
  refine ⟨fun k hk => t.find?_insert_of_ne hk r', ?_⟩
  rw [hfind, SortedTable.find?_insert_self]
  exact .some h

theorem IssuerPatch.keeps_refl (patch : IssuerPatch) (r : IssuerRecord) :
    IssuerPatch.Keeps patch r r :=
  ⟨rfl, fun _ => rfl, fun _ => rfl, fun _ => rfl, fun _ => rfl, fun _ => rfl⟩

theorem IssuerPatch.keeps_patched (patch : IssuerPatch) (id : IssuerId)
    (v : Nat) {set : IssuerRecord -> IssuerRecord}
    (hset : (patchStatement id v patch).assigned = some set)
    (r : IssuerRecord) :
    IssuerPatch.Keeps patch r { set r with version := r.version + 1 } := by
  cases hset
  unfold Db.coalesce
  exact
    { createdAt := rfl
      name := fun h => by rw [h]; rfl
      status := fun h => by rw [h]; rfl
      cnpj := fun h => by rw [h]; rfl
      lei := fun h => by rw [h]; rfl
      countryCode := fun h => by rw [h]; rfl }

theorem SecurityPatch.keeps_refl (patch : SecurityPatch) (r : SecurityRecord) :
    SecurityPatch.Keeps patch r r :=
  ⟨rfl, rfl, rfl, rfl, fun _ => rfl, fun _ => rfl, fun _ => rfl, fun _ => rfl,
    fun _ => ⟨rfl, rfl⟩⟩

theorem SecurityPatch.keeps_patched (patch : SecurityPatch)
    (id : SecurityId) (v : Nat) {set : SecurityRecord -> SecurityRecord}
    (hset : (patchSecurityStatement id v patch).assigned = some set)
    (r : SecurityRecord) :
    SecurityPatch.Keeps patch r { set r with version := r.version + 1 } := by
  cases hset
  unfold SecurityColumns.coalesce
  exact
    { createdAt := rfl
      issuerId := rfl
      kind := rfl
      underlyingSecurityId := rfl
      name := fun h => by rw [h]; rfl
      status := fun h => by rw [h]; rfl
      isin := fun h => by rw [h]; rfl
      cfi := fun h => by rw [h]; rfl
      drRatio := fun h => by rw [h]; exact ⟨rfl, rfl⟩ }

theorem updateIssuer_stores {d : Db} {versionAt : Db -> Option Nat} {id : Uuid}
    {v : Nat} {set : IssuerRecord -> IssuerRecord} :
    (guardedResult versionAt v d (d.updateIssuerWhere id v set)).1 = d ∨
      exists r, d.issuers.find? id = some r ∧
        (guardedResult versionAt v d (d.updateIssuerWhere id v set)).1 =
          d.storeIssuer id { set r with version := r.version + 1 } := by
  rw [Db.updateIssuerWhere_eq]
  rcases guardedResult_writeRow versionAt v d with hsame | ⟨r, hrow, hstored⟩
  · exact Or.inl hsame
  · exact Or.inr ⟨r, (Db.issuerAt_eq_some.mp hrow).left, hstored⟩

theorem updateSecurity_stores {d : Db} {versionAt : Db -> Option Nat}
    {id : Uuid} {v : Nat} {set : SecurityRecord -> SecurityRecord} :
    (guardedResult versionAt v d (d.updateSecurityWhere id v set)).1 = d ∨
      exists r, d.securities.find? id = some r ∧
        (guardedResult versionAt v d (d.updateSecurityWhere id v set)).1 =
          d.storeSecurity id { set r with version := r.version + 1 } := by
  rw [Db.updateSecurityWhere_eq]
  rcases guardedResult_writeRow versionAt v d with hsame | ⟨r, hrow, hstored⟩
  · exact Or.inl hsame
  · exact Or.inr ⟨r, (Db.securityAt_eq_some.mp hrow).left, hstored⟩

theorem patch_untouched (d : Db) (v : UInt32) (call : PatchCall) :
    call.Untouched d (call.run d v).1 := by
  cases call with
  | issuer id patch =>
      have hrun : (PatchCall.issuer id patch).run d v =
          guardedResult (issuerVersionAt id.uuid) v.toNat d
            (d.updateIssuerWhere id.uuid v.toNat _) :=
        run_issuerWrite (patchStatement id v.toNat patch) _ _ _
      unfold PatchCall.Untouched
      rcases updateIssuer_stores with hsame | ⟨r, hfind, hstored⟩
      · rw [hrun, hsame]
        exact ⟨rfl, KeepsRow.refl (IssuerPatch.keeps_refl patch) _ _⟩
      · rw [hrun, hstored]
        exact ⟨rfl, KeepsRow.insert hfind
          (IssuerPatch.keeps_patched patch id v.toNat rfl r)⟩
  | security id patch =>
      have hrun : (PatchCall.security id patch).run d v =
          guardedResult (securityVersionAt id.uuid) v.toNat d
            (d.updateSecurityWhere id.uuid v.toNat _) :=
        run_securityWrite (patchSecurityStatement id v.toNat patch) _ _ _
      unfold PatchCall.Untouched
      rcases updateSecurity_stores with hsame | ⟨r, hfind, hstored⟩
      · rw [hrun, hsame]
        exact ⟨rfl, KeepsRow.refl (SecurityPatch.keeps_refl patch) _ _⟩
      · rw [hrun, hstored]
        exact ⟨rfl, KeepsRow.insert hfind
          (SecurityPatch.keeps_patched patch id v.toNat rfl r)⟩

/-!
## Patches of issuers
-/

section Issuers

theorem Db.updateIssuerWhere_congr {d : Db} {id : Uuid} {v : Nat}
    {set set' : IssuerRecord -> IssuerRecord}
    (h : forall r, d.issuers.find? id = some r -> r.version = v ->
      { set r with version := r.version + 1 } =
        { set' r with version := r.version + 1 }) :
    d.updateIssuerWhere id v set = d.updateIssuerWhere id v set' := by
  rw [Db.updateIssuerWhere_eq, Db.updateIssuerWhere_eq]
  apply writeRow_congr
  intro r hrow
  rcases Db.issuerAt_eq_some.mp hrow with ⟨hfind, hversion⟩
  rw [h r hfind hversion]
  exact ⟨rfl, rfl⟩

theorem run_findById_lazy (id : IssuerId) (d : Db) :
    (HydratedReads.findById id .lazy).run Command.onDb d =
      (d, (d.issuers.find? id.uuid).elim (.ok none)
        (fun r => ((IssuerRow.fromRow (id.uuid, r)).map (fun snapshot =>
          some (reconstituteRow snapshot))).mapError backend)) := by
  have hquery : (query .reader (.issuerById id.uuid)).run Command.onDb d =
      (d, .ok ((d.issuers.find? id.uuid).map (fun r => (id.uuid, r)))) := rfl
  unfold HydratedReads.findById
  rw [run_withGuard, Program.run_bind, hquery]
  cases d.issuers.find? id.uuid with
  | none => rfl
  | some r =>
      simp only [Option.map_some, Option.elim_some, bind, Except.bind,
        Option.mapM_some]
      cases IssuerRow.fromRow (id.uuid, r) with
      | error e => rfl
      | ok snapshot => rfl

theorem run_overlayIssuer (id : IssuerId) (v : Nat) (patch : IssuerPatch)
    (d : Db) :
    (overlayIssuer id v patch).run Command.onDb d =
      overlaid d (d.issuers.find? id.uuid)
        (fun r => IssuerRow.fromRow (id.uuid, r))
        (fun snapshot => (SqliteIssuerRepository.update
          (IssuerPatch.applyTo patch snapshot.data.issuer) v).run Command.onDb
            d) := by
  unfold overlayIssuer
  rw [Program.run_bind, run_findById_lazy]
  unfold overlaid
  cases d.issuers.find? id.uuid with
  | none => rfl
  | some r =>
      simp only [Option.elim_some]
      cases IssuerRow.fromRow (id.uuid, r) with
      | error e => rfl
      | ok snapshot => rfl

/-- On a row that is read, patching is updating with the overlaid issuer. -/
theorem patchStatement_exec_eq {d : Db} (hwritten : IssuersWritten d)
    {id : IssuerId} {r : IssuerRecord} {snapshot : Versioned IssuerSnapshot}
    (hfind : d.issuers.find? id.uuid = some r)
    (hread : IssuerRow.fromRow (id.uuid, r) = .ok snapshot) (v : Nat)
    (patch : IssuerPatch) :
    (patchStatement id v patch).exec d =
      (updateStatement (IssuerPatch.applyTo patch snapshot.data.issuer)
        v).exec d := by
  rcases hwritten _ _ hfind with ⟨issuer, hid, hr⟩
  have hkey : (IssuerPatch.applyTo patch snapshot.data.issuer).id.uuid =
      id.uuid := (keeps_of_fromRow hread).left
  have hissuer : exists createdAt,
      snapshot.data.issuer = { issuer with createdAt := createdAt } := by
    rw [hr, ← hid, fromRow_issuerRecordOf_eq] at hread
    rcases bind_eq_ok.mp hread with ⟨createdAt, _, hread⟩
    rcases bind_eq_ok.mp hread with ⟨version, _, hread⟩
    cases hread
    exact ⟨createdAt, rfl⟩
  rcases hissuer with ⟨createdAt, hissuer⟩
  change d.updateIssuerWhere _ _ _ = d.updateIssuerWhere _ _ _
  rw [hkey]
  apply Db.updateIssuerWhere_congr
  intro r' hfind' _
  rw [hfind] at hfind'
  cases hfind'
  have hpatch := issuerRecordOf_patch id v patch rfl issuer r.version
  have hupdate := issuerRecordOf_update
    (IssuerPatch.applyTo patch snapshot.data.issuer) v rfl issuer r.version
  rw [← hr] at hpatch hupdate
  refine hpatch.trans (Eq.trans ?_ hupdate.symm)
  rw [hissuer]
  rfl

theorem issuerPatch_eq_overlay_iff {d : Db} (hwritten : IssuersWritten d)
    (id : IssuerId) (v : UInt32) (patch : IssuerPatch) :
    (PatchCall.issuer id patch).run d v =
        (PatchCall.issuer id patch).overlay d v <->
      forall r, d.issuers.find? id.uuid = some r ->
        IssuerRow.fromRow (id.uuid, r) ≠ .error invalidTime := by
  have hpatched : (PatchCall.issuer id patch).run d v =
      guardedResult (issuerVersionAt id.uuid) v.toNat d
        (d.updateIssuerWhere id.uuid v.toNat _) :=
    run_issuerWrite (patchStatement id v.toNat patch) _ _ _
  have hoverlay : (PatchCall.issuer id patch).overlay d v =
      (overlayIssuer id v.toNat patch).run Command.onDb d := rfl
  have hread : forall r snapshot, d.issuers.find? id.uuid = some r ->
      IssuerRow.fromRow (id.uuid, r) = .ok snapshot ->
      (PatchCall.issuer id patch).run d v =
        (SqliteIssuerRepository.update
          (IssuerPatch.applyTo patch snapshot.data.issuer) v.toNat).run
            Command.onDb d := by
    intro r snapshot hfind hread
    have hkey : (IssuerPatch.applyTo patch snapshot.data.issuer).id.uuid =
        id.uuid := (keeps_of_fromRow hread).left
    unfold SqliteIssuerRepository.update
    rw [hkey, run_issuerWrite,
      ← patchStatement_exec_eq hwritten hfind hread v.toNat patch]
    exact hpatched
  rw [hpatched] at hread
  rw [hpatched, hoverlay, run_overlayIssuer]
  rw [Db.updateIssuerWhere_eq] at hread ⊢
  apply guardedPatch_eq_overlaid_iff rfl
    (fun r e => rowConflict_isConstraint) hread
  intro r e hfind hfailed hne
  rcases hwritten _ _ hfind with ⟨issuer, hid, hr⟩
  rw [hr, ← hid, fromRow_issuerRecordOf_eq] at hfailed
  exact (timeAndVersion_error hfailed).resolve_left
    (fun htime => hne htime.right)

end Issuers

/-!
## Patches of securities
-/

section Securities

open SqliteSecurityRepository (fromRowOpt)

theorem Db.updateSecurityWhere_congr {d : Db} {id : Uuid} {v : Nat}
    {set set' : SecurityRecord -> SecurityRecord}
    (h : forall r, d.securities.find? id = some r -> r.version = v ->
      { set r with version := r.version + 1 } =
        { set' r with version := r.version + 1 }) :
    d.updateSecurityWhere id v set = d.updateSecurityWhere id v set' := by
  rw [Db.updateSecurityWhere_eq, Db.updateSecurityWhere_eq]
  apply writeRow_congr
  intro r hrow
  rcases Db.securityAt_eq_some.mp hrow with ⟨hfind, hversion⟩
  rw [h r hfind hversion]
  exact ⟨rfl, rfl⟩

theorem run_overlaySecurity (id : SecurityId) (v : Nat)
    (patch : SecurityPatch) (d : Db) :
    (overlaySecurity id v patch).run SecurityCommand.onDb d =
      overlaid d (d.securities.find? id.uuid)
        (fun r => SecurityRow.fromRow (id.uuid, r))
        (fun stored => (SqliteSecurityRepository.update
          (SecurityPatch.applyTo patch stored.data) v).run
            SecurityCommand.onDb d) := by
  have hread : (SqliteSecurityRepository.findById id).run SecurityCommand.onDb
      d = (d, (fromRowOpt ((d.securities.find? id.uuid).map
        (fun r => (id.uuid, r)))).mapError backend) :=
    SqliteSecurityRepository.run_readWith (.securityById id.uuid) fromRowOpt d
  unfold overlaySecurity
  rw [Program.run_bind, hread]
  unfold overlaid
  cases d.securities.find? id.uuid with
  | none => rfl
  | some r =>
      simp only [Option.map_some]
      unfold fromRowOpt
      simp only
      cases SecurityRow.fromRow (id.uuid, r) with
      | error e => rfl
      | ok stored => rfl

theorem patchSecurityStatement_exec_eq {d : Db}
    (hwritten : SecuritiesWritten d) {id : SecurityId} {r : SecurityRecord}
    {stored : Versioned Security}
    (hfind : d.securities.find? id.uuid = some r)
    (hread : SecurityRow.fromRow (id.uuid, r) = .ok stored) (v : Nat)
    (patch : SecurityPatch) :
    (patchSecurityStatement id v patch).exec d =
      (updateSecurityStatement (SecurityPatch.applyTo patch stored.data)
        v).exec d := by
  rcases (hwritten _ _ hfind).ofSecurity with ⟨security, hid, hr⟩
  have hkey : (SecurityPatch.applyTo patch stored.data).id.uuid = id.uuid :=
    (keeps_of_securityRow hread).left
  have hsecurity : exists createdAt,
      stored.data = { security with createdAt := createdAt } := by
    rw [hr, ← hid, fromRow_recordOf_eq] at hread
    rcases bind_eq_ok.mp hread with ⟨createdAt, _, hread⟩
    rcases bind_eq_ok.mp hread with ⟨version, _, hread⟩
    cases hread
    exact ⟨createdAt, rfl⟩
  rcases hsecurity with ⟨createdAt, hsecurity⟩
  change d.updateSecurityWhere _ _ _ = d.updateSecurityWhere _ _ _
  rw [hkey]
  apply Db.updateSecurityWhere_congr
  intro r' hfind' _
  rw [hfind] at hfind'
  cases hfind'
  have hpatch := recordOf_patch id v patch rfl security r.version
  have hupdate := recordOf_update
    (SecurityPatch.applyTo patch stored.data) v rfl security r.version
  rw [← hr] at hpatch hupdate
  refine hpatch.trans (Eq.trans ?_ hupdate.symm)
  rw [hsecurity]
  rfl

theorem securityPatch_eq_overlay_iff {d : Db}
    (hwritten : SecuritiesWritten d) (id : SecurityId) (v : UInt32)
    (patch : SecurityPatch) :
    (PatchCall.security id patch).run d v =
        (PatchCall.security id patch).overlay d v <->
      forall r, d.securities.find? id.uuid = some r ->
        SecurityRow.fromRow (id.uuid, r) ≠ .error invalidTime := by
  have hpatched : (PatchCall.security id patch).run d v =
      guardedResult (securityVersionAt id.uuid) v.toNat d
        (d.updateSecurityWhere id.uuid v.toNat _) :=
    run_securityWrite (patchSecurityStatement id v.toNat patch) _ _ _
  have hoverlay : (PatchCall.security id patch).overlay d v =
      (overlaySecurity id v.toNat patch).run SecurityCommand.onDb d := rfl
  have hread : forall r stored, d.securities.find? id.uuid = some r ->
      SecurityRow.fromRow (id.uuid, r) = .ok stored ->
      (PatchCall.security id patch).run d v =
        (SqliteSecurityRepository.update
          (SecurityPatch.applyTo patch stored.data) v.toNat).run
            SecurityCommand.onDb d := by
    intro r stored hfind hread
    have hkey : (SecurityPatch.applyTo patch stored.data).id.uuid = id.uuid :=
      (keeps_of_securityRow hread).left
    unfold SqliteSecurityRepository.update
    rw [hkey, run_securityWrite,
      ← patchSecurityStatement_exec_eq hwritten hfind hread v.toNat patch]
    exact hpatched
  rw [hpatched] at hread
  rw [hpatched, hoverlay, run_overlaySecurity]
  rw [Db.updateSecurityWhere_eq] at hread ⊢
  apply guardedPatch_eq_overlaid_iff rfl
    (fun r e => securityConflict_isConstraint) hread
  intro r e hfind hfailed hne
  rcases (hwritten _ _ hfind).ofSecurity with ⟨security, hid, hr⟩
  rw [hr, ← hid, fromRow_recordOf_eq] at hfailed
  exact (timeAndVersion_error hfailed).resolve_left
    (fun htime => hne htime.right)

end Securities

/-!
## Both tables
-/

theorem readable_iff_fourDigitRow {d : Db} (hissuers : IssuersWritten d)
    (hsecurities : SecuritiesWritten d) (v : UInt32) (call : PatchCall) :
    call.run d v = call.overlay d v <-> call.FourDigitRow d := by
  cases call with
  | issuer id patch =>
      rw [issuerPatch_eq_overlay_iff hissuers]
      change _ <-> forall text,
        (d.issuers.find? id.uuid).map IssuerRecord.createdAt = some text -> _
      cases hfind : d.issuers.find? id.uuid with
      | none => simp
      | some r =>
          rcases hissuers _ _ hfind with ⟨issuer, hid, hr⟩
          simp only [Option.map_some, Option.some.injEq, forall_eq']
          rw [hr, ← hid, fromRow_issuerRecordOf_eq]
          exact timeAndVersion_ne_invalidTime
  | security id patch =>
      rw [securityPatch_eq_overlay_iff hsecurities]
      change _ <-> forall text,
        (d.securities.find? id.uuid).map SecurityRecord.createdAt =
          some text -> _
      cases hfind : d.securities.find? id.uuid with
      | none => simp
      | some r =>
          rcases (hsecurities _ _ hfind).ofSecurity with ⟨security, hid, hr⟩
          simp only [Option.map_some, Option.some.injEq, forall_eq']
          rw [hr, ← hid, fromRow_recordOf_eq]
          exact timeAndVersion_ne_invalidTime

/--
In every state that writes can lead to, a patch reports and does what reading the
row, overlaying and updating does, and leaves alone what it does not name, exactly
when the row, if there is one, has been created in a year of four digits.
-/
theorem patch_equalsOverlay_iff (calls : List RepositoryCall) (v : UInt32)
    (call : PatchCall) :
    call.EqualsOverlay (runCalls Db.empty calls) v <->
      call.FourDigitRow (runCalls Db.empty calls) := by
  rw [← readable_iff_fourDigitRow (runCalls_issuersWritten calls)
    (runCalls_securitiesWritten calls) v]
  constructor
  · exact PatchCall.EqualsOverlay.same
  · intro hsame
    exact ⟨hsame, patch_untouched _ v call⟩

/-- The issuer of the year 10000 can be retired, but not read and then retired. -/
theorem farFutureIssuer_patchDiffers :
    ¬ forall (calls : List RepositoryCall) (v : UInt32) (call : PatchCall),
      call.EqualsOverlay (runCalls Db.empty calls) v := by
  intro h
  have hsame := (h [.insertIssuer farFutureIssuer] 1
    (.issuer farFutureIssuer.id
      { IssuerPatch.empty with status := some .retired })).same
  have houtcome := congrArg Prod.snd hsame
  revert houtcome
  decide +kernel

end Sqlite
end Valqeron
