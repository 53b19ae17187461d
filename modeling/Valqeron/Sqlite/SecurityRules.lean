import Valqeron.Foundation.Transition
import Valqeron.Sqlite.SecurityGraph

/-!
# The builder's rules in the table

The table repeats the cross-field rules of the security builder as `CHECK`
constraints, so that no write can break them, whatever security or patch it is
given.  What the table does not check is that a row can be read again: a year
that RFC 3339 cannot name and a version beyond `u32` are stored and then refused.
-/

namespace Valqeron
namespace Sqlite

open Foundation
open Domain
open Identifiers

/-- The rules of the builder that involve more than one column. -/
structure SecurityRecord.CrossFieldRules (id : Uuid) (r : SecurityRecord) :
    Prop where
  receiptOnly : r.kind ≠ "DEPOSITARY_RECEIPT" ->
    r.underlyingSecurityId = none ∧ r.drRatioReceipts = none ∧
      r.drRatioUnderlying = none
  together : r.drRatioReceipts.isSome = r.drRatioUnderlying.isSome
  receipts : r.drRatioReceipts ≠ some 0
  underlying : r.drRatioUnderlying ≠ some 0
  notSelf : r.underlyingSecurityId ≠ some id

theorem SecurityRecord.ChecksPass.crossFieldRules {id : Uuid}
    {r : SecurityRecord} (h : r.ChecksPass id) : r.CrossFieldRules id where
  receiptOnly := h.receiptOnly
  together := h.pair
  receipts := fun hzero => absurd (h.receipts 0 hzero) (lt_irrefl 0)
  underlying := fun hzero => absurd (h.underlying 0 hzero) (lt_irrefl 0)
  notSelf := h.notSelf

/-!
## What a statement stores
-/

namespace SecurityStatement

/-- The row that the statement is about to store, if no constraint forbids it. -/
def resulting (s : SecurityStatement) (d : Db) : Option SecurityRecord :=
  match s.inserted, s.assigned, s.expectedVersion with
  | some r, _, _ => some r
  | none, some set, some v =>
      (d.securityAt s.target v).map (fun r =>
        { set r with version := r.version + 1 })
  | none, _, _ => none

def Permits (s : SecurityStatement) (d : Db) (r : SecurityRecord) : Prop :=
  securityConflict d.securities s.target r = none ∧
    (s.inserted = some r -> d.securities.find? s.target = none ∧
      (d.storeSecurity s.target r).referencesExist r = true)

theorem resulting_eq_some {s : SecurityStatement} {d : Db}
    {r : SecurityRecord} (h : s.resulting d = some r) :
    s.inserted = some r ∨
      exists set v r', s.inserted = none ∧ s.assigned = some set ∧
        s.expectedVersion = some v ∧ d.securityAt s.target v = some r' ∧
        r = { set r' with version := r'.version + 1 } := by
  unfold resulting at h
  split at h
  · rename_i hinserted
    cases h
    exact Or.inl hinserted
  · rename_i hinserted hassigned hversion
    rcases Option.map_eq_some_iff.mp h with ⟨r', hrow, hr⟩
    exact Or.inr
      ⟨_, _, r', hinserted, hassigned, hversion, hrow, hr.symm⟩
  · cases h

theorem exec_of_assigned {s : SecurityStatement} {d : Db} {v : Nat}
    {set : SecurityRecord -> SecurityRecord} (hset : s.assigned = some set)
    (hversion : s.expectedVersion = some v) :
    s.exec d = d.updateSecurityWhere s.target v set := by
  cases s with
  | insertSecurity id issuerId kind status createdAt underlying columns =>
      cases hset
  | patchSecurity id status columns expectedVersion =>
      cases hset
      cases hversion
      rfl
  | updateSecurity id status columns expectedVersion =>
      cases hset
      cases hversion
      rfl
  | deleteSecurity id expectedVersion => cases hset

theorem exec_of_inserted {s : SecurityStatement} {d : Db}
    {r : SecurityRecord} (h : s.inserted = some r) :
    s.exec d =
      match r.failedCheck s.target with
      | some e => .error e
      | none =>
          match securityInsertConflict d.securities s.target r with
          | some e => .error e
          | none =>
              if (d.storeSecurity s.target r).referencesExist r then
                .ok (d.storeSecurity s.target r, 1)
              else
                .error .foreignKey := by
  cases s with
  | insertSecurity id issuerId kind status createdAt underlying columns =>
      cases h
      rfl
  | patchSecurity id status columns expectedVersion => cases h
  | updateSecurity id status columns expectedVersion => cases h
  | deleteSecurity id expectedVersion => cases h

theorem exec_of_permits {s : SecurityStatement} {d : Db} {r : SecurityRecord}
    (hr : s.resulting d = some r) (hpermits : s.Permits d r) :
    s.exec d = .ok (d.storeSecurity s.target r, 1) := by
  have hconflict := securityConflict_eq_none.mp hpermits.left
  rcases resulting_eq_some hr with hinserted |
    ⟨set, v, r', hnone, hset, hversion, hrow, hresult⟩
  · rcases hpermits.right hinserted with ⟨hfree, hreferences⟩
    have hnew := securityInsertConflict_eq_none.mpr ⟨hfree, hconflict.right⟩
    rw [exec_of_inserted hinserted, hconflict.left, hnew, hreferences]
    rfl
  · rw [exec_of_assigned hset hversion]
    unfold Db.updateSecurityWhere
    rw [hrow]
    simp only [← hresult, hpermits.left]

theorem exec_of_not_permits {s : SecurityStatement} {d : Db}
    {r : SecurityRecord} (hr : s.resulting d = some r)
    (hnot : ¬ s.Permits d r) : exists e, s.exec d = .error e := by
  rcases resulting_eq_some hr with hinserted |
    ⟨set, v, r', hnone, hset, hversion, hrow, hresult⟩
  · rw [exec_of_inserted hinserted]
    split
    · exact ⟨_, rfl⟩
    · rename_i hcheck
      split
      · exact ⟨_, rfl⟩
      · rename_i hconflict
        rcases securityInsertConflict_eq_none.mp hconflict with
          ⟨hfree, hunique⟩
        split
        · rename_i hreferences
          exfalso
          apply hnot
          refine ⟨securityConflict_eq_none.mpr ⟨hcheck, hunique⟩, ?_⟩
          intro _
          exact ⟨hfree, hreferences⟩
        · exact ⟨_, rfl⟩
  · rw [exec_of_assigned hset hversion]
    unfold Db.updateSecurityWhere
    rw [hrow]
    simp only [← hresult]
    split
    · exact ⟨_, rfl⟩
    · rename_i hconflict
      exfalso
      apply hnot
      refine ⟨hconflict, ?_⟩
      intro hinserted
      rw [hnone] at hinserted
      cases hinserted

theorem find?_of_resulting_none {s : SecurityStatement} {d : Db}
    (hnone : s.resulting d = none) {id : Uuid} {r : SecurityRecord}
    (h : (s.apply d).1.securities.find? id = some r) :
    d.securities.find? id = some r := by
  have heffect := s.exec_effect d
  unfold apply at h
  cases hexec : s.exec d with
  | error e =>
      rw [hexec] at h
      exact h
  | ok result =>
      rw [hexec] at h heffect
      cases heffect with
      | missed v hversion hmissed => exact h
      | inserted r' hrow hfree hok hreferences =>
          unfold resulting at hnone
          rw [hrow] at hnone
          cases hnone
      | updated v set r' hversion hset hrow hok =>
          have hinserted : s.inserted = none := by
            cases s with
            | insertSecurity => cases hset
            | patchSecurity => rfl
            | updateSecurity => rfl
            | deleteSecurity => rfl
          unfold resulting at hnone
          rw [hinserted, hset, hversion] at hnone
          simp only [hrow, Option.map_some] at hnone
          cases hnone
      | erased v r' hversion hrow hfree =>
          simp only at h
          rcases eq_or_ne id s.target with heq | hne
          · rw [heq, SortedTable.find?_erase_self] at h
            cases h
          · rwa [SortedTable.find?_erase_of_ne _ hne] at h

end SecurityStatement

/-!
## Rows read back
-/

def recordOf (security : Security) (version : Nat) : SecurityRecord where
  issuerId := security.issuerId.uuid
  name := security.name.map SecurityName.asStr
  kind := security.kind.asStr
  status := security.status.asStr
  createdAt := canonicalTimestamp security.createdAt
  version := version
  isin := security.isin.map Isin.asStr
  cfi := security.cfi.map Cfi.asStr
  underlyingSecurityId := security.underlyingSecurityId.map SecurityId.uuid
  drRatioReceipts := security.drRatio.map (fun r => (r.receipts.toNat : Int))
  drRatioUnderlying :=
    security.drRatio.map (fun r => (r.underlying.toNat : Int))

theorem columnOptU32_toNat (column : String) (n : UInt32) :
    columnOptU32 column (some (n.toNat : Int)) = .ok (some n) := by
  show (columnU32 column n.toNat).map some = _
  rw [columnU32_toNat]
  rfl

theorem columnOptDrRatio_sides (ratio : Option DepositaryReceiptRatio) :
    columnOptDrRatio (ratio.map (fun r => (r.receipts.toNat : Int)))
      (ratio.map (fun r => (r.underlying.toNat : Int))) = .ok ratio := by
  cases ratio with
  | none => rfl
  | some r =>
      unfold columnOptDrRatio
      rw [Option.map_some, Option.map_some, columnOptU32_toNat,
        columnOptU32_toNat]
      show Except.map some (conversionFailure DrRatioError.message
        (DepositaryReceiptRatio.new r.receipts r.underlying)) = _
      rw [r.new_sides]
      rfl

theorem map_uuid_mk (id : Option SecurityId) :
    (id.map SecurityId.uuid).map SecurityId.mk = id := by
  cases id <;> rfl

/-- Only the time and the version can keep the row of a security from being read. -/
theorem fromRow_recordOf_eq (security : Security) (version : Nat) :
    SecurityRow.fromRow (security.id.uuid, recordOf security version) = (do
      let createdAt ← columnDatetime (canonicalTimestamp security.createdAt)
      let version ← columnU32 "version" version
      return {
        data := { security with createdAt := createdAt }
        version := version.toNat }) := by
  have hkind : columnKind security.kind.asStr = .ok security.kind := by
    unfold columnKind
    rw [SecurityKind.fromStr_asStr]
    rfl
  have hstatus : columnStatus security.status.asStr =
      .ok security.status := by
    unfold columnStatus
    rw [SecurityStatus.fromStr_asStr]
    rfl
  unfold SecurityRow.fromRow recordOf
  simp only [hkind, hstatus, columnOpt_map SecurityName.new_asStr,
    columnOpt_map Isin.new_asStr, columnOpt_map Cfi.parse_asStr,
    columnOptDrRatio_sides, map_uuid_mk]
  cases columnDatetime (canonicalTimestamp security.createdAt) with
  | error e => rfl
  | ok createdAt =>
      cases columnU32 "version" version with
      | error e => rfl
      | ok n => rfl

theorem fromRow_recordOf_of_parse (security : Security) {version : Nat}
    {createdAt : DateTime}
    (hparse : parseFromRfc3339 (canonicalTimestamp security.createdAt) =
      some createdAt) (hversion : version < 2 ^ 32) :
    SecurityRow.fromRow (security.id.uuid, recordOf security version) =
      .ok
        { data := { security with createdAt := createdAt }
          version := version } := by
  rw [fromRow_recordOf_eq, columnDatetime_eq_ok.mpr hparse,
    columnU32_ofNat "version" hversion]
  show Except.ok _ = Except.ok _
  rw [UInt32.toNat_ofNat', Nat.mod_eq_of_lt hversion]

/--
The row of a security is read back, but for the digits of its time behind the
milliseconds, when its year and its version allow it.
-/
theorem fromRow_recordOf (security : Security) {version : Nat}
    (hyear : FourDigitYear security.createdAt) (hversion : version < 2 ^ 32) :
    exists createdAt,
      SecurityRow.fromRow (security.id.uuid, recordOf security version) =
        .ok
          { data := { security with createdAt := createdAt }
            version := version } := by
  rcases parse_canonicalTimestamp hyear with ⟨createdAt, hparse, _⟩
  exact ⟨createdAt, fromRow_recordOf_of_parse security hparse hversion⟩

theorem parse_of_securityRow {row : SecurityEntry} {v : Versioned Security}
    (h : SecurityRow.fromRow row = .ok v) :
    parseFromRfc3339 row.2.createdAt = some v.data.createdAt ∧
      row.2.version < 2 ^ 32 := by
  unfold SecurityRow.fromRow at h
  rcases bind_eq_ok.mp h with ⟨kind, _, h⟩
  rcases bind_eq_ok.mp h with ⟨status, _, h⟩
  rcases bind_eq_ok.mp h with ⟨createdAt, hcreatedAt, h⟩
  rcases bind_eq_ok.mp h with ⟨name, _, h⟩
  rcases bind_eq_ok.mp h with ⟨isin, _, h⟩
  rcases bind_eq_ok.mp h with ⟨cfi, _, h⟩
  rcases bind_eq_ok.mp h with ⟨drRatio, _, h⟩
  rcases bind_eq_ok.mp h with ⟨version, hversion, h⟩
  cases h
  refine ⟨columnDatetime_eq_ok.mp hcreatedAt, ?_⟩
  rw [Int.ofNat_inj.mp (columnU32_eq_ok hversion)]
  exact version.toNat_lt

theorem fromRow_recordOf_ok {security : Security} {version : Nat}
    {v : Versioned Security}
    (h : SecurityRow.fromRow (security.id.uuid, recordOf security version) =
      .ok v) :
    FourDigitYear security.createdAt ∧ version < 2 ^ 32 := by
  rcases parse_of_securityRow h with ⟨hparse, hversion⟩
  refine ⟨(parse_canonicalTimestamp_isSome _).mp ?_, hversion⟩
  have htime : parseFromRfc3339 (canonicalTimestamp security.createdAt) =
      some v.data.createdAt := hparse
  rw [htime]
  rfl

/-!
## What is stored
-/

/-- The row of some security, which passes the checks of the table. -/
structure Written (id : Uuid) (r : SecurityRecord) : Prop where
  ofSecurity : exists security : Security,
    security.id.uuid = id ∧ r = recordOf security r.version
  checks : r.ChecksPass id

def SecuritiesWritten (d : Db) : Prop :=
  forall id r, d.securities.find? id = some r -> Written id r

/-- The row is read back, and the builder would accept what is read. -/
def ReadsBack (id : Uuid) (r : SecurityRecord) : Prop :=
  exists v, SecurityRow.fromRow (id, r) = .ok v ∧ v.data.Accepted

def SecurityPatch.applyTo (patch : SecurityPatch) (security : Security) :
    Security :=
  { security with
    name := patch.name.or security.name
    status := patch.status.getD security.status
    isin := patch.isin.or security.isin
    cfi := patch.cfi.or security.cfi
    drRatio := patch.drRatio.or security.drRatio }

theorem map_or_map {a b : Type} (f : a -> b) (x y : Option a) :
    (x.map f).or (y.map f) = (x.or y).map f := by
  cases x <;> rfl

theorem recordOf_patch (id : SecurityId) (expectedVersion : Nat)
    (patch : SecurityPatch) {set : SecurityRecord -> SecurityRecord}
    (hset : (patchSecurityStatement id expectedVersion patch).assigned =
      some set) (security : Security) (version : Nat) :
    { set (recordOf security version) with version := version + 1 } =
      recordOf (SecurityPatch.applyTo patch security) (version + 1) := by
  have hstatus : (patch.status.map SecurityStatus.asStr).getD
      security.status.asStr = (patch.status.getD security.status).asStr := by
    cases patch.status <;> rfl
  cases hset
  unfold SecurityColumns.coalesce recordOf SecurityPatch.applyTo
  simp only [map_or_map, hstatus]

theorem recordOf_update (security' : Security) (expectedVersion : Nat)
    {set : SecurityRecord -> SecurityRecord}
    (hset : (updateSecurityStatement security' expectedVersion).assigned =
      some set) (security : Security) (version : Nat) :
    { set (recordOf security version) with version := version + 1 } =
      recordOf
        { security with
          name := security'.name
          status := security'.status
          isin := security'.isin
          cfi := security'.cfi
          drRatio := security'.drRatio } (version + 1) := by
  cases hset
  rfl

/-- A row that passes the checks comes from a security that the builder accepts. -/
theorem accepted_of_checksPass {security : Security} {version : Nat}
    (h : (recordOf security version).ChecksPass security.id.uuid) :
    security.Accepted := by
  rw [Security.accepted_iff]
  constructor
  · intro hkind
    have hne : (recordOf security version).kind ≠ "DEPOSITARY_RECEIPT" := by
      unfold recordOf
      intro heq
      apply hkind
      cases hk : security.kind <;> simp_all [SecurityKind.asStr]
    rcases h.receiptOnly hne with ⟨hunderlying, hreceipts, _⟩
    exact ⟨Option.map_eq_none_iff.mp hunderlying,
      Option.map_eq_none_iff.mp hreceipts⟩
  · intro heq
    apply h.notSelf
    unfold recordOf
    rw [heq]
    rfl

theorem readsBack_recordOf {security : Security} {version : Nat}
    (h : (recordOf security version).ChecksPass security.id.uuid) :
    ReadsBack security.id.uuid (recordOf security version) <->
      FourDigitYear security.createdAt ∧ version < 2 ^ 32 := by
  constructor
  · intro hreads
    rcases hreads with ⟨v, hrow, _⟩
    exact fromRow_recordOf_ok hrow
  · intro hreadable
    rcases fromRow_recordOf security hreadable.left hreadable.right with
      ⟨createdAt, hrow⟩
    have hrules := Security.accepted_iff.mp (accepted_of_checksPass h)
    exact ⟨_, hrow, Security.accepted_iff.mpr hrules⟩

/-!
## One call
-/

namespace SecurityStatement

def Stores (s : SecurityStatement) (d : Db) : Prop :=
  exists r, s.resulting d = some r ∧ s.Permits d r

end SecurityStatement

/-- What the call stores, if anything, can be read again. -/
def RepositoryCall.StoresReadable (d : Db) : RepositoryCall -> Prop
  | .insertSecurity security =>
      (insertSecurityStatement security).Stores d ->
        FourDigitYear security.createdAt
  | .patchSecurity id expectedVersion patch =>
      (patchSecurityStatement id expectedVersion patch).Stores d ->
        expectedVersion + 1 < 2 ^ 32
  | .updateSecurity security expectedVersion =>
      (updateSecurityStatement security expectedVersion).Stores d ->
        expectedVersion + 1 < 2 ^ 32
  | _ => True

def SecuritiesReadBack (d : Db) : Prop :=
  forall id r, d.securities.find? id = some r -> ReadsBack id r

theorem checksPass_of_permits {s : SecurityStatement} {d : Db}
    {r : SecurityRecord} (h : s.Permits d r) : r.ChecksPass s.target :=
  SecurityRecord.failedCheck_eq_none.mp
    (securityConflict_eq_none.mp h.left).left

theorem written_of_update {d : Db} (hwritten : SecuritiesWritten d)
    {s : SecurityStatement} {set : SecurityRecord -> SecurityRecord}
    {edit : Security -> Security} {v : Nat} {r : SecurityRecord}
    (hset : s.assigned = some set) (hversion : s.expectedVersion = some v)
    (hedit : forall security version,
      { set (recordOf security version) with version := version + 1 } =
        recordOf (edit security) (version + 1))
    (hid : forall security, (edit security).id = security.id)
    (hcreatedAt : forall security,
      (edit security).createdAt = security.createdAt)
    (hr : s.resulting d = some r) (hpermits : s.Permits d r) :
    Written s.target r ∧
      (SecuritiesReadBack d -> (ReadsBack s.target r <-> v + 1 < 2 ^ 32)) := by
  have hchecks := checksPass_of_permits hpermits
  rcases SecurityStatement.resulting_eq_some hr with hinserted |
    ⟨set', v', r', _, hset', hversion', hrow, hresult⟩
  · exfalso
    cases s with
    | insertSecurity => cases hset
    | patchSecurity => cases hinserted
    | updateSecurity => cases hinserted
    | deleteSecurity => cases hinserted
  · rw [hset] at hset'
    rw [hversion] at hversion'
    cases hset'
    cases hversion'
    rcases Db.securityAt_eq_some.mp hrow with ⟨hfind, hv⟩
    rcases (hwritten _ _ hfind).ofSecurity with ⟨security, hkey, hrecord⟩
    have hnew : r = recordOf (edit security) (v + 1) := by
      rw [hresult, ← hv, ← hedit security r'.version, ← hrecord]
    have hkey' : (edit security).id.uuid = s.target := by
      rw [hid, hkey]
    subst hnew
    rw [← hkey'] at hchecks ⊢
    refine ⟨⟨⟨edit security, rfl, rfl⟩, hchecks⟩, ?_⟩
    intro hreads
    have hbefore := hreads _ _ hfind
    have hchecksBefore := (hwritten _ _ hfind).checks
    rw [hrecord, ← hkey] at hbefore hchecksBefore
    have hyear := ((readsBack_recordOf hchecksBefore).mp hbefore).left
    rw [readsBack_recordOf hchecks, hcreatedAt]
    exact ⟨And.right, fun hlt => ⟨hyear, hlt⟩⟩

theorem RepositoryCall.written_of_permits {d : Db}
    (hwritten : SecuritiesWritten d) {call : RepositoryCall}
    {s : SecurityStatement} {r : SecurityRecord}
    (hs : call.securityStatement = some s) (hr : s.resulting d = some r)
    (hpermits : s.Permits d r) :
    Written s.target r ∧
      (SecuritiesReadBack d ->
        (ReadsBack s.target r <-> call.StoresReadable d)) := by
  have hstores : s.Stores d := ⟨r, hr, hpermits⟩
  cases call with
  | insertIssuer issuer => cases hs
  | patchIssuer id expectedVersion patch => cases hs
  | updateIssuer issuer expectedVersion => cases hs
  | deleteIssuer id expectedVersion => cases hs
  | insertSecurity security =>
      cases hs
      have hchecks := checksPass_of_permits hpermits
      cases hr
      refine ⟨⟨⟨security, rfl, rfl⟩, hchecks⟩, ?_⟩
      intro _
      unfold StoresReadable
      have hiff : ReadsBack security.id.uuid (recordOf security 1) <->
          FourDigitYear security.createdAt ∧ 1 < 2 ^ 32 :=
        readsBack_recordOf hchecks
      exact ⟨fun h _ => (hiff.mp h).left,
        fun h => hiff.mpr ⟨h hstores, by omega⟩⟩
  | patchSecurity id expectedVersion patch =>
      cases hs
      have hboth := written_of_update hwritten rfl rfl
        (recordOf_patch id expectedVersion patch rfl) (fun _ => rfl)
        (fun _ => rfl) hr hpermits
      refine ⟨hboth.left, ?_⟩
      intro hreads
      rw [hboth.right hreads]
      exact ⟨fun h _ => h, fun h => h hstores⟩
  | updateSecurity security expectedVersion =>
      cases hs
      have hboth := written_of_update hwritten rfl rfl
        (recordOf_update security expectedVersion rfl) (fun _ => rfl)
        (fun _ => rfl) hr hpermits
      refine ⟨hboth.left, ?_⟩
      intro hreads
      rw [hboth.right hreads]
      exact ⟨fun h _ => h, fun h => h hstores⟩
  | deleteSecurity id expectedVersion =>
      cases hs
      cases hr

theorem RepositoryCall.find?_run {d : Db} {call : RepositoryCall} {id : Uuid}
    {r : SecurityRecord} (h : (call.run d).securities.find? id = some r) :
    d.securities.find? id = some r ∨
      exists s, call.securityStatement = some s ∧ id = s.target ∧
        s.resulting d = some r ∧ s.Permits d r := by
  rcases call.run_statement d with ⟨_, s, _, hs⟩ | ⟨s, hs, hrun⟩
  · left
    rw [hs] at h
    unfold Statement.apply at h
    cases hexec : s.exec d with
    | error e =>
        rw [hexec] at h
        exact h
    | ok result =>
        rcases result with ⟨d', n⟩
        rw [hexec] at h
        rcases s.exec_cases hexec with hsame | ⟨id, r, hstore⟩ |
          ⟨id, herase, _⟩
        · rwa [hsame] at h
        · rwa [hstore] at h
        · rwa [herase] at h
  · rw [hrun] at h
    cases hr : s.resulting d with
    | none => exact Or.inl (SecurityStatement.find?_of_resulting_none hr h)
    | some r' =>
        by_cases hpermits : s.Permits d r'
        · unfold SecurityStatement.apply at h
          rw [SecurityStatement.exec_of_permits hr hpermits] at h
          rcases Db.find?_storeSecurity h with ⟨hid, hrow⟩ | ⟨_, hbefore⟩
          · rw [hrow]
            exact Or.inr ⟨s, hs, hid, hr, hpermits⟩
          · exact Or.inl hbefore
        · rcases SecurityStatement.exec_of_not_permits hr hpermits with
            ⟨e, herror⟩
          rw [SecurityStatement.apply_error herror] at h
          exact Or.inl h

theorem RepositoryCall.run_written {d : Db} (hwritten : SecuritiesWritten d)
    (call : RepositoryCall) : SecuritiesWritten (call.run d) := by
  intro id r hrow
  rcases call.find?_run hrow with hbefore | ⟨s, hs, hid, hr, hpermits⟩
  · exact hwritten id r hbefore
  · rw [hid]
    exact (call.written_of_permits hwritten hs hr hpermits).left

/-- A call leaves every row readable exactly when what it stores is. -/
theorem RepositoryCall.run_readsBack_iff {d : Db}
    (hwritten : SecuritiesWritten d) (hreads : SecuritiesReadBack d)
    (call : RepositoryCall) :
    SecuritiesReadBack (call.run d) <-> call.StoresReadable d := by
  constructor
  · intro hafter
    have hstored : forall s, call.securityStatement = some s -> s.Stores d ->
        call.StoresReadable d := by
      intro s hs hstores
      rcases hstores with ⟨r, hr, hpermits⟩
      have hrun : (call.run d).securities.find? s.target = some r := by
        rcases call.run_statement d with ⟨hnone, _⟩ | ⟨s', hs', hrun⟩
        · rw [hs] at hnone
          cases hnone
        · rw [hs] at hs'
          cases hs'
          rw [hrun]
          unfold SecurityStatement.apply
          rw [SecurityStatement.exec_of_permits hr hpermits]
          exact SortedTable.find?_insert_self _ _ _
      exact ((call.written_of_permits hwritten hs hr hpermits).right
        hreads).mp (hafter _ _ hrun)
    cases call with
    | insertIssuer issuer => trivial
    | patchIssuer id expectedVersion patch => trivial
    | updateIssuer issuer expectedVersion => trivial
    | deleteIssuer id expectedVersion => trivial
    | insertSecurity security =>
        exact fun hstores => hstored _ rfl hstores hstores
    | patchSecurity id expectedVersion patch =>
        exact fun hstores => hstored _ rfl hstores hstores
    | updateSecurity security expectedVersion =>
        exact fun hstores => hstored _ rfl hstores hstores
    | deleteSecurity id expectedVersion => trivial
  · intro hreadable id r hrow
    rcases call.find?_run hrow with hbefore | ⟨s, hs, hid, hr, hpermits⟩
    · exact hreads id r hbefore
    · rw [hid]
      exact ((call.written_of_permits hwritten hs hr hpermits).right
        hreads).mpr hreadable

theorem RepositoryCall.perform_of_broken {d : Db} {call : RepositoryCall}
    {s : SecurityStatement} {r : SecurityRecord}
    (hs : call.securityStatement = some s) (hr : s.resulting d = some r)
    (hbroken : ¬ r.CrossFieldRules s.target) : call.perform d = (d, true) := by
  have hnot : ¬ s.Permits d r := fun hpermits =>
    hbroken (checksPass_of_permits hpermits).crossFieldRules
  rcases SecurityStatement.exec_of_not_permits hr hnot with ⟨e, herror⟩
  exact perform_of_error hs herror

/-!
## Whole runs
-/

def RepositoryCall.step (d : Db) (call : RepositoryCall) : Option Db :=
  some (call.run d)

/-- What the builder promises of a security, said of all rows and all writes. -/
structure SubsumesBuilder (d : Db) : Prop where
  decodes : SecuritiesReadBack d
  rules : forall id r, d.securities.find? id = some r -> r.CrossFieldRules id
  refuses : forall (call : RepositoryCall) s r,
    call.securityStatement = some s -> s.resulting d = some r ->
      ¬ r.CrossFieldRules s.target -> call.perform d = (d, true)

theorem subsumesBuilder_iff {d : Db} (h : SecuritiesWritten d) :
    SubsumesBuilder d <-> SecuritiesReadBack d := by
  constructor
  · exact SubsumesBuilder.decodes
  · intro hreads
    exact
      { decodes := hreads
        rules := fun id r hrow => (h id r hrow).checks.crossFieldRules
        refuses := fun call s r hs hr hbroken =>
          call.perform_of_broken hs hr hbroken }

theorem securitiesWritten_empty : SecuritiesWritten Db.empty := by
  intro id r h
  cases h

/--
Along any writes on an empty database, the table subsumes the builder in every
state exactly when every call stores only what can be read again.
-/
theorem subsumesBuilder_along_iff (calls : List RepositoryCall) :
    (forall past d, past <+: calls ->
      runFrom RepositoryCall.step Db.empty past = some d ->
        SubsumesBuilder d) <->
    StepsMeet RepositoryCall.step (fun d call => call.StoresReadable d)
      Db.empty calls := by
  apply invariant_along_iff_stepsMeet SecuritiesWritten SubsumesBuilder
  · intro d call d' hwritten hstep
    cases hstep
    exact call.run_written hwritten
  · intro d call hwritten hsubsumes
    rw [← call.run_readsBack_iff hwritten hsubsumes.decodes]
    constructor
    · intro hreads d' hstep
      cases hstep
      exact (subsumesBuilder_iff (call.run_written hwritten)).mpr hreads
    · intro hall
      exact (hall _ rfl).decodes
  · exact securitiesWritten_empty
  · rw [subsumesBuilder_iff securitiesWritten_empty]
    intro id r h
    cases h

/-!
## A year with five digits
-/

def plainRecordIssuer : Issuer where
  id := { uuid := 1 }
  status := .active
  createdAt := { seconds := 0, nanos := 0 }
  name := none
  cnpj := none
  lei := none
  countryCode := none

def farFutureShare : Security where
  id := { uuid := 2 }
  issuerId := { uuid := 1 }
  kind := .commonShare
  status := .active
  createdAt := { seconds := 253402300800, nanos := 0 }
  name := none
  isin := none
  cfi := none
  underlyingSecurityId := none
  drRatio := none

/-- It is stored, and then no read of the row succeeds. -/
theorem farFutureShare_unreadable :
    exists d,
      runFrom RepositoryCall.step Db.empty
        [.insertIssuer plainRecordIssuer, .insertSecurity farFutureShare] =
          some d ∧
      ¬ SubsumesBuilder d := by
  refine ⟨_, rfl, ?_⟩
  intro hsubsumes
  have hrow : (runCalls Db.empty [.insertIssuer plainRecordIssuer,
      .insertSecurity farFutureShare]).securities.find? 2 =
        some (recordOf farFutureShare 1) := by
    decide +kernel
  rcases hsubsumes.decodes 2 _ hrow with ⟨v, hdecoded, _⟩
  have hyear : FourDigitYear farFutureShare.createdAt :=
    (fromRow_recordOf_ok hdecoded).left
  revert hyear
  decide +kernel

end Sqlite
end Valqeron
