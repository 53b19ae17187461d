import Valqeron.Domain.Security
import Valqeron.Sqlite.Columns
import Valqeron.Sqlite.IssuerRepository

/-!
# The SQLite security repository

The statements on `security` with the constraints of the table, the decoding of
its rows, and the operations as programs over the statements and the guards.
-/

namespace Valqeron
namespace Sqlite

open Foundation
open Domain
open Identifiers

/-!
## Constraints of `security`
-/

namespace SecurityRecord

/-- The `CHECK` constraints of a row with their texts, in the order of the table. -/
def checks (id : Uuid) (r : SecurityRecord) : List (String × Truth) :=
  [("kind IN ('COMMON_SHARE', 'PREFERRED_SHARE', 'UNIT', 'DEPOSITARY_RECEIPT')",
      Truth.isIn (some r.kind)
        ["COMMON_SHARE", "PREFERRED_SHARE", "UNIT", "DEPOSITARY_RECEIPT"]),
    ("status IN ('ACTIVE', 'RETIRED')",
      Truth.isIn (some r.status) ["ACTIVE", "RETIRED"]),
    ("cfi IS NULL OR length(cfi) = 6",
      (Truth.isNull r.cfi).or
        (Truth.eq (r.cfi.map String.length) (some 6))),
    ("dr_ratio_receipts IS NULL OR dr_ratio_receipts > 0",
      (Truth.isNull r.drRatioReceipts).or
        (Truth.lt (some 0) r.drRatioReceipts)),
    ("dr_ratio_underlying IS NULL OR dr_ratio_underlying > 0",
      (Truth.isNull r.drRatioUnderlying).or
        (Truth.lt (some 0) r.drRatioUnderlying)),
    ("(dr_ratio_receipts IS NULL) = (dr_ratio_underlying IS NULL)",
      Truth.eq (Truth.isNull r.drRatioReceipts)
        (Truth.isNull r.drRatioUnderlying)),
    ("kind = 'DEPOSITARY_RECEIPT' OR (underlying_security_id IS NULL AND dr_ratio_receipts IS NULL AND dr_ratio_underlying IS NULL)",
      (Truth.eq (some r.kind) (some "DEPOSITARY_RECEIPT")).or
        (((Truth.isNull r.underlyingSecurityId).and
          (Truth.isNull r.drRatioReceipts)).and
            (Truth.isNull r.drRatioUnderlying))),
    ("underlying_security_id IS NULL OR underlying_security_id <> id",
      (Truth.isNull r.underlyingSecurityId).or
        (Truth.eq r.underlyingSecurityId (some id)).not)]

def failedCheck (id : Uuid) (r : SecurityRecord) : Option SqlError :=
  ((r.checks id).find? (fun check => !check.2.passes)).map
    (fun check => .check check.1)

/-- What the constraints of the table say about a row. -/
structure ChecksPass (id : Uuid) (r : SecurityRecord) : Prop where
  kind : r.kind ∈
    ["COMMON_SHARE", "PREFERRED_SHARE", "UNIT", "DEPOSITARY_RECEIPT"]
  status : r.status ∈ ["ACTIVE", "RETIRED"]
  cfi : forall cfi, r.cfi = some cfi -> cfi.length = 6
  receipts : forall n, r.drRatioReceipts = some n -> 0 < n
  underlying : forall n, r.drRatioUnderlying = some n -> 0 < n
  pair : r.drRatioReceipts.isSome = r.drRatioUnderlying.isSome
  receiptOnly : r.kind ≠ "DEPOSITARY_RECEIPT" ->
    r.underlyingSecurityId = none ∧ r.drRatioReceipts = none ∧
      r.drRatioUnderlying = none
  notSelf : r.underlyingSecurityId ≠ some id

theorem failedCheck_eq_none {id : Uuid} {r : SecurityRecord} :
    r.failedCheck id = none <-> r.ChecksPass id := by
  have hall : r.failedCheck id = none <->
      forall check, check ∈ r.checks id -> check.2.passes = true := by
    unfold failedCheck
    rw [Option.map_eq_none_iff, List.find?_eq_none]
    simp
  rw [hall]
  unfold checks
  simp only [List.forall_mem_cons, List.not_mem_nil, Truth.passes_or,
    Truth.passes_and, Truth.passes_isNull, Truth.passes_isIn_some,
    Truth.passes_eq_some, Truth.passes_lt_some, Truth.passes_isNull_eq,
    Truth.passes_not_eq_some]
  constructor
  · intro hgiven
    rcases hgiven with ⟨hkind, hstatus, hcfi, hreceipts, hunderlying, hpair, honly, hself,
      _⟩
    constructor
    · exact hkind
    · exact hstatus
    · intro cfi h
      simpa [h] using hcfi
    · intro n h
      simpa [h] using hreceipts
    · intro n h
      simpa [h] using hunderlying
    · exact hpair
    · intro hne
      simpa [hne, and_assoc] using honly
    · rcases hself with hnone | hne
      · rw [hnone]
        simp
      · exact hne
  · intro h
    refine ⟨h.kind, h.status, ?_, ?_, ?_, h.pair, ?_, Or.inr h.notSelf, ?_⟩
    · cases hcfi : r.cfi with
      | none => simp
      | some cfi => simp [h.cfi cfi hcfi]
    · cases hreceipts : r.drRatioReceipts with
      | none => simp
      | some n => simp [h.receipts n hreceipts]
    · cases hunderlying : r.drRatioUnderlying with
      | none => simp
      | some n => simp [h.underlying n hunderlying]
    · rcases eq_or_ne r.kind "DEPOSITARY_RECEIPT" with heq | hne
      · simp [heq]
      · simp [h.receiptOnly hne]
    · simp

end SecurityRecord

/-- Another row has the same ISIN; `NULL`s never clash. -/
def isinTaken (t : SortedTable Uuid SecurityRecord) (id : Uuid)
    (isin : Option String) : Bool :=
  match isin with
  | none => false
  | some v =>
      t.rows.any (fun entry => entry.1 != id && entry.2.isin == some v)

def securityInsertConflict (t : SortedTable Uuid SecurityRecord) (id : Uuid)
    (r : SecurityRecord) : Option SqlError :=
  if used t SecurityRecord.isin r.isin then
    some (.unique "security.isin")
  else if (t.find? id).isSome then
    some (.primaryKey "security")
  else
    none

/-- The constraint of the table alone that storing the row breaks. -/
def securityConflict (t : SortedTable Uuid SecurityRecord) (id : Uuid)
    (r : SecurityRecord) : Option SqlError :=
  (r.failedCheck id).orElse (fun _ =>
    if isinTaken t id r.isin then some (.unique "security.isin") else none)

/-!
## Statements that write
-/

/-- The nullable columns that every write but a deletion binds. -/
structure SecurityColumns where
  name : Option String
  isin : Option String
  cfi : Option String
  drRatioReceipts : Option Int
  drRatioUnderlying : Option Int
deriving DecidableEq, Repr

inductive SecurityStatement where
  | insertSecurity (id issuerId : Uuid) (kind status createdAt : String)
      (underlyingSecurityId : Option Uuid) (columns : SecurityColumns)
  | patchSecurity (id : Uuid) (status : Option String)
      (columns : SecurityColumns) (expectedVersion : Nat)
  | updateSecurity (id : Uuid) (status : String) (columns : SecurityColumns)
      (expectedVersion : Nat)
  | deleteSecurity (id : Uuid) (expectedVersion : Nat)
deriving DecidableEq, Repr

namespace SecurityColumns

/-- `SET column = ?` for every column. -/
def replace (c : SecurityColumns) (status : String) (r : SecurityRecord) :
    SecurityRecord :=
  { r with
    name := c.name
    status := status
    isin := c.isin
    cfi := c.cfi
    drRatioReceipts := c.drRatioReceipts
    drRatioUnderlying := c.drRatioUnderlying }

/-- `SET column = COALESCE(?, column)` for every column. -/
def coalesce (c : SecurityColumns) (status : Option String)
    (r : SecurityRecord) : SecurityRecord :=
  { r with
    name := c.name.or r.name
    status := status.getD r.status
    isin := c.isin.or r.isin
    cfi := c.cfi.or r.cfi
    drRatioReceipts := c.drRatioReceipts.or r.drRatioReceipts
    drRatioUnderlying := c.drRatioUnderlying.or r.drRatioUnderlying }

end SecurityColumns

namespace Db

def storeSecurity (d : Db) (id : Uuid) (r : SecurityRecord) : Db :=
  { d with securities := d.securities.insert id r }

def securityAt (d : Db) (id : Uuid) (expectedVersion : Nat) :
    Option SecurityRecord :=
  (d.securities.find? id).filter (fun r => r.version == expectedVersion)

/-- The two foreign keys of a row, looked up at the end of the statement. -/
def referencesExist (d : Db) (r : SecurityRecord) : Bool :=
  (d.issuers.find? r.issuerId).isSome &&
    match r.underlyingSecurityId with
    | none => true
    | some underlying => (d.securities.find? underlying).isSome

def isReferenced (d : Db) (id : Uuid) : Bool :=
  d.securities.rows.any (fun entry =>
    entry.2.underlyingSecurityId == some id)

/-- The foreign key columns are not among those that an update sets. -/
def updateSecurityWhere (d : Db) (id : Uuid) (expectedVersion : Nat)
    (set : SecurityRecord -> SecurityRecord) : Except SqlError (Db × Nat) :=
  match d.securityAt id expectedVersion with
  | none => .ok (d, 0)
  | some r =>
      let r' := { set r with version := r.version + 1 }
      match securityConflict d.securities id r' with
      | some e => .error e
      | none => .ok (d.storeSecurity id r', 1)

end Db

namespace SecurityStatement

def exec (d : Db) : SecurityStatement -> Except SqlError (Db × Nat)
  | insertSecurity id issuerId kind status createdAt underlying columns =>
      let r : SecurityRecord :=
        { issuerId := issuerId
          name := columns.name
          kind := kind
          status := status
          createdAt := createdAt
          version := 1
          isin := columns.isin
          cfi := columns.cfi
          underlyingSecurityId := underlying
          drRatioReceipts := columns.drRatioReceipts
          drRatioUnderlying := columns.drRatioUnderlying }
      match r.failedCheck id with
      | some e => .error e
      | none =>
          match securityInsertConflict d.securities id r with
          | some e => .error e
          | none =>
              if (d.storeSecurity id r).referencesExist r then
                .ok (d.storeSecurity id r, 1)
              else
                .error .foreignKey
  | patchSecurity id status columns expectedVersion =>
      d.updateSecurityWhere id expectedVersion (columns.coalesce status)
  | updateSecurity id status columns expectedVersion =>
      d.updateSecurityWhere id expectedVersion (columns.replace status)
  | deleteSecurity id expectedVersion =>
      match d.securityAt id expectedVersion with
      | none => .ok (d, 0)
      | some _ =>
          let d' := { d with securities := d.securities.erase id }
          if d'.isReferenced id then .error .foreignKey else .ok (d', 1)

def target : SecurityStatement -> Uuid
  | insertSecurity id _ _ _ _ _ _ => id
  | patchSecurity id _ _ _ => id
  | updateSecurity id _ _ _ => id
  | deleteSecurity id _ => id

def expectedVersion : SecurityStatement -> Option Nat
  | insertSecurity _ _ _ _ _ _ _ => none
  | patchSecurity _ _ _ v => some v
  | updateSecurity _ _ _ v => some v
  | deleteSecurity _ v => some v

def inserted : SecurityStatement -> Option SecurityRecord
  | insertSecurity _ issuerId kind status createdAt underlying columns =>
      some
        { issuerId := issuerId
          name := columns.name
          kind := kind
          status := status
          createdAt := createdAt
          version := 1
          isin := columns.isin
          cfi := columns.cfi
          underlyingSecurityId := underlying
          drRatioReceipts := columns.drRatioReceipts
          drRatioUnderlying := columns.drRatioUnderlying }
  | _ => none

def assigned : SecurityStatement -> Option (SecurityRecord -> SecurityRecord)
  | patchSecurity _ status columns _ => some (columns.coalesce status)
  | updateSecurity _ status columns _ => some (columns.replace status)
  | _ => none

inductive Effect (s : SecurityStatement) (d : Db) :
    Except SqlError (Db × Nat) -> Prop where
  | failed (e : SqlError) : Effect s d (.error e)
  | missed (v : Nat) (hversion : s.expectedVersion = some v)
      (hnone : d.securityAt s.target v = none) : Effect s d (.ok (d, 0))
  | inserted (r : SecurityRecord) (hrow : s.inserted = some r)
      (hfree : d.securities.find? s.target = none)
      (hok : securityConflict d.securities s.target r = none)
      (hreferences : (d.storeSecurity s.target r).referencesExist r = true) :
      Effect s d (.ok (d.storeSecurity s.target r, 1))
  | updated (v : Nat) (set : SecurityRecord -> SecurityRecord)
      (r : SecurityRecord) (hversion : s.expectedVersion = some v)
      (hset : s.assigned = some set) (hrow : d.securityAt s.target v = some r)
      (hok : securityConflict d.securities s.target
        { set r with version := r.version + 1 } = none) :
      Effect s d
        (.ok (d.storeSecurity s.target
          { set r with version := r.version + 1 }, 1))
  | erased (v : Nat) (r : SecurityRecord)
      (hversion : s.expectedVersion = some v)
      (hrow : d.securityAt s.target v = some r)
      (hfree : Db.isReferenced
        { d with securities := d.securities.erase s.target } s.target =
          false) :
      Effect s d
        (.ok ({ d with securities := d.securities.erase s.target }, 1))

end SecurityStatement

theorem Db.securityAt_eq_some {d : Db} {id : Uuid} {expectedVersion : Nat}
    {r : SecurityRecord} :
    d.securityAt id expectedVersion = some r <->
      d.securities.find? id = some r ∧ r.version = expectedVersion :=
  SortedTable.rowAt_eq_some

theorem isinTaken_eq_taken (t : SortedTable Uuid SecurityRecord) (id : Uuid)
    (isin : Option String) :
    isinTaken t id isin = taken t id SecurityRecord.isin isin := rfl

theorem Db.updateSecurityWhere_eq (d : Db) (id : Uuid) (expectedVersion : Nat)
    (set : SecurityRecord -> SecurityRecord) :
    d.updateSecurityWhere id expectedVersion set =
      writeRow d (d.securityAt id expectedVersion)
        (fun r => securityConflict d.securities id
          { set r with version := r.version + 1 })
        (fun r => d.storeSecurity id
          { set r with version := r.version + 1 }) := by
  unfold Db.updateSecurityWhere writeRow
  cases d.securityAt id expectedVersion with
  | none => rfl
  | some r =>
      simp only
      cases securityConflict d.securities id
          { set r with version := r.version + 1 } with
      | some e => rfl
      | none => rfl

theorem SecurityStatement.exec_deleteSecurity (d : Db) (id : Uuid)
    (expectedVersion : Nat) :
    (SecurityStatement.deleteSecurity id expectedVersion).exec d =
      writeRow d (d.securityAt id expectedVersion)
        (fun _ =>
          if Db.isReferenced { d with securities := d.securities.erase id }
              id then
            some .foreignKey
          else
            none)
        (fun _ => { d with securities := d.securities.erase id }) := by
  unfold SecurityStatement.exec writeRow
  simp only
  cases d.securityAt id expectedVersion with
  | none => rfl
  | some r =>
      simp only
      cases Db.isReferenced { d with securities := d.securities.erase id }
          id with
      | true => rfl
      | false => rfl

theorem securityConflict_eq_none {t : SortedTable Uuid SecurityRecord}
    {id : Uuid} {r : SecurityRecord} :
    securityConflict t id r = none <->
      r.failedCheck id = none ∧ isinTaken t id r.isin = false := by
  unfold securityConflict
  cases r.failedCheck id with
  | none => simp
  | some e => simp

theorem securityInsertConflict_eq_none {t : SortedTable Uuid SecurityRecord}
    {id : Uuid} {r : SecurityRecord} :
    securityInsertConflict t id r = none <->
      t.find? id = none ∧ isinTaken t id r.isin = false := by
  cases hkey : t.find? id with
  | some r' =>
      unfold securityInsertConflict
      cases used t SecurityRecord.isin r.isin with
      | true => simp
      | false => simp [hkey]
  | none =>
      unfold securityInsertConflict
      simp [hkey, isinTaken_eq_taken, used_eq_taken hkey]

theorem Db.updateSecurityWhere_effect {s : SecurityStatement} (d : Db)
    {v : Nat} {set : SecurityRecord -> SecurityRecord}
    (hversion : s.expectedVersion = some v) (hset : s.assigned = some set) :
    s.Effect d (d.updateSecurityWhere s.target v set) := by
  unfold Db.updateSecurityWhere
  cases hrow : d.securityAt s.target v with
  | none => exact .missed v hversion hrow
  | some r =>
      simp only
      split
      · exact .failed _
      · rename_i hok
        exact .updated v set r hversion hset hrow hok

theorem SecurityStatement.exec_effect (s : SecurityStatement) (d : Db) :
    s.Effect d (s.exec d) := by
  cases s with
  | insertSecurity id issuerId kind status createdAt underlying columns =>
      unfold SecurityStatement.exec
      simp only
      split
      · exact .failed _
      · rename_i hcheck
        split
        · exact .failed _
        · rename_i hconflict
          rcases securityInsertConflict_eq_none.mp hconflict with
            ⟨hfree, hunique⟩
          split
          · rename_i hreferences
            apply Effect.inserted
            · rfl
            · exact hfree
            · exact securityConflict_eq_none.mpr ⟨hcheck, hunique⟩
            · exact hreferences
          · exact .failed _
  | patchSecurity id status columns expectedVersion =>
      exact Db.updateSecurityWhere_effect d rfl rfl
  | updateSecurity id status columns expectedVersion =>
      exact Db.updateSecurityWhere_effect d rfl rfl
  | deleteSecurity id expectedVersion =>
      unfold SecurityStatement.exec
      simp only
      split
      · rename_i hnone
        exact .missed expectedVersion rfl hnone
      · rename_i r hrow
        split
        · exact .failed _
        · rename_i hfree
          exact .erased expectedVersion r rfl hrow
            (Bool.eq_false_iff.mpr hfree)

def SecurityStatement.apply (s : SecurityStatement) (d : Db) :
    Db × Except SqlError Nat :=
  match s.exec d with
  | .ok (d', n) => (d', .ok n)
  | .error e => (d, .error e)

/-!
## Rows read back
-/

/-- The schema enforces the same pairing with a `CHECK` constraint. -/
def drRatioPairError : String :=
  "dr_ratio columns must be both set or both NULL"

def columnOptU32 (column : String) :
    Option Int -> Except SqlError (Option UInt32)
  | none => .ok none
  | some n => (columnU32 column n).map some

def columnKind (raw : String) : Except SqlError SecurityKind :=
  conversionFailure SecurityKindError.message (SecurityKind.fromStr raw)

def columnStatus (raw : String) : Except SqlError SecurityStatus :=
  conversionFailure SecurityStatusError.message (SecurityStatus.fromStr raw)

def columnOptDrRatio (receipts underlying : Option Int) :
    Except SqlError (Option DepositaryReceiptRatio) := do
  let receipts ← columnOptU32 "dr_ratio_receipts" receipts
  let underlying ← columnOptU32 "dr_ratio_underlying" underlying
  match receipts, underlying with
  | some receipts, some underlying =>
      (conversionFailure DrRatioError.message
        (DepositaryReceiptRatio.new receipts underlying)).map some
  | none, none => .ok none
  | _, _ => .error (.other drRatioPairError)

def SecurityRow.fromRow (row : SecurityEntry) :
    Except SqlError (Versioned Security) := do
  let kind ← columnKind row.2.kind
  let status ← columnStatus row.2.status
  let createdAt ← columnDatetime row.2.createdAt
  let name ← columnOpt SecurityNameError.message SecurityName.new row.2.name
  let isin ← columnOpt IsinError.message Isin.new row.2.isin
  let cfi ← columnOpt CfiError.message Cfi.parse row.2.cfi
  let drRatio ← columnOptDrRatio row.2.drRatioReceipts row.2.drRatioUnderlying
  let version ← columnU32 "version" row.2.version
  return {
    data := Security.reconstitute
      { id := { uuid := row.1 }
        issuerId := { uuid := row.2.issuerId }
        kind := kind
        status := status
        createdAt := createdAt
        name := name
        isin := isin
        cfi := cfi
        underlyingSecurityId :=
          row.2.underlyingSecurityId.map SecurityId.mk
        drRatio := drRatio }
    version := version.toNat }

/-!
## Statements that read
-/

inductive SecurityQuery where
  | securityById (id : Uuid)
  | securityByIsin (isin : String)
  | securities
  | securitiesByIssuer (issuerId : Uuid)
  | securityPage (after : Option Uuid) (limit : Nat)
  | securityExists (id : Uuid)
  | securityExistsByIsin (isin : String)
  | securityVersion (id : Uuid)
deriving DecidableEq, Repr

namespace SecurityQuery

def Answer : SecurityQuery -> Type
  | securityById _ => Option SecurityEntry
  | securityByIsin _ => Option SecurityEntry
  | securities => List SecurityEntry
  | securitiesByIssuer _ => List SecurityEntry
  | securityPage _ _ => List SecurityEntry
  | securityExists _ => Bool
  | securityExistsByIsin _ => Bool
  | securityVersion _ => Option Nat

def eval (d : Db) : (q : SecurityQuery) -> q.Answer
  | securityById id => (d.securities.find? id).map (fun r => (id, r))
  | securityByIsin isin =>
      d.securities.rows.find? (fun entry => entry.2.isin == some isin)
  | securities => d.securities.rows
  | securitiesByIssuer issuerId => d.securitiesOf issuerId
  | securityPage after limit => d.securities.page after limit
  | securityExists id => (d.securities.find? id).isSome
  | securityExistsByIsin isin =>
      d.securities.rows.any (fun entry => entry.2.isin == some isin)
  | securityVersion id =>
      (d.securities.find? id).map SecurityRecord.version

end SecurityQuery

inductive SecurityCommand where
  /-- `Db::read` or `Db::write`. -/
  | takeGuard (role : ConnectionRole)
  /-- The guard goes out of scope. -/
  | dropGuard (role : ConnectionRole)
  | query (role : ConnectionRole) (q : SecurityQuery)
  | execute (s : SecurityStatement)
deriving DecidableEq, Repr

def SecurityResponse : SecurityCommand -> Type
  | .takeGuard _ => Unit
  | .dropGuard _ => Unit
  | .query _ q => Except SqlError q.Answer
  | .execute _ => Except SqlError Nat

abbrev SecurityProgram := Program SecurityCommand SecurityResponse

def SecurityCommand.onDb (d : Db) :
    (c : SecurityCommand) -> Db × SecurityResponse c
  | .takeGuard _ => (d, ())
  | .dropGuard _ => (d, ())
  | .query _ q => (d, .ok (q.eval d))
  | .execute s => s.apply d

/-!
## The repository
-/

def insertSecurityStatement (security : Security) : SecurityStatement :=
  .insertSecurity security.id.uuid security.issuerId.uuid
    security.kind.asStr security.status.asStr
    (canonicalTimestamp security.createdAt)
    (security.underlyingSecurityId.map SecurityId.uuid)
    { name := security.name.map SecurityName.asStr
      isin := security.isin.map Isin.asStr
      cfi := security.cfi.map Cfi.asStr
      drRatioReceipts :=
        security.drRatio.map (fun r => (r.receipts.toNat : Int))
      drRatioUnderlying :=
        security.drRatio.map (fun r => (r.underlying.toNat : Int)) }

def patchSecurityStatement (id : SecurityId) (expectedVersion : Nat)
    (patch : SecurityPatch) : SecurityStatement :=
  .patchSecurity id.uuid (patch.status.map SecurityStatus.asStr)
    { name := patch.name.map SecurityName.asStr
      isin := patch.isin.map Isin.asStr
      cfi := patch.cfi.map Cfi.asStr
      drRatioReceipts := patch.drRatio.map (fun r => (r.receipts.toNat : Int))
      drRatioUnderlying :=
        patch.drRatio.map (fun r => (r.underlying.toNat : Int)) }
    expectedVersion

def updateSecurityStatement (security : Security) (expectedVersion : Nat) :
    SecurityStatement :=
  .updateSecurity security.id.uuid security.status.asStr
    { name := security.name.map SecurityName.asStr
      isin := security.isin.map Isin.asStr
      cfi := security.cfi.map Cfi.asStr
      drRatioReceipts :=
        security.drRatio.map (fun r => (r.receipts.toNat : Int))
      drRatioUnderlying :=
        security.drRatio.map (fun r => (r.underlying.toNat : Int)) }
    expectedVersion

def deleteSecurityStatement (id : SecurityId) (expectedVersion : Nat) :
    SecurityStatement :=
  .deleteSecurity id.uuid expectedVersion

namespace SqliteSecurityRepository

def readWith {value : Type} (q : SecurityQuery)
    (decode : q.Answer -> Except SqlError value) :
    SecurityProgram (Except StorageFault value) :=
  Program.bracket (.takeGuard .reader) (.dropGuard .reader) (do
    let answer ← Program.perform (SecurityCommand.query .reader q)
    match answer with
    | .error e => pure (.error (backend e))
    | .ok rows => pure ((decode rows).mapError backend))

def fromRowOpt : Option SecurityEntry ->
    Except SqlError (Option (Versioned Security))
  | none => .ok none
  | some row => (SecurityRow.fromRow row).map some

def findById (id : SecurityId) :
    SecurityProgram (Except StorageFault (Option (Versioned Security))) :=
  readWith (.securityById id.uuid) fromRowOpt

def findByIsin (isin : Isin) :
    SecurityProgram (Except StorageFault (Option (Versioned Security))) :=
  readWith (.securityByIsin isin.asStr) fromRowOpt

def listAll :
    SecurityProgram (Except StorageFault (List (Versioned Security))) :=
  readWith .securities (fun rows => rows.mapM SecurityRow.fromRow)

def listByIssuer (issuerId : IssuerId) :
    SecurityProgram (Except StorageFault (List (Versioned Security))) :=
  readWith (.securitiesByIssuer issuerId.uuid)
    (fun rows => rows.mapM SecurityRow.fromRow)

def listPaged (after : Option SecurityId) (limit : Nat) :
    SecurityProgram (Except StorageFault (List (Versioned Security))) :=
  readWith (.securityPage (after.map SecurityId.uuid) limit)
    (fun rows => rows.mapM SecurityRow.fromRow)

def exists_ (id : SecurityId) :
    SecurityProgram (Except StorageFault Bool) :=
  readWith (.securityExists id.uuid) .ok

def existsByIsin (isin : Isin) :
    SecurityProgram (Except StorageFault Bool) :=
  readWith (.securityExistsByIsin isin.asStr) .ok

def isBusy {value : Type} : Except SqlError value -> Bool
  | .error e => isBusyOrLocked e
  | .ok _ => false

/-- `with_busy_retry` around an attempt under a writer guard. -/
def writeWith {value : Type}
    (attempt : SecurityProgram (Except SqlError value)) :
    SecurityProgram (Except StorageFault value) := do
  let r ← Program.retryWhile isBusy
    (Program.bracket (.takeGuard .writer) (.dropGuard .writer) attempt)
    (busyMaxAttempts - 1)
  pure (r.mapError backend)

/-- `write_outcome` with `SECURITY_VERSION_SQL`. -/
def writeOutcome (id : Uuid) (expectedVersion : Nat) :
    SecurityProgram (Except SqlError WriteOutcome) := do
  let actual ← Program.perform
    (SecurityCommand.query .writer (.securityVersion id))
  match actual with
  | .error e => pure (.error e)
  | .ok actual => pure (zeroRowsOutcome expectedVersion actual)

/-- A write that affected no row asks for the version again. -/
def outcomeOf (id : Uuid) (expectedVersion : Nat) :
    Except SqlError Nat -> SecurityProgram (Except SqlError WriteOutcome)
  | .error e => pure (.error e)
  | .ok 0 => writeOutcome id expectedVersion
  | .ok _ => pure (.ok .applied)

def guardedWrite (s : SecurityStatement) (id : Uuid)
    (expectedVersion : Nat) :
    SecurityProgram (Except StorageFault WriteOutcome) :=
  writeWith (do
    let affected ← Program.perform (SecurityCommand.execute s)
    outcomeOf id expectedVersion affected)

def insert (security : Security) :
    SecurityProgram (Except StorageFault Unit) :=
  writeWith (do
    let affected ← Program.perform
      (SecurityCommand.execute (insertSecurityStatement security))
    pure (Except.map (fun _ => ()) affected))

def applyPatch (id : SecurityId) (expectedVersion : Nat)
    (patch : SecurityPatch) :
    SecurityProgram (Except StorageFault WriteOutcome) :=
  guardedWrite (patchSecurityStatement id expectedVersion patch) id.uuid
    expectedVersion

def update (security : Security) (expectedVersion : Nat) :
    SecurityProgram (Except StorageFault WriteOutcome) :=
  guardedWrite (updateSecurityStatement security expectedVersion)
    security.id.uuid expectedVersion

def delete (id : SecurityId) (expectedVersion : Nat) :
    SecurityProgram (Except StorageFault WriteOutcome) :=
  guardedWrite (deleteSecurityStatement id expectedVersion) id.uuid
    expectedVersion

end SqliteSecurityRepository

/-!
## Runs on a database that nobody else writes
-/

theorem SecurityRecord.failedCheck_isConstraint {id : Uuid} {r : SecurityRecord}
    {e : SqlError} (h : r.failedCheck id = some e) :
    e.isConstraint = true := by
  unfold SecurityRecord.failedCheck at h
  rcases Option.map_eq_some_iff.mp h with ⟨check, _, rfl⟩
  rfl

theorem securityConflict_isConstraint {t : SortedTable Uuid SecurityRecord}
    {id : Uuid} {r : SecurityRecord} {e : SqlError}
    (h : securityConflict t id r = some e) : e.isConstraint = true := by
  unfold securityConflict at h
  cases hfailed : r.failedCheck id with
  | some e' =>
      rw [hfailed] at h
      cases h
      exact SecurityRecord.failedCheck_isConstraint hfailed
  | none =>
      rw [hfailed, Option.orElse_none] at h
      split at h
      · cases h
        rfl
      · cases h

theorem Db.updateSecurityWhere_isConstraint {d : Db} {id : Uuid} {v : Nat}
    {set : SecurityRecord -> SecurityRecord} {e : SqlError}
    (h : d.updateSecurityWhere id v set = .error e) :
    e.isConstraint = true := by
  rw [Db.updateSecurityWhere_eq] at h
  rcases writeRow_eq_error h with ⟨r, _, hconflict⟩
  exact securityConflict_isConstraint hconflict

theorem securityInsertConflict_isConstraint
    {t : SortedTable Uuid SecurityRecord} {id : Uuid} {r : SecurityRecord}
    {e : SqlError} (h : securityInsertConflict t id r = some e) :
    e.isConstraint = true := by
  unfold securityInsertConflict at h
  split at h
  · cases h
    rfl
  · split at h
    · cases h
      rfl
    · cases h

theorem SecurityStatement.exec_isConstraint {s : SecurityStatement} {d : Db}
    {e : SqlError} (h : s.exec d = .error e) : e.isConstraint = true := by
  cases s with
  | insertSecurity id issuerId kind status createdAt underlying columns =>
      unfold SecurityStatement.exec at h
      simp only at h
      split at h
      · rename_i hfailed
        cases h
        exact SecurityRecord.failedCheck_isConstraint hfailed
      · split at h
        · rename_i hconflict
          cases h
          exact securityInsertConflict_isConstraint hconflict
        · split at h
          · cases h
          · cases h
            rfl
  | patchSecurity id status columns expectedVersion =>
      exact Db.updateSecurityWhere_isConstraint h
  | updateSecurity id status columns expectedVersion =>
      exact Db.updateSecurityWhere_isConstraint h
  | deleteSecurity id expectedVersion =>
      unfold SecurityStatement.exec at h
      simp only at h
      split at h
      · cases h
      · split at h
        · cases h
          rfl
        · cases h

theorem SecurityStatement.exec_not_busy {s : SecurityStatement} {d : Db}
    {e : SqlError} (h : s.exec d = .error e) : isBusyOrLocked e = false :=
  SqlError.not_busy_of_isConstraint (s.exec_isConstraint h)

theorem SecurityStatement.apply_eq_error {s : SecurityStatement} {d : Db}
    {e : SqlError} (h : (s.apply d).2 = .error e) : s.exec d = .error e := by
  unfold SecurityStatement.apply at h
  split at h
  · cases h
  · rename_i hexec
    cases h
    exact hexec

theorem SecurityStatement.apply_error {s : SecurityStatement} {d : Db}
    {e : SqlError} (h : s.exec d = .error e) : s.apply d = (d, .error e) := by
  unfold SecurityStatement.apply
  rw [h]

theorem SecurityStatement.apply_ok {s : SecurityStatement} {d d' : Db}
    {n : Nat} (h : s.exec d = .ok (d', n)) : s.apply d = (d', .ok n) := by
  unfold SecurityStatement.apply
  rw [h]

namespace SqliteSecurityRepository

theorem run_readWith {value : Type} (q : SecurityQuery)
    (decode : q.Answer -> Except SqlError value) (d : Db) :
    (readWith q decode).run SecurityCommand.onDb d =
      (d, (decode (q.eval d)).mapError backend) := by
  unfold readWith
  rw [Program.run_bracket (fun _ => rfl) (fun _ => rfl)]
  rfl

theorem run_writeWith {value : Type}
    {attempt : SecurityProgram (Except SqlError value)} {d : Db}
    (h : forall e, (attempt.run SecurityCommand.onDb d).2 = .error e ->
      isBusyOrLocked e = false) :
    (writeWith attempt).run SecurityCommand.onDb d =
      ((attempt.run SecurityCommand.onDb d).1,
        (attempt.run SecurityCommand.onDb d).2.mapError backend) := by
  have hbracket : (Program.bracket (.takeGuard .writer) (.dropGuard .writer)
      attempt).run SecurityCommand.onDb d =
        attempt.run SecurityCommand.onDb d :=
    Program.run_bracket (fun _ => rfl) (fun _ => rfl) d attempt
  have hquiet : isBusy ((Program.bracket (.takeGuard .writer)
      (.dropGuard .writer) attempt).run SecurityCommand.onDb d).2 =
        false := by
    rw [hbracket]
    cases hresult : (attempt.run SecurityCommand.onDb d).2 with
    | error e => exact h e hresult
    | ok v => rfl
  unfold writeWith
  rw [Program.run_bind, Program.run_retryWhile hquiet, hbracket]
  rfl

theorem run_outcomeOf (id : Uuid) (expectedVersion : Nat)
    (affected : Except SqlError Nat) (d : Db) :
    ((outcomeOf id expectedVersion affected).run SecurityCommand.onDb d).1 =
        d ∧
      forall e,
        ((outcomeOf id expectedVersion affected).run
          SecurityCommand.onDb d).2 = .error e ->
            affected = .error e ∨ isBusyOrLocked e = false := by
  cases affected with
  | error e =>
      refine ⟨rfl, ?_⟩
      intro e' he
      cases he
      exact Or.inl rfl
  | ok n =>
      cases n with
      | zero => exact ⟨rfl, fun e' he => Or.inr (zeroRowsOutcome_not_busy he)⟩
      | succ n =>
          refine ⟨rfl, ?_⟩
          intro e' he
          cases he

theorem run_guardedWrite (s : SecurityStatement) (id : Uuid)
    (expectedVersion : Nat) (d : Db) :
    (guardedWrite s id expectedVersion).run SecurityCommand.onDb d =
      ((s.apply d).1,
        ((outcomeOf id expectedVersion (s.apply d).2).run
          SecurityCommand.onDb (s.apply d).1).2.mapError backend) := by
  have hrun : Program.run SecurityCommand.onDb d (do
      let affected ← Program.perform (SecurityCommand.execute s)
      outcomeOf id expectedVersion affected) =
        Program.run SecurityCommand.onDb (s.apply d).1
          (outcomeOf id expectedVersion (s.apply d).2) := rfl
  have houtcome := run_outcomeOf id expectedVersion (s.apply d).2 (s.apply d).1
  unfold guardedWrite
  rw [run_writeWith, hrun, houtcome.left]
  intro e he
  rw [hrun] at he
  rcases houtcome.right e he with herror | hquiet
  · exact SecurityStatement.exec_not_busy
      (SecurityStatement.apply_eq_error herror)
  · exact hquiet

theorem run_insert (security : Security) (d : Db) :
    (insert security).run SecurityCommand.onDb d =
      (((insertSecurityStatement security).apply d).1,
        ((((insertSecurityStatement security).apply d).2).map
          (fun _ => ())).mapError backend) := by
  unfold insert
  rw [run_writeWith]
  · rfl
  · intro e he
    apply SecurityStatement.exec_not_busy
    apply SecurityStatement.apply_eq_error
    have heq : Except.map (fun _ => ())
        ((insertSecurityStatement security).apply d).2 = .error e := he
    cases hresult : ((insertSecurityStatement security).apply d).2 with
    | error e' =>
        rw [hresult] at heq
        cases heq
        rfl
    | ok n =>
        rw [hresult] at heq
        cases heq

end SqliteSecurityRepository

end Sqlite
end Valqeron
