import Mathlib.Algebra.Order.Ring.Int
import Mathlib.Data.List.Sort
import Valqeron.Domain.Common
import Valqeron.Foundation.ThreeValued
import Valqeron.Foundation.VersionedRow

/-!
# The schema and its statements

The tables `issuer` and `security` as the first migration creates them, with the
statements that the issuer repository sends.  A statement checks the constraints
of the table as SQLite does and, when it fails, leaves the database as it was.
-/

namespace Valqeron
namespace Sqlite

open Foundation
open Domain

inductive SqlError where
  | check (constraint : String)
  | primaryKey (table : String)
  | unique (column : String)
  | foreignKey
  | busy
  | locked
  /-- An `INTEGER` that does not fit the type it is read as. -/
  | integralValueOutOfRange (column : String)
  /-- Everything else, such as I/O errors and interrupts. -/
  | other (message : String)
deriving DecidableEq, Repr

/-- One row of `issuer` without its key. -/
structure IssuerRecord where
  name : Option String
  status : String
  createdAt : String
  version : Nat
  cnpj : Option String
  lei : Option String
  countryCode : Option String
deriving DecidableEq, Repr

structure SecurityRecord where
  issuerId : Uuid
  name : Option String
  kind : String
  status : String
  createdAt : String
  version : Nat
  isin : Option String
  cfi : Option String
  underlyingSecurityId : Option Uuid
  drRatioReceipts : Option Int
  drRatioUnderlying : Option Int
deriving DecidableEq, Repr

structure Db where
  issuers : SortedTable Uuid IssuerRecord
  securities : SortedTable Uuid SecurityRecord
deriving DecidableEq

def Db.empty : Db where
  issuers := .empty
  securities := .empty

/-!
## Constraints of `issuer`
-/

namespace IssuerRecord

def statusCheck (r : IssuerRecord) : Truth :=
  Truth.isIn (some r.status) ["ACTIVE", "RETIRED"]

def countryCodeCheck (r : IssuerRecord) : Truth :=
  (Truth.isNull r.countryCode).or
    (Truth.eq (r.countryCode.map String.length) (some 2))

def cnpjCheck (r : IssuerRecord) : Truth :=
  (Truth.isNull r.cnpj).or (Truth.eq r.countryCode (some "BR"))

/-- The first `CHECK` constraint that is false for the row. -/
def failedCheck (r : IssuerRecord) : Option SqlError :=
  if !r.statusCheck.passes then
    some (.check "status IN ('ACTIVE', 'RETIRED')")
  else if !r.countryCodeCheck.passes then
    some (.check "country_code IS NULL OR length(country_code) = 2")
  else if !r.cnpjCheck.passes then
    some (.check "cnpj IS NULL OR country_code = 'BR'")
  else
    none

end IssuerRecord

/-- Another row has the same value in a `UNIQUE` column; `NULL`s never clash. -/
def taken {record : Type} (t : SortedTable Uuid record) (id : Uuid)
    (column : record -> Option String) (value : Option String) : Bool :=
  match value with
  | none => false
  | some v =>
      t.rows.any (fun entry => entry.1 != id && column entry.2 == some v)

/-- The first `UNIQUE` column in which the row clashes with another one. -/
def uniqueConflict (t : SortedTable Uuid IssuerRecord) (id : Uuid)
    (r : IssuerRecord) : Option SqlError :=
  -- the index that was made last is looked at first
  if taken t id IssuerRecord.lei r.lei then
    some (.unique "issuer.lei")
  else if taken t id IssuerRecord.cnpj r.cnpj then
    some (.unique "issuer.cnpj")
  else
    none

def used {record : Type} (t : SortedTable Uuid record)
    (column : record -> Option String) (value : Option String) : Bool :=
  match value with
  | none => false
  | some v => t.rows.any (fun entry => column entry.2 == some v)

/-- The first key in which a new row clashes; the primary key comes last. -/
def insertConflict (t : SortedTable Uuid IssuerRecord) (id : Uuid)
    (r : IssuerRecord) : Option SqlError :=
  if used t IssuerRecord.lei r.lei then
    some (.unique "issuer.lei")
  else if used t IssuerRecord.cnpj r.cnpj then
    some (.unique "issuer.cnpj")
  else if (t.find? id).isSome then
    some (.primaryKey "issuer")
  else
    none

/-- The constraint that storing the row under its key breaks. -/
def rowConflict (t : SortedTable Uuid IssuerRecord) (id : Uuid)
    (r : IssuerRecord) : Option SqlError :=
  r.failedCheck.orElse (fun _ => uniqueConflict t id r)

/-!
## Statements that write
-/

/-- The parameters of the four statements; absent ones are bound to `NULL`. -/
inductive Statement where
  | insertIssuer (id : Uuid) (name : Option String)
      (status createdAt : String) (cnpj lei countryCode : Option String)
  | patchIssuer (id : Uuid) (name status cnpj lei countryCode : Option String)
      (expectedVersion : Nat)
  | updateIssuer (id : Uuid) (name : Option String) (status : String)
      (cnpj lei countryCode : Option String) (expectedVersion : Nat)
  | deleteIssuer (id : Uuid) (expectedVersion : Nat)
deriving DecidableEq, Repr

namespace Db

def storeIssuer (d : Db) (id : Uuid) (r : IssuerRecord) : Db :=
  { d with issuers := d.issuers.insert id r }

/-- The row that `WHERE id = ?1 AND version = ?` selects. -/
def issuerAt (d : Db) (id : Uuid) (expectedVersion : Nat) :
    Option IssuerRecord :=
  (d.issuers.find? id).filter (fun r => r.version == expectedVersion)

/-- `UPDATE issuer SET .., version = version + 1 WHERE id = ? AND version = ?`. -/
def updateIssuerWhere (d : Db) (id : Uuid) (expectedVersion : Nat)
    (set : IssuerRecord -> IssuerRecord) : Except SqlError (Db × Nat) :=
  match d.issuerAt id expectedVersion with
  | none => .ok (d, 0)
  | some r =>
      let r' := { set r with version := r.version + 1 }
      match rowConflict d.issuers id r' with
      | some e => .error e
      | none => .ok (d.storeIssuer id r', 1)

/-- `COALESCE(?, column)` for every column that the patch names. -/
def coalesce (name status cnpj lei countryCode : Option String)
    (r : IssuerRecord) : IssuerRecord :=
  { r with
    name := name.or r.name
    status := status.getD r.status
    cnpj := cnpj.or r.cnpj
    lei := lei.or r.lei
    countryCode := countryCode.or r.countryCode }

end Db

/-- The database and the number of affected rows, or the error. -/
def Statement.exec (d : Db) : Statement -> Except SqlError (Db × Nat)
  | .insertIssuer id name status createdAt cnpj lei countryCode =>
      let r : IssuerRecord :=
        { name := name
          status := status
          createdAt := createdAt
          version := 1
          cnpj := cnpj
          lei := lei
          countryCode := countryCode }
      match r.failedCheck with
      | some e => .error e
      | none =>
          match insertConflict d.issuers id r with
          | some e => .error e
          | none => .ok (d.storeIssuer id r, 1)
  | .patchIssuer id name status cnpj lei countryCode expectedVersion =>
      d.updateIssuerWhere id expectedVersion
        (Db.coalesce name status cnpj lei countryCode)
  | .updateIssuer id name status cnpj lei countryCode expectedVersion =>
      d.updateIssuerWhere id expectedVersion (fun r =>
        { r with
          name := name
          status := status
          cnpj := cnpj
          lei := lei
          countryCode := countryCode })
  | .deleteIssuer id expectedVersion =>
      match d.issuerAt id expectedVersion with
      | none => .ok (d, 0)
      | some _ =>
          if d.securities.rows.any (fun entry => entry.2.issuerId == id) then
            .error .foreignKey
          else
            .ok ({ d with issuers := d.issuers.erase id }, 1)

namespace Statement

def target : Statement -> Uuid
  | insertIssuer id _ _ _ _ _ _ => id
  | patchIssuer id _ _ _ _ _ _ => id
  | updateIssuer id _ _ _ _ _ _ => id
  | deleteIssuer id _ => id

/-- The version that the row must have; an insertion asks for none. -/
def expectedVersion : Statement -> Option Nat
  | insertIssuer _ _ _ _ _ _ _ => none
  | patchIssuer _ _ _ _ _ _ v => some v
  | updateIssuer _ _ _ _ _ _ v => some v
  | deleteIssuer _ v => some v

def inserted : Statement -> Option IssuerRecord
  | insertIssuer _ name status createdAt cnpj lei countryCode =>
      some
        { name := name
          status := status
          createdAt := createdAt
          version := 1
          cnpj := cnpj
          lei := lei
          countryCode := countryCode }
  | _ => none

/-- What an update makes of the columns of the row. -/
def assigned : Statement -> Option (IssuerRecord -> IssuerRecord)
  | patchIssuer _ name status cnpj lei countryCode _ =>
      some (Db.coalesce name status cnpj lei countryCode)
  | updateIssuer _ name status cnpj lei countryCode _ =>
      some (fun r =>
        { r with
          name := name
          status := status
          cnpj := cnpj
          lei := lei
          countryCode := countryCode })
  | _ => none

/-- Everything that a statement can do to the database. -/
inductive Effect (s : Statement) (d : Db) :
    Except SqlError (Db × Nat) -> Prop where
  | failed (e : SqlError) : Effect s d (.error e)
  | missed (v : Nat) (hversion : s.expectedVersion = some v)
      (hnone : d.issuerAt s.target v = none) : Effect s d (.ok (d, 0))
  | inserted (r : IssuerRecord) (hrow : s.inserted = some r)
      (hfree : d.issuers.find? s.target = none)
      (hok : rowConflict d.issuers s.target r = none) :
      Effect s d (.ok (d.storeIssuer s.target r, 1))
  | updated (v : Nat) (set : IssuerRecord -> IssuerRecord)
      (r : IssuerRecord) (hversion : s.expectedVersion = some v)
      (hset : s.assigned = some set) (hrow : d.issuerAt s.target v = some r)
      (hok : rowConflict d.issuers s.target
        { set r with version := r.version + 1 } = none) :
      Effect s d
        (.ok (d.storeIssuer s.target
          { set r with version := r.version + 1 }, 1))
  | erased (v : Nat) (r : IssuerRecord)
      (hversion : s.expectedVersion = some v)
      (hrow : d.issuerAt s.target v = some r) :
      Effect s d
        (.ok ({ d with issuers := d.issuers.erase s.target }, 1))

end Statement

theorem Db.issuerAt_eq_some {d : Db} {id : Uuid} {expectedVersion : Nat}
    {r : IssuerRecord} :
    d.issuerAt id expectedVersion = some r <->
      d.issuers.find? id = some r ∧ r.version = expectedVersion :=
  SortedTable.rowAt_eq_some

theorem Db.find?_storeIssuer {d : Db} {id k : Uuid} {r r' : IssuerRecord}
    (h : (d.storeIssuer id r).issuers.find? k = some r') :
    (k = id ∧ r' = r) ∨ d.issuers.find? k = some r' := by
  rcases eq_or_ne k id with hk | hk
  · subst hk
    left
    have hr : some r = some r' := by
      rw [← h]
      exact (SortedTable.find?_insert_self d.issuers k r).symm
    exact ⟨rfl, (Option.some.inj hr).symm⟩
  · right
    rw [← h]
    exact (SortedTable.find?_insert_of_ne d.issuers hk r).symm

theorem Db.find?_eraseIssuer {d : Db} {id k : Uuid} {r : IssuerRecord}
    (h : (d.issuers.erase id).find? k = some r) :
    d.issuers.find? k = some r := by
  rcases eq_or_ne k id with hk | hk
  · subst hk
    rw [SortedTable.find?_erase_self] at h
    cases h
  · rwa [SortedTable.find?_erase_of_ne d.issuers hk] at h

theorem rowConflict_eq_none {t : SortedTable Uuid IssuerRecord} {id : Uuid}
    {r : IssuerRecord} :
    rowConflict t id r = none <->
      r.failedCheck = none ∧ uniqueConflict t id r = none := by
  unfold rowConflict
  cases r.failedCheck with
  | none => simp
  | some e => simp

theorem used_eq_taken {record : Type} {t : SortedTable Uuid record} {id : Uuid}
    (hfree : t.find? id = none) (column : record -> Option String)
    (value : Option String) : used t column value = taken t id column value := by
  cases value with
  | none => rfl
  | some v =>
      unfold used taken
      rw [Bool.eq_iff_iff, List.any_eq_true, List.any_eq_true]
      refine exists_congr (fun entry => and_congr_right (fun hmem => ?_))
      have hrow := (SortedTable.find?_eq_some_iff _ entry.1 entry.2).mpr hmem
      have hne : entry.1 ≠ id := by
        intro heq
        rw [heq, hfree] at hrow
        cases hrow
      simp [hne]

theorem insertConflict_eq_none {t : SortedTable Uuid IssuerRecord} {id : Uuid}
    {r : IssuerRecord} :
    insertConflict t id r = none <->
      t.find? id = none ∧ uniqueConflict t id r = none := by
  cases hkey : t.find? id with
  | some r' =>
      unfold insertConflict
      cases used t IssuerRecord.lei r.lei with
      | true => simp
      | false =>
          cases used t IssuerRecord.cnpj r.cnpj with
          | true => simp
          | false => simp [hkey]
  | none =>
      unfold insertConflict uniqueConflict
      simp [hkey, used_eq_taken hkey]

theorem Db.updateIssuerWhere_eq (d : Db) (id : Uuid) (expectedVersion : Nat)
    (set : IssuerRecord -> IssuerRecord) :
    d.updateIssuerWhere id expectedVersion set =
      writeRow d (d.issuerAt id expectedVersion)
        (fun r => rowConflict d.issuers id
          { set r with version := r.version + 1 })
        (fun r => d.storeIssuer id
          { set r with version := r.version + 1 }) := by
  unfold Db.updateIssuerWhere writeRow
  cases d.issuerAt id expectedVersion with
  | none => rfl
  | some r =>
      simp only
      cases rowConflict d.issuers id
          { set r with version := r.version + 1 } with
      | some e => rfl
      | none => rfl

theorem Statement.exec_deleteIssuer (d : Db) (id : Uuid)
    (expectedVersion : Nat) :
    (Statement.deleteIssuer id expectedVersion).exec d =
      writeRow d (d.issuerAt id expectedVersion)
        (fun _ =>
          if d.securities.rows.any (fun entry => entry.2.issuerId == id) then
            some .foreignKey
          else
            none)
        (fun _ => { d with issuers := d.issuers.erase id }) := by
  unfold Statement.exec writeRow
  simp only
  cases d.issuerAt id expectedVersion with
  | none => rfl
  | some r =>
      simp only
      cases d.securities.rows.any (fun entry => entry.2.issuerId == id) with
      | true => rfl
      | false => rfl

theorem Db.updateIssuerWhere_effect {s : Statement} (d : Db) {v : Nat}
    {set : IssuerRecord -> IssuerRecord}
    (hversion : s.expectedVersion = some v) (hset : s.assigned = some set) :
    s.Effect d (d.updateIssuerWhere s.target v set) := by
  unfold Db.updateIssuerWhere
  cases hrow : d.issuerAt s.target v with
  | none => exact .missed v hversion hrow
  | some r =>
      simp only
      split
      · exact .failed _
      · rename_i hok
        exact .updated v set r hversion hset hrow hok

theorem Statement.exec_effect (s : Statement) (d : Db) :
    s.Effect d (s.exec d) := by
  cases s with
  | insertIssuer id name status createdAt cnpj lei countryCode =>
      unfold Statement.exec
      simp only
      split
      · exact .failed _
      · rename_i hcheck
        split
        · exact .failed _
        · rename_i hconflict
          rcases insertConflict_eq_none.mp hconflict with ⟨hfree, hunique⟩
          apply Effect.inserted
          · rfl
          · exact hfree
          · exact rowConflict_eq_none.mpr ⟨hcheck, hunique⟩
  | patchIssuer id name status cnpj lei countryCode expectedVersion =>
      exact Db.updateIssuerWhere_effect d rfl rfl
  | updateIssuer id name status cnpj lei countryCode expectedVersion =>
      exact Db.updateIssuerWhere_effect d rfl rfl
  | deleteIssuer id expectedVersion =>
      unfold Statement.exec
      simp only
      split
      · rename_i hnone
        exact .missed expectedVersion rfl hnone
      · rename_i r hrow
        split
        · exact .failed _
        · exact .erased expectedVersion r rfl hrow

/-!
## Statements that read
-/

inductive Query where
  | issuerById (id : Uuid)
  | issuers
  | issuerPage (after : Option Uuid) (limit : Nat)
  | issuerExists (id : Uuid)
  | issuerExistsByCnpj (cnpj : String)
  | issuerExistsByLei (lei : String)
  | issuerVersion (id : Uuid)
  | securitiesByIssuer (id : Uuid)
  | securitiesForAllIssuers
  | securitiesForIssuerPage (after : Option Uuid) (limit : Nat)
deriving DecidableEq, Repr

abbrev IssuerEntry := Uuid × IssuerRecord

abbrev SecurityEntry := Uuid × SecurityRecord

def Query.Answer : Query -> Type
  | issuerById _ => Option IssuerEntry
  | issuers => List IssuerEntry
  | issuerPage _ _ => List IssuerEntry
  | issuerExists _ => Bool
  | issuerExistsByCnpj _ => Bool
  | issuerExistsByLei _ => Bool
  | issuerVersion _ => Option Nat
  | securitiesByIssuer _ => List SecurityEntry
  | securitiesForAllIssuers => List SecurityEntry
  | securitiesForIssuerPage _ _ => List SecurityEntry

/-- `ORDER BY s.issuer_id, s.id`. -/
def securityOrder (a b : SecurityEntry) : Bool :=
  decide (a.2.issuerId < b.2.issuerId ∨
    a.2.issuerId = b.2.issuerId ∧ a.1 <= b.1)

def Db.securitiesOf (d : Db) (issuer : Uuid) : List SecurityEntry :=
  d.securities.rows.filter (fun s => s.2.issuerId == issuer)

def Db.securitiesForAllIssuers (d : Db) : List SecurityEntry :=
  d.securities.rows.mergeSort securityOrder

/-- The join with the page, which is evaluated anew. -/
def Db.securitiesForIssuerPage (d : Db) (after : Option Uuid) (limit : Nat) :
    List SecurityEntry :=
  let page := (d.issuers.page after limit).map Prod.fst
  (d.securities.rows.filter (fun s => page.contains s.2.issuerId)).mergeSort
    securityOrder

def Query.eval (d : Db) : (q : Query) -> q.Answer
  | issuerById id => (d.issuers.find? id).map (fun r => (id, r))
  | issuers => d.issuers.rows
  | issuerPage after limit => d.issuers.page after limit
  | issuerExists id => (d.issuers.find? id).isSome
  | issuerExistsByCnpj cnpj =>
      d.issuers.rows.any (fun entry => entry.2.cnpj == some cnpj)
  | issuerExistsByLei lei =>
      d.issuers.rows.any (fun entry => entry.2.lei == some lei)
  | issuerVersion id => (d.issuers.find? id).map IssuerRecord.version
  | securitiesByIssuer id => d.securitiesOf id
  | securitiesForAllIssuers => d.securitiesForAllIssuers
  | securitiesForIssuerPage after limit =>
      d.securitiesForIssuerPage after limit

end Sqlite
end Valqeron
