import Valqeron.Foundation.Transition
import Valqeron.Sqlite.IssuerRepository

/-!
# The CNPJ rule in the store

The builder refuses a CNPJ outside Brazil and fills in the country where it is
missing.  The table has the same rule as a `CHECK`, but a comparison with `NULL`
is unknown and passes.  Only a patch can therefore leave a CNPJ without a
country, and it does so exactly when it sets the CNPJ of a row that has no
country and brings none along.
-/

namespace Valqeron
namespace Sqlite

open Foundation
open Domain
open Identifiers

/-- Every stored issuer that has a CNPJ is in Brazil. -/
def IssuerRule (d : Db) : Prop :=
  forall id r, d.issuers.find? id = some r -> r.cnpj ≠ none ->
    r.countryCode = some brazilCountryCode

def ChecksHold (d : Db) : Prop :=
  forall id r, d.issuers.find? id = some r -> r.failedCheck = none

abbrev AcceptedIssuer := { issuer : Issuer // issuer.Accepted }

inductive IssuerOp where
  | insert (issuer : AcceptedIssuer)
  | applyPatch (id : IssuerId) (expectedVersion : Nat) (patch : IssuerPatch)
  | update (issuer : AcceptedIssuer) (expectedVersion : Nat)
  | delete (id : IssuerId) (expectedVersion : Nat)

namespace IssuerOp

/-- The database after the operation, whatever the operation reports. -/
def apply (d : Db) : IssuerOp -> Db
  | insert issuer =>
      ((SqliteIssuerRepository.insert issuer.val).run Command.onDb d).1
  | applyPatch id expectedVersion patch =>
      ((SqliteIssuerRepository.applyPatch id expectedVersion patch).run
        Command.onDb d).1
  | update issuer expectedVersion =>
      ((SqliteIssuerRepository.update issuer.val expectedVersion).run
        Command.onDb d).1
  | delete id expectedVersion =>
      ((SqliteIssuerRepository.delete id expectedVersion).run
        Command.onDb d).1

def step (d : Db) (op : IssuerOp) : Option Db := some (op.apply d)

def statement : IssuerOp -> Statement
  | insert issuer => insertStatement issuer.val
  | applyPatch id expectedVersion patch =>
      patchStatement id expectedVersion patch
  | update issuer expectedVersion =>
      updateStatement issuer.val expectedVersion
  | delete id expectedVersion => deleteStatement id expectedVersion

theorem apply_eq_statement (d : Db) (op : IssuerOp) :
    op.apply d = (op.statement.apply d).1 := by
  cases op with
  | insert issuer => exact congrArg Prod.fst (run_insert issuer.val d)
  | applyPatch id expectedVersion patch =>
      exact congrArg Prod.fst (run_guardedWrite _ _ _ d)
  | update issuer expectedVersion =>
      exact congrArg Prod.fst (run_guardedWrite _ _ _ d)
  | delete id expectedVersion =>
      exact congrArg Prod.fst (run_guardedWrite _ _ _ d)

end IssuerOp

def patchedColumns (patch : IssuerPatch) (r : IssuerRecord) : IssuerRecord :=
  Db.coalesce (patch.name.map IssuerName.asStr)
    (patch.status.map IssuerStatus.asStr) (patch.cnpj.map Cnpj.asStr)
    (patch.lei.map Lei.asStr) (patch.countryCode.map CountryCode.asStr) r

/--
The operation is a patch that hits a row without a country, sets its CNPJ and
brings no country along, and no other row has the CNPJ or the LEI that result.
-/
def IssuerOp.LeavesCountryOpen (d : Db) : IssuerOp -> Prop
  | applyPatch id expectedVersion patch =>
      exists r, d.issuerAt id.uuid expectedVersion = some r ∧
        r.countryCode = none ∧ patch.cnpj ≠ none ∧ patch.countryCode = none ∧
        uniqueConflict d.issuers id.uuid (patchedColumns patch r) = none
  | _ => False

/-!
## The checks of one row
-/

namespace IssuerRecord

theorem failedCheck_eq_none (r : IssuerRecord) :
    r.failedCheck = none <->
      r.statusCheck.passes = true ∧ r.countryCodeCheck.passes = true ∧
        r.cnpjCheck.passes = true := by
  unfold failedCheck
  cases r.statusCheck.passes with
  | false => simp
  | true =>
      cases r.countryCodeCheck.passes with
      | false => simp
      | true =>
          cases r.cnpjCheck.passes with
          | false => simp
          | true => simp

/-- The constraint of the table also lets a missing country pass. -/
theorem cnpjCheck_passes (r : IssuerRecord) :
    r.cnpjCheck.passes = true <->
      r.cnpj = none ∨ r.countryCode = none ∨
        r.countryCode = some brazilCountryCode := by
  unfold cnpjCheck
  rw [Truth.passes_or, Truth.passes_isNull]
  exact or_congr_right (Truth.passes_eq_some r.countryCode "BR")

theorem statusCheck_passes (r : IssuerRecord) :
    r.statusCheck.passes = true <-> r.status ∈ ["ACTIVE", "RETIRED"] :=
  Truth.passes_isIn_some r.status _

end IssuerRecord

theorem IssuerStatus.asStr_mem (status : IssuerStatus) :
    status.asStr ∈ ["ACTIVE", "RETIRED"] := by
  cases status with
  | active => decide
  | retired => decide

theorem checksHold_apply {d : Db} (h : ChecksHold d) (s : Statement) :
    ChecksHold (s.apply d).1 := by
  apply Statement.apply_rows h
  · intro r _ hok
    exact (rowConflict_eq_none.mp hok).left
  · intro set r r' _ _ _ _ hok
    exact (rowConflict_eq_none.mp hok).left

/-!
## One operation

Only the patch needs an argument: the other writes take both columns from an
issuer that the builder has accepted.
-/

def IssuerRecord.InBrazil (r : IssuerRecord) : Prop :=
  r.cnpj ≠ none -> r.countryCode = some brazilCountryCode

theorem acceptedIssuer_brazil (issuer : AcceptedIssuer)
    (hcnpj : issuer.val.cnpj.map Cnpj.asStr ≠ none) :
    issuer.val.countryCode.map CountryCode.asStr = some brazilCountryCode := by
  apply issuer.property.brazil
  intro hnone
  apply hcnpj
  rw [hnone]
  rfl

theorem inserted_inBrazil {op : IssuerOp} {r : IssuerRecord}
    (h : op.statement.inserted = some r) : r.InBrazil := by
  cases op with
  | insert issuer =>
      cases h
      exact acceptedIssuer_brazil issuer
  | applyPatch id expectedVersion patch => cases h
  | update issuer expectedVersion => cases h
  | delete id expectedVersion => cases h

theorem updated_inBrazil {d : Db} {op : IssuerOp}
    {set : IssuerRecord -> IssuerRecord} {r r' : IssuerRecord}
    (hset : op.statement.assigned = some set)
    (hfind : d.issuers.find? op.statement.target = some r)
    (hr' : r' = { set r with version := r.version + 1 })
    (hversion : op.statement.expectedVersion = some r.version)
    (hok : rowConflict d.issuers op.statement.target r' = none)
    (hrow : r.InBrazil) (hclosed : ¬ op.LeavesCountryOpen d) :
    r'.InBrazil := by
  cases op with
  | insert issuer => cases hset
  | delete id expectedVersion => cases hset
  | update issuer expectedVersion =>
      cases hset
      rw [hr']
      exact acceptedIssuer_brazil issuer
  | applyPatch id expectedVersion patch =>
      cases hset
      intro hcnpj
      rcases rowConflict_eq_none.mp hok with ⟨hcheck, hunique⟩
      have hpasses := (IssuerRecord.failedCheck_eq_none r').mp hcheck
      rcases (IssuerRecord.cnpjCheck_passes r').mp hpasses.right.right with
        hnone | hopen | hbrazil
      · exact absurd hnone hcnpj
      · -- no country afterwards: neither the patch nor the row had one
        rw [hr'] at hopen
        rcases Option.or_eq_none_iff.mp hopen with ⟨hpatch, hcountry⟩
        have hcnpjRow : r.cnpj = none := by
          by_contra hsome
          have hbr := hrow hsome
          rw [hcountry] at hbr
          cases hbr
        apply absurd _ hclosed
        refine ⟨r, ?_, hcountry, ?_, Option.map_eq_none_iff.mp hpatch, ?_⟩
        · apply Db.issuerAt_eq_some.mpr
          exact ⟨hfind, (Option.some.inj hversion).symm⟩
        · intro hpatchCnpj
          apply hcnpj
          rw [hr']
          show (patch.cnpj.map Cnpj.asStr).or r.cnpj = none
          rw [hpatchCnpj, hcnpjRow]
          rfl
        · rw [hr'] at hunique
          exact hunique
      · exact hbrazil

theorem issuerRule_apply {d : Db} {op : IssuerOp} (hrule : IssuerRule d)
    (hclosed : ¬ op.LeavesCountryOpen d) : IssuerRule (op.apply d) := by
  rw [op.apply_eq_statement]
  apply Statement.apply_rows hrule
  · intro r hr _
    exact inserted_inBrazil hr
  · intro set r r' hset hfind hr' hversion hok
    exact updated_inBrazil hset hfind hr' hversion hok (hrule _ r hfind)
      hclosed

theorem patchedColumns_failedCheck {patch : IssuerPatch} {r : IssuerRecord}
    (hr : r.failedCheck = none) (hcountry : r.countryCode = none)
    (hpatch : patch.countryCode = none) (version : Nat) :
    { patchedColumns patch r with version := version }.failedCheck = none := by
  have hstored := (IssuerRecord.failedCheck_eq_none r).mp hr
  have hnone : (patchedColumns patch r).countryCode = none := by
    show (patch.countryCode.map CountryCode.asStr).or r.countryCode = none
    rw [hpatch, hcountry]
    rfl
  rw [IssuerRecord.failedCheck_eq_none]
  refine ⟨?_, ?_, ?_⟩
  · apply (IssuerRecord.statusCheck_passes _).mpr
    show (patch.status.map IssuerStatus.asStr).getD r.status ∈ _
    cases patch.status with
    | none => exact (IssuerRecord.statusCheck_passes r).mp hstored.left
    | some status => exact IssuerStatus.asStr_mem status
  · unfold IssuerRecord.countryCodeCheck
    rw [Truth.passes_or, Truth.passes_isNull]
    exact Or.inl hnone
  · exact (IssuerRecord.cnpjCheck_passes _).mpr (Or.inr (Or.inl hnone))

theorem not_issuerRule_apply {d : Db} {op : IssuerOp}
    (hchecks : ChecksHold d) (hopen : op.LeavesCountryOpen d) :
    ¬ IssuerRule (op.apply d) := by
  cases op with
  | insert issuer => exact hopen.elim
  | update issuer expectedVersion => exact hopen.elim
  | delete id expectedVersion => exact hopen.elim
  | applyPatch id expectedVersion patch =>
      rcases hopen with ⟨r, hrow, hcountry, hcnpj, hpatch, hunique⟩
      have hfind := (Db.issuerAt_eq_some.mp hrow).left
      let r' := { patchedColumns patch r with version := r.version + 1 }
      have hok : rowConflict d.issuers id.uuid r' = none :=
        rowConflict_eq_none.mpr
          ⟨patchedColumns_failedCheck (hchecks _ r hfind) hcountry hpatch _,
            hunique⟩
      have hexec : (patchStatement id expectedVersion patch).exec d =
          .ok (d.storeIssuer id.uuid r', 1) :=
        (Db.updateIssuerWhere_eq d _ _ _).trans (writeRow_of_free hrow hok)
      intro hrule
      rw [IssuerOp.apply_eq_statement] at hrule
      unfold Statement.apply IssuerOp.statement at hrule
      rw [hexec] at hrule
      have hbr := hrule id.uuid r' (SortedTable.find?_insert_self _ _ _)
      have hnone : r'.countryCode = none := by
        show (patch.countryCode.map CountryCode.asStr).or r.countryCode = none
        rw [hpatch, hcountry]
        rfl
      rw [hnone] at hbr
      apply Option.some_ne_none brazilCountryCode
      apply (hbr _).symm
      show (patch.cnpj.map Cnpj.asStr).or r.cnpj ≠ none
      rw [ne_eq, Option.or_eq_none_iff, Option.map_eq_none_iff]
      intro hboth
      exact hcnpj hboth.left

/-!
## Runs
-/

theorem issuerRule_empty : IssuerRule Db.empty := by
  intro id r h
  cases h

theorem checksHold_empty : ChecksHold Db.empty := by
  intro id r h
  cases h

/-- One operation keeps the rule exactly when it leaves no country open. -/
theorem issuerRule_step_iff {d : Db} {op : IssuerOp} (hchecks : ChecksHold d)
    (hrule : IssuerRule d) :
    ¬ op.LeavesCountryOpen d <->
      forall d', op.step d = some d' -> IssuerRule d' := by
  constructor
  · intro hclosed d' hstep
    cases hstep
    exact issuerRule_apply hrule hclosed
  · intro hkept hopen
    exact not_issuerRule_apply hchecks hopen (hkept _ rfl)

/--
Along a run from the empty schema every database obeys the rule exactly when no
operation of the run leaves a country open.
-/
theorem issuerRule_along_iff (ops : List IssuerOp) :
    (forall past d, past <+: ops ->
      runFrom IssuerOp.step Db.empty past = some d -> IssuerRule d) <->
    StepsMeet IssuerOp.step (fun d op => ¬ op.LeavesCountryOpen d) Db.empty
      ops := by
  apply invariant_along_iff_stepsMeet ChecksHold IssuerRule
  · intro d op d' hchecks hstep
    cases hstep
    rw [op.apply_eq_statement]
    exact checksHold_apply hchecks op.statement
  · intro d op hchecks hrule
    exact issuerRule_step_iff hchecks hrule
  · exact checksHold_empty
  · exact issuerRule_empty

/-!
## A CNPJ without a country
-/

/-- `00000000000191`. -/
def sampleCnpj : Cnpj where
  bytes := ⟨[48, 48, 48, 48, 48, 48, 48, 48, 48, 48, 48, 49, 57, 49], rfl⟩
  valid := by decide +kernel

/-- What `IssuerBuilder::new().build()` gives. -/
def plainIssuer : AcceptedIssuer where
  val :=
    { id := { uuid := 1 }
      status := .active
      createdAt := { seconds := 0, nanos := 0 }
      name := none
      cnpj := none
      lei := none
      countryCode := none }
  property :=
    ⟨{ uuid := 1 }, { seconds := 0, nanos := 0 }, IssuerBuilder.new, rfl⟩

def cnpjOnlyRun : List IssuerOp :=
  [.insert plainIssuer,
    .applyPatch plainIssuer.val.id 1
      { IssuerPatch.empty with cnpj := some sampleCnpj }]

/-- A patch that only sets the CNPJ of an issuer without a country is accepted. -/
theorem cnpjOnlyRun_breaks_rule :
    ¬ forall (ops past : List IssuerOp) (d : Db), past <+: ops ->
      runFrom IssuerOp.step Db.empty past = some d -> IssuerRule d := by
  intro h
  have hrow : ((runFrom IssuerOp.step Db.empty cnpjOnlyRun).bind
      (fun d => d.issuers.find? 1)).map
        (fun r => (r.cnpj, r.countryCode)) =
      some (some "00000000000191", none) := by decide +kernel
  rw [Option.map_eq_some_iff] at hrow
  rcases hrow with ⟨r, hfind, hr⟩
  rw [Option.bind_eq_some_iff] at hfind
  rcases hfind with ⟨d, hrun, hrow⟩
  have hrule := h cnpjOnlyRun cnpjOnlyRun d (List.prefix_refl _) hrun 1 r hrow
  rw [Prod.mk.injEq] at hr
  rw [hr.left, hr.right] at hrule
  exact absurd (hrule (Option.some_ne_none _)).symm (Option.some_ne_none _)

end Sqlite
end Valqeron
