import Valqeron.Sqlite.IssuerRepository

/-!
# One issuer for every CNPJ and every LEI

The `UNIQUE` constraints keep two issuers from sharing a value.  The services ask
for the value before they write, so that on a database that nobody else writes a
taken value is answered as a duplicate and no constraint is ever broken.
-/

namespace Valqeron
namespace Sqlite

open Foundation
open Domain
open Identifiers

def UniqueColumn (column : IssuerRecord -> Option String) (d : Db) : Prop :=
  forall id id' r r' v, d.issuers.find? id = some r ->
    d.issuers.find? id' = some r' -> column r = some v ->
    column r' = some v -> id = id'

structure UniqueKeys (d : Db) : Prop where
  cnpj : UniqueColumn IssuerRecord.cnpj d
  lei : UniqueColumn IssuerRecord.lei d

def StoredIn (column : IssuerRecord -> Option String) (d : Db)
    (v : String) : Prop :=
  exists id r, d.issuers.find? id = some r ∧ column r = some v

theorem uniqueKeys_empty : UniqueKeys Db.empty := by
  constructor
  · intro id id' r r' v h
    cases h
  · intro id id' r r' v h
    cases h

/-!
## What the constraint compares
-/

theorem taken_eq_true {record : Type} {t : SortedTable Uuid record} {id : Uuid}
    {column : record -> Option String} {value : Option String} :
    taken t id column value = true <->
      exists v k r, value = some v ∧ k ≠ id ∧ t.find? k = some r ∧
        column r = some v := by
  unfold taken
  cases value with
  | none => simp
  | some v =>
      simp only
      rw [SortedTable.any_eq_true (p := fun k r => k != id && column r == some v)]
      constructor
      · intro h
        rcases h with ⟨k, r, hfind, hp⟩
        rw [Bool.and_eq_true, bne_iff_ne, beq_iff_eq] at hp
        exact ⟨v, k, r, rfl, hp.left, hfind, hp.right⟩
      · intro h
        rcases h with ⟨v', k, r, hv, hk, hfind, hcolumn⟩
        cases hv
        refine ⟨k, r, hfind, ?_⟩
        rw [Bool.and_eq_true, bne_iff_ne, beq_iff_eq]
        exact ⟨hk, hcolumn⟩

theorem uniqueConflict_eq_none {t : SortedTable Uuid IssuerRecord}
    {id : Uuid} {r : IssuerRecord} :
    uniqueConflict t id r = none <->
      taken t id IssuerRecord.cnpj r.cnpj = false ∧
        taken t id IssuerRecord.lei r.lei = false := by
  unfold uniqueConflict
  cases taken t id IssuerRecord.lei r.lei with
  | true => simp
  | false =>
      cases taken t id IssuerRecord.cnpj r.cnpj with
      | true => simp
      | false => simp

/-!
## The columns stay unique
-/

theorem uniqueColumn_store {column : IssuerRecord -> Option String} {d : Db}
    (h : UniqueColumn column d) {id : Uuid} {r : IssuerRecord}
    (hfree : taken d.issuers id column (column r) = false) :
    UniqueColumn column (d.storeIssuer id r) := by
  have hother : forall k r' v, d.issuers.find? k = some r' ->
      column r = some v -> column r' = some v -> k = id := by
    intro k r' v hfind hv hv'
    by_contra hk
    rw [taken_eq_true.mpr ⟨v, k, r', hv, hk, hfind, hv'⟩] at hfree
    cases hfree
  intro k k' x x' v hx hx' hv hv'
  rcases Db.find?_storeIssuer hx with ⟨hk, hxr⟩ | hold
  · rcases Db.find?_storeIssuer hx' with ⟨hk', _⟩ | hold'
    · rw [hk, hk']
    · rw [hk]
      exact (hother k' x' v hold' (hxr ▸ hv) hv').symm
  · rcases Db.find?_storeIssuer hx' with ⟨hk', hxr'⟩ | hold'
    · rw [hk']
      exact hother k x v hold (hxr' ▸ hv') hv
    · exact h k k' x x' v hold hold' hv hv'

theorem uniqueColumn_erase {column : IssuerRecord -> Option String} {d : Db}
    (h : UniqueColumn column d) (id : Uuid) :
    UniqueColumn column { d with issuers := d.issuers.erase id } := by
  intro k k' x x' v hx hx'
  exact h k k' x x' v (Db.find?_eraseIssuer hx) (Db.find?_eraseIssuer hx')

theorem uniqueKeys_apply {d : Db} (h : UniqueKeys d) (s : Statement) :
    UniqueKeys (s.apply d).1 := by
  have hstore : forall {id : Uuid} {r : IssuerRecord},
      rowConflict d.issuers id r = none -> UniqueKeys (d.storeIssuer id r) := by
    intro id r hok
    have hfree := uniqueConflict_eq_none.mp (rowConflict_eq_none.mp hok).right
    exact ⟨uniqueColumn_store h.cnpj hfree.left,
      uniqueColumn_store h.lei hfree.right⟩
  have heffect := s.exec_effect d
  cases hexec : s.exec d with
  | error e =>
      rw [Statement.apply_error hexec]
      exact h
  | ok result =>
      rw [hexec] at heffect
      rw [Statement.apply_ok hexec]
      cases heffect with
      | missed v hversion hnone => exact h
      | inserted r hrow hfree hok => exact hstore hok
      | updated v set r hversion hset hrow hok => exact hstore hok
      | erased v r hversion hrow =>
          exact ⟨uniqueColumn_erase h.cnpj _, uniqueColumn_erase h.lei _⟩

theorem uniqueKeys_onDb {d : Db} (h : UniqueKeys d) (c : Command) :
    UniqueKeys (Command.onDb d c).1 := by
  cases c with
  | takeGuard role => exact h
  | dropGuard role => exact h
  | query role q => exact h
  | execute s => exact uniqueKeys_apply h s

/-!
## The services
-/

/-- What the guard of a service finds out about a value, if there is one. -/
def storedAny (column : IssuerRecord -> Option String) (d : Db)
    (value : Option String) : Bool :=
  value.any (fun v => d.issuers.rows.any (fun entry =>
    column entry.2 == some v))

theorem used_eq_storedAny (column : IssuerRecord -> Option String) (d : Db)
    (value : Option String) :
    used d.issuers column value = storedAny column d value := by
  cases value with
  | none => rfl
  | some v => rfl

theorem storedAny_eq_true {column : IssuerRecord -> Option String} {d : Db}
    {value : Option String} :
    storedAny column d value = true <->
      exists v, value = some v ∧ StoredIn column d v := by
  unfold storedAny StoredIn
  cases value with
  | none => simp
  | some v =>
      rw [Option.any_some,
        SortedTable.any_eq_true (p := fun _ r => column r == some v)]
      simp

theorem not_storedIn {column : IssuerRecord -> Option String} {d : Db}
    {value : Option String} {v : String}
    (h : storedAny column d value = false) (hv : value = some v) :
    ¬ StoredIn column d v := by
  intro hstored
  rw [storedAny_eq_true.mpr ⟨v, hv, hstored⟩] at h
  cases h

section Services

variable {value : Type}

/-- The guard answers from the database as it is, and writes only behind it. -/
theorem run_withDuplicateCheck (cnpj : Option Cnpj) (lei : Option Lei)
    (write : SqlProgram (Except StorageFault value)) (d : Db) :
    (withDuplicateCheck sqliteIssuerRepository cnpj lei write).run
        Command.onDb d =
      if storedAny IssuerRecord.cnpj d (cnpj.map Cnpj.asStr) then
        (d, .error .duplicateCnpj)
      else if storedAny IssuerRecord.lei d (lei.map Lei.asStr) then
        (d, .error .duplicateLei)
      else
        ((write.run Command.onDb d).1,
          (write.run Command.onDb d).2.mapError .storage) := by
  have hcnpj : (isTaken sqliteIssuerRepository.existsByCnpj cnpj).run
      Command.onDb d =
      (d, .ok (storedAny IssuerRecord.cnpj d (cnpj.map Cnpj.asStr))) := by
    cases cnpj with
    | none => rfl
    | some c => rfl
  have hlei : (isTaken sqliteIssuerRepository.existsByLei lei).run
      Command.onDb d =
      (d, .ok (storedAny IssuerRecord.lei d (lei.map Lei.asStr))) := by
    cases lei with
    | none => rfl
    | some l => rfl
  unfold withDuplicateCheck
  rw [Program.run_bind, hcnpj]
  cases storedAny IssuerRecord.cnpj d (cnpj.map Cnpj.asStr) with
  | true => rfl
  | false =>
      simp only
      rw [Program.run_bind, hlei]
      cases storedAny IssuerRecord.lei d (lei.map Lei.asStr) with
      | true => rfl
      | false =>
          simp only
          rw [Program.run_bind]
          rfl

/--
A taken CNPJ or LEI is answered as a duplicate, and no other answer comes from a
`UNIQUE` constraint.
-/
structure AnswersDuplicates (d : Db) (cnpj : Option Cnpj) (lei : Option Lei)
    (r : Except (DuplicateIssuerError StorageFault) value) : Prop where
  cnpj : forall c, cnpj = some c -> StoredIn IssuerRecord.cnpj d c.asStr ->
    r = .error .duplicateCnpj
  lei : forall l, lei = some l -> StoredIn IssuerRecord.lei d l.asStr ->
    r = .error .duplicateCnpj ∨ r = .error .duplicateLei
  unique : forall column, r ≠ .error (.storage (backend (.unique column)))

theorem withDuplicateCheck_answers {cnpj : Option Cnpj} {lei : Option Lei}
    {write : SqlProgram (Except StorageFault value)} {d : Db}
    (hwrite : storedAny IssuerRecord.cnpj d (cnpj.map Cnpj.asStr) = false ->
      storedAny IssuerRecord.lei d (lei.map Lei.asStr) = false ->
      forall column, (write.run Command.onDb d).2 ≠
        .error (backend (.unique column))) :
    AnswersDuplicates d cnpj lei
      ((withDuplicateCheck sqliteIssuerRepository cnpj lei write).run
        Command.onDb d).2 := by
  rw [run_withDuplicateCheck]
  cases hcnpj : storedAny IssuerRecord.cnpj d (cnpj.map Cnpj.asStr) with
  | true =>
      constructor
      · intro c hc hstored
        rfl
      · intro l hl hstored
        exact Or.inl rfl
      · intro column hr
        cases hr
  | false =>
      have hnew : forall c, cnpj = some c ->
          ¬ StoredIn IssuerRecord.cnpj d c.asStr := by
        intro c hc
        exact not_storedIn hcnpj (congrArg (Option.map Cnpj.asStr) hc)
      cases hlei : storedAny IssuerRecord.lei d (lei.map Lei.asStr) with
      | true =>
          constructor
          · intro c hc hstored
            exact absurd hstored (hnew c hc)
          · intro l hl hstored
            exact Or.inr rfl
          · intro column hr
            cases hr
      | false =>
          constructor
          · intro c hc hstored
            exact absurd hstored (hnew c hc)
          · intro l hl hstored
            exact absurd hstored
              (not_storedIn hlei (congrArg (Option.map Lei.asStr) hl))
          · intro column hr
            apply hwrite hcnpj hlei column
            rcases mapError_eq_error.mp hr with ⟨e, hresult, he⟩
            cases he
            exact hresult

end Services

/-!
## No write behind the guard breaks a constraint
-/

/-- A row whose values are new, or were its own, clashes with no other row. -/
theorem taken_eq_false {d : Db} {id : Uuid}
    {column : IssuerRecord -> Option String} {value : Option String}
    (h : forall v, value = some v -> StoredIn column d v ->
      exists r, d.issuers.find? id = some r ∧ column r = some v)
    (hunique : UniqueColumn column d) :
    taken d.issuers id column value = false := by
  cases htaken : taken d.issuers id column value with
  | false => rfl
  | true =>
      rcases taken_eq_true.mp htaken with ⟨v, k, r, hv, hk, hfind, hcolumn⟩
      rcases h v hv ⟨k, r, hfind, hcolumn⟩ with ⟨r', hfind', hcolumn'⟩
      exact absurd (hunique k id r r' v hfind hfind' hcolumn hcolumn') hk

theorem failedCheck_ne_unique (r : IssuerRecord) (column : String) :
    r.failedCheck ≠ some (.unique column) := by
  unfold IssuerRecord.failedCheck
  split
  · simp
  · split
    · simp
    · split
      · simp
      · simp

theorem rowConflict_ne_unique {t : SortedTable Uuid IssuerRecord} {id : Uuid}
    {r : IssuerRecord} (h : uniqueConflict t id r = none) (column : String) :
    rowConflict t id r ≠ some (.unique column) := by
  unfold rowConflict
  cases hcheck : r.failedCheck with
  | none =>
      show uniqueConflict t id r ≠ _
      rw [h]
      exact (Option.some_ne_none _).symm
  | some e =>
      intro heq
      apply failedCheck_ne_unique r column
      rw [hcheck]
      exact heq

theorem insert_ne_unique {d : Db} {issuer : Issuer}
    (hcnpj : storedAny IssuerRecord.cnpj d (issuer.cnpj.map Cnpj.asStr) =
      false)
    (hlei : storedAny IssuerRecord.lei d (issuer.lei.map Lei.asStr) = false)
    (column : String) :
    (insertStatement issuer).exec d ≠ .error (.unique column) := by
  unfold insertStatement Statement.exec insertConflict
  simp only [used_eq_storedAny, hcnpj, hlei]
  split
  · rename_i hcheck
    intro heq
    cases heq
    exact failedCheck_ne_unique _ column hcheck
  · cases (d.issuers.find? issuer.id.uuid).isSome with
    | true =>
        intro heq
        cases heq
    | false =>
        intro heq
        cases heq

theorem updateIssuerWhere_ne_unique {d : Db} {id : Uuid}
    {expectedVersion : Nat} {set : IssuerRecord -> IssuerRecord}
    (hunique : forall r, d.issuers.find? id = some r ->
      uniqueConflict d.issuers id
        { set r with version := r.version + 1 } = none) (column : String) :
    d.updateIssuerWhere id expectedVersion set ≠ .error (.unique column) := by
  intro h
  rw [Db.updateIssuerWhere_eq] at h
  rcases writeRow_eq_error h with ⟨r, hrow, hconflict⟩
  exact rowConflict_ne_unique (hunique r (Db.issuerAt_eq_some.mp hrow).left)
    column hconflict

theorem patch_ne_unique {d : Db} (hunique : UniqueKeys d) (id : IssuerId)
    (expectedVersion : Nat) {patch : IssuerPatch}
    (hcnpj : storedAny IssuerRecord.cnpj d (patch.cnpj.map Cnpj.asStr) = false)
    (hlei : storedAny IssuerRecord.lei d (patch.lei.map Lei.asStr) = false)
    (column : String) :
    (patchStatement id expectedVersion patch).exec d ≠
      .error (.unique column) := by
  apply updateIssuerWhere_ne_unique
  intro r hfind
  have hown : forall {select : IssuerRecord -> Option String}
      {given : Option String} {v : String},
      storedAny select d given = false -> given.or (select r) = some v ->
      StoredIn select d v ->
      exists r', d.issuers.find? id.uuid = some r' ∧ select r' = some v := by
    intro select given v hnew hv hstored
    cases given with
    | none => exact ⟨r, hfind, hv⟩
    | some w =>
        cases hv
        exact absurd hstored (not_storedIn hnew rfl)
  exact uniqueConflict_eq_none.mpr
    ⟨taken_eq_false (fun v => hown hcnpj) hunique.cnpj,
      taken_eq_false (fun v => hown hlei) hunique.lei⟩

/-!
## The answers of the services
-/

theorem registerIssuer_answers (d : Db) (issuer : Issuer) :
    AnswersDuplicates d issuer.cnpj issuer.lei
      ((registerIssuer sqliteIssuerRepository issuer).run Command.onDb d).2 := by
  apply withDuplicateCheck_answers
  intro hcnpj hlei column heq
  change ((SqliteIssuerRepository.insert issuer).run Command.onDb d).2 = _ at heq
  rw [run_insert] at heq
  rcases mapError_eq_error.mp heq with ⟨e, hresult, he⟩
  cases he
  apply insert_ne_unique hcnpj hlei column
  apply Statement.apply_eq_error
  cases happlied : ((insertStatement issuer).apply d).2 with
  | ok n =>
      rw [happlied] at hresult
      cases hresult
  | error e =>
      rw [happlied] at hresult
      cases hresult
      rfl

theorem zeroRowsOutcome_ne_unique (expectedVersion : Nat)
    (actual : Option Nat) (column : String) :
    zeroRowsOutcome expectedVersion actual ≠ .error (.unique column) := by
  unfold zeroRowsOutcome
  split
  · simp
  · split
    · simp
    · simp

/-- A version-guarded write reports a constraint only if its statement does. -/
theorem guardedWrite_ne_unique {d : Db} {s : Statement} {id : Uuid}
    {expectedVersion : Nat} {column : String}
    (h : s.exec d ≠ .error (.unique column)) :
    ((guardedWrite s id expectedVersion).run Command.onDb d).2 ≠
      .error (backend (.unique column)) := by
  rw [run_guardedWrite]
  intro heq
  rcases mapError_eq_error.mp heq with ⟨e, houtcome, he⟩
  cases he
  unfold guardedOutcome at houtcome
  split at houtcome
  · rename_i happly
    cases houtcome
    apply h
    apply Statement.apply_eq_error
    rw [happly]
  · exact zeroRowsOutcome_ne_unique _ _ column houtcome
  · cases houtcome

theorem patchIssuer_answers {d : Db} (hunique : UniqueKeys d) (id : IssuerId)
    (expectedVersion : Nat) (patch : IssuerPatch) :
    AnswersDuplicates d patch.cnpj patch.lei
      ((patchIssuer sqliteIssuerRepository id expectedVersion patch).run
        Command.onDb d).2 := by
  apply withDuplicateCheck_answers
  intro hcnpj hlei column
  exact guardedWrite_ne_unique
    (patch_ne_unique hunique id expectedVersion hcnpj hlei column)

end Sqlite
end Valqeron
