import Valqeron.Foundation.References
import Valqeron.Sqlite.SecurityRepository

/-!
# The graph of issuers and securities

Every write of the two repositories, one after the other on a database with
foreign keys enforced.  No write touches the issuer or the underlying security of
a row that is there, a row is stored after what it refers to, and a deletion is
refused while something refers to the row: so the chains of underlying securities
end.
-/

namespace Valqeron
namespace Sqlite

open Foundation
open Domain

/-- The writes of the two repositories, with arbitrary arguments. -/
inductive RepositoryCall where
  | insertIssuer (issuer : Issuer)
  | patchIssuer (id : IssuerId) (expectedVersion : Nat) (patch : IssuerPatch)
  | updateIssuer (issuer : Issuer) (expectedVersion : Nat)
  | deleteIssuer (id : IssuerId) (expectedVersion : Nat)
  | insertSecurity (security : Security)
  | patchSecurity (id : SecurityId) (expectedVersion : Nat)
      (patch : SecurityPatch)
  | updateSecurity (security : Security) (expectedVersion : Nat)
  | deleteSecurity (id : SecurityId) (expectedVersion : Nat)
deriving DecidableEq

def reported {fault value : Type} (result : Db × Except fault value) :
    Db × Bool :=
  match result with
  | (d, .error _) => (d, true)
  | (d, .ok _) => (d, false)

theorem reported_fst {fault value : Type} (result : Db × Except fault value) :
    (reported result).1 = result.1 := by
  rcases result with ⟨d, outcome⟩
  cases outcome <;> rfl

def RepositoryCall.perform (d : Db) : RepositoryCall -> Db × Bool
  | insertIssuer issuer =>
      reported ((SqliteIssuerRepository.insert issuer).run Command.onDb d)
  | patchIssuer id expectedVersion patch =>
      reported ((SqliteIssuerRepository.applyPatch id expectedVersion
        patch).run Command.onDb d)
  | updateIssuer issuer expectedVersion =>
      reported ((SqliteIssuerRepository.update issuer expectedVersion).run
        Command.onDb d)
  | deleteIssuer id expectedVersion =>
      reported ((SqliteIssuerRepository.delete id expectedVersion).run
        Command.onDb d)
  | insertSecurity security =>
      reported ((SqliteSecurityRepository.insert security).run
        SecurityCommand.onDb d)
  | patchSecurity id expectedVersion patch =>
      reported ((SqliteSecurityRepository.applyPatch id expectedVersion
        patch).run SecurityCommand.onDb d)
  | updateSecurity security expectedVersion =>
      reported ((SqliteSecurityRepository.update security
        expectedVersion).run SecurityCommand.onDb d)
  | deleteSecurity id expectedVersion =>
      reported ((SqliteSecurityRepository.delete id expectedVersion).run
        SecurityCommand.onDb d)

def RepositoryCall.run (d : Db) (call : RepositoryCall) : Db :=
  (call.perform d).1

def runCalls (d : Db) (calls : List RepositoryCall) : Db :=
  calls.foldl RepositoryCall.run d

namespace RepositoryCall

/-- The one statement that the call sends to write securities. -/
def securityStatement : RepositoryCall -> Option SecurityStatement
  | insertSecurity security => some (insertSecurityStatement security)
  | patchSecurity id expectedVersion patch =>
      some (patchSecurityStatement id expectedVersion patch)
  | updateSecurity security expectedVersion =>
      some (updateSecurityStatement security expectedVersion)
  | deleteSecurity id expectedVersion =>
      some (deleteSecurityStatement id expectedVersion)
  | _ => none

def issuerStatement : RepositoryCall -> Option Statement
  | insertIssuer issuer => some (insertStatement issuer)
  | patchIssuer id expectedVersion patch =>
      some (patchStatement id expectedVersion patch)
  | updateIssuer issuer expectedVersion =>
      some (updateStatement issuer expectedVersion)
  | deleteIssuer id expectedVersion => some (deleteStatement id expectedVersion)
  | _ => none

theorem run_statement (d : Db) (call : RepositoryCall) :
    (call.securityStatement = none ∧
      exists s, call.issuerStatement = some s ∧
        call.run d = (s.apply d).1) ∨
      exists s, call.securityStatement = some s ∧
        call.run d = (s.apply d).1 := by
  unfold run
  cases call with
  | insertIssuer issuer =>
      refine Or.inl ⟨rfl, _, rfl, ?_⟩
      simp only [perform, reported_fst, Sqlite.run_insert]
  | patchIssuer id expectedVersion patch =>
      refine Or.inl ⟨rfl, _, rfl, ?_⟩
      simp only [perform, reported_fst, SqliteIssuerRepository.applyPatch,
        Sqlite.run_guardedWrite]
  | updateIssuer issuer expectedVersion =>
      refine Or.inl ⟨rfl, _, rfl, ?_⟩
      simp only [perform, reported_fst, SqliteIssuerRepository.update,
        Sqlite.run_guardedWrite]
  | deleteIssuer id expectedVersion =>
      refine Or.inl ⟨rfl, _, rfl, ?_⟩
      simp only [perform, reported_fst, SqliteIssuerRepository.delete,
        Sqlite.run_guardedWrite]
  | insertSecurity security =>
      refine Or.inr ⟨_, rfl, ?_⟩
      simp only [perform, reported_fst, SqliteSecurityRepository.run_insert]
  | patchSecurity id expectedVersion patch =>
      refine Or.inr ⟨_, rfl, ?_⟩
      simp only [perform, reported_fst, SqliteSecurityRepository.applyPatch,
        SqliteSecurityRepository.run_guardedWrite]
  | updateSecurity security expectedVersion =>
      refine Or.inr ⟨_, rfl, ?_⟩
      simp only [perform, reported_fst, SqliteSecurityRepository.update,
        SqliteSecurityRepository.run_guardedWrite]
  | deleteSecurity id expectedVersion =>
      refine Or.inr ⟨_, rfl, ?_⟩
      simp only [perform, reported_fst, SqliteSecurityRepository.delete,
        SqliteSecurityRepository.run_guardedWrite]

theorem perform_of_error {d : Db} {call : RepositoryCall}
    {s : SecurityStatement} {e : SqlError}
    (hs : call.securityStatement = some s) (h : s.exec d = .error e) :
    call.perform d = (d, true) := by
  have happly := SecurityStatement.apply_error h
  cases call with
  | insertIssuer issuer => cases hs
  | patchIssuer id expectedVersion patch => cases hs
  | updateIssuer issuer expectedVersion => cases hs
  | deleteIssuer id expectedVersion => cases hs
  | insertSecurity security =>
      cases hs
      simp only [perform, SqliteSecurityRepository.run_insert, happly]
      rfl
  | patchSecurity id expectedVersion patch =>
      cases hs
      simp only [perform, SqliteSecurityRepository.applyPatch,
        SqliteSecurityRepository.run_guardedWrite, happly]
      rfl
  | updateSecurity security expectedVersion =>
      cases hs
      simp only [perform, SqliteSecurityRepository.update,
        SqliteSecurityRepository.run_guardedWrite, happly]
      rfl
  | deleteSecurity id expectedVersion =>
      cases hs
      simp only [perform, SqliteSecurityRepository.delete,
        SqliteSecurityRepository.run_guardedWrite, happly]
      rfl

end RepositoryCall

/-!
## The invariant
-/

namespace Db

def underlyings (d : Db) : References Uuid :=
  fun id => (d.securities.find? id).map SecurityRecord.underlyingSecurityId

def underlyingChain (d : Db) (id : Uuid) (n : Nat) : Option Uuid :=
  References.chain d.underlyings id n

structure Linked (d : Db) : Prop where
  issuers : forall id r, d.securities.find? id = some r ->
    (d.issuers.find? r.issuerId).isSome = true
  grounded : d.underlyings.Grounded

theorem empty_linked : Linked Db.empty where
  issuers := by
    intro id r h
    cases h
  grounded := References.grounded_empty

theorem underlyings_store (d : Db) (id : Uuid) (r : SecurityRecord) :
    (d.storeSecurity id r).underlyings =
      Function.update d.underlyings id (some r.underlyingSecurityId) := by
  funext k
  unfold underlyings storeSecurity
  rcases eq_or_ne k id with heq | hne
  · subst heq
    simp
  · rw [Function.update_of_ne hne]
    simp only
    rw [SortedTable.find?_insert_of_ne _ hne]

theorem underlyings_erase (d : Db) (id : Uuid) :
    underlyings { d with securities := d.securities.erase id } =
      Function.update d.underlyings id none := by
  funext k
  unfold underlyings
  rcases eq_or_ne k id with heq | hne
  · subst heq
    simp
  · rw [Function.update_of_ne hne]
    simp only
    rw [SortedTable.find?_erase_of_ne _ hne]

theorem find?_storeSecurity {d : Db} {id k : Uuid} {r r' : SecurityRecord}
    (h : (d.storeSecurity id r).securities.find? k = some r') :
    (k = id ∧ r' = r) ∨ k ≠ id ∧ d.securities.find? k = some r' := by
  rcases eq_or_ne k id with heq | hne
  · subst heq
    left
    unfold storeSecurity at h
    simp only [SortedTable.find?_insert_self, Option.some.injEq] at h
    exact ⟨rfl, h.symm⟩
  · right
    rw [← h]
    exact ⟨hne, (SortedTable.find?_insert_of_ne _ hne r).symm⟩

/-!
### Statements on securities
-/

theorem Linked.insert {d : Db} (h : d.Linked) {id : Uuid}
    {r : SecurityRecord} (hfree : d.securities.find? id = none)
    (hself : r.underlyingSecurityId ≠ some id)
    (hreferences : (d.storeSecurity id r).referencesExist r = true) :
    (d.storeSecurity id r).Linked := by
  unfold referencesExist at hreferences
  rw [Bool.and_eq_true] at hreferences
  constructor
  · intro k r' hk
    rcases find?_storeSecurity hk with ⟨_, hr⟩ | ⟨_, hbefore⟩
    · rw [hr]
      exact hreferences.left
    · exact h.issuers k r' hbefore
  · rw [underlyings_store]
    apply h.grounded.insert
    · unfold underlyings
      rw [hfree]
      rfl
    · intro underlying hunderlying
      have hne : underlying ≠ id := by
        intro heq
        rw [heq] at hunderlying
        exact hself hunderlying
      have hthere := hreferences.right
      rw [hunderlying] at hthere
      unfold storeSecurity at hthere
      simp only at hthere
      rw [SortedTable.find?_insert_of_ne _ hne] at hthere
      unfold underlyings
      rw [Option.isSome_map]
      exact hthere

theorem Linked.replace {d : Db} (h : d.Linked) {id : Uuid}
    {r r' : SecurityRecord} (hrow : d.securities.find? id = some r)
    (hissuer : r'.issuerId = r.issuerId)
    (hunderlying : r'.underlyingSecurityId = r.underlyingSecurityId) :
    (d.storeSecurity id r').Linked := by
  constructor
  · intro k s hk
    rcases find?_storeSecurity hk with ⟨_, hs⟩ | ⟨_, hbefore⟩
    · rw [hs, hissuer]
      exact h.issuers id r hrow
    · exact h.issuers k s hbefore
  · have hsame : Function.update d.underlyings id
        (some r'.underlyingSecurityId) = d.underlyings := by
      rw [hunderlying, Function.update_eq_self_iff]
      unfold underlyings
      rw [hrow]
      rfl
    rw [underlyings_store, hsame]
    exact h.grounded

theorem Linked.erase {d : Db} (h : d.Linked) {id : Uuid}
    (hfree : isReferenced { d with securities := d.securities.erase id } id =
      false) :
    Linked { d with securities := d.securities.erase id } := by
  constructor
  · intro k r hk
    apply h.issuers k r
    rcases eq_or_ne k id with heq | hne
    · rw [heq, SortedTable.find?_erase_self] at hk
      cases hk
    · rwa [SortedTable.find?_erase_of_ne _ hne] at hk
  · rw [underlyings_erase]
    apply h.grounded.erase
    intro k hne hk
    unfold underlyings at hk
    rcases Option.map_eq_some_iff.mp hk with ⟨r, hr, hunderlying⟩
    rw [← SortedTable.find?_erase_of_ne _ hne,
      SortedTable.find?_eq_some_iff] at hr
    unfold isReferenced at hfree
    rw [List.any_eq_false] at hfree
    apply hfree (k, r) hr
    rw [hunderlying, beq_iff_eq]

end Db

theorem SecurityStatement.assigned_references {s : SecurityStatement}
    {set : SecurityRecord -> SecurityRecord} (h : s.assigned = some set)
    (r : SecurityRecord) :
    (set r).issuerId = r.issuerId ∧
      (set r).underlyingSecurityId = r.underlyingSecurityId := by
  cases s with
  | insertSecurity id issuerId kind status createdAt underlying columns =>
      cases h
  | patchSecurity id status columns expectedVersion =>
      cases h
      exact ⟨rfl, rfl⟩
  | updateSecurity id status columns expectedVersion =>
      cases h
      exact ⟨rfl, rfl⟩
  | deleteSecurity id expectedVersion => cases h

theorem SecurityStatement.apply_linked (s : SecurityStatement) {d : Db}
    (h : d.Linked) : (s.apply d).1.Linked := by
  have heffect := s.exec_effect d
  unfold SecurityStatement.apply
  generalize s.exec d = result at heffect
  cases heffect with
  | failed e => exact h
  | missed v hversion hnone => exact h
  | inserted r hrow hfree hok hreferences =>
      have hchecks := SecurityRecord.failedCheck_eq_none.mp
        (securityConflict_eq_none.mp hok).left
      exact h.insert hfree hchecks.notSelf hreferences
  | updated v set r hversion hset hrow hok =>
      have hsame := s.assigned_references hset r
      exact h.replace (Db.securityAt_eq_some.mp hrow).left hsame.left
        hsame.right
  | erased v r hversion hrow hfree => exact h.erase hfree

/-!
### Statements on issuers
-/

theorem Db.updateIssuerWhere_cases {d d' : Db} {id : Uuid} {v n : Nat}
    {set : IssuerRecord -> IssuerRecord}
    (h : d.updateIssuerWhere id v set = .ok (d', n)) :
    d' = d ∨ exists r, d' = d.storeIssuer id r := by
  rw [Db.updateIssuerWhere_eq] at h
  rcases writeRow_eq_ok h with ⟨_, hsame, _⟩ | ⟨r, _, _, hstored, _⟩
  · exact Or.inl hsame
  · exact Or.inr ⟨_, hstored⟩

/-- A statement on issuers removes no issuer that a security refers to. -/
theorem Statement.exec_cases {s : Statement} {d d' : Db} {n : Nat}
    (h : s.exec d = .ok (d', n)) :
    d' = d ∨ (exists id r, d' = d.storeIssuer id r) ∨
      exists id, d' = { d with issuers := d.issuers.erase id } ∧
        d.securities.rows.any (fun entry => entry.2.issuerId == id) =
          false := by
  have hupdate : forall {id v set},
      d.updateIssuerWhere id v set = .ok (d', n) ->
        d' = d ∨ exists id r, d' = d.storeIssuer id r := by
    intro id v set hok
    rcases Db.updateIssuerWhere_cases hok with hsame | ⟨r, hr⟩
    · exact Or.inl hsame
    · exact Or.inr ⟨id, r, hr⟩
  cases s with
  | insertIssuer id name status createdAt cnpj lei countryCode =>
      unfold Statement.exec at h
      simp only at h
      split at h
      · cases h
      · split at h
        · cases h
        · cases h
          exact Or.inr (Or.inl ⟨id, _, rfl⟩)
  | patchIssuer id name status cnpj lei countryCode expectedVersion =>
      exact (hupdate h).imp_right Or.inl
  | updateIssuer id name status cnpj lei countryCode expectedVersion =>
      exact (hupdate h).imp_right Or.inl
  | deleteIssuer id expectedVersion =>
      unfold Statement.exec at h
      simp only at h
      split at h
      · cases h
        exact Or.inl rfl
      · split at h
        · cases h
        · rename_i hfree
          cases h
          exact Or.inr (Or.inr ⟨id, rfl, Bool.eq_false_iff.mpr hfree⟩)

theorem Statement.apply_linked (s : Statement) {d : Db} (h : d.Linked) :
    (s.apply d).1.Linked := by
  unfold Statement.apply
  cases hexec : s.exec d with
  | error e => exact h
  | ok result =>
      rcases result with ⟨d', n⟩
      rcases s.exec_cases hexec with hsame | ⟨id, r, hstore⟩ |
        ⟨id, herase, hfree⟩
      · subst hsame
        exact h
      · subst hstore
        refine ⟨?_, h.grounded⟩
        intro k security hk
        have hthere := h.issuers k security hk
        unfold Db.storeIssuer
        rcases eq_or_ne security.issuerId id with heq | hne
        · simp [heq]
        · simp only
          rw [SortedTable.find?_insert_of_ne _ hne]
          exact hthere
      · subst herase
        refine ⟨?_, h.grounded⟩
        intro k security hk
        have hne : security.issuerId ≠ id := by
          intro heq
          have hmem := (SortedTable.find?_eq_some_iff _ _ _).mp hk
          rw [List.any_eq_false] at hfree
          apply hfree (k, security) hmem
          rw [heq, beq_self_eq_true]
        simp only
        rw [SortedTable.find?_erase_of_ne _ hne]
        exact h.issuers k security hk

/-!
## Whole runs
-/

theorem RepositoryCall.run_linked (call : RepositoryCall) {d : Db}
    (h : d.Linked) : (call.run d).Linked := by
  rcases call.run_statement d with ⟨_, s, _, hs⟩ | ⟨s, _, hs⟩
  · rw [hs]
    exact s.apply_linked h
  · rw [hs]
    exact s.apply_linked h

theorem runCalls_invariant {P : Db -> Prop}
    (hstep : forall (call : RepositoryCall) {d}, P d -> P (call.run d))
    (calls : List RepositoryCall) {d : Db} (h : P d) :
    P (runCalls d calls) := by
  unfold runCalls
  induction calls generalizing d with
  | nil => exact h
  | cons call rest ih => exact ih (hstep call h)

theorem runCalls_linked (calls : List RepositoryCall) {d : Db}
    (h : d.Linked) : (runCalls d calls).Linked :=
  runCalls_invariant RepositoryCall.run_linked calls h

/--
After any writes on an empty database every security has its issuer and its
underlying security, and every chain of underlying securities ends.
-/
theorem securityGraph_wellFounded (calls : List RepositoryCall) :
    (forall id r, (runCalls .empty calls).securities.find? id = some r ->
      ((runCalls .empty calls).issuers.find? r.issuerId).isSome = true) ∧
    (forall id r underlying,
      (runCalls .empty calls).securities.find? id = some r ->
      r.underlyingSecurityId = some underlying ->
      ((runCalls .empty calls).securities.find? underlying).isSome = true) ∧
    forall id, exists n,
      (runCalls .empty calls).underlyingChain id n = none := by
  have hlinked := runCalls_linked calls Db.empty_linked
  refine ⟨hlinked.issuers, ?_, ?_⟩
  · intro id r underlying hrow hunderlying
    have htarget : (runCalls .empty calls).underlyings id =
        some (some underlying) := by
      unfold Db.underlyings
      rw [hrow, Option.map_some, hunderlying]
    have hthere := hlinked.grounded.target_isSome htarget
    unfold Db.underlyings at hthere
    rwa [Option.isSome_map] at hthere
  · intro id
    exact hlinked.grounded.chain_ends id

end Sqlite
end Valqeron
