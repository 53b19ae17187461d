import Valqeron.Sqlite.IssuerRow
import Valqeron.Sqlite.IssuerRule
import Valqeron.Sqlite.UniqueKeys

/-!
# Whose value a patch is told is taken

The guard of `patch_issuer` asks whether any issuer has the value, and so finds
the issuer that is being patched as well.
-/

namespace Valqeron
namespace Sqlite

open Foundation
open Domain
open Identifiers

def HeldByOther (column : IssuerRecord -> Option String) (d : Db) (id : Uuid)
    (v : String) : Prop :=
  exists other r, other ≠ id ∧ d.issuers.find? other = some r ∧
    column r = some v

/-- A duplicate is reported only where another issuer has the value. -/
structure NamesOthers (d : Db) (id : IssuerId) (patch : IssuerPatch)
    (answer : Except (PatchIssuerError StorageFault) WriteOutcome) : Prop where
  cnpj : answer = .error .duplicateCnpj ->
    exists c, patch.cnpj = some c ∧
      HeldByOther IssuerRecord.cnpj d id.uuid c.asStr
  lei : answer = .error .duplicateLei ->
    exists l, patch.lei = some l ∧
      HeldByOther IssuerRecord.lei d id.uuid l.asStr

/--
The patch does not repeat the CNPJ of its issuer, nor its LEI unless the CNPJ
that comes with it is another issuer's.
-/
structure RepeatsNothing (d : Db) (id : IssuerId) (r : IssuerRecord)
    (patch : IssuerPatch) : Prop where
  cnpj : forall c, patch.cnpj = some c -> r.cnpj ≠ some c.asStr
  lei : forall l, patch.lei = some l -> r.lei = some l.asStr ->
    exists c, patch.cnpj = some c ∧
      HeldByOther IssuerRecord.cnpj d id.uuid c.asStr

section Columns

variable {column : IssuerRecord -> Option String} {d : Db} {id : Uuid}
  {r : IssuerRecord} {v : String}

theorem not_heldByOther_of_own (hunique : UniqueColumn column d)
    (hstored : d.issuers.find? id = some r) (hown : column r = some v) :
    ¬ HeldByOther column d id v := by
  intro h
  rcases h with ⟨other, r', hne, hfind, hvalue⟩
  exact hne (hunique other id r' r v hfind hstored hvalue hown)

theorem storedIn_iff (hstored : d.issuers.find? id = some r) :
    StoredIn column d v <-> column r = some v ∨ HeldByOther column d id v := by
  constructor
  · intro h
    rcases h with ⟨k, r', hfind, hvalue⟩
    by_cases hk : k = id
    · subst hk
      rw [hstored] at hfind
      cases hfind
      exact Or.inl hvalue
    · exact Or.inr ⟨k, r', hk, hfind, hvalue⟩
  · intro h
    rcases h with hown | ⟨other, r', _, hfind, hvalue⟩
    · exact ⟨id, r, hstored, hown⟩
    · exact ⟨other, r', hfind, hvalue⟩

end Columns

section Guard

variable {d : Db} {id : IssuerId} {expectedVersion : Nat} {patch : IssuerPatch}

/-- The CNPJ is asked about first, and nothing else reports a duplicate. -/
theorem patchIssuer_duplicateCnpj_iff :
    ((patchIssuer sqliteIssuerRepository id expectedVersion patch).run
        Command.onDb d).2 = .error .duplicateCnpj <->
      storedAny IssuerRecord.cnpj d (patch.cnpj.map Cnpj.asStr) = true := by
  unfold patchIssuer
  rw [run_withDuplicateCheck]
  cases storedAny IssuerRecord.cnpj d (patch.cnpj.map Cnpj.asStr) with
  | true => exact iff_of_true rfl rfl
  | false =>
      apply iff_of_false
      · rw [if_neg Bool.false_ne_true]
        split
        · exact fun h => nomatch h
        · intro h
          rcases mapError_eq_error.mp h with ⟨e, _, he⟩
          cases he
      · exact Bool.false_ne_true

theorem patchIssuer_duplicateLei_iff :
    ((patchIssuer sqliteIssuerRepository id expectedVersion patch).run
        Command.onDb d).2 = .error .duplicateLei <->
      storedAny IssuerRecord.cnpj d (patch.cnpj.map Cnpj.asStr) = false ∧
        storedAny IssuerRecord.lei d (patch.lei.map Lei.asStr) = true := by
  unfold patchIssuer
  rw [run_withDuplicateCheck]
  cases storedAny IssuerRecord.cnpj d (patch.cnpj.map Cnpj.asStr) with
  | true =>
      rw [if_pos rfl]
      exact iff_of_false (fun h => nomatch h) (fun h => nomatch h.left)
  | false =>
      rw [if_neg Bool.false_ne_true]
      cases storedAny IssuerRecord.lei d (patch.lei.map Lei.asStr) with
      | true => exact iff_of_true rfl ⟨rfl, rfl⟩
      | false =>
          apply iff_of_false
          · rw [if_neg Bool.false_ne_true]
            intro h
            rcases mapError_eq_error.mp h with ⟨e, _, he⟩
            cases he
          · exact fun h => nomatch h.right

/--
`patch_issuer` reports other issuers' values only exactly when the patch does not
repeat what its own issuer has.
-/
theorem patchIssuer_namesOthers_iff {d : Db} (hunique : UniqueKeys d)
    {id : IssuerId} {r : IssuerRecord}
    (hstored : d.issuers.find? id.uuid = some r) (expectedVersion : Nat)
    (patch : IssuerPatch) :
    NamesOthers d id patch
        ((patchIssuer sqliteIssuerRepository id expectedVersion patch).run
          Command.onDb d).2 <->
      RepeatsNothing d id r patch := by
  have hcnpj : forall c, patch.cnpj = some c ->
      (storedAny IssuerRecord.cnpj d (patch.cnpj.map Cnpj.asStr) = true <->
        StoredIn IssuerRecord.cnpj d c.asStr) := by
    intro c hc
    rw [storedAny_eq_true, hc]
    simp
  have hlei : forall l, patch.lei = some l ->
      (storedAny IssuerRecord.lei d (patch.lei.map Lei.asStr) = true <->
        StoredIn IssuerRecord.lei d l.asStr) := by
    intro l hl
    rw [storedAny_eq_true, hl]
    simp
  constructor
  · intro h
    have hownCnpj : forall c, patch.cnpj = some c ->
        r.cnpj ≠ some c.asStr := by
      intro c hc hown
      have htaken := (hcnpj c hc).mpr ((storedIn_iff hstored).mpr (Or.inl hown))
      rcases h.cnpj (patchIssuer_duplicateCnpj_iff.mpr htaken) with
        ⟨c', hc', hother⟩
      rw [hc] at hc'
      cases hc'
      exact not_heldByOther_of_own hunique.cnpj hstored hown hother
    refine ⟨hownCnpj, ?_⟩
    intro l hl hown
    have htaken := (hlei l hl).mpr ((storedIn_iff hstored).mpr (Or.inl hown))
    cases hasked : storedAny IssuerRecord.cnpj d
        (patch.cnpj.map Cnpj.asStr) with
    | true => exact h.cnpj (patchIssuer_duplicateCnpj_iff.mpr hasked)
    | false =>
        rcases h.lei (patchIssuer_duplicateLei_iff.mpr ⟨hasked, htaken⟩) with
          ⟨l', hl', hother⟩
        rw [hl] at hl'
        cases hl'
        exact absurd hother
          (not_heldByOther_of_own hunique.lei hstored hown)
  · intro h
    constructor
    · intro hanswer
      have hasked := patchIssuer_duplicateCnpj_iff.mp hanswer
      rcases storedAny_eq_true.mp hasked with ⟨v, hv, hstoredIn⟩
      rcases Option.map_eq_some_iff.mp hv with ⟨c, hc, rfl⟩
      rcases (storedIn_iff hstored).mp hstoredIn with hown | hother
      · exact absurd hown (h.cnpj c hc)
      · exact ⟨c, hc, hother⟩
    · intro hanswer
      have hasked := patchIssuer_duplicateLei_iff.mp hanswer
      rcases storedAny_eq_true.mp hasked.right with ⟨v, hv, hstoredIn⟩
      rcases Option.map_eq_some_iff.mp hv with ⟨l, hl, rfl⟩
      rcases (storedIn_iff hstored).mp hstoredIn with hown | hother
      · rcases h.lei l hl hown with ⟨c, hc, hcother⟩
        have htaken := (hcnpj c hc).mpr
          ((storedIn_iff hstored).mpr (Or.inr hcother))
        rw [hasked.left] at htaken
        cases htaken
      · exact ⟨l, hl, hother⟩

end Guard

/-!
## An issuer that sends its own CNPJ again
-/

def brazilianIssuer : Issuer where
  id := { uuid := 1 }
  status := .active
  createdAt := { seconds := 0, nanos := 0 }
  name := none
  cnpj := some sampleCnpj
  lei := none
  countryCode := (CountryCode.fromStr brazilCountryCode).toOption

def brazilianDb : Db := ((insertStatement brazilianIssuer).apply Db.empty).1

def resendingPatch : IssuerPatch :=
  { IssuerPatch.empty with
    status := some .retired
    cnpj := some sampleCnpj }

theorem uniqueKeys_brazilianDb : UniqueKeys brazilianDb :=
  uniqueKeys_apply uniqueKeys_empty _

theorem find?_brazilianDb :
    brazilianDb.issuers.find? brazilianIssuer.id.uuid =
      some (issuerRecordOf brazilianIssuer 1) := by
  decide +kernel

/-- The write that the guard refuses is one that the table accepts. -/
theorem resentCnpj_rejected :
    ((sqliteIssuerRepository.applyPatch brazilianIssuer.id 1 resendingPatch).run
        Command.onDb brazilianDb).2 = .ok .applied ∧
      ¬ forall (d : Db) (id : IssuerId) (r : IssuerRecord)
          (patch : IssuerPatch), UniqueKeys d ->
        d.issuers.find? id.uuid = some r ->
        NamesOthers d id patch
          ((patchIssuer sqliteIssuerRepository id r.version patch).run
            Command.onDb d).2 := by
  constructor
  · decide +kernel
  · intro h
    have hnames := h brazilianDb brazilianIssuer.id
      (issuerRecordOf brazilianIssuer 1) resendingPatch uniqueKeys_brazilianDb
      find?_brazilianDb
    have hown : (issuerRecordOf brazilianIssuer 1).cnpj =
        some sampleCnpj.asStr := rfl
    have htaken : storedAny IssuerRecord.cnpj brazilianDb
        (resendingPatch.cnpj.map Cnpj.asStr) = true :=
      storedAny_eq_true.mpr ⟨sampleCnpj.asStr, rfl, brazilianIssuer.id.uuid,
        issuerRecordOf brazilianIssuer 1, find?_brazilianDb, hown⟩
    rcases hnames.cnpj (patchIssuer_duplicateCnpj_iff.mpr htaken) with
      ⟨c, hc, hother⟩
    cases hc
    exact not_heldByOther_of_own uniqueKeys_brazilianDb.cnpj find?_brazilianDb
      hown hother

theorem patchIssuer_namesOthers_retired :
    NamesOthers brazilianDb brazilianIssuer.id
      { IssuerPatch.empty with status := some .retired }
      ((patchIssuer sqliteIssuerRepository brazilianIssuer.id 1
        { IssuerPatch.empty with status := some .retired }).run
        Command.onDb brazilianDb).2 := by
  apply (patchIssuer_namesOthers_iff uniqueKeys_brazilianDb find?_brazilianDb 1
    { IssuerPatch.empty with status := some .retired }).mpr
  exact
    { cnpj := fun c hc => nomatch hc
      lei := fun l hl => nomatch hl }

end Sqlite
end Valqeron
