import Valqeron.Engine.IssuerWrites
import Valqeron.Sqlite.Catalogue

/-!
# Writes on the catalogue

What the issuer service says of its writes, in the terms of the catalogue: a CNPJ or
LEI that an issuer of the catalogue has is a duplicate, and the other writes are
those of the repositories.
-/

namespace Valqeron
namespace Engine

open Foundation
open Domain
open Identifiers
open Sqlite

inductive ServiceAnswer where
  | duplicateCnpj
  | duplicateLei
  | told (a : CallAnswer)
deriving DecidableEq

def ServiceAnswer.of {value : Type}
    (told : Except StorageFault value -> CallAnswer) :
    Except (DuplicateIssuerError StorageFault) value -> ServiceAnswer
  | .ok v => .told (told (.ok v))
  | .error .duplicateCnpj => .duplicateCnpj
  | .error .duplicateLei => .duplicateLei
  | .error (.storage e) => .told (told (.error e))

def WriteResult.answer : WriteResult -> ServiceAnswer
  | .registered r => .of .ofInsert r
  | .patched r => .of .ofWrite r
  | .deleted r => .told (.ofWrite r)

/-!
## The services on the catalogue
-/

def HasValue {identifier : Type} (c : Catalogue)
    (field : Issuer -> Option identifier) (value : Option identifier) : Prop :=
  exists v k issuer n, value = some v ∧ c.issuers k = some (issuer, n) ∧
    field issuer = some v

open Classical in
/-- The guard of `register_issuer` and `patch_issuer` before their call. -/
noncomputable def checkedCall (c : Catalogue) (cnpj : Option Cnpj)
    (lei : Option Lei) (call : RepositoryCall) : Catalogue × ServiceAnswer :=
  if HasValue c Issuer.cnpj cnpj then
    (c, .duplicateCnpj)
  else if HasValue c Issuer.lei lei then
    (c, .duplicateLei)
  else
    ((c.perform call).1, .told (c.perform call).2)

namespace IssuerWrite

noncomputable def onCatalogue (c : Catalogue) :
    IssuerWrite -> Catalogue × ServiceAnswer
  | register issuer =>
      checkedCall c issuer.cnpj issuer.lei (.insertIssuer issuer)
  | patch id expectedVersion p =>
      checkedCall c p.cnpj p.lei (.patchIssuer id expectedVersion p)
  | delete id expectedVersion =>
      ((c.perform (.deleteIssuer id expectedVersion)).1,
        .told (c.perform (.deleteIssuer id expectedVersion)).2)

end IssuerWrite

/-- A dry run is answered like the write itself and leaves no trace. -/
noncomputable def WriteRequest.onCatalogue (c : Catalogue)
    (req : WriteRequest) : Catalogue × ServiceAnswer :=
  (if req.dryRun then c else (req.write.onCatalogue c).1,
    (req.write.onCatalogue c).2)

/-!
## One request
-/

variable {d : Db} {c : Catalogue}

theorem storedAny_iff (h : Represents d c) {identifier : Type}
    {text : identifier -> String}
    (hinj : forall {a b}, text a = text b -> a = b)
    {field : Issuer -> Option identifier}
    {column : IssuerRecord -> Option String}
    (hcolumn : forall issuer n,
      column (issuerRecordOf issuer n) = (field issuer).map text)
    (value : Option identifier) :
    storedAny column d (value.map text) = true <-> HasValue c field value := by
  rw [storedAny_eq_true]
  constructor
  · intro hstored
    rcases hstored with ⟨w, hvalue, k, r, hrow, hr⟩
    rcases Option.map_eq_some_iff.mp hvalue with ⟨v, hv, hw⟩
    rw [h.issuers k] at hrow
    rcases Option.map_eq_some_iff.mp hrow with ⟨⟨issuer, n⟩, hissuer, hencoded⟩
    rw [← hencoded, hcolumn] at hr
    rcases Option.map_eq_some_iff.mp hr with ⟨v', hv', hw'⟩
    have hsame : v' = v := hinj (hw'.trans hw.symm)
    exact ⟨v, k, issuer, n, hv, hissuer, by rw [hv', hsame]⟩
  · intro hhas
    rcases hhas with ⟨v, k, issuer, n, hv, hissuer, hfield⟩
    refine ⟨text v, by rw [hv]; rfl, k, issuerRecordOf issuer n, ?_, ?_⟩
    · rw [h.issuers k, hissuer]
      rfl
    · rw [hcolumn, hfield]
      rfl

theorem withDuplicateCheck_refines (h : Represents d c) {value : Type}
    {write : SqlProgram (Except StorageFault value)}
    {told : Except StorageFault value -> CallAnswer} {call : RepositoryCall}
    (hcall : Refines ((write.run Command.onDb d).1,
      told (write.run Command.onDb d).2) (c.perform call))
    (cnpj : Option Cnpj) (lei : Option Lei) :
    Represents ((withDuplicateCheck sqliteIssuerRepository cnpj lei write).run
          Command.onDb d).1 (checkedCall c cnpj lei call).1 ∧
      ServiceAnswer.of told ((withDuplicateCheck sqliteIssuerRepository cnpj lei
          write).run Command.onDb d).2 = (checkedCall c cnpj lei call).2 := by
  have hcnpj : storedAny IssuerRecord.cnpj d (cnpj.map Cnpj.asStr) = true <->
      HasValue c Issuer.cnpj cnpj :=
    storedAny_iff h Cnpj.asStr_injective (fun _ _ => rfl) cnpj
  have hlei : storedAny IssuerRecord.lei d (lei.map Lei.asStr) = true <->
      HasValue c Issuer.lei lei :=
    storedAny_iff h lei_asStr_injective (fun _ _ => rfl) lei
  rw [run_withDuplicateCheck]
  unfold checkedCall
  by_cases htaken : HasValue c Issuer.cnpj cnpj
  · rw [if_pos htaken, if_pos (hcnpj.mpr htaken)]
    exact ⟨h, rfl⟩
  · rw [if_neg htaken, if_neg (fun hstored => htaken (hcnpj.mp hstored))]
    by_cases htaken' : HasValue c Issuer.lei lei
    · rw [if_pos htaken', if_pos (hlei.mpr htaken')]
      exact ⟨h, rfl⟩
    · rw [if_neg htaken', if_neg (fun hstored => htaken' (hlei.mp hstored))]
      refine ⟨hcall.left, ?_⟩
      have hanswer : told (write.run Command.onDb d).2 = (c.perform call).2 :=
        hcall.right
      rw [← hanswer]
      cases (write.run Command.onDb d).2 with
      | error e => rfl
      | ok v => rfl

theorem write_refines (h : Represents d c) (write : IssuerWrite) :
    Represents (write.program.run Command.onDb d).1 (write.onCatalogue c).1 ∧
      (write.program.run Command.onDb d).2.answer =
        (write.onCatalogue c).2 := by
  cases write with
  | register issuer =>
      unfold IssuerWrite.program
      rw [Program.run_bind]
      exact withDuplicateCheck_refines h (insertIssuer_refines h issuer)
        issuer.cnpj issuer.lei
  | patch id v p =>
      unfold IssuerWrite.program
      rw [Program.run_bind]
      exact withDuplicateCheck_refines h
        (modifyIssuer_refines h rfl (issuerRecordOf_patch id v p rfl))
        p.cnpj p.lei
  | delete id v =>
      unfold IssuerWrite.program
      rw [Program.run_bind]
      have hdelete := deleteIssuer_refines h id v
      refine ⟨hdelete.left, ?_⟩
      exact congrArg ServiceAnswer.told hdelete.right

/-- What a request does on a database of its own, it does on the catalogue. -/
theorem serve_refines (h : Represents d c) (req : WriteRequest) :
    Represents (req.serve d).1 (req.onCatalogue c).1 ∧
      (req.serve d).2.answer = (req.onCatalogue c).2 := by
  have hwrite := write_refines h req.write
  unfold WriteRequest.serve WriteRequest.onCatalogue
  cases req.dryRun with
  | true => exact ⟨h, hwrite.right⟩
  | false => exact hwrite

end Engine
end Valqeron
