import Valqeron.Foundation.Answering
import Valqeron.Foundation.VersionedStore
import Valqeron.Sqlite.IssuerRule
import Valqeron.Sqlite.PatchOverlay
import Valqeron.Sqlite.RegisterSecurity
import Valqeron.Sqlite.UniqueKeys

/-!
# The catalogue that the tables stand for

The issuers and securities as the repositories' callers think of them: domain values
with versions, and rules about which of them may stand side by side.  The tables
with their texts, checks, foreign keys and version-guarded statements implement this
catalogue, answer by answer.
-/

namespace Valqeron
namespace Sqlite

open Foundation
open Domain
open Identifiers

structure Catalogue where
  issuers : VersionedStore Uuid Issuer
  securities : VersionedStore Uuid Security

/-- What the caller of a write is told; every fault of the storage is one answer. -/
inductive CallAnswer where
  | inserted
  | outcome (o : WriteOutcome)
  | rejected
deriving DecidableEq

namespace CallAnswer

def ofInsert : Except StorageFault Unit -> CallAnswer
  | .ok _ => inserted
  | .error _ => rejected

def ofWrite : Except StorageFault WriteOutcome -> CallAnswer
  | .ok o => outcome o
  | .error _ => rejected

end CallAnswer

def RepositoryCall.answer (d : Db) : RepositoryCall -> CallAnswer
  | insertIssuer issuer =>
      .ofInsert ((SqliteIssuerRepository.insert issuer).run Command.onDb d).2
  | patchIssuer id expectedVersion patch =>
      .ofWrite ((SqliteIssuerRepository.applyPatch id expectedVersion
        patch).run Command.onDb d).2
  | updateIssuer issuer expectedVersion =>
      .ofWrite ((SqliteIssuerRepository.update issuer expectedVersion).run
        Command.onDb d).2
  | deleteIssuer id expectedVersion =>
      .ofWrite ((SqliteIssuerRepository.delete id expectedVersion).run
        Command.onDb d).2
  | insertSecurity security =>
      .ofInsert ((SqliteSecurityRepository.insert security).run
        SecurityCommand.onDb d).2
  | patchSecurity id expectedVersion patch =>
      .ofWrite ((SqliteSecurityRepository.applyPatch id expectedVersion
        patch).run SecurityCommand.onDb d).2
  | updateSecurity security expectedVersion =>
      .ofWrite ((SqliteSecurityRepository.update security
        expectedVersion).run SecurityCommand.onDb d).2
  | deleteSecurity id expectedVersion =>
      .ofWrite ((SqliteSecurityRepository.delete id expectedVersion).run
        SecurityCommand.onDb d).2

/-!
## The rules of the catalogue
-/

namespace Catalogue

def empty : Catalogue where
  issuers := fun _ => none
  securities := fun _ => none

/-- An issuer may stand under the key, next to all issuers under other keys. -/
structure IssuerFits (c : Catalogue) (id : Uuid) (issuer : Issuer) : Prop where
  brazil : issuer.cnpj ≠ none -> issuer.countryCode ≠ none ->
    issuer.countryCode.map CountryCode.asStr = some brazilCountryCode
  cnpj : forall k other n v, k ≠ id -> c.issuers k = some (other, n) ->
    issuer.cnpj = some v -> other.cnpj ≠ some v
  lei : forall k other n v, k ≠ id -> c.issuers k = some (other, n) ->
    issuer.lei = some v -> other.lei ≠ some v

structure SecurityFits (c : Catalogue) (id : Uuid) (security : Security) :
    Prop where
  accepted : security.Accepted
  isin : forall k other n v, k ≠ id -> c.securities k = some (other, n) ->
    security.isin = some v -> other.isin ≠ some v

structure Referenced (c : Catalogue) (security : Security) : Prop where
  issuer : c.issuers security.issuerId.uuid ≠ none
  underlying : forall id, security.underlyingSecurityId = some id ->
    c.securities id.uuid ≠ none

def IssuerFree (c : Catalogue) (id : Uuid) : Prop :=
  forall k security n, c.securities k = some (security, n) ->
    security.issuerId.uuid ≠ id

def SecurityFree (c : Catalogue) (id : Uuid) : Prop :=
  forall k security n, k ≠ id -> c.securities k = some (security, n) ->
    security.underlyingSecurityId.map SecurityId.uuid ≠ some id

def insertAnswer : StoreAnswer -> CallAnswer
  | .done => .inserted
  | _ => .rejected

/-- A version that does not fit the reported type makes the report fail. -/
def writeAnswer (expectedVersion : Nat) : StoreAnswer -> CallAnswer
  | .done => .outcome .applied
  | .missing => .outcome .missing
  | .mismatch actual =>
      if actual < 2 ^ 32 then
        .outcome (.versionMismatch expectedVersion actual)
      else
        .rejected
  | .refused => .rejected

def withIssuers (c : Catalogue) (answer : StoreAnswer -> CallAnswer)
    (result : VersionedStore Uuid Issuer × StoreAnswer) :
    Catalogue × CallAnswer :=
  ({ c with issuers := result.1 }, answer result.2)

def withSecurities (c : Catalogue) (answer : StoreAnswer -> CallAnswer)
    (result : VersionedStore Uuid Security × StoreAnswer) :
    Catalogue × CallAnswer :=
  ({ c with securities := result.1 }, answer result.2)

def updatedSecurity (security' security : Security) : Security :=
  { security with
    name := security'.name
    status := security'.status
    isin := security'.isin
    cfi := security'.cfi
    drRatio := security'.drRatio }

noncomputable def perform (c : Catalogue) :
    RepositoryCall -> Catalogue × CallAnswer
  | .insertIssuer issuer =>
      c.withIssuers insertAnswer
        (c.issuers.insert issuer.id.uuid issuer
          (c.IssuerFits issuer.id.uuid issuer))
  | .patchIssuer id expectedVersion patch =>
      c.withIssuers (writeAnswer expectedVersion)
        (c.issuers.modify id.uuid expectedVersion
          (IssuerPatch.applyTo patch) (c.IssuerFits id.uuid))
  | .updateIssuer issuer expectedVersion =>
      c.withIssuers (writeAnswer expectedVersion)
        (c.issuers.modify issuer.id.uuid expectedVersion
          (fun old => { issuer with createdAt := old.createdAt })
          (c.IssuerFits issuer.id.uuid))
  | .deleteIssuer id expectedVersion =>
      c.withIssuers (writeAnswer expectedVersion)
        (c.issuers.remove id.uuid expectedVersion (c.IssuerFree id.uuid))
  | .insertSecurity security =>
      c.withSecurities insertAnswer
        (c.securities.insert security.id.uuid security
          (c.SecurityFits security.id.uuid security ∧ c.Referenced security))
  | .patchSecurity id expectedVersion patch =>
      c.withSecurities (writeAnswer expectedVersion)
        (c.securities.modify id.uuid expectedVersion
          (SecurityPatch.applyTo patch) (c.SecurityFits id.uuid))
  | .updateSecurity security expectedVersion =>
      c.withSecurities (writeAnswer expectedVersion)
        (c.securities.modify security.id.uuid expectedVersion
          (updatedSecurity security) (c.SecurityFits security.id.uuid))
  | .deleteSecurity id expectedVersion =>
      c.withSecurities (writeAnswer expectedVersion)
        (c.securities.remove id.uuid expectedVersion (c.SecurityFree id.uuid))

end Catalogue

/-- The tables hold the rows of the catalogue, each under the id of its value. -/
structure Represents (d : Db) (c : Catalogue) : Prop where
  issuers : Encodes issuerRecordOf d.issuers c.issuers
  securities : Encodes recordOf d.securities c.securities
  keys : forall id security n, c.securities id = some (security, n) ->
    security.id.uuid = id

theorem represents_empty : Represents .empty .empty where
  issuers := .empty
  securities := .empty
  keys := by
    intro k security n hstored
    cases hstored

/-!
## The constraints of the tables
-/

theorem taken_encoded {value record : Type} {encode : value -> Nat -> record}
    {t : SortedTable Uuid record} {s : VersionedStore Uuid value}
    (h : Encodes encode t s) {identifier : Type} {text : identifier -> String}
    (hinj : forall {a b}, text a = text b -> a = b)
    {field : value -> Option identifier} {column : record -> Option String}
    (hcolumn : forall x n, column (encode x n) = (field x).map text)
    (id : Uuid) (x : value) :
    taken t id column ((field x).map text) = false <->
      forall k other n v, k ≠ id -> s k = some (other, n) ->
        field x = some v -> field other ≠ some v := by
  rw [← Bool.not_eq_true, taken_eq_true]
  constructor
  · intro hfree k other n v hne hstored hv hother
    apply hfree
    refine ⟨text v, k, encode other n, ?_, hne, ?_, ?_⟩
    · rw [hv]
      rfl
    · rw [h k, hstored]
      rfl
    · rw [hcolumn, hother]
      rfl
  · intro hfits htaken
    rcases htaken with ⟨w, k, r, hvalue, hne, hrow, hr⟩
    rcases Option.map_eq_some_iff.mp hvalue with ⟨v, hv, hw⟩
    rw [h k] at hrow
    rcases Option.map_eq_some_iff.mp hrow with ⟨⟨other, n⟩, hstored, hencoded⟩
    rw [← hencoded, hcolumn] at hr
    rcases Option.map_eq_some_iff.mp hr with ⟨v', hv', hw'⟩
    have hsame : v' = v := hinj (hw'.trans hw.symm)
    rw [hsame] at hv'
    exact hfits k other n v hne hstored hv hv'

theorem lei_asStr_injective {a b : Lei} (h : a.asStr = b.asStr) : a = b := by
  have hparse := Lei.parse_asStr a
  rw [h, Lei.parse_asStr b] at hparse
  exact (Except.ok.inj hparse).symm

theorem isin_asStr_injective {a b : Isin} (h : a.asStr = b.asStr) : a = b := by
  have hparse := Isin.new_asStr a
  rw [h, Isin.new_asStr b] at hparse
  exact (Except.ok.inj hparse).symm

theorem countryCode_length (code : CountryCode) : code.asStr.length = 2 := by
  unfold CountryCode.asStr
  rw [← String.length_toList, toList_asciiText, List.length_map]
  exact code.bytes.2

/-- The checks of an issuer's row only leave the rule about Brazil to ask for. -/
theorem failedCheck_issuerRecordOf (issuer : Issuer) (n : Nat) :
    (issuerRecordOf issuer n).failedCheck = none <->
      (issuer.cnpj ≠ none -> issuer.countryCode ≠ none ->
        issuer.countryCode.map CountryCode.asStr = some brazilCountryCode) := by
  have hcountry : (issuerRecordOf issuer n).countryCodeCheck.passes = true := by
    unfold IssuerRecord.countryCodeCheck
    rw [Truth.passes_or, Truth.passes_isNull]
    unfold issuerRecordOf
    cases issuer.countryCode with
    | none => exact Or.inl rfl
    | some code =>
        right
        rw [Option.map_some, Option.map_some, countryCode_length]
        rfl
  rw [IssuerRecord.failedCheck_eq_none, IssuerRecord.statusCheck_passes,
    IssuerRecord.cnpjCheck_passes]
  unfold issuerRecordOf at hcountry ⊢
  simp only [Option.map_eq_none_iff]
  constructor
  · intro hchecks hcnpj hcode
    rcases hchecks.right.right with hnone | hnone | hbrazil
    · exact absurd hnone hcnpj
    · exact absurd hnone hcode
    · exact hbrazil
  · intro hbrazil
    refine ⟨IssuerStatus.asStr_mem issuer.status, hcountry, ?_⟩
    by_cases hcnpj : issuer.cnpj = none
    · exact Or.inl hcnpj
    · by_cases hcode : issuer.countryCode = none
      · exact Or.inr (Or.inl hcode)
      · exact Or.inr (Or.inr (hbrazil hcnpj hcode))

variable {d : Db} {c : Catalogue}

theorem rowConflict_iff (h : Represents d c) (id : Uuid) (issuer : Issuer)
    (n : Nat) :
    rowConflict d.issuers id (issuerRecordOf issuer n) = none <->
      c.IssuerFits id issuer := by
  have hcnpj : taken d.issuers id IssuerRecord.cnpj
      (issuerRecordOf issuer n).cnpj = false <-> _ :=
    taken_encoded h.issuers Cnpj.asStr_injective
      (fun _ _ => rfl) id issuer
  have hlei : taken d.issuers id IssuerRecord.lei
      (issuerRecordOf issuer n).lei = false <-> _ :=
    taken_encoded h.issuers lei_asStr_injective
      (fun _ _ => rfl) id issuer
  rw [rowConflict_eq_none, uniqueConflict_eq_none, failedCheck_issuerRecordOf,
    hcnpj, hlei]
  constructor
  · intro hall
    exact ⟨hall.left, hall.right.left, hall.right.right⟩
  · intro hfits
    exact ⟨hfits.brazil, hfits.cnpj, hfits.lei⟩

theorem isinTaken_iff (h : Represents d c) (id : Uuid) (security : Security) :
    isinTaken d.securities id (security.isin.map Isin.asStr) = false <->
      forall k other n v, k ≠ id -> c.securities k = some (other, n) ->
        security.isin = some v -> other.isin ≠ some v :=
  taken_encoded h.securities isin_asStr_injective (fun _ _ => rfl) id security

theorem securityConflict_iff (h : Represents d c) {id : Uuid}
    {security : Security} (hid : security.id.uuid = id) (n : Nat) :
    securityConflict d.securities id (recordOf security n) = none <->
      c.SecurityFits id security := by
  rw [securityConflict_eq_none, SecurityRecord.failedCheck_eq_none]
  have hisin : isinTaken d.securities id (recordOf security n).isin = false <->
      _ := isinTaken_iff h id security
  rw [hisin, ← hid]
  constructor
  · intro hboth
    exact ⟨accepted_of_checksPass hboth.left, hboth.right⟩
  · intro hfits
    exact ⟨checksPass_of_accepted hfits.accepted n, hfits.isin⟩

/-!
## One statement
-/

theorem ofWrite_zeroRows {value row : Type} {encode : value -> Nat -> row}
    {versionOf : row -> Nat} (hversion : forall v n, versionOf (encode v n) = n)
    (v : Nat) (stored : Option (value × Nat)) :
    CallAnswer.ofWrite ((zeroRowsOutcome v
        ((stored.map (fun e => encode e.1 e.2)).map versionOf)).mapError
          backend) =
      Catalogue.writeAnswer v
        (stored.elim .missing (fun e => .mismatch e.2)) := by
  cases stored with
  | none => rfl
  | some e =>
      simp only [Option.map_some, hversion]
      unfold zeroRowsOutcome
      simp only [Option.elim_some, Catalogue.writeAnswer]
      split
      · rfl
      · rfl

/-- A write and its answer are those of the catalogue. -/
def Refines (result : Db × CallAnswer) (spec : Catalogue × CallAnswer) : Prop :=
  Represents result.1 spec.1 ∧ result.2 = spec.2

/-!
A version-guarded write is of one table, and that table stands for one of the stores
of the catalogue; what follows holds of both.
-/

structure RowWrite {value record : Type} (d : Db) (c : Catalogue)
    (encode : value -> Nat -> record) (version : record -> Nat)
    (t : SortedTable Uuid record) (stored : VersionedStore Uuid value)
    (put : VersionedStore Uuid value -> Catalogue)
    (versionAt : Db -> Option Nat) (id : Uuid) : Prop where
  represents : Represents d c
  encodes : Encodes encode t stored
  versions : forall x n, version (encode x n) = n
  asks : versionAt d = (t.find? id).map version
  puts : put stored = c

namespace RowWrite

variable {value record : Type} {encode : value -> Nat -> record}
variable {version : record -> Nat} {t : SortedTable Uuid record}
variable {stored : VersionedStore Uuid value}
variable {put : VersionedStore Uuid value -> Catalogue}
variable {versionAt : Db -> Option Nat} {id : Uuid} {v : Nat}
variable {conflict : record -> Option SqlError} {store : record -> Db}
variable {result : Db × Except StorageFault WriteOutcome}

/-- A guarded write, by the value that the catalogue has. -/
theorem refines
    (h : RowWrite d c encode version t stored put versionAt id)
    (hresult : result = guardedResult versionAt v d
      (writeRow d (t.rowAt version id v) conflict store))
    {spec : VersionedStore Uuid value × StoreAnswer}
    (hstale : (forall x, stored id ≠ some (x, v)) ->
      spec = (stored, (stored id).elim .missing (fun e => .mismatch e.2)))
    (hfound : forall x, stored id = some (x, v) ->
      (conflict (encode x v) = none ->
        Represents (store (encode x v)) (put spec.1) ∧ spec.2 = .done) ∧
      (forall e, conflict (encode x v) = some e ->
        spec = (stored, .refused))) :
    Refines (result.1, .ofWrite result.2)
      (put spec.1, Catalogue.writeAnswer v spec.2) := by
  have hunchanged : Represents d (put stored) := by
    rw [h.puts]
    exact h.represents
  rw [hresult]
  by_cases hthere : exists x, stored id = some (x, v)
  · rcases hthere with ⟨x, hx⟩
    have hrow := h.encodes.rowAt_of_some h.versions hx
    rcases hfound x hx with ⟨hfree, hrefused⟩
    cases hconflict : conflict (encode x v) with
    | none =>
        rcases hfree hconflict with ⟨hafter, hdone⟩
        rw [writeRow_of_free hrow hconflict, hdone]
        exact ⟨hafter, rfl⟩
    | some e =>
        rw [writeRow_of_conflict hrow hconflict, hrefused e hconflict]
        exact ⟨hunchanged, rfl⟩
  · have hnot : forall x, stored id ≠ some (x, v) :=
      fun x heq => hthere ⟨x, heq⟩
    rw [writeRow_of_none (h.encodes.rowAt_eq_none h.versions hnot),
      hstale hnot]
    refine ⟨hunchanged, ?_⟩
    show CallAnswer.ofWrite
      ((zeroRowsOutcome v (versionAt d)).mapError backend) = _
    rw [h.asks, h.encodes id]
    exact ofWrite_zeroRows h.versions v (stored id)

theorem modify_refines
    (h : RowWrite d c encode version t stored put versionAt id)
    (hresult : result = guardedResult versionAt v d
      (writeRow d (t.rowAt version id v) conflict store))
    {change : value -> value} {allowed : value -> Prop}
    (hallowed : forall x, stored id = some (x, v) ->
      (conflict (encode x v) = none <-> allowed (change x)))
    (hstored : forall x, stored id = some (x, v) ->
      Represents (store (encode x v))
        (put (Function.update stored id (some (change x, v + 1))))) :
    Refines (result.1, .ofWrite result.2)
      (put (stored.modify id v change allowed).1,
        Catalogue.writeAnswer v (stored.modify id v change allowed).2) := by
  apply h.refines hresult VersionedStore.modify_of_stale
  intro x hx
  rcases VersionedStore.modify_of_some hx change allowed with ⟨hdone, hrefused⟩
  constructor
  · intro hfree
    rw [hdone ((hallowed x hx).mp hfree)]
    exact ⟨hstored x hx, rfl⟩
  · intro e hconflict
    apply hrefused
    intro hok
    rw [(hallowed x hx).mpr hok] at hconflict
    cases hconflict

theorem remove_refines
    (h : RowWrite d c encode version t stored put versionAt id)
    (hresult : result = guardedResult versionAt v d
      (writeRow d (t.rowAt version id v) conflict store))
    {allowed : Prop} (hallowed : forall r, conflict r = none <-> allowed)
    (herased : forall r, Represents (store r)
      (put (Function.update stored id none))) :
    Refines (result.1, .ofWrite result.2)
      (put (stored.remove id v allowed).1,
        Catalogue.writeAnswer v (stored.remove id v allowed).2) := by
  apply h.refines hresult VersionedStore.remove_of_stale
  intro x hx
  rcases VersionedStore.remove_of_some hx allowed with ⟨hdone, hrefused⟩
  constructor
  · intro hfree
    rw [hdone ((hallowed _).mp hfree)]
    exact ⟨herased _, rfl⟩
  · intro e hconflict
    apply hrefused
    intro hok
    rw [(hallowed _).mpr hok] at hconflict
    cases hconflict

end RowWrite

theorem Represents.issuerWrite (h : Represents d c) (id : Uuid) :
    RowWrite d c issuerRecordOf IssuerRecord.version d.issuers c.issuers
      (fun s => { c with issuers := s }) (issuerVersionAt id) id where
  represents := h
  encodes := h.issuers
  versions := fun _ _ => rfl
  asks := rfl
  puts := rfl

theorem Represents.securityWrite (h : Represents d c) (id : Uuid) :
    RowWrite d c recordOf SecurityRecord.version d.securities c.securities
      (fun s => { c with securities := s }) (securityVersionAt id) id where
  represents := h
  encodes := h.securities
  versions := fun _ _ => rfl
  asks := rfl
  puts := rfl

/-!
## The writes of the two repositories
-/

namespace Represents

theorem storeIssuer (h : Represents d c) (id : Uuid) (issuer : Issuer)
    (n : Nat) :
    Represents (d.storeIssuer id (issuerRecordOf issuer n))
      { c with issuers := Function.update c.issuers id (some (issuer, n)) } where
  issuers := h.issuers.insert id issuer n
  securities := h.securities
  keys := h.keys

theorem eraseIssuer (h : Represents d c) (id : Uuid) :
    Represents { d with issuers := d.issuers.erase id }
      { c with issuers := Function.update c.issuers id none } where
  issuers := h.issuers.erase id
  securities := h.securities
  keys := h.keys

theorem storeSecurity (h : Represents d c) {id : Uuid} {security : Security}
    (hid : security.id.uuid = id) (n : Nat) :
    Represents (d.storeSecurity id (recordOf security n))
      { c with
        securities := Function.update c.securities id (some (security, n)) } where
  issuers := h.issuers
  securities := h.securities.insert id security n
  keys := by
    intro k other m hk
    simp only at hk
    rcases eq_or_ne k id with heq | hne
    · subst heq
      rw [Function.update_self] at hk
      cases hk
      exact hid
    · rw [Function.update_of_ne hne] at hk
      exact h.keys k other m hk

theorem eraseSecurity (h : Represents d c) (id : Uuid) :
    Represents { d with securities := d.securities.erase id }
      { c with securities := Function.update c.securities id none } where
  issuers := h.issuers
  securities := h.securities.erase id
  keys := by
    intro k other m hk
    simp only at hk
    rcases eq_or_ne k id with heq | hne
    · subst heq
      rw [Function.update_self] at hk
      cases hk
    · rw [Function.update_of_ne hne] at hk
      exact h.keys k other m hk

end Represents

theorem modifyIssuer_refines (h : Represents d c) {s : Statement} {id : Uuid}
    {v : Nat} {set : IssuerRecord -> IssuerRecord} {change : Issuer -> Issuer}
    (hexec : s.exec d = d.updateIssuerWhere id v set)
    (hset : forall issuer n,
      { set (issuerRecordOf issuer n) with version := n + 1 } =
        issuerRecordOf (change issuer) (n + 1)) :
    Refines
      (((guardedWrite s id v).run Command.onDb d).1,
        .ofWrite ((guardedWrite s id v).run Command.onDb d).2)
      (c.withIssuers (Catalogue.writeAnswer v)
        (c.issuers.modify id v change (c.IssuerFits id))) := by
  have hresult := (run_issuerWrite s id v d).trans
    (congrArg (guardedResult (issuerVersionAt id) v d)
      (hexec.trans (Db.updateIssuerWhere_eq d id v set)))
  have hrow : forall issuer, { set (issuerRecordOf issuer v) with
      version := (issuerRecordOf issuer v).version + 1 } =
        issuerRecordOf (change issuer) (v + 1) := fun issuer => hset issuer v
  apply (h.issuerWrite id).modify_refines hresult
  · intro issuer _
    simp only [hrow]
    exact rowConflict_iff h id (change issuer) (v + 1)
  · intro issuer _
    simp only [hrow]
    exact h.storeIssuer id (change issuer) (v + 1)

theorem modifySecurity_refines (h : Represents d c) {s : SecurityStatement}
    {id : Uuid} {v : Nat} {set : SecurityRecord -> SecurityRecord}
    {change : Security -> Security}
    (hexec : s.exec d = d.updateSecurityWhere id v set)
    (hset : forall security n,
      { set (recordOf security n) with version := n + 1 } =
        recordOf (change security) (n + 1))
    (hkeeps : forall security, (change security).id = security.id) :
    Refines
      (((SqliteSecurityRepository.guardedWrite s id v).run
          SecurityCommand.onDb d).1,
        .ofWrite ((SqliteSecurityRepository.guardedWrite s id v).run
          SecurityCommand.onDb d).2)
      (c.withSecurities (Catalogue.writeAnswer v)
        (c.securities.modify id v change (c.SecurityFits id))) := by
  have hresult := (run_securityWrite s id v d).trans
    (congrArg (guardedResult (securityVersionAt id) v d)
      (hexec.trans (Db.updateSecurityWhere_eq d id v set)))
  have hrow : forall security, { set (recordOf security v) with
      version := (recordOf security v).version + 1 } =
        recordOf (change security) (v + 1) := fun security => hset security v
  have hid : forall security, c.securities id = some (security, v) ->
      (change security).id.uuid = id := by
    intro security hsecurity
    rw [hkeeps]
    exact h.keys id security v hsecurity
  apply (h.securityWrite id).modify_refines hresult
  · intro security hsecurity
    simp only [hrow]
    exact securityConflict_iff h (hid security hsecurity) (v + 1)
  · intro security hsecurity
    simp only [hrow]
    exact h.storeSecurity (hid security hsecurity) (v + 1)

theorem insertIssuer_refines (h : Represents d c) (issuer : Issuer) :
    Refines
      (((SqliteIssuerRepository.insert issuer).run Command.onDb d).1,
        .ofInsert ((SqliteIssuerRepository.insert issuer).run Command.onDb d).2)
      (c.perform (.insertIssuer issuer)) := by
  have hfree := h.issuers.eq_none_iff issuer.id.uuid
  have hiff := rowConflict_iff h issuer.id.uuid issuer 1
  have heffect := (insertStatement issuer).exec_effect d
  rw [run_insert]
  show Refines _ (c.withIssuers Catalogue.insertAnswer
    (c.issuers.insert issuer.id.uuid issuer
      (c.IssuerFits issuer.id.uuid issuer)))
  by_cases hallowed : c.issuers issuer.id.uuid = none ∧
      c.IssuerFits issuer.id.uuid issuer
  · rcases rowConflict_eq_none.mp (hiff.mpr hallowed.right) with
      ⟨hchecks, hunique⟩
    have hexec : (insertStatement issuer).exec d =
        .ok (d.storeIssuer issuer.id.uuid (issuerRecordOf issuer 1), 1) := by
      unfold insertStatement Statement.exec
      have hnew := insertConflict_eq_none.mpr
        ⟨hfree.mpr hallowed.left, hunique⟩
      unfold issuerRecordOf at hchecks hnew
      simp only [hchecks, hnew]
      rfl
    rw [Statement.apply_ok hexec,
      VersionedStore.insert_of_allowed hallowed.left hallowed.right]
    exact ⟨h.storeIssuer issuer.id.uuid issuer 1, rfl⟩
  · rw [VersionedStore.insert_of_refused hallowed]
    cases hexec : (insertStatement issuer).exec d with
    | error e =>
        rw [Statement.apply_error hexec]
        exact ⟨h, rfl⟩
    | ok result =>
        exfalso
        rcases result with ⟨d', n⟩
        rw [hexec] at heffect
        cases heffect with
        | missed v hversion _ => cases hversion
        | inserted r hrow hnew hok =>
            rw [inserted_insertStatement] at hrow
            cases hrow
            exact hallowed ⟨hfree.mp hnew, hiff.mp hok⟩
        | updated v set r hversion _ _ _ => cases hversion
        | erased v r hversion _ => cases hversion

theorem referenced_iff (h : Represents d c) (security : Security) :
    c.Referenced security <->
      (d.issuers.find? security.issuerId.uuid).isSome = true ∧
        underlyingKnown d security = true := by
  have hissuer : (d.issuers.find? security.issuerId.uuid).isSome = true <->
      c.issuers security.issuerId.uuid ≠ none := by
    rw [h.issuers.isSome, Option.isSome_iff_ne_none]
  have hunderlying : underlyingKnown d security = true <->
      forall id, security.underlyingSecurityId = some id ->
        c.securities id.uuid ≠ none := by
    unfold underlyingKnown
    cases security.underlyingSecurityId with
    | none => simp
    | some id => simp [h.securities.isSome, Option.isSome_iff_ne_none]
  rw [hissuer, hunderlying]
  exact ⟨fun hr => ⟨hr.issuer, hr.underlying⟩, fun hb => ⟨hb.left, hb.right⟩⟩

theorem exec_insertSecurity_refused {security : Security}
    (h : ¬ security.Accepted) :
    exists e, (insertSecurityStatement security).exec d = .error e := by
  cases hexec : (insertSecurityStatement security).exec d with
  | error e => exact ⟨e, rfl⟩
  | ok result =>
      exfalso
      rcases result with ⟨d', n⟩
      have heffect := (insertSecurityStatement security).exec_effect d
      rw [hexec] at heffect
      cases heffect with
      | missed v hversion _ => cases hversion
      | inserted r hrow hnew hok hreferences =>
          have hr : some (recordOf security 1) = some r := hrow
          cases hr
          exact h (accepted_of_checksPass (SecurityRecord.failedCheck_eq_none.mp
            (securityConflict_eq_none.mp hok).left))
      | updated v set r hversion _ _ _ => cases hversion
      | erased v r hversion _ _ => cases hversion

theorem insertSecurity_refines (h : Represents d c) (security : Security) :
    Refines
      (((SqliteSecurityRepository.insert security).run
          SecurityCommand.onDb d).1,
        .ofInsert ((SqliteSecurityRepository.insert security).run
          SecurityCommand.onDb d).2)
      (c.perform (.insertSecurity security)) := by
  have hfree := h.securities.eq_none_iff security.id.uuid
  have hisin := isinTaken_iff h security.id.uuid security
  have hreferenced := referenced_iff h security
  rw [SqliteSecurityRepository.run_insert]
  show Refines _ (c.withSecurities Catalogue.insertAnswer
    (c.securities.insert security.id.uuid security
      (c.SecurityFits security.id.uuid security ∧ c.Referenced security)))
  by_cases hallowed : c.securities security.id.uuid = none ∧
      c.SecurityFits security.id.uuid security ∧ c.Referenced security
  · have hfresh := hfree.mpr hallowed.left
    have hknown : isinKnown d security = false := by
      rw [← isinTaken_eq_isinKnown hfresh]
      exact hisin.mpr hallowed.right.left.isin
    rcases hreferenced.mp hallowed.right.right with ⟨hissuer, hunderlying⟩
    have hexec : (insertSecurityStatement security).exec d =
        .ok (d.withSecurity security, 1) := by
      rw [exec_insertSecurity hallowed.right.left.accepted, hfresh, hknown,
        hissuer, hunderlying]
      rfl
    rw [SecurityStatement.apply_ok hexec,
      VersionedStore.insert_of_allowed hallowed.left hallowed.right]
    exact ⟨h.storeSecurity rfl 1, rfl⟩
  · rw [VersionedStore.insert_of_refused hallowed]
    cases hexec : (insertSecurityStatement security).exec d with
    | error e =>
        rw [SecurityStatement.apply_error hexec]
        exact ⟨h, rfl⟩
    | ok result =>
        exfalso
        rcases result with ⟨d', n⟩
        by_cases haccepted : security.Accepted
        · have hadmits := (exec_insertSecurity_ok haccepted hexec).left
          have hknown := (admits_iff.mp hadmits).right.left
          rw [← isinTaken_eq_isinKnown hadmits.fresh] at hknown
          exact hallowed ⟨hfree.mp hadmits.fresh, ⟨haccepted, hisin.mp hknown⟩,
            hreferenced.mpr (admits_iff.mp hadmits).right.right⟩
        · rcases exec_insertSecurity_refused (d := d) haccepted with ⟨e, herror⟩
          rw [hexec] at herror
          cases herror

theorem issuerFree_iff (h : Represents d c) (id : Uuid) :
    d.securities.rows.any (fun entry => entry.2.issuerId == id) = false <->
      c.IssuerFree id := by
  rw [h.securities.any_eq_false (p := fun _ r => r.issuerId == id)]
  simp only [beq_eq_false_iff_ne]
  exact Iff.rfl

theorem securityFree_iff (h : Represents d c) (id : Uuid) :
    Db.isReferenced { d with securities := d.securities.erase id } id = false <->
      c.SecurityFree id := by
  unfold Db.isReferenced
  rw [(h.securities.erase id).any_eq_false
    (p := fun _ r => r.underlyingSecurityId == some id)]
  simp only [beq_eq_false_iff_ne]
  constructor
  · intro hfree k security n hne hstored
    apply hfree k security n
    rw [Function.update_of_ne hne]
    exact hstored
  · intro hfree k security n hstored
    rcases eq_or_ne k id with heq | hne
    · rw [heq, Function.update_self] at hstored
      cases hstored
    · rw [Function.update_of_ne hne] at hstored
      exact hfree k security n hne hstored

theorem foreignKey_eq_none {referenced : Bool} :
    (if referenced then some SqlError.foreignKey else none) = none <->
      referenced = false := by
  cases referenced with
  | true => simp
  | false => simp

theorem deleteIssuer_refines (h : Represents d c) (id : IssuerId) (v : Nat) :
    Refines
      (((SqliteIssuerRepository.delete id v).run Command.onDb d).1,
        .ofWrite ((SqliteIssuerRepository.delete id v).run Command.onDb d).2)
      (c.perform (.deleteIssuer id v)) := by
  have hresult := (run_issuerWrite (deleteStatement id v) id.uuid v d).trans
    (congrArg (guardedResult (issuerVersionAt id.uuid) v d)
      (Statement.exec_deleteIssuer d id.uuid v))
  apply (h.issuerWrite id.uuid).remove_refines hresult
  · intro _
    exact foreignKey_eq_none.trans (issuerFree_iff h id.uuid)
  · intro _
    exact h.eraseIssuer id.uuid

theorem deleteSecurity_refines (h : Represents d c) (id : SecurityId)
    (v : Nat) :
    Refines
      (((SqliteSecurityRepository.delete id v).run SecurityCommand.onDb d).1,
        .ofWrite ((SqliteSecurityRepository.delete id v).run
          SecurityCommand.onDb d).2)
      (c.perform (.deleteSecurity id v)) := by
  have hresult :=
    (run_securityWrite (deleteSecurityStatement id v) id.uuid v d).trans
      (congrArg (guardedResult (securityVersionAt id.uuid) v d)
        (SecurityStatement.exec_deleteSecurity d id.uuid v))
  apply (h.securityWrite id.uuid).remove_refines hresult
  · intro _
    exact foreignKey_eq_none.trans (securityFree_iff h id.uuid)
  · intro _
    exact h.eraseSecurity id.uuid

/-- Every write leaves what the catalogue's write leaves, with the same answer. -/
theorem RepositoryCall.run_refines (call : RepositoryCall)
    (h : Represents d c) :
    Refines (call.run d, call.answer d) (c.perform call) := by
  unfold RepositoryCall.run
  cases call with
  | insertIssuer issuer =>
      rw [RepositoryCall.perform, reported_fst]
      exact insertIssuer_refines h issuer
  | patchIssuer id v patch =>
      rw [RepositoryCall.perform, reported_fst]
      exact modifyIssuer_refines h rfl (issuerRecordOf_patch id v patch rfl)
  | updateIssuer issuer v =>
      rw [RepositoryCall.perform, reported_fst]
      exact modifyIssuer_refines h
        rfl (issuerRecordOf_update issuer v rfl)
  | deleteIssuer id v =>
      rw [RepositoryCall.perform, reported_fst]
      exact deleteIssuer_refines h id v
  | insertSecurity security =>
      rw [RepositoryCall.perform, reported_fst]
      exact insertSecurity_refines h security
  | patchSecurity id v patch =>
      rw [RepositoryCall.perform, reported_fst]
      exact modifySecurity_refines h rfl (recordOf_patch id v patch rfl)
        (fun _ => rfl)
  | updateSecurity security v =>
      rw [RepositoryCall.perform, reported_fst]
      exact modifySecurity_refines h
        rfl
        (recordOf_update security v rfl) (fun _ => rfl)
  | deleteSecurity id v =>
      rw [RepositoryCall.perform, reported_fst]
      exact deleteSecurity_refines h id v

/-!
## Whole runs
-/

/-- The answers of a run of calls, in order, and what the last one leaves. -/
def runAnswers (d : Db) (calls : List RepositoryCall) : Db × List CallAnswer :=
  answersFrom (fun d call => (call.run d, call.answer d)) d calls

noncomputable def Catalogue.performAll (c : Catalogue)
    (calls : List RepositoryCall) : Catalogue × List CallAnswer :=
  answersFrom Catalogue.perform c calls

/-- From the empty schema on, the repositories answer as the catalogue does. -/
theorem answers_refine_catalogue (calls : List RepositoryCall) :
    (runAnswers Db.empty calls).2 = (Catalogue.empty.performAll calls).2 ∧
      Represents (runCalls Db.empty calls)
        (Catalogue.empty.performAll calls).1 := by
  have hrun : Represents (runAnswers Db.empty calls).1
        (Catalogue.empty.performAll calls).1 ∧
      (runAnswers Db.empty calls).2 = (Catalogue.empty.performAll calls).2 :=
    answersFrom_refines (fun _ _ call h => call.run_refines h) calls
      represents_empty
  have hleft : (runAnswers Db.empty calls).1 = runCalls Db.empty calls :=
    answersFrom_fst _ calls Db.empty
  rw [hleft] at hrun
  exact ⟨hrun.right, hrun.left⟩

end Sqlite
end Valqeron
