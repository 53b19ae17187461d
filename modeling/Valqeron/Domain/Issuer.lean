import Valqeron.Domain.Common
import Valqeron.Foundation.Text
import Valqeron.Identifiers.Cnpj
import Valqeron.Identifiers.Lei
import Valqeron.Identifiers.CountryCode

/-!
# Issuers

The issuer, its builder with the rule that a CNPJ implies Brazil, its patches,
the repository interface and the services over it.  The interface is generic in
the monad in which a repository works, in its faults and in what it returns for a
stored issuer.
-/

namespace Valqeron
namespace Domain

open Foundation
open Identifiers

def issuerNameMaxLen : Nat := 200

def brazilCountryCode : String := "BR"

inductive IssuerNameError where
  | empty
  | tooLong (max : Nat)
deriving DecidableEq, Repr

def IssuerNameError.message : IssuerNameError -> String
  | empty => "issuer name cannot be empty"
  | tooLong max => s!"issuer name exceeds maximum length of {max} characters"

structure IssuerName where
  value : String
  trimmed : trim value.toList = value.toList
  length_pos : 0 < value.toList.length
  length_le : value.toList.length <= issuerNameMaxLen
deriving DecidableEq

theorem dropWhile_of_head {a : Type} {p : a -> Bool} {l : List a}
    (h : forall x, l.head? = some x -> p x = false) : l.dropWhile p = l := by
  cases l with
  | nil => rfl
  | cons x rest => simp [List.dropWhile, h x rfl]

theorem head?_dropWhile {a : Type} (p : a -> Bool) (l : List a) :
    forall x, (l.dropWhile p).head? = some x -> p x = false := by
  induction l with
  | nil => simp
  | cons y rest ih =>
      intro x hx
      rw [List.dropWhile_cons] at hx
      split at hx
      · exact ih x hx
      · rename_i hy
        have hxy : y = x := by simpa using hx
        simpa [hxy] using hy

theorem trim_trim (l : List Char) : trim (trim l) = trim l := by
  have hback : forall x, (trim l).reverse.head? = some x ->
      isWhitespace x = false := by
    unfold trim
    rw [List.reverse_reverse]
    exact head?_dropWhile isWhitespace _
  have hfront : forall x, (trim l).head? = some x ->
      isWhitespace x = false := by
    intro x hx
    have hprefix : trim l <+: l.dropWhile isWhitespace := by
      unfold trim
      have := List.dropWhile_suffix isWhitespace
        (l := (l.dropWhile isWhitespace).reverse)
      simpa using List.reverse_prefix.mpr this
    rcases hprefix with ⟨tail, htail⟩
    apply head?_dropWhile isWhitespace l x
    rw [← htail, List.head?_append, hx]
    rfl
  have hdrop := dropWhile_of_head hfront
  have hdropBack := dropWhile_of_head hback
  show ((((trim l).dropWhile isWhitespace).reverse).dropWhile
    isWhitespace).reverse = trim l
  rw [hdrop, hdropBack, List.reverse_reverse]

def IssuerName.new (value : String) : Except IssuerNameError IssuerName :=
  let trimmed := trim value.toList
  if hempty : trimmed.length = 0 then
    .error .empty
  else if hlong : issuerNameMaxLen < trimmed.length then
    .error (.tooLong issuerNameMaxLen)
  else
    .ok
      { value := String.ofList trimmed
        trimmed := by simpa using trim_trim value.toList
        length_pos := by
          rw [String.toList_ofList]
          exact Nat.pos_of_ne_zero hempty
        length_le := by
          rw [String.toList_ofList]
          exact Nat.le_of_not_lt hlong }

def IssuerName.asStr (n : IssuerName) : String := n.value

theorem IssuerName.new_asStr (n : IssuerName) : IssuerName.new n.asStr = .ok n := by
  have hpos := n.length_pos
  have hle := n.length_le
  unfold IssuerName.new IssuerName.asStr
  simp only [n.trimmed]
  rw [dif_neg (Nat.ne_of_gt hpos), dif_neg (Nat.not_lt.mpr hle)]
  simp [String.ofList_toList]

/-- A trimmed name of at least one and at most `maxLen` characters. -/
structure TrimmedName (maxLen : Nat) where
  value : String
  trimmed : trim value.toList = value.toList
  length_pos : 0 < value.toList.length
  length_le : value.toList.length <= maxLen
deriving DecidableEq

namespace TrimmedName

variable {error : Type} {maxLen : Nat}

/-- The constructor that the other kinds of names share. -/
def new (empty : error) (tooLong : Nat -> error) (maxLen : Nat)
    (value : String) : Except error (TrimmedName maxLen) :=
  let trimmed := trim value.toList
  if hempty : trimmed.length = 0 then
    .error empty
  else if hlong : maxLen < trimmed.length then
    .error (tooLong maxLen)
  else
    .ok
      { value := String.ofList trimmed
        trimmed := by simpa using trim_trim value.toList
        length_pos := by
          rw [String.toList_ofList]
          exact Nat.pos_of_ne_zero hempty
        length_le := by
          rw [String.toList_ofList]
          exact Nat.le_of_not_lt hlong }

theorem new_value (empty : error) (tooLong : Nat -> error)
    (n : TrimmedName maxLen) : new empty tooLong maxLen n.value = .ok n := by
  have hpos := n.length_pos
  have hle := n.length_le
  unfold new
  simp only [n.trimmed]
  rw [dif_neg (Nat.ne_of_gt hpos), dif_neg (Nat.not_lt.mpr hle)]
  simp [String.ofList_toList]

end TrimmedName

structure IssuerId where
  uuid : Uuid
deriving DecidableEq, Repr

inductive IssuerStatus where
  | active
  | retired
deriving DecidableEq, Repr

def IssuerStatus.asStr : IssuerStatus -> String
  | active => "ACTIVE"
  | retired => "RETIRED"

inductive IssuerStatusError where
  | invalidStatus
deriving DecidableEq, Repr

def IssuerStatusError.message : IssuerStatusError -> String
  | invalidStatus =>
      "Invalid status. Must be one of: [\"ACTIVE\", \"RETIRED\"]"

def IssuerStatus.fromStr (s : String) :
    Except IssuerStatusError IssuerStatus :=
  let upper := toUppercase s
  if upper = "ACTIVE" then
    .ok .active
  else if upper = "RETIRED" then
    .ok .retired
  else
    .error .invalidStatus

theorem IssuerStatus.fromStr_asStr (status : IssuerStatus) :
    IssuerStatus.fromStr status.asStr = .ok status := by
  cases status with
  | active => decide +kernel
  | retired => decide +kernel

structure Issuer where
  id : IssuerId
  status : IssuerStatus
  createdAt : DateTime
  name : Option IssuerName
  cnpj : Option Cnpj
  lei : Option Lei
  countryCode : Option CountryCode
deriving DecidableEq

inductive IssuerBuilderError where
  | invalidCountryForCnpj (found : String)
  | nameError (e : IssuerNameError)
  | countryCodeError (e : CountryCodeError)
deriving DecidableEq, Repr

def IssuerBuilderError.message : IssuerBuilderError -> String
  | invalidCountryForCnpj found =>
      s!"If a CNPJ is provided, the country code must be BR (Brazil). Found: {found}"
  | nameError e => s!"Issuer name validation failed: {e.message}"
  | countryCodeError e => s!"country code validation failed: {e.message}"

structure IssuerBuilder where
  id : Option IssuerId
  status : Option IssuerStatus
  createdAt : Option DateTime
  name : Option IssuerName
  cnpj : Option Cnpj
  lei : Option Lei
  countryCode : Option CountryCode
deriving DecidableEq

namespace IssuerBuilder

def new : IssuerBuilder where
  id := none
  status := none
  createdAt := none
  name := none
  cnpj := none
  lei := none
  countryCode := none

/-- The cross-field rule of `build`: a CNPJ implies `BR`. -/
def resolveCountry (cnpj : Option Cnpj) (countryCode : Option CountryCode) :
    Except IssuerBuilderError (Option CountryCode) :=
  match cnpj, countryCode with
  | some _, some code =>
      if code.asStr ≠ brazilCountryCode then
        .error (.invalidCountryForCnpj code.asStr)
      else
        .ok (some code)
  | some _, none =>
      match CountryCode.fromStr brazilCountryCode with
      | .error e => .error (.countryCodeError e)
      | .ok code => .ok (some code)
  | none, code => .ok code

/-- `build`; `freshId` and `now` are what `IssuerId::new` and the clock give. -/
def build (freshId : IssuerId) (now : DateTime) (b : IssuerBuilder) :
    Except IssuerBuilderError Issuer :=
  match resolveCountry b.cnpj b.countryCode with
  | .error e => .error e
  | .ok countryCode =>
      .ok
        { id := b.id.getD freshId
          status := b.status.getD .active
          createdAt := b.createdAt.getD now
          name := b.name
          cnpj := b.cnpj
          lei := b.lei
          countryCode := countryCode }

end IssuerBuilder

/-- The issuer is one that `IssuerBuilder::build` accepts. -/
def Issuer.Accepted (issuer : Issuer) : Prop :=
  exists freshId now b, IssuerBuilder.build freshId now b = .ok issuer

theorem fromStr_brazil :
    exists code, CountryCode.fromStr brazilCountryCode = .ok code ∧
      code.asStr = brazilCountryCode := by
  have heval : (CountryCode.fromStr brazilCountryCode).map CountryCode.asStr =
      .ok brazilCountryCode := by decide +kernel
  cases hcode : CountryCode.fromStr brazilCountryCode with
  | error e =>
      rw [hcode] at heval
      cases heval
  | ok code =>
      rw [hcode] at heval
      exact ⟨code, rfl, Except.ok.inj heval⟩

theorem resolveCountry_brazil {cnpj : Cnpj}
    {countryCode resolved : Option CountryCode}
    (h : IssuerBuilder.resolveCountry (some cnpj) countryCode = .ok resolved) :
    resolved.map CountryCode.asStr = some brazilCountryCode := by
  rcases fromStr_brazil with ⟨brazil, hbrazil, hbr⟩
  unfold IssuerBuilder.resolveCountry at h
  rw [hbrazil] at h
  cases countryCode with
  | none =>
      have hresolved : some brazil = resolved := Except.ok.inj h
      rw [← hresolved, Option.map_some, hbr]
  | some code =>
      simp only at h
      split at h
      · cases h
      · rename_i hcode
        cases h
        simpa using hcode

theorem Issuer.Accepted.brazil {issuer : Issuer} (h : issuer.Accepted)
    (hcnpj : issuer.cnpj ≠ none) :
    issuer.countryCode.map CountryCode.asStr = some brazilCountryCode := by
  rcases h with ⟨freshId, now, b, hbuild⟩
  unfold IssuerBuilder.build at hbuild
  split at hbuild
  · cases hbuild
  · rename_i countryCode hresolve
    cases hbuild
    cases hb : b.cnpj with
    | none => exact absurd hb hcnpj
    | some cnpj =>
        rw [hb] at hresolve
        exact resolveCountry_brazil hresolve

theorem Issuer.Accepted.resolved {issuer : Issuer} (h : issuer.Accepted) :
    IssuerBuilder.resolveCountry issuer.cnpj issuer.countryCode =
      .ok issuer.countryCode := by
  cases hcnpj : issuer.cnpj with
  | none => rfl
  | some cnpj =>
      have hbrazil := h.brazil (by rw [hcnpj]; exact Option.some_ne_none cnpj)
      cases hcode : issuer.countryCode with
      | none =>
          rw [hcode] at hbrazil
          cases hbrazil
      | some code =>
          rw [hcode, Option.map_some, Option.some_inj] at hbrazil
          unfold IssuerBuilder.resolveCountry
          simp only
          rw [if_neg (not_not.mpr hbrazil)]

/-- The fields that a patch sets; the others keep their value. -/
structure IssuerPatch where
  name : Option IssuerName
  status : Option IssuerStatus
  cnpj : Option Cnpj
  lei : Option Lei
  countryCode : Option CountryCode
deriving DecidableEq

def IssuerPatch.empty : IssuerPatch where
  name := none
  status := none
  cnpj := none
  lei := none
  countryCode := none

/-!
## The repository interface and the services
-/

structure IssuerRepository (m : Type -> Type) (fault stored : Type) where
  findById : IssuerId -> LoadMode -> m (Except fault (Option stored))
  listAll : LoadMode -> m (Except fault (List stored))
  listPaged : Option IssuerId -> Nat -> LoadMode ->
    m (Except fault (List stored))
  exists_ : IssuerId -> m (Except fault Bool)
  existsByCnpj : Cnpj -> m (Except fault Bool)
  existsByLei : Lei -> m (Except fault Bool)
  insert : Issuer -> m (Except fault Unit)
  applyPatch : IssuerId -> Nat -> IssuerPatch ->
    m (Except fault WriteOutcome)
  update : Issuer -> Nat -> m (Except fault WriteOutcome)
  delete : IssuerId -> Nat -> m (Except fault WriteOutcome)

/-- `RegisterIssuerError` and `PatchIssuerError` have the same three cases. -/
inductive DuplicateIssuerError (fault : Type) where
  | duplicateCnpj
  | duplicateLei
  | storage (e : fault)
deriving DecidableEq, Repr

abbrev RegisterIssuerError := DuplicateIssuerError

abbrev PatchIssuerError := DuplicateIssuerError

namespace DuplicateIssuerError

def message {fault : Type} (display : fault -> String) :
    DuplicateIssuerError fault -> String
  | duplicateCnpj => "an issuer with this CNPJ already exists"
  | duplicateLei => "an issuer with this LEI already exists"
  | storage e => display e

end DuplicateIssuerError

section Services

variable {m : Type -> Type} [Monad m] {fault stored value : Type}

def isTaken {identifier : Type}
    (existsBy : identifier -> m (Except fault Bool)) :
    Option identifier -> m (Except fault Bool)
  | none => pure (.ok false)
  | some i => existsBy i

/--
The guard that `register_issuer` and `patch_issuer` put before their write: the
CNPJ and the LEI, where there is one, must not be taken.
-/
def withDuplicateCheck (repo : IssuerRepository m fault stored)
    (cnpj : Option Cnpj) (lei : Option Lei)
    (write : m (Except fault value)) :
    m (Except (DuplicateIssuerError fault) value) := do
  let taken ← isTaken repo.existsByCnpj cnpj
  match taken with
  | .error e => pure (.error (.storage e))
  | .ok true => pure (.error .duplicateCnpj)
  | .ok false =>
      let taken ← isTaken repo.existsByLei lei
      match taken with
      | .error e => pure (.error (.storage e))
      | .ok true => pure (.error .duplicateLei)
      | .ok false =>
          let written ← write
          pure (written.mapError .storage)

def registerIssuer (repo : IssuerRepository m fault stored)
    (issuer : Issuer) : m (Except (RegisterIssuerError fault) Unit) :=
  withDuplicateCheck repo issuer.cnpj issuer.lei (repo.insert issuer)

def patchIssuer (repo : IssuerRepository m fault stored) (id : IssuerId)
    (expectedVersion : Nat) (patch : IssuerPatch) :
    m (Except (PatchIssuerError fault) WriteOutcome) :=
  withDuplicateCheck repo patch.cnpj patch.lei
    (repo.applyPatch id expectedVersion patch)

def deleteIssuer (repo : IssuerRepository m fault stored) (id : IssuerId)
    (expectedVersion : Nat) : m (Except fault WriteOutcome) :=
  repo.delete id expectedVersion

def getIssuer (repo : IssuerRepository m fault stored) (id : IssuerId)
    (mode : LoadMode) : m (Except fault (Option stored)) :=
  repo.findById id mode

def listIssuers (repo : IssuerRepository m fault stored)
    (after : Option IssuerId) (limit : Nat) (mode : LoadMode) :
    m (Except fault (List stored)) :=
  repo.listPaged after limit mode

end Services

end Domain
end Valqeron
