import Valqeron.Domain.Issuer
import Valqeron.Foundation.Decoding
import Valqeron.Foundation.Json

/-!
# Registering an issuer from the command line

The issuer is put together from a JSON document and the flags, where a flag wins
over the document.  The status flag has a default that the argument parser fills
in, so the status of the document never arrives.
-/

namespace Valqeron
namespace Cli

open Foundation
open Domain
open Identifiers

structure RegisterArgs where
  name : Option String
  status : Option String
  cnpj : Option String
  lei : Option String
  countryCode : Option String
deriving DecidableEq, Repr

def RegisterArgs.none : RegisterArgs where
  name := .none
  status := .none
  cnpj := .none
  lei := .none
  countryCode := .none

/-- `default_value` of the status flag. -/
def statusDefault : String := "ACTIVE"

/-- What the argument parser makes of the flags that the user gives. -/
def RegisterArgs.parsed (given : RegisterArgs) : RegisterArgs :=
  { given with status := some (given.status.getD statusDefault) }

structure IssuerInput where
  name : Option String
  status : Option String
  cnpj : Option String
  lei : Option String
  countryCode : Option String
deriving DecidableEq, Repr

inductive RegisterError where
  | input (e : Json.DecodeError)
  | name (e : IssuerNameError)
  | status (e : IssuerStatusError)
  | cnpj (e : CnpjError)
  | lei (e : LeiError)
  | countryCode (e : CountryCodeError)
  | builder (e : IssuerBuilderError)
deriving DecidableEq, Repr

namespace IssuerInput

def default : IssuerInput where
  name := none
  status := none
  cnpj := none
  lei := none
  countryCode := none

/-- `serde_json::from_value` -/
def fromValue (value : Json) : Except Json.DecodeError IssuerInput := do
  let fields ←
    Json.decodeFields ["name", "status", "cnpj", "lei", "country_code"] value
  let field := fun key => (fields.lookup key).join
  pure
    { name := field "name"
      status := field "status"
      cnpj := field "cnpj"
      lei := field "lei"
      countryCode := field "country_code" }

def mergeFlags (self : IssuerInput)
    (name status cnpj lei countryCode : Option String) : IssuerInput :=
  let self := if name.isSome then { self with name := name } else self
  let self := if status.isSome then { self with status := status } else self
  let self := if cnpj.isSome then { self with cnpj := cnpj } else self
  let self := if lei.isSome then { self with lei := lei } else self
  if countryCode.isSome then { self with countryCode := countryCode } else self

section Build

variable (freshId : IssuerId) (now : DateTime)

def intoIssuer (self : IssuerInput) : Except RegisterError Issuer := do
  let name ← decodeOptional .name IssuerName.new self.name
  let status ← decodeOptional .status IssuerStatus.fromStr self.status
  let cnpj ← decodeOptional .cnpj Cnpj.parse self.cnpj
  let lei ← decodeOptional .lei Lei.parse self.lei
  let countryCode ←
    decodeOptional .countryCode CountryCode.parse self.countryCode
  let builder : IssuerBuilder :=
    { IssuerBuilder.new with
      name := name
      status := status
      cnpj := cnpj
      lei := lei
      countryCode := countryCode }
  (builder.build freshId now).mapError .builder

end Build

end IssuerInput

def readInput : Option Json -> Except RegisterError IssuerInput
  | none => .ok .default
  | some value => (IssuerInput.fromValue value).mapError .input

section Register

variable (freshId : IssuerId) (now : DateTime)

/-- `RegisterArgs::execute` up to the request that it sends. -/
def RegisterArgs.execute (args : RegisterArgs) (input : Option Json) :
    Except RegisterError Issuer := do
  let base ← readInput input
  let merged := base.mergeFlags args.name args.status args.cnpj args.lei
    args.countryCode
  merged.intoIssuer freshId now

def register (given : RegisterArgs) (input : Option Json) :
    Except RegisterError Issuer :=
  given.parsed.execute freshId now input

end Register

/-!
## What the user asks for
-/

def ReadsAs {error value : Type} (parse : String -> Except error value)
    (text : Option String) (field : Option value) : Prop :=
  decodeOptional id parse text = .ok field

/-- A flag first, then the document, then the default of the builder. -/
structure FollowsPrecedence (given : RegisterArgs) (base : IssuerInput)
    (issuer : Issuer) : Prop where
  name : ReadsAs IssuerName.new (given.name <|> base.name) issuer.name
  status : exists status,
    ReadsAs IssuerStatus.fromStr (given.status <|> base.status) status ∧
      issuer.status = status.getD .active
  cnpj : ReadsAs Cnpj.parse (given.cnpj <|> base.cnpj) issuer.cnpj
  lei : ReadsAs Lei.parse (given.lei <|> base.lei) issuer.lei
  countryCode : exists code,
    ReadsAs CountryCode.parse (given.countryCode <|> base.countryCode) code ∧
      IssuerBuilder.resolveCountry issuer.cnpj code = .ok issuer.countryCode

/-- The user gives the status, or the document has none but `ACTIVE`. -/
def StatusKept (given : RegisterArgs) (base : IssuerInput) : Prop :=
  given.status ≠ none ∨
    forall text, base.status = some text ->
      IssuerStatus.fromStr text = .ok .active

/-!
## What is registered
-/

theorem IssuerInput.mergeFlags_eq (self : IssuerInput)
    (name status cnpj lei countryCode : Option String) :
    self.mergeFlags name status cnpj lei countryCode =
      { name := name <|> self.name
        status := status <|> self.status
        cnpj := cnpj <|> self.cnpj
        lei := lei <|> self.lei
        countryCode := countryCode <|> self.countryCode } := by
  unfold IssuerInput.mergeFlags
  cases name <;> cases status <;> cases cnpj <;> cases lei <;>
    cases countryCode <;> rfl

theorem IssuerInput.intoIssuer_fields {freshId : IssuerId} {now : DateTime}
    {self : IssuerInput} {issuer : Issuer}
    (h : self.intoIssuer freshId now = .ok issuer) :
    ReadsAs IssuerName.new self.name issuer.name ∧
      (exists status, ReadsAs IssuerStatus.fromStr self.status status ∧
        issuer.status = status.getD .active) ∧
      ReadsAs Cnpj.parse self.cnpj issuer.cnpj ∧
      ReadsAs Lei.parse self.lei issuer.lei ∧
      exists code, ReadsAs CountryCode.parse self.countryCode code ∧
        IssuerBuilder.resolveCountry issuer.cnpj code =
          .ok issuer.countryCode := by
  unfold IssuerInput.intoIssuer at h
  rcases bind_eq_ok.mp h with ⟨name, hname, h⟩
  rcases bind_eq_ok.mp h with ⟨status, hstatus, h⟩
  rcases bind_eq_ok.mp h with ⟨cnpj, hcnpj, h⟩
  rcases bind_eq_ok.mp h with ⟨lei, hlei, h⟩
  rcases bind_eq_ok.mp h with ⟨code, hcode, h⟩
  have hbuild : IssuerBuilder.build freshId now
      { IssuerBuilder.new with
        name := name
        status := status
        cnpj := cnpj
        lei := lei
        countryCode := code } = .ok issuer := by
    simp only at h
    cases hbuilt : IssuerBuilder.build freshId now _ with
    | error e =>
        rw [hbuilt] at h
        cases h
    | ok built =>
        rw [hbuilt] at h
        cases h
        rfl
  unfold IssuerBuilder.build at hbuild
  split at hbuild
  · cases hbuild
  · rename_i countryCode hresolve
    cases hbuild
    exact ⟨decodeOptional_wrap.mp hname,
      ⟨status, decodeOptional_wrap.mp hstatus, rfl⟩,
      decodeOptional_wrap.mp hcnpj, decodeOptional_wrap.mp hlei,
      ⟨code, decodeOptional_wrap.mp hcode, hresolve⟩⟩

/-- A status that the document gives is lost, unless it is the default. -/
theorem status_kept_iff {given : RegisterArgs} {base : IssuerInput}
    {status : IssuerStatus}
    (h : exists read, ReadsAs IssuerStatus.fromStr
      (given.parsed.status <|> base.status) read ∧
        status = read.getD .active) :
    (exists read, ReadsAs IssuerStatus.fromStr
        (given.status <|> base.status) read ∧ status = read.getD .active) <->
      StatusKept given base := by
  unfold RegisterArgs.parsed at h
  unfold StatusKept
  cases hgiven : given.status with
  | some text =>
      rw [hgiven] at h
      exact iff_of_true h (Or.inl (by simp))
  | none =>
      rw [hgiven] at h
      rcases h with ⟨read, hread, rfl⟩
      have hactive : read = some .active := by
        rcases decodeOptional_some_eq_ok_iff.mp hread with ⟨x, hx, rfl⟩
        have hdefault : IssuerStatus.fromStr statusDefault = .ok .active :=
          IssuerStatus.fromStr_asStr .active
        rw [Option.getD_none, hdefault] at hx
        cases hx
        rfl
      subst hactive
      show (exists read, ReadsAs IssuerStatus.fromStr base.status read ∧
        IssuerStatus.active = read.getD .active) <-> _
      cases hbase : base.status with
      | none =>
          apply iff_of_true
          · exact ⟨none, rfl, rfl⟩
          · exact Or.inr (fun text h => nomatch h)
      | some text =>
          constructor
          · intro hgiven
            rcases hgiven with ⟨read, hread, hstatus⟩
            rcases decodeOptional_some_eq_ok_iff.mp hread with ⟨x, hx, rfl⟩
            right
            intro text' h
            cases h
            rw [hx]
            exact congrArg Except.ok hstatus.symm
          · intro hgiven
            rcases hgiven with h | h
            · exact absurd rfl h
            · exact ⟨some .active,
                decodeOptional_some_eq_ok_iff.mpr ⟨.active, h text rfl, rfl⟩,
                rfl⟩

/--
What is registered follows the flags and then the document exactly when no
status of the document is lost.
-/
theorem register_follows_iff (freshId : IssuerId) (now : DateTime)
    (given : RegisterArgs) (input : Option Json) (base : IssuerInput)
    (issuer : Issuer) (hbase : readInput input = .ok base)
    (h : register freshId now given input = .ok issuer) :
    FollowsPrecedence given base issuer <-> StatusKept given base := by
  unfold register RegisterArgs.execute at h
  rw [hbase] at h
  have hmerged : (base.mergeFlags given.parsed.name given.parsed.status
      given.parsed.cnpj given.parsed.lei given.parsed.countryCode).intoIssuer
        freshId now = .ok issuer := h
  rw [IssuerInput.mergeFlags_eq] at hmerged
  rcases IssuerInput.intoIssuer_fields hmerged with
    ⟨hname, hstatus, hcnpj, hlei, hcode⟩
  have hkept := status_kept_iff hstatus
  constructor
  · intro hfollows
    exact hkept.mp hfollows.status
  · intro hcondition
    exact ⟨hname, hkept.mpr hcondition, hcnpj, hlei, hcode⟩

/-- The document asks for a retired issuer and no flag is given. -/
def retiredDocument : Json := .object [("status", .string "RETIRED")]

def retiredInput : IssuerInput :=
  { IssuerInput.default with status := some "RETIRED" }

def registeredIssuer : Issuer where
  id := { uuid := 1 }
  status := .active
  createdAt := { seconds := 0, nanos := 0 }
  name := none
  cnpj := none
  lei := none
  countryCode := none

theorem readInput_retiredDocument :
    readInput (some retiredDocument) = .ok retiredInput := by
  decide

theorem register_retiredDocument :
    register { uuid := 1 } { seconds := 0, nanos := 0 } .none
      (some retiredDocument) = .ok registeredIssuer := by
  decide +kernel

theorem retiredDocument_lost :
    Not (forall freshId now given input base issuer,
      readInput input = .ok base ->
        register freshId now given input = .ok issuer ->
          FollowsPrecedence given base issuer) := by
  intro h
  have hfollows := h { uuid := 1 } { seconds := 0, nanos := 0 } .none _ _ _
    readInput_retiredDocument register_retiredDocument
  rcases hfollows.status with ⟨status, hread, hstatus⟩
  have hretired : IssuerStatus.fromStr "RETIRED" = .ok .retired :=
    IssuerStatus.fromStr_asStr .retired
  rcases decodeOptional_some_eq_ok_iff.mp hread with ⟨x, hx, rfl⟩
  rw [hretired] at hx
  cases hx
  cases hstatus

theorem register_follows_retiredDocument :
    Not (FollowsPrecedence .none retiredInput registeredIssuer) := by
  rw [register_follows_iff { uuid := 1 } { seconds := 0, nanos := 0 } .none
    (some retiredDocument) retiredInput registeredIssuer
    readInput_retiredDocument register_retiredDocument]
  intro hgiven
  rcases hgiven with h | h
  · exact h rfl
  · have hretired : IssuerStatus.fromStr "RETIRED" = .ok .retired :=
      IssuerStatus.fromStr_asStr .retired
    rw [h "RETIRED" rfl] at hretired
    cases hretired

end Cli
end Valqeron
