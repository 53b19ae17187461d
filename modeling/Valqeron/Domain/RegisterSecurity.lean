import Valqeron.Domain.Security

/-!
# Registration of a security

`register_security` asks two repositories for what the security refers to and for
its ISIN before it inserts.  Each question is a call of its own.
-/

namespace Valqeron
namespace Domain

open Identifiers

inductive RegisterSecurityError (fault : Type) where
  | unknownIssuer
  | duplicateIsin
  | unknownUnderlyingSecurity
  | storage (e : fault)
deriving DecidableEq, Repr

def RegisterSecurityError.message {fault : Type} (display : fault -> String) :
    RegisterSecurityError fault -> String
  | unknownIssuer => "the referenced issuer does not exist"
  | duplicateIsin => "a security with this ISIN already exists"
  | unknownUnderlyingSecurity =>
      "the referenced underlying security does not exist"
  | storage e => display e

/-- What the registration of a security asks of the securities. -/
structure SecurityRegister (m : Type -> Type) (fault : Type) extends
    SecurityRepository m fault where
  existsByIsin : Isin -> m (Except fault Bool)
  insert : Security -> m (Except fault Unit)

section Services

variable {m : Type -> Type} [Monad m] {fault stored : Type}

def isMissing (exists_ : SecurityId -> m (Except fault Bool)) :
    Option SecurityId -> m (Except fault Bool)
  | none => pure (.ok false)
  | some id => do
      let found ← exists_ id
      pure (found.map not)

def registerSecurity (securities : SecurityRegister m fault)
    (issuers : IssuerRepository m fault stored) (security : Security) :
    m (Except (RegisterSecurityError fault) Unit) := do
  let known ← issuers.exists_ security.issuerId
  match known with
  | .error e => pure (.error (.storage e))
  | .ok false => pure (.error .unknownIssuer)
  | .ok true =>
      let taken ← isTaken securities.existsByIsin security.isin
      match taken with
      | .error e => pure (.error (.storage e))
      | .ok true => pure (.error .duplicateIsin)
      | .ok false =>
          let missing ← isMissing securities.exists_
            security.underlyingSecurityId
          match missing with
          | .error e => pure (.error (.storage e))
          | .ok true => pure (.error .unknownUnderlyingSecurity)
          | .ok false =>
              let inserted ← securities.insert security
              pure (inserted.mapError .storage)

end Services

/-- The same repository in another monad. -/
def IssuerRepository.lift {m n : Type -> Type} {fault stored : Type}
    (f : forall {value : Type}, m value -> n value)
    (repo : IssuerRepository m fault stored) :
    IssuerRepository n fault stored where
  findById := fun id mode => f (repo.findById id mode)
  listAll := fun mode => f (repo.listAll mode)
  listPaged := fun after limit mode => f (repo.listPaged after limit mode)
  exists_ := fun id => f (repo.exists_ id)
  existsByCnpj := fun cnpj => f (repo.existsByCnpj cnpj)
  existsByLei := fun lei => f (repo.existsByLei lei)
  insert := fun issuer => f (repo.insert issuer)
  applyPatch := fun id expectedVersion patch =>
    f (repo.applyPatch id expectedVersion patch)
  update := fun issuer expectedVersion => f (repo.update issuer expectedVersion)
  delete := fun id expectedVersion => f (repo.delete id expectedVersion)

end Domain
end Valqeron
