import Valqeron.Domain.Security

/-!
# Issuers with their securities

An issuer as its readers get it: its own fields, and its securities where they
have been loaded.
-/

namespace Valqeron
namespace Domain

/-- The fields of a stored issuer, which `reconstitute` takes as they are. -/
structure IssuerSnapshot where
  issuer : Issuer
  securities : Loading (List Security)
deriving DecidableEq

structure HydratedIssuer where
  issuer : Issuer
  securities : Loading (List Security)
deriving DecidableEq

def HydratedIssuer.reconstitute (snapshot : IssuerSnapshot) :
    HydratedIssuer where
  issuer := snapshot.issuer
  securities := snapshot.securities

/-- `build`; a freshly registered issuer factually has no securities yet. -/
def IssuerBuilder.buildHydrated (freshId : IssuerId) (now : DateTime)
    (b : IssuerBuilder) : Except IssuerBuilderError HydratedIssuer :=
  (b.build freshId now).map (fun issuer =>
    { issuer := issuer, securities := .loaded [] })

theorem IssuerBuilder.securities_of_buildHydrated {freshId : IssuerId}
    {now : DateTime} {b : IssuerBuilder} {h : HydratedIssuer}
    (hbuild : b.buildHydrated freshId now = .ok h) :
    h.securities = .loaded [] := by
  unfold buildHydrated at hbuild
  cases hissuer : b.build freshId now with
  | error e =>
      rw [hissuer] at hbuild
      cases hbuild
  | ok issuer =>
      rw [hissuer] at hbuild
      cases hbuild
      rfl

end Domain
end Valqeron
