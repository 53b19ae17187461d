import Valqeron.Domain.Issuer
import Valqeron.Identifiers.Cfi
import Valqeron.Identifiers.Isin

/-!
# Securities

The security, its builder with the rules that tie an underlying security and a
ratio to depositary receipts, and its patches.  `reconstitute` skips the rules.
-/

namespace Valqeron
namespace Domain

open Foundation
open Identifiers

def securityNameMaxLen : Nat := 200

inductive SecurityNameError where
  | empty
  | tooLong (max : Nat)
deriving DecidableEq, Repr

def SecurityNameError.message : SecurityNameError -> String
  | empty => "security name cannot be empty"
  | tooLong max => s!"security name exceeds maximum length of {max} characters"

abbrev SecurityName := TrimmedName securityNameMaxLen

def SecurityName.new (value : String) :
    Except SecurityNameError SecurityName :=
  TrimmedName.new .empty .tooLong securityNameMaxLen value

def SecurityName.asStr (n : SecurityName) : String := n.value

theorem SecurityName.new_asStr (n : SecurityName) :
    SecurityName.new n.asStr = .ok n :=
  TrimmedName.new_value _ _ n

structure SecurityId where
  uuid : Uuid
deriving DecidableEq, Repr

inductive SecurityKind where
  | commonShare
  | preferredShare
  | unit
  | depositaryReceipt
deriving DecidableEq, Repr

inductive SecurityKindError where
  | invalidKind
deriving DecidableEq, Repr

def SecurityKindError.message : SecurityKindError -> String
  | invalidKind =>
      "Invalid kind. Must be one of: [\"COMMON_SHARE\", \"PREFERRED_SHARE\", \"UNIT\", \"DEPOSITARY_RECEIPT\"]"

namespace SecurityKind

def isDepositaryReceipt : SecurityKind -> Bool
  | depositaryReceipt => true
  | _ => false

def asStr : SecurityKind -> String
  | commonShare => "COMMON_SHARE"
  | preferredShare => "PREFERRED_SHARE"
  | unit => "UNIT"
  | depositaryReceipt => "DEPOSITARY_RECEIPT"

def fromStr (s : String) : Except SecurityKindError SecurityKind :=
  let upper := toUppercase s
  if upper = "COMMON_SHARE" then
    .ok .commonShare
  else if upper = "PREFERRED_SHARE" then
    .ok .preferredShare
  else if upper = "UNIT" then
    .ok .unit
  else if upper = "DEPOSITARY_RECEIPT" then
    .ok .depositaryReceipt
  else
    .error .invalidKind

theorem fromStr_asStr (kind : SecurityKind) :
    fromStr kind.asStr = .ok kind := by
  cases kind with
  | commonShare => decide +kernel
  | preferredShare => decide +kernel
  | unit => decide +kernel
  | depositaryReceipt => decide +kernel

end SecurityKind

inductive SecurityStatus where
  | active
  | retired
deriving DecidableEq, Repr

inductive SecurityStatusError where
  | invalidStatus
deriving DecidableEq, Repr

def SecurityStatusError.message : SecurityStatusError -> String
  | invalidStatus =>
      "Invalid status. Must be one of: [\"ACTIVE\", \"RETIRED\"]"

namespace SecurityStatus

def asStr : SecurityStatus -> String
  | active => "ACTIVE"
  | retired => "RETIRED"

def fromStr (s : String) : Except SecurityStatusError SecurityStatus :=
  let upper := toUppercase s
  if upper = "ACTIVE" then
    .ok .active
  else if upper = "RETIRED" then
    .ok .retired
  else
    .error .invalidStatus

theorem fromStr_asStr (status : SecurityStatus) :
    fromStr status.asStr = .ok status := by
  cases status with
  | active => decide +kernel
  | retired => decide +kernel

end SecurityStatus

/-- Both sides are a `NonZeroU32`. -/
structure DepositaryReceiptRatio where
  receipts : UInt32
  underlying : UInt32
  receipts_ne : receipts ≠ 0
  underlying_ne : underlying ≠ 0
deriving DecidableEq

inductive DrRatioError where
  | zeroReceipts
  | zeroUnderlying
deriving DecidableEq, Repr

def DrRatioError.message : DrRatioError -> String
  | zeroReceipts =>
      "depositary receipt ratio requires a non-zero receipts side"
  | zeroUnderlying =>
      "depositary receipt ratio requires a non-zero underlying side"

def DepositaryReceiptRatio.new (receipts underlying : UInt32) :
    Except DrRatioError DepositaryReceiptRatio :=
  if hreceipts : receipts = 0 then
    .error .zeroReceipts
  else if hunderlying : underlying = 0 then
    .error .zeroUnderlying
  else
    .ok
      { receipts := receipts
        underlying := underlying
        receipts_ne := hreceipts
        underlying_ne := hunderlying }

theorem DepositaryReceiptRatio.new_sides (r : DepositaryReceiptRatio) :
    DepositaryReceiptRatio.new r.receipts r.underlying = .ok r := by
  unfold DepositaryReceiptRatio.new
  rw [dif_neg r.receipts_ne, dif_neg r.underlying_ne]

structure Security where
  id : SecurityId
  issuerId : IssuerId
  kind : SecurityKind
  status : SecurityStatus
  createdAt : DateTime
  name : Option SecurityName
  isin : Option Isin
  cfi : Option Cfi
  underlyingSecurityId : Option SecurityId
  drRatio : Option DepositaryReceiptRatio
deriving DecidableEq

/-- The fields of a stored security, which `reconstitute` takes as they are. -/
structure SecuritySnapshot where
  id : SecurityId
  issuerId : IssuerId
  kind : SecurityKind
  status : SecurityStatus
  createdAt : DateTime
  name : Option SecurityName
  isin : Option Isin
  cfi : Option Cfi
  underlyingSecurityId : Option SecurityId
  drRatio : Option DepositaryReceiptRatio
deriving DecidableEq

def Security.reconstitute (snapshot : SecuritySnapshot) : Security where
  id := snapshot.id
  issuerId := snapshot.issuerId
  kind := snapshot.kind
  status := snapshot.status
  createdAt := snapshot.createdAt
  name := snapshot.name
  isin := snapshot.isin
  cfi := snapshot.cfi
  underlyingSecurityId := snapshot.underlyingSecurityId
  drRatio := snapshot.drRatio

structure SecurityBuilder where
  issuerId : IssuerId
  kind : SecurityKind
  id : Option SecurityId
  status : Option SecurityStatus
  createdAt : Option DateTime
  name : Option SecurityName
  isin : Option Isin
  cfi : Option Cfi
  underlyingSecurityId : Option SecurityId
  drRatio : Option DepositaryReceiptRatio
deriving DecidableEq

inductive SecurityBuilderError where
  | underlyingRequiresDepositaryReceipt (found : String)
  | drRatioRequiresDepositaryReceipt (found : String)
  | selfUnderlying
deriving DecidableEq, Repr

def SecurityBuilderError.message : SecurityBuilderError -> String
  | underlyingRequiresDepositaryReceipt found =>
      s!"An underlying security may only be set on a DEPOSITARY_RECEIPT security. Found: {found}"
  | drRatioRequiresDepositaryReceipt found =>
      s!"A depositary receipt ratio may only be set on a DEPOSITARY_RECEIPT security. Found: {found}"
  | selfUnderlying => "a security cannot reference itself as its underlying"

namespace SecurityBuilder

def new (issuerId : IssuerId) (kind : SecurityKind) : SecurityBuilder where
  issuerId := issuerId
  kind := kind
  id := none
  status := none
  createdAt := none
  name := none
  isin := none
  cfi := none
  underlyingSecurityId := none
  drRatio := none

/-- `build`; `freshId` and `now` are what `SecurityId::new` and the clock give. -/
def build (freshId : SecurityId) (now : DateTime) (b : SecurityBuilder) :
    Except SecurityBuilderError Security :=
  let id := b.id.getD freshId
  if !b.kind.isDepositaryReceipt && b.underlyingSecurityId.isSome then
    .error (.underlyingRequiresDepositaryReceipt b.kind.asStr)
  else if !b.kind.isDepositaryReceipt && b.drRatio.isSome then
    .error (.drRatioRequiresDepositaryReceipt b.kind.asStr)
  else if b.underlyingSecurityId = some id then
    .error .selfUnderlying
  else
    .ok
      { id := id
        issuerId := b.issuerId
        kind := b.kind
        status := b.status.getD .active
        createdAt := b.createdAt.getD now
        name := b.name
        isin := b.isin
        cfi := b.cfi
        underlyingSecurityId := b.underlyingSecurityId
        drRatio := b.drRatio }

end SecurityBuilder

def Security.Accepted (security : Security) : Prop :=
  exists freshId now b, SecurityBuilder.build freshId now b = .ok security

theorem Security.accepted_iff {security : Security} :
    security.Accepted <->
      (security.kind ≠ .depositaryReceipt ->
        security.underlyingSecurityId = none ∧ security.drRatio = none) ∧
      security.underlyingSecurityId ≠ some security.id := by
  constructor
  · intro h
    rcases h with ⟨freshId, now, b, hbuild⟩
    unfold SecurityBuilder.build at hbuild
    simp only at hbuild
    split at hbuild
    · cases hbuild
    · rename_i hunderlying
      split at hbuild
      · cases hbuild
      · rename_i hratio
        split at hbuild
        · cases hbuild
        · rename_i hself
          cases hbuild
          refine ⟨?_, hself⟩
          intro hkind
          cases hk : b.kind <;>
            simp_all [SecurityKind.isDepositaryReceipt]
  · intro h
    refine ⟨security.id, security.createdAt,
      { issuerId := security.issuerId
        kind := security.kind
        id := some security.id
        status := some security.status
        createdAt := some security.createdAt
        name := security.name
        isin := security.isin
        cfi := security.cfi
        underlyingSecurityId := security.underlyingSecurityId
        drRatio := security.drRatio }, ?_⟩
    have hnone : (!security.kind.isDepositaryReceipt) = true ->
        security.underlyingSecurityId = none ∧ security.drRatio = none := by
      intro hkind
      apply h.left
      intro heq
      rw [heq] at hkind
      cases hkind
    unfold SecurityBuilder.build
    simp only [Option.getD_some]
    rw [if_neg, if_neg, if_neg h.right]
    · intro hboth
      rw [Bool.and_eq_true] at hboth
      rw [(hnone hboth.left).right] at hboth
      cases hboth.right
    · intro hboth
      rw [Bool.and_eq_true] at hboth
      rw [(hnone hboth.left).left] at hboth
      cases hboth.right

/-- The fields that a patch sets; the others keep their value. -/
structure SecurityPatch where
  name : Option SecurityName
  status : Option SecurityStatus
  isin : Option Isin
  cfi : Option Cfi
  drRatio : Option DepositaryReceiptRatio
deriving DecidableEq

def SecurityPatch.empty : SecurityPatch where
  name := none
  status := none
  isin := none
  cfi := none
  drRatio := none

/-- What the registration of a listing asks of the securities. -/
structure SecurityRepository (m : Type -> Type) (fault : Type) where
  exists_ : SecurityId -> m (Except fault Bool)

end Domain
end Valqeron
